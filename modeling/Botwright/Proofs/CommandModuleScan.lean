import Botwright.Proofs.HandlerScan
import Botwright.Project.CommandModule

/-! No text of a specification can break the module that answers its commands:
it scans from end to end, whatever the names, labels, formats, paths, replies,
endpoints and addresses say. Only code that the user wrote can. -/
namespace Botwright.CommandModuleScan
open Script Reply Project SourceScan SourceLayout LiteralScan HandlerScan

theorem stands_heading (spec : Spec) : Stands [] (heading spec) [] := by
  have title : Leads start ("// Command handlers for " ++ commentText spec.bot.name ++ ".")
      ⟨.lineComment, []⟩ :=
    ((leads_fixed rfl).append (leads_comment_text spec.bot.name)).fixed rfl
  have notice : Leads start
      "// Generated by BotForge. Edit the bot specification and regenerate instead."
      ⟨.lineComment, []⟩ := leads_fixed (by decide +kernel)
  exact (stands_comment title).cons ((stands_comment notice).cons stands_blank)

theorem stands_build_url : Stands [] [buildUrl] [] := by
  have query : Stands [] [.block "if (endpoint.startsWith('?') || endpoint.startsWith('#')) \x7b"
      "\x7d" [.line "return new URL(base + endpoint);"]] [] :=
    stands_enclosed [.curly] (leads_fixed rfl) (stands_quiet (leads_fixed rfl)) (leads_fixed rfl)
  exact stands_enclosed [.curly] (leads_fixed rfl)
    ((stands_quiet (leads_fixed rfl)).cons (query.cons (stands_quiet (leads_fixed rfl))))
    (leads_fixed rfl)

theorem stands_handler_table (spec : Spec) : Stands [] [handlerTable spec] [] := by
  have entries : Stands [] (spec.commands.map tableEntry) [] := by
    apply stands_map
    intro command _
    have key := quiet_string_literal command.name
    have handler := quiet_handler_name command.name
    exact stands_quiet (((Leads.fixed key rfl).insert handler).fixed rfl)
  exact stands_enclosed [.curly] (leads_fixed rfl) entries (leads_fixed rfl)

theorem stands_dispatch (locale : Locale) : Stands [] (dispatch locale) [] := by
  have limit : Quiet ("const MAX_CONTENT_LENGTH = " ++
      String.ofList (Text.decimal maxContentLength) ++ ";") :=
    ((leads_fixed rfl).insert (quiet_decimal _)).fixed rfl
  have unknown : Stands [] [.block "if (!Object.hasOwn(handlers, name)) \x7b" "\x7d"
      [returnContent (stringLiteral (Messages.of locale).unknownCommand)]] [] :=
    stands_enclosed [.curly] (leads_fixed rfl) (stands_return_content (quiet_string_literal _))
      (leads_fixed rfl)
  have cut : Stands [] [.block ("if (typeof payload?.content === 'string' && " ++
      "payload.content.length > MAX_CONTENT_LENGTH) \x7b") "\x7d"
      [.line "payload.content = payload.content.slice(0, MAX_CONTENT_LENGTH - 3) + '...';"]] [] :=
    stands_enclosed [.curly] ((leads_fixed rfl).fixed rfl)
      (stands_quiet (leads_fixed (by decide +kernel))) (leads_fixed rfl)
  have comment : Stands [] [.line "/** Runs the handler registered for `name`. */"] [] :=
    stands_quiet (leads_fixed rfl)
  exact (stands_quiet limit).cons (stands_blank.cons (comment.cons
    (stands_enclosed [.curly] (leads_fixed (by decide +kernel))
      (unknown.cons (Stands.cons (stands_quiet (leads_fixed rfl))
        (cut.cons (stands_quiet (leads_fixed rfl))))) (leads_fixed rfl))))

/-- A module scans to its end in plain code, outside every comment and literal and
with every bracket closed, unless a command brings code of its own. -/
theorem command_module_scans (style : Style) (spec : Spec)
    (generated : ∀ command ∈ spec.commands, command.snippet? = none) :
    scan start (commandModule style spec).toList = some ⟨.code, []⟩ := by
  have handlers : Stands []
      (spec.commands.flatMap fun command => [handler style spec command, .blank]) [] :=
    stands_flat_map fun command member =>
      (stands_handler style spec (generated command member)).cons stands_blank
  have helper : Stands [] (if callsApi spec then [buildUrl, .blank] else []) [] := by
    split
    · exact stands_build_url.cons stands_blank
    · exact stands_nil
  have table := (stands_handler_table spec).cons stands_blank
  have whole := ((((stands_heading spec).append helper).append handlers).append table).append
    (stands_dispatch style.locale)
  rw [commandModule, Code.render, String.toList_ofList]
  exact whole 0 true

/-- A specification that tries every escaping: quotes, backslashes, line ends, comment
marks, backticks, and dollar signs in front of braces. -/
def hostileSample : Spec where
  bot := ⟨"*/ `'\n$\x7b", "", none, none, none, .interactions⟩
  profiles := [⟨"api", "", "'\\'; // ", .bearer, none, none, "a-b']", "\u2028"⟩]
  commands :=
    [⟨"1", "it's\n`$\x7b\x7d", "", [⟨"`x\x7b", "", .string, true⟩], .staticText,
      some "$\x7b`x\x7b\x7d \\ \x7brandom(',`)\x7d $", none, none, none, none, none⟩,
     ⟨"2", "", "", [⟨"'", "", .string, false⟩], .apiCall, none, some "api",
      some "/\x7b'\x7d\\", some " \t",
      some [⟨"a.b[0].c d", "\"$", "$\x7bvalue\x7d `$\x7b$"⟩], some .embed⟩]

theorem hostile_sample_scans :
    (∀ command ∈ hostileSample.commands, command.snippet? = none) ∧
      scan start (commandModule ⟨.multiLine, .japanese⟩ hostileSample).toList = some ⟨.code, []⟩ :=
  have generated : ∀ command ∈ hostileSample.commands, command.snippet? = none := by decide
  ⟨generated, command_module_scans _ _ generated⟩

end Botwright.CommandModuleScan
