import Botwright.Proofs.HandlerScan
import Botwright.Proofs.RequestReading
import Botwright.Proofs.TemplateSplit
import Botwright.Spec.Preset
import Botwright.Spec.Warnings

/-! Static replies and the options that they read. A handler reads only the options whose
placeholders stand in its text as they are spelled, while white space around a name
inside a placeholder does not count where the text is filled in. -/
namespace Botwright.StaticReplies
open Script Reply Project LiteralReading TemplateReading TemplateSplit TemplateScan HandlerScan
  SnippetLocals StatementReading ModuleReading CodeLines OptionLocals RequestReading

/-! ## Placeholders of a text -/

def placeholders (text : String) : List StaticPlaceholder :=
  found staticPlaceholder? text.toList

/-- A text has a placeholder for a name. -/
def Names (text name : String) : Prop :=
  ∃ inner, .name inner ∈ placeholders text ∧ String.ofList (Text.trim inner) = name

/-! ## Which options matter -/

theorem mentions_iff : mentions text option = true ↔
    (placeholder option.name).toList <:+: text.toList :=
  Text.contains_iff

/-- A name is looked up alike among the mentioned options and among all of them just if
every option of that name is mentioned. -/
theorem find_mentioned_iff (text : String) (options : List BoundOption) (name : String) :
    (options.filter (mentions text)).find? (·.name = name) = options.find? (·.name = name) ↔
      ∀ option ∈ options, option.name = name → mentions text option = true := by
  constructor
  · intro same option member named
    have located : (options.find? (·.name = name)).isSome = true :=
      List.find?_isSome.mpr ⟨option, member, by simpa using named⟩
    obtain ⟨first, here⟩ := Option.isSome_iff_exists.mp located
    -- The first option of the name is found among the mentioned ones, so the name is mentioned.
    have kept := List.mem_of_find?_eq_some (same.trans here)
    have alike : first.name = name := by simpa using List.find?_some here
    have mentioned := (List.mem_filter.mp kept).2
    rwa [mentions_iff, alike, ← named, ← mentions_iff] at mentioned
  · intro mentioned
    induction options with
    | nil => rfl
    | cons first rest ih =>
      rw [List.forall_mem_cons] at mentioned
      by_cases named : first.name = name
      · rw [List.filter_cons_of_pos (mentioned.1 named), List.find?_cons_of_pos (by simpa),
          List.find?_cons_of_pos (by simpa)]
      · rw [List.find?_cons_of_neg (by simpa), ← ih mentioned.2]
        by_cases held : mentions text first = true
        · rw [List.filter_cons_of_pos held, List.find?_cons_of_neg (by simpa)]
        · rw [List.filter_cons_of_neg held]

theorem fill_agrees_iff (text : String) (options : List BoundOption) (inner : List Char) :
    fillStatic (options.filter (mentions text)) (.name inner) =
        fillStatic options (.name inner) ↔
      ∀ option ∈ options, option.name = String.ofList (Text.trim inner) →
        mentions text option = true := by
  rw [← find_mentioned_iff, fillStatic, fillStatic]
  refine ⟨fun same => ?_, fun same => by rw [same]⟩
  cases kept : (options.filter (mentions text)).find?
      (·.name = String.ofList (Text.trim inner)) with
  | none =>
    rw [kept, Option.map_none] at same
    exact (Option.map_eq_none_iff.mp same.symm).symm
  | some option =>
    -- A mentioned option has no unmentioned one of its name beside it.
    have named : option.name = String.ofList (Text.trim inner) := by
      simpa using List.find?_some kept
    have mentioned := (List.mem_filter.mp (List.mem_of_find?_eq_some kept)).2
    rw [← kept]
    refine (find_mentioned_iff ..).mpr fun other _ alike => ?_
    rwa [mentions_iff, alike, ← named, ← mentions_iff]

/-- Nothing is lost by reading the mentioned options only, just if every option that
the text has a placeholder for is mentioned. -/
theorem fills_agree_iff (text : String) (options : List BoundOption) :
    (∀ placeholder ∈ placeholders text, fillStatic (options.filter (mentions text)) placeholder =
        fillStatic options placeholder) ↔
      ∀ option ∈ options, Names text option.name → mentions text option = true := by
  constructor
  · rintro agree option member ⟨inner, held, named⟩
    exact (fill_agrees_iff text options inner).mp (agree _ held) option member named.symm
  · intro mentioned placeholder held
    cases placeholder with
    | random arguments => rfl
    | name inner =>
      exact (fill_agrees_iff text options inner).mpr fun option member named =>
        mentioned option member ⟨inner, held, named.symm⟩

theorem read_static {options : List BoundOption} (bound : Bound options) (text : String) :
    readTemplate (staticExpression text options).toList =
      some ((staticParts text options).flatMap marksOf, []) := by
  have fits : Fits (staticParts text options) :=
    fits_split (fun _ _ filled => quiet_fill_static bound filled) text.toList
  have closing : ['\x60'].head? ≠ some '{' := by simp
  rw [← read_template (yields_templates fits closing)]
  simp [staticExpression]

theorem mentioned_bound (text : String) (bound : Bound options) :
    Bound (options.filter (mentions text)) :=
  fun option member => bound option (List.mem_filter.mp member).1

theorem static_expression_iff {options : List BoundOption} (bound : Bound options)
    (text : String) :
    staticExpression text (options.filter (mentions text)) = staticExpression text options ↔
      ∀ option ∈ options, Names text option.name → mentions text option = true := by
  rw [← fills_agree_iff]
  constructor
  · intro same
    have kept := read_static (mentioned_bound text bound) text
    rw [same, read_static bound text] at kept
    exact fill_of_marks (congrArg Prod.fst (Option.some.inj kept)).symm
  · intro agree
    rw [staticExpression, staticParts, split_congr agree]
    rfl

/-! ## Reading a handler -/

/-- A line of a handler that answers by itself: an option that is read into a local, or
the answer. -/
inductive ReplyLine where
  | read (name key : String)
  | answer (expression : String)
  deriving DecidableEq, Repr

def readOption : Reader ReplyLine := fun s => do
  let s ← expect "const " s
  let (name, s) ← readReference anyWord s
  let s ← expect " = options" s
  match ← readLink anyWord s with
  | ((false, .key key), s) => do
    let s ← expect ";" s
    return (.read name key, s)
  | _ => none

def replyLine? (line : List Char) : Option ReplyLine :=
  match readOption line with
  | some (read, []) => some read
  | _ => (enclosed? "return \x7b content: " " \x7d;" line).map .answer

/-- A handler that answers by itself, line by line. -/
def readReply (pieces : List Code) : Option (List ReplyLine) :=
  (allLines 0 pieces).mapM replyLine?

theorem read_option_line (named : Local option.binding) :
    readReply [optionRead option] = some [.read option.binding option.name] := by
  have object : OneLine "options" := by decide
  have single : OneLine ("const " ++ option.binding ++ " = " ++
      member "options" option.name ++ ";") := by
    simp only [one_line_append, one_line_of_local named, one_line_member object]
    decide
  have text : ("const " ++ option.binding ++ " = " ++ member "options" option.name ++
      ";").toList = "const ".toList ++ (option.binding.toList ++ (" = options".toList ++
        ((accessStep false (.key option.name)).toList ++ ";".toList))) := by
    have opening : " = options" = " = " ++ "options" := by decide
    rw [member_eq, opening]
    simp only [String.toList_append, List.append_assoc]
  have closing : Apart ";".toList := apart_head rfl (by decide)
  have link := read_access_step false (.key option.name) (fun key _ => any_word key) closing
  have apart : Apart (" = options".toList ++ ((accessStep false (.key option.name)).toList ++
      ";".toList)) := apart_head rfl (by decide)
  have name := read_local (readable_word named) apart
  have read : readOption ("const ".toList ++ (option.binding.toList ++ (" = options".toList ++
      ((accessStep false (.key option.name)).toList ++ ";".toList)))) =
      some (.read option.binding option.name, []) := by
    simp only [readOption, expect_append, name, link, expect_whole, Option.bind_eq_bind,
      Option.bind_some, Option.pure_def]
  rw [readReply, optionRead, all_lines_single, code_lines_line single, indent_top, text,
    List.mapM_cons, replyLine?, read]
  rfl

theorem read_answer_line (single : OneLine expression) :
    readReply [returnContent expression] = some [.answer expression] := by
  have whole : OneLine ("return \x7b content: " ++ expression ++ " \x7d;") := by
    simp only [one_line_append, single]
    decide
  have read := enclosed_text "return \x7b content: " " \x7d;" expression
  have other (tail : List Char) : readOption ("return \x7b content: ".toList ++ tail) = none := rfl
  rw [readReply, returnContent, all_lines_single, code_lines_line whole, indent_top,
    String.toList_append, String.toList_append, List.append_assoc, List.mapM_cons, replyLine?,
    other, read]
  rfl

theorem read_reply_append (front : readReply pieces = some items)
    (back : readReply more = some others) :
    readReply (pieces ++ more) = some (items ++ others) := by
  rw [readReply] at front back ⊢
  rw [all_lines_append, List.mapM_append, front, back]
  rfl

theorem read_option_lines {options : List BoundOption}
    (locals : ∀ option ∈ options, Local option.binding) :
    readReply (options.map optionRead) =
      some (options.map fun option => .read option.binding option.name) := by
  induction options with
  | nil => rfl
  | cons option rest ih =>
    rw [List.forall_mem_cons] at locals
    rw [List.map_cons, ← List.singleton_append]
    exact read_reply_append (read_option_line locals.1) (ih locals.2)

/-! ## Locals of the answer -/

theorem hole_of_mark {parts : List Part} (member : .hole expression ∈ parts.flatMap marksOf) :
    ∃ written, .hole written (String.ofList expression) ∈ parts := by
  obtain ⟨part, held, shown⟩ := List.mem_flatMap.mp member
  cases part with
  | text plain => simp [marksOf] at shown
  | hole written filling =>
    simp only [marksOf, List.mem_singleton, Mark.hole.injEq] at shown
    exact ⟨written, by rwa [shown, String.ofList_toList]⟩

theorem last_append (last : back.toList.getLast? = some c) (front : String) :
    (front ++ back).toList.getLast? = some c := by
  rw [String.toList_append, List.getLast?_append, last]
  rfl

theorem last_decimal (n : Nat) : ∃ c, (Text.decimal n).getLast? = some c ∧ c.isDigit = true := by
  have nonempty : Text.decimal n ≠ [] := Nat.toDigits_ne_nil
  refine ⟨_, List.getLast?_eq_some_getLast nonempty, ?_⟩
  exact Nat.isDigit_of_mem_toDigits (by decide) (by decide) (List.getLast_mem nonempty)

theorem last_signed (n : Int) :
    ∃ c, (Text.signedDecimal n).getLast? = some c ∧ c.isDigit = true := by
  cases n with
  | ofNat n => exact last_decimal n
  | negSucc n =>
    obtain ⟨c, last, digit⟩ := last_decimal (n + 1)
    exact ⟨c, by rw [Text.signedDecimal, List.getLast?_cons, last]; rfl, digit⟩

/-- No random expression is mistaken for the value of an option. -/
theorem random_ends (filled : randomExpression? arguments = some expression) :
    expression.toList.getLast? ≠ some '\'' := by
  obtain ⟨low, high, rfl⟩ | ⟨items, rfl⟩ := randomExpression?_cases filled
  · obtain ⟨c, last, digit⟩ := last_signed (min low high)
    have whole : (integerExpression low high).toList.getLast? = some c :=
      last_append (by rwa [String.toList_ofList]) _
    rw [whole]
    rintro ⟨⟩
    exact absurd digit (by decide)
  · have bracket : (choiceExpression items).toList.getLast? = some ']' := last_append rfl _
    simp [bracket]

theorem option_of_hole {options : List BoundOption}
    (member : .hole (name ++ " ?? ''").toList ∈ (staticParts text options).flatMap marksOf) :
    name ∈ options.map (·.binding) := by
  obtain ⟨written, hole⟩ := hole_of_mark member
  rw [String.ofList_toList] at hole
  obtain ⟨placeholder, filled⟩ := SnippetReading.filled_of_hole hole
  cases placeholder with
  | random arguments => exact absurd (last_append rfl name) (random_ends filled)
  | name inner =>
    obtain ⟨option, located, same⟩ := Option.map_eq_some_iff.mp filled
    have alike : option.binding = name := by simpa using same
    exact alike ▸ List.mem_map_of_mem (List.mem_of_find?_eq_some located)

/-- The local that a line declares. -/
def ReplyLine.local? : ReplyLine → Option String
  | .read name _ => some name
  | .answer _ => none

/-- The options that a handler reads, each into its local. -/
def optionReads (text : String) (options : List BoundOption) : List ReplyLine :=
  (options.filter (mentions text)).map fun option => .read option.binding option.name

theorem locals_option_reads (text : String) (options : List BoundOption) :
    (optionReads text options).filterMap ReplyLine.local? =
      (options.filter (mentions text)).map (·.binding) := by
  simp [optionReads, List.filterMap_map, Function.comp_def, ReplyLine.local?]

/-! ## Whole replies -/

theorem forall_names_iff (holds : String → Prop) :
    (∀ option ∈ boundOptions command, holds option.name) ↔
      ∀ option ∈ command.options, holds option.name := by
  rw [← List.forall_mem_map, ← List.forall_mem_map (f := CommandOption.name) (P := holds),
    names_bound_options]

/-- A handler with a static text reads the mentioned options and returns one expression. -/
theorem read_static_handler (style : Style) (spec : Spec) (static : command.source = .staticText) :
    readReply (handlerBody style spec command) =
      some (optionReads (staticReply command) (boundOptions command) ++
        [.answer (staticExpression (staticReply command)
          ((boundOptions command).filter (mentions (staticReply command))))]) := by
  have locals : ∀ option ∈ (boundOptions command).filter (mentions (staticReply command)),
      Local option.binding :=
    fun option member => locals_of_command command option (List.mem_filter.mp member).1
  have body : handlerBody style spec command =
      ((boundOptions command).filter (mentions (staticReply command))).map optionRead ++
        [returnContent (staticExpression (staticReply command)
          ((boundOptions command).filter (mentions (staticReply command))))] := by
    rw [handlerBody, handler, static]
    rfl
  rw [body]
  exact read_reply_append (read_option_lines locals) (read_answer_line (one_line_static locals _))

/-- A handler with a static text reads options and returns one expression. Its expression is
the one for all options just if each option that the text has a placeholder for is also
spelled there without white space; every option's local in it is declared once, before. -/
theorem static_reply_iff (style : Style) (spec : Spec) (command : Command)
    (static : command.source = .staticText) :
    ∃ expression marks,
      readReply (handlerBody style spec command) =
        some (optionReads (staticReply command) (boundOptions command) ++
          [.answer expression]) ∧
      readTemplate expression.toList = some (marks, []) ∧
      (expression = staticExpression (staticReply command) (boundOptions command) ↔
        ∀ option ∈ command.options, Names (staticReply command) option.name →
          (placeholder option.name).toList <:+: (staticReply command).toList) ∧
      ∀ name, .hole (name ++ " ?? ''").toList ∈ marks →
        ((optionReads (staticReply command) (boundOptions command)).filterMap
          ReplyLine.local?).count name = 1 := by
  have bound := bound_options command
  refine ⟨_, _, read_static_handler style spec static,
    read_static (mentioned_bound (staticReply command) bound) (staticReply command), ?_,
    fun name member => ?_⟩
  · rw [static_expression_iff bound, ← forall_names_iff fun name =>
      Names (staticReply command) name →
        (placeholder name).toList <:+: (staticReply command).toList]
    simp only [mentions_iff]
  · rw [locals_option_reads]
    have distinct : (((boundOptions command).filter
        (mentions (staticReply command))).map (·.binding)).Nodup :=
      (nodup_bindings _ _).sublist (List.filter_sublist.map _)
    exact List.count_eq_one_of_mem distinct (option_of_hole member)

/-- A greeting with an option, in which a text may have placeholders. -/
def greetCommand (text : String) : Command :=
  { Preset.textCommand "greet" "says hello" text with
    options := [⟨"city", "where", .string, false⟩] }

def greetSample (text : String) : Spec where
  bot := ⟨"bot", "", none, none, none, .gateway⟩
  profiles := []
  commands := [greetCommand text]

/-- A placeholder with white space is filled where the same name is also spelled without. -/
theorem spaced_placeholder_filled :
    ∃ expression, readReply (handlerBody ⟨.simpleText, .english⟩
        (greetSample "\x7b city \x7d \x7bcity\x7d")
        (greetCommand "\x7b city \x7d \x7bcity\x7d")) =
          some [.read "city" "city", .answer expression] ∧
      expression = staticExpression "\x7b city \x7d \x7bcity\x7d"
        (boundOptions (greetCommand "\x7b city \x7d \x7bcity\x7d")) := by
  obtain ⟨expression, marks, read, -, whole, -⟩ := static_reply_iff ⟨.simpleText, .english⟩
    (greetSample "\x7b city \x7d \x7bcity\x7d") (greetCommand "\x7b city \x7d \x7bcity\x7d") rfl
  have reads : optionReads (staticReply (greetCommand "\x7b city \x7d \x7bcity\x7d"))
      (boundOptions (greetCommand "\x7b city \x7d \x7bcity\x7d")) = [.read "city" "city"] := by
    decide +kernel
  rw [reads] at read
  refine ⟨expression, read, whole.mpr ?_⟩
  simp only [greetCommand, List.mem_singleton, forall_eq]
  exact fun _ => Text.contains_iff.mp (by decide +kernel)

/-- An accepted specification whose reply leaves a placeholder as it stands, although the
text is filled for all options where it is written for them. -/
theorem spaced_placeholder_lost :
    (greetSample "Hello \x7b city \x7d").validate = .ok [] ∧
      ∃ expression, readReply (handlerBody ⟨.simpleText, .english⟩
          (greetSample "Hello \x7b city \x7d") (greetCommand "Hello \x7b city \x7d")) =
            some [.answer expression] ∧
        expression ≠ staticExpression "Hello \x7b city \x7d"
          (boundOptions (greetCommand "Hello \x7b city \x7d")) := by
  have static : (greetCommand "Hello \x7b city \x7d").source = .staticText := rfl
  have read := read_static_handler ⟨.simpleText, .english⟩ (greetSample "Hello \x7b city \x7d")
    static
  have reads : optionReads (staticReply (greetCommand "Hello \x7b city \x7d"))
      (boundOptions (greetCommand "Hello \x7b city \x7d")) = [] := by
    decide +kernel
  have text : staticReply (greetCommand "Hello \x7b city \x7d") = "Hello \x7b city \x7d" := by
    decide +kernel
  rw [reads, text] at read
  refine ⟨by decide +kernel, _, read, fun same => ?_⟩
  have named : Names "Hello \x7b city \x7d" "city" := by
    have held : placeholders "Hello \x7b city \x7d" = [.name " city ".toList] := by cbv
    exact ⟨" city ".toList, held ▸ List.mem_cons_self, by decide +kernel⟩
  have mentioned := (static_expression_iff (bound_options _) _).mp same ⟨"city", "city"⟩
    (by decide +kernel) named
  exact absurd mentioned (by decide +kernel)

end Botwright.StaticReplies
