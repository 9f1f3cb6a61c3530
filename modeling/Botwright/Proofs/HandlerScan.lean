import Botwright.Proofs.SnippetScan
import Botwright.Reply.Handler

/-! Handlers. Every statement is fixed text around quiet insertions, and the
user's own code for a response is the one text that is written unescaped. -/
namespace Botwright.HandlerScan
open Script Reply SourceScan SourceLayout LiteralScan TemplateScan SnippetScan

/-! ## Options -/

/-- Options whose values are held by quiet names. -/
def Bound (options : List BoundOption) : Prop := ∀ option ∈ options, Quiet option.binding

theorem quiet_bind_options (member : option ∈ bindOptions scope options) :
    Quiet option.binding := by
  induction options generalizing scope with
  | nil => simp [bindOptions] at member
  | cons first rest ih =>
    rw [bindOptions] at member
    rcases List.mem_cons.mp member with same | later
    · have chosen := quiet_choose scope first.name
      simpa only [same] using chosen
    · exact ih later

theorem bound_options (command : Command) : Bound (boundOptions command) :=
  fun _ member => quiet_bind_options member

theorem stands_option_read (quiet : Quiet option.binding) : Stands [] [optionRead option] [] := by
  have object : Quiet "options" := leads_fixed rfl
  have value := quiet_member object option.name
  exact stands_quiet (((((leads_fixed rfl).insert quiet).fixed rfl).insert value).fixed rfl)

theorem stands_option_reads (bound : Bound options) :
    Stands [] (options.map optionRead) [] :=
  stands_map fun option held => stands_option_read (bound option held)

/-! ## Static texts -/

theorem quiet_integer_expression (a b : Int) : Quiet (integerExpression a b) := by
  have least := quiet_signed_decimal (min a b)
  have greatest := quiet_signed_decimal (max a b)
  exact (((((leads_fixed rfl).insert greatest).fixed rfl).insert least).fixed rfl).insert least

theorem quiet_choice_expression (items : List (List Char)) : Quiet (choiceExpression items) := by
  have literals : Quiet (", ".intercalate (items.map fun item => String.ofList (quoted item))) := by
    apply quiet_intercalate (leads_fixed rfl)
    intro text member
    obtain ⟨item, _, rfl⟩ := List.mem_map.mp member
    exact quiet_enclosed .single (scan_escaped scan_quoted_char item)
  have count := quiet_decimal items.length
  exact ((((leads_fixed rfl).insert literals).fixed rfl).insert count).fixed rfl

theorem quiet_random_expression (filled : randomExpression? arguments = some expression) :
    Quiet expression := by
  obtain ⟨low, high, rfl⟩ | ⟨items, rfl⟩ := randomExpression?_cases filled
  · exact quiet_integer_expression low high
  · exact quiet_choice_expression items

theorem quiet_fill_static (bound : Bound options)
    (filled : fillStatic options hole = some expression) : Quiet expression := by
  cases hole with
  | random arguments => exact quiet_random_expression filled
  | name inner =>
    obtain ⟨option, located, rfl⟩ := Option.map_eq_some_iff.mp filled
    exact Leads.fixed (bound option (List.mem_of_find?_eq_some located)) rfl

theorem quiet_static_expression (bound : Bound options) (text : String) :
    Quiet (staticExpression text options) := by
  have fits : Fits (staticParts text options) :=
    fits_split (fun _ _ filled => quiet_fill_static bound filled) text.toList
  exact (templated_parts fits).quiet [] (leads_fixed rfl) (leads_in_template rfl rfl)

/-! ## Requests -/

theorem stands_return_content (quiet : Quiet expression) :
    Stands [] [returnContent expression] [] :=
  stands_quiet (((leads_fixed rfl).insert quiet).fixed rfl)

/-- The statement that attaches a secret is quiet, whatever it acts on. -/
theorem quiet_authorization (attached : authorization? profile = some authorization) :
    match authorization with
    | .header statement => Quiet statement
    | .query statement => Quiet statement := by
  have object : Quiet "env" := leads_fixed rfl
  have secret := quiet_member object profile.keyVariable
  have name (fallback : String) := quiet_string_literal (profile.apiKeyName?.getD fallback)
  unfold authorization? at attached
  split at attached
  · cases attached
  · cases attached
    exact ((((leads_fixed rfl).insert (name _)).fixed rfl).insert secret).fixed rfl
  · cases attached
    exact ((leads_fixed rfl).insert secret).fixed rfl
  · cases attached
    exact ((((leads_fixed rfl).insert (name _)).fixed rfl).insert secret).fixed rfl

theorem quiet_endpoint_replacement (quiet : Quiet option.binding) :
    Quiet (endpointReplacement option) := by
  have literal := quiet_string_literal (placeholder option.name)
  exact ((((leads_fixed rfl).insert literal).fixed rfl).insert quiet).fixed rfl

theorem quiet_base_url (profile : Profile) : Quiet (baseUrlExpression profile) := by
  have object : Quiet "env" := leads_fixed rfl
  have literal := quiet_string_literal profile.baseUrl
  unfold baseUrlExpression
  split
  · next name _ => exact (Leads.fixed (quiet_member object name) rfl).insert literal
  · exact literal

theorem stands_request_lines (bound : Bound options) :
    Stands [] (requestLines command profile options) [] := by
  have endpoint : Stands [] [.line ("let endpoint = " ++
      stringLiteral (command.endpoint?.getD "") ++ ";")] [] :=
    stands_quiet (((leads_fixed rfl).insert (quiet_string_literal _)).fixed rfl)
  have replacements : Stands [] (options.map fun option => .line (endpointReplacement option)) [] :=
    stands_map fun option held => stands_quiet (quiet_endpoint_replacement (bound option held))
  have address : Stands [] [.line ("const url = buildUrl(" ++ baseUrlExpression profile ++
      ", endpoint);")] [] :=
    stands_quiet (((leads_fixed rfl).insert (quiet_base_url profile)).fixed rfl)
  have headers : Stands [] [.blank, .line "const headers = new Headers();",
      .line "headers.set('Content-Type', 'application/json');"] [] :=
    stands_blank.cons ((stands_quiet (leads_fixed rfl)).cons (stands_quiet (leads_fixed rfl)))
  have failure : Stands [] [.block "if (!apiResponse.ok) \x7b" "\x7d"
      [.line "throw new Error(`API request failed: $\x7bapiResponse.status\x7d`);"]] [] :=
    stands_enclosed [.curly] (leads_fixed rfl) (stands_quiet (leads_fixed rfl)) (leads_fixed rfl)
  have request : Stands [] [.blank,
      .line "const apiResponse = await fetch(url, \x7b method: 'GET', headers \x7d);", _] [] :=
    stands_blank.cons ((stands_quiet (leads_fixed rfl)).cons failure)
  refine (((((endpoint.append replacements).append address).append ?query).append headers).append
    ?header).append request
  case query =>
    split
    · next statement attached => exact stands_quiet (quiet_authorization attached)
    · exact stands_nil
  case header =>
    split
    · next statement attached => exact stands_quiet (quiet_authorization attached)
    · exact stands_nil

/-! ## Whole handlers -/

theorem stands_function (name : String) (body : Stands [] pieces []) :
    Stands [] [.block (handlerOpening (handlerName name)) "\x7d" pieces] [] :=
  stands_enclosed [.curly] (((leads_fixed rfl).insert (quiet_handler_name name)).fixed rfl) body
    (leads_fixed rfl)

theorem stands_static_handler (command : Command) :
    Stands [] [staticHandler (handlerName command.name) command] [] := by
  have bound : Bound ((boundOptions command).filter (mentions (staticReply command))) :=
    fun option member => bound_options command option (List.mem_filter.mp member).1
  have reply := stands_return_content (quiet_static_expression bound (staticReply command))
  exact stands_function command.name ((stands_option_reads bound).append reply)

theorem stands_unconfigured_handler (name message : String) :
    Stands [] [unconfiguredHandler (handlerName name) message] [] :=
  stands_function name (stands_return_content (quiet_string_literal message))

theorem stands_response_body (style : Style) (generated : command.snippet? = none) :
    Stands [] [responseBody style command] [] := by
  unfold responseBody
  rw [generated]
  exact stands_snippet _ _ _

theorem stands_api_handler (style : Style) (profile : Profile)
    (generated : command.snippet? = none) :
    Stands [] [apiHandler style (handlerName command.name) command profile] [] := by
  have bound := bound_options command
  have response : Stands [] [.block "return await (async () => \x7b" "\x7d)();"
      [responseBody style command]] [] :=
    stands_enclosed [.curly, .round] (leads_fixed rfl) (stands_response_body style generated)
      (leads_fixed rfl)
  have attempt : Stands [] [.block "try \x7b" "\x7d catch (error) \x7b"
      (requestLines command profile (boundOptions command) ++ [.blank, _])] [.curly] :=
    stands_block [.curly] [.curly] (leads_fixed rfl)
      (((stands_request_lines bound).append (stands_blank.cons response)).within _)
      (leads_fixed rfl)
  have report : Quiet ("console.error(" ++
      stringLiteral ("Error in " ++ handlerName command.name ++ ":") ++ ", error);") :=
    ((leads_fixed rfl).insert (quiet_string_literal _)).fixed rfl
  have apology := stands_return_content
    (quiet_string_literal (Messages.of style.locale).requestFailed)
  have failure := stands_indented (((stands_quiet report).cons apology).within [.curly])
  have closing : Stands [.curly] [.line "\x7d"] [] := stands_statement (leads_fixed rfl)
  exact stands_function command.name
    ((stands_option_reads bound).append (attempt.cons (failure.cons closing)))

/-- The handler of a command stands by itself unless the command brings code of
its own. -/
theorem stands_handler (style : Style) (spec : Spec) (generated : command.snippet? = none) :
    Stands [] [handler style spec command] [] := by
  unfold handler
  split
  · exact stands_static_handler command
  · split
    · exact stands_api_handler style _ generated
    · exact stands_unconfigured_handler _ _

end Botwright.HandlerScan
