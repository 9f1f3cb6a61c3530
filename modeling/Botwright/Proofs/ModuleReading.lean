import Botwright.Proofs.LiteralReading
import Botwright.Project.CommandModule

/-! A reader for the declarations of the module that answers commands: functions,
constants, and the object that is the table of handlers. It takes whatever stands
between the lines of a function as that function's body, so code that a user wrote
belongs to the handler that holds it. It takes the word that stands where a name does;
whether the language admits it is a question of its own. A piece that is neither a
declaration nor a comment is refused. -/
namespace Botwright.ModuleReading
open Script Reply Project LiteralReading

/-! ## Declarations -/

inductive Declaration where
  | function (name parameters : String) (body : List Code)
  | constant (name : String)
  /-- An object literal: its keys and the names that stand for their values, in order. -/
  | object (name : String) (entries : List (String × String))

def Declaration.name : Declaration → String
  | function name _ _ | constant name | object name _ => name

/-- A function's name and its parameters, up to the brace that opens its body. -/
def readSignature : Reader (String × String) := fun s => do
  let (name, s) ← readWord s
  let s ← expect "(" s
  let parameters := s.takeWhile (· ≠ ')')
  let s ← expect ") \x7b" (s.dropWhile (· ≠ ')'))
  return ((name, String.ofList parameters), s)

def readFunction : Reader (String × String) := fun s =>
  let s := (expect "export " s).getD s
  let s := (expect "async " s).getD s
  (expect "function " s).bind readSignature

def readConstant : Reader String := fun s => do
  let s ← expect "const " s
  let (name, s) ← readWord s
  let s ← expect " = " s
  return (name, s)

/-- A line of an object literal: a quoted key and a word for its value. -/
def readEntry : Code → Option (String × String)
  | .line text => do
    let (key, s) ← readString text.toList
    let s ← expect ": " s
    let (value, s) ← readWord s
    if s = [','] then some (String.ofList key, value) else none
  | _ => none

def readDeclaration : Code → Option Declaration
  | .block opening closing body =>
    match readFunction opening.toList with
    | some ((name, parameters), []) =>
      if closing = "\x7d" then some (.function name parameters body) else none
    | _ => do
      let (name, s) ← readConstant opening.toList
      if s = ['{'] ∧ closing = "\x7d;" then (body.mapM readEntry).map (.object name) else none
  | .line text => (readConstant text.toList).map fun (name, _) => .constant name
  | _ => none

/-- A piece that declares nothing: an empty line, or a comment that ends with its line. -/
def isTrivia : Code → Bool
  | .blank => true
  | .line text =>
    !text.toList.any isLineEnd &&
      (text.toList.take 2 = ['/', '/'] ||
        text.toList.take 2 = ['/', '*'] && text.toList.drop (text.length - 2) = ['*', '/'])
  | _ => false

/-- What a module declares, in order. -/
def readModule (pieces : List Code) : Option (List Declaration) :=
  (pieces.filter fun piece => !isTrivia piece).mapM readDeclaration

/-- Pieces that declare something, whatever stands around them. -/
def Declares (pieces : List Code) (declarations : List Declaration) : Prop :=
  readModule pieces = some declarations

theorem declares_nil : Declares [] [] :=
  rfl

theorem Declares.append (first : Declares pieces declarations) (second : Declares more others) :
    Declares (pieces ++ more) (declarations ++ others) := by
  rw [Declares, readModule] at *
  rw [List.filter_append, List.mapM_append, first, second]
  rfl

theorem declares_trivia (trivial : isTrivia piece = true) : Declares [piece] [] := by
  simp [Declares, readModule, trivial]

theorem declares_one (solid : isTrivia piece = false)
    (read : readDeclaration piece = some declaration) : Declares [piece] [declaration] := by
  simp [Declares, readModule, solid, read]

theorem Declares.blank (first : Declares [piece] declarations) :
    Declares [piece, .blank] declarations := by
  simpa using first.append (@declares_trivia .blank rfl)

theorem declares_flat_map {pieces : α → List Code} {declaration : α → Declaration}
    {items : List α} (each : ∀ item ∈ items, Declares (pieces item) [declaration item]) :
    Declares (items.flatMap pieces) (items.map declaration) := by
  induction items with
  | nil => exact declares_nil
  | cons item rest ih =>
    rw [List.forall_mem_cons] at each
    exact each.1.append (ih each.2)

/-! ## Handlers -/

theorem identifier_handler_name (command : String) : isIdentifier (handlerName command) = true := by
  rw [isIdentifier, handlerName, String.toList_append]
  refine BindingAllocation.identifier_append (by decide) fun c member => ?_
  exact LiteralScan.parts_sanitize_chars (String.toList_ofList ▸ member)

/-- What stands between the lines of a block. -/
def bodyOf : Code → List Code
  | .block _ _ body => body
  | _ => []

def handlerBody (style : Style) (spec : Spec) (command : Command) : List Code :=
  bodyOf (handler style spec command)

theorem handler_eq (style : Style) (spec : Spec) (command : Command) :
    handler style spec command =
      .block (handlerOpening (handlerName command.name)) "\x7d"
        (handlerBody style spec command) := by
  unfold handlerBody handler
  split
  · rfl
  · split <;> rfl

/-- The function that a command is answered by. -/
def handlerFunction (style : Style) (spec : Spec) (command : Command) : Declaration :=
  .function (handlerName command.name) "options, env" (handlerBody style spec command)

theorem read_signature (identifier : isIdentifier name = true) :
    readSignature (name.toList ++ "(options, env) \x7b".toList) =
      some ((name, "options, env"), []) := by
  have named : readWord (name.toList ++ "(options, env) \x7b".toList) =
      some (name, "(options, env) \x7b".toList) :=
    read_word identifier (apart_cons (by decide) _)
  rw [readSignature, named]
  rfl

theorem read_handler_opening (identifier : isIdentifier name = true) :
    readFunction (handlerOpening name).toList = some ((name, "options, env"), []) := by
  have opening : handlerOpening name = "async function " ++ name ++ "(options, env) \x7b" := rfl
  have text : (handlerOpening name).toList =
      "async function ".toList ++ (name.toList ++ "(options, env) \x7b".toList) := by
    rw [opening, String.toList_append, String.toList_append, List.append_assoc]
  have unmarked (s : List Char) : (expect "export " ("async function ".toList ++ s)).getD
      ("async function ".toList ++ s) = "async function ".toList ++ s := rfl
  have marked (s : List Char) : (expect "async " ("async function ".toList ++ s)).getD
      ("async function ".toList ++ s) = "function ".toList ++ s := rfl
  have word := expect_append "function " (name.toList ++ "(options, env) \x7b".toList)
  rw [readFunction, text, unmarked, marked, word, Option.bind_some, read_signature identifier]

theorem declares_handler (style : Style) (spec : Spec) (command : Command) :
    Declares [handler style spec command] [handlerFunction style spec command] := by
  rw [handler_eq]
  apply declares_one rfl
  rw [readDeclaration, read_handler_opening (identifier_handler_name _)]
  rfl

/-! ## The whole module -/

theorem read_table_entry (command : Command) :
    readEntry (tableEntry command) = some (command.name, handlerName command.name) := by
  have text : (stringLiteral command.name ++ ": " ++ handlerName command.name ++ ",").toList =
      quoted command.name.toList ++
        (": ".toList ++ ((handlerName command.name).toList ++ [','])) := by
    simp [stringLiteral]
  have named := read_word (identifier_handler_name command.name)
    (apart_cons (c := ',') (by decide) [])
  rw [tableEntry, readEntry, text]
  simp only [read_quoted, expect_append, named, Option.bind_eq_bind, Option.bind_some, if_true,
    String.ofList_toList]

theorem declares_handler_table (spec : Spec) :
    Declares [handlerTable spec] [.object "handlers"
      (spec.commands.map fun command => (command.name, handlerName command.name))] := by
  have entries : (spec.commands.map tableEntry).mapM readEntry =
      some (spec.commands.map fun command => (command.name, handlerName command.name)) := by
    induction spec.commands with
    | nil => rfl
    | cons command rest ih => simp [read_table_entry, ih]
  apply declares_one rfl
  have opening : readConstant "const handlers = \x7b".toList = some ("handlers", ['{']) := by decide
  have other : readFunction "const handlers = \x7b".toList = none := by decide
  rw [handlerTable, readDeclaration, other, opening]
  simp [entries]

theorem comment_text_calm (text : String) : (commentText text).toList.any isLineEnd = false := by
  rw [commentText, String.toList_ofList, List.any_eq_false]
  intro c member
  obtain ⟨d, _, rfl⟩ := List.mem_map.mp member
  by_cases ends : isLineEnd d = true
  · rw [if_pos ends]
    decide
  · rwa [if_neg ends]

/-- The heading's comments are single lines, whatever the bot is called. -/
theorem declares_heading (spec : Spec) : Declares (heading spec) [] := by
  have title : isTrivia (.line ("// Command handlers for " ++ commentText spec.bot.name ++ ".")) =
      true := by
    have calm : ("// Command handlers for " ++ commentText spec.bot.name ++ ".").toList.any
        isLineEnd = false := by
      rw [String.toList_append, String.toList_append, List.any_append, List.any_append,
        comment_text_calm]
      decide
    rw [isTrivia, calm]
    simp
  exact (declares_trivia title).append ((declares_trivia (by decide +kernel)).append
    (@declares_trivia .blank rfl))

/-- The functions that handlers need. -/
def helpers (spec : Spec) : List Declaration :=
  if callsApi spec then [.function "buildUrl" "baseUrl, endpoint" (bodyOf buildUrl)] else []

theorem declares_helpers (spec : Spec) :
    Declares (if callsApi spec then [buildUrl, .blank] else []) (helpers spec) := by
  unfold helpers
  split
  · have read : readDeclaration buildUrl =
        some (.function "buildUrl" "baseUrl, endpoint" (bodyOf buildUrl)) := by
      have opening : readFunction "function buildUrl(baseUrl, endpoint) \x7b".toList =
          some (("buildUrl", "baseUrl, endpoint"), []) := by decide +kernel
      rw [buildUrl, readDeclaration, opening]
      rfl
    exact (declares_one rfl read).blank
  · exact declares_nil

def dispatcherBody (locale : Locale) : List Code :=
  (dispatch locale).getLast?.elim [] bodyOf

theorem declares_dispatch (locale : Locale) :
    Declares (dispatch locale) [.constant "MAX_CONTENT_LENGTH",
      .function "dispatchCommand" "name, options, env" (dispatcherBody locale)] := by
  have opening : readFunction
      "export async function dispatchCommand(name, options, env) \x7b".toList =
        some (("dispatchCommand", "name, options, env"), []) := by decide +kernel
  have dispatcher : readDeclaration (.block
      "export async function dispatchCommand(name, options, env) \x7b" "\x7d"
      (dispatcherBody locale)) =
        some (.function "dispatchCommand" "name, options, env" (dispatcherBody locale)) := by
    rw [readDeclaration, opening]
    rfl
  have number : readConstant ("const MAX_CONTENT_LENGTH = " ++
      String.ofList (Text.decimal maxContentLength) ++ ";").toList =
        some ("MAX_CONTENT_LENGTH", "2000;".toList) := by decide +kernel
  have limit : readDeclaration (.line ("const MAX_CONTENT_LENGTH = " ++
      String.ofList (Text.decimal maxContentLength) ++ ";")) =
        some (.constant "MAX_CONTENT_LENGTH") := by
    rw [readDeclaration, number]
    rfl
  have comment : isTrivia (.line "/** Runs the handler registered for `name`. */") = true := by
    decide +kernel
  exact (declares_one (by decide +kernel) limit).blank.append
    ((declares_trivia comment).append (declares_one rfl dispatcher))

/-- What the module declares: the functions that its handlers need, a handler for each
command in order, the table of handlers, and the dispatcher. -/
def moduleDeclarations (style : Style) (spec : Spec) : List Declaration :=
  helpers spec ++ spec.commands.map (handlerFunction style spec) ++
    [.object "handlers" (spec.commands.map fun command => (command.name, handlerName command.name)),
     .constant "MAX_CONTENT_LENGTH",
     .function "dispatchCommand" "name, options, env" (dispatcherBody style.locale)]

theorem read_module (style : Style) (spec : Spec) :
    readModule (commandCode style spec) = some (moduleDeclarations style spec) := by
  have handlers : Declares
      (spec.commands.flatMap fun command => [handler style spec command, .blank])
      (spec.commands.map (handlerFunction style spec)) :=
    declares_flat_map fun command _ => (declares_handler style spec command).blank
  have table := (declares_handler_table spec).blank
  have whole := ((((declares_heading spec).append (declares_helpers spec)).append handlers).append
    table).append (declares_dispatch style.locale)
  simpa [commandCode, moduleDeclarations, Declares] using whole

/-- A handler's name and body: a function that takes the options of a command. -/
def asHandler? : Declaration → Option (String × List Code)
  | .function name parameters body =>
    if parameters = "options, env" then some (name, body) else none
  | _ => none

/-- The handlers that a module declares, in order. -/
def handlerFunctions (pieces : List Code) : List (String × List Code) :=
  ((readModule pieces).getD []).filterMap asHandler?

/-- The module has one handler for each command, in the same order. -/
theorem handler_functions (style : Style) (spec : Spec) :
    handlerFunctions (commandCode style spec) = spec.commands.map fun command =>
      (handlerName command.name, handlerBody style spec command) := by
  have before : (helpers spec).filterMap asHandler? = [] := by
    unfold helpers
    split <;> rfl
  have within : (spec.commands.map (handlerFunction style spec)).filterMap asHandler? =
      spec.commands.map fun command =>
        (handlerName command.name, handlerBody style spec command) := by
    rw [List.filterMap_map, ← List.filterMap_eq_map]
    rfl
  rw [handlerFunctions, read_module, Option.getD_some, moduleDeclarations,
    List.filterMap_append, List.filterMap_append, before, within]
  simp [asHandler?]

end Botwright.ModuleReading
