import Botwright.Reply.Options
import Botwright.Script.Template

/-!
Static replies. The text may hold `{random(a, b)}`, which is a number between two integers or a
choice from a list, and `{name}`, which is the value of an option; the handler fills them in each
time it runs.
-/
namespace Botwright.Reply

open Script (Part)

/-- A placeholder of a static text. -/
inductive StaticPlaceholder where
  | random (arguments : List Char)
  | name (inner : List Char)
  deriving DecidableEq, Repr

/-- The opening of a random placeholder. -/
def randomOpening : List Char := "\x7brandom(".toList

/-- The closing of a random placeholder. -/
def randomClosing : List Char := ")\x7d".toList

/-- The random placeholder at the start of a text. Its arguments hold no parentheses. -/
def randomPlaceholder? (s : List Char) : Option (List Char × Nat) := do
  let rest ← Text.dropStart? randomOpening s
  let arguments := rest.takeWhile fun c => c ≠ '(' && c ≠ ')'
  let _ ← Text.dropStart? randomClosing (rest.drop arguments.length)
  return (arguments, arguments.length + 9)

/-- The placeholder at the start of a text; a random one is tried first. -/
def staticPlaceholder? (s : List Char) : Option (StaticPlaceholder × Nat) :=
  match randomPlaceholder? s with
  | some (arguments, more) => some (.random arguments, more)
  | none =>
    match Script.braceGroup? s with
    | some (inner, more) => if inner = [] then none else some (.name inner, more)
    | none => none

/-- The quotes that an item of a list may stand in. -/
def itemQuotes : List Char := ['"', '\'', '\x60']

/-- What stands between two quotes of one kind, or nothing if the text is not quoted by it. -/
def unquoteWith? (quote : Char) : List Char → Option (List Char)
  | [] => none
  | c :: rest =>
    if c = quote ∧ rest.getLast? = some quote then some rest.dropLast else none

/-- An item without its quotes. -/
def unquote (s : List Char) : List Char :=
  (itemQuotes.findSome? fun quote => unquoteWith? quote s).getD s

/-- The items of a random placeholder. -/
def randomItems (arguments : List Char) : List (List Char) :=
  (Text.pieces (· = ',') arguments).map fun item => unquote (Text.trim item)

/-- An expression for a random integer between two bounds, which may come in either order. -/
def integerExpression (a b : Int) : String :=
  let least := String.ofList (Text.signedDecimal (min a b))
  let greatest := String.ofList (Text.signedDecimal (max a b))
  "Math.floor(Math.random() * (" ++ greatest ++ " - " ++ least ++ " + 1)) + " ++ least

/-- An expression for a random item of a list. -/
def choiceExpression (items : List (List Char)) : String :=
  let literals := items.map fun item => String.ofList (Script.quoted item)
  "[" ++ ", ".intercalate literals ++ "][Math.floor(Math.random() * " ++
    String.ofList (Text.decimal items.length) ++ ")]"

/-- The expression for a random placeholder. Items that are all empty leave nothing to choose. -/
def randomExpression? (arguments : List Char) : Option String :=
  match randomItems arguments with
  | [a, b] =>
    if a = [] ∧ b = [] then none
    else
      match Text.readSigned? a, Text.readSigned? b with
      | some low, some high => some (integerExpression low high)
      | _, _ => some (choiceExpression [a, b])
  | items => if items.all (· = []) then none else some (choiceExpression items)

/-- A random placeholder draws from a range or from a list. -/
theorem randomExpression?_cases (filled : randomExpression? arguments = some expression) :
    (∃ low high, expression = integerExpression low high) ∨
      ∃ items, expression = choiceExpression items := by
  unfold randomExpression? at filled
  split at filled
  · split at filled
    · cases filled
    · split at filled
      · exact .inl ⟨_, _, (Option.some.inj filled).symm⟩
      · exact .inr ⟨_, (Option.some.inj filled).symm⟩
  · split at filled
    · cases filled
    · exact .inr ⟨_, (Option.some.inj filled).symm⟩

/-- The expression that fills a placeholder, if something does. -/
def fillStatic (options : List BoundOption) : StaticPlaceholder → Option String
  | .random arguments => randomExpression? arguments
  | .name inner =>
    let name := String.ofList (Text.trim inner)
    (options.find? (·.name = name)).map fun option => option.binding ++ " ?? ''"

/-- A static text as the parts of a template. -/
def staticParts (text : String) (options : List BoundOption) : List Part :=
  Part.split staticPlaceholder? (fillStatic options) text.toList

/-- The template literal for a static text. -/
def staticExpression (text : String) (options : List BoundOption) : String :=
  "`" ++ Part.templates (staticParts text options) ++ "`"

end Botwright.Reply
