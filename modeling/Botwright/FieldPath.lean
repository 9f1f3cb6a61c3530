import Botwright.Json.Basic
import Botwright.Text.Decimal
import Botwright.Text.Split

/-!
Addresses of values in a document: `main.temp`, `weather[0].description`, or `[0].name` in a
document that is an array. The document itself is addressed by `root`.

The path functions read the same text in different ways: `segments?` follows brackets and dots from
the left, `names` splits at every delimiter, and `parent?` cuts the last step off from the right.
-/
namespace Botwright.FieldPath

/-- One step into a document. -/
inductive Segment where
  | key (name : String)
  | index (position : Nat)
  deriving DecidableEq, Repr

/-- The path of the document itself. -/
def root : String := "root"

/-- What stands between brackets: a position, a key, or nothing at all. -/
def bracketed (inner : List Char) : List Segment :=
  match Text.readUnsigned? inner with
  | some position => [.index position]
  | none => if inner = [] then [] else [.key (String.ofList inner)]

mutual

/-- The steps of a path, from a place between two steps. -/
def steps : List Char → List Segment
  | [] => []
  | c :: rest =>
    if c = '[' then
      let (inner, more) := bracketSteps rest
      bracketed inner ++ more
    else if c = '.' then steps rest
    else
      let (name, more) := keySteps rest
      .key (String.ofList (c :: name)) :: more

/-- The rest of a key, which ends at a dot or an opening bracket, and the steps after it. -/
def keySteps : List Char → List Char × List Segment
  | [] => ([], [])
  | c :: rest =>
    if c = '[' then
      let (inner, more) := bracketSteps rest
      ([], bracketed inner ++ more)
    else if c = '.' then ([], steps rest)
    else
      let (name, more) := keySteps rest
      (c :: name, more)

/-- The rest of a bracket, which ends at a closing bracket or with the text, and the steps after
it. -/
def bracketSteps : List Char → List Char × List Segment
  | [] => ([], [])
  | c :: rest =>
    if c = ']' then ([], steps rest)
    else
      let (inner, more) := bracketSteps rest
      (c :: inner, more)

end

/-- The steps of a path; the document itself takes none. -/
def segments (path : String) : List Segment := if path = root then [] else steps path.toList

/-- A character that separates the names in a path. -/
def isDelimiter (c : Char) : Bool := c = '.' || c = '[' || c = ']'

/-- The names in a path, positions among them, without regard to which delimiter stands where. -/
def names (path : String) : List String :=
  ((Text.pieces isDelimiter path.toList).filter (· ≠ [])).map String.ofList

/-- The last name in a path, or the whole path if it holds none. -/
def lastName (path : String) : String := (names path).getLast?.getD path

/-- What stands before the last character of a class. -/
def beforeLast? (p : Char → Bool) : List Char → Option (List Char)
  | [] => none
  | c :: rest =>
    match beforeLast? p rest with
    | some before => some (c :: before)
    | none => if p c then some [] else none

/-- The path without its last step; a path of one step has no parent. -/
def parent? (path : String) : Option String :=
  let cut :=
    if path.toList.getLast? = some ']' then beforeLast? (· = '[') path.toList
    else beforeLast? (fun c => c = '.' || c = '[') path.toList
  (cut.filter (· ≠ [])).map String.ofList

/-- The value one step into a document. A position is also tried as the key of an object. -/
def step? (value : Json) : Segment → Option Json
  | .key name =>
    match value with
    | .object members => members.lookup name
    | _ => none
  | .index position =>
    match value with
    | .array items => items[position]?
    | .object members => members.lookup (String.ofList (Text.decimal position))
    | _ => none

/-- The value that a path addresses in a document. -/
def value? (document : Json) (path : String) : Option Json :=
  (segments path).foldlM step? document

example : segments "weather[0].description" = [.key "weather", .index 0, .key "description"] := by
  decide
example : segments "root" = [] := by decide
example : parent? "a.b[0][0]" = some "a.b[0]" := by decide
example : lastName "weather[0]" = "0" := by decide

end Botwright.FieldPath
