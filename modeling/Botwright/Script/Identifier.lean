import Botwright.Text.Alphabetic
import Botwright.Text.Case
import Botwright.Text.Letter
import Botwright.Text.Split
import Botwright.FieldPath

/-!
JavaScript names for arbitrary text: what counts as an identifier, how text is made into one, and
the names of handlers and of the locals that hold fields.
-/
namespace Botwright.Script

/-- A character that may begin an identifier. -/
def isIdentifierStart (c : Char) : Bool :=
  c = '_' || c = '$' || c.isAlpha || (0x80 ≤ c.toNat && Text.isAlphabetic c)

/-- A character that may stand after the first in an identifier. -/
def isIdentifierPart (c : Char) : Bool :=
  isIdentifierStart c || c.isDigit || (0x80 ≤ c.toNat && Text.isNumber c)

/-- Whether a text can be written as a bare name. -/
def isIdentifierText : List Char → Bool
  | [] => false
  | c :: rest => isIdentifierStart c && rest.all isIdentifierPart

/-- Whether a text can be written as a bare name. -/
def isIdentifier (s : String) : Bool := isIdentifierText s.toList

/-- The text with an underscore for every character that no identifier holds. -/
def sanitizeChars (s : List Char) : List Char :=
  s.map fun c => if isIdentifierPart c then c else '_'

/-- An identifier for a text; one that would begin wrongly gets an underscore in front. -/
def sanitizeText (s : List Char) : List Char :=
  match sanitizeChars s with
  | [] => ['_']
  | c :: rest => if isIdentifierStart c then c :: rest else '_' :: c :: rest

/-- An identifier for a text. -/
def sanitize (s : String) : String := String.ofList (sanitizeText s.toList)

/-- The text with its first character in upper case. -/
def capitalize (s : String) : String := String.ofList (Text.capitalize s.toList)

/-- The handler's name for a command: its words, split at dashes and underscores, each capitalized.
Commands with the same words share a name. -/
def handlerName (command : String) : String :=
  let words := Text.pieces (fun c => c = '-' || c = '_') command.toList
  "handle" ++ String.ofList (sanitizeChars (words.flatMap Text.capitalize))

/-- The last two keys on a path, without the positions. -/
def lastKeys (path : String) : List String :=
  let keys := (FieldPath.segments path).filterMap fun
    | .key name => some name
    | .index _ => none
  keys.drop (keys.length - 2)

/-- The name that a local for the field at a path is given if nothing else has it. -/
def fieldName (path : String) : String :=
  let joined := match lastKeys path with
    | [] => ""
    | key :: rest => key ++ String.join (rest.map capitalize)
  if joined = "" then "value" else sanitize joined

end Botwright.Script
