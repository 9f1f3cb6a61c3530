import Botwright.Json.Basic

/-!
JSON values as text, in a compact form without spaces and a pretty form with one item a line.
-/
namespace Botwright.Json

/-- Numbers are positional when the exponent of the first digit is from -5 to 15; otherwise the
exponent is written with its sign. -/
def numberLayout : Numeric.Layout := ⟨-5, 15, 'e', true⟩

/-- A number as text. -/
def numberText : Json.Number → List Char
  | .integer value _ => Text.signedDecimal value
  | .real value => numberLayout.number value

/-- A character inside a string: quote, backslash and the controls below U+0020 are escaped. -/
def escapeChar (c : Char) : List Char :=
  if c = '"' then ['\\', '"']
  else if c = '\\' then ['\\', '\\']
  else if c = '\n' then ['\\', 'n']
  else if c = '\r' then ['\\', 'r']
  else if c = '\t' then ['\\', 't']
  else if c = '\x08' then ['\\', 'b']
  else if c = '\x0c' then ['\\', 'f']
  else if c.toNat < 0x20 then '\\' :: 'u' :: Text.hex 4 c.toNat
  else [c]

/-- A string in double quotes. -/
def quote (s : List Char) : List Char := '"' :: s.flatMap escapeChar ++ ['"']

mutual

/-- The value without any space. -/
def compactText : Json → List Char
  | .null => ['n', 'u', 'l', 'l']
  | .bool true => ['t', 'r', 'u', 'e']
  | .bool false => ['f', 'a', 'l', 's', 'e']
  | .number n => numberText n
  | .string s => quote s.toList
  | .array items => '[' :: compactItems items
  | .object members => '{' :: compactMembers members

/-- The items of an array with its closing bracket. -/
def compactItems : List Json → List Char
  | [] => [']']
  | [item] => compactText item ++ [']']
  | item :: rest => compactText item ++ ',' :: compactItems rest

/-- The members of an object with its closing brace. -/
def compactMembers : List (String × Json) → List Char
  | [] => ['}']
  | [(key, value)] => quote key.toList ++ ':' :: compactText value ++ ['}']
  | (key, value) :: rest =>
    quote key.toList ++ ':' :: compactText value ++ ',' :: compactMembers rest

end

/-- A new line indented by two spaces a level. -/
def newLine (level : Nat) : List Char := '\n' :: List.replicate (2 * level) ' '

mutual

/-- The value over several lines, after a line indented by `level`. -/
def prettyText (level : Nat) : Json → List Char
  | .null => ['n', 'u', 'l', 'l']
  | .bool true => ['t', 'r', 'u', 'e']
  | .bool false => ['f', 'a', 'l', 's', 'e']
  | .number n => numberText n
  | .string s => quote s.toList
  | .array [] => ['[', ']']
  | .array (item :: rest) => '[' :: prettyItems level (item :: rest)
  | .object [] => ['{', '}']
  | .object (member :: rest) => '{' :: prettyMembers level (member :: rest)

/-- The items of an array, one a line, with its closing bracket. -/
def prettyItems (level : Nat) : List Json → List Char
  | [] => newLine level ++ [']']
  | [item] => newLine (level + 1) ++ prettyText (level + 1) item ++ newLine level ++ [']']
  | item :: rest =>
    newLine (level + 1) ++ prettyText (level + 1) item ++ ',' :: prettyItems level rest

/-- The members of an object, one a line, with its closing brace. -/
def prettyMembers (level : Nat) : List (String × Json) → List Char
  | [] => newLine level ++ ['}']
  | [(key, value)] =>
    newLine (level + 1) ++ quote key.toList ++ ':' :: ' ' :: prettyText (level + 1) value ++
      newLine level ++ ['}']
  | (key, value) :: rest =>
    newLine (level + 1) ++ quote key.toList ++ ':' :: ' ' :: prettyText (level + 1) value ++
      ',' :: prettyMembers level rest

end

/-- The compact text of a value. -/
def compact (value : Json) : String := String.ofList (compactText value)

/-- The pretty text of a value. -/
def pretty (value : Json) : String := String.ofList (prettyText 0 value)

end Botwright.Json
