import Botwright.Text.Blank
import Botwright.Text.Decimal

/-!
JavaScript literals for arbitrary text. Whatever a user writes reaches a generated module only
through one of these escapings, and none of them lets a line end inside a literal or a comment.
-/
namespace Botwright.Script

/-- A character between single quotes. -/
def quotedChar (c : Char) : List Char :=
  if c = '\\' then ['\\', '\\']
  else if c = '\'' then ['\\', '\'']
  else if c = '\n' then ['\\', 'n']
  else if c = '\r' then ['\\', 'r']
  else if c = '\t' then ['\\', 't']
  else if c = '\u2028' ∨ c = '\u2029' ∨ Text.isControl c then '\\' :: 'u' :: Text.hex 4 c.toNat
  else [c]

/-- A single-quoted string literal. -/
def quoted (s : List Char) : List Char := '\'' :: s.flatMap quotedChar ++ ['\'']

/-- Text between the backticks of a template literal. A dollar sign is escaped only where it would
open a substitution. -/
def templateChars : List Char → List Char
  | [] => []
  | c :: rest =>
    let escaped :=
      if c = '\\' then ['\\', '\\']
      else if c = '\x60' then ['\\', '\x60']
      else if c = '$' ∧ rest.head? = some '{' then ['\\', '$']
      else if c = '\r' then ['\\', 'r']
      else if c = '\n' then ['\\', 'n']
      else [c]
    escaped ++ templateChars rest

/-- A character that ends a line comment. -/
def isLineEnd (c : Char) : Bool := c = '\n' || c = '\r' || c = '\u2028' || c = '\u2029'

/-- The literal of a text in single quotes. -/
def stringLiteral (s : String) : String := String.ofList (quoted s.toList)

/-- The text as it is written between backticks. -/
def templateText (s : String) : String := String.ofList (templateChars s.toList)

/-- The text for a line comment: line ends become spaces. -/
def commentText (s : String) : String :=
  String.ofList (s.toList.map fun c => if isLineEnd c then ' ' else c)

end Botwright.Script
