import Botwright.Numeric.Width

/-!
Whole numbers written in decimal. Reading takes ASCII digits with one optional sign and refuses what
does not fit into 64 bits; leading zeros are read.
-/
namespace Botwright.Text

/-- The value of a digit. -/
def digitValue (c : Char) : Nat := c.toNat - '0'.toNat

/-- The value of a run of digits, continued from `value`. -/
def digitsValue (value : Nat) (digits : List Char) : Nat :=
  digits.foldl (fun n c => 10 * n + digitValue c) value

/-- A non-empty run of ASCII digits and nothing else. -/
def readDigits? (s : List Char) : Option Nat :=
  if s ≠ [] ∧ s.all Char.isDigit then some (digitsValue 0 s) else none

/-- The number without its optional `+`. -/
def dropPlus : List Char → List Char
  | '+' :: rest => rest
  | s => s

/-- A number that fits into an unsigned word. -/
def readUnsigned? (s : List Char) : Option Nat :=
  (readDigits? (dropPlus s)).filter (· < Numeric.unsignedLimit)

/-- A number that fits into a signed word. -/
def readSigned? : List Char → Option Int
  | '-' :: rest => ((readDigits? rest).filter (· ≤ Numeric.signedLimit)).map fun n => -(n : Int)
  | s => ((readDigits? (dropPlus s)).filter (· < Numeric.signedLimit)).map Int.ofNat

/-- A number in decimal. -/
def decimal (n : Nat) : List Char := Nat.toDigits 10 n

/-- A signed number in decimal. -/
def signedDecimal : Int → List Char
  | .ofNat n => decimal n
  | .negSucc n => '-' :: decimal (n + 1)

/-- A text filled up to `width` characters on the left. -/
def padLeft (width : Nat) (fill : Char) (s : List Char) : List Char :=
  List.replicate (width - s.length) fill ++ s

/-- A text filled up to `width` characters with spaces on the right. -/
def padRight (width : Nat) (s : List Char) : List Char :=
  s ++ List.replicate (width - s.length) ' '

/-- The lower-case hexadecimal digits of a number, at least `width` of them. -/
def hex (width n : Nat) : List Char := padLeft width '0' (Nat.toDigits 16 n)

end Botwright.Text
