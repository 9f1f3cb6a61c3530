import Botwright.Numeric.Binary64
import Botwright.Text.Decimal
import Botwright.Toml.Text

/-!
Numbers, dates and times in TOML. Only what follows them matters here, and whether they are in
range: integers of 64 bits, floats that are not plus infinity unless they say so, days that the
month has.
-/
namespace Botwright.Toml

/-! ## Integers -/

/-- Digits that may have single underscores between them, and the text after them. -/
def spanUnderscored (isDigit : Char → Bool) : List Char → List Char × List Char
  | '_' :: c :: rest =>
    if isDigit c then
      let (digits, rest) := spanUnderscored isDigit rest
      (c :: digits, rest)
    else ([], '_' :: c :: rest)
  | c :: rest =>
    if isDigit c then
      let (digits, rest) := spanUnderscored isDigit rest
      (c :: digits, rest)
    else ([], c :: rest)
  | [] => ([], [])

/-- A non-empty run of digits that may begin with zeros. -/
def readDigits? (isDigit : Char → Bool) (s : List Char) : Option (List Char × List Char) :=
  match s with
  | [] => none
  | c :: _ => if isDigit c then some (spanUnderscored isDigit s) else none

/-- A sign: whether it is a minus. -/
def readSign : List Char → Bool × List Char
  | '+' :: rest => (false, rest)
  | '-' :: rest => (true, rest)
  | s => (false, s)

/-- The digits of a decimal integer without needless zeros. -/
def readWhole? (s : List Char) : Option (List Char × List Char) :=
  match s with
  | '0' :: rest => some (['0'], rest)
  | s => readDigits? Char.isDigit s

/-- What follows an integer in another base, if its value fits. -/
def radixInteger? (base : Nat) (isDigit : Char → Bool) (s : List Char) : Option (List Char) := do
  let (digits, rest) ← readDigits? isDigit s
  let value ← digits.foldlM (fun n c => (Json.hexValue? c).map fun d => base * n + d) 0
  if value < Numeric.signedLimit then some rest else none

/-- What follows an integer. -/
def integer? (s : List Char) : Option (List Char) :=
  match s with
  | '0' :: 'x' :: rest => radixInteger? 16 (fun c => (Json.hexValue? c).isSome) rest
  | '0' :: 'o' :: rest => radixInteger? 8 (fun c => '0' ≤ c && c ≤ '7') rest
  | '0' :: 'b' :: rest => radixInteger? 2 (fun c => c = '0' || c = '1') rest
  | s => do
    let (negative, rest) := readSign s
    let (digits, rest) ← readWhole? rest
    let value := Text.digitsValue 0 digits
    if value < Numeric.signedLimit ∨ (negative ∧ value = Numeric.signedLimit) then some rest
    else none

/-! ## Floats -/

/-- The fraction of a float: its digits, none if there is no point. -/
def readFraction? : List Char → Option (List Char × List Char)
  | '.' :: rest => readDigits? Char.isDigit rest
  | s => some ([], s)

/-- The exponent of a float, if there is one. -/
def readExponent? : List Char → Option (Option Int × List Char)
  | [] => some (none, [])
  | c :: rest =>
    if c = 'e' ∨ c = 'E' then do
      let (negative, rest) := readSign rest
      let (digits, rest) ← readDigits? Char.isDigit rest
      let value : Int := Text.digitsValue 0 digits
      return (some (if negative then -value else value), rest)
    else some (none, c :: rest)

/-- Whether `10^exponent` times the number that the digits write rounds to a finite number. -/
def isFinite (digits : List Char) (exponent : Int) : Bool :=
  let value := Text.digitsValue 0 digits
  let places : Int := (Text.decimal value).length + exponent
  if value = 0 ∨ places < 0 then true
  else if 400 < places then false
  else if 0 ≤ exponent then
    (Numeric.Binary64.ofRatio? false (value * Nat.pow 10 exponent.toNat) 1).isSome
  else (Numeric.Binary64.ofRatio? false value (Nat.pow 10 (-exponent).toNat)).isSome

/-- What follows a float with a fraction or an exponent. -/
def decimalFloat? (s : List Char) : Option (List Char) := do
  let (negative, rest) := readSign s
  let (whole, rest) ← readWhole? rest
  let (fraction, rest) ← readFraction? rest
  let (exponent, rest) ← readExponent? rest
  if fraction = [] ∧ exponent = none then none
  if negative ∨ isFinite (whole ++ fraction) (exponent.getD 0 - fraction.length) then some rest
  else none

/-- What follows `inf` or `nan`. -/
def specialFloat? (s : List Char) : Option (List Char) :=
  match (readSign s).2 with
  | 'i' :: 'n' :: 'f' :: rest => some rest
  | 'n' :: 'a' :: 'n' :: rest => some rest
  | _ => none

/-! ## Dates and times -/

/-- A number of exactly `width` digits within bounds. -/
def fixedDigits? (width low high : Nat) (s : List Char) : Option (Nat × List Char) :=
  let digits := s.take width
  let value := Text.digitsValue 0 digits
  if digits.length = width ∧ digits.all Char.isDigit ∧ low ≤ value ∧ value ≤ high then
    some (value, s.drop width)
  else none

/-- What follows a given character. -/
def after? (c : Char) : List Char → Option (List Char)
  | d :: rest => if d = c then some rest else none
  | [] => none

/-- The number of days of a month. -/
def daysIn (year month : Nat) : Nat :=
  if month = 2 then
    if year % 4 = 0 ∧ (year % 100 ≠ 0 ∨ year % 400 = 0) then 29 else 28
  else if [4, 6, 9, 11].contains month then 30
  else 31

/-- What follows a date. -/
def date? (s : List Char) : Option (List Char) := do
  let (year, rest) ← fixedDigits? 4 0 9999 s
  let rest ← after? '-' rest
  let (month, rest) ← fixedDigits? 2 1 12 rest
  let rest ← after? '-' rest
  let (_, rest) ← fixedDigits? 2 1 (daysIn year month) rest
  return rest

/-- What follows the fraction of a second, if there is one. -/
def skipSecondFraction : List Char → List Char
  | '.' :: c :: rest => if c.isDigit then rest.dropWhile Char.isDigit else '.' :: c :: rest
  | s => s

/-- What follows a time. -/
def time? (s : List Char) : Option (List Char) := do
  let (_, rest) ← fixedDigits? 2 0 23 s
  let rest ← after? ':' rest
  let (_, rest) ← fixedDigits? 2 0 59 rest
  let rest ← after? ':' rest
  let (_, rest) ← fixedDigits? 2 0 60 rest
  return skipSecondFraction rest

/-- What follows an offset from universal time. -/
def offset? : List Char → Option (List Char)
  | [] => none
  | c :: rest =>
    if c = 'Z' ∨ c = 'z' then some rest
    else if c = '+' ∨ c = '-' then do
      let (_, rest) ← fixedDigits? 2 0 23 rest
      let rest ← after? ':' rest
      let (_, rest) ← fixedDigits? 2 0 59 rest
      return rest
    else none

/-- What follows a time after a date, if there is one. -/
def skipTimeOfDate : List Char → List Char
  | [] => []
  | c :: rest =>
    if c = 'T' ∨ c = 't' ∨ c = ' ' then
      match time? rest with
      | some rest => (offset? rest).getD rest
      | none => c :: rest
    else c :: rest

/-- What follows a date, a time, or a date with a time. -/
def dateTime? (s : List Char) : Option (List Char) :=
  match date? s with
  | some rest => some (skipTimeOfDate rest)
  | none => time? s

/-- What follows a number, a date or a time. -/
def scalarEnd? (s : List Char) : Option (List Char) :=
  match s with
  | [] => none
  | c :: _ =>
    if c.isDigit ∨ c = '+' ∨ c = '-' then
      (dateTime? s).or ((decimalFloat? s).or ((specialFloat? s).or (integer? s)))
    else specialFloat? s

end Botwright.Toml
