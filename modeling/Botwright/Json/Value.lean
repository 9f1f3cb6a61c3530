import Botwright.Assoc
import Botwright.Json.Document

/-!
The values that documents stand for. Numbers outside the range of binary64, lone surrogates and
nesting beyond `maxDepth` have none.

A number without fraction and exponent that fits into 64 bits is an integer. Any other is computed
from the leading digits, as many as fit into 64 bits, by one multiplication with a power of ten or a
division by one; both operands and the result are rounded.
-/
namespace Botwright.Json

open Numeric (Binary64)

/-- The characters that the units of a string stand for. Two units that form a surrogate pair are
one character. -/
def unitsText? : List StringUnit → Option (List Char)
  | [] => some []
  | .plain c :: rest => (unitsText? rest).map (c :: ·)
  | .code high :: .code low :: rest =>
    if 0xD800 ≤ high ∧ high < 0xDC00 then
      if 0xDC00 ≤ low ∧ low < 0xE000 then
        let code := 0x10000 + (high - 0xD800) * 0x400 + (low - 0xDC00)
        (unitsText? rest).map (Char.ofNat code :: ·)
      else none
    else if 0xDC00 ≤ high ∧ high < 0xE000 then none
    else (unitsText? (.code low :: rest)).map (Char.ofNat high :: ·)
  | .code n :: rest =>
    if 0xD800 ≤ n ∧ n < 0xE000 then none else (unitsText? rest).map (Char.ofNat n :: ·)

/-- The string that units write. -/
def stringOf? (units : List StringUnit) : Option String := (unitsText? units).map String.ofList

/-- Takes digits into `value` while it fits into 64 bits: the value, and how many digits were taken
and how many were left. -/
def takeDigits (value : Nat) : List Char → Nat × Nat × Nat
  | [] => (value, 0, 0)
  | c :: rest =>
    let next := 10 * value + Text.digitValue c
    if next < Numeric.unsignedLimit then
      let (total, taken, left) := takeDigits next rest
      (total, taken + 1, left)
    else (value, 0, rest.length + 1)

/-- The power of ten nearest to `10^exponent`. -/
def tenTo? (exponent : Nat) : Option Binary64 := Binary64.ofRatio? false (Nat.pow 10 exponent) 1

/-- The binary64 number for `significand · 10^exponent`, computed in at most three rounded steps. -/
def scaled? (negative : Bool) (significand : Nat) (exponent : Int) : Option Binary64 := do
  let start ← Binary64.ofRatio? negative significand 1
  if significand = 0 ∨ exponent < -616 then return Binary64.zero negative
  else if 308 < exponent then none
  else if 0 ≤ exponent then start.scaleUp? (← tenTo? exponent.toNat)
  else if -308 ≤ exponent then start.scaleDown? (← tenTo? (-exponent).toNat)
  else (← start.scaleDown? (← tenTo? 308)).scaleDown? (← tenTo? (-308 - exponent).toNat)

/-- The exponent that a numeral writes. -/
def Numeral.writtenExponent (n : Numeral) : Int :=
  match n.exponent with
  | none => 0
  | some (true, digits) => -(Text.digitsValue 0 digits : Int)
  | some (false, digits) => Text.digitsValue 0 digits

/-- The binary64 number that a numeral stands for. -/
def Numeral.real? (n : Numeral) : Option Binary64 :=
  let (whole, _, dropped) := takeDigits 0 n.whole
  let (significand, places, _) := takeDigits whole n.fraction
  scaled? n.negative significand (n.writtenExponent + dropped - places)

/-- The number that a numeral stands for. Minus zero is not an integer. -/
def Numeral.value? (n : Numeral) : Option Number :=
  let magnitude := Text.digitsValue 0 n.whole
  let value : Int := if n.negative then -magnitude else magnitude
  if inRange : -(Numeric.signedLimit : Int) ≤ value ∧ value < Numeric.unsignedLimit then
    if n.fraction = [] ∧ n.exponent = none ∧ ¬(n.negative ∧ magnitude = 0) then
      some (.integer value inRange)
    else n.real?.map .real
  else n.real?.map .real

mutual

/-- The value of a document that may open `depth` more arrays and objects. -/
def Document.valueWithin? (depth : Nat) : Document → Option Json
  | .null => some .null
  | .bool b => some (.bool b)
  | .number n => n.value?.map .number
  | .string units => (stringOf? units).map .string
  | .array items =>
    if depth = 0 then none else (itemsWithin? (depth - 1) items).map .array
  | .object members =>
    if depth = 0 then none else (membersWithin? (depth - 1) [] members).map .object

def itemsWithin? (depth : Nat) : List Document → Option (List Json)
  | [] => some []
  | item :: rest => do
    let value ← item.valueWithin? depth
    let values ← itemsWithin? depth rest
    return value :: values

/-- The members of an object after those already read. A repeated key keeps its place and takes the
last value. -/
def membersWithin? (depth : Nat) (before : List (String × Json)) :
    List (List StringUnit × Document) → Option (List (String × Json))
  | [] => some before
  | (key, member) :: rest => do
    let key ← stringOf? key
    let value ← member.valueWithin? depth
    membersWithin? depth (Assoc.put key value before) rest

end

/-- The value of a document. -/
def Document.value? (document : Document) : Option Json := document.valueWithin? maxDepth

/-- The value that a JSON text writes, unless the text is not valid. -/
def read? (text : String) : Option Json := (Document.read? text.toList).bind (·.value?)

end Botwright.Json
