import Botwright.Numeric.Rounding

/-!
Finite binary64 numbers as sign and code. The codes of magnitudes are their bit patterns, so they
count the magnitudes upwards from zero; every magnitude is a whole number of units of 2^-1074, and
arithmetic is exact arithmetic on units followed by one rounding to nearest, ties to even.
-/
namespace Botwright.Numeric

/-- The code that infinity would have. -/
def infinityCode : Nat := 2047 * Nat.pow 2 52

/-- The magnitude of a code in units of 2^-1074. -/
def unitsOfCode (code : Nat) : Nat :=
  let step := Nat.pow 2 52
  if code < step then code else (step + code % step) * Nat.pow 2 (code / step - 1)

/-- The code whose magnitude is nearest to `num / den`; an even code wins a tie. -/
def codeOfRatio (num den : Nat) : Nat :=
  let scaled := num * Nat.pow 2 1074
  let shift := Nat.log2 (scaled / den) - 52
  shift * Nat.pow 2 52 + roundHalfEven scaled (den * Nat.pow 2 shift)

/-- A finite binary64 number. -/
structure Binary64 where
  negative : Bool
  code : Nat
  finite : code < infinityCode
  deriving DecidableEq

namespace Binary64

/-- The magnitude in units of 2^-1074. -/
def units (x : Binary64) : Nat := unitsOfCode x.code

def zero (negative : Bool) : Binary64 := ⟨negative, 0, by decide⟩

/-- The number nearest to `num / den`, unless that is out of range. -/
def ofRatio? (negative : Bool) (num den : Nat) : Option Binary64 :=
  if finite : codeOfRatio num den < infinityCode then some ⟨negative, codeOfRatio num den, finite⟩
  else none

/-- The rounded product of the magnitudes, under the sign of the first factor. -/
def scaleUp? (x y : Binary64) : Option Binary64 :=
  ofRatio? x.negative (x.units * y.units) (Nat.pow 2 2148)

/-- The rounded quotient of the magnitudes, under the sign of the dividend. -/
def scaleDown? (x y : Binary64) : Option Binary64 := ofRatio? x.negative x.units y.units

end Binary64

end Botwright.Numeric
