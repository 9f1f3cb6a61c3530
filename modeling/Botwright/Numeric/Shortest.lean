import Botwright.Numeric.Binary64

/-!
The shortest decimal that reads back as a given binary64 number, and of those the nearest to it.
A decimal is a whole number of steps of a power of ten. The coarsest grid on which some point
rounds to the number gives the fewest digits, and if any point of a grid does so, then one of the
two points beside the number does.
-/
namespace Botwright.Numeric

/-- The decimal `digits · 10^exponent`. -/
structure Decimal where
  digits : Nat
  exponent : Int
  deriving DecidableEq, Repr

/-- The magnitudes that round to a code, as bounds in units of 2^-1075. The bounds themselves are
midpoints, which round to the even code. -/
structure Cell where
  low : Nat
  middle : Nat
  high : Nat
  closed : Bool

/-- The cell of a code above zero. -/
def Cell.ofCode (code : Nat) : Cell where
  low := unitsOfCode code + unitsOfCode (code - 1)
  middle := 2 * unitsOfCode code
  high := unitsOfCode code + unitsOfCode (code + 1)
  closed := code % 2 = 0

/-- Whether `num / den` lies in the cell. -/
def Cell.has (cell : Cell) (num den : Nat) : Bool :=
  if cell.closed then cell.low * den ≤ num && num ≤ cell.high * den
  else cell.low * den < num && num < cell.high * den

/-- The power of ten as a quotient of natural numbers. -/
def powerOfTen (exponent : Int) : Nat × Nat :=
  if 0 ≤ exponent then (Nat.pow 10 exponent.toNat, 1) else (1, Nat.pow 10 (-exponent).toNat)

/-- The point in the cell among the two grid points beside its middle; the nearer if both are, the
even one if they are equally near. -/
def pointOnGrid? (cell : Cell) (exponent : Int) : Option Nat :=
  let (num, den) := powerOfTen exponent
  let step := num * Nat.pow 2 1075
  let below := cell.middle * den / step
  let nearest := roundHalfEven (cell.middle * den) step
  if cell.has (nearest * step) den then some nearest
  else if cell.has (below * step) den then some below
  else if cell.has ((below + 1) * step) den then some (below + 1)
  else none

/-- The first grid with a point in the cell, from `exponent` down through `steps` finer ones. -/
def searchGrids (cell : Cell) (exponent : Int) : Nat → Decimal
  | 0 => ⟨0, exponent⟩
  | steps + 1 =>
    match pointOnGrid? cell exponent with
    | some digits => ⟨digits, exponent⟩
    | none => searchGrids cell (exponent - 1) steps

/-- The largest power of ten that is a binary64 number. -/
def topExponent : Int := 308

/-- Grids from 10^308 to 10^-324; the finest is finer than every cell. -/
def gridCount : Nat := 633

/-- The shortest decimal in the cell of the number. -/
def Binary64.shortest (x : Binary64) : Decimal :=
  if x.code = 0 then ⟨0, 0⟩ else searchGrids (Cell.ofCode x.code) topExponent gridCount

end Botwright.Numeric
