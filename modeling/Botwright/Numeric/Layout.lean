import Botwright.Numeric.Shortest
import Botwright.Text.Decimal

/-!
How a decimal is laid out as text: positional between two exponents and scientific outside.
-/
namespace Botwright.Numeric

/-- The decisions of a number format. -/
structure Layout where
  /-- The least exponent of the first digit that is written positionally. -/
  leastPositional : Int
  /-- The greatest exponent of the first digit that is written positionally. -/
  greatestPositional : Int
  /-- Written between digits and exponent. -/
  exponentMark : Char
  /-- Whether an exponent that is not negative has a sign. -/
  signsExponent : Bool

/-- The text of `digits · 10^exponent` where `digits` is written as `text`. -/
def Layout.write (layout : Layout) (text : List Char) (exponent : Int) : List Char :=
  let count := text.length
  let first : Int := exponent + count - 1
  if layout.leastPositional ≤ first ∧ first ≤ layout.greatestPositional then
    if 0 ≤ exponent then text ++ List.replicate exponent.toNat '0' ++ ['.', '0']
    else if 0 ≤ first then
      text.take (first.toNat + 1) ++ ['.'] ++ text.drop (first.toNat + 1)
    else ['0', '.'] ++ List.replicate ((-first).toNat - 1) '0' ++ text
  else
    let fraction := match text.drop 1 with
      | [] => []
      | rest => '.' :: rest
    let sign := if 0 ≤ first ∧ layout.signsExponent then ['+'] else []
    text.take 1 ++ fraction ++ [layout.exponentMark] ++ sign ++ Text.signedDecimal first

/-- The text of a binary64 number: a sign if negative, then its shortest decimal. -/
def Layout.number (layout : Layout) (x : Binary64) : List Char :=
  let shortest := x.shortest
  (if x.negative then ['-'] else []) ++
    layout.write (Text.decimal shortest.digits) shortest.exponent

end Botwright.Numeric
