/-!
Quotients of natural numbers rounded to the nearest integer. A tie goes to the even neighbour.
-/
namespace Botwright.Numeric

/-- The integer nearest to `num / den`; of two at the same distance, the even one. -/
def roundHalfEven (num den : Nat) : Nat :=
  let floor := num / den
  let rest := num % den
  if 2 * rest < den ∨ (2 * rest = den ∧ floor % 2 = 0) then floor else floor + 1

/-- A quotient that is an integer is that integer. -/
theorem roundHalfEven_mul (n : Nat) {den : Nat} (positive : 0 < den) :
    roundHalfEven (n * den) den = n := by
  simp [roundHalfEven, Nat.mul_div_cancel n positive, positive]

end Botwright.Numeric
