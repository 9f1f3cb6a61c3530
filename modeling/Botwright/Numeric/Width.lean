/-!
The ranges of whole numbers that words of 64 bits hold.
-/
namespace Botwright.Numeric

/-- Signed words hold the numbers from the negation of this one up to, and without, it. -/
abbrev signedLimit : Nat := 9223372036854775808

/-- Unsigned words hold the numbers from zero up to, and without, this one. -/
abbrev unsignedLimit : Nat := 18446744073709551616

end Botwright.Numeric
