import Mathlib.Data.Nat.Factorization.Basic
import Botwright.Numeric.Layout

/-! Numbers as the names of properties. A numeral between brackets is read as a binary64
number, and what names the property is that number written again, by its shortest decimal.
Below 2^53 every whole number has the cell around it to itself, so its own digits are what
is written; above, a numeral may come to name another property than it spells. -/
namespace Botwright.NumberKeys
open Numeric

/-- Numbers are written positionally from a millionth up to, and without, 10^21. -/
def keyLayout : Layout := ⟨-6, 20, 'e', true⟩

/-- A decimal as it is written in the name of a property; a whole number has no fraction. -/
def keyText (decimal : Decimal) : List Char :=
  let text := Text.decimal decimal.digits
  if 0 ≤ decimal.exponent ∧ decimal.exponent + text.length ≤ 21 then
    text ++ List.replicate decimal.exponent.toNat '0'
  else keyLayout.write text decimal.exponent

/-- The property that a numeral between brackets names. -/
def numeralKey (n : Nat) : String :=
  (Binary64.ofRatio? false n 1).elim "Infinity" fun number =>
    String.ofList (keyText number.shortest)

/-- Below infinity, what is written is the shortest decimal of the code. -/
theorem numeral_key_finite (finite : codeOfRatio n 1 < infinityCode) :
    numeralKey n =
      String.ofList (keyText (Binary64.shortest ⟨false, codeOfRatio n 1, finite⟩)) := by
  have number : Binary64.ofRatio? false n 1 = some ⟨false, codeOfRatio n 1, finite⟩ :=
    dif_pos finite
  rw [numeralKey, number, Option.elim_some]

/-! ## Codes of whole numbers -/

/-- A magnitude of 53 binary digits has its code without rounding. -/
theorem code_of_digits (least : 2 ^ 52 ≤ m) (below : m < 2 ^ 53)
    (magnitude : n * 2 ^ 1074 = m * 2 ^ shift) : codeOfRatio n 1 = shift * 2 ^ 52 + m := by
  have positive : 0 < 2 ^ shift := Nat.two_pow_pos shift
  have nonzero : m * 2 ^ shift ≠ 0 := (Nat.mul_pos (by omega) positive).ne'
  have size : Nat.log2 (m * 2 ^ shift) = 52 + shift := by
    rw [Nat.log2_eq_iff nonzero, show 52 + shift + 1 = 53 + shift by omega, Nat.pow_add,
      Nat.pow_add]
    exact ⟨Nat.mul_le_mul_right _ least, Nat.mul_lt_mul_of_pos_right below positive⟩
  simp only [codeOfRatio, Nat.pow_eq, Nat.div_one, Nat.one_mul, magnitude, size,
    Nat.add_sub_cancel_left, roundHalfEven_mul m positive]

/-- The magnitude of such a code, also at the step to the next power of two. -/
theorem units_of_digits (least : 2 ^ 52 ≤ m) (most : m ≤ 2 ^ 53) (shift : Nat) :
    unitsOfCode (shift * 2 ^ 52 + m) = m * 2 ^ shift := by
  have large : ¬shift * 2 ^ 52 + m < 2 ^ 52 := by omega
  simp only [unitsOfCode, Nat.pow_eq, if_neg large]
  rcases Nat.lt_or_eq_of_le most with below | rfl
  · have quotient : (shift * 2 ^ 52 + m) / 2 ^ 52 = shift + 1 := by omega
    have rest : 2 ^ 52 + (shift * 2 ^ 52 + m) % 2 ^ 52 = m := by omega
    rw [quotient, rest, Nat.add_sub_cancel]
  · have quotient : (shift * 2 ^ 52 + 2 ^ 53) / 2 ^ 52 = shift + 2 := by omega
    have rest : 2 ^ 52 + (shift * 2 ^ 52 + 2 ^ 53) % 2 ^ 52 = 2 ^ 52 := by omega
    rw [quotient, rest, show shift + 2 - 1 = shift + 1 by omega, Nat.pow_succ]
    omega

/-- A whole number below 2^53 as a magnitude of 53 binary digits. -/
theorem digits_of_whole (positive : 0 < n) (small : n < 2 ^ 53) :
    ∃ m shift, 2 ^ 52 ≤ m ∧ m < 2 ^ 53 ∧ 0 < shift ∧ shift ≤ 1074 ∧
      n * 2 ^ 1074 = m * 2 ^ shift := by
  have nonzero : n ≠ 0 := positive.ne'
  have lower := Nat.log2_self_le nonzero
  have upper : n < 2 ^ (n.log2 + 1) := (Nat.log2_lt nonzero).mp (Nat.lt_succ_self _)
  have few : n.log2 < 53 := (Nat.log2_lt nonzero).mpr small
  generalize n.log2 = size at *
  have scale : 0 < 2 ^ (52 - size) := Nat.two_pow_pos _
  refine ⟨n * 2 ^ (52 - size), size + 1022, ?_, ?_, by omega, by omega, ?_⟩
  · calc 2 ^ 52 = 2 ^ size * 2 ^ (52 - size) := by rw [← Nat.pow_add]; congr 1; omega
      _ ≤ n * 2 ^ (52 - size) := Nat.mul_le_mul_right _ lower
  · calc n * 2 ^ (52 - size) < 2 ^ (size + 1) * 2 ^ (52 - size) :=
          Nat.mul_lt_mul_of_pos_right upper scale
      _ = 2 ^ 53 := by rw [← Nat.pow_add]; congr 1; omega
  · rw [Nat.mul_assoc, ← Nat.pow_add, show 52 - size + (size + 1022) = 1074 by omega]

/-- No code of a small whole number is that of zero or of infinity. -/
theorem code_range (positive : 0 < n) (small : n < 2 ^ 53) :
    0 < codeOfRatio n 1 ∧ codeOfRatio n 1 < infinityCode := by
  obtain ⟨m, shift, least, below, step, most, magnitude⟩ := digits_of_whole positive small
  rw [code_of_digits least below magnitude, infinityCode, Nat.pow_eq]
  omega

/-! ## Cells of whole numbers -/

/-- A cell reaches to both sides of a middle, but to none by more than a half. -/
structure Around (cell : Cell) (middle half : Nat) : Prop where
  center : cell.middle = middle
  low : middle ≤ cell.low + half
  below : cell.low < middle
  high : cell.high ≤ middle + half
  above : middle < cell.high

/-- A cell between the midpoints to a magnitude `step` above and one no further below. -/
theorem around_steps (before : last < units ∧ units ≤ last + step) (some : 0 < step)
    (wide : step ≤ half) :
    Around ⟨units + last, 2 * units, units + (units + step), closed⟩ (2 * units) half := by
  constructor <;> simp only <;> omega

/-- The magnitude of the code below is less by one step, or by half of one where the step
changes. -/
theorem units_before (least : 2 ^ 52 ≤ m) (below : m < 2 ^ 53) (shift : Nat) :
    unitsOfCode ((shift + 1) * 2 ^ 52 + m - 1) < m * 2 ^ (shift + 1) ∧
      m * 2 ^ (shift + 1) ≤ unitsOfCode ((shift + 1) * 2 ^ 52 + m - 1) + 2 ^ (shift + 1) := by
  have positive : 0 < 2 ^ shift := Nat.two_pow_pos shift
  rcases Nat.lt_or_eq_of_le least with more | rfl
  · have code : (shift + 1) * 2 ^ 52 + m - 1 = (shift + 1) * 2 ^ 52 + (m - 1) := by omega
    have whole : m * 2 ^ (shift + 1) = (m - 1) * 2 ^ (shift + 1) + 2 ^ (shift + 1) := by
      rw [← Nat.succ_mul, Nat.succ_eq_add_one, Nat.sub_add_cancel (by omega)]
    rw [code, units_of_digits (by omega) (by omega), whole, Nat.pow_succ]
    omega
  · have code : (shift + 1) * 2 ^ 52 + 2 ^ 52 - 1 = shift * 2 ^ 52 + (2 ^ 53 - 1) := by omega
    rw [code, units_of_digits (by omega) (by omega), Nat.pow_succ]
    omega

/-- Half the steps between the magnitudes beside a whole number are at most a half. -/
theorem around_whole (positive : 0 < n) (small : n < 2 ^ 53) :
    Around (Cell.ofCode (codeOfRatio n 1)) (n * 2 ^ 1075) (2 ^ 1074) := by
  obtain ⟨m, shift, least, below, step, most, magnitude⟩ := digits_of_whole positive small
  obtain ⟨shift, rfl⟩ : ∃ less, shift = less + 1 := ⟨shift - 1, by omega⟩
  have wide : 2 ^ (shift + 1) ≤ 2 ^ 1074 := pow_le_pow_right₀ (by decide) most
  have units := units_of_digits least below.le (shift + 1)
  have next := units_of_digits (show 2 ^ 52 ≤ m + 1 by omega) below (shift + 1)
  have double : n * 2 ^ 1075 = 2 * (m * 2 ^ (shift + 1)) := by
    rw [← magnitude, show 1075 = 1074 + 1 from rfl, Nat.pow_add]
    omega
  rw [← Nat.add_assoc, Nat.add_mul m, Nat.one_mul] at next
  rw [double, Cell.ofCode, code_of_digits least below magnitude, units, next]
  exact around_steps (units_before least below shift) (Nat.two_pow_pos _) wide

/-- Of the whole numbers, only the one in the middle lies in the cell. -/
theorem has_whole_iff (around : Around cell (n * (2 * half)) half) (some : 0 < half) (p : Nat) :
    cell.has (p * (2 * half)) 1 = true ↔ p = n := by
  obtain ⟨-, low, below, high, above⟩ := around
  have inside : cell.has (p * (2 * half)) 1 = true →
      cell.low ≤ p * (2 * half) ∧ p * (2 * half) ≤ cell.high := by
    simp only [Cell.has, Nat.mul_one]
    split <;> simp only [Bool.and_eq_true, decide_eq_true_eq] <;> omega
  have apart {a b : Nat} (less : a < b) : a * (2 * half) + 2 * half ≤ b * (2 * half) := by
    rw [← Nat.succ_mul]
    exact Nat.mul_le_mul_right _ less
  constructor
  · intro has
    obtain ⟨least, most⟩ := inside has
    rcases Nat.lt_trichotomy p n with less | same | more
    · have := apart less
      omega
    · exact same
    · have := apart more
      omega
  · rintro rfl
    simp only [Cell.has, Nat.mul_one]
    split <;> simp only [Bool.and_eq_true, decide_eq_true_eq] <;> omega

/-! ## The search for the shortest decimal -/

/-- A grid of a power of ten has a point in the cell just if the number is on the grid. -/
theorem point_on_grid (around : Around cell (n * 2 ^ 1075) (2 ^ 1074)) (zeros : Nat) :
    pointOnGrid? cell zeros = if 10 ^ zeros ∣ n then some (n / 10 ^ zeros) else none := by
  have unit : 2 ^ 1075 = 2 * 2 ^ 1074 := by rw [show 1075 = 1074 + 1 from rfl, pow_succ']
  have power : powerOfTen zeros = (10 ^ zeros, 1) := by
    simp only [powerOfTen, Int.natCast_nonneg, if_true, Int.toNat_natCast, Nat.pow_eq]
  have positive : 0 < 10 ^ zeros := Nat.pow_pos (by decide)
  have has_iff (p : Nat) :
      cell.has (p * (10 ^ zeros * 2 ^ 1075)) 1 = true ↔ p * 10 ^ zeros = n := by
    have halves := around
    rw [unit] at halves
    rw [← Nat.mul_assoc, unit]
    exact has_whole_iff halves (pow_pos (by decide) _) _
  by_cases divides : 10 ^ zeros ∣ n
  · obtain ⟨q, rfl⟩ := divides
    have nearest : roundHalfEven (cell.middle * 1) (10 ^ zeros * 2 ^ 1075) = q := by
      rw [around.center, Nat.mul_one, Nat.mul_comm _ q, Nat.mul_assoc]
      exact roundHalfEven_mul q (Nat.mul_pos positive (pow_pos (by decide) _))
    simp only [pointOnGrid?, power, Nat.pow_eq, nearest, (has_iff q).mpr (Nat.mul_comm _ _),
      if_true, Nat.dvd_mul_right, Nat.mul_div_cancel_left q positive]
  · have outside (p : Nat) : cell.has (p * (10 ^ zeros * 2 ^ 1075)) 1 = false := by
      rw [Bool.eq_false_iff, ne_eq, has_iff]
      rintro rfl
      exact divides (Nat.dvd_mul_left _ _)
    simp only [pointOnGrid?, power, Nat.pow_eq, outside, if_neg divides, Bool.false_eq_true,
      if_false]

/-- The search comes down to the grid with all the zeros that the number ends in. -/
theorem search_whole (around : Around cell (10 ^ zeros * q * 2 ^ 1075) (2 ^ 1074))
    (last : ¬10 ∣ q) (finer : Nat) : ∀ coarser,
    searchGrids cell ((zeros + coarser : Nat) : Int) (coarser + 1 + finer) = ⟨q, zeros⟩
  | 0 => by
    have point := point_on_grid around zeros
    rw [if_pos (Nat.dvd_mul_right _ _),
      Nat.mul_div_cancel_left q (Nat.pow_pos (by decide))] at point
    rw [show 0 + 1 + finer = finer + 1 by omega]
    simp only [searchGrids, Nat.add_zero, point]
  | coarser + 1 => by
    have off : ¬10 ^ (zeros + (coarser + 1)) ∣ 10 ^ zeros * q := by
      rw [pow_add, Nat.mul_dvd_mul_iff_left (Nat.pow_pos (by decide)), pow_succ]
      exact fun divides => last ((Nat.dvd_mul_left 10 _).trans divides)
    have point := point_on_grid around (zeros + (coarser + 1))
    rw [if_neg off] at point
    have next : ((zeros + (coarser + 1) : Nat) : Int) - 1 = ((zeros + coarser : Nat) : Int) := by
      omega
    rw [show coarser + 1 + 1 + finer = (coarser + 1 + finer) + 1 by omega]
    simp only [searchGrids, point, next]
    exact search_whole around last finer coarser

/-! ## Digits -/

/-- A power of ten as a factor only adds zeros behind the digits. -/
theorem decimal_zeros (positive : 0 < q) : ∀ zeros,
    Text.decimal (10 ^ zeros * q) = Text.decimal q ++ List.replicate zeros '0'
  | 0 => by simp
  | zeros + 1 => by
    have more : 0 < 10 ^ zeros * q := Nat.mul_pos (Nat.pow_pos (by decide)) positive
    have step := Nat.toDigits_append_toDigits (by decide : 1 < 10) more (by decide : 0 < 10)
    rw [pow_succ', Nat.mul_assoc, List.replicate_succ', ← List.append_assoc,
      ← decimal_zeros positive zeros]
    exact step.symm

/-- The number with its zeros taken off is the shortest decimal of its code. -/
theorem shortest_whole {zeros : Nat} (positive : 0 < 10 ^ zeros * q)
    (small : 10 ^ zeros * q < 2 ^ 53) (last : ¬10 ∣ q) (few : zeros ≤ 308)
    (finite : codeOfRatio (10 ^ zeros * q) 1 < infinityCode) :
    Binary64.shortest ⟨false, codeOfRatio (10 ^ zeros * q) 1, finite⟩ = ⟨q, zeros⟩ := by
  have search := search_whole (around_whole positive small) last (324 + zeros) (308 - zeros)
  rw [show zeros + (308 - zeros) = 308 by omega,
    show 308 - zeros + 1 + (324 + zeros) = 633 by omega] at search
  rw [Binary64.shortest, if_neg (code_range positive small).1.ne']
  exact search

/-- A decimal that is a whole number of few digits is written by its digits alone. -/
theorem key_text_whole {zeros : Nat} (digit : 0 < q)
    (few : (Text.decimal (10 ^ zeros * q)).length ≤ 21) :
    keyText ⟨q, zeros⟩ = Text.decimal (10 ^ zeros * q) := by
  have digits := decimal_zeros digit zeros
  rw [digits, List.length_append, List.length_replicate] at few
  rw [digits, keyText]
  simp only [Int.toNat_natCast]
  rw [if_pos (by omega)]

/-- A whole number below 2^53 names the property that its own digits spell. -/
theorem numeral_key_small (small : n < 2 ^ 53) :
    numeralKey n = String.ofList (Text.decimal n) := by
  rcases Nat.eq_zero_or_pos n with rfl | positive
  · decide +kernel
  · obtain ⟨zeros, q, last, rfl⟩ :=
      Nat.exists_eq_pow_mul_and_not_dvd positive.ne' 10 (by decide)
    have digit : 0 < q := Nat.pos_of_mul_pos_left positive
    have long : (Text.decimal (10 ^ zeros * q)).length ≤ 16 :=
      (Nat.length_toDigits_le_iff (by decide) (by decide)).mpr (by omega)
    have few : zeros ≤ 308 := by
      have counted := congrArg List.length (decimal_zeros digit zeros)
      rw [List.length_append, List.length_replicate] at counted
      omega
    have finite := (code_range positive small).2
    rw [numeral_key_finite finite, shortest_whole positive small last few finite,
      key_text_whole digit (by omega)]

end Botwright.NumberKeys
