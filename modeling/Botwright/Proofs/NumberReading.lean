import Botwright.Json.Value
import Botwright.Json.Writer
import Mathlib.Data.List.Basic

/-! A number's text is one numeral of the grammar and is read as that numeral. The digits
of an integer are the whole of it; those of a real number are laid out around a point or
in front of an exponent, and never begin with a zero that does not belong there. -/
namespace Botwright.NumberReading
open Json Numeric

/-! ## Numerals -/

/-- What follows a number does not belong to it. -/
def Ends (rest : List Char) : Prop :=
  ∀ c ∈ rest.head?, c.isDigit = false ∧ c ≠ '.' ∧ c ≠ 'e' ∧ c ≠ 'E'

def Digits (run : List Char) : Prop := ∀ c ∈ run, c.isDigit = true

/-- The digits of a numeral are where the grammar has them. -/
structure WellFormed (n : Numeral) : Prop where
  given : n.whole ≠ []
  whole : Digits n.whole
  leading : n.whole.head? = some '0' → n.whole.length = 1
  fraction : Digits n.fraction
  exponent : ∀ part ∈ n.exponent, part.2 ≠ [] ∧ Digits part.2

def pointText : List Char → List Char
  | [] => []
  | digits => '.' :: digits

def exponentText : Option (Bool × List Char) → List Char
  | none => []
  | some (negative, digits) => 'e' :: (if negative then '-' else '+') :: digits

/-- A numeral without its sign. -/
def magnitudeText (n : Numeral) : List Char :=
  n.whole ++ (pointText n.fraction ++ exponentText n.exponent)

/-- A numeral with a sign only if it is negative. -/
def numeralText (n : Numeral) : List Char :=
  (if n.negative then ['-'] else []) ++ magnitudeText n

theorem span_digits (run : Digits digits) (ends : ∀ c ∈ rest.head?, c.isDigit = false) :
    spanDigits (digits ++ rest) = (digits, rest) := by
  rw [spanDigits, List.takeWhile_append_of_pos run, List.dropWhile_append_of_pos run]
  cases rest with
  | nil => simp
  | cons c rest =>
    have outside : c.isDigit = false := ends c rfl
    simp [outside]

theorem read_fraction (run : Digits digits) (digit : ∀ c ∈ rest.head?, c.isDigit = false)
    (point : ∀ c ∈ rest.head?, c ≠ '.') :
    readFraction (pointText digits ++ rest) = some (digits, rest) := by
  cases digits with
  | nil =>
    cases rest with
    | nil => rfl
    | cons c rest => simp [pointText, readFraction, point c rfl]
  | cons d digits =>
    rw [pointText, List.cons_append, readFraction, span_digits run digit]
    · rfl
    · nofun

theorem read_exponent (given : ∀ part ∈ exponent, part.2 ≠ [] ∧ Digits part.2)
    (ends : Ends rest) : readExponent (exponentText exponent ++ rest) = some (exponent, rest) := by
  cases exponent with
  | none =>
    cases rest with
    | nil => rfl
    | cons c rest => simp [exponentText, readExponent, (ends c rfl).2.2]
  | some part =>
    obtain ⟨negative, digits⟩ := part
    obtain ⟨nonempty, run⟩ := given _ rfl
    have span := span_digits run fun c first => (ends c first).1
    cases negative <;> simp [exponentText, readExponent, span, nonempty]

/-- What follows the digits in front of a fraction or an exponent. -/
theorem exponent_begins (exponent : Option (Bool × List Char)) (ends : Ends rest) :
    ∀ c ∈ (exponentText exponent ++ rest).head?, c.isDigit = false ∧ c ≠ '.' := by
  intro c first
  cases exponent with
  | none => exact ⟨(ends c first).1, (ends c first).2.1⟩
  | some part =>
    cases first
    decide

theorem fraction_begins (fraction : List Char) (exponent : Option (Bool × List Char))
    (ends : Ends rest) :
    ∀ c ∈ (pointText fraction ++ (exponentText exponent ++ rest)).head?, c.isDigit = false := by
  intro c first
  cases fraction with
  | nil => exact (exponent_begins exponent ends c first).1
  | cons d digits =>
    cases first
    rfl

theorem read_magnitude {n : Numeral} (formed : WellFormed n) (ends : Ends rest) :
    readMagnitude n.negative (magnitudeText n ++ rest) = some (n, rest) := by
  have whole : ¬(n.whole = [] ∨ n.whole.head? = some '0' ∧ n.whole.length ≠ 1) := by
    rintro (empty | ⟨zero, long⟩)
    · exact formed.given empty
    · exact long (formed.leading zero)
  have begins := exponent_begins n.exponent ends
  rw [readMagnitude, magnitudeText, List.append_assoc, List.append_assoc,
    span_digits formed.whole (fraction_begins n.fraction n.exponent ends)]
  simp only [whole, if_false]
  rw [read_fraction formed.fraction (fun c first => (begins c first).1)
    fun c first => (begins c first).2]
  simp only [Option.bind_eq_bind, Option.bind_some, read_exponent formed.exponent ends]
  rfl

/-- A numeral is read up to its end. -/
theorem read_numeral {n : Numeral} (formed : WellFormed n) (ends : Ends rest) :
    readNumeral (numeralText n ++ rest) = some (n, rest) := by
  have read := read_magnitude formed ends
  rw [numeralText]
  cases sign : n.negative with
  | true =>
    rw [sign] at read
    exact read
  | false =>
    rw [sign] at read
    obtain ⟨c, digits, shape⟩ := List.exists_cons_of_ne_nil formed.given
    have digit : c.isDigit = true := formed.whole c (by rw [shape]; exact List.mem_cons_self)
    have notSign : c ≠ '-' := by
      rintro rfl
      cases digit
    rw [magnitudeText, shape] at read ⊢
    rw [← read]
    simp [readNumeral, notSign]

/-! ## Decimals -/

theorem decimal_digits (n : Nat) : Digits (Text.decimal n) := fun _ member =>
  Nat.isDigit_of_mem_toDigits (by decide) (by decide) member

theorem decimal_ne_nil (n : Nat) : Text.decimal n ≠ [] := Nat.toDigits_ne_nil

/-- Only zero itself is written with a zero in front. -/
theorem decimal_begins (n : Nat) : (Text.decimal n).head? = some '0' → n = 0 := by
  induction n using Nat.strongRecOn with
  | _ n ih =>
    rw [Text.decimal, Nat.toDigits_eq_if (by decide)]
    split
    · next small =>
      have digit : ∀ n < 10, [Nat.digitChar n].head? = some '0' → n = 0 := by decide
      exact digit n small
    · next large =>
      have inner := ih (n / 10) (by omega)
      have nonempty : Nat.toDigits 10 (n / 10) ≠ [] := Nat.toDigits_ne_nil
      rw [List.head?_append_of_ne_nil _ nonempty]
      intro zero
      have := inner zero
      omega

theorem decimal_leading (n : Nat) (zero : (Text.decimal n).head? = some '0') :
    (Text.decimal n).length = 1 := by
  rw [decimal_begins n zero]
  rfl

/-! ## Shortest decimals -/

theorem units_positive (nonzero : code ≠ 0) : 0 < unitsOfCode code := by
  unfold unitsOfCode
  dsimp only
  split
  · exact Nat.pos_of_ne_zero nonzero
  · exact Nat.mul_pos (Nat.add_pos_left (Nat.pow_pos (by decide)) _) (Nat.pow_pos (by decide))

theorem zero_outside {cell : Cell} (positive : 0 < cell.low) (scaled : 0 < den) :
    cell.has 0 den = false := by
  have bound : 0 < cell.low * den := Nat.mul_pos positive scaled
  unfold Cell.has
  split <;> simp only [Bool.and_eq_false_iff, decide_eq_false_iff_not] <;> omega

/-- A point that is found on a grid is in the cell. -/
theorem point_in_cell (found : pointOnGrid? cell exponent = some digits) :
    ∃ step, cell.has (digits * step) (powerOfTen exponent).2 = true := by
  simp only [pointOnGrid?, ite_eq_iff, Option.some.injEq, reduceCtorEq, and_false, or_false]
    at found
  rcases found with ⟨near, rfl⟩ | ⟨-, ⟨below, rfl⟩ | ⟨-, above, rfl⟩⟩
  · exact ⟨_, near⟩
  · exact ⟨_, below⟩
  · exact ⟨_, above⟩

/-- Zero is no point of a grid in a cell above zero. -/
theorem point_nonzero {cell : Cell} (positive : 0 < cell.low)
    (found : pointOnGrid? cell exponent = some digits) : digits ≠ 0 := by
  have scaled : 0 < (powerOfTen exponent).2 := by
    unfold powerOfTen
    split
    · exact Nat.one_pos
    · exact Nat.pow_pos (by decide)
  obtain ⟨step, inside⟩ := point_in_cell found
  rintro rfl
  rw [Nat.zero_mul, zero_outside positive scaled] at inside
  cases inside

/-- A search that gets down to ones ends with digits or at a small exponent. -/
theorem search_grids {cell : Cell} (positive : 0 < cell.low) (exponent : Int) (steps : Nat)
    (deep : exponent ≤ steps) :
    (searchGrids cell exponent steps).digits ≠ 0 ∨
      (searchGrids cell exponent steps).exponent ≤ 0 := by
  induction steps generalizing exponent with
  | zero => exact .inr deep
  | succ steps ih =>
    rw [searchGrids]
    split
    · next digits found => exact .inl (point_nonzero positive found)
    · exact ih (exponent - 1) (by omega)

/-- Zero is not written with zeros behind it. -/
theorem shortest_plain (x : Binary64) : x.shortest.digits ≠ 0 ∨ x.shortest.exponent ≤ 0 := by
  unfold Binary64.shortest
  split
  · exact .inr (Int.le_refl 0)
  · next nonzero =>
    exact search_grids (Nat.add_pos_left (units_positive nonzero) _) _ _ (by decide)

/-! ## Texts of numbers -/

theorem replicate_digits (count : Nat) : Digits (List.replicate count '0') := by
  intro c member
  rw [List.eq_of_mem_replicate member]
  rfl

theorem digits_append (first : Digits front) (second : Digits back) : Digits (front ++ back) :=
  fun c member => (List.mem_append.mp member).elim (first c) (second c)

theorem point_text (given : digits ≠ []) : pointText digits = '.' :: digits := by
  cases digits with
  | nil => exact absurd rfl given
  | cons => rfl

/-- The digits of a decimal. A zero in front stands alone, and nothing is added behind it. -/
structure Significant (text : List Char) (exponent : Int) : Prop where
  given : text ≠ []
  run : Digits text
  zero : text.head? = some '0' → text.length = 1 ∧ exponent ≤ 0

theorem significant_decimal (plain : digits ≠ 0 ∨ exponent ≤ 0) :
    Significant (Text.decimal digits) exponent :=
  ⟨decimal_ne_nil digits, decimal_digits digits, fun zero =>
    ⟨decimal_leading digits zero, plain.resolve_left (absurd (decimal_begins digits zero))⟩⟩

/-- A text that is a numeral behind a sign or without one. -/
def IsMagnitude (text : List Char) : Prop :=
  ∀ negative, ∃ n, WellFormed n ∧ n.negative = negative ∧ text = magnitudeText n

section Layouts
variable {text : List Char} {exponent : Int} (significant : Significant text exponent)
include significant

theorem whole_written (whole : 0 ≤ exponent) :
    IsMagnitude (text ++ List.replicate exponent.toNat '0' ++ ['.', '0']) := by
  intro negative
  have zeros := replicate_digits exponent.toNat
  refine ⟨⟨negative, text ++ List.replicate exponent.toNat '0', ['0'], none⟩,
    ⟨by simp [significant.given], digits_append significant.run zeros, fun zero => ?_,
      List.forall_mem_singleton.mpr rfl, nofun⟩, rfl,
    by simp [magnitudeText, pointText, exponentText]⟩
  rw [List.head?_append_of_ne_nil _ significant.given] at zero
  obtain ⟨length, small⟩ := significant.zero zero
  have none : exponent.toNat = 0 := by omega
  simp [length, none]

/-- The point stands between two digits. -/
theorem inner_written (inside : count + 1 < text.length) :
    IsMagnitude (text.take (count + 1) ++ ['.'] ++ text.drop (count + 1)) := by
  intro negative
  have more : text.drop (count + 1) ≠ [] := by
    rw [Ne, List.drop_eq_nil_iff]
    omega
  refine ⟨⟨negative, text.take (count + 1), text.drop (count + 1), none⟩,
    ⟨by simp [significant.given], fun c member => significant.run c (List.mem_of_mem_take member),
      fun zero => ?_, fun c member => significant.run c (List.mem_of_mem_drop member), nofun⟩, rfl,
    by simp [magnitudeText, point_text more, exponentText]⟩
  have front : text.head? = some '0' := by
    rw [← zero, List.head?_take, if_neg (by omega)]
  have length := (significant.zero front).1
  omega

theorem small_written (zeros : Nat) :
    IsMagnitude (['0', '.'] ++ List.replicate zeros '0' ++ text) := by
  intro negative
  have more : List.replicate zeros '0' ++ text ≠ [] := by simp [significant.given]
  exact ⟨⟨negative, ['0'], List.replicate zeros '0' ++ text, none⟩,
    ⟨by simp, List.forall_mem_singleton.mpr rfl, fun _ => rfl,
      digits_append (replicate_digits _) significant.run, nofun⟩, rfl,
    by simp [magnitudeText, point_text more, exponentText]⟩

theorem scientific_written (power : Int) :
    IsMagnitude (text.take 1 ++ (match text.drop 1 with | [] => [] | rest => '.' :: rest) ++
      ['e'] ++ (if 0 ≤ power ∧ true = true then ['+'] else []) ++ Text.signedDecimal power) := by
  intro negative
  refine ⟨⟨negative, text.take 1, text.drop 1,
      some (decide (power < 0), Text.decimal power.natAbs)⟩,
    ⟨by simp [significant.given], fun c member => significant.run c (List.mem_of_mem_take member),
      fun _ => ?_, fun c member => significant.run c (List.mem_of_mem_drop member), ?_⟩, rfl, ?_⟩
  · have count := List.length_pos_of_ne_nil significant.given
    rw [List.length_take]
    omega
  · rintro _ ⟨⟩
    exact ⟨decimal_ne_nil _, decimal_digits _⟩
  · have signed : (if 0 ≤ power ∧ true = true then ['+'] else []) ++ Text.signedDecimal power =
        (if power < 0 then '-' else '+') :: Text.decimal power.natAbs := by
      cases power <;> simp [Text.signedDecimal]
    rw [List.append_assoc, signed]
    generalize text.drop 1 = fraction
    cases fraction <;> simp [magnitudeText, pointText, exponentText]

end Layouts

/-- A decimal that is laid out is a numeral. -/
theorem layout_written (layout : Layout) (mark : layout.exponentMark = 'e')
    (signs : layout.signsExponent = true) (plain : digits ≠ 0 ∨ exponent ≤ 0) :
    IsMagnitude (layout.write (Text.decimal digits) exponent) := by
  -- Only these facts about the digits matter for any of the four layouts.
  have significant := significant_decimal plain
  generalize Text.decimal digits = text at significant
  have count := List.length_pos_of_ne_nil significant.given
  rw [Layout.write, mark, signs]
  dsimp only
  split
  · split
    · next whole => exact whole_written significant whole
    · split
      · exact inner_written significant (by omega)
      · exact small_written significant _
  · exact scientific_written significant _

/-- The numeral of an integer. -/
def integerNumeral (value : Int) : Numeral :=
  ⟨decide (value < 0), Text.decimal value.natAbs, [], none⟩

theorem integer_formed (value : Int) : WellFormed (integerNumeral value) :=
  ⟨decimal_ne_nil _, decimal_digits _, decimal_leading _, nofun, nofun⟩

theorem integer_written (value : Int) :
    Text.signedDecimal value = numeralText (integerNumeral value) := by
  cases value <;>
    simp [Text.signedDecimal, integerNumeral, numeralText, magnitudeText, pointText, exponentText]

/-- Every number is written as a numeral. -/
theorem number_written (number : Number) :
    ∃ n, WellFormed n ∧ numberText number = numeralText n := by
  cases number with
  | integer value inRange => exact ⟨_, integer_formed value, integer_written value⟩
  | real x =>
    obtain ⟨n, formed, sign, text⟩ :=
      layout_written numberLayout rfl rfl (shortest_plain x) x.negative
    refine ⟨n, formed, ?_⟩
    rw [numberText, Layout.number, text, numeralText, sign]

/-- The numeral that a number is written as. -/
def numeralOf (n : Number) : Numeral :=
  ((readNumeral (numberText n)).map (·.1)).getD ⟨false, [], [], none⟩

/-- A number's text is read up to its end. -/
theorem read_number_text (number : Number) (ends : Ends rest) :
    readNumeral (numberText number ++ rest) = some (numeralOf number, rest) := by
  obtain ⟨n, formed, text⟩ := number_written number
  have nothing : Ends [] := nofun
  have alone := read_numeral formed nothing
  rw [List.append_nil, ← text] at alone
  rw [numeralOf, alone, text]
  exact read_numeral formed ends

/-- An integer is written with its digits. -/
theorem numeral_of_integer (value : Int) (inRange) :
    numeralOf (.integer value inRange) = integerNumeral value := by
  have nothing : Ends [] := nofun
  have read := read_numeral (integer_formed value) nothing
  rw [List.append_nil, ← integer_written] at read
  rw [numeralOf, numberText, read]
  rfl

/-- A number's text begins with a sign or a digit. -/
theorem number_begins (number : Number) :
    ∃ c more, numberText number = c :: more ∧ (c = '-' ∨ c.isDigit = true) := by
  obtain ⟨n, formed, text⟩ := number_written number
  obtain ⟨c, digits, shape⟩ := List.exists_cons_of_ne_nil formed.given
  have digit : c.isDigit = true := formed.whole c (by rw [shape]; exact List.mem_cons_self)
  rw [text, numeralText, magnitudeText, shape]
  cases n.negative with
  | true => exact ⟨'-', _, rfl, .inl rfl⟩
  | false => exact ⟨c, _, rfl, .inr digit⟩

end Botwright.NumberReading
