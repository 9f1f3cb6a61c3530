import Botwright.FieldPath

/-! Canonical paths, as a walk through a document writes them: keys behind
dots, positions between brackets. The steps of a position are the independent
meaning; what the left-to-right reader finds in the written text is proved
against them. -/
namespace Botwright.CanonicalPath
open FieldPath

/-- A step as it is written behind another one. -/
def suffix : Segment → List Char
  | .key name => '.' :: name.toList
  | .index position => '[' :: (Text.decimal position ++ [']'])

/-- Consecutive steps as they are written. Only a key in front has no dot. -/
def written : List Segment → List Char
  | [] => []
  | .key name :: rest => name.toList ++ rest.flatMap suffix
  | .index position :: rest => suffix (.index position) ++ rest.flatMap suffix

/-- The path of a position. The position without steps is the document. -/
def pathOf (position : List Segment) : String :=
  if position = [] then root else String.ofList (written position)

/-- A key that nothing in a path can cut short. A closing bracket may stand
in it, because the reader looks for one only behind an opening bracket. -/
def PlainKey (key : String) : Prop := key ≠ "" ∧ '.' ∉ key.toList ∧ '[' ∉ key.toList

instance (key : String) : Decidable (PlainKey key) :=
  inferInstanceAs (Decidable (key ≠ "" ∧ '.' ∉ key.toList ∧ '[' ∉ key.toList))

/-- A step that can be read back: a plain key, or a position that fits into
a word. -/
def Readable : Segment → Prop
  | .key name => PlainKey name
  | .index position => position < Numeric.unsignedLimit

/-! ## Positions in decimal -/

private theorem digit_of_decimal (member : c ∈ Text.decimal n) : c.isDigit = true :=
  Nat.isDigit_of_mem_toDigits (by decide) (by decide) member

/-- A text of digits has no sign in front. -/
theorem drop_plus_digits (digits : s.all Char.isDigit = true) : Text.dropPlus s = s := by
  cases s with
  | nil => rfl
  | cons c rest =>
    have digit : c.isDigit = true := List.all_eq_true.mp digits c List.mem_cons_self
    have notPlus : c ≠ '+' := by
      rintro rfl
      exact absurd digit (by decide)
    unfold Text.dropPlus
    split
    · rename_i same
      exact absurd (List.cons.inj same).1 notPlus
    · rfl

/-- A position is read back from its decimal digits. -/
theorem read_unsigned_decimal (bound : n < Numeric.unsignedLimit) :
    Text.readUnsigned? (Text.decimal n) = some n := by
  have nonempty : Text.decimal n ≠ [] := Nat.toDigits_ne_nil
  have digits : (Text.decimal n).all Char.isDigit = true :=
    List.all_eq_true.mpr fun c member => digit_of_decimal member
  have value : Text.digitsValue 0 (Text.decimal n) = n := Nat.ofDigitChars_ten_toDigits
  rw [Text.readUnsigned?, drop_plus_digits digits, Text.readDigits?, if_pos ⟨nonempty, digits⟩,
    value]
  simpa using bound

private theorem no_bracket_in_decimal (n : Nat) : ']' ∉ Text.decimal n := fun member =>
  absurd (digit_of_decimal member) (by decide)

/-! ## Reading -/

/-- What may follow a key: nothing, or the character that begins a step. -/
def EndsKey : List Char → Prop
  | [] => True
  | c :: _ => c = '.' ∨ c = '['

private theorem ends_key_suffixes (rest : List Segment) : EndsKey (rest.flatMap suffix) := by
  cases rest with
  | nil => trivial
  | cons step rest =>
    cases step with
    | key name => exact Or.inl rfl
    | index position => exact Or.inr rfl

/-- Within a key the reader takes every character up to the next step. -/
theorem key_steps_key (noDot : '.' ∉ name) (noBracket : '[' ∉ name) (ends : EndsKey rest) :
    keySteps (name ++ rest) = (name, steps rest) := by
  induction name with
  | nil =>
    cases rest with
    | nil => simp [keySteps, steps]
    | cons c rest =>
      rcases ends with rfl | rfl
      · simp [keySteps, steps]
      · simp [keySteps, steps]
  | cons c name ih =>
    have notDot : c ≠ '.' := fun same => noDot (by simp [same])
    have notBracket : c ≠ '[' := fun same => noBracket (by simp [same])
    have tail := ih (fun member => noDot (List.mem_cons_of_mem _ member))
      (fun member => noBracket (List.mem_cons_of_mem _ member))
    simp only [List.cons_append, keySteps, notBracket, notDot, ↓reduceIte, tail]

/-- A plain key is one step, whatever step follows. -/
theorem steps_key (plain : PlainKey name) (ends : EndsKey rest) :
    steps (name.toList ++ rest) = .key name :: steps rest := by
  obtain ⟨nonempty, noDot, noBracket⟩ := plain
  cases shape : name.toList with
  | nil => exact absurd (String.toList_eq_nil_iff.mp shape) nonempty
  | cons c key =>
    rw [shape] at noDot noBracket
    have notDot : c ≠ '.' := fun same => noDot (by simp [same])
    have notBracket : c ≠ '[' := fun same => noBracket (by simp [same])
    have tail := key_steps_key (fun member => noDot (List.mem_cons_of_mem _ member))
      (fun member => noBracket (List.mem_cons_of_mem _ member)) ends
    have back : String.ofList (c :: key) = name := by rw [← shape, String.ofList_toList]
    simp only [List.cons_append, steps, notBracket, notDot, ↓reduceIte, tail, back]

/-- Within a bracket the reader takes every character up to the closing one. -/
theorem bracket_steps_closed (unclosed : ']' ∉ digits) :
    bracketSteps (digits ++ ']' :: rest) = (digits, steps rest) := by
  induction digits with
  | nil => simp [bracketSteps]
  | cons c digits ih =>
    have notBracket : c ≠ ']' := fun same => unclosed (by simp [same])
    have tail := ih fun member => unclosed (List.mem_cons_of_mem _ member)
    simp only [List.cons_append, bracketSteps, notBracket, ↓reduceIte, tail]

/-- A position between brackets is one step. -/
theorem steps_index (bound : position < Numeric.unsignedLimit) (rest : List Char) :
    steps (suffix (.index position) ++ rest) = .index position :: steps rest := by
  have inside : bracketSteps (Text.decimal position ++ ']' :: rest) =
      (Text.decimal position, steps rest) := bracket_steps_closed (no_bracket_in_decimal position)
  simp [suffix, steps, inside, bracketed, read_unsigned_decimal bound]

/-- The reader finds exactly the steps that were written behind others. -/
theorem steps_suffixes (readable : ∀ step ∈ position, Readable step) :
    steps (position.flatMap suffix) = position := by
  induction position with
  | nil => simp [steps]
  | cons step rest ih =>
    have tail := ih fun later member => readable later (List.mem_cons_of_mem _ member)
    cases step with
    | key name =>
      have plain : PlainKey name := readable (.key name) List.mem_cons_self
      have dot : steps (suffix (.key name) ++ rest.flatMap suffix) =
          steps (name.toList ++ rest.flatMap suffix) := by simp [suffix, steps]
      rw [List.flatMap_cons, dot, steps_key plain (ends_key_suffixes rest), tail]
    | index position =>
      have bound : position < Numeric.unsignedLimit := readable (.index position) List.mem_cons_self
      rw [List.flatMap_cons, steps_index bound, tail]

/-- The reader finds exactly the steps of a written position. -/
theorem steps_written (readable : ∀ step ∈ position, Readable step) :
    steps (written position) = position := by
  cases position with
  | nil => simp [written, steps]
  | cons step rest =>
    have tail := steps_suffixes fun later member =>
      readable later (List.mem_cons_of_mem step member)
    cases step with
    | key name =>
      have plain : PlainKey name := readable (.key name) List.mem_cons_self
      rw [written, steps_key plain (ends_key_suffixes rest), tail]
    | index position =>
      have bound : position < Numeric.unsignedLimit := readable (.index position) List.mem_cons_self
      rw [written, steps_index bound, tail]

/-! ## The one ambiguous text -/

/-- Only a lone key `root` is written like the document's own path. -/
theorem written_eq_root_iff (readable : ∀ step ∈ position, Readable step) :
    String.ofList (written position) = root ↔ position = [.key root] := by
  constructor
  · intro same
    have text : written position = root.toList := by rw [← same, String.toList_ofList]
    rw [← steps_written readable, text]
    decide
  · rintro rfl
    decide

/-- The steps of a canonical path are those of its position. -/
theorem segments_path_of (readable : ∀ step ∈ position, Readable step)
    (noRoot : position ≠ [.key root]) : segments (pathOf position) = position := by
  by_cases empty : position = []
  · subst empty
    decide
  · have apart : String.ofList (written position) ≠ root := fun same =>
      noRoot ((written_eq_root_iff readable).mp same)
    rw [pathOf, if_neg empty, segments, if_neg apart, String.toList_ofList, steps_written readable]

/-! ## The step in front of the last one -/

theorem written_ne_nil (readable : ∀ step ∈ position, Readable step)
    (nonempty : position ≠ []) : written position ≠ [] := by
  intro blank
  have found := steps_written readable
  rw [blank] at found
  exact nonempty (by simpa [steps] using found.symm)

/-- Every step but the first is written behind the others. -/
theorem written_snoc (nonempty : position ≠ []) (step : Segment) :
    written (position ++ [step]) = written position ++ suffix step := by
  cases position with
  | nil => exact absurd rfl nonempty
  | cons first rest => cases first <;> simp [written]

/-- A key whose last character is not taken for the end of a position. -/
def BareKey (key : String) : Prop := PlainKey key ∧ ']' ∉ key.toList

instance (key : String) : Decidable (BareKey key) :=
  inferInstanceAs (Decidable (PlainKey key ∧ ']' ∉ key.toList))

/-- A step that can be cut off from the end of a path. -/
def Bare : Segment → Prop
  | .key name => BareKey name
  | .index position => position < Numeric.unsignedLimit

theorem readable_of_bare (bare : Bare step) : Readable step := by
  cases step with
  | key name => exact bare.1
  | index position => exact bare

theorem before_last_absent (absent : ∀ c ∈ text, p c = false) : beforeLast? p text = none := by
  induction text with
  | nil => rfl
  | cons c rest ih =>
    have tail := ih fun later member => absent later (List.mem_cons_of_mem _ member)
    simp [beforeLast?, tail, absent c List.mem_cons_self]

theorem before_last_found (here : p c = true) (absent : ∀ later ∈ after, p later = false) :
    beforeLast? p (before ++ c :: after) = some before := by
  induction before with
  | nil => simp [beforeLast?, before_last_absent absent, here]
  | cons first before ih => simp [beforeLast?, ih]

/-- What is cut off from a text that ends a position, or else a key. -/
private theorem parent_of_text (text : List Char) :
    parent? (String.ofList text) =
      ((if text.getLast? = some ']' then beforeLast? (· = '[') text
        else beforeLast? (fun c => c = '.' || c = '[') text).filter (· ≠ [])).map
          String.ofList := by
  rw [parent?, String.toList_ofList]

private theorem parent_of_index (front : List Char) (index : Nat) :
    parent? (String.ofList (front ++ suffix (.index index))) =
      if front = [] then none else some (String.ofList front) := by
  have last : (front ++ '[' :: (Text.decimal index ++ [']'])).getLast? = some ']' := by
    rw [← List.cons_append, ← List.append_assoc, List.getLast?_concat]
  have absent : ∀ c ∈ Text.decimal index ++ [']'], decide (c = '[') = false := by
    intro c member
    apply decide_eq_false
    rintro rfl
    rcases List.mem_append.mp member with digit | closing
    · exact absurd (digit_of_decimal digit) (by decide)
    · exact absurd (List.mem_singleton.mp closing) (by decide)
  have cut : beforeLast? (· = '[') (front ++ '[' :: (Text.decimal index ++ [']'])) = some front :=
    before_last_found (decide_eq_true rfl) absent
  rw [suffix, parent_of_text, if_pos last, cut]
  by_cases empty : front = [] <;> simp [Option.filter, empty]

private theorem parent_of_key (bare : BareKey key) (front : List Char) :
    parent? (String.ofList (front ++ key.toList)) =
      ((beforeLast? (fun c => c = '.' || c = '[') (front ++ key.toList)).filter (· ≠ [])).map
        String.ofList := by
  obtain ⟨⟨nonempty, _⟩, unclosed⟩ := bare
  have last : (front ++ key.toList).getLast? ≠ some ']' := by
    intro last
    rw [List.getLast?_append] at last
    cases ends : key.toList.getLast? with
    | none => exact nonempty (String.toList_eq_nil_iff.mp (List.getLast?_eq_none_iff.mp ends))
    | some c =>
      rw [ends] at last
      cases last
      exact unclosed (List.mem_of_getLast? ends)
  rw [parent_of_text, if_neg last]

private theorem no_delimiter (plain : PlainKey key) :
    ∀ c ∈ key.toList, (c = '.' || c = '[') = false := by
  intro c member
  have notDot : c ≠ '.' := fun same => plain.2.1 (same ▸ member)
  have notBracket : c ≠ '[' := fun same => plain.2.2 (same ▸ member)
  simp [notDot, notBracket]

/-- The parent of a canonical path is the path of the steps before the last
one; a path of one step has none. -/
theorem parent_path_of (bare : ∀ later ∈ position ++ [step], Bare later) :
    parent? (pathOf (position ++ [step])) =
      if position = [] then none else some (pathOf position) := by
  have readable : ∀ earlier ∈ position, Readable earlier := fun earlier member =>
    readable_of_bare (bare earlier (List.mem_append_left _ member))
  have own : Bare step := bare step (by simp)
  by_cases empty : position = []
  · subst empty
    rw [if_pos rfl, pathOf, if_neg (by simp)]
    cases step with
    | key name =>
      have cut := parent_of_key own []
      rw [List.nil_append, before_last_absent (no_delimiter own.1)] at cut
      simpa [written] using cut
    | index index => simpa [written] using parent_of_index [] index
  · have front : written position ≠ [] := written_ne_nil readable empty
    rw [if_neg empty, pathOf, if_neg (by simp), pathOf, if_neg empty, written_snoc empty]
    cases step with
    | key name =>
      have dotted : written position ++ suffix (.key name) =
          written position ++ ['.'] ++ name.toList := by simp [suffix]
      have found : beforeLast? (fun c => c = '.' || c = '[')
          (written position ++ ['.'] ++ name.toList) = some (written position) := by
        rw [List.append_assoc]
        exact before_last_found (by decide) (no_delimiter own.1)
      rw [dotted, parent_of_key own, found]
      simp [Option.filter, front]
    | index index => rw [parent_of_index, if_neg front]

theorem parent_root : parent? (pathOf []) = none := by decide

end Botwright.CanonicalPath
