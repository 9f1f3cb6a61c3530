/-!
Cutting a text: into pieces between separators, and around the first occurrence of another text.
-/
namespace Botwright.Text

/-- The pieces between separators, in order. There is always one piece more than separators. -/
def pieces (isSeparator : Char → Bool) : List Char → List (List Char)
  | [] => [[]]
  | c :: rest =>
    match pieces isSeparator rest with
    | [] => [[c]]
    | piece :: more => if isSeparator c then [] :: piece :: more else (c :: piece) :: more

/-- What follows a text at the start, if it stands there. -/
def dropStart? : List Char → List Char → Option (List Char)
  | [], s => some s
  | _ :: _, [] => none
  | p :: pattern, c :: s => if p = c then dropStart? pattern s else none

/-- What stands before and after the first occurrence of `pattern`. -/
def cut? (pattern : List Char) : List Char → Option (List Char × List Char)
  | [] => if pattern = [] then some ([], []) else none
  | c :: s =>
    match dropStart? pattern (c :: s) with
    | some after => some ([], after)
    | none => (cut? pattern s).map fun (before, after) => (c :: before, after)

/-- Whether `pattern` occurs in the text. -/
def contains (pattern s : List Char) : Bool := (cut? pattern s).isSome

/-- The texts with a separator between neighbours. -/
def join (separator : List Char) : List (List Char) → List Char
  | [] => []
  | [piece] => piece
  | piece :: more => piece ++ separator ++ join separator more

/-! ## Laws -/

theorem pieces_ne_nil (isSeparator : Char → Bool) (s : List Char) : pieces isSeparator s ≠ [] := by
  cases s with
  | nil => simp [pieces]
  | cons c rest => rw [pieces]; split <;> (try split) <;> simp

/-- A text without separators is one piece. -/
theorem pieces_whole {isSeparator : Char → Bool} {s : List Char}
    (whole : ∀ c ∈ s, isSeparator c = false) : pieces isSeparator s = [s] := by
  induction s with
  | nil => rfl
  | cons c rest ih =>
    rw [List.forall_mem_cons] at whole
    simp [pieces, ih whole.2, whole.1]

/-- A separator ends one list of pieces and begins another. -/
theorem pieces_append_cons {isSeparator : Char → Bool} {c : Char} (separates : isSeparator c = true)
    (s rest : List Char) :
    pieces isSeparator (s ++ c :: rest) = pieces isSeparator s ++ pieces isSeparator rest := by
  induction s with
  | nil =>
    obtain ⟨piece, more, h⟩ := List.exists_cons_of_ne_nil (pieces_ne_nil isSeparator rest)
    simp [pieces, h, separates]
  | cons d s ih =>
    obtain ⟨piece, more, h⟩ := List.exists_cons_of_ne_nil (pieces_ne_nil isSeparator s)
    by_cases hd : isSeparator d <;> simp [pieces, ih, h, hd]

/-- No piece holds a separator. -/
theorem not_isSeparator_of_mem_pieces {isSeparator : Char → Bool} {s piece : List Char} {c : Char}
    (hp : piece ∈ pieces isSeparator s) (hc : c ∈ piece) : isSeparator c = false := by
  induction s generalizing piece with
  | nil => simp_all [pieces]
  | cons d s ih =>
    obtain ⟨first, more, h⟩ := List.exists_cons_of_ne_nil (pieces_ne_nil isSeparator s)
    rw [h] at ih
    by_cases hd : isSeparator d
    · simp only [pieces, h, hd, if_true, List.mem_cons] at hp
      rcases hp with rfl | rfl | hp
      · cases hc
      · exact ih List.mem_cons_self hc
      · exact ih (List.mem_cons_of_mem _ hp) hc
    · simp only [pieces, h, hd, Bool.false_eq_true, if_false, List.mem_cons] at hp
      rcases hp with rfl | hp
      · rcases List.mem_cons.1 hc with rfl | hc
        · simpa using hd
        · exact ih List.mem_cons_self hc
      · exact ih (List.mem_cons_of_mem _ hp) hc

/-- Pieces between equal separators, joined by that separator, give the text back. -/
theorem join_pieces (c : Char) (s : List Char) : join [c] (pieces (· = c) s) = s := by
  induction s with
  | nil => rfl
  | cons d s ih =>
    obtain ⟨first, more, h⟩ := List.exists_cons_of_ne_nil (pieces_ne_nil (fun x => x = c) s)
    rw [h] at ih
    by_cases hd : d = c
    · simp [pieces, h, hd, join, ih]
    · cases more with
      | nil => simpa [pieces, h, hd, join] using ih
      | cons second more => simpa [pieces, h, hd, join] using ih

theorem dropStart?_eq_some_iff {pattern s after : List Char} :
    dropStart? pattern s = some after ↔ s = pattern ++ after := by
  induction pattern generalizing s with
  | nil => simp [dropStart?]
  | cons p pattern ih =>
    cases s with
    | nil => simp [dropStart?]
    | cons c s =>
      by_cases h : p = c
      · simp [dropStart?, h, ih]
      · simp [dropStart?, h, Ne.symm h]

theorem eq_append_of_cut? {pattern s before after : List Char}
    (h : cut? pattern s = some (before, after)) : s = before ++ (pattern ++ after) := by
  induction s generalizing before with
  | nil =>
    rw [cut?] at h
    split at h <;> simp_all
  | cons c s ih =>
    rw [cut?] at h
    split at h
    · next rest found =>
      cases h
      rw [List.nil_append, ← dropStart?_eq_some_iff, found]
    · obtain ⟨⟨front, rest⟩, found, same⟩ := Option.map_eq_some_iff.1 h
      cases same
      rw [ih found, List.cons_append]

/-- A text holds just the patterns that it can be cut around. -/
theorem contains_iff {pattern s : List Char} : contains pattern s = true ↔ pattern <:+: s := by
  constructor
  · intro h
    obtain ⟨⟨before, after⟩, found⟩ := Option.isSome_iff_exists.1 h
    exact ⟨before, after, by rw [eq_append_of_cut? found, List.append_assoc]⟩
  · rintro ⟨front, back, rfl⟩
    induction front with
    | nil =>
      rw [List.nil_append, contains]
      cases shape : pattern ++ back with
      | nil => simp_all [cut?]
      | cons c s =>
        rw [cut?, ← shape, dropStart?_eq_some_iff.2 rfl]
        rfl
    | cons c front ih =>
      rw [List.cons_append, List.cons_append, contains, cut?]
      split
      · rfl
      · rwa [Option.isSome_map]

end Botwright.Text
