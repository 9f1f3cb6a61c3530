import Botwright.Proofs.CanonicalPath

/-! The readers of a path agree. One follows keys and brackets from the left, one cuts at every
delimiter, and one cuts the last step off from the right; on a canonical path they find the same
steps. -/
namespace Botwright.PathReaders
open FieldPath CanonicalPath

/-- A step as text, without what delimits it. -/
def spelled : Segment → List Char
  | .key name => name.toList
  | .index position => Text.decimal position

instance : (step : Segment) → Decidable (Bare step)
  | .key name => inferInstanceAs (Decidable (BareKey name))
  | .index position => inferInstanceAs (Decidable (position < Numeric.unsignedLimit))

/-- The text of a bare step is not empty, and nothing in it delimits. -/
theorem spelled_whole (bare : Bare step) :
    spelled step ≠ [] ∧ ∀ c ∈ spelled step, isDelimiter c = false := by
  cases step with
  | key name =>
    obtain ⟨⟨nonempty, noDot, noBracket⟩, unclosed⟩ := bare
    refine ⟨fun empty => nonempty (String.toList_eq_nil_iff.mp empty), fun c held => ?_⟩
    have dot : c ≠ '.' := fun same => noDot (same ▸ held)
    have opening : c ≠ '[' := fun same => noBracket (same ▸ held)
    have closing : c ≠ ']' := fun same => unclosed (same ▸ held)
    simp [isDelimiter, dot, opening, closing]
  | index position =>
    refine ⟨Nat.toDigits_ne_nil, fun c held => ?_⟩
    have digit : c.isDigit = true := Nat.isDigit_of_mem_toDigits (by decide) (by decide) held
    rw [isDelimiter, Bool.or_eq_false_iff, Bool.or_eq_false_iff]
    refine ⟨⟨?_, ?_⟩, ?_⟩ <;> refine decide_eq_false ?_ <;> rintro rfl <;> cases digit

/-! ## Cutting at every delimiter -/

/-- What stands between delimiters, where anything does. -/
def parts (text : List Char) : List (List Char) :=
  (Text.pieces isDelimiter text).filter (· ≠ [])

theorem parts_cut (delimits : isDelimiter c = true) (front rest : List Char) :
    parts (front ++ c :: rest) = parts front ++ parts rest := by
  rw [parts, Text.pieces_append_cons delimits, List.filter_append]
  rfl

theorem parts_spelled (bare : Bare step) : parts (spelled step) = [spelled step] := by
  obtain ⟨nonempty, whole⟩ := spelled_whole bare
  simp [parts, Text.pieces_whole whole, nonempty]

theorem parts_suffixes {rest : List Segment} (bare : ∀ step ∈ rest, Bare step)
    (front : List Char) :
    parts (front ++ rest.flatMap suffix) = parts front ++ rest.map spelled := by
  induction rest generalizing front with
  | nil => simp
  | cons step rest ih =>
    rw [List.forall_mem_cons] at bare
    obtain ⟨own, later⟩ := bare
    have single := parts_spelled own
    cases step with
    | key name =>
      have text : front ++ (Segment.key name :: rest).flatMap suffix =
          front ++ '.' :: (name.toList ++ rest.flatMap suffix) := by simp [suffix]
      rw [spelled] at single
      rw [text, parts_cut (by decide), ih later, single]
      rfl
    | index position =>
      have text : front ++ (Segment.index position :: rest).flatMap suffix =
          front ++ '[' :: (Text.decimal position ++ ']' :: ([] ++ rest.flatMap suffix)) := by
        simp [suffix]
      rw [spelled] at single
      rw [text, parts_cut (by decide), parts_cut (by decide), ih later, single]
      rfl

theorem parts_written (bare : ∀ step ∈ position, Bare step) :
    parts (written position) = position.map spelled := by
  cases position with
  | nil => rfl
  | cons step rest =>
    cases step with
    | key name =>
      have own := parts_spelled (bare (.key name) List.mem_cons_self)
      rw [spelled] at own
      rw [written, parts_suffixes fun later held => bare later (List.mem_cons_of_mem _ held), own]
      rfl
    | index index => exact parts_suffixes bare []

/-! ## Agreement -/

theorem names_path_of (bare : ∀ step ∈ position, Bare step) (nonempty : position ≠ []) :
    names (pathOf position) = position.map fun step => String.ofList (spelled step) := by
  have found := parts_written bare
  rw [parts] at found
  rw [pathOf, if_neg nonempty, names, String.toList_ofList, found, List.map_map]
  rfl

/-- On the path of a position whose keys are not empty and hold no delimiter, and whose indices
fit into a word, the readers agree, unless the path is that of the document itself: the first
finds the position, the second the texts of its steps, the last name is the text of its last
step, and its parent is the path of the steps before that one, if there are any. -/
theorem readers_agree (bare : ∀ step ∈ position, Bare step) (named : pathOf position ≠ root) :
    segments (pathOf position) = position ∧
      names (pathOf position) = (position.map fun step => String.ofList (spelled step)) ∧
      some (lastName (pathOf position)) =
        position.getLast?.map (fun step => String.ofList (spelled step)) ∧
      parent? (pathOf position) =
        if position.length = 1 then none else some (pathOf position.dropLast) := by
  have nonempty : position ≠ [] := by
    rintro rfl
    exact named rfl
  have apart : position ≠ [.key root] := by
    rintro rfl
    exact named rfl
  have names := names_path_of bare nonempty
  refine ⟨segments_path_of (fun step held => readable_of_bare (bare step held)) apart, names,
    ?_, ?_⟩
  · rw [lastName, names, ← List.getLast?_map]
    obtain ⟨last, ends⟩ := Option.isSome_iff_exists.mp (List.getLast?_isSome.mpr
      (mt List.map_eq_nil_iff.mp nonempty))
    rw [ends]
    rfl
  · obtain ⟨front, last, rfl⟩ : ∃ front last, position = front ++ [last] :=
      ⟨_, _, (List.dropLast_concat_getLast nonempty).symm⟩
    rw [parent_path_of bare, List.dropLast_concat]
    cases front <;> simp

/-- Keys that look like a position and like the document's own path, and the greatest index. -/
theorem crooked_readers_agree :
    let position : List Segment := [.index 0, .key "root", .key "7", .index 18446744073709551615,
      .key "a b"]
    (∀ step ∈ position, Bare step) ∧ pathOf position = "[0].root.7[18446744073709551615].a b" ∧
      pathOf position ≠ root ∧ segments (pathOf position) = position ∧
      names (pathOf position) = ["0", "root", "7", "18446744073709551615", "a b"] ∧
      lastName (pathOf position) = "a b" ∧
      parent? (pathOf position) = some "[0].root.7[18446744073709551615]" := by
  intro position
  have bare : ∀ step ∈ position, Bare step := by decide
  have path : pathOf position = "[0].root.7[18446744073709551615].a b" := by decide
  have named : pathOf position ≠ root := by decide
  obtain ⟨steps, names, last, parent⟩ := readers_agree bare named
  exact ⟨bare, path, named, steps, names.trans (by decide),
    Option.some.inj (last.trans (by decide)),
    parent.trans (by decide)⟩

end Botwright.PathReaders
