import Mathlib.Data.List.Nodup
import Mathlib.Data.List.Perm.Subperm
import Botwright.Proofs.LiteralScan
import Botwright.Script.Binding

/-! What a scope hands out. Whatever text a name is asked for, it is an
identifier that was free; the bounded search for a number cannot run out, because
its candidates are distinct and more than the names that are taken. -/
namespace Botwright.BindingAllocation
open Script Scope LiteralScan

/-! ## Identifiers -/

theorem identifier_cons : isIdentifierText (c :: rest) = true ↔
    isIdentifierStart c = true ∧ ∀ d ∈ rest, isIdentifierPart d = true := by
  simp [isIdentifierText]

theorem identifier_append (identifier : isIdentifierText front = true)
    (parts : ∀ c ∈ back, isIdentifierPart c = true) : isIdentifierText (front ++ back) = true := by
  cases front with
  | nil => cases identifier
  | cons c rest =>
    obtain ⟨begins, inner⟩ := identifier_cons.mp identifier
    refine identifier_cons.mpr ⟨begins, fun d member => ?_⟩
    rcases List.mem_append.mp member with held | added
    · exact inner d held
    · exact parts d added

theorem identifier_sanitize_text (text : List Char) :
    isIdentifierText (sanitizeText text) = true := by
  have underscore : isIdentifierStart '_' = true := by decide
  unfold sanitizeText
  split
  · exact identifier_cons.mpr ⟨underscore, by simp⟩
  · next c rest shape =>
    have parts : ∀ d ∈ c :: rest, isIdentifierPart d = true := fun d member =>
      parts_sanitize_chars (shape ▸ member)
    split
    · next begins =>
      exact identifier_cons.mpr ⟨begins, fun d member => parts d (List.mem_cons_of_mem c member)⟩
    · exact identifier_cons.mpr ⟨underscore, parts⟩

theorem identifier_sanitize (text : String) : isIdentifier (sanitize text) = true := by
  rw [isIdentifier, sanitize, String.toList_ofList]
  exact identifier_sanitize_text text.toList

theorem identifier_numbered (identifier : isIdentifier base = true) (n : Nat) :
    isIdentifier (numbered base n) = true := by
  rw [isIdentifier, numbered, String.toList_append, String.toList_ofList]
  apply identifier_append identifier
  intro c member
  have digit : c.isDigit = true := Nat.isDigit_of_mem_toDigits (by decide) (by decide) member
  simp [isIdentifierPart, digit]

/-! ## The search for a number -/

theorem numbered_injective (same : numbered base n = numbered base m) : n = m := by
  have digits : Text.decimal n = Text.decimal m := by
    have whole := congrArg String.toList same
    simpa only [numbered, String.toList_append, String.toList_ofList,
      List.append_cancel_left_eq] using whole
  have read := congrArg (Nat.ofDigitChars 10 · 0) digits
  simpa [Text.decimal] using read

theorem is_free_iff : isFree scope name = true ↔ name ∉ reservedNames ++ scope.used := by
  simp [isFree, isReserved]

/-- No more numbered names in a row are taken than names are taken at all. -/
theorem count_taken (taken : ∀ i < count, isFree scope (numbered base (n + i)) = false) :
    count ≤ reservedNames.length + scope.used.length := by
  let candidates := (List.range count).map fun i => numbered base (n + i)
  have distinct : candidates.Nodup := by
    apply List.nodup_range.map
    intro i j same
    have := numbered_injective same
    omega
  have within : candidates ⊆ reservedNames ++ scope.used := by
    intro name member
    obtain ⟨i, inRange, rfl⟩ := List.mem_map.mp member
    by_contra outside
    have free := is_free_iff.mpr outside
    rw [taken i (List.mem_range.mp inRange)] at free
    cases free
  have bound := (distinct.subperm within).length_le
  simpa [candidates] using bound

/-- The search stops at the first free candidate unless it runs out of tries. -/
theorem first_free_spec (scope : Scope) (base : String) (n tries : Nat) :
    ∃ i ≤ tries, firstFree scope base n tries = numbered base (n + i) ∧
      (∀ j < i, isFree scope (numbered base (n + j)) = false) ∧
      (i < tries → isFree scope (numbered base (n + i)) = true) := by
  induction tries generalizing n with
  | zero => exact ⟨0, Nat.le_refl 0, rfl, by simp, by simp⟩
  | succ tries ih =>
    rw [firstFree]
    split
    · next free => exact ⟨0, by omega, rfl, by simp, fun _ => free⟩
    · next blocked =>
      obtain ⟨i, bound, found, before, free⟩ := ih (n + 1)
      have shift (k : Nat) : n + 1 + k = n + (k + 1) := by omega
      simp only [shift] at found before free
      refine ⟨i + 1, by omega, found, ?_, fun more => free (by omega)⟩
      intro j earlier
      cases j with
      | zero => exact Bool.eq_false_iff.mpr blocked
      | succ j => exact before j (by omega)

/-- A name with the least number from 2 on that makes it free. -/
theorem first_free_least (scope : Scope) (base : String) :
    ∃ n ≥ 2, firstFree scope base 2 (scope.used.length + reservedNames.length + 1) =
        numbered base n ∧ isFree scope (numbered base n) = true ∧
      ∀ m ≥ 2, m < n → isFree scope (numbered base m) = false := by
  obtain ⟨i, bound, found, before, free⟩ :=
    first_free_spec scope base 2 (scope.used.length + reservedNames.length + 1)
  refine ⟨2 + i, by omega, found, free ?_, ?_⟩
  · have := count_taken before
    omega
  · intro m least earlier
    have taken := before (m - 2) (by omega)
    rwa [show 2 + (m - 2) = m by omega] at taken

/-! ## What is handed out -/

theorem free_choose (scope : Scope) (base : String) : isFree scope (scope.choose base) = true := by
  unfold choose
  dsimp only
  split
  · next free => exact free
  · obtain ⟨n, _, found, free, _⟩ := first_free_least scope (sanitize base)
    rw [found]
    exact free

theorem identifier_choose (scope : Scope) (base : String) :
    isIdentifier (scope.choose base) = true := by
  unfold choose
  dsimp only
  split
  · exact identifier_sanitize base
  · obtain ⟨n, _, found, _, _⟩ := first_free_least scope (sanitize base)
    rw [found]
    exact identifier_numbered (identifier_sanitize base) n

theorem choose_not_used (scope : Scope) (base : String) : scope.choose base ∉ scope.used :=
  fun used => is_free_iff.mp (free_choose scope base) (List.mem_append_right _ used)

theorem choose_not_reserved (scope : Scope) (base : String) :
    scope.choose base ∉ reservedNames :=
  fun reserved => is_free_iff.mp (free_choose scope base) (List.mem_append_left _ reserved)

end Botwright.BindingAllocation
