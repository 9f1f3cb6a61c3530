import Mathlib.Data.List.ReduceOption
import Mathlib.Data.Nat.Init
import Botwright.Proofs.BindingAllocation

/-! Runs of a scope. Whatever was demanded before, the loop that looks for a name comes to an
end, and what it stops at is an identifier that nothing before has taken: the text's own
identifier, or that with the least number that makes it free. -/
namespace Botwright.BindingRuns
open Script Scope BindingAllocation

/-! ## Runs -/

/-- The name that a demand takes: the one it reserves, or the one it is answered with. -/
def takenBy? : Demand → Option String → Option String
  | .allocate _, answer => answer
  | .reserve name, _ => some name

/-- The names that demands with these answers have taken. -/
def takenNames (demands : List Demand) (answers : List (Option String)) : List String :=
  (List.zipWith takenBy? demands answers).reduceOption

/-- The scope after some demands. -/
def scopeAfter (scope : Scope) (demands : List Demand) : Scope :=
  demands.foldl (fun scope demand => (scope.meet demand).2) scope

/-- A scope holds the names that were taken in it, the latest first. -/
theorem used_after (scope : Scope) (before rest : List Demand) :
    (scopeAfter scope before).used =
      (takenNames before (scope.meetAll (before ++ rest))).reverse ++ scope.used := by
  induction before generalizing scope with
  | nil => rfl
  | cons demand before ih =>
    have taken : ∃ name, takenBy? demand (scope.meet demand).1 = some name ∧
        (scope.meet demand).2.used = name :: scope.used := by
      cases demand with
      | allocate base => exact ⟨scope.choose base, rfl, rfl⟩
      | reserve name => exact ⟨name, rfl, rfl⟩
    obtain ⟨name, takes, used⟩ := taken
    have later := ih (scope.meet demand).2
    rw [used] at later
    simpa [scopeAfter, meetAll, takenNames, takes, List.reduceOption_cons_of_some] using later

/-- A demand in a run is met in the scope that the demands before it have left. -/
theorem answer_in_run (scope : Scope) (before : List Demand) (demand : Demand)
    (after : List Demand) :
    (scope.meetAll (before ++ demand :: after))[before.length]? =
      some ((scopeAfter scope before).meet demand).1 := by
  induction before generalizing scope with
  | nil => rfl
  | cons first before ih => simpa [scopeAfter, meetAll] using ih (scope.meet first).2

/-! ## The loop -/

/-- A name that must be passed by. -/
def Blocked (taken : List String) (name : String) : Prop := name ∈ reservedNames ∨ name ∈ taken

/-- The states of the loop: the candidate, at first the name itself, and the number for the
next one, which is tried while the candidate is blocked. -/
inductive Tried (taken : List String) (name : String) : String → Nat → Prop where
  | start : Tried taken name name 2
  | next (tried : Tried taken name candidate n) (blocked : Blocked taken candidate) :
      Tried taken name (numbered name n) (n + 1)

theorem blocked_iff : Blocked taken name ↔ isFree ⟨taken⟩ name = false := by
  rw [← Bool.not_eq_true, is_free_iff, not_not, List.mem_append]
  rfl

/-- The loop has passed by everything before its candidate. -/
theorem passed_of_tried (tried : Tried taken name candidate n) :
    candidate = name ∧ n = 2 ∨
      Blocked taken name ∧ ∃ m ≥ 2, candidate = numbered name m ∧ n = m + 1 ∧
        ∀ k ≥ 2, k < m → Blocked taken (numbered name k) := by
  induction tried with
  | start => exact .inl ⟨rfl, rfl⟩
  | @next candidate n _ blocked ih =>
    refine .inr ?_
    rcases ih with ⟨rfl, rfl⟩ | ⟨bare, m, least, rfl, rfl, passed⟩
    · exact ⟨blocked, 2, Nat.le_refl 2, rfl, rfl, fun k _ _ => by omega⟩
    · refine ⟨bare, m + 1, by omega, rfl, rfl, fun k from_two below => ?_⟩
      rcases Nat.lt_succ_iff_lt_or_eq.mp below with earlier | rfl
      · exact passed k from_two earlier
      · exact blocked

/-- The loop goes on as long as what it comes to is blocked. -/
theorem tried_of_passed (bare : Blocked taken name) (least : 2 ≤ m)
    (passed : ∀ k ≥ 2, k < m → Blocked taken (numbered name k)) :
    Tried taken name (numbered name m) (m + 1) := by
  induction m, least using Nat.le_induction with
  | base => exact .next .start bare
  | succ m from_two ih =>
    have before := ih fun k least earlier => passed k least (by omega)
    exact .next before (passed m from_two (Nat.lt_succ_self m))

/-- The loop has a bound: each candidate is blocked by another name. -/
theorem tried_bound (tried : Tried taken name candidate n) :
    n ≤ reservedNames.length + taken.length + 3 := by
  rcases passed_of_tried tried with ⟨-, rfl⟩ | ⟨-, m, least, -, rfl, passed⟩
  · omega
  · have unfree : ∀ i < m - 2, isFree ⟨taken⟩ (numbered name (2 + i)) = false :=
      fun i below => blocked_iff.mp (passed (2 + i) (by omega) (by omega))
    have few : m - 2 ≤ reservedNames.length + taken.length := count_taken unfree
    omega

/-! ## What is handed out -/

/-- What the loop hands out for a text where some names are taken. -/
structure HandsOut (taken : List String) (base name : String) : Prop where
  identifier : isIdentifier name = true
  unreserved : name ∉ reservedNames
  fresh : name ∉ taken
  /-- The identifier of the text, if it may be had. -/
  own : ¬Blocked taken (sanitize base) → name = sanitize base
  /-- Otherwise that with the least number behind it that is not blocked. -/
  suffixed : Blocked taken (sanitize base) → ∃ n ≥ 2, name = numbered (sanitize base) n ∧
    ∀ m ≥ 2, m < n → Blocked taken (numbered (sanitize base) m)
  /-- The loop comes to the name, where it ends, as nothing blocks the name. -/
  reached : ∃ n, Tried taken (sanitize base) name n
  /-- It cannot go on for ever, and its numbers stay small. -/
  bounded : ∀ candidate n, Tried taken (sanitize base) candidate n →
    n ≤ reservedNames.length + taken.length + 3

theorem hands_out_choose {scope : Scope} (same : ∀ name, name ∈ scope.used ↔ name ∈ taken) :
    HandsOut taken base (scope.choose base) := by
  have blocked (name : String) : Blocked taken name ↔ isFree scope name = false := by
    rw [blocked_iff, ← Bool.not_eq_true, ← Bool.not_eq_true, is_free_iff, is_free_iff]
    simp only [List.mem_append, same]
  have own (free : ¬Blocked taken (sanitize base)) : scope.choose base = sanitize base := by
    rw [blocked, Bool.not_eq_false] at free
    rw [choose]
    exact if_pos free
  -- Where the plain name is blocked, the search stops at the first number that is free.
  have suffixed (bare : Blocked taken (sanitize base)) : ∃ n ≥ 2,
      scope.choose base = numbered (sanitize base) n ∧
        ∀ m ≥ 2, m < n → Blocked taken (numbered (sanitize base) m) := by
    obtain ⟨n, least, found, -, passed⟩ := first_free_least scope (sanitize base)
    refine ⟨n, least, ?_, fun m from_two below => (blocked _).mpr (passed m from_two below)⟩
    rw [blocked] at bare
    rw [choose, ← found]
    exact if_neg (Bool.eq_false_iff.mp bare)
  refine ⟨identifier_choose scope base, choose_not_reserved scope base,
    fun held => choose_not_used scope base ((same _).mpr held), own, suffixed, ?_,
    fun _ _ => tried_bound⟩
  by_cases bare : Blocked taken (sanitize base)
  · obtain ⟨n, least, found, passed⟩ := suffixed bare
    exact ⟨n + 1, found ▸ tried_of_passed bare least passed⟩
  · exact ⟨2, (own bare) ▸ .start⟩

/-- In every run on an empty scope, each demand for a name is answered, whatever came before
it and for whatever text: the loop ends, after at most one step more than names are reserved
and taken, with an identifier that is not reserved and that no demand before has taken. It
is the identifier of the text if that is free, and else that with the least number from two
on that makes it free. -/
theorem run_hands_out (before after : List Demand) (base : String) :
    let answers := Scope.empty.meetAll (before ++ .allocate base :: after)
    ∃ name, answers[before.length]? = some (some name) ∧
      HandsOut (takenNames before answers) base name := by
  refine ⟨_, answer_in_run Scope.empty before (.allocate base) after, hands_out_choose ?_⟩
  intro name
  rw [used_after Scope.empty before (.allocate base :: after)]
  simp [Scope.empty]

/-- A name that ends in a digit, one that is reserved, and texts with one identifier. -/
example : Scope.empty.meetAll [.allocate "a b", .reserve "a_b3", .allocate "a-b", .allocate "a_b",
    .allocate "a_b2", .allocate "url", .allocate "2", .allocate ""] =
    [some "a_b", none, some "a_b2", some "a_b4", some "a_b22", some "url2", some "_2",
      some "_"] := by
  decide +kernel

end Botwright.BindingRuns
