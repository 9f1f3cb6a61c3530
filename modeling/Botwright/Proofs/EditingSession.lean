import Mathlib.Algebra.GroupWithZero.Nat
import Mathlib.Data.List.Nodup
import Botwright.Environment.Session
import Botwright.Proofs.CanonicalPath

/-! Names of variables over an editing session. The counter stays above the number of
every profile that is there, also where it goes back to what the profiles need, so names
that are handed out are new among those in use. -/
namespace Botwright.EditingSession
open Environment

/-! ## Numbered names -/

/-- The names with a number. -/
def namesAt (number : Nat) : ProfileVariables :=
  ⟨numberedName keyStem number, numberedName urlStem number⟩

/-- The names that a profile keeps. -/
def namesOf (profile : Profile) : ProfileVariables := ⟨profile.keyVariable, profile.urlVariable⟩

/-- The names that profiles keep, in order. -/
def namesIn (profiles : List Profile) : List String :=
  profiles.flatMap fun profile => [profile.keyVariable, profile.urlVariable]

/-- Zeros in front of a number do not change it. -/
theorem digits_value_zeros (count : Nat) (digits : List Char) :
    Text.digitsValue 0 (List.replicate count '0' ++ digits) = Text.digitsValue 0 digits := by
  induction count with
  | zero => rfl
  | succ count ih => exact ih

theorem padded_value (width n : Nat) :
    Text.digitsValue 0 (Text.padLeft width '0' (Text.decimal n)) = n := by
  rw [Text.padLeft, digits_value_zeros]
  exact Nat.ofDigitChars_ten_toDigits

theorem padded_digits (member : c ∈ Text.padLeft width '0' (Text.decimal n)) :
    c.isDigit = true := by
  rcases List.mem_append.mp member with zero | digit
  · rw [List.eq_of_mem_replicate zero]
    rfl
  · exact Nat.isDigit_of_mem_toDigits (by decide) (by decide) digit

/-- A padded number is read back if it fits into a word, however many digits it has. -/
theorem read_padded (bound : n < Numeric.unsignedLimit) :
    Text.readUnsigned? (Text.padLeft width '0' (Text.decimal n)) = some n := by
  have digits : (Text.padLeft width '0' (Text.decimal n)).all Char.isDigit = true :=
    List.all_eq_true.mpr fun c member => padded_digits member
  have nonempty : Text.padLeft width '0' (Text.decimal n) ≠ [] :=
    List.append_ne_nil_of_right_ne_nil _ Nat.toDigits_ne_nil
  rw [Text.readUnsigned?, CanonicalPath.drop_plus_digits digits, Text.readDigits?,
    if_pos ⟨nonempty, digits⟩, padded_value]
  simpa using bound

theorem number_of_name (stem : String) (bound : n < Numeric.unsignedLimit) :
    numberOf? stem (numberedName stem n) = some n := by
  have name : (numberedName stem n).toList =
      stem.toList ++ (['_'] ++ Text.padLeft 2 '0' (Text.decimal n)) := by
    simp [numberedName]
  have front (before after : List Char) : Text.dropStart? before (before ++ after) = some after :=
    Text.dropStart?_eq_some_iff.mpr rfl
  simp only [numberOf?, name, front, Option.bind_eq_bind, Option.bind_some, read_padded bound]

theorem numbered_name_injective (same : numberedName stem n = numberedName stem m) : n = m := by
  have digits : Text.padLeft 2 '0' (Text.decimal n) = Text.padLeft 2 '0' (Text.decimal m) := by
    simpa [numberedName] using congrArg String.toList same
  simpa only [padded_value] using congrArg (Text.digitsValue 0) digits

/-- A name of a key is no name of an address. -/
theorem stems_apart (n m : Nat) : numberedName keyStem n ≠ numberedName urlStem m := by
  intro same
  have text := congrArg String.toList same
  simp [numberedName, keyStem, urlStem] at text

theorem names_at_injective (same : namesAt n = namesAt m) : n = m :=
  numbered_name_injective (congrArg ProfileVariables.key same)

theorem names_of_eq (named : namesOf profile = namesAt n) :
    profile.keyVariable = numberedName keyStem n ∧ profile.urlVariable = numberedName urlStem n :=
  ⟨congrArg ProfileVariables.key named, congrArg ProfileVariables.url named⟩

/-- Both names of a profile are read back as its number. -/
theorem used_numbers (named : namesOf profile = namesAt n) (bound : n < Numeric.unsignedLimit) :
    Allocator.usedNumbers profile = [n, n] := by
  obtain ⟨key, url⟩ := names_of_eq named
  rw [Allocator.usedNumbers, key, url, number_of_name keyStem bound, number_of_name urlStem bound]
  rfl

/-- Names with different numbers have nothing in common. -/
theorem numbers_apart (different : n ≠ m) :
    [numberedName keyStem n, numberedName urlStem n].Disjoint
      [numberedName keyStem m, numberedName urlStem m] := by
  have own (stem : String) : numberedName stem n ≠ numberedName stem m :=
    fun same => different (numbered_name_injective same)
  simp only [List.disjoint_cons_left, List.disjoint_nil_left, List.mem_cons, List.not_mem_nil,
    or_false, and_true, not_or]
  exact ⟨⟨own keyStem, stems_apart n m⟩, (stems_apart m n).symm, own urlStem⟩

theorem foldl_max_lt_iff (start : Nat) (numbers : List Nat) :
    numbers.foldl max start < bound ↔ start < bound ∧ ∀ number ∈ numbers, number < bound := by
  induction numbers generalizing start with
  | nil => simp
  | cons first rest ih => rw [List.foldl_cons, ih, List.forall_mem_cons, Nat.max_lt, and_assoc]

/-! ## Steps and runs -/

/-- A step of a session, with the number of times that it takes names. A new profile may
come with any texts besides its names. -/
inductive Step (before : Session) : Nat → Session → Prop where
  | allocate : Step before 1 { before with allocator := before.allocator.allocate.2 }
  | add (profile : Profile) (named : namesOf profile = before.allocator.allocate.1) :
      Step before 1 ⟨before.allocator.allocate.2, before.profiles ++ [profile]⟩
  | remove (id : String) :
      Step before 0 { before with profiles := before.profiles.filter (·.id ≠ id) }
  | resume : Step before 0 { before with allocator := Allocator.resume before.profiles }

/-- The sessions that begin without profiles, with the number of times that names were
taken on the way. -/
inductive Reached : Nat → Session → Prop where
  | start : Reached 0 (Session.start [])
  | step (reached : Reached taken before) (step : Step before more after) :
      Reached (taken + more) after

/-- How often an edit takes names. -/
def takes : Edit → Nat
  | .allocate | .add _ => 1
  | .resume | .remove _ => 0

theorem step_of_edit (session : Session) (edit : Edit) :
    Step session (takes edit) (session.step edit).2 := by
  cases edit with
  | allocate => exact .allocate
  | resume => exact .resume
  | add id => exact .add (newProfile id session.allocator.allocate.1) rfl
  | remove id => exact .remove id

/-- Edits run through sessions that are reached. -/
theorem reached_after (reached : Reached taken session) (edits : List Edit) :
    Reached (taken + (edits.map takes).sum) (session.after edits) := by
  induction edits generalizing taken session with
  | nil => exact reached
  | cons edit rest ih =>
    rw [List.map_cons, List.sum_cons, ← Nat.add_assoc]
    exact ih (.step reached (step_of_edit session edit))

/-! ## What every step keeps -/

/-- The counter is above the number of every profile, and no number has two profiles. -/
structure Orderly (taken : Nat) (session : Session) : Prop where
  positive : 0 < session.allocator.next
  bound : session.allocator.next ≤ taken + 1
  numbered : ∀ profile ∈ session.profiles, ∃ number < session.allocator.next,
    namesOf profile = namesAt number
  distinct : (session.profiles.map namesOf).Nodup

theorem orderly_start : Orderly 0 (Session.start []) :=
  ⟨Nat.one_pos, Nat.le_refl 1, nofun, List.nodup_nil⟩

section Orderly
variable {session : Session} (orderly : Orderly taken session)
include orderly

theorem taken_names_fresh : session.allocator.allocate.1 ∉ session.profiles.map namesOf := by
  intro held
  obtain ⟨profile, member, same⟩ := List.mem_map.mp held
  obtain ⟨number, below, named⟩ := orderly.numbered profile member
  have again : number = session.allocator.next := names_at_injective (named.symm.trans same)
  omega

theorem orderly_allocate :
    Orderly (taken + 1) { session with allocator := session.allocator.allocate.2 } where
  positive := Nat.succ_pos _
  bound := Nat.succ_le_succ orderly.bound
  numbered profile member := by
    obtain ⟨number, below, named⟩ := orderly.numbered profile member
    exact ⟨number, Nat.lt_succ_of_lt below, named⟩
  distinct := orderly.distinct

theorem orderly_add (named : namesOf profile = session.allocator.allocate.1) :
    Orderly (taken + 1) ⟨session.allocator.allocate.2, session.profiles ++ [profile]⟩ where
  positive := Nat.succ_pos _
  bound := Nat.succ_le_succ orderly.bound
  numbered other member := by
    rcases List.mem_append.mp member with old | new
    · exact (orderly_allocate orderly).numbered other old
    · rw [List.mem_singleton.mp new]
      exact ⟨session.allocator.next, Nat.lt_succ_self _, named⟩
  distinct := by
    rw [List.map_append, List.map_singleton, named]
    exact orderly.distinct.append (List.nodup_singleton _)
      (List.disjoint_singleton.mpr (taken_names_fresh orderly))

theorem orderly_remove (id : String) :
    Orderly taken { session with profiles := session.profiles.filter (·.id ≠ id) } where
  positive := orderly.positive
  bound := orderly.bound
  numbered profile member := orderly.numbered profile (List.mem_filter.mp member).1
  distinct := orderly.distinct.sublist (List.filter_sublist.map namesOf)

/-- The counter may go back, but only to where it is above the profiles that are there. -/
theorem orderly_resume (few : taken < Numeric.unsignedLimit) :
    Orderly taken { session with allocator := Allocator.resume session.profiles } := by
  have numbers : ∀ profile ∈ session.profiles, ∃ number < session.allocator.next,
      namesOf profile = namesAt number ∧ Allocator.usedNumbers profile = [number, number] := by
    intro profile member
    obtain ⟨number, below, named⟩ := orderly.numbered profile member
    have bound := orderly.bound
    exact ⟨number, below, named, used_numbers named (by omega)⟩
  have highest : (session.profiles.flatMap Allocator.usedNumbers).foldl max 0 <
      session.allocator.next := by
    refine (foldl_max_lt_iff 0 _).mpr ⟨orderly.positive, fun number member => ?_⟩
    obtain ⟨profile, held, used⟩ := List.mem_flatMap.mp member
    obtain ⟨own, below, _, both⟩ := numbers profile held
    rw [both] at used
    have same : number = own := by simpa using used
    omega
  refine ⟨Nat.succ_pos _, Nat.le_trans highest orderly.bound, fun profile member => ?_,
    orderly.distinct⟩
  obtain ⟨number, _, named, both⟩ := numbers profile member
  have listed : number ∈ session.profiles.flatMap Allocator.usedNumbers :=
    List.mem_flatMap.mpr ⟨profile, member, both ▸ List.mem_cons_self⟩
  exact ⟨number, ((foldl_max_lt_iff 0 _).mp (Nat.lt_succ_self _)).2 number listed, named⟩

end Orderly

theorem orderly_step (orderly : Orderly taken before) (few : taken < Numeric.unsignedLimit)
    (step : Step before more after) : Orderly (taken + more) after := by
  cases step with
  | allocate => exact orderly_allocate orderly
  | add profile named => exact orderly_add orderly named
  | remove id => exact orderly_remove orderly id
  | resume => exact orderly_resume orderly few

theorem orderly_reached (reached : Reached taken session) (few : taken < Numeric.unsignedLimit) :
    Orderly taken session := by
  induction reached with
  | start => exact orderly_start
  | step _ step ih =>
    have earlier := ih (by omega)
    exact orderly_step earlier (by omega) step

/-! ## Names over a session -/

/-- Profiles with numbers of their own share no name. -/
theorem names_distinct (orderly : Orderly taken session) : (namesIn session.profiles).Nodup := by
  rw [namesIn, List.nodup_flatMap]
  constructor
  · intro profile member
    obtain ⟨number, _, named⟩ := orderly.numbered profile member
    obtain ⟨key, url⟩ := names_of_eq named
    simp [key, url, stems_apart]
  · have distinct := List.pairwise_map.mp orderly.distinct
    refine distinct.imp_of_mem fun {first second} here there apart => ?_
    obtain ⟨n, _, firstNamed⟩ := orderly.numbered first here
    obtain ⟨m, _, secondNamed⟩ := orderly.numbered second there
    have different : n ≠ m := by
      rintro rfl
      exact apart (firstNamed.trans secondNamed.symm)
    obtain ⟨firstKey, firstUrl⟩ := names_of_eq firstNamed
    obtain ⟨secondKey, secondUrl⟩ := names_of_eq secondNamed
    simpa only [Function.onFun, firstKey, firstUrl, secondKey, secondUrl] using
      numbers_apart different

/-- What is handed out next is no name of a profile. -/
theorem next_names_fresh (orderly : Orderly taken session) :
    [session.allocator.allocate.1.key, session.allocator.allocate.1.url].Disjoint
      (namesIn session.profiles) := by
  intro name taken held
  obtain ⟨profile, member, listed⟩ := List.mem_flatMap.mp held
  obtain ⟨number, below, named⟩ := orderly.numbered profile member
  obtain ⟨key, url⟩ := names_of_eq named
  rw [key, url] at listed
  exact numbers_apart (Nat.ne_of_gt below) taken listed

/-- A step leaves out the profiles with an id or adds one with the names that were next;
the others stay as they are. -/
theorem step_keeps (step : Step before more after) :
    (∃ id, after.profiles = before.profiles.filter (·.id ≠ id)) ∨
      ∃ added, after.profiles = before.profiles ++ added ∧
        ∀ profile ∈ added, namesOf profile = before.allocator.allocate.1 := by
  cases step with
  | allocate => exact .inr ⟨[], (List.append_nil _).symm, nofun⟩
  | add profile named => exact .inr ⟨[profile], rfl, by simpa using named⟩
  | remove id => exact .inl ⟨id, rfl⟩
  | resume => exact .inr ⟨[], (List.append_nil _).symm, nofun⟩

/-- At every session that is reached, the names of the profiles are all different, a step
does not touch the profiles that stay, and what the next allocation hands out is new. The
counter fits into a word, so it never comes round to a number again. -/
theorem session_names_unique (reached : Reached taken session)
    (few : taken < Numeric.unsignedLimit - 1) :
    (namesIn session.profiles).Nodup ∧
      (∀ more after, Step session more after →
        (∃ id, after.profiles = session.profiles.filter (·.id ≠ id)) ∨
          ∃ added, after.profiles = session.profiles ++ added ∧
            ∀ profile ∈ added, namesOf profile = session.allocator.allocate.1) ∧
      session.allocator.allocate.1.key ≠ session.allocator.allocate.1.url ∧
      session.allocator.allocate.1.key ∉ namesIn session.profiles ∧
      session.allocator.allocate.1.url ∉ namesIn session.profiles ∧
      session.allocator.next < Numeric.unsignedLimit := by
  have orderly := orderly_reached reached (by omega)
  have fresh := next_names_fresh orderly
  have bound := orderly.bound
  exact ⟨names_distinct orderly, fun _ _ => step_keeps, stems_apart _ _,
    fresh List.mem_cons_self, fresh (List.mem_cons_of_mem _ List.mem_cons_self), by omega⟩

/-- A session in which the last of three profiles goes, the counter goes back to just
behind the second, and a new profile takes an id that is in use. -/
def sampleEdits : List Edit :=
  [.add "a", .allocate, .add "b", .add "c", .remove "c", .resume, .add "a"]

theorem sample_names_unique :
    Reached 5 ((Session.start []).after sampleEdits) ∧ 5 < Numeric.unsignedLimit - 1 ∧
      namesIn ((Session.start []).after sampleEdits).profiles =
        ["BOT_API_KEY_01", "BOT_BASE_URL_01", "BOT_API_KEY_03", "BOT_BASE_URL_03",
          "BOT_API_KEY_04", "BOT_BASE_URL_04"] ∧
      "BOT_API_KEY_05" ∉ namesIn ((Session.start []).after sampleEdits).profiles := by
  have reached : Reached 5 ((Session.start []).after sampleEdits) :=
    reached_after .start sampleEdits
  have few : 5 < Numeric.unsignedLimit - 1 := by decide
  obtain ⟨_, _, _, fresh, _, _⟩ := session_names_unique reached few
  have next : ((Session.start []).after sampleEdits).allocator.allocate.1.key =
      "BOT_API_KEY_05" := by decide +kernel
  exact ⟨reached, few, by decide +kernel, next ▸ fresh⟩

end Botwright.EditingSession
