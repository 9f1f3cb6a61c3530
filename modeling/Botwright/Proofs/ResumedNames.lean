import Mathlib.Data.List.Nodup
import Botwright.Proofs.EditingSession

/-! What a resumed allocator hands out. It goes on above every number that a profile has
under a name of the right kind, so no key is the key of a profile and no address the address
of one, whatever these were called. Names of the other kind are not looked at: a profile
that has one under a later number has a name that is handed out again. -/
namespace Botwright.ResumedNames
open Environment EditingSession

/-! ## Allocations in a row -/

/-- The names that an allocator hands out, in order. -/
def handedOut (allocator : Allocator) : Nat → List ProfileVariables
  | 0 => []
  | count + 1 => allocator.allocate.1 :: handedOut allocator.allocate.2 count

/-- The keys and the addresses among some names. -/
def textsOf (given : List ProfileVariables) : List String :=
  given.flatMap fun names => [names.key, names.url]

/-- A profile goes by the name of another kind: an address as its key or a key as its
address, with this number. -/
def Crossed (profile : Profile) (number : Nat) : Prop :=
  profile.keyVariable = (namesAt number).url ∨ profile.urlVariable = (namesAt number).key

instance (profile : Profile) (number : Nat) : Decidable (Crossed profile number) :=
  inferInstanceAs (Decidable (_ ∨ _))

theorem handed_out_eq (allocator : Allocator) (count : Nat) :
    handedOut allocator count = (List.range' allocator.next count).map namesAt := by
  induction count generalizing allocator with
  | zero => rfl
  | succ count ih =>
    rw [handedOut, ih, List.range'_succ, List.map_cons]
    rfl

theorem mem_texts_at (numbers : List Nat) :
    name ∈ textsOf (numbers.map namesAt) ↔
      ∃ number ∈ numbers, name = (namesAt number).key ∨ name = (namesAt number).url := by
  simp [textsOf]

/-- Different numbers give different names, and a key is no address. -/
theorem nodup_texts_at {numbers : List Nat} (distinct : numbers.Nodup) :
    (textsOf (numbers.map namesAt)).Nodup := by
  rw [textsOf, List.flatMap_map, List.nodup_flatMap]
  constructor
  · intro number _
    simp [namesAt, stems_apart]
  · exact distinct.imp fun different => numbers_apart different

/-! ## Numbers of profiles -/

/-- A number that is read in a name of the right kind is below the resumed counter. -/
theorem number_below_resumed (member : profile ∈ profiles)
    (used : number ∈ Allocator.usedNumbers profile) :
    number < (Allocator.resume profiles).next := by
  have listed : number ∈ profiles.flatMap Allocator.usedNumbers :=
    List.mem_flatMap.mpr ⟨profile, member, used⟩
  exact ((foldl_max_lt_iff 0 _).mp (Nat.lt_succ_self _)).2 number listed

/-- A number that is handed out was read in no name. -/
theorem number_not_used (given : number ∈ List.range' (Allocator.resume profiles).next count)
    (member : profile ∈ profiles) : number ∉ Allocator.usedNumbers profile := fun used => by
  have below := number_below_resumed member used
  have bounds := List.mem_range'_1.mp given
  omega

section Fits
variable (fits : (Allocator.resume profiles).next + count < Numeric.unsignedLimit)
  (given : number ∈ List.range' (Allocator.resume profiles).next count)
  (member : profile ∈ profiles)
include fits given member

/-- A number that fits into a word would have been read in the key that has it. -/
theorem key_fresh : (namesAt number).key ≠ profile.keyVariable := fun same => by
  have bounds := List.mem_range'_1.mp given
  have read : numberOf? keyStem profile.keyVariable = some number := by
    rw [← same]
    exact number_of_name keyStem (by omega)
  apply number_not_used given member
  exact List.mem_append_left _ (Option.mem_toList.mpr read)

theorem url_fresh : (namesAt number).url ≠ profile.urlVariable := fun same => by
  have bounds := List.mem_range'_1.mp given
  have read : numberOf? urlStem profile.urlVariable = some number := by
    rw [← same]
    exact number_of_name urlStem (by omega)
  apply number_not_used given member
  exact List.mem_append_right _ (Option.mem_toList.mpr read)

/-- Of the names with a number that is handed out, a profile can only have a crossed one. -/
theorem crossed_iff : Crossed profile number ↔
    ∃ name ∈ [profile.keyVariable, profile.urlVariable],
      name = (namesAt number).key ∨ name = (namesAt number).url := by
  have key := (key_fresh fits given member).symm
  have url := (url_fresh fits given member).symm
  simp [Crossed, key, url]

end Fits

/-! ## Resumed allocators -/

/-- An allocator that is resumed from profiles with any names, and that does not run out of
numbers, never hands a name out twice, nor the key of a profile as a key or the address of
one as an address. It hands out no name of theirs at all just if none of them is crossed
under a number that is handed out. -/
theorem resumed_names_fresh (profiles : List Profile) (count : Nat)
    (fits : (Allocator.resume profiles).next + count < Numeric.unsignedLimit) :
    let given := handedOut (Allocator.resume profiles) count
    (textsOf given).Nodup ∧
      (∀ names ∈ given, ∀ profile ∈ profiles,
        names.key ≠ profile.keyVariable ∧ names.url ≠ profile.urlVariable) ∧
      ((∀ name ∈ textsOf given, name ∉ namesIn profiles) ↔
        ∀ profile ∈ profiles, ∀ number ∈ List.range' (Allocator.resume profiles).next count,
          ¬Crossed profile number) := by
  dsimp only
  rw [handed_out_eq]
  refine ⟨nodup_texts_at List.nodup_range', ?_, ?_, ?_⟩
  · intro names listed profile member
    obtain ⟨number, given, rfl⟩ := List.mem_map.mp listed
    exact ⟨key_fresh fits given member, url_fresh fits given member⟩
  · intro fresh profile member number given crossed
    obtain ⟨name, own, named⟩ := (crossed_iff fits given member).mp crossed
    exact fresh name ((mem_texts_at _).mpr ⟨number, given, named⟩)
      (List.mem_flatMap.mpr ⟨profile, member, own⟩)
  · intro straight name listed held
    obtain ⟨number, given, named⟩ := (mem_texts_at _).mp listed
    obtain ⟨profile, member, own⟩ := List.mem_flatMap.mp held
    exact straight profile member number given
      ((crossed_iff fits given member).mpr ⟨name, own, named⟩)

/-- A profile that has only the names of its variables. -/
def profileNamed (key url : String) : Profile := newProfile "id" ⟨key, url⟩

/-- Profiles whose names were written by hand: with zeros or a plus sign in front of a
number, with a number that fits into no word, without a number, and one that is crossed. -/
def handmadeProfiles : List Profile :=
  [profileNamed "BOT_API_KEY_007" "BOT_BASE_URL_+12",
   profileNamed "BOT_API_KEY_99999999999999999999" "BOT_BASE_URL_",
   profileNamed "BOT_BASE_URL_03" "MY_URL", profileNamed "BOT_API_KEY13" ""]

theorem handmade_names_fresh :
    (Allocator.resume handmadeProfiles).next = 13 ∧ 13 + 2 < Numeric.unsignedLimit ∧
      textsOf (handedOut (Allocator.resume handmadeProfiles) 2) =
        ["BOT_API_KEY_13", "BOT_BASE_URL_13", "BOT_API_KEY_14", "BOT_BASE_URL_14"] ∧
      ∀ name ∈ textsOf (handedOut (Allocator.resume handmadeProfiles) 2),
        name ∉ namesIn handmadeProfiles := by
  have next : (Allocator.resume handmadeProfiles).next = 13 := by decide +kernel
  have few : 13 + 2 < Numeric.unsignedLimit := by decide
  obtain ⟨-, -, fresh⟩ := resumed_names_fresh handmadeProfiles 2 (next.symm ▸ few)
  exact ⟨next, few, by decide +kernel, fresh.mpr (by decide +kernel)⟩

/-- The address that is handed out next is the key of the only profile. -/
theorem crossed_name_handed_out :
    let profiles := [profileNamed "BOT_BASE_URL_01" ""]
    (Allocator.resume profiles).next + 1 < Numeric.unsignedLimit ∧
      textsOf (handedOut (Allocator.resume profiles) 1) = ["BOT_API_KEY_01", "BOT_BASE_URL_01"] ∧
      "BOT_BASE_URL_01" ∈ namesIn profiles := by
  decide +kernel

end Botwright.ResumedNames
