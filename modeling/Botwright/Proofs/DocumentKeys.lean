import Botwright.Json.Value
import Mathlib.Data.List.Nodup

/-! Keys throughout a document. A condition on the keys of one object is
carried to every object at any depth, and whatever a JSON text is read as has
no object with a repeated key. -/
namespace Botwright.DocumentKeys
open Json

mutual

/-- The keys of every object in a value, the value itself included, satisfy a
condition. -/
def EveryObject (condition : List String → Prop) : Json → Prop
  | .array items => EveryItem condition items
  | .object members => condition (members.map (·.1)) ∧ EveryMember condition members
  | _ => True

def EveryItem (condition : List String → Prop) : List Json → Prop
  | [] => True
  | item :: rest => EveryObject condition item ∧ EveryItem condition rest

def EveryMember (condition : List String → Prop) : List (String × Json) → Prop
  | [] => True
  | (_, value) :: rest => EveryObject condition value ∧ EveryMember condition rest

end

/-- No object in a value repeats a key. -/
def Distinct (value : Json) : Prop := EveryObject List.Nodup value

/-- Every key in a value satisfies a condition. -/
def EveryKey (condition : String → Prop) (value : Json) : Prop :=
  EveryObject (fun keys => ∀ key ∈ keys, condition key) value

theorem every_member_iff :
    EveryMember condition members ↔ ∀ member ∈ members, EveryObject condition member.2 := by
  induction members with
  | nil => simp [EveryMember]
  | cons first rest ih => simp [EveryMember, ih]

mutual

/-- A condition that implies another one carries over to every object. -/
theorem every_object_mono (implied : ∀ keys, condition keys → weaker keys) :
    (value : Json) → EveryObject condition value → EveryObject weaker value
  | .array items, every => every_item_mono implied items every
  | .object members, every => ⟨implied _ every.1, every_member_mono implied members every.2⟩
  | .null, _ | .bool _, _ | .number _, _ | .string _, _ => trivial

private theorem every_item_mono (implied : ∀ keys, condition keys → weaker keys) :
    (items : List Json) → EveryItem condition items → EveryItem weaker items
  | [], _ => trivial
  | item :: rest, every =>
    ⟨every_object_mono implied item every.1, every_item_mono implied rest every.2⟩

private theorem every_member_mono (implied : ∀ keys, condition keys → weaker keys) :
    (members : List (String × Json)) → EveryMember condition members → EveryMember weaker members
  | [], _ => trivial
  | (_, value) :: rest, every =>
    ⟨every_object_mono implied value every.1, every_member_mono implied rest every.2⟩

end

/-- Among members with distinct keys, a key gives back its own member. -/
theorem lookup_member {members : List (String × Json)} (distinct : (members.map (·.1)).Nodup)
    (member : (key, value) ∈ members) : members.lookup key = some value := by
  induction members with
  | nil => cases member
  | cons first rest ih =>
    obtain ⟨firstKey, firstValue⟩ := first
    simp only [List.map_cons, List.nodup_cons] at distinct
    rcases List.mem_cons.mp member with same | later
    · cases same
      exact List.lookup_cons_self
    · have apart : key ≠ firstKey := by
        rintro rfl
        exact distinct.1 (List.mem_map_of_mem later)
      have notSame : (key == firstKey) = false := by simpa using apart
      rw [List.lookup_cons, notSame]
      exact ih distinct.2 later

/-! ## Values that are read -/

private theorem every_member_put (value : EveryObject condition new)
    (members : EveryMember condition before) :
    EveryMember condition (Assoc.put key new before) := by
  induction before with
  | nil => exact ⟨value, trivial⟩
  | cons first rest ih =>
    obtain ⟨firstKey, firstValue⟩ := first
    rw [Assoc.put]
    split
    · exact ⟨value, members.2⟩
    · exact ⟨members.1, ih members.2⟩

private theorem nodup_keys_put {before : List (String × Json)}
    (distinct : (before.map (·.1)).Nodup) :
    ((Assoc.put key new before).map (·.1)).Nodup := by
  rw [Assoc.keys_put]
  split
  · exact distinct
  · rename_i absent
    have fresh : key ∉ before.map (·.1) := by simpa using absent
    exact List.nodup_append.mpr ⟨distinct, List.nodup_singleton key, fun _ held _ new same => by
      rw [List.mem_singleton.mp new] at same
      exact fresh (same ▸ held)⟩

mutual

private theorem value_within_distinct (document : Document)
    (ran : document.valueWithin? depth = some value) : Distinct value := by
  cases document with
  | null =>
    cases ran
    trivial
  | bool held =>
    cases ran
    trivial
  | number written =>
    obtain ⟨number, -, rfl⟩ := Option.map_eq_some_iff.mp ran
    trivial
  | string units =>
    obtain ⟨text, -, rfl⟩ := Option.map_eq_some_iff.mp ran
    trivial
  | array items =>
    rw [Document.valueWithin?] at ran
    split at ran
    · cases ran
    · obtain ⟨values, read, rfl⟩ := Option.map_eq_some_iff.mp ran
      exact items_within_distinct items read
  | object members =>
    rw [Document.valueWithin?] at ran
    split at ran
    · cases ran
    · obtain ⟨values, read, rfl⟩ := Option.map_eq_some_iff.mp ran
      -- The members are put into an object that is empty at first.
      have start : (([] : List (String × Json)).map (·.1)).Nodup := List.nodup_nil
      exact members_within_distinct members start trivial read

private theorem items_within_distinct (items : List Document)
    (ran : itemsWithin? depth items = some values) : EveryItem List.Nodup values := by
  cases items with
  | nil =>
    cases ran
    trivial
  | cons item rest =>
    simp only [itemsWithin?, Option.bind_eq_bind, Option.bind_eq_some_iff, Option.pure_def,
      Option.some.injEq] at ran
    obtain ⟨first, readFirst, later, readLater, rfl⟩ := ran
    exact ⟨value_within_distinct item readFirst, items_within_distinct rest readLater⟩

private theorem members_within_distinct (members : List (List StringUnit × Document))
    (distinct : (before.map (·.1)).Nodup) (inside : EveryMember List.Nodup before)
    (ran : membersWithin? depth before members = some values) :
    (values.map (·.1)).Nodup ∧ EveryMember List.Nodup values := by
  cases members with
  | nil =>
    cases ran
    exact ⟨distinct, inside⟩
  | cons member rest =>
    obtain ⟨units, document⟩ := member
    simp only [membersWithin?, Option.bind_eq_bind, Option.bind_eq_some_iff] at ran
    obtain ⟨key, -, value, read, later⟩ := ran
    exact members_within_distinct rest (nodup_keys_put distinct)
      (every_member_put (value_within_distinct document read) inside) later

end

/-- A JSON text never yields an object with a repeated key. -/
theorem read_distinct (read : Json.read? text = some value) : Distinct value := by
  obtain ⟨document, -, valued⟩ := Option.bind_eq_some_iff.mp read
  exact value_within_distinct document valued

end Botwright.DocumentKeys
