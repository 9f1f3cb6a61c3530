/-!
Lists of keys with their values, in the order in which the keys were first given one.
-/
namespace Botwright.Assoc

variable {α β : Type} [BEq α] [LawfulBEq α]

/-- The entries after `key` was given `value`: a key that is there keeps its place, a new one stands
last. -/
def put (key : α) (value : β) : List (α × β) → List (α × β)
  | [] => [(key, value)]
  | (k, v) :: rest => if k == key then (k, value) :: rest else (k, v) :: put key value rest

theorem lookup_put (key k : α) (value : β) (entries : List (α × β)) :
    (put key value entries).lookup k = if k == key then some value else entries.lookup k := by
  induction entries with
  | nil => by_cases h : k == key <;> simp [put, List.lookup_cons, h]
  | cons first rest ih =>
    obtain ⟨l, v⟩ := first
    by_cases hl : l = key
    · subst hl
      by_cases h : k == l <;> simp [put, List.lookup_cons, h]
    · by_cases h : k = l
      · subst h
        simp [put, hl]
      · have apart : (k == l) = false := by simpa using h
        simp [put, List.lookup_cons, hl, apart, ih]

/-- Giving a value to a key that is there changes no key, and a new key comes last. -/
theorem keys_put (key : α) (value : β) (entries : List (α × β)) :
    (put key value entries).map (·.1) =
      if (entries.map (·.1)).contains key then entries.map (·.1)
      else entries.map (·.1) ++ [key] := by
  induction entries with
  | nil => rfl
  | cons first rest ih =>
    obtain ⟨l, v⟩ := first
    by_cases hl : l = key
    · subst hl
      simp [put]
    · by_cases h : (rest.map (·.1)).contains key <;> simp_all [put, Ne.symm hl]

end Botwright.Assoc
