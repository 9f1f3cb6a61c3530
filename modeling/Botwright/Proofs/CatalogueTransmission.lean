import Botwright.Catalogue.Defaults
import Botwright.Catalogue.Encode
import Botwright.Proofs.CatalogueExactness
import Botwright.Proofs.JsonReading

/-! Catalogues that are sent as JSON. A value is read back from its text with its numbers
as their texts are read, if it is not nested too deeply. A field comes back with the
sample that was read, but a null sample counts as none; paths and types come back as they
were, and with them everything that is computed from those. -/
namespace Botwright.CatalogueTransmission
open Json Catalogue JsonReading NumberReading DocumentKeys CatalogueExactness

/-! ## Values -/

mutual

/-- The greatest number of arrays and objects around anything in a value, the value
included. -/
def nesting : Json → Nat
  | .array items => itemsNesting items + 1
  | .object members => membersNesting members + 1
  | _ => 0

def itemsNesting : List Json → Nat
  | [] => 0
  | item :: rest => max (nesting item) (itemsNesting rest)

def membersNesting : List (String × Json) → Nat
  | [] => 0
  | (_, value) :: rest => max (nesting value) (membersNesting rest)

end

mutual

/-- A value with its numbers as their texts are read. -/
def reread? : Json → Option Json
  | .null => some .null
  | .bool value => some (.bool value)
  | .number n => (numeralOf n).value?.map .number
  | .string s => some (.string s)
  | .array items => (rereadItems? items).map .array
  | .object members => (rereadMembers? members).map .object

def rereadItems? : List Json → Option (List Json)
  | [] => some []
  | item :: rest => do
    let item ← reread? item
    let rest ← rereadItems? rest
    return item :: rest

def rereadMembers? : List (String × Json) → Option (List (String × Json))
  | [] => some []
  | (key, value) :: rest => do
    let value ← reread? value
    let rest ← rereadMembers? rest
    return (key, value) :: rest

end

theorem put_new {entries : List (String × Json)} (fresh : key ∉ entries.map (·.1)) :
    Assoc.put key value entries = entries ++ [(key, value)] := by
  induction entries with
  | nil => rfl
  | cons first rest ih =>
    obtain ⟨k, v⟩ := first
    rw [List.map_cons, List.mem_cons, not_or] at fresh
    have apart : (k == key) = false := by simpa using Ne.symm fresh.1
    rw [Assoc.put, apart, ih fresh.2]
    rfl

mutual

/-- A value is read from its document unless it is nested too deeply. -/
theorem value_within (v : Json) (distinct : Distinct v) (depth : Nat) :
    (documentOf v).valueWithin? depth = if nesting v ≤ depth then reread? v else none := by
  cases v with
  | null | bool | number => simp [documentOf, Document.valueWithin?, nesting, reread?]
  | string s => simp [documentOf, Document.valueWithin?, nesting, reread?, string_of_units]
  | array items =>
    rw [documentOf, Document.valueWithin?, nesting, reread?]
    cases depth with
    | zero => rfl
    | succ depth =>
      rw [if_neg (Nat.succ_ne_zero depth), Nat.add_sub_cancel, items_within items distinct depth]
      simp only [Nat.add_le_add_iff_right]
      split <;> rfl
  | object members =>
    rw [documentOf, Document.valueWithin?, nesting, reread?]
    cases depth with
    | zero => rfl
    | succ depth =>
      have read := members_within members [] distinct.2 (by simpa using distinct.1) depth
      rw [if_neg (Nat.succ_ne_zero depth), Nat.add_sub_cancel, read]
      simp only [Nat.add_le_add_iff_right, List.nil_append, Option.map_id']
      split <;> rfl

theorem items_within (items : List Json) (distinct : EveryItem List.Nodup items) (depth : Nat) :
    itemsWithin? depth (itemsOf items) =
      if itemsNesting items ≤ depth then rereadItems? items else none := by
  cases items with
  | nil => rfl
  | cons item rest =>
    rw [itemsOf, itemsWithin?, value_within item distinct.1 depth,
      items_within rest distinct.2 depth, itemsNesting, rereadItems?]
    simp only [Nat.max_le]
    by_cases first : nesting item ≤ depth <;> by_cases later : itemsNesting rest ≤ depth <;>
      simp [first, later]

theorem members_within (members before : List (String × Json))
    (distinct : EveryMember List.Nodup members)
    (keys : ((before ++ members).map (·.1)).Nodup) (depth : Nat) :
    membersWithin? depth before (membersOf members) =
      if membersNesting members ≤ depth then (rereadMembers? members).map (before ++ ·)
      else none := by
  cases members with
  | nil => simp [membersOf, membersWithin?, membersNesting, rereadMembers?]
  | cons member rest =>
    obtain ⟨key, value⟩ := member
    -- A key that is new is put behind the members that were read.
    have fresh : key ∉ before.map (·.1) := by
      rw [List.map_append] at keys
      exact fun held => List.disjoint_of_nodup_append keys held List.mem_cons_self
    have onward (read : Json) : membersWithin? depth (before ++ [(key, read)]) (membersOf rest) =
        if membersNesting rest ≤ depth then
          (rereadMembers? rest).map ((before ++ [(key, read)]) ++ ·) else none :=
      members_within rest _ distinct.2 (by simpa using keys) depth
    rw [membersOf, membersWithin?, string_of_units, value_within value distinct.1 depth,
      membersNesting, rereadMembers?]
    simp only [Nat.max_le, Option.bind_eq_bind, Option.bind_some]
    by_cases first : nesting value ≤ depth
    · rw [if_pos first]
      cases reread? value with
      | none => simp
      | some read =>
        simp only [Option.bind_some, put_new fresh, onward]
        by_cases later : membersNesting rest ≤ depth
        · cases rereadMembers? rest <;> simp [first, later]
        · simp [later]
    · simp [first]

end

/-- A value is read from its text, with any spacing, unless it is nested too deeply. -/
theorem read_spaced (spacing : Spacing) (distinct : Distinct v)
    (written : text.toList = spacing.text 0 v) :
    Json.read? text = if nesting v ≤ maxDepth then reread? v else none := by
  have read := read_document spacing v (List.forall_mem_nil _)
  rw [List.append_nil] at read
  rw [Json.read?, written, read, Option.bind_some, Document.value?, value_within v distinct]

theorem read_pretty (distinct : Distinct v) :
    Json.read? v.pretty = if nesting v ≤ maxDepth then reread? v else none :=
  read_spaced .pretty distinct (by rw [Json.pretty, String.toList_ofList, pretty_text])

theorem read_compact (distinct : Distinct v) :
    Json.read? v.compact = if nesting v ≤ maxDepth then reread? v else none :=
  read_spaced .compact distinct (by rw [Json.compact, String.toList_ofList, compact_text _ 0])

/-! ## Fields -/

/-- A sample that counts as one: null does not. -/
def present : Json → Option Json
  | .null => none
  | value => some value

/-- The field as it comes back. -/
def receivedField? (field : Field) : Option Field :=
  match field.sample with
  | none => some field
  | some sample => (reread? sample).map fun read => { field with sample := present read }

theorem field_of_members (path : String) (type : FieldType) (sample : Option Json) :
    Field.ofJson? (.object ([("path", .string path), ("type", .string type.name)] ++
      sample.toList.map fun value => ("sampleValue", value))) =
        some ⟨path, type, sample.bind present⟩ := by
  cases sample with
  | none => simp [Field.ofJson?, Json.get?, List.lookup_cons, FieldType.ofName?_name]
  | some value =>
    cases value <;>
      simp [Field.ofJson?, Json.get?, List.lookup_cons, FieldType.ofName?_name, present]

/-- The text of a field is read as the field that comes back. -/
theorem field_of_text (field : Field) :
    (reread? field.toJson).bind Field.ofJson? = receivedField? field := by
  obtain ⟨path, type, sample⟩ := field
  cases sample with
  | none => exact field_of_members path type none
  | some sample =>
    cases read : reread? sample with
    | none => simp [Field.toJson, Field.members, reread?, rereadMembers?, receivedField?, read]
    | some value =>
      have whole := field_of_members path type (some value)
      simpa [Field.toJson, Field.members, reread?, rereadMembers?, receivedField?, read] using whole

theorem fields_of_text (fields : List Field) :
    (rereadItems? (fields.map Field.toJson)).bind (·.mapM Field.ofJson?) =
      fields.mapM receivedField? := by
  induction fields with
  | nil => rfl
  | cons field rest ih =>
    rw [List.map_cons, rereadItems?, List.mapM_cons, ← field_of_text, ← ih]
    cases reread? field.toJson with
    | none => rfl
    | some first =>
      cases rereadItems? (rest.map Field.toJson) with
      | none => cases decoded : Field.ofJson? first <;> simp [decoded]
      | some more => simp

/-- The samples of a catalogue have no object with a repeated key. -/
def DistinctSamples (fields : List Field) : Prop :=
  ∀ field ∈ fields, ∀ sample ∈ field.sample, Distinct sample

theorem distinct_text (distinct : DistinctSamples fields) : Distinct (toJson fields) := by
  change EveryItem List.Nodup (fields.map Field.toJson)
  induction fields with
  | nil => trivial
  | cons field rest ih =>
    rw [DistinctSamples, List.forall_mem_cons] at distinct
    refine ⟨?_, ih distinct.2⟩
    obtain ⟨path, type, sample⟩ := field
    cases sample with
    | none =>
      have keys : ["path", "type"].Nodup := by decide
      exact ⟨keys, trivial, trivial, trivial⟩
    | some value =>
      have keys : ["path", "type", "sampleValue"].Nodup := by decide
      exact ⟨keys, trivial, trivial, distinct.1 value rfl, trivial⟩

/-- The catalogue that is read from a text. -/
def received? (text : String) : Option (List Field) := (Json.read? text).bind Catalogue.ofJson?

/-- A catalogue's text, over several lines or without any space. -/
def TextOf (fields : List Field) (text : String) : Prop :=
  text = Json.pretty (toJson fields) ∨ text = Json.compact (toJson fields)

theorem received_text (distinct : DistinctSamples fields) (written : TextOf fields text) :
    received? text =
      if nesting (toJson fields) ≤ maxDepth then fields.mapM receivedField? else none := by
  have read : Json.read? text =
      if nesting (toJson fields) ≤ maxDepth then reread? (toJson fields) else none := by
    rcases written with rfl | rfl
    · exact read_pretty (distinct_text distinct)
    · exact read_compact (distinct_text distinct)
  rw [received?, read]
  split
  · rw [← fields_of_text, toJson, reread?]
    cases rereadItems? (fields.map Field.toJson) <;> rfl
  · rfl

/-! ## Inferred catalogues -/

/-- Every field of a value's catalogue shows what a walk into the value reaches. -/
theorem reached_of_field (depth : Nat) (member : field ∈ fieldsOf depth path value) :
    ∃ position found, Reaches value position found ∧
      field.sample = some found ∧ field.type = .of found := by
  induction depth generalizing path value with
  | zero =>
    rw [fields_of_value, if_pos rfl, List.mem_singleton] at member
    exact ⟨[], value, .here, by rw [member], by rw [member]⟩
  | succ depth ih =>
    rw [fields_of_value, if_neg (Nat.succ_ne_zero depth), List.mem_cons] at member
    rcases member with rfl | later
    · exact ⟨[], value, .here, rfl, rfl⟩
    · obtain ⟨⟨step, inner⟩, held, below⟩ := List.mem_flatMap.mp later
      obtain ⟨position, found, walk, shown⟩ := ih below
      exact ⟨step :: position, found, reaches_step held walk, shown⟩

/-- The first field of a catalogue shows the whole document. -/
theorem infer_begins (depth : Nat) (document : Json) :
    ∃ rest, infer depth document = ⟨FieldPath.root, .of document, some document⟩ :: rest :=
  ⟨_, fields_of_value depth "" document⟩

/-- What a walk reaches has whatever a value hands on to what is one step inside. -/
theorem reached_inherits (held : Json → Prop)
    (step : ∀ value step inner, held value → (step, inner) ∈ stepsInto value → held inner)
    (start : held value) (walk : Reaches value position found) : held found := by
  induction position generalizing value with
  | nil => exact reaches_nil_iff.mp walk ▸ start
  | cons first rest ih =>
    obtain ⟨inner, inside, further⟩ := reaches_cons_iff.mp walk
    exact ih (step value first inner start inside) further

theorem samples_distinct (distinct : Distinct document) (depth : Nat) :
    DistinctSamples (infer depth document) := by
  intro field member sample shown
  obtain ⟨position, found, walk, same, -⟩ := reached_of_field depth member
  cases same.symm.trans shown
  exact reached_inherits Distinct
    (fun _ _ _ distinct inside => every_object_step distinct inside) distinct walk

theorem items_nesting_le_iff {items : List Json} :
    itemsNesting items ≤ bound ↔ ∀ item ∈ items, nesting item ≤ bound := by
  induction items with
  | nil => simp [itemsNesting]
  | cons item rest ih => rw [itemsNesting, Nat.max_le, ih, List.forall_mem_cons]

theorem members_nesting_le_iff {members : List (String × Json)} :
    membersNesting members ≤ bound ↔ ∀ member ∈ members, nesting member.2 ≤ bound := by
  induction members with
  | nil => simp [membersNesting]
  | cons member rest ih => rw [membersNesting, Nat.max_le, ih, List.forall_mem_cons]

theorem nesting_step {inner value : Json} (held : (step, inner) ∈ stepsInto value) :
    nesting inner ≤ nesting value := by
  cases steps_to_of_mem held with
  | first => exact Nat.le_succ_of_le (Nat.le_max_left _ _)
  | member listed =>
    exact Nat.le_succ_of_le (members_nesting_le_iff.mp (Nat.le_refl _) _ listed)

theorem nesting_walk (walk : Reaches value position found) : nesting found ≤ nesting value :=
  reached_inherits (fun inner => nesting inner ≤ nesting value)
    (fun _ _ _ below inside => Nat.le_trans (nesting_step inside) below) (Nat.le_refl _) walk

theorem field_nesting (field : Field) :
    nesting field.toJson = (field.sample.map nesting).getD 0 + 1 := by
  obtain ⟨path, type, sample⟩ := field
  cases sample <;> simp [Field.toJson, Field.members, nesting, membersNesting]

/-- A catalogue's text has two levels around the document. -/
theorem infer_nesting (depth : Nat) (document : Json) :
    nesting (toJson (infer depth document)) = nesting document + 2 := by
  have each : ∀ item ∈ (infer depth document).map Field.toJson,
      nesting item ≤ nesting document + 1 := by
    intro item listed
    obtain ⟨field, member, rfl⟩ := List.mem_map.mp listed
    obtain ⟨position, found, walk, sample, -⟩ := reached_of_field depth member
    rw [field_nesting, sample]
    exact Nat.succ_le_succ (nesting_walk walk)
  have most := items_nesting_le_iff.mpr each
  obtain ⟨rest, begins⟩ := infer_begins depth document
  rw [toJson, nesting]
  rw [begins, List.map_cons, itemsNesting, field_nesting, Option.map_some, Option.getD_some]
    at most ⊢
  omega

mutual

/-- The numbers in a value, in order. -/
def numbers : Json → List Number
  | .number n => [n]
  | .array items => itemsNumbers items
  | .object members => membersNumbers members
  | _ => []

def itemsNumbers : List Json → List Number
  | [] => []
  | item :: rest => numbers item ++ itemsNumbers rest

def membersNumbers : List (String × Json) → List Number
  | [] => []
  | (_, value) :: rest => numbers value ++ membersNumbers rest

end

/-- The text of a number is read as the number. -/
def Exact (n : Number) : Prop := (numeralOf n).value? = some n

instance (n : Number) : Decidable (Exact n) :=
  inferInstanceAs (Decidable ((numeralOf n).value? = some n))

/-- Only numbers that are not integers can come back as others. -/
theorem integer_exact (value : Int) (inRange) : Exact (.integer value inRange) := by
  have digits : Text.digitsValue 0 (Text.decimal value.natAbs) = value.natAbs :=
    Nat.ofDigitChars_ten_toDigits
  have magnitude : (if value < 0 then -(value.natAbs : Int) else value.natAbs) = value := by
    split <;> omega
  have signed : ¬(value < 0 ∧ value = 0) := by omega
  rw [Exact, numeral_of_integer]
  simp only [Numeral.value?, integerNumeral, digits, decide_eq_true_eq, magnitude]
  rw [dif_pos inRange]
  simp [signed]

theorem exact_iff_reals {list : List Number} :
    (∀ n ∈ list, Exact n) ↔ ∀ x, .real x ∈ list → Exact (.real x) := by
  refine ⟨fun exact x held => exact _ held, fun reals n held => ?_⟩
  cases n with
  | integer value inRange => exact integer_exact value inRange
  | real x => exact reals x held

theorem cons_some_iff {f : α → β} (own : Function.Injective f) {first : Option α}
    {rest : Option (List β)} :
    (do
      let x ← first
      let more ← rest
      return f x :: more) = some (f y :: others) ↔ first = some y ∧ rest = some others := by
  cases first <;> cases rest <;> simp [own.eq_iff]

mutual

/-- A value is read as it was just if its numbers are. -/
theorem reread_self_iff (v : Json) : reread? v = some v ↔ ∀ n ∈ numbers v, Exact n := by
  cases v with
  | null | bool | string => simp [reread?, numbers]
  | number n => simp [reread?, numbers, Exact]
  | array items => simp [reread?, numbers, ← reread_items_self_iff items]
  | object members => simp [reread?, numbers, ← reread_members_self_iff members]

theorem reread_items_self_iff (items : List Json) :
    rereadItems? items = some items ↔ ∀ n ∈ itemsNumbers items, Exact n := by
  cases items with
  | nil => simp [rereadItems?, itemsNumbers]
  | cons item rest =>
    rw [itemsNumbers, List.forall_mem_append, ← reread_self_iff item,
      ← reread_items_self_iff rest]
    exact cons_some_iff Function.injective_id

theorem reread_members_self_iff (members : List (String × Json)) :
    rereadMembers? members = some members ↔ ∀ n ∈ membersNumbers members, Exact n := by
  cases members with
  | nil => simp [rereadMembers?, membersNumbers]
  | cons member rest =>
    obtain ⟨key, value⟩ := member
    rw [membersNumbers, List.forall_mem_append, ← reread_self_iff value,
      ← reread_members_self_iff rest]
    exact cons_some_iff fun _ _ same => (Prod.mk.inj same).2

end

theorem mem_members_numbers {members : List (String × Json)} (member : (key, value) ∈ members)
    (held : n ∈ numbers value) : n ∈ membersNumbers members := by
  induction members with
  | nil => cases member
  | cons first rest ih =>
    rcases List.mem_cons.mp member with rfl | later
    · exact List.mem_append_left _ held
    · exact List.mem_append_right _ (ih later)

theorem numbers_step {inner value : Json} (inside : (step, inner) ∈ stepsInto value)
    (held : n ∈ numbers inner) : n ∈ numbers value := by
  cases steps_to_of_mem inside with
  | first => exact List.mem_append_left _ held
  | member listed => exact mem_members_numbers listed held

theorem present_iff {read : Json} : present read = some value ↔ read = value ∧ value ≠ .null := by
  constructor
  · intro shown
    cases read with
    | null => cases shown
    | bool | number | string | array | object =>
      cases shown
      exact ⟨rfl, nofun⟩
  · rintro ⟨rfl, given⟩
    cases read with
    | null => exact absurd rfl given
    | bool | number | string | array | object => rfl

/-- A field of a catalogue comes back as it was just if its sample is read exactly and is
not null. -/
theorem received_field_iff (sample : field.sample = some value) :
    receivedField? field = some field ↔ reread? value = some value ∧ value ≠ .null := by
  obtain ⟨path, type, _⟩ := field
  cases sample
  simp only [receivedField?, Option.map_eq_some_iff, Field.mk.injEq, true_and, present_iff]
  constructor
  · rintro ⟨_, read, rfl, given⟩
    exact ⟨read, given⟩
  · rintro ⟨read, given⟩
    exact ⟨value, read, rfl, given⟩

theorem map_self_iff {f : α → Option α} {entries : List α} :
    entries.mapM f = some entries ↔ ∀ entry ∈ entries, f entry = some entry := by
  induction entries with
  | nil => simp
  | cons entry rest ih =>
    rw [List.forall_mem_cons, ← ih, List.mapM_cons]
    exact cons_some_iff Function.injective_id

theorem type_null_iff : FieldType.of value = .null ↔ value = .null := by
  cases value <;> simp [FieldType.of]

/-- The fields of a document all come back as they were just if its numbers are read
exactly and no field is a null. -/
theorem received_fields_iff (depth : Nat) (document : Json) :
    (infer depth document).mapM receivedField? = some (infer depth document) ↔
      (∀ n ∈ numbers document, Exact n) ∧ ∀ field ∈ infer depth document, field.type ≠ .null := by
  rw [map_self_iff]
  constructor
  · intro same
    refine ⟨?_, fun field member null => ?_⟩
    · obtain ⟨rest, begins⟩ := infer_begins depth document
      have first := same ⟨FieldPath.root, .of document, some document⟩
        (by rw [begins]; exact List.mem_cons_self)
      exact (reread_self_iff document).mp ((received_field_iff rfl).mp first).1
    · obtain ⟨position, found, -, sample, type⟩ := reached_of_field depth member
      exact ((received_field_iff sample).mp (same field member)).2
        (type_null_iff.mp (type.symm.trans null))
  · rintro ⟨exact, noNull⟩ field member
    obtain ⟨position, found, walk, sample, type⟩ := reached_of_field depth member
    have inner : ∀ n ∈ numbers found, Exact n :=
      reached_inherits (fun value => ∀ n ∈ numbers value, Exact n)
        (fun _ _ _ exact inside n held => exact n (numbers_step inside held)) exact walk
    refine (received_field_iff sample).mpr
      ⟨(reread_self_iff found).mpr inner, fun null => noNull field member ?_⟩
    rw [type, null]
    rfl

/-! ## What is computed from a catalogue -/

/-- A field without its sample. -/
def bare (field : Field) : Field := { field with sample := none }

theorem bare_received (received : receivedField? field = some other) : bare other = bare field := by
  obtain ⟨path, type, sample⟩ := field
  cases sample with
  | none =>
    cases received
    rfl
  | some sample =>
    obtain ⟨read, -, rfl⟩ := Option.map_eq_some_iff.mp received
    rfl

theorem bare_fields {fields others : List Field}
    (received : fields.mapM receivedField? = some others) :
    others.map bare = fields.map bare := by
  induction fields generalizing others with
  | nil =>
    cases received
    rfl
  | cons field rest ih =>
    simp only [List.mapM_cons, Option.bind_eq_bind, Option.bind_eq_some_iff, Option.pure_def,
      Option.some.injEq] at received
    obtain ⟨first, head, more, tail, rfl⟩ := received
    rw [List.map_cons, List.map_cons, bare_received head, ih tail]

theorem default_mappings_bare (fields : List Field) (locale : Locale) :
    defaultMappings (fields.map bare) locale = defaultMappings fields locale := by
  have label (field : Field) : defaultLabel (bare field) locale = defaultLabel field locale := by
    have path : (bare field).path = field.path := rfl
    unfold defaultLabel
    rw [path]
  have format (field : Field) : defaultFormat (bare field) locale = defaultFormat field locale := by
    simp only [defaultFormat, bare]
  simp only [defaultMappings, List.filter_map, List.map_map, Function.comp_def, label, format]
  simp only [bare]

theorem selectable_bare (fields : List Field) :
    selectable (fields.map bare) = (selectable fields).map bare := by
  simp only [selectable, List.filter_map]
  rfl

mutual

/-- A node without the samples in it. -/
def bareNode : FieldNode → FieldNode
  | .node field none => .node (bare field) none
  | .node field (some children) => .node (bare field) (some (bareForest children))

def bareForest : List FieldNode → List FieldNode
  | [] => []
  | node :: rest => bareNode node :: bareForest rest

end

theorem bare_forest_eq (nodes : List FieldNode) : bareForest nodes = nodes.map bareNode := by
  induction nodes with
  | nil => rfl
  | cons node rest ih => rw [bareForest, ih, List.map_cons]

theorem parent_index_bare (fields : List Field) (place : Nat) (field : Field) :
    parentIndex? (fields.map bare) place (bare field) = parentIndex? fields place field := by
  simp only [parentIndex?, List.findIdx?_map, List.getElem?_map, Option.any_map]
  rfl

/-- An entry without its sample. -/
def bareEntry : Nat × Field × Option Nat → Nat × Field × Option Nat
  | (place, field, parent) => (place, bare field, parent)

theorem placed_bare (fields : List Field) :
    placed (fields.map bare) = (placed fields).map bareEntry := by
  simp only [placed, List.zipIdx_map, List.map_map]
  refine List.map_congr_left fun entry _ => ?_
  simp [bareEntry, parent_index_bare]

theorem forest_bare (entries : List (Nat × Field × Option Nat)) (parent : Option Nat)
    (levels : Nat) :
    forest (entries.map bareEntry) parent levels = bareForest (forest entries parent levels) := by
  induction levels generalizing parent with
  | zero => rfl
  | succ levels ih =>
    rw [forest, forest, bare_forest_eq, List.filter_map, List.map_map, List.map_map]
    refine List.map_congr_left fun entry _ => ?_
    obtain ⟨place, field, above⟩ := entry
    simp only [Function.comp_def, bareEntry, ih]
    cases container : field.type.isContainer <;> simp [bare, container, bareNode]

/-- The tree of a catalogue has its shape from paths and types. -/
theorem hierarchy_bare (fields : List Field) :
    hierarchy (fields.map bare) = bareForest (hierarchy fields) := by
  rw [hierarchy, hierarchy, placed_bare, forest_bare, List.map_map]
  rfl

/-! ## Transmission -/

/-- What comes back of an inferred catalogue, from its text with or without spaces. Beyond
125 levels it is refused; else each field comes back with the sample that is read, where a
null is none. It is the same catalogue just if the numbers that are not integers are read
exactly and no field is a null; but paths and types are the same in any case, so the fields
to choose from, the default mappings and the shape of the tree are. -/
theorem transmitted_catalogue (distinct : Distinct document)
    (written : TextOf (infer depth document) text) :
    (received? text =
      if nesting document ≤ 125 then (infer depth document).mapM receivedField? else none) ∧
    (received? text = some (infer depth document) ↔
      nesting document ≤ 125 ∧ (∀ x, .real x ∈ numbers document → Exact (.real x)) ∧
        ∀ field ∈ infer depth document, field.type ≠ .null) ∧
    ∀ others, received? text = some others →
      others.map bare = (infer depth document).map bare ∧
      (selectable others).map bare = (selectable (infer depth document)).map bare ∧
      (∀ locale, defaultMappings others locale =
        defaultMappings (infer depth document) locale) ∧
      bareForest (hierarchy others) = bareForest (hierarchy (infer depth document)) := by
  have received := received_text (samples_distinct distinct depth) written
  have limit : nesting document + 2 ≤ maxDepth ↔ nesting document ≤ 125 := by
    unfold maxDepth
    omega
  simp only [infer_nesting, limit] at received
  refine ⟨received, ?_, fun others same => ?_⟩
  · rw [received, ← exact_iff_reals, ← received_fields_iff]
    split <;> simp [*]
  · have read : (infer depth document).mapM receivedField? = some others := by
      rw [received] at same
      split at same
      · exact same
      · cases same
    -- Only samples are lost on the way; all the rest looks at paths and types.
    have agree := bare_fields read
    refine ⟨agree, ?_, fun locale => ?_, ?_⟩
    · rw [← selectable_bare, agree, selectable_bare]
    · rw [← default_mappings_bare others, agree, default_mappings_bare]
    · rw [← hierarchy_bare, agree, hierarchy_bare]

/-- A document with a null where no field shows it, and a number that is no integer. -/
def steadySample : Json :=
  .object [("temp", .number (.real ⟨false, 0x4035800000000000, by decide⟩)),
    ("tags", .array [.string "a", .null]), ("n", .number (.integer (-3) (by decide)))]

theorem steady_sample_transmitted :
    Distinct steadySample ∧
      TextOf (infer defaultDepth steadySample)
        (Json.pretty (toJson (infer defaultDepth steadySample))) ∧
      received? (Json.pretty (toJson (infer defaultDepth steadySample))) =
        some (infer defaultDepth steadySample) := by
  have keys : ["temp", "tags", "n"].Nodup := by decide
  have distinct : Distinct steadySample :=
    ⟨keys, trivial, ⟨trivial, trivial, trivial⟩, trivial, trivial⟩
  have exact : ∀ n ∈ numbers steadySample, Exact n := by decide +kernel
  have fields : (infer defaultDepth steadySample).map (·.type) =
      [.object, .number, .array, .string, .number] := rfl
  have written : TextOf (infer defaultDepth steadySample) _ := .inl rfl
  refine ⟨distinct, written, (transmitted_catalogue distinct written).2.1.mpr
    ⟨by decide, exact_iff_reals.mp exact, fun field member null => ?_⟩⟩
  have listed := List.mem_map_of_mem (f := fun field => field.type) member
  rw [fields, null] at listed
  revert listed
  decide

/-- The field of a null loses its sample. -/
theorem null_sample_lost :
    infer defaultDepth .null = [⟨"root", .null, some .null⟩] ∧
      received? (Json.pretty (toJson (infer defaultDepth .null))) =
        some [⟨"root", .null, none⟩] := by
  have distinct : Distinct .null := trivial
  have fields : infer defaultDepth .null = [⟨"root", .null, some .null⟩] := rfl
  have shallow : nesting (toJson (infer defaultDepth .null)) ≤ maxDepth := by
    rw [infer_nesting]
    decide
  refine ⟨fields, ?_⟩
  rw [received_text (samples_distinct distinct defaultDepth) (.inl rfl), if_pos shallow, fields,
    List.mapM_cons, List.mapM_nil]
  rfl

end Botwright.CatalogueTransmission
