import Botwright.Catalogue.Infer
import Botwright.Proofs.CanonicalPath
import Botwright.Proofs.DocumentKeys

/-! A catalogue holds exactly the positions that can be walked to. The walks
are defined on documents, without paths; the inferred fields are then shown to
be those positions in preorder, each under a path of its own that leads the
path reader back to the recorded value. -/
namespace Botwright.CatalogueExactness
open FieldPath Catalogue CanonicalPath DocumentKeys

/-- A walk into a document: through members of objects by their keys, and
through the first items of arrays. -/
inductive Reaches : Json → List Segment → Json → Prop where
  | here : Reaches value [] value
  | member (held : (key, content) ∈ members) (further : Reaches content position value) :
      Reaches (.object members) (.key key :: position) value
  | first (further : Reaches item position value) :
      Reaches (.array (item :: rest)) (.index 0 :: position) value

/-- The values one step further in, in the order of the document. -/
def stepsInto : Json → List (Segment × Json)
  | .array (item :: _) => [(.index 0, item)]
  | .object members => members.map fun (key, value) => (.key key, value)
  | _ => []

/-- One step further into a value, to its first item or to a member. -/
inductive StepsTo : Json → Segment → Json → Prop where
  | first : StepsTo (.array (item :: rest)) (.index 0) item
  | member (listed : (key, content) ∈ members) : StepsTo (.object members) (.key key) content

/-- The positions within a number of steps, with their values, in preorder. -/
def positions : Nat → Json → List (List Segment × Json)
  | 0, value => [([], value)]
  | depth + 1, value =>
    ([], value) :: (stepsInto value).flatMap fun (step, inner) =>
      (positions depth inner).map fun (position, found) => (step :: position, found)

/-- The field of a position. -/
def fieldAt (position : List Segment) (value : Json) : Field :=
  ⟨pathOf position, .of value, some value⟩

/-- Every key of a document can stand in a path. -/
def Plain (document : Json) : Prop := EveryKey PlainKey document

/-- No key of the document itself is `root`; deeper ones may be. -/
def NoRootKey : Json → Prop
  | .object members => root ∉ members.map (·.1)
  | _ => True

/-! ## Positions and walks -/

theorem steps_to_of_mem (held : (step, content) ∈ stepsInto value) :
    StepsTo value step content := by
  cases value with
  | array items =>
    cases items with
    | nil => cases held
    | cons item rest =>
      rw [stepsInto, List.mem_singleton] at held
      cases held
      exact .first
  | object members =>
    obtain ⟨⟨key, value⟩, listed, same⟩ := List.mem_map.mp held
    cases same
    exact .member listed
  | null | bool | number | string => cases held

theorem reaches_step (held : (step, content) ∈ stepsInto value)
    (further : Reaches content position found) :
    Reaches value (step :: position) found := by
  cases steps_to_of_mem held with
  | first => exact .first further
  | member listed => exact .member listed further

theorem reaches_cons_iff :
    Reaches value (step :: position) found ↔
      ∃ inner, (step, inner) ∈ stepsInto value ∧ Reaches inner position found := by
  constructor
  · intro walk
    cases walk with
    | member held further => exact ⟨_, List.mem_map.mpr ⟨_, held, rfl⟩, further⟩
    | first further => exact ⟨_, List.mem_singleton.mpr rfl, further⟩
  · rintro ⟨inner, held, further⟩
    exact reaches_step held further

theorem reaches_nil_iff : Reaches value [] found ↔ found = value := by
  constructor
  · intro walk
    cases walk
    rfl
  · rintro rfl
    exact .here

/-- The enumerated positions are exactly the ends of walks that are short
enough. -/
theorem mem_positions_iff :
    (position, found) ∈ positions depth value ↔
      position.length ≤ depth ∧ Reaches value position found := by
  induction depth generalizing position value with
  | zero =>
    cases position with
    | nil => simp [positions, reaches_nil_iff]
    | cons step rest => simp [positions]
  | succ depth ih =>
    cases position with
    | nil => simp [positions, reaches_nil_iff]
    | cons step rest =>
      simp only [positions, List.mem_cons, Prod.mk.injEq, reduceCtorEq, false_and, false_or,
        List.mem_flatMap, List.mem_map, Prod.exists, List.length_cons, Nat.add_le_add_iff_right,
        reaches_cons_iff]
      constructor
      · rintro ⟨s, inner, held, p, v, member, same, rfl⟩
        cases same
        obtain ⟨short, walk⟩ := ih.mp member
        exact ⟨short, inner, held, walk⟩
      · rintro ⟨short, inner, held, walk⟩
        exact ⟨step, inner, held, rest, found, ih.mpr ⟨short, walk⟩, rfl, rfl⟩

theorem every_object_step (every : EveryObject condition value)
    (held : (step, content) ∈ stepsInto value) : EveryObject condition content := by
  cases steps_to_of_mem held with
  | first => exact every.1
  | member listed => exact every_member_iff.mp every.2 _ listed

/-- The steps into one value are distinct, because its keys are. -/
theorem steps_into_distinct (distinct : Distinct value) : ((stepsInto value).map (·.1)).Nodup := by
  cases value with
  | array items =>
    cases items with
    | nil => exact List.nodup_nil
    | cons item rest => exact List.nodup_singleton _
  | object members =>
    have keys : ((members.map (·.1)).map Segment.key).Nodup :=
      distinct.1.map fun _ _ same => Segment.key.inj same
    simpa [stepsInto, Function.comp_def] using keys
  | null | bool | number | string => exact List.nodup_nil

/-- No position is enumerated twice. -/
theorem positions_distinct (distinct : Distinct value) :
    ((positions depth value).map (·.1)).Nodup := by
  induction depth generalizing value with
  | zero => exact List.nodup_singleton _
  | succ depth ih =>
    simp only [positions, List.map_cons, List.map_flatMap, List.map_map, Function.comp_def,
      List.nodup_cons, List.nodup_flatMap]
    refine ⟨by simp, fun entry held => ?_, ?_⟩
    · have inner := ih (every_object_step distinct held)
      have prefixed := inner.map (f := List.cons entry.1) List.cons_injective
      simpa [Function.comp_def] using prefixed
    · refine (List.pairwise_map.mp (steps_into_distinct distinct)).imp ?_
      intro first second apart position inFirst inSecond
      obtain ⟨_, _, rfl⟩ := List.mem_map.mp inFirst
      obtain ⟨_, _, same⟩ := List.mem_map.mp inSecond
      exact apart (List.cons.inj same).1.symm

/-! ## The inferred fields -/

/-- The path of a step from a place whose path is empty only for the
document. -/
def stepPath (path : String) : Segment → String
  | .key name => memberPath path name
  | .index _ => itemPath path

private theorem member_fields_eq (depth : Nat) (path : String) (members : List (String × Json)) :
    memberFields depth path members =
      members.flatMap fun (key, value) => fieldsOf depth (memberPath path key) value := by
  induction members with
  | nil => simp [memberFields]
  | cons first rest ih => rw [memberFields, ih, List.flatMap_cons]

/-- One level of inference: the field of the value, then those of every step
into it. -/
theorem fields_of_value (depth : Nat) (path : String) (value : Json) :
    fieldsOf depth path value =
      ⟨recorded path, .of value, some value⟩ ::
        if depth = 0 then []
        else (stepsInto value).flatMap fun (step, inner) =>
          fieldsOf (depth - 1) (stepPath path step) inner := by
  cases value with
  | array items =>
    cases items with
    | nil => simp [fieldsOf, stepsInto]
    | cons item rest => simp [fieldsOf, stepsInto, stepPath, FieldType.of]
  | object members =>
    simp [fieldsOf, stepsInto, stepPath, FieldType.of, member_fields_eq, List.flatMap_map]
  | null | bool | number | string => simp [fieldsOf, stepsInto]

/-- The text of a place on the way: empty for the document, unlike its
recorded path. -/
def textOf (position : List Segment) : String := String.ofList (written position)

private theorem text_of_eq_empty_iff (readable : ∀ step ∈ position, Readable step) :
    textOf position = "" ↔ position = [] := by
  constructor
  · intro blank
    by_contra nonempty
    have text := congrArg String.toList blank
    rw [textOf, String.toList_ofList] at text
    exact written_ne_nil readable nonempty text
  · rintro rfl
    rfl

theorem recorded_text_of (readable : ∀ step ∈ position, Readable step) :
    recorded (textOf position) = pathOf position := by
  by_cases empty : position = []
  · subst empty
    rfl
  · have text : textOf position ≠ "" :=
      fun blank => empty ((text_of_eq_empty_iff readable).mp blank)
    rw [recorded, if_neg text, pathOf, if_neg empty, textOf]

/-- The steps that walks take: by keys that meet a condition, or to a first
item. -/
inductive Taken (condition : String → Prop) : Segment → Prop where
  | key (meets : condition name) : Taken condition (.key name)
  | first : Taken condition (.index 0)

theorem taken_step (every : EveryKey condition value) (held : (step, content) ∈ stepsInto value) :
    Taken condition step := by
  cases steps_to_of_mem held with
  | first => exact .first
  | member listed => exact .key (every.1 _ (List.mem_map_of_mem listed))

theorem taken_walk (every : EveryKey condition value) (walk : Reaches value position found) :
    ∀ step ∈ position, Taken condition step := by
  induction position generalizing value with
  | nil => simp
  | cons first rest ih =>
    obtain ⟨inner, held, further⟩ := reaches_cons_iff.mp walk
    intro step member
    rcases List.mem_cons.mp member with rfl | later
    · exact taken_step every held
    · exact ih (every_object_step every held) further step later

private theorem readable_of_taken (taken : Taken PlainKey step) : Readable step := by
  cases taken with
  | key plain => exact plain
  | first => exact Nat.zero_lt_succ _

theorem readable_walk (plain : Plain value) (walk : Reaches value position found) :
    ∀ step ∈ position, Readable step :=
  fun step member => readable_of_taken (taken_walk plain walk step member)

/-- The traversal extends the text of a place as canonical paths are
written. -/
theorem step_path_text_of (readable : ∀ step ∈ position, Readable step)
    (taken : Taken PlainKey step) :
    stepPath (textOf position) step = textOf (position ++ [step]) := by
  by_cases empty : position = []
  · subst empty
    cases taken with
    | key plain => simp [stepPath, memberPath, textOf, written]
    | first => decide
  · have front : written position ≠ [] := written_ne_nil readable empty
    rw [textOf, textOf, written_snoc empty]
    apply String.toList_inj.mp
    cases taken with
    | key plain => simp [stepPath, memberPath, suffix, front]
    | first =>
      have zero : Text.decimal 0 = ['0'] := by decide
      simp [stepPath, itemPath, suffix, zero]

/-- From any place on, inference records the positions in preorder. -/
theorem fields_of_positions (plain : Plain value) (readable : ∀ step ∈ before, Readable step) :
    fieldsOf depth (textOf before) value =
      (positions depth value).map fun (position, found) => fieldAt (before ++ position) found := by
  induction depth generalizing before value with
  | zero => simp [fields_of_value 0, positions, fieldAt, recorded_text_of readable]
  | succ depth ih =>
    rw [fields_of_value, if_neg (Nat.succ_ne_zero depth), Nat.add_sub_cancel,
      recorded_text_of readable]
    simp only [positions, List.map_cons, List.append_nil, List.map_flatMap, List.map_map,
      Function.comp_def]
    refine congrArg₂ List.cons rfl (List.flatMap_congr fun entry held => ?_)
    obtain ⟨step, inner⟩ := entry
    have longer : ∀ later ∈ before ++ [step], Readable later := by
      intro later member
      rcases List.mem_append.mp member with old | new
      · exact readable later old
      · rw [List.mem_singleton.mp new]
        exact readable_of_taken (taken_step plain held)
    rw [step_path_text_of readable (taken_step plain held),
      ih (every_object_step plain held) longer]
    simp

/-! ## Paths lead back to their values -/

/-- The steps of a walk, taken by the resolver, end where the walk ends. -/
theorem resolve_walk (distinct : Distinct document) (walk : Reaches document position found) :
    position.foldlM step? document = some found := by
  induction walk with
  | here => rfl
  | member held further ih =>
    rw [List.foldlM_cons, step?, lookup_member distinct.1 held]
    exact ih (every_member_iff.mp distinct.2 _ held)
  | first further ih =>
    rw [List.foldlM_cons]
    exact ih distinct.1

private theorem not_root_walk (noRoot : NoRootKey document)
    (walk : Reaches document position found) : position ≠ [.key root] := by
  rintro rfl
  cases walk with
  | member held further => exact noRoot (List.mem_map_of_mem held)

/-- A walk's path is read back as its steps. -/
theorem segments_of_walk (plain : Plain document) (noRoot : NoRootKey document)
    (walk : Reaches document position found) : segments (pathOf position) = position :=
  segments_path_of (readable_walk plain walk) (not_root_walk noRoot walk)

/-- The path of a position resolves to the value there. -/
theorem value_of_walk (distinct : Distinct document) (plain : Plain document)
    (noRoot : NoRootKey document) (walk : Reaches document position found) :
    value? document (pathOf position) = some found := by
  rw [value?, segments_of_walk plain noRoot walk]
  exact resolve_walk distinct walk

/-- A catalogue is its positions in preorder. -/
theorem infer_positions (plain : Plain document) :
    infer depth document =
      (positions depth document).map fun (position, value) => fieldAt position value := by
  have noSteps : ∀ step ∈ ([] : List Segment), Readable step := by simp
  exact fields_of_positions plain noSteps

/-- No two fields of a catalogue share a path. -/
theorem infer_paths_distinct (distinct : Distinct document) (plain : Plain document)
    (noRoot : NoRootKey document) : ((infer depth document).map (·.path)).Nodup := by
  have paths : (infer depth document).map (·.path) =
      ((positions depth document).map (·.1)).map pathOf := by
    rw [infer_positions plain]
    simp [Function.comp_def, fieldAt]
  rw [paths]
  apply List.Nodup.map_on _ (positions_distinct distinct)
  intro first inFirst second inSecond same
  obtain ⟨⟨_, firstValue⟩, firstMember, rfl⟩ := List.mem_map.mp inFirst
  obtain ⟨⟨_, secondValue⟩, secondMember, rfl⟩ := List.mem_map.mp inSecond
  have firstSteps := segments_of_walk plain noRoot (mem_positions_iff.mp firstMember).2
  have secondSteps := segments_of_walk plain noRoot (mem_positions_iff.mp secondMember).2
  rw [← firstSteps, ← secondSteps, same]

/-- The catalogue of a document whose keys can stand in paths lists precisely
the positions within `depth` steps, each once and under a path of its own, and
every path resolves to the value that its field records. -/
theorem infer_lists_every_position_once (document : Json) (depth : Nat)
    (distinct : Distinct document) (plain : Plain document) (noRoot : NoRootKey document) :
    (∃ listed : List (List Segment × Json),
      infer depth document = listed.map (fun (position, value) => fieldAt position value) ∧
      (listed.map (·.1)).Nodup ∧
      ∀ position value, (position, value) ∈ listed ↔
        position.length ≤ depth ∧ Reaches document position value) ∧
    ((infer depth document).map (·.path)).Nodup ∧
    ∀ field ∈ infer depth document, ∃ value, field.sample = some value ∧
      field.type = .of value ∧ value? document field.path = some value := by
  refine ⟨⟨positions depth document, infer_positions plain, positions_distinct distinct,
    fun position value => mem_positions_iff⟩, infer_paths_distinct distinct plain noRoot, ?_⟩
  intro field member
  rw [infer_positions plain] at member
  obtain ⟨⟨position, value⟩, listed, rfl⟩ := List.mem_map.mp member
  exact ⟨value, rfl, rfl, value_of_walk distinct plain noRoot (mem_positions_iff.mp listed).2⟩

/-- Closing brackets and digits in keys, a `root` below the top, and an array
in an array. -/
def crookedSample : Json :=
  .object [("a]", .array [.array [.object [("0", .null), ("root", .bool true)]]]),
    ("7", .string "")]

theorem infer_lists_crooked_sample :
    (Distinct crookedSample ∧ Plain crookedSample ∧ NoRootKey crookedSample) ∧
      ((infer 3 crookedSample).map (·.path)).Nodup ∧
      ∀ field ∈ infer 3 crookedSample, ∃ value, field.sample = some value ∧
        field.type = .of value ∧ value? crookedSample field.path = some value := by
  have distinct : Distinct crookedSample := by
    simp [Distinct, crookedSample, EveryObject, EveryMember, EveryItem]
  have plain : Plain crookedSample := by
    simp only [Plain, EveryKey, crookedSample, EveryObject, EveryMember, EveryItem]
    decide
  have noRoot : NoRootKey crookedSample := by
    simp only [NoRootKey, crookedSample]
    decide
  exact ⟨⟨distinct, plain, noRoot⟩,
    (infer_lists_every_position_once crookedSample 3 distinct plain noRoot).2⟩

end Botwright.CatalogueExactness
