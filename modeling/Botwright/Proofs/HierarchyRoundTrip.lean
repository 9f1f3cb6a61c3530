import Botwright.Proofs.CatalogueExactness
import Botwright.Proofs.HierarchyPlacement

/-! The tree of an inferred catalogue loses nothing, not even the order: its
preorder is the catalogue. In positions, the entries that lie in another are
those one step further in, so each subtree is a contiguous block. -/
namespace Botwright.HierarchyRoundTrip
open FieldPath Catalogue CanonicalPath DocumentKeys CatalogueExactness HierarchyPlacement

/-- Every key of a document can be cut off from the end of a path. -/
def BareKeys (document : Json) : Prop := EveryKey BareKey document

/-- One path continues another by a single step. -/
def OneStepLonger (longer shorter : String) : Prop :=
  segments longer ≠ [] ∧ (segments longer).dropLast = segments shorter

instance (longer shorter : String) : Decidable (OneStepLonger longer shorter) :=
  inferInstanceAs (Decidable (_ ∧ _))

/-- A node stands somewhere in a forest. -/
inductive InForest : FieldNode → List FieldNode → Prop where
  | here (member : node ∈ nodes) : InForest node nodes
  | under (member : FieldNode.node field (some children) ∈ nodes) (inner : InForest node children) :
      InForest node nodes

/-- A position one step further in than another. -/
def ChildOf (position child : List Segment) : Prop := child ≠ [] ∧ child.dropLast = position

instance (position child : List Segment) : Decidable (ChildOf position child) :=
  inferInstanceAs (Decidable (_ ∧ _))

theorem child_of_iff : ChildOf position child ↔ ∃ step, child = position ++ [step] := by
  constructor
  · rintro ⟨nonempty, rfl⟩
    exact ⟨_, (List.dropLast_append_getLast nonempty).symm⟩
  · rintro ⟨step, rfl⟩
    exact ⟨by simp, by simp⟩

theorem child_of_cons_iff :
    ChildOf (first :: position) (step :: child) ↔ step = first ∧ ChildOf position child := by
  cases child with
  | nil => simp [ChildOf]
  | cons next rest => simp [ChildOf, List.dropLast_cons_of_ne_nil]

/-! ## Walks by their last step -/

theorem reaches_snoc_iff :
    Reaches value (position ++ [step]) found ↔
      ∃ inner, Reaches value position inner ∧ (step, found) ∈ stepsInto inner := by
  induction position generalizing value with
  | nil => simp [reaches_cons_iff, reaches_nil_iff]
  | cons first rest ih =>
    simp only [List.cons_append, reaches_cons_iff, ih]
    constructor
    · rintro ⟨next, held, inner, walk, last⟩
      exact ⟨inner, ⟨next, held, walk⟩, last⟩
    · rintro ⟨inner, ⟨next, held, walk⟩, last⟩
      exact ⟨next, held, inner, walk, last⟩

theorem reaches_unique (distinct : Distinct value) (walk : Reaches value position found)
    (other : Reaches value position again) : again = found := by
  have first := resolve_walk distinct walk
  rw [resolve_walk distinct other] at first
  exact Option.some.inj first

private theorem flat_map_of_key {entries : List (Segment × Json)} {f : Segment × Json → List α}
    (distinct : (entries.map (·.1)).Nodup) (member : (step, content) ∈ entries)
    (nothing : ∀ entry ∈ entries, entry.1 ≠ step → f entry = []) :
    entries.flatMap f = f (step, content) := by
  induction entries with
  | nil => cases member
  | cons first rest ih =>
    simp only [List.map_cons, List.nodup_cons] at distinct
    rw [List.flatMap_cons]
    rcases List.mem_cons.mp member with rfl | later
    · have others : rest.flatMap f = [] := by
        apply List.flatMap_eq_nil_iff.mpr
        intro entry held
        refine nothing entry (List.mem_cons_of_mem _ held) fun same => distinct.1 ?_
        exact List.mem_map.mpr ⟨entry, held, same⟩
      rw [others, List.append_nil]
    · have apart : first.1 ≠ step := fun same =>
        distinct.1 (List.mem_map.mpr ⟨_, later, same.symm⟩)
      rw [nothing first List.mem_cons_self apart, List.nil_append]
      exact ih distinct.2 later fun entry held => nothing entry (List.mem_cons_of_mem _ held)

private theorem positions_here (depth : Nat) (value : Json) :
    (positions depth value).filter (fun entry => entry.1 = []) = [([], value)] := by
  cases depth with
  | zero => simp [positions]
  | succ depth => simp [positions, List.filter_flatMap, List.filter_map]

private theorem filter_behind (first : Segment) (position : List Segment) (step : Segment)
    (entries : List (List Segment × Json)) :
    (entries.map fun (later, found) => (step :: later, found)).filter
        (fun entry => ChildOf (first :: position) entry.1) =
      if step = first then
        (entries.filter fun entry => ChildOf position entry.1).map
          fun (later, found) => (step :: later, found)
      else [] := by
  rw [List.filter_map]
  by_cases same : step = first
  · simp [Function.comp_def, child_of_cons_iff, same]
  · simp [Function.comp_def, child_of_cons_iff, same]

/-- Among all positions, those one step further in than a given one are the
steps into its value, in order. -/
theorem positions_children (distinct : Distinct value) (walk : Reaches value position found)
    (shallow : position.length < depth) :
    (positions depth value).filter (fun entry => ChildOf position entry.1) =
      (stepsInto found).map fun (step, inner) => (position ++ [step], inner) := by
  induction position generalizing depth value with
  | nil =>
    cases reaches_nil_iff.mp walk
    obtain ⟨depth, rfl⟩ : ∃ more, depth = more + 1 := ⟨depth - 1, by omega⟩
    have single : ∀ step : Segment, ∀ later : List Segment,
        ChildOf [] (step :: later) ↔ later = [] := by
      intro step later
      cases later <;> simp [ChildOf]
    simp only [positions, List.filter_cons, List.filter_flatMap, List.filter_map, Function.comp_def,
      single, positions_here]
    simp [ChildOf, List.map_eq_flatMap]
  | cons first rest ih =>
    obtain ⟨next, held, further⟩ := reaches_cons_iff.mp walk
    obtain ⟨depth, rfl⟩ : ∃ more, depth = more + 1 := ⟨depth - 1, by omega⟩
    have inner := ih (every_object_step distinct held) further (Nat.lt_of_succ_lt_succ shallow)
    have outside : ¬ ChildOf (first :: rest) [] := fun child => child.1 rfl
    simp only [positions, List.filter_cons, outside, List.filter_flatMap, filter_behind]
    -- Keys are distinct, so only the block of the first step has such positions.
    rw [flat_map_of_key (steps_into_distinct distinct) held]
    · simp [inner]
    · intro entry _ apart
      simp [apart]

/-! ## Places are positions -/

variable {document value found : Json} {depth place inner outer : Nat}
  {position further : List Segment}

/-- A document whose catalogue has a path of its own for every field and for
every field's parent. -/
structure Addressable (document : Json) : Prop where
  distinct : Distinct document
  bare : BareKeys document
  noRoot : NoRootKey document

theorem Addressable.plain (fit : Addressable document) : Plain document :=
  every_object_mono (fun _ every key member => (every key member).1) document fit.bare

private theorem bare_walk (fit : Addressable document) (walk : Reaches document position found) :
    ∀ step ∈ position, Bare step := by
  intro step member
  cases taken_walk fit.bare walk step member with
  | key bare => exact bare
  | first => exact Nat.zero_lt_succ _

private theorem path_of_walk_injective (fit : Addressable document)
    (walk : Reaches document position found) (other : Reaches document further again)
    (same : pathOf position = pathOf further) : position = further := by
  rw [← segments_of_walk fit.plain fit.noRoot walk, same,
    segments_of_walk fit.plain fit.noRoot other]

private theorem walk_of_place
    (held : (positions depth document)[place]? = some (position, value)) :
    position.length ≤ depth ∧ Reaches document position value :=
  mem_positions_iff.mp (List.mem_of_getElem? held)

private theorem place_of_walk (short : position.length ≤ depth)
    (walk : Reaches document position value) :
    ∃ place : Nat, (positions depth document)[place]? = some (position, value) :=
  List.mem_iff_getElem?.mp (mem_positions_iff.mpr ⟨short, walk⟩)

private theorem field_of_place (fit : Addressable document)
    (held : (positions depth document)[place]? = some (position, value)) :
    (infer depth document)[place]? = some (fieldAt position value) := by
  rw [infer_positions fit.plain, List.getElem?_map, held]
  rfl

private theorem place_of_path {first second : Field} (fit : Addressable document)
    (held : (infer depth document)[place]? = some first)
    (other : (infer depth document)[outer]? = some second) (same : first.path = second.path) :
    place = outer := by
  have paths : ((infer depth document).map (·.path)).Nodup :=
    infer_paths_distinct fit.distinct fit.plain fit.noRoot
  have bound := (List.getElem?_eq_some_iff.mp held).1
  have twice : ((infer depth document).map (·.path))[place]? =
      ((infer depth document).map (·.path))[outer]? := by
    rw [List.getElem?_map, List.getElem?_map, held, other]
    exact congrArg some same
  exact (List.getElem?_inj (by simpa using bound) paths).mp twice

private theorem container_of_step (held : (step, found) ∈ stepsInto value) :
    (FieldType.of value).isContainer = true := by
  cases steps_to_of_mem held with
  | first | member => rfl

/-- An entry lies in another one exactly if its position is one step further
in; nothing lies in the document. -/
theorem lies_in_iff (fit : Addressable document)
    (child : (positions depth document)[inner]? = some (further, found))
    (parent : (positions depth document)[outer]? = some (position, value)) :
    LiesIn (infer depth document) inner outer ↔ position ≠ [] ∧ ChildOf position further := by
  obtain ⟨_, childWalk⟩ := walk_of_place child
  obtain ⟨_, parentWalk⟩ := walk_of_place parent
  constructor
  · rintro ⟨field, holder, held, there, _, above, _⟩
    rw [field_of_place fit child] at held
    rw [field_of_place fit parent] at there
    cases held
    cases there
    -- The document has no parent; any other position has the one before its last step.
    rcases List.eq_nil_or_concat' further with rfl | ⟨before, step, rfl⟩
    · exact absurd (parent_root.symm.trans above) nofun
    · obtain ⟨_, walk, _⟩ := reaches_snoc_iff.mp childWalk
      have cut : parent? (pathOf (before ++ [step])) = some (pathOf position) := above
      rw [parent_path_of (bare_walk fit childWalk)] at cut
      split at cut
      · cases cut
      · rename_i nonempty
        have same := path_of_walk_injective fit walk parentWalk (Option.some.inj cut)
        exact ⟨same ▸ nonempty, child_of_iff.mpr ⟨step, by rw [same]⟩⟩
  · rintro ⟨nonempty, isChild⟩
    obtain ⟨step, rfl⟩ := child_of_iff.mp isChild
    obtain ⟨between, walk, last⟩ := reaches_snoc_iff.mp childWalk
    cases reaches_unique fit.distinct parentWalk walk
    have cut : parent? (pathOf (position ++ [step])) = some (pathOf position) := by
      rw [parent_path_of (bare_walk fit childWalk), if_neg nonempty]
    refine ⟨_, _, field_of_place fit child, field_of_place fit parent, container_of_step last, cut,
      ?_⟩
    intro earlier before other held same
    have place := place_of_path fit held (field_of_place fit parent) same
    omega

private theorem filter_places {entries : List α} {test : Nat → Bool} {keep : α → Bool}
    (agree : ∀ place entry, entries[place]? = some entry → test place = keep entry) :
    ((List.range entries.length).filter test).filterMap (entries[·]?) = entries.filter keep := by
  conv => rhs; rw [← entries_at_places entries]
  rw [List.filterMap_filter, List.filter_filterMap]
  apply List.filterMap_congr
  intro place _
  cases held : entries[place]? with
  | none => simp
  | some entry =>
    rw [agree place entry held, Option.filter_some]

private theorem infer_length (fit : Addressable document) :
    (infer depth document).length = (positions depth document).length := by
  rw [infer_positions fit.plain, List.length_map]

/-- What lies in an entry other than the document, as positions. -/
theorem inside_positions (fit : Addressable document)
    (parent : (positions depth document)[outer]? = some (position, value))
    (nonempty : position ≠ []) :
    (inside (infer depth document) (some outer)).filterMap ((positions depth document)[·]?) =
      (positions depth document).filter fun entry => ChildOf position entry.1 := by
  rw [inside, infer_length fit]
  apply filter_places
  rintro place ⟨further, found⟩ held
  rw [decide_eq_decide, parent_at_iff, lies_in_iff fit held parent]
  exact and_iff_right nonempty

theorem inside_document (fit : Addressable document)
    (parent : (positions depth document)[outer]? = some ([], value)) :
    inside (infer depth document) (some outer) = [] := by
  apply List.eq_nil_iff_forall_not_mem.mpr
  intro place member
  have bound := (mem_inside_iff.mp member).1
  rw [infer_length fit] at bound
  have lies := mem_inside_some_iff.mp member
  rw [lies_in_iff fit (List.getElem?_eq_getElem bound) parent] at lies
  exact lies.1 rfl

/-- The roots are the document and the positions of one step. -/
theorem inside_roots (fit : Addressable document) :
    (inside (infer depth document) none).filterMap ((positions depth document)[·]?) =
      (positions depth document).filter fun entry => entry.1.length ≤ 1 := by
  rw [inside, infer_length fit]
  apply filter_places
  rintro place ⟨further, found⟩ held
  obtain ⟨short, walk⟩ := walk_of_place held
  rw [decide_eq_decide, Option.eq_none_iff_forall_ne_some]
  constructor
  · -- Two steps or more lead through the position before the last one, which lies around.
    intro alone
    by_contra long
    rcases List.eq_nil_or_concat' further with rfl | ⟨before, step, rfl⟩
    · exact long (Nat.zero_le 1)
    · obtain ⟨inner, walkBefore, _⟩ := reaches_snoc_iff.mp walk
      simp only [List.length_append, List.length_singleton] at short long
      have nonempty : before ≠ [] := by
        rintro rfl
        exact long (Nat.le_refl 1)
      have shortBefore : before.length ≤ depth := by omega
      obtain ⟨outer, parent⟩ := place_of_walk shortBefore walkBefore
      refine alone outer (parent_at_iff.mpr ((lies_in_iff fit held parent).mpr ⟨nonempty, ?_⟩))
      exact child_of_iff.mpr ⟨step, rfl⟩
  · -- Whatever lies around a position is a step shorter and is not the document.
    intro atMost outer above
    obtain ⟨_, _, _, there, _⟩ := parent_at_iff.mp above
    have bound := (List.getElem?_eq_some_iff.mp there).1
    rw [infer_length fit] at bound
    have parent := List.getElem?_eq_getElem bound
    have lies := (lies_in_iff fit held parent).mp (parent_at_iff.mp above)
    obtain ⟨step, rfl⟩ := child_of_iff.mp lies.2
    have := List.length_pos_iff.mpr lies.1
    simp only [List.length_append, List.length_singleton] at atMost
    omega

/-! ## Preorder -/

private theorem positions_head (depth : Nat) (value : Json) :
    positions depth value = ([], value) :: (positions depth value).tail := by
  cases depth <;> rfl

/-- The fields from a position on, at a remaining depth. -/
def block (remaining : Nat) (entry : List Segment × Json) : List Field :=
  (positions remaining entry.2).map fun (further, found) => fieldAt (entry.1 ++ further) found

private theorem block_head (remaining : Nat) (position : List Segment) (value : Json) :
    block remaining (position, value) =
      fieldAt position value :: (block remaining (position, value)).tail := by
  rw [block, positions_head]
  simp

/-- A block is its own field, followed by the blocks of the steps into its
value. -/
theorem block_succ (remaining : Nat) (position : List Segment) (value : Json) :
    block (remaining + 1) (position, value) =
      fieldAt position value ::
        (stepsInto value).flatMap fun (step, inner) =>
          block remaining (position ++ [step], inner) := by
  simp [block, positions, List.map_flatMap, Function.comp_def]

private theorem flat_map_places {entries : List α} {places : List Nat} {draw : Nat → List β}
    (written : α → List β)
    (each : ∀ place ∈ places, ∃ entry, entries[place]? = some entry ∧ draw place = written entry) :
    places.flatMap draw = (places.filterMap (entries[·]?)).flatMap written := by
  induction places with
  | nil => rfl
  | cons place rest ih =>
    obtain ⟨entry, held, same⟩ := each place List.mem_cons_self
    rw [List.flatMap_cons, List.filterMap_cons_some held, List.flatMap_cons, same,
      ih fun later member => each later (List.mem_cons_of_mem _ member)]

private theorem place_inside (fit : Addressable document)
    (member : place ∈ inside (infer depth document) parent) :
    ∃ position value, (positions depth document)[place]? = some (position, value) := by
  have bound := (mem_inside_iff.mp member).1
  rw [infer_length fit] at bound
  exact ⟨_, _, List.getElem?_eq_getElem bound⟩

/-- What lies inside a position is one step further in. -/
private theorem child_inside (fit : Addressable document)
    (held : (positions depth document)[place]? = some (position, value))
    (member : child ∈ inside (infer depth document) (some place)) :
    ∃ step found, (positions depth document)[child]? = some (position ++ [step], found) := by
  obtain ⟨further, found, there⟩ := place_inside fit member
  have lies := (lies_in_iff fit there held).mp (mem_inside_some_iff.mp member)
  obtain ⟨step, rfl⟩ := child_of_iff.mp lies.2
  exact ⟨step, found, there⟩

/-- What is drawn below a position is the rest of its block. -/
theorem below_position (fit : Addressable document) (remaining : Nat)
    (held : (positions depth document)[place]? = some (position, value))
    (nonempty : position ≠ []) (deep : position.length + remaining = depth) :
    FieldNode.flattenForest (below (infer depth document) (some place)) =
      (block remaining (position, value)).tail := by
  induction remaining generalizing place position value with
  | zero =>
    have nothing : inside (infer depth document) (some place) = [] := by
      apply List.eq_nil_iff_forall_not_mem.mpr
      intro child member
      obtain ⟨step, found, there⟩ := child_inside fit held member
      have short := (walk_of_place there).1
      simp only [List.length_append, List.length_singleton] at short
      omega
    rw [flatten_below, nothing]
    rfl
  | succ remaining ih =>
    have walk := (walk_of_place held).2
    rw [block_succ, List.tail_cons, flatten_below, flat_map_places (block remaining),
      inside_positions fit held nonempty, positions_children fit.distinct walk (by omega),
      List.flatMap_map]
    intro child member
    obtain ⟨step, found, there⟩ := child_inside fit held member
    refine ⟨_, there, ?_⟩
    rw [field_of_place fit there, ih there (by simp) (by simp; omega), block_head]
    rfl

private theorem shallow_positions (depth : Nat) (value : Json) :
    (positions (depth + 1) value).filter (fun entry => entry.1.length ≤ 1) =
      ([], value) :: (stepsInto value).map fun (step, inner) => ([step], inner) := by
  have single : ∀ (step : Segment) (later : List Segment),
      (step :: later).length ≤ 1 ↔ later = [] := by
    intro step later
    cases later <;> simp
  simp only [positions, List.filter_cons, List.filter_flatMap, List.filter_map, Function.comp_def,
    single, positions_here]
  simp [List.map_eq_flatMap]

/-- The preorder of the tree is the catalogue, element by element. -/
theorem flatten_hierarchy (fit : Addressable document) (depth : Nat) :
    FieldNode.flattenForest (hierarchy (infer depth document)) = infer depth document := by
  let drawn : List Segment × Json → List Field := fun entry =>
    if entry.1 = [] then [fieldAt [] entry.2] else block (depth - 1) entry
  -- The roots are the document, which has nothing inside, and one block for each first step.
  have roots : FieldNode.flattenForest (hierarchy (infer depth document)) =
      ((positions depth document).filter fun entry => entry.1.length ≤ 1).flatMap drawn := by
    rw [← inside_roots fit]
    refine (flatten_below _ none).trans (flat_map_places drawn ?_)
    intro place member
    obtain ⟨position, value, held⟩ := place_inside fit member
    refine ⟨_, held, ?_⟩
    rw [field_of_place fit held]
    by_cases empty : position = []
    · subst empty
      rw [flatten_below, inside_document fit held]
      simp [drawn]
    · have one : position.length = 1 := by
        have among := List.mem_filterMap.mpr ⟨place, member, held⟩
        rw [inside_roots fit] at among
        have atMost : position.length ≤ 1 := of_decide_eq_true (List.mem_filter.mp among).2
        have := List.length_pos_iff.mpr empty
        omega
      have short := (walk_of_place held).1
      rw [below_position fit (depth - 1) held empty (by omega)]
      simp only [drawn, empty, ↓reduceIte]
      exact (block_head ..).symm
  rw [roots, infer_positions fit.plain]
  cases depth with
  | zero => simp [positions, drawn]
  | succ depth =>
    have whole := block_succ depth [] document
    rw [shallow_positions, List.flatMap_cons, List.flatMap_map]
    simpa [drawn, block] using whole.symm

/-! ## Children -/

theorem place_of_node (inForest : InForest node (below fields parent)) :
    ∃ place field, fields[place]? = some field ∧
      node = nodeOver field (below fields (some place)) := by
  generalize shape : below fields parent = nodes at inForest
  induction inForest generalizing parent with
  | here member =>
    rw [← shape, below_level] at member
    obtain ⟨place, _, drawn⟩ := List.mem_filterMap.mp member
    obtain ⟨field, held, rfl⟩ := Option.map_eq_some_iff.mp drawn
    exact ⟨place, field, held, rfl⟩
  | under member inner ih =>
    rw [← shape, below_level] at member
    obtain ⟨place, _, drawn⟩ := List.mem_filterMap.mp member
    obtain ⟨field, held, same⟩ := Option.map_eq_some_iff.mp drawn
    rw [nodeOver, FieldNode.node.injEq] at same
    split at same
    · exact ih (Option.some.inj same.2)
    · cases same.2

/-- The fields of a node's children are the entries that lie in its own. -/
theorem children_of_place {fields : List Field} (held : fields[place]? = some field) :
    ((nodeOver field (below fields (some place))).children.getD []).map FieldNode.field =
      (inside fields (some place)).filterMap (fields[·]?) := by
  rw [nodeOver, FieldNode.children]
  split
  · rw [Option.getD_some, below_level, List.map_filterMap]
    apply List.filterMap_congr
    intro child _
    cases fields[child]? <;> rfl
  · rename_i single
    rw [inside_single held (Bool.eq_false_iff.mpr single)]
    rfl

private theorem path_eq_root_iff (fit : Addressable document)
    (walk : Reaches document position found) : pathOf position = root ↔ position = [] := by
  constructor
  · intro same
    exact path_of_walk_injective fit walk .here same
  · rintro rfl
    rfl

/-- The tree of a document's catalogue, walked in preorder, is the catalogue
again; and every node but the document's has exactly the fields one step
further in as its children, in their order. The document's node has none. -/
theorem hierarchy_of_infer_round_trip (document : Json) (depth : Nat) (fit : Addressable document) :
    FieldNode.flattenForest (hierarchy (infer depth document)) = infer depth document ∧
    ∀ node, InForest node (hierarchy (infer depth document)) →
      (node.children.getD []).map FieldNode.field =
        if node.field.path = root then []
        else (infer depth document).filter fun field => OneStepLonger field.path node.field.path := by
  refine ⟨flatten_hierarchy fit depth, fun node inForest => ?_⟩
  obtain ⟨place, field, held, rfl⟩ := place_of_node inForest
  have bound := (List.getElem?_eq_some_iff.mp held).1
  rw [infer_length fit] at bound
  obtain ⟨⟨position, value⟩, entry⟩ : ∃ entry, (positions depth document)[place]? = some entry :=
    ⟨_, List.getElem?_eq_getElem bound⟩
  obtain ⟨_, walk⟩ := walk_of_place entry
  -- A node stands for the position at its place, so its field is that of the position.
  have own := field_of_place fit entry
  rw [held] at own
  cases own
  rw [children_of_place held]
  have path : (nodeOver (fieldAt position value)
      (below (infer depth document) (some place))).field.path = pathOf position := rfl
  rw [path]
  by_cases empty : position = []
  · subst empty
    rw [inside_document fit entry, if_pos ((path_eq_root_iff fit walk).mpr rfl)]
    rfl
  · rw [if_neg fun same => empty ((path_eq_root_iff fit walk).mp same)]
    -- The catalogue lists the positions, so what lies inside the node is looked up among them.
    have places : (fun place : Nat => (infer depth document)[place]?) = fun place =>
        ((positions depth document)[place]?).map fun (further, found) => fieldAt further found := by
      funext place
      rw [infer_positions fit.plain, List.getElem?_map]
    rw [places, ← List.map_filterMap, inside_positions fit entry empty, infer_positions fit.plain,
      List.filter_map]
    refine congrArg _ (List.filter_congr fun child member => ?_)
    obtain ⟨_, childWalk⟩ := mem_positions_iff.mp member
    rw [Function.comp_apply, decide_eq_decide]
    simp only [OneStepLonger, fieldAt, ChildOf, segments_of_walk fit.plain fit.noRoot childWalk,
      segments_of_walk fit.plain fit.noRoot walk]

/-- Arrays in arrays, items that nobody looks at, and a `root` below the
top. -/
def nestedSample : Json :=
  .array [.array [.object [("a", .array [.bool true, .null]), ("root", .object [])]], .null]

theorem nested_sample_round_trip :
    Addressable nestedSample ∧
      FieldNode.flattenForest (hierarchy (infer 4 nestedSample)) = infer 4 nestedSample := by
  have distinct : Distinct nestedSample := by
    simp [Distinct, nestedSample, EveryObject, EveryMember, EveryItem]
  have bare : BareKeys nestedSample := by
    simp only [BareKeys, EveryKey, nestedSample, EveryObject, EveryMember, EveryItem]
    decide
  have fit : Addressable nestedSample := ⟨distinct, bare, trivial⟩
  exact ⟨fit, (hierarchy_of_infer_round_trip nestedSample 4 fit).1⟩

end Botwright.HierarchyRoundTrip
