import Botwright.Catalogue.Hierarchy
import Mathlib.Algebra.BigOperators.Group.List.Basic
import Mathlib.Data.List.Forall2

/-! Every entry of a catalogue has one place in its tree, whatever the
catalogue: paths may repeat, be malformed, or come before their parents. Where
an entry belongs is said by paths alone. The proof follows the parent places
downward; a path is longer than its parent's, which is what makes the levels
of the tree run out. -/
namespace Botwright.HierarchyPlacement
open Catalogue

/-- An entry lies in the first entry that has its path without the last step,
provided that one is a container. -/
def LiesIn (fields : List Field) (child parent : Nat) : Prop :=
  ∃ field holder, fields[child]? = some field ∧ fields[parent]? = some holder ∧
    holder.type.isContainer = true ∧ FieldPath.parent? field.path = some holder.path ∧
    ∀ earlier < parent, ∀ other, fields[earlier]? = some other → other.path ≠ holder.path

/-- A node that is drawn for an entry shows it, and exactly containers have
children: nodes for the entries that lie in it, in the order of the
catalogue. -/
inductive DrawnFor (fields : List Field) : Nat → FieldNode → Prop where
  | leaf (held : fields[place]? = some field) (single : field.type.isContainer = false) :
      DrawnFor fields place (.node field none)
  | container (held : fields[place]? = some field) (holds : field.type.isContainer = true)
      (ordered : places.Pairwise (· < ·)) (inside : ∀ child, child ∈ places ↔ LiesIn fields child place)
      (children : List.Forall₂ (DrawnFor fields) places nodes) :
      DrawnFor fields place (.node field (some nodes))

/-! ## Parents -/

private theorem before_last_shorter (cut : FieldPath.beforeLast? p text = some before) :
    before.length < text.length := by
  induction text generalizing before with
  | nil => cases cut
  | cons c rest ih =>
    rw [FieldPath.beforeLast?] at cut
    split at cut
    · rename_i inner found
      cases cut
      simpa using ih found
    · split at cut
      · cases cut
        simp
      · cases cut

/-- A path is longer than its parent's. -/
theorem parent_shorter (parent : FieldPath.parent? path = some above) :
    above.length < path.length := by
  obtain ⟨before, kept, rfl⟩ := Option.map_eq_some_iff.mp parent
  have cut := (Option.filter_eq_some_iff.mp kept).1
  have shorter : before.length < path.toList.length := by
    split at cut
    · exact before_last_shorter cut
    · exact before_last_shorter cut
  rw [String.length_toList] at shorter
  simpa using shorter

/-- The place of the entry that an entry lies in. -/
def parentAt (fields : List Field) (place : Nat) : Option Nat :=
  fields[place]?.bind (parentIndex? fields place)

theorem find_first_iff {fields : List Field} :
    fields.findIdx? (·.path = path) = some place ↔
      ∃ holder, fields[place]? = some holder ∧ holder.path = path ∧
        ∀ earlier < place, ∀ other, fields[earlier]? = some other → other.path ≠ path := by
  rw [List.findIdx?_eq_some_iff_getElem]
  constructor
  · rintro ⟨bound, same, first⟩
    refine ⟨fields[place], List.getElem?_eq_getElem bound, by simpa using same, ?_⟩
    intro earlier before other held
    obtain ⟨_, rfl⟩ := List.getElem?_eq_some_iff.mp held
    simpa using first earlier before
  · rintro ⟨holder, held, same, first⟩
    obtain ⟨bound, rfl⟩ := List.getElem?_eq_some_iff.mp held
    refine ⟨bound, by simpa using same, fun earlier before => ?_⟩
    have early : earlier < fields.length := Nat.lt_trans before bound
    simpa using first earlier before _ (List.getElem?_eq_getElem early)

/-- The computed parent is the entry that the paths name. It is never the
entry itself, because its path is shorter. -/
theorem parent_at_iff : parentAt fields child = some parent ↔ LiesIn fields child parent := by
  constructor
  · intro computed
    obtain ⟨field, held, indexed⟩ := Option.bind_eq_some_iff.mp computed
    simp only [parentIndex?, Option.bind_eq_bind, Option.bind_eq_some_iff] at indexed
    obtain ⟨path, above, place, found, chosen⟩ := indexed
    split at chosen
    · rename_i admitted
      cases chosen
      obtain ⟨holder, there, rfl, first⟩ := find_first_iff.mp found
      have holds : holder.type.isContainer = true := by simpa [there] using admitted.2
      exact ⟨field, holder, held, there, holds, above, first⟩
    · cases chosen
  · rintro ⟨field, holder, held, there, holds, above, first⟩
    have found := find_first_iff.mpr ⟨holder, there, rfl, first⟩
    have apart : parent ≠ child := by
      rintro rfl
      rw [held] at there
      cases there
      exact Nat.lt_irrefl _ (parent_shorter above)
    simp [parentAt, held, parentIndex?, above, found, apart, there, holds]

/-- The places under one parent, or of the roots, in the order of the
catalogue. -/
def inside (fields : List Field) (parent : Option Nat) : List Nat :=
  (List.range fields.length).filter fun place => parentAt fields place = parent

theorem mem_inside_iff :
    place ∈ inside fields parent ↔ place < fields.length ∧ parentAt fields place = parent := by
  simp [inside]

theorem inside_ordered (fields : List Field) (parent : Option Nat) :
    (inside fields parent).Pairwise (· < ·) :=
  List.pairwise_lt_range.filter _

theorem mem_inside_some_iff : child ∈ inside fields (some parent) ↔ LiesIn fields child parent := by
  rw [mem_inside_iff, parent_at_iff]
  constructor
  · exact And.right
  · intro lies
    have ⟨field, _, held, _⟩ := lies
    exact ⟨(List.getElem?_eq_some_iff.mp held).1, lies⟩

theorem inside_longer (member : child ∈ inside fields (some parent))
    (held : fields[child]? = some field) (there : fields[parent]? = some holder) :
    holder.path.length < field.path.length := by
  obtain ⟨_, _, held', there', _, above, _⟩ := mem_inside_some_iff.mp member
  rw [held] at held'
  rw [there] at there'
  cases held'
  cases there'
  exact parent_shorter above

/-! ## One level of the tree -/

private theorem zip_idx_places (entries : List α) (start : Nat) :
    entries.zipIdx start =
      (List.range entries.length).filterMap fun place =>
        entries[place]?.map fun entry => (entry, place + start) := by
  induction entries generalizing start with
  | nil => rfl
  | cons first rest ih =>
    rw [List.zipIdx_cons, ih, List.length_cons, List.range_succ_eq_map, List.filterMap_cons,
      List.filterMap_map]
    simp [Nat.add_right_comm, Nat.add_assoc]

/-- The node over the nodes that were drawn below it. -/
def nodeOver (field : Field) (below : List FieldNode) : FieldNode :=
  .node field (if field.type.isContainer then some below else none)

/-- A level of the tree has a node for every place under the parent. -/
theorem forest_level (fields : List Field) (parent : Option Nat) (levels : Nat) :
    forest (placed fields) parent (levels + 1) =
      (inside fields parent).filterMap fun place =>
        fields[place]?.map fun field =>
          nodeOver field (forest (placed fields) (some place) levels) := by
  rw [forest, placed, zip_idx_places, inside, List.map_filterMap, List.filter_filterMap,
    List.map_filterMap, List.filterMap_filter]
  apply List.filterMap_congr
  intro place _
  cases held : fields[place]? with
  | none => simp
  | some field =>
    by_cases under : parentIndex? fields place field = parent
    · simp [parentAt, held, under, nodeOver]
    · simp [parentAt, held, under]

/-- The path of the deepest field has so many characters at most. -/
def longest (fields : List Field) : Nat := (fields.map (·.path.length)).foldl max 0

private theorem le_foldl_max (values : List Nat) (start : Nat) :
    start ≤ values.foldl max start ∧ ∀ value ∈ values, value ≤ values.foldl max start := by
  induction values generalizing start with
  | nil => simp
  | cons first rest ih =>
    obtain ⟨above, rest⟩ := ih (max start first)
    simp only [List.foldl_cons, List.mem_cons, forall_eq_or_imp]
    exact ⟨by omega, by omega, rest⟩

theorem le_longest {fields : List Field} {place : Nat} {field : Field}
    (held : fields[place]? = some field) : field.path.length ≤ longest fields :=
  (le_foldl_max _ 0).2 _ (List.mem_map_of_mem (List.mem_of_getElem? held))

/-- Levels that are enough under a parent: a place in there whose path is
shorter by one may need one level more. -/
def Enough (fields : List Field) (parent : Option Nat) (levels : Nat) : Prop :=
  ∀ place ∈ inside fields parent, ∀ field, fields[place]? = some field →
    longest fields < levels + field.path.length

theorem enough_of_longest (more : longest fields < levels) : Enough fields parent levels :=
  fun _ _ _ _ => Nat.lt_of_lt_of_le more (Nat.le_add_right ..)

private theorem enough_below (enough : Enough fields parent (levels + 1))
    (member : place ∈ inside fields parent) : Enough fields (some place) levels := by
  intro child inner field held
  obtain ⟨there, _⟩ := mem_inside_iff.mp member
  have holder := List.getElem?_eq_getElem there
  have above := enough place member _ holder
  have longer := inside_longer inner held holder
  omega

private theorem inside_of_no_levels (enough : Enough fields parent 0) :
    inside fields parent = [] := by
  apply List.eq_nil_iff_forall_not_mem.mpr
  intro place member
  have held := List.getElem?_eq_getElem (mem_inside_iff.mp member).1
  have above := enough place member _ held
  have bound := le_longest held
  omega

/-- Further levels change nothing once there are enough. -/
theorem forest_stable (enough : Enough fields parent levels)
    (likewise : Enough fields parent more) :
    forest (placed fields) parent levels = forest (placed fields) parent more := by
  induction levels generalizing parent more with
  | zero =>
    cases more with
    | zero => rfl
    | succ more => rw [forest_level, inside_of_no_levels enough, forest, List.filterMap_nil]
  | succ levels ih =>
    cases more with
    | zero => rw [forest_level, inside_of_no_levels likewise, forest, List.filterMap_nil]
    | succ more =>
      rw [forest_level, forest_level]
      apply List.filterMap_congr
      intro place member
      rw [ih (enough_below enough member) (enough_below likewise member)]

private theorem forall₂_filter_map {related : Nat → FieldNode → Prop}
    (each : ∀ place ∈ places, ∃ node, draw place = some node ∧ related place node) :
    List.Forall₂ related places (places.filterMap draw) := by
  induction places with
  | nil => exact .nil
  | cons place rest ih =>
    obtain ⟨node, drawn, meets⟩ := each place List.mem_cons_self
    rw [List.filterMap_cons_some drawn]
    exact .cons meets (ih fun later member => each later (List.mem_cons_of_mem _ member))

/-- With enough levels, every place under a parent is drawn. -/
theorem forest_drawn (enough : Enough fields parent levels) :
    List.Forall₂ (DrawnFor fields) (inside fields parent)
      (forest (placed fields) parent levels) := by
  induction levels generalizing parent with
  | zero =>
    rw [inside_of_no_levels enough, forest]
    exact .nil
  | succ levels ih =>
    rw [forest_level]
    apply forall₂_filter_map
    intro place member
    have held := List.getElem?_eq_getElem (mem_inside_iff.mp member).1
    refine ⟨_, by rw [held, Option.map_some], ?_⟩
    rw [nodeOver]
    split
    · rename_i holds
      exact .container held holds (inside_ordered ..) (fun _ => mem_inside_some_iff)
        (ih (enough_below enough member))
    · rename_i single
      exact .leaf held (Bool.eq_false_iff.mpr single)

/-- The nodes under one parent, with as many levels as the whole tree has. -/
def below (fields : List Field) (parent : Option Nat) : List FieldNode :=
  forest (placed fields) parent (longest fields + 1)

private theorem below_more (fields : List Field) (parent : Option Nat) :
    below fields parent = forest (placed fields) parent (longest fields + 1 + 1) :=
  forest_stable (enough_of_longest (by omega)) (enough_of_longest (by omega))

/-- Without levels: under a parent stands a node for every place, over the
nodes below that place. -/
theorem below_level (fields : List Field) (parent : Option Nat) :
    below fields parent =
      (inside fields parent).filterMap fun place =>
        fields[place]?.map fun field => nodeOver field (below fields (some place)) := by
  rw [below_more, forest_level]
  rfl

/-! ## Every place once -/

/-- The places of a forest in preorder. -/
def placesUnder (fields : List Field) (parent : Option Nat) : Nat → List Nat
  | 0 => []
  | levels + 1 =>
    (inside fields parent).flatMap fun place => place :: placesUnder fields (some place) levels

theorem inside_single (held : fields[place]? = some field)
    (single : field.type.isContainer = false) : inside fields (some place) = [] := by
  apply List.eq_nil_iff_forall_not_mem.mpr
  intro child member
  obtain ⟨_, holder, _, there, holds, _⟩ := mem_inside_some_iff.mp member
  rw [held] at there
  cases there
  rw [single] at holds
  cases holds

private theorem flatten_forest_eq (nodes : List FieldNode) :
    FieldNode.flattenForest nodes = nodes.flatMap FieldNode.flatten := by
  induction nodes with
  | nil => simp [FieldNode.flattenForest]
  | cons first rest ih => rw [FieldNode.flattenForest, ih, List.flatMap_cons]

private theorem flat_map_drawn (places : List Nat) :
    (places.filterMap draw).flatMap FieldNode.flatten =
      places.flatMap fun place => ((draw place).map FieldNode.flatten).getD [] := by
  induction places with
  | nil => rfl
  | cons place rest ih =>
    rw [List.filterMap_cons, List.flatMap_cons, ← ih]
    cases draw place <;> rfl

/-- In preorder every place of a level is followed by what is drawn below
it, which is nothing unless it is a container. -/
theorem flatten_level (fields : List Field) (parent : Option Nat) (levels : Nat) :
    FieldNode.flattenForest (forest (placed fields) parent (levels + 1)) =
      (inside fields parent).flatMap fun place =>
        fields[place]?.toList ++
          FieldNode.flattenForest (forest (placed fields) (some place) levels) := by
  rw [forest_level, flatten_forest_eq, flat_map_drawn]
  apply List.flatMap_congr
  intro place member
  have held := List.getElem?_eq_getElem (mem_inside_iff.mp member).1
  rw [held, Option.map_some, Option.map_some, Option.getD_some, nodeOver]
  split
  · rw [FieldNode.flatten]
    rfl
  · rename_i single
    have nothing := inside_single held (Bool.eq_false_iff.mpr single)
    cases levels with
    | zero => rfl
    | succ levels =>
      rw [forest_level, nothing]
      rfl

theorem flatten_below (fields : List Field) (parent : Option Nat) :
    FieldNode.flattenForest (below fields parent) =
      (inside fields parent).flatMap fun place =>
        fields[place]?.toList ++ FieldNode.flattenForest (below fields (some place)) := by
  rw [below_more, flatten_level]
  rfl

/-- The fields of a forest in preorder are those at its places. -/
theorem flatten_forest (fields : List Field) (parent : Option Nat) (levels : Nat) :
    FieldNode.flattenForest (forest (placed fields) parent levels) =
      (placesUnder fields parent levels).filterMap (fields[·]?) := by
  induction levels generalizing parent with
  | zero => simp [forest, FieldNode.flattenForest, placesUnder]
  | succ levels ih =>
    rw [flatten_level, placesUnder, List.filterMap_flatMap]
    apply List.flatMap_congr
    intro place _
    rw [ih, List.filterMap_cons]
    cases fields[place]? <;> rfl

private theorem count_level (child : Nat) (below : Nat → List Nat) (places : List Nat) :
    (places.flatMap fun place => place :: below place).count child =
      places.count child + (places.flatMap below).count child := by
  induction places with
  | nil => rfl
  | cons place rest ih =>
    rw [List.flatMap_cons, List.flatMap_cons, List.count_append, List.count_append, ih,
      List.count_cons, List.count_cons]
    omega

private theorem count_inside (bound : child < fields.length) (parent : Option Nat) :
    (inside fields parent).count child = if parentAt fields child = parent then 1 else 0 := by
  have distinct : (inside fields parent).Nodup := (inside_ordered fields parent).imp Nat.ne_of_lt
  rw [distinct.count]
  simp [mem_inside_iff, bound]

/-- An entry is met in a forest once if the forest's parent is its own, and as
often as its own parent is met one level higher up. -/
theorem count_places {fields : List Field} (bound : child < fields.length) (parent : Option Nat)
    (levels : Nat) :
    (placesUnder fields parent (levels + 1)).count child =
      (if parentAt fields child = parent then 1 else 0) +
        match parentAt fields child with
        | some above => (placesUnder fields parent levels).count above
        | none => 0 := by
  rw [placesUnder, count_level, count_inside bound, List.count_flatMap]
  congr 1
  induction levels generalizing parent with
  | zero => cases parentAt fields child <;> simp [placesUnder, Function.comp_def]
  | succ levels ih =>
    -- One level down the count splits in the same way, with the place as parent.
    have split : ∀ place, (placesUnder fields (some place) (levels + 1)).count child =
        (if parentAt fields child = some place then 1 else 0) +
          match parentAt fields child with
          | some above => (placesUnder fields (some place) levels).count above
          | none => 0 := by
      intro place
      rw [placesUnder, count_level, count_inside bound, List.count_flatMap, ih]
    simp only [Function.comp_def, split]
    cases parentAt fields child with
    | none => simp
    | some above =>
      dsimp only
      rw [placesUnder, List.count_flatMap]
      congr 1
      apply List.map_congr_left
      intro place _
      rw [Function.comp_apply, List.count_cons, Nat.add_comm]
      by_cases same : place = above
      · simp [same]
      · simp [same, Ne.symm same]

private theorem parent_bound (lies : parentAt fields child = some above) :
    ∃ field holder, fields[child]? = some field ∧ fields[above]? = some holder ∧
      holder.path.length < field.path.length := by
  obtain ⟨field, holder, held, there, _, path, _⟩ := parent_at_iff.mp lies
  exact ⟨field, holder, held, there, parent_shorter path⟩

/-- With more levels than its path has characters, an entry is met exactly
once under the roots. -/
theorem count_roots (held : fields[child]? = some field) (more : field.path.length < levels) :
    (placesUnder fields none levels).count child = 1 := by
  induction levels generalizing child field with
  | zero => cases more
  | succ levels ih =>
    rw [count_places (List.getElem?_eq_some_iff.mp held).1]
    cases lies : parentAt fields child with
    | none => simp
    | some above =>
      obtain ⟨own, holder, same, there, shorter⟩ := parent_bound lies
      rw [held] at same
      cases same
      have once := ih there (by omega)
      simpa using once

private theorem places_bound (member : place ∈ placesUnder fields parent levels) :
    place < fields.length := by
  induction levels generalizing parent with
  | zero => cases member
  | succ levels ih =>
    obtain ⟨first, among, found⟩ := List.mem_flatMap.mp member
    rcases List.mem_cons.mp found with rfl | later
    · exact (mem_inside_iff.mp among).1
    · exact ih later

/-- The tree has every place of the catalogue exactly once. -/
theorem places_perm (fields : List Field) :
    (placesUnder fields none (longest fields + 1)).Perm (List.range fields.length) := by
  apply List.perm_iff_count.mpr
  intro place
  by_cases bound : place < fields.length
  · have held := List.getElem?_eq_getElem bound
    rw [count_roots held (Nat.lt_succ_of_le (le_longest held)), List.nodup_range.count,
      if_pos (List.mem_range.mpr bound)]
  · rw [List.count_eq_zero_of_not_mem fun member => bound (places_bound member),
      List.count_eq_zero_of_not_mem fun member => bound (List.mem_range.mp member)]

/-- A list is what stands at its places. -/
theorem entries_at_places (entries : List α) :
    (List.range entries.length).filterMap (entries[·]?) = entries := by
  have listed := congrArg (List.map Prod.fst) (zip_idx_places entries 0)
  rw [List.zipIdx_map_fst, List.map_filterMap] at listed
  simpa [Option.map_map, Function.comp_def] using listed.symm

mutual

private theorem size_eq (node : FieldNode) : node.size = node.flatten.length := by
  match node with
  | .node field none => rfl
  | .node field (some children) =>
    rw [FieldNode.size, FieldNode.flatten, forest_size_eq children, List.length_cons, Nat.add_comm]

/-- The size of a forest is the number of fields in it. -/
theorem forest_size_eq (nodes : List FieldNode) :
    FieldNode.forestSize nodes = (FieldNode.flattenForest nodes).length := by
  match nodes with
  | [] => rfl
  | first :: rest =>
    rw [FieldNode.forestSize, FieldNode.flattenForest, size_eq first, forest_size_eq rest,
      List.length_append]

end

/-- The tree of any catalogue whatever: its roots are the entries that lie in
no other, drawn in the order of the catalogue; every entry is in it exactly
once; and no further level could add anything. -/
theorem hierarchy_places_every_entry (fields : List Field) :
    (∃ roots : List Nat, roots.Pairwise (· < ·) ∧
      (∀ place, place ∈ roots ↔ place < fields.length ∧ ∀ parent, ¬ LiesIn fields place parent) ∧
      List.Forall₂ (DrawnFor fields) roots (hierarchy fields)) ∧
    (FieldNode.flattenForest (hierarchy fields)).Perm fields ∧
    FieldNode.forestSize (hierarchy fields) = fields.length ∧
    ∀ more, forest (placed fields) none (longest fields + 1 + more) = hierarchy fields := by
  have enough : Enough fields none (longest fields + 1) := enough_of_longest (Nat.lt_succ_self _)
  have every : (FieldNode.flattenForest (hierarchy fields)).Perm fields := by
    have listed := (places_perm fields).filterMap (fields[·]?)
    rw [entries_at_places, ← flatten_forest] at listed
    exact listed
  refine ⟨⟨inside fields none, inside_ordered .., fun place => ?_, forest_drawn enough⟩, every, ?_,
    fun more => forest_stable (enough_of_longest (by omega)) enough⟩
  · rw [mem_inside_iff]
    apply and_congr_right
    intro _
    rw [Option.eq_none_iff_forall_ne_some]
    exact forall_congr' fun parent => not_congr parent_at_iff
  · rw [forest_size_eq, every.length_eq]

end Botwright.HierarchyPlacement
