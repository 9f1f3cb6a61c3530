import Botwright.Proofs.BindingAllocation
import Botwright.Reply.Snippet

/-! The locals of a snippet. Every mapped path is declared once, in the order of
first use, under a name of its own that nothing else in the snippet has. -/
namespace Botwright.SnippetLocals
open Script Reply.Snippet BindingAllocation

/-- A name that a scope may hand out. -/
structure Local (name : String) : Prop where
  identifier : isIdentifier name = true
  unreserved : name ∉ reservedNames

theorem local_choose (scope : Scope) (base : String) : Local (scope.choose base) :=
  ⟨identifier_choose scope base, choose_not_reserved scope base⟩

/-- Declarations whose names a scope has handed out, each of them once. -/
structure Allocated (scope : Scope) (declared : List Declaration) : Prop where
  locals : ∀ declaration ∈ declared, Local declaration.binding
  distinct : (declared.map (·.binding)).Nodup
  used : ∀ declaration ∈ declared, declaration.binding ∈ scope.used

theorem allocated_empty : Allocated Scope.empty [] := ⟨by simp, by simp, by simp⟩

theorem Allocated.declare (allocated : Allocated scope declared) (path base : String) :
    Allocated (scope.allocate base).2 (declared ++ [⟨path, (scope.allocate base).1⟩]) := by
  refine ⟨?_, ?_, ?_⟩
  · intro declaration member
    rcases List.mem_append.mp member with old | new
    · exact allocated.locals declaration old
    · rw [List.mem_singleton.mp new]
      exact local_choose scope base
  · rw [List.map_append, List.map_singleton]
    apply allocated.distinct.append (List.nodup_singleton _)
    rw [List.disjoint_singleton]
    intro held
    obtain ⟨declaration, member, same⟩ := List.mem_map.mp held
    have taken := allocated.used declaration member
    rw [same] at taken
    exact choose_not_used scope base taken
  · intro declaration member
    rcases List.mem_append.mp member with old | new
    · exact List.mem_cons_of_mem _ (allocated.used declaration old)
    · rw [List.mem_singleton.mp new]
      exact List.mem_cons_self

theorem declare_from_cons (declared : List Declaration) (scope : Scope) (mapping : Mapping)
    (rest : List Mapping) :
    declareFrom declared scope (mapping :: rest) =
      if (bindingOf? declared mapping.path).isSome then declareFrom declared scope rest
      else declareFrom (declared ++ [⟨mapping.path, (scope.allocate (fieldName mapping.path)).1⟩])
        (scope.allocate (fieldName mapping.path)).2 rest := by
  rw [declareFrom]

theorem allocated_declare_from (allocated : Allocated scope declared) (mappings : List Mapping) :
    ∃ final, Allocated final (declareFrom declared scope mappings) := by
  induction mappings generalizing declared scope with
  | nil => exact ⟨scope, allocated⟩
  | cons mapping rest ih =>
    rw [declare_from_cons]
    split
    · exact ih allocated
    · exact ih (allocated.declare mapping.path (fieldName mapping.path))

/-- The names of a snippet's locals are distinct and may be handed out. -/
theorem allocated_declarations (mappings : List Mapping) :
    ∃ scope, Allocated scope (declarations mappings) :=
  allocated_declare_from allocated_empty mappings

theorem local_of_declaration (member : declaration ∈ declarations mappings) :
    Local declaration.binding := by
  obtain ⟨_, allocated⟩ := allocated_declarations mappings
  exact allocated.locals declaration member

/-! ## Paths -/

theorem binding_of_is_some : (bindingOf? declared path).isSome = true ↔
    path ∈ declared.map (·.path) := by
  simp [bindingOf?]

theorem paths_declare_from (declared : List Declaration) (scope : Scope)
    (mappings : List Mapping) :
    (declareFrom declared scope mappings).map (·.path) =
      declared.map (·.path) ++
        ((mappings.map (·.path)).filter (· ∉ declared.map (·.path))).eraseDups := by
  induction mappings generalizing declared scope with
  | nil => simp [declareFrom]
  | cons mapping rest ih =>
    rw [declare_from_cons, List.map_cons]
    split
    · next found =>
      have there := binding_of_is_some.mp found
      rw [ih, List.filter_cons_of_neg (by simpa using there)]
    · next missing =>
      have new : mapping.path ∉ declared.map (·.path) := mt binding_of_is_some.mpr missing
      -- From here on the new path counts as declared, too.
      have narrowed (path : String) :
          decide (path ∉ declared.map (·.path) ++ [mapping.path]) =
            (!(path == mapping.path) && decide (path ∉ declared.map (·.path))) := by
        rw [Bool.eq_iff_iff, Bool.and_eq_true, decide_eq_true_eq, decide_eq_true_eq,
          List.mem_append, List.mem_singleton, Bool.not_eq_true', beq_eq_false_iff_ne, not_or]
        exact and_comm
      rw [ih, List.map_append, List.map_singleton, List.filter_cons_of_pos (by simpa using new),
        List.eraseDups_cons, List.filter_filter, List.append_assoc, List.singleton_append]
      simp only [narrowed]

/-- Every mapped path is declared once, in the order of first use. -/
theorem paths_declarations (mappings : List Mapping) :
    (declarations mappings).map (·.path) = (mappings.map (·.path)).eraseDups := by
  rw [declarations, paths_declare_from]
  simp

theorem binding_of_eq_some (found : bindingOf? declared path = some binding) :
    ∃ declaration ∈ declared, declaration.path = path ∧ declaration.binding = binding := by
  obtain ⟨declaration, located, rfl⟩ := Option.map_eq_some_iff.mp found
  have here : declaration.path = path := by simpa using List.find?_some located
  exact ⟨declaration, List.mem_of_find?_eq_some located, here, rfl⟩

/-- The mapped paths are those that have a local. -/
theorem binding_of_declarations (mappings : List Mapping) (path : String) :
    (bindingOf? (declarations mappings) path).isSome = true ↔ path ∈ mappings.map (·.path) := by
  rw [binding_of_is_some, paths_declarations, List.mem_eraseDups]

theorem local_of_binding (found : bindingOf? (declarations mappings) path = some binding) :
    Local binding := by
  obtain ⟨declaration, member, _, rfl⟩ := binding_of_eq_some found
  exact local_of_declaration member

end Botwright.SnippetLocals
