import Botwright.Assoc

/-!
The files of a project in the order in which they were first added. Adding a path again replaces the
content and keeps the place. An index says where the file of a path is, so that no addition has to
look through the files.
-/
namespace Botwright.Project

/-- A file of a project; its path is relative to the project. -/
structure File where
  path : String
  content : String
  deriving DecidableEq, Repr

/-- Files with distinct paths, in order. -/
structure FileSet where
  files : List File
  /-- The place of the file of each path. -/
  index : List (String × Nat)
  /-- The index knows the path of each file, and no other. -/
  indexed : ∀ path place,
    index.lookup path = some place ↔ (files.map (·.path))[place]? = some path

namespace FileSet

def empty : FileSet := ⟨[], [], by simp⟩

/-- The files after the content at a place is replaced. -/
def replace (place : Nat) (content : String) (files : List File) : List File :=
  files.modify place fun file => { file with content := content }

@[simp] theorem paths_replace (place : Nat) (content : String) (files : List File) :
    (replace place content files).map (·.path) = files.map (·.path) := by
  refine List.ext_getElem? fun other => ?_
  rw [List.getElem?_map, List.getElem?_map, replace, List.getElem?_modify]
  by_cases here : place = other <;> cases files[other]? <;> simp [here]

/-- A path that the index does not know belongs to no file. -/
theorem not_mem_of_lookup {set : FileSet} {path : String} (absent : set.index.lookup path = none) :
    path ∉ set.files.map (·.path) := by
  intro held
  obtain ⟨place, found⟩ := List.getElem?_of_mem held
  rw [← set.indexed, absent] at found
  cases found

/-- The index of a set knows a new last file once it is put there. -/
theorem indexed_append {set : FileSet} {path : String} (absent : set.index.lookup path = none)
    (content : String) (p : String) (place : Nat) :
    (Assoc.put path set.files.length set.index).lookup p = some place ↔
      ((set.files ++ [File.mk path content]).map (·.path))[place]? = some p := by
  have grown : ((set.files ++ [File.mk path content]).map (·.path))[place]? = some p ↔
      (set.files.map (·.path))[place]? = some p ∨ place = set.files.length ∧ p = path := by
    rw [List.map_append, List.map_singleton, List.getElem?_append, List.length_map]
    by_cases before : place < set.files.length
    · simp [before, Nat.ne_of_lt before]
    · have outside : (set.files.map (·.path))[place]? = none := by simpa using before
      rw [if_neg before, outside, List.getElem?_singleton]
      split <;> simp [eq_comm] <;> omega
  rw [Assoc.lookup_put, grown]
  by_cases same : p = path
  · subst same
    have fresh : (set.files.map (·.path))[place]? ≠ some p := fun found =>
      not_mem_of_lookup absent (List.mem_of_getElem? found)
    rw [or_iff_right fresh]
    simp [eq_comm]
  · simpa [same] using set.indexed p place

/-- Adds a file, or replaces the content of the file with its path. -/
def add (set : FileSet) (path content : String) : FileSet :=
  match known : set.index.lookup path with
  | some place =>
    { set with
      files := replace place content set.files
      indexed := fun p q => by rw [paths_replace]; exact set.indexed p q }
  | none =>
    { files := set.files ++ [⟨path, content⟩]
      index := Assoc.put path set.files.length set.index
      indexed := indexed_append known content }

/-- A known file keeps its place. -/
theorem files_add_known {set : FileSet} {path : String} {place : Nat}
    (known : set.index.lookup path = some place) (content : String) :
    (set.add path content).files = replace place content set.files := by
  unfold add
  split <;> simp_all

/-- A new file comes last. -/
theorem files_add_fresh {set : FileSet} {path : String} (fresh : path ∉ set.files.map (·.path))
    (content : String) : (set.add path content).files = set.files ++ [⟨path, content⟩] := by
  unfold add
  split
  · next place known =>
    exact absurd (List.mem_of_getElem? ((set.indexed path place).1 known)) fresh
  · rfl

/-- The set of files added in turn. -/
def ofList (files : List File) : FileSet :=
  files.foldl (fun set file => set.add file.path file.content) empty

end FileSet

end Botwright.Project
