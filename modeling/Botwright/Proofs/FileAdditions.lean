import Mathlib.Data.List.Induction
import Mathlib.Data.List.Nodup
import Botwright.Project.FileSet

/-! Additions to a set of files. One addition replaces a content or puts a file last; a run of
them leaves every path where it was added first, with what was added for it last, and an index
that says where. -/
namespace Botwright.FileAdditions
open Project

variable {set : FileSet} {additions : List File} {path content : String} {file : File}

/-! ## What a run leaves -/

/-- A file that is added, and whose path is not added again. -/
def LastAdded (additions : List File) (file : File) : Prop :=
  ∃ before after, additions = before ++ file :: after ∧ file.path ∉ after.map (·.path)

/-- A set of files after some additions. -/
structure Holds (additions : List File) (set : FileSet) : Prop where
  /-- Every path stands where it was added first. -/
  paths : set.files.map (·.path) = (additions.map (·.path)).eraseDups
  once : (set.files.map (·.path)).Nodup
  contents : ∀ file ∈ set.files, LastAdded additions file
  /-- The index leads from each path that was added, and from no other, to its file. -/
  index : ∀ path place, set.index.lookup path = some place ↔
    (additions.map (·.path)).eraseDups[place]? = some path ∧
      ∃ file, set.files[place]? = some file ∧ file.path = path

theorem nodup_paths (set : FileSet) : (set.files.map (·.path)).Nodup := by
  rw [List.nodup_iff_getElem?_ne_getElem?]
  intro first second before bound same
  rw [List.getElem?_eq_getElem bound] at same
  have here := (set.indexed _ first).mpr same
  have there := (set.indexed _ second).mpr (List.getElem?_eq_getElem bound)
  rw [here] at there
  cases there
  exact Nat.lt_irrefl _ before

theorem holds_of_contents (paths : set.files.map (·.path) = (additions.map (·.path)).eraseDups)
    (contents : ∀ file ∈ set.files, LastAdded additions file) : Holds additions set := by
  refine ⟨paths, nodup_paths set, contents, fun path place => ?_⟩
  rw [set.indexed, ← paths, List.getElem?_map, Option.map_eq_some_iff]
  exact (and_self_iff).symm

/-! ## One addition -/

/-- The files other than that with the path stay, and the path has the content. -/
theorem mem_add (held : file ∈ (set.add path content).files) :
    file = ⟨path, content⟩ ∨ file ∈ set.files ∧ file.path ≠ path := by
  cases known : set.index.lookup path with
  | none =>
    have fresh := FileSet.not_mem_of_lookup known
    rw [FileSet.files_add_fresh fresh, List.mem_append, List.mem_singleton] at held
    refine held.symm.imp_right fun old => ⟨old, fun same => ?_⟩
    exact fresh (same ▸ List.mem_map_of_mem old)
  | some place =>
    rw [FileSet.files_add_known known] at held
    obtain ⟨other, found⟩ := List.getElem?_of_mem held
    rw [FileSet.replace, List.getElem?_modify] at found
    obtain ⟨old, stood, rfl⟩ := Option.map_eq_some_iff.mp found
    have own := (set.indexed old.path other).mpr (by rw [List.getElem?_map, stood]; rfl)
    by_cases here : place = other
    · have path := (set.indexed path place).mp known
      rw [here, List.getElem?_map, stood] at path
      cases path
      exact .inl (by simp [here])
    · refine .inr ⟨by simpa [here] using List.mem_of_getElem? stood, fun same => here ?_⟩
      have path : old.path = path := by simpa [here] using same
      rw [path, known] at own
      exact Option.some.inj own

theorem paths_add (set : FileSet) (path content : String) :
    (set.add path content).files.map (·.path) =
      set.files.map (·.path) ++ if path ∈ set.files.map (·.path) then [] else [path] := by
  split
  · next held =>
    obtain ⟨place, stood⟩ := List.getElem?_of_mem held
    rw [FileSet.files_add_known ((set.indexed path place).mpr stood), FileSet.paths_replace,
      List.append_nil]
  · next fresh => rw [FileSet.files_add_fresh fresh, List.map_append]; rfl

theorem holds_add (holds : Holds additions set) (file : File) :
    Holds (additions ++ [file]) (set.add file.path file.content) := by
  refine holds_of_contents ?_ fun other held => ?_
  · have known : file.path ∈ set.files.map (·.path) ↔ file.path ∈ additions.map (·.path) := by
      rw [holds.paths, List.mem_eraseDups]
    rw [paths_add, List.map_append, List.eraseDups_append, ← holds.paths, if_congr known rfl rfl,
      List.map_singleton, List.removeAll]
    by_cases again : file.path ∈ additions.map (·.path)
    · rw [if_pos again, List.filter_cons_of_neg (by simpa using again)]
      rfl
    · rw [if_neg again, List.filter_cons_of_pos (by simpa using again)]
      rfl
  · rcases mem_add held with rfl | ⟨old, apart⟩
    · exact ⟨additions, [], rfl, List.not_mem_nil⟩
    · obtain ⟨before, after, rfl, last⟩ := holds.contents other old
      refine ⟨before, after ++ [file], by simp, ?_⟩
      simpa [apart] using last

/-! ## Runs -/

theorem of_list_snoc (additions : List File) (file : File) :
    FileSet.ofList (additions ++ [file]) =
      (FileSet.ofList additions).add file.path file.content :=
  List.foldl_concat ..

theorem holds_of_list (additions : List File) : Holds additions (FileSet.ofList additions) := by
  induction additions using List.reverseRecOn with
  | nil => exact holds_of_contents rfl (List.forall_mem_nil _)
  | append_singleton additions file ih =>
    rw [of_list_snoc]
    exact holds_add ih file

/-- At every moment of a run of additions to an empty set, each path that was added so far is
there once, in the order in which the paths were first added, with the content that was added for
it last; and the index has the place of each of these files and nothing else. The rest of the run
goes on from there. -/
theorem additions_held (additions : List File) (n : Nat) :
    Holds (additions.take n) (FileSet.ofList (additions.take n)) ∧
      FileSet.ofList additions =
        (additions.drop n).foldl (fun set file => set.add file.path file.content)
          (FileSet.ofList (additions.take n)) := by
  refine ⟨holds_of_list _, ?_⟩
  rw [FileSet.ofList, FileSet.ofList, ← List.foldl_append, List.take_append_drop]

/-- A path that is added again, and one more in between. -/
example :
    let set := FileSet.ofList [⟨"a", "1"⟩, ⟨"b", "2"⟩, ⟨"a", "3"⟩, ⟨"c", "4"⟩]
    set.files = [⟨"a", "3"⟩, ⟨"b", "2"⟩, ⟨"c", "4"⟩] ∧
      set.index = [("a", 0), ("b", 1), ("c", 2)] := by
  decide

end Botwright.FileAdditions
