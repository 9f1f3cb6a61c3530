import Botwright.Disk.FileTree
import Mathlib.Data.List.Basic
import Mathlib.Data.List.TakeWhile
import Mathlib.Tactic.SplitIfs

/-! How a tree of files grows. Making directories puts new directories where nothing was,
a write changes one place, and neither takes a directory away, so every path goes on to
lead where it led before. A directory that is there is not made again. -/
namespace Botwright.TreeGrowth
open FileTree
variable {tree middle later made : FileTree} {start place last next : List String}

/-- Every directory of a tree is a directory of a later one. -/
def KeepsDirectories (tree later : FileTree) : Prop :=
  ∀ place, tree.at? place = some .directory → later.at? place = some .directory

/-- At a place, a later tree has what a tree has, or a directory where nothing was. -/
def Spared (tree later : FileTree) (place : List String) : Prop :=
  later.at? place = tree.at? place ∨ tree.at? place = none ∧ later.at? place = some .directory

theorem keeps_trans (first : KeepsDirectories tree middle)
    (second : KeepsDirectories middle later) : KeepsDirectories tree later :=
  fun place held => second place (first place held)

theorem spared_trans (first : Spared tree middle place) (second : Spared middle later place) :
    Spared tree later place := by
  rcases first with same | ⟨vacant, held⟩
  · rwa [Spared, ← same]
  · rcases second with still | ⟨absent, -⟩
    · exact .inr ⟨vacant, still.trans held⟩
    · cases held.symm.trans absent

theorem entry_of_spared (spared : Spared tree later place) (held : tree.at? place = some entry) :
    later.at? place = some entry := by
  rcases spared with same | ⟨vacant, -⟩
  · exact same.trans held
  · cases held.symm.trans vacant

theorem keeps_of_spared (spared : ∀ place, Spared tree later place) :
    KeepsDirectories tree later :=
  fun place held => entry_of_spared (spared place) held

theorem inside_of_vacant (vacant : tree.at? place ≠ some .directory) : place ≠ [] :=
  fun top => vacant (by rw [top]; rfl)

theorem keeps_set (vacant : tree.at? place ≠ some .directory) (entry : Entry) :
    KeepsDirectories tree (tree.set place entry) := by
  intro other held
  have apart : other ≠ place := fun same => vacant (same ▸ held)
  rw [at?_set tree (inside_of_vacant vacant), if_neg apart, held]

/-! ## Paths in a tree that has grown -/

theorem enter_iff : tree.enter place = .ok () ↔ tree.at? place = some .directory := by
  rw [enter]
  split <;> simp_all

theorem bind_ok_iff {first : Except ε α} {rest : α → Except ε β} :
    (first >>= rest) = .ok result ↔ ∃ value, first = .ok value ∧ rest value = .ok result := by
  cases first with
  | error obstacle => exact ⟨nofun, nofun⟩
  | ok value => simp [bind, Except.bind]

/-- What a step needs and where it leads. -/
theorem step_iff : tree.step start part = .ok next ↔
    tree.at? start = some .directory ∧
      if Disk.isVoid part then next = start
      else if Disk.leadsOut part then start ≠ [] ∧ next = start.dropLast
      else child start part = .ok next := by
  rw [FileTree.step, bind_ok_iff, ← enter_iff]
  refine Iff.trans ⟨fun ⟨_, entered, done⟩ => ⟨entered, done⟩, fun ⟨entered, done⟩ =>
    ⟨(), entered, done⟩⟩ (and_congr_right fun _ => ?_)
  split_ifs with void out top
  · exact ⟨fun done => by cases done; rfl, fun same => by rw [same]; rfl⟩
  · exact ⟨nofun, fun inside => absurd top inside.1⟩
  · exact ⟨fun done => by cases done; exact ⟨top, rfl⟩, fun up => by rw [up.2]; rfl⟩
  · rfl

theorem resolve_iff : tree.resolve path = .ok place ↔
    path ≠ "" ∧ Disk.isUsable path = true ∧ tree.walk (Disk.parts path) = .ok place := by
  rw [resolve]
  split_ifs with empty usable
  · simp [empty]
  · simp [empty, usable]
  · simp [usable]

theorem find_iff : tree.find? path = some entry ↔
    ∃ place, tree.resolve path = .ok place ∧ tree.at? place = some entry := by
  rw [find?]
  cases tree.resolve path with
  | error obstacle => simp
  | ok place => simp

theorem directory_iff : tree.hasDirectory path = true ↔
    ∃ place, tree.resolve path = .ok place ∧ tree.at? place = some .directory := by
  rw [← find_iff, hasDirectory]
  split <;> simp_all

theorem read_file_iff : tree.readFile? path = some content ↔
    ∃ place, tree.resolve path = .ok place ∧ tree.at? place = some (.file content) := by
  rw [← find_iff, readFile?]
  split <;> simp_all

/-- A file can be written where no directory stands. -/
theorem write_file_iff : tree.writeFile? path content = some written ↔
    ∃ place, tree.resolve path = .ok place ∧ tree.at? place ≠ some .directory ∧
      tree.set place (.file content) = written := by
  rw [writeFile?]
  cases tree.resolve path with
  | error obstacle => simp
  | ok place =>
    simp only [Except.ok.injEq, exists_eq_left']
    split <;> simp_all

section Grown
variable (kept : KeepsDirectories tree later)
include kept

theorem step_grown (stepped : tree.step start part = .ok next) :
    later.step start part = .ok next := by
  obtain ⟨held, leads⟩ := step_iff.mp stepped
  exact step_iff.mpr ⟨kept start held, leads⟩

theorem walk_grown (parts : List (List Char)) (walked : parts.foldlM tree.step start = .ok last) :
    parts.foldlM later.step start = .ok last := by
  induction parts generalizing start with
  | nil => exact walked
  | cons part rest ih =>
    rw [List.foldlM_cons] at walked ⊢
    obtain ⟨next, stepped, onward⟩ := bind_ok_iff.mp walked
    exact bind_ok_iff.mpr ⟨next, step_grown kept stepped, ih onward⟩

theorem resolve_grown (resolved : tree.resolve path = .ok place) :
    later.resolve path = .ok place := by
  obtain ⟨given, usable, walked⟩ := resolve_iff.mp resolved
  exact resolve_iff.mpr ⟨given, usable, walk_grown kept _ walked⟩

theorem directory_grown (there : tree.hasDirectory path = true) :
    later.hasDirectory path = true := by
  obtain ⟨place, resolved, held⟩ := directory_iff.mp there
  exact directory_iff.mpr ⟨place, resolve_grown kept resolved, kept place held⟩

end Grown

/-! ## Slashes at the end -/

/-- A walk over two lists of parts goes on from where the first ends. -/
theorem walk_append_iff (first second : List (List Char)) :
    (first ++ second).foldlM tree.step start = .ok last ↔
      ∃ between, first.foldlM tree.step start = .ok between ∧
        second.foldlM tree.step between = .ok last := by
  rw [List.foldlM_append, bind_ok_iff]

theorem step_empty : tree.step place [] = .ok next ↔
    tree.at? place = some .directory ∧ next = place := step_iff

/-- Slashes at the end of a path lead nowhere else. -/
theorem walk_slashes (slashes : List (List Char)) (empty : ∀ part ∈ slashes, part = [])
    (walked : slashes.foldlM tree.step start = .ok last) : last = start := by
  induction slashes with
  | nil =>
    cases walked
    rfl
  | cons part rest ih =>
    rw [List.forall_mem_cons] at empty
    rw [List.foldlM_cons, empty.1] at walked
    obtain ⟨next, stepped, onward⟩ := bind_ok_iff.mp walked
    rw [(step_empty.mp stepped).2] at onward
    exact ih empty.2 onward

theorem walk_slashes_there (slashes : List (List Char)) (empty : ∀ part ∈ slashes, part = [])
    (held : tree.at? place = some .directory) :
    slashes.foldlM tree.step place = .ok place := by
  induction slashes with
  | nil => rfl
  | cons part rest ih =>
    rw [List.forall_mem_cons] at empty
    rw [List.foldlM_cons, empty.1]
    exact bind_ok_iff.mpr ⟨place, step_empty.mpr ⟨held, rfl⟩, ih empty.2⟩

theorem parts_slash_end (parts : List (List Char)) :
    ∃ slashes, parts = Disk.dropSlashEnd parts ++ slashes ∧ ∀ part ∈ slashes, part = [] := by
  refine ⟨(parts.reverse.takeWhile List.isEmpty).reverse, ?_, fun part held => ?_⟩
  · rw [Disk.dropSlashEnd, ← List.reverse_append, List.takeWhile_append_dropWhile,
      List.reverse_reverse]
  · exact List.isEmpty_iff.mp (List.mem_takeWhile_imp (List.mem_reverse.mp held))

/-- A path that can be followed from the top does not consist of slashes. -/
theorem parts_named (given : path ≠ "") (usable : Disk.isUsable path = true) :
    Disk.dropSlashEnd (Disk.parts path) ≠ [] := by
  have nonempty : path.toList ≠ [] := by simpa using given
  obtain ⟨c, rest, text⟩ := List.exists_cons_of_ne_nil nonempty
  have inner : c ≠ '/' := by
    rintro rfl
    simp [Disk.isUsable, text] at usable
  obtain ⟨piece, more, after⟩ :=
    List.exists_cons_of_ne_nil (Text.pieces_ne_nil (fun c => c = '/') rest)
  have parts : Disk.parts path = (c :: piece) :: more := by
    simp [Disk.parts, text, Text.pieces, after, inner]
  intro none
  rw [Disk.dropSlashEnd, List.reverse_eq_nil_iff, List.dropWhile_eq_nil_iff, parts] at none
  simpa using none (c :: piece) (by simp)

/-! ## Making directories -/

theorem add_directory_eq (tree : FileTree) {before : List (List Char)} {name : List Char}
    (usable : Disk.isUsable path = true)
    (shape : Disk.dropSlashEnd (Disk.parts path) = before ++ [name]) :
    tree.addDirectory path = (do
      let outer ← tree.walk before
      tree.enter outer
      if Disk.isVoid name || Disk.leadsOut name then .error .present
      else
        let place ← child outer name
        match tree.at? place with
        | some _ => .error .present
        | none => return tree.set place .directory) := by
  have reversed : (Disk.dropSlashEnd (Disk.parts path)).reverse = name :: before.reverse := by
    rw [shape, List.reverse_append, List.reverse_singleton, List.singleton_append]
  unfold addDirectory
  rw [usable, reversed]
  simp only [List.reverse_reverse]
  rfl

/-- What making a directory needs, and where it is put. -/
theorem add_directory_ok (added : tree.addDirectory path = .ok made) :
    path ≠ "" ∧ Disk.isUsable path = true ∧ ∃ before name outer place,
      Disk.dropSlashEnd (Disk.parts path) = before ++ [name] ∧ tree.walk before = .ok outer ∧
        tree.step outer name = .ok place ∧ tree.at? place = none ∧
          made = tree.set place .directory := by
  have usable : Disk.isUsable path = true := by
    rw [addDirectory] at added
    cases usable : Disk.isUsable path with
    | true => rfl
    | false =>
      rw [usable] at added
      cases added
  have given : path ≠ "" := by
    rintro rfl
    cases added
  obtain ⟨before, name, shape⟩ :=
    (List.eq_nil_or_concat' _).resolve_left (parts_named given usable)
  rw [add_directory_eq tree usable shape] at added
  obtain ⟨outer, walked, added⟩ := bind_ok_iff.mp added
  obtain ⟨⟨⟩, entered, added⟩ := bind_ok_iff.mp added
  split at added
  · cases added
  · next naming =>
    rw [Bool.or_eq_true, not_or] at naming
    obtain ⟨place, child, added⟩ := bind_ok_iff.mp added
    split at added
    · cases added
    · next vacant =>
      cases added
      have stepped : tree.step outer name = .ok place :=
        step_iff.mpr ⟨enter_iff.mp entered, by simpa [naming.1, naming.2] using child⟩
      exact ⟨given, usable, before, name, outer, place, shape, walked, stepped, vacant, rfl⟩

/-- A directory that is made is new, and the path leads to it. -/
theorem of_add_directory (added : tree.addDirectory path = .ok made) :
    made.hasDirectory path = true ∧ ∀ place, Spared tree made place := by
  obtain ⟨given, usable, before, name, outer, place, shape, walked, stepped, vacant, rfl⟩ :=
    add_directory_ok added
  have free : tree.at? place ≠ some .directory := by simp [vacant]
  have inside := inside_of_vacant free
  have kept := keeps_set free .directory
  have held : (tree.set place .directory).at? place = some .directory := by
    rw [at?_set tree inside, if_pos rfl]
  constructor
  · obtain ⟨slashes, parts, empty⟩ := parts_slash_end (Disk.parts path)
    have there : (tree.set place .directory).walk (Disk.parts path) = .ok place := by
      rw [parts, shape, FileTree.walk, walk_append_iff]
      refine ⟨place, (walk_append_iff _ _).mpr ⟨outer, walk_grown kept _ walked, ?_⟩,
        walk_slashes_there slashes empty held⟩
      exact bind_ok_iff.mpr ⟨place, step_grown kept stepped, rfl⟩
    exact directory_iff.mpr ⟨place, resolve_iff.mpr ⟨given, usable, there⟩, held⟩
  · intro other
    by_cases same : other = place
    · rw [same]
      exact .inr ⟨vacant, held⟩
    · exact .inl (by rw [at?_set tree inside, if_neg same])

/-- A directory that is there stands in its own way. -/
theorem add_directory_there (there : tree.hasDirectory path = true) :
    tree.addDirectory path = .error .present := by
  obtain ⟨place, resolved, held⟩ := directory_iff.mp there
  obtain ⟨given, usable, walked⟩ := resolve_iff.mp resolved
  obtain ⟨before, name, shape⟩ :=
    (List.eq_nil_or_concat' _).resolve_left (parts_named given usable)
  obtain ⟨slashes, parts, empty⟩ := parts_slash_end (Disk.parts path)
  rw [parts, shape, FileTree.walk, walk_append_iff] at walked
  obtain ⟨inner, named, ended⟩ := walked
  obtain ⟨outer, walked, stepped⟩ := (walk_append_iff _ _).mp named
  obtain ⟨next, stepped, same⟩ := bind_ok_iff.mp stepped
  cases same
  have here := walk_slashes slashes empty ended
  obtain ⟨around, leads⟩ := step_iff.mp stepped
  have entered : tree.enter outer = .ok () := enter_iff.mpr around
  rw [add_directory_eq tree usable shape, FileTree.walk, walked]
  simp only [bind, Except.bind, entered]
  split
  · rfl
  · next naming =>
    rw [Bool.or_eq_true, not_or] at naming
    have named : child outer name = .ok inner := by simpa [naming.1, naming.2] using leads
    rw [here] at held
    simp only [named, held]

/-- The tree with a directory that is made, or the tree itself where it is there. -/
def Provided (tree made : FileTree) (path : String) : Prop :=
  tree.addDirectory path = .ok made ∨ tree.hasDirectory path = true ∧ made = tree

theorem of_provided (provided : Provided tree made path) :
    made.hasDirectory path = true ∧ ∀ place, Spared tree made place := by
  rcases provided with added | ⟨there, rfl⟩
  · exact of_add_directory added
  · exact ⟨there, fun _ => .inl rfl⟩

/-- The last directory is provided at once, or after those around it. -/
theorem add_directories_cons (done : tree.addDirectories (path :: outer) = (true, made)) :
    Provided tree made path ∨
      ∃ middle, tree.addDirectories outer = (true, middle) ∧ Provided middle made path := by
  rw [addDirectories] at done
  cases added : tree.addDirectory path with
  | ok new =>
    simp only [added] at done
    cases done
    exact .inl (.inl added)
  | error obstacle =>
    cases obstacle with
    | present =>
      simp only [added, Prod.mk.injEq] at done
      exact .inl (.inr ⟨done.1, done.2.symm⟩)
    | barred =>
      simp only [added] at done
      cases done
    | missing =>
      -- Those around come first; then the last one is tried once more.
      cases around : tree.addDirectories outer with
      | mk succeeded middle =>
        simp only [added, around] at done
        cases succeeded with
        | false => cases done
        | true =>
          refine .inr ⟨middle, rfl, ?_⟩
          cases again : middle.addDirectory path with
          | ok new =>
            simp only [again] at done
            cases done
            exact .inl again
          | error =>
            simp only [again, Prod.mk.injEq] at done
            exact .inr ⟨done.1, done.2.symm⟩

/-- Directories are made from the outermost on; where the last is there in the end, that
is all that has changed. -/
theorem of_add_directories (paths : List String)
    (done : tree.addDirectories paths = (true, made)) :
    (∀ path ∈ paths.head?, made.hasDirectory path = true) ∧ ∀ place, Spared tree made place := by
  induction paths generalizing made with
  | nil =>
    cases done
    exact ⟨nofun, fun _ => .inl rfl⟩
  | cons path outer ih =>
    simp only [List.head?_cons, Option.mem_some_iff, forall_eq']
    rcases add_directories_cons done with provided | ⟨middle, around, provided⟩
    · exact of_provided provided
    · obtain ⟨there, inside⟩ := of_provided provided
      exact ⟨there, fun place => spared_trans ((ih around).2 place) (inside place)⟩

/-- What is reported as made is there, and nothing else has changed but for directories
that are new. -/
theorem of_make_directories (done : tree.makeDirectories path = (true, made)) :
    (path ≠ "" → made.hasDirectory path = true) ∧ ∀ place, Spared tree made place := by
  rw [makeDirectories] at done
  split at done
  · next empty =>
    cases done
    exact ⟨fun given => absurd empty given, fun _ => .inl rfl⟩
  · obtain ⟨there, spared⟩ := of_add_directories _ done
    exact ⟨fun _ => there path rfl, spared⟩

theorem make_directories_there (there : tree.hasDirectory path = true) :
    tree.makeDirectories path = (true, tree) := by
  rw [makeDirectories]
  split
  · rfl
  · rw [addDirectories, add_directory_there there]
    simp only [there]

end Botwright.TreeGrowth
