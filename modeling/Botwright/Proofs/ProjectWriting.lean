import Botwright.Proofs.SecretIndependence
import Botwright.Proofs.SettingsListing
import Botwright.Proofs.SpecStorage

/-! A compilation changes what its project says and nothing else. Where it succeeds, each
file of the project has its content, every other place has what it had or is a new
directory, and a second compilation finds everything as it would write it. An invalid
specification is refused before anything is made. -/
namespace Botwright.ProjectWriting
open FileTree TreeGrowth SpecStorage Project Environment
variable {tree later made written after : FileTree} {place : List String}

/-! ## One file -/

/-- A file is there with its text, and so is the directory around it. -/
structure Settled (tree : FileTree) (path text : String) : Prop where
  around : ∀ directory, Disk.parent? path = some directory → directory ≠ "" →
    tree.hasDirectory directory = true
  content : ∃ place, tree.resolve path = .ok place ∧ tree.at? place = some (.file text.toUTF8)

theorem read_settled (settled : Settled tree path text) :
    tree.readFile? path = some text.toUTF8 :=
  read_file_iff.mpr settled.content

theorem settled_later (settled : Settled tree path text) (kept : KeepsDirectories tree later)
    (spared : ∀ place, tree.resolve path = .ok place → Spared tree later place) :
    Settled later path text := by
  obtain ⟨place, resolved, held⟩ := settled.content
  refine ⟨fun directory parent given => ?_, place, resolve_grown kept resolved,
    entry_of_spared (spared place resolved) held⟩
  exact directory_grown kept (settled.around directory parent given)

theorem of_around (around : around? tree path = some made) :
    (∀ directory, Disk.parent? path = some directory → directory ≠ "" →
      made.hasDirectory directory = true) ∧ ∀ place, Spared tree made place := by
  rw [around?] at around
  cases parent : Disk.parent? path with
  | none =>
    rw [parent] at around
    cases around
    exact ⟨fun _ missing => absurd missing (by simp), fun _ => .inl rfl⟩
  | some directory =>
    simp only [parent] at around
    split at around
    · next empty =>
      cases around
      refine ⟨fun other same given => ?_, fun _ => .inl rfl⟩
      cases same
      exact absurd empty given
    · split at around
      · next done =>
        cases around
        obtain ⟨there, spared⟩ := of_make_directories done
        refine ⟨fun other same given => ?_, spared⟩
        cases same
        exact there given
      · cases around

/-- What a write leaves: the file, and every place but that of the file as it was, but for
new directories. -/
theorem of_write_deep (done : (writeDeep path text : Action Unit).run tree = (.ok (), written)) :
    Settled written path text ∧ KeepsDirectories tree written ∧
      ∀ place, written.resolve path ≠ .ok place → Spared tree written place := by
  obtain ⟨made, around, wrote⟩ := write_deep_iff.mp done
  obtain ⟨there, spared⟩ := of_around around
  obtain ⟨place, resolved, vacant, same⟩ := write_file_iff.mp wrote
  have kept : KeepsDirectories made written := same ▸ keeps_set vacant _
  have resolved := resolve_grown kept resolved
  have inside := inside_of_vacant vacant
  refine ⟨⟨fun directory parent given => directory_grown kept (there directory parent given),
    place, resolved, ?_⟩, keeps_trans (keeps_of_spared spared) kept, fun other apart => ?_⟩
  · rw [← same, at?_set made inside, if_pos rfl]
  · have different : other ≠ place := fun same => apart (same ▸ resolved)
    refine spared_trans (spared other) (.inl ?_)
    rw [← same, at?_set made inside, if_neg different]

theorem put_held [BEq α] [LawfulBEq α] {key : α} {entries : List (α × β)}
    (held : entries.lookup key = some value) : Assoc.put key value entries = entries := by
  induction entries with
  | nil => cases held
  | cons first rest ih =>
    obtain ⟨k, v⟩ := first
    by_cases same : k = key
    · subst same
      simp_all [Assoc.put]
    · have apart : (key == k) = false := by simpa using Ne.symm same
      rw [List.lookup_cons, apart] at held
      simp [Assoc.put, same, ih held]

/-- A file that is there can be written again, and nothing changes. -/
theorem write_settled (settled : Settled tree path text) :
    (writeDeep path text : Action Unit).run tree = (.ok (), tree) := by
  obtain ⟨place, resolved, held⟩ := settled.content
  have around : around? tree path = some tree := by
    rw [around?]
    cases parent : Disk.parent? path with
    | none => rfl
    | some directory =>
      dsimp only
      split
      · rfl
      · next given =>
        rw [make_directories_there (settled.around directory parent given)]
  have vacant : tree.at? place ≠ some .directory := by simp [held]
  have same : tree.set place (.file text.toUTF8) = tree := by
    have listed : tree.entries.lookup place = some (.file text.toUTF8) := by
      cases place with
      | nil => exact absurd rfl (inside_of_vacant vacant)
      | cons name names => exact held
    rw [FileTree.set, put_held listed]
  exact write_deep_iff.mpr ⟨tree, around, write_file_iff.mpr ⟨_, resolved, vacant, same⟩⟩

/-! ## Several files -/

/-- Two paths lead to one place in no tree. -/
def Apart (path other : String) : Prop :=
  ∀ (tree : FileTree) place, tree.resolve path = .ok place → tree.resolve other ≠ .ok place

/-- Files whose paths never meet are all there after they have been written in turn, and
no other place has changed but for new directories. -/
theorem of_write_all (target : File → String) (files : List File)
    (apart : files.Pairwise fun first second => Apart (target first) (target second))
    (done : (files.forM fun file => writeDeep (target file) file.content : Action Unit).run tree =
      (.ok (), after)) :
    (∀ file ∈ files, Settled after (target file) file.content) ∧ KeepsDirectories tree after ∧
      ∀ place, (∀ file ∈ files, after.resolve (target file) ≠ .ok place) →
        Spared tree after place := by
  induction files generalizing tree with
  | nil =>
    cases done
    exact ⟨nofun, fun _ held => held, fun _ _ => .inl rfl⟩
  | cons file rest ih =>
    rw [List.pairwise_cons] at apart
    rw [List.forM] at done
    obtain ⟨⟨⟩, written, first, others⟩ := run_of_then done
    obtain ⟨settled, kept, spared⟩ := of_write_deep first
    obtain ⟨restSettled, restKept, restSpared⟩ := ih apart.2 others
    refine ⟨List.forall_mem_cons.mpr ⟨?_, restSettled⟩, keeps_trans kept restKept,
      fun place free => ?_⟩
    · -- A later write could only undo this one at the same place, and the paths never meet.
      refine settled_later settled restKept fun place resolved => ?_
      exact restSpared place fun other listed =>
        apart.1 other listed after place (resolve_grown restKept resolved)
    · rw [List.forall_mem_cons] at free
      have before : written.resolve (target file) ≠ .ok place :=
        fun resolved => free.1 (resolve_grown restKept resolved)
      exact spared_trans (spared place before) (restSpared place free.2)

theorem write_all_settled (target : File → String) (files : List File)
    (settled : ∀ file ∈ files, Settled tree (target file) file.content) :
    (files.forM fun file => writeDeep (target file) file.content : Action Unit).run tree =
      (.ok (), tree) := by
  induction files with
  | nil => rfl
  | cons file rest ih =>
    rw [List.forall_mem_cons] at settled
    rw [List.forM, run_then _ (write_settled settled.1)]
    exact ih settled.2

/-! ## The paths of a project -/

/-- The parts of a path in a directory come after those of the directory. -/
theorem parts_join (directory : String) :
    ∃ outer, ∀ path, Disk.parts (Disk.join directory path) = outer ++ Disk.parts path := by
  have slash (front : List Char) (path : String) :
      Text.pieces (· = '/') (front ++ '/' :: path.toList) =
        Text.pieces (· = '/') front ++ Disk.parts path :=
    Text.pieces_append_cons (decide_eq_true rfl) front path.toList
  unfold Disk.join
  split_ifs with empty ended
  · exact ⟨[], fun path => rfl⟩
  · obtain ⟨front, text⟩ := List.getLast?_eq_some_iff.mp ended
    refine ⟨Text.pieces (· = '/') front, fun path => ?_⟩
    rw [Disk.parts, String.toList_append, text, List.append_assoc, List.singleton_append, slash]
  · refine ⟨Disk.parts directory, fun path => ?_⟩
    rw [Disk.parts, String.toList_append, String.toList_append, List.append_assoc]
    exact slash directory.toList path

/-- A path of names, each of which leads one place further in. -/
def Plain (path : String) : Prop :=
  ∀ part ∈ Disk.parts path, Disk.isVoid part = false ∧ Disk.leadsOut part = false

instance (path : String) : Decidable (Plain path) :=
  inferInstanceAs (Decidable (∀ part ∈ Disk.parts path,
    Disk.isVoid part = false ∧ Disk.leadsOut part = false))

theorem walk_plain {parts : List (List Char)} {start last : List String}
    (plain : ∀ part ∈ parts, Disk.isVoid part = false ∧ Disk.leadsOut part = false)
    (walked : parts.foldlM tree.step start = .ok last) :
    last = start ++ parts.map String.ofList := by
  induction parts generalizing start with
  | nil =>
    cases walked
    simp
  | cons part rest ih =>
    rw [List.forall_mem_cons] at plain
    rw [List.foldlM_cons] at walked
    obtain ⟨next, stepped, onward⟩ := bind_ok_iff.mp walked
    have leads := (step_iff.mp stepped).2
    rw [plain.1.1, plain.1.2, if_neg nofun, if_neg nofun, child] at leads
    split at leads
    · cases leads
      rw [ih plain.2 onward, List.map_cons, List.append_assoc, List.singleton_append]
    · cases leads

theorem apart_join (directory : String) (plain : Plain path) (others : Plain other)
    (different : path ≠ other) : Apart (Disk.join directory path) (Disk.join directory other) := by
  obtain ⟨outer, parts⟩ := parts_join directory
  intro tree place first second
  obtain ⟨-, -, first⟩ := resolve_iff.mp first
  obtain ⟨-, -, second⟩ := resolve_iff.mp second
  rw [parts, FileTree.walk, walk_append_iff] at first second
  obtain ⟨base, toBase, first⟩ := first
  obtain ⟨_, again, second⟩ := second
  cases toBase.symm.trans again
  have names := (walk_plain plain first).symm.trans (walk_plain others second)
  have same : Disk.parts path = Disk.parts other :=
    List.map_injective_iff.mpr (fun _ _ => String.ofList_inj.mp) (List.append_cancel_left names)
  have texts := congrArg (Text.join ['/']) same
  rw [Disk.parts, Disk.parts, Text.join_pieces, Text.join_pieces] at texts
  exact different (String.toList_inj.mp texts)

/-- Every path of a project is made of names. -/
theorem project_paths_plain (deployment : Deployment) :
    ∀ path ∈ SettingsListing.projectPaths deployment, Plain path := by
  cases deployment <;> decide

section Paths
variable (configuration : Configuration) (spec : Spec) (random : RandomBytes)

theorem project_paths : (configuration.generate spec random).files.map (·.path) =
    SettingsListing.projectPaths (configuration.deploymentOf spec) := by
  rw [Configuration.generate, SettingsListing.generated_files, SettingsListing.paths_of_files]

theorem file_plain (listed : file ∈ (configuration.generate spec random).files) :
    Plain file.path := by
  refine project_paths_plain (configuration.deploymentOf spec) file.path ?_
  rw [← project_paths configuration spec random]
  exact List.mem_map_of_mem listed

/-- No two files of a project are ever at one place. -/
theorem project_apart : (configuration.generate spec random).files.Pairwise fun first second =>
    Apart (Disk.join configuration.outDir first.path)
      (Disk.join configuration.outDir second.path) := by
  have distinct : ((configuration.generate spec random).files.map (·.path)).Nodup := by
    rw [Configuration.generate, SettingsListing.generated_files]
    exact SettingsListing.paths_distinct ..
  refine (List.pairwise_map.mp distinct).imp_of_mem fun {first second} here there different => ?_
  exact apart_join _ (file_plain configuration spec random here)
    (file_plain configuration spec random there) different

/-- A file that is not of the project is at a place to which no path of the project leads. -/
theorem beside_project (other : String) (plain : Plain other)
    (foreign : other ∉ SettingsListing.projectPaths (configuration.deploymentOf spec))
    (resolved : tree.resolve (Disk.join configuration.outDir other) = .ok place) :
    ∀ file ∈ (configuration.generate spec random).files,
      tree.resolve (Disk.join configuration.outDir file.path) ≠ .ok place := by
  intro file listed
  have different : other ≠ file.path := by
    rintro rfl
    rw [← project_paths configuration spec random] at foreign
    exact foreign (List.mem_map_of_mem listed)
  exact apart_join _ plain (file_plain configuration spec random listed) different tree place
    resolved

end Paths

/-! ## Compilations -/

theorem write_project_iff {files : List File} :
    (writeProject outDir files : Action Unit).run tree = (.ok (), after) ↔
      ∃ made, tree.makeDirectories outDir = (true, made) ∧
        (files.forM fun file => writeDeep (Disk.join outDir file.path) file.content :
          Action Unit).run made = (.ok (), after) := by
  rw [writeProject]
  constructor
  · intro done
    obtain ⟨⟨⟩, made, directories, writes⟩ := run_of_then done
    exact ⟨made, make_directories_iff.mp directories, writes⟩
  · rintro ⟨made, directories, writes⟩
    exact (run_then _ (make_directories_iff.mpr directories)).trans writes

/-- What validation has to say before a compilation writes anything. -/
def verdict (configuration : Configuration) (spec : Spec) : Except Problem (List Warning) :=
  if configuration.skipValidation then .ok [] else spec.validate

theorem compile_eq (configuration : Configuration) (spec : Spec) (random : RandomBytes) :
    (compile configuration spec random : Action Compiled) = (do
      let warnings ← ExceptT.mk (pure (verdict configuration spec))
      writeProject configuration.outDir (configuration.generate spec random).files
      return ⟨configuration.deploymentOf spec, spec.commands.length, warnings,
        configuration.generate spec random⟩) := by
  rw [compile, verdict]
  cases configuration.skipValidation <;> rfl

/-- What is refused is refused before anything is made. -/
theorem compile_refused (random : RandomBytes)
    (refused : verdict configuration spec = .error problem) :
    (compile configuration spec random : Action Compiled).run tree = (.error problem, tree) := by
  rw [compile_eq, refused]
  rfl

theorem compile_iff (random : RandomBytes) :
    (compile configuration spec random : Action Compiled).run tree = (.ok compiled, after) ↔
      ∃ warnings, verdict configuration spec = .ok warnings ∧
        (writeProject configuration.outDir (configuration.generate spec random).files :
          Action Unit).run tree = (.ok (), after) ∧
        compiled = ⟨configuration.deploymentOf spec, spec.commands.length, warnings,
          configuration.generate spec random⟩ := by
  cases judged : verdict configuration spec with
  | error problem =>
    rw [compile_refused random judged]
    exact ⟨nofun, nofun⟩
  | ok warnings =>
    rw [compile_eq, judged]
    constructor
    · intro done
      obtain ⟨found, middle, passed, rest⟩ := run_of_then done
      cases passed
      obtain ⟨⟨⟩, written, writes, last⟩ := run_of_then rest
      cases last
      exact ⟨warnings, rfl, writes, rfl⟩
    · rintro ⟨_, same, writes, rfl⟩
      cases same
      exact run_then _ writes

/-- A project that has been written: its directory and its files are there. -/
structure Written (tree : FileTree) (outDir : String) (files : List File) : Prop where
  directory : outDir ≠ "" → tree.hasDirectory outDir = true
  files : ∀ file ∈ files, Settled tree (Disk.join outDir file.path) file.content

theorem of_write_project {files : List File}
    (apart : files.Pairwise fun first second =>
      Apart (Disk.join outDir first.path) (Disk.join outDir second.path))
    (done : (writeProject outDir files : Action Unit).run tree = (.ok (), after)) :
    Written after outDir files ∧ KeepsDirectories tree after ∧
      ∀ place, (∀ file ∈ files, after.resolve (Disk.join outDir file.path) ≠ .ok place) →
        Spared tree after place := by
  obtain ⟨made, directories, writes⟩ := write_project_iff.mp done
  obtain ⟨there, outside⟩ := of_make_directories directories
  obtain ⟨settled, kept, spared⟩ := of_write_all (Disk.join outDir ·.path) files apart writes
  exact ⟨⟨fun given => directory_grown kept (there given), settled⟩,
    keeps_trans (keeps_of_spared outside) kept,
    fun place free => spared_trans (outside place) (spared place free)⟩

theorem write_project_written {files : List File} (written : Written tree outDir files) :
    (writeProject outDir files : Action Unit).run tree = (.ok (), tree) := by
  have directories : tree.makeDirectories outDir = (true, tree) := by
    by_cases given : outDir = ""
    · rw [given]
      rfl
    · exact make_directories_there (written.directory given)
  exact write_project_iff.mpr ⟨tree, directories, write_all_settled _ files written.files⟩

/-- Random bytes reach no file of a project. -/
theorem files_without_random (configuration : Configuration) (spec : Spec)
    (random other : RandomBytes) :
    (configuration.generate spec other).files = (configuration.generate spec random).files :=
  (SecretIndependence.secrets_stay_in_their_rows configuration spec spec other random rfl).1.files

/-- A specification that validation refuses leaves the tree as it is. Where a compilation
succeeds, each file of the project has its content; every directory is still one; at every
place to which no path of the project leads is what was there before, or a directory where
nothing was; and another compilation of the specification, on any random bytes, succeeds
and changes nothing. -/
theorem compile_writes_project (configuration : Configuration) (spec : Spec)
    (random : RandomBytes) (tree : FileTree) :
    (∀ problem, configuration.skipValidation = false → spec.validate = .error problem →
      (compile configuration spec random : Action Compiled).run tree = (.error problem, tree)) ∧
    ∀ compiled after,
      (compile configuration spec random : Action Compiled).run tree = (.ok compiled, after) →
        compiled.project = configuration.generate spec random ∧
        (∀ file ∈ compiled.project.files,
          after.readFile? (Disk.join configuration.outDir file.path) =
            some file.content.toUTF8) ∧
        KeepsDirectories tree after ∧
        (∀ place, (∀ file ∈ compiled.project.files,
            after.resolve (Disk.join configuration.outDir file.path) ≠ .ok place) →
          Spared tree after place) ∧
        ∀ other, (compile configuration spec other : Action Compiled).run after =
          (.ok { compiled with project := configuration.generate spec other }, after) := by
  refine ⟨fun problem checked refused => ?_, fun compiled after done => ?_⟩
  · refine compile_refused random ?_
    rw [verdict, checked, refused]
    rfl
  · obtain ⟨warnings, passed, writes, rfl⟩ := (compile_iff random).mp done
    obtain ⟨written, kept, spared⟩ :=
      of_write_project (project_apart configuration spec random) writes
    refine ⟨rfl, fun file listed => read_settled (written.files file listed), kept, spared,
      fun other => (compile_iff other).mpr ⟨warnings, passed, ?_, rfl⟩⟩
    -- Random bytes reach no file, so the second compilation writes what is there.
    rw [files_without_random configuration spec random other]
    exact write_project_written written

/-- A directory with an old file of a project and a file that is of none. -/
def usedTree : FileTree :=
  ⟨[(["bot"], .directory), (["bot", "index.js"], .file "old".toUTF8),
    (["bot", "notes"], .file "own".toUTF8)]⟩

def usedConfiguration : Configuration := { Configuration.initial with outDir := "./bot/" }

def usedSpec : Spec := SettingsListing.askingSample "API_KEY" "API_URL"

theorem used_tree_written :
    ∃ compiled after,
      (compile usedConfiguration usedSpec fun _ => 0 : Action Compiled).run usedTree =
        (.ok compiled, after) ∧
      after.readFile? "./bot/index.js" =
        some (gatewayEntry (Reply.Messages.of .japanese).requestFailed).toUTF8 ∧
      after.at? ["bot", "notes"] = some (.file "own".toUTF8) ∧
      ∀ other, ∃ again, (compile usedConfiguration usedSpec other : Action Compiled).run after =
        (.ok again, after) := by
  have succeeds : ((compile usedConfiguration usedSpec fun _ => 0 : Action Compiled).run
      usedTree).1.isOk = true := by decide +kernel
  cases ran : (compile usedConfiguration usedSpec fun _ => 0 : Action Compiled).run usedTree with
  | mk outcome after =>
    cases outcome with
    | error problem =>
      rw [ran] at succeeds
      cases succeeds
    | ok compiled =>
      obtain ⟨project, files, kept, spared, again⟩ :=
        (compile_writes_project usedConfiguration usedSpec (fun _ => 0) usedTree).2 compiled
          after ran
      rw [project] at files spared
      refine ⟨compiled, after, rfl, files ⟨gatewayEntryPath, _⟩ List.mem_cons_self, ?_,
        fun other => ⟨_, again other⟩⟩
      have here : after.resolve "./bot/notes" = .ok ["bot", "notes"] := resolve_grown kept rfl
      have away := beside_project usedConfiguration usedSpec (fun _ => 0) "notes"
        (by decide) (by decide) here
      exact entry_of_spared (spared _ away) rfl

end Botwright.ProjectWriting
