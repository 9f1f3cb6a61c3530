import Botwright.Compile
import Botwright.Disk.FileTree
import Botwright.Proofs.SpecReading
import Botwright.Proofs.TreeGrowth

/-! A specification that is saved in a tree of files is there afterwards: the path
leads to the place it led to before, the file there has the text that was written,
and the text is read as the specification. -/
namespace Botwright.SpecStorage
open FileTree SpecReading TreeGrowth

/-! ## Files of a tree -/

section Places
variable {tree : FileTree} {place : List String}

/-- What is written at the end of a path is read from there. -/
theorem read_set (vacant : tree.at? place ≠ some .directory) (content : ByteArray)
    (resolved : tree.resolve path = .ok place) :
    (tree.set place (.file content)).readFile? path = some content := by
  have kept := keeps_set vacant (.file content)
  refine read_file_iff.mpr ⟨place, resolve_grown kept resolved, ?_⟩
  rw [at?_set tree (inside_of_vacant vacant), if_pos rfl]

end Places

/-- The tree with the directories around a path, if they can be there. -/
def around? (tree : FileTree) (path : String) : Option FileTree :=
  match Disk.parent? path with
  | none => some tree
  | some directory =>
    if directory = "" then some tree
    else
      match tree.makeDirectories directory with
      | (true, made) => some made
      | (false, _) => none

/-- Whether there can be a file at a path: with the directories around it, the path
leads to a place that is not a directory. -/
def HasRoom (tree : FileTree) (path : String) : Prop :=
  ∃ made place, around? tree path = some made ∧ made.resolve path = .ok place ∧
    made.at? place ≠ some .directory

theorem text_of_bytes (text : String) : String.fromUTF8? text.toUTF8 = some text := by
  rw [String.fromUTF8?, String.toUTF8_eq_toByteArray, dif_pos text.isValidUTF8]
  rfl

/-! ## Runs on a tree -/

/-- What fails or succeeds while it changes a tree of files. -/
abbrev Action := ExceptT Problem (StateM FileTree)

theorem run_step (step : StateM FileTree α) (next : α → Action β) (tree : FileTree) :
    (liftM step >>= next : Action β).run tree = (next (step tree).1).run (step tree).2 :=
  rfl

theorem run_then {first : Action α} {result : α} (next : α → Action β)
    (done : first.run tree = (.ok result, after)) :
    (first >>= next).run tree = (next result).run after := by
  simp only [ExceptT.run] at done
  simp only [bind, ExceptT.bind, ExceptT.run, ExceptT.mk, StateT.bind, done]
  rfl

/-- An action that succeeds has got past its first part. -/
theorem run_of_then {first : Action α} {next : α → Action β}
    (done : (first >>= next).run tree = (.ok result, after)) :
    ∃ value middle, first.run tree = (.ok value, middle) ∧
      (next value).run middle = (.ok result, after) := by
  cases ran : first.run tree with
  | mk outcome middle =>
    cases outcome with
    | ok value => exact ⟨value, middle, rfl, (run_then next ran).symm.trans done⟩
    | error problem =>
      simp only [ExceptT.run] at ran
      simp only [bind, ExceptT.bind, ExceptT.run, ExceptT.mk, StateT.bind, ran] at done
      cases done

theorem make_directories_iff {made : FileTree} :
    (makeDirectories directory : Action Unit).run tree = (.ok (), made) ↔
      tree.makeDirectories directory = (true, made) := by
  rw [makeDirectories, run_step]
  cases ran : tree.makeDirectories directory with
  | mk succeeded rest =>
    simp only [Disk.makeDirectories, ran]
    cases succeeded with
    | true => exact ⟨fun done => by cases done; rfl, fun done => by cases done; rfl⟩
    | false => exact ⟨nofun, nofun⟩

theorem write_text_iff : (writeText path text : Action Unit).run tree = (.ok (), written) ↔
    tree.writeFile? path text.toUTF8 = some written := by
  rw [writeText, run_step]
  cases ran : tree.writeFile? path text.toUTF8 with
  | some after =>
    simp only [Disk.write, ran]
    exact ⟨fun done => by cases done; rfl, fun done => by cases done; rfl⟩
  | none =>
    simp only [Disk.write, ran]
    exact ⟨nofun, nofun⟩

/-- A text is written after the directories around it. -/
theorem write_deep_iff : (writeDeep path text : Action Unit).run tree = (.ok (), written) ↔
    ∃ made, around? tree path = some made ∧ made.writeFile? path text.toUTF8 = some written := by
  rw [writeDeep, around?]
  cases Disk.parent? path with
  | none =>
    simp only [Option.some.injEq, exists_eq_left']
    exact write_text_iff
  | some directory =>
    by_cases here : directory = ""
    · simp only [here, if_true, Option.some.injEq, exists_eq_left']
      exact write_text_iff
    · simp only [here, if_false]
      constructor
      · intro done
        obtain ⟨_, made, directories, last⟩ := run_of_then done
        rw [make_directories_iff.mp directories]
        exact ⟨made, rfl, write_text_iff.mp last⟩
      · rintro ⟨made, around, last⟩
        split at around
        · next made _ done =>
          cases around
          exact (run_then _ (make_directories_iff.mpr done)).trans (write_text_iff.mpr last)
        · cases around

/-- Where there is room, any text can be written, and it is the text that is read. -/
theorem write_then_read (room : HasRoom tree path) (text : String) :
    ∃ written, (writeDeep path text : Action Unit).run tree = (.ok (), written) ∧
      (readText path : Action String).run written = (.ok text, written) := by
  obtain ⟨made, place, around, resolved, vacant⟩ := room
  have read := read_set vacant text.toUTF8 resolved
  refine ⟨made.set place (.file text.toUTF8), write_deep_iff.mpr ⟨made, around,
    write_file_iff.mpr ⟨place, resolved, vacant, rfl⟩⟩, ?_⟩
  rw [readText, run_step]
  simp only [Disk.read?, read, text_of_bytes]
  rfl

/-- There is room exactly where a text can be written. -/
theorem has_room_iff (tree : FileTree) (path text : String) : HasRoom tree path ↔
    ∃ written, (writeDeep path text : Action Unit).run tree = (.ok (), written) := by
  constructor
  · intro room
    obtain ⟨written, done, _⟩ := write_then_read room text
    exact ⟨written, done⟩
  · rintro ⟨written, done⟩
    obtain ⟨made, around, wrote⟩ := write_deep_iff.mp done
    obtain ⟨place, resolved, vacant, -⟩ := write_file_iff.mp wrote
    exact ⟨made, place, around, resolved, vacant⟩

/-! ## Specifications -/

/-- A specification that is saved under a name that ends in `.json`, in whatever case,
is loaded from there. -/
theorem load_saved {tree : FileTree} {path : String} (room : HasRoom tree path)
    (extension : Disk.extension? path = some "json") (spec : Spec) :
    ∃ saved, (saveSpec spec path : Action Unit).run tree = (.ok (), saved) ∧
      (loadSpec path : Action Spec).run saved = (.ok spec, saved) := by
  obtain ⟨saved, write, read⟩ := write_then_read room spec.saved
  refine ⟨saved, write, ?_⟩
  have parsed : readSpec path spec.saved = .ok spec := by
    rw [readSpec, extension]
    simp only [read_saved]
  rw [loadSpec, run_then _ read, parsed]
  rfl

/-- A specification with an option of an unknown type, optional texts that are absent,
empty and present, and texts that need escapes. -/
def sampleSpec : Spec where
  bot := ⟨"q\"\\\n\x00\x7f", "", none, some "", some " 😀 ", .gateway⟩
  profiles := [⟨"id", "", "https://example.com/", .keyQuery, none, some "key", "API_KEY_1", ""⟩]
  commands :=
    [⟨"1", "ping", "\t", [⟨"who", "/", .unknown, true⟩, ⟨"", "", .role, false⟩], .apiCall, none,
      some "id", some "", none, some [⟨"a.b", "", ""⟩], some .embed⟩,
     ⟨"", "", "", [], .staticText, some "pong", none, none, some "", none, none⟩]

theorem load_saved_sample :
    HasRoom .empty "specs/bot.JSON" ∧ Disk.extension? "specs/bot.JSON" = some "json" ∧
      ∃ saved, (saveSpec sampleSpec "specs/bot.JSON" : Action Unit).run .empty = (.ok (), saved) ∧
        (loadSpec "specs/bot.JSON" : Action Spec).run saved = (.ok sampleSpec, saved) := by
  have room : HasRoom .empty "specs/bot.JSON" :=
    ⟨⟨[(["specs"], .directory)]⟩, ["specs", "bot.JSON"], rfl, rfl, nofun⟩
  have extension : Disk.extension? "specs/bot.JSON" = some "json" := by decide
  exact ⟨room, extension, load_saved room extension sampleSpec⟩

end Botwright.SpecStorage
