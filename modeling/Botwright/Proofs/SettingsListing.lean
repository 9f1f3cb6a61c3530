import Botwright.Proofs.EmittedNames
import Botwright.Proofs.RequestReading
import Botwright.Project.Generate

/-! The settings that a module reads, against those that its project lists. A handler
reads the secret of its profile and the variable that overrides the address; a setting
that has a name is a row of the table and has a line of the example file. -/
namespace Botwright.SettingsListing
open Script Reply Project Environment CodeLines EmittedNames RequestReading

/-! ## What is read -/

/-- A request to a profile reads a setting: its secret, if it has one, or the variable
that overrides its address. -/
def Asks (profile : Profile) (name : String) : Prop :=
  (profile.auth.needsSecret = true ∧ name = profile.keyVariable) ∨
    profile.urlVariable? = some name

/-- An example file has a line for a setting. -/
def Shows (text name : String) : Prop :=
  ∃ front value back, OneLine value ∧
    text = front ++ "\n" ++ name ++ "=" ++ value ++ "\n" ++ back

theorem settings_attachment (profile : Profile) :
    (attachment? profile).toList.flatMap RequestStep.settings =
      if profile.auth.needsSecret then [profile.keyVariable] else [] := by
  unfold attachment?
  cases profile.auth <;> rfl

theorem settings_request (command : Command) (profile : Profile) :
    name ∈ (requestOf command profile).flatMap RequestStep.settings ↔ Asks profile name := by
  have bare : (replacements (boundOptions command)).flatMap RequestStep.settings = [] := by
    simp [replacements, RequestStep.settings]
  rw [requestOf, List.flatMap_append, List.flatMap_append, bare, settings_attachment, Asks]
  cases profile.auth.needsSecret <;> simp [RequestStep.settings, or_comm]

/-- A module reads just the settings that the profiles of its commands ask for. -/
theorem settings_read_iff (style : Style) (spec : Spec) (name : String) :
    name ∈ settingsRead (commandCode style spec) ↔
      ∃ command profile, Calls spec command profile ∧ Asks profile name := by
  rw [settingsRead, steps_module, List.flatMap_assoc, List.mem_flatMap]
  constructor
  · rintro ⟨command, declared, read⟩
    unfold stepsOf at read
    split at read
    · next profile api configured =>
      exact ⟨command, profile, ⟨declared, api, configured⟩, (settings_request ..).mp read⟩
    · cases read
  · rintro ⟨command, profile, calls, asks⟩
    refine ⟨command, calls.declared, ?_⟩
    rw [stepsOf, calls.api, calls.configured]
    exact (settings_request ..).mpr asks

/-! ## What is listed -/

theorem names_first_of_name (seen : List String) (rows : List Row) :
    name ∈ (firstOfName seen rows).map (·.var.name) ↔
      name ∈ rows.map (·.var.name) ∧ name ∉ seen := by
  induction rows generalizing seen with
  | nil => simp [firstOfName]
  | cons row rest ih =>
    rw [firstOfName]
    split
    · next held =>
      rw [ih, List.map_cons, List.mem_cons]
      have taken : row.var.name ∈ seen := by simpa using held
      constructor
      · rintro ⟨later, fresh⟩
        exact ⟨.inr later, fresh⟩
      · rintro ⟨rfl | later, fresh⟩
        · exact absurd taken fresh
        · exact ⟨later, fresh⟩
    · next fresh =>
      have unseen : row.var.name ∉ seen := by simpa using fresh
      rw [List.map_cons, List.mem_cons, ih, List.map_cons, List.mem_cons, List.mem_cons, not_or]
      constructor
      · rintro (rfl | ⟨later, -, old⟩)
        · exact ⟨.inl rfl, unseen⟩
        · exact ⟨.inr later, old⟩
      · rintro ⟨rfl | later, old⟩
        · exact .inl rfl
        · by_cases same : name = row.var.name
          · exact .inl same
          · exact .inr ⟨later, same, old⟩

/-- No row has a blank name. -/
theorem row_dark (member : row ∈ rows bot deployment profiles secret) :
    Text.isBlankText row.var.name = false := by
  have fixed : ∀ name ∈ [applicationIdName, publicKeyName, tokenName, registerSecretName],
      Text.isBlankText name = false := by decide
  cases rowOf_of_mem member with
  | applicationId | publicKey _ | token | registerSecret _ =>
    exact fixed _ (by simp [applicationIdRow, publicKeyRow, tokenRow, registerSecretRow])
  | key _ made =>
    obtain ⟨⟨-, dark⟩, rfl⟩ := keyRow?_eq_some_iff.mp made
    exact dark
  | url _ made =>
    obtain ⟨dark, rfl⟩ := urlRow?_eq_some_iff.mp made
    exact dark

/-- What a profile asks for is one of its rows if it has a name. -/
theorem row_of_asks (asks : Asks profile name) (dark : Text.isBlankText name = false) :
    ∃ row ∈ profileRows profile, row.var.name = name := by
  rcases asks with ⟨needed, rfl⟩ | named
  · have key := keyRow?_eq_some_iff.mpr ⟨⟨needed, dark⟩, rfl⟩
    exact ⟨_, List.mem_append_left _ (Option.mem_toList.mpr key), rfl⟩
  · cases (Text.nonBlank?_eq_some_iff.mp named).1
    have url := urlRow?_eq_some_iff.mpr ⟨dark, rfl⟩
    exact ⟨_, List.mem_append_right _ (Option.mem_toList.mpr url), rfl⟩

theorem profile_of_calls (calls : Calls spec command profile) : profile ∈ spec.profiles := by
  obtain ⟨id, -, found⟩ := Option.bind_eq_some_iff.mp calls.configured
  exact List.mem_of_find?_eq_some found

theorem row_of_calls (calls : Calls spec command profile) (asks : Asks profile name)
    (dark : Text.isBlankText name = false) (bot : Bot) (deployment : Deployment)
    (secret : Option Secret) :
    ∃ row ∈ rows bot deployment spec.profiles secret, row.var.name = name := by
  obtain ⟨row, own, named⟩ := row_of_asks asks dark
  have candidate : row ∈ credentials bot secret deployment ++ spec.profiles.flatMap profileRows :=
    List.mem_append_right _ (List.mem_flatMap.mpr ⟨profile, profile_of_calls calls, own⟩)
  have kept := (names_first_of_name [] _).mpr
    ⟨List.mem_map_of_mem (f := fun row => row.var.name) candidate, List.not_mem_nil⟩
  obtain ⟨first, held, same⟩ := List.mem_map.mp kept
  exact ⟨first, held, same.trans named⟩

/-! ## The example file -/

theorem one_line_value (value : String) : OneLine (String.ofList (dotenvChars value.toList)) := by
  have quoted (c : Char) : '\n' ∉ quotedValueChar c := by
    unfold quotedValueChar
    split_ifs with slash mark feed
    iterate 3 decide
    simp [Ne.symm feed]
  rw [OneLine, String.toList_ofList, dotenvChars]
  split
  · simp [quoted]
  · next bare =>
    intro held
    exact bare (List.any_eq_true.mpr ⟨'\n', held, by decide⟩)

theorem text_around (between : String) {texts : List String} (member : text ∈ texts) :
    ∃ front back, between.intercalate texts = front ++ text ++ back := by
  induction texts with
  | nil => cases member
  | cons first rest ih =>
    rcases List.mem_cons.mp member with rfl | later
    · refine ⟨"", String.join (rest.map fun more => between ++ more), ?_⟩
      rw [StatementReading.intercalate_eq_join, String.empty_append]
    · obtain ⟨front, back, text⟩ := ih later
      cases rest with
      | nil => cases later
      | cons second more =>
        refine ⟨first ++ between ++ front, back, ?_⟩
        rw [String.intercalate_cons_cons, text]
        simp only [String.append_assoc]

theorem shows_row (member : row ∈ rows bot deployment profiles none) :
    Shows (dotenvExample bot deployment profiles) row.var.name := by
  obtain ⟨front, back, text⟩ := text_around "\n"
    (List.mem_map_of_mem (f := exampleEntry) member)
  let value := if row.secret then "" else row.var.value
  refine ⟨front ++ "# " ++ row.var.description, _, back, one_line_value value, ?_⟩
  rw [dotenvExample, text, exampleEntry, dotenvLine]
  simp only [String.append_assoc, value]

/-! ## The project -/

theorem files_of_list {files : List File} (distinct : (files.map (·.path)).Nodup) :
    (FileSet.ofList files).files = files := by
  have grow (set : FileSet) (more : List File)
      (fresh : ((set.files ++ more).map (·.path)).Nodup) :
      (more.foldl (fun set file => set.add file.path file.content) set).files =
        set.files ++ more := by
    induction more generalizing set with
    | nil => simp
    | cons file rest ih =>
      have apart : file.path ∉ set.files.map (·.path) := by
        rw [List.map_append, List.map_cons] at fresh
        exact fun held => (List.disjoint_of_nodup_append fresh) held List.mem_cons_self
      have added := FileSet.files_add_fresh apart file.content
      rw [List.foldl_cons, ih _ (by rw [added]; simpa using fresh), added]
      simp
  exact grow FileSet.empty files distinct

/-- The paths of the files for a deployment, in order. -/
def projectPaths : Deployment → List String
  | .interactions =>
    ["api/interactions.js", "api/register.js", "src/commands.js", "src/definitions.js",
      "package.json", "vercel.json", ".env.example", ".gitignore", "README.md"]
  | .gateway =>
    ["index.js", "src/commands.js", "src/definitions.js", "package.json", ".env.example",
      ".gitignore", "README.md"]

theorem paths_of_files (style : Style) (spec : Spec) (deployment : Deployment)
    (environment : List Variable) :
    (filesFor style spec deployment environment).map (·.path) = projectPaths deployment := by
  cases deployment <;> rfl

/-- No path of a project is written twice. -/
theorem paths_distinct (style : Style) (spec : Spec) (deployment : Deployment)
    (environment : List Variable) :
    ((filesFor style spec deployment environment).map (·.path)).Nodup := by
  rw [paths_of_files]
  cases deployment <;> decide

theorem generated_files (style : Style) (spec : Spec) (deployment : Deployment)
    (random : RandomBytes) :
    (generate style spec deployment random).files = filesFor style spec deployment
      (generate style spec deployment random).environment :=
  files_of_list (paths_distinct style spec deployment _)

theorem find_of_member {files : List File} (distinct : (files.map (·.path)).Nodup)
    (member : file ∈ files) : files.find? (·.path = file.path) = some file := by
  induction files with
  | nil => cases member
  | cons first rest ih =>
    rw [List.map_cons, List.nodup_cons] at distinct
    rcases List.mem_cons.mp member with rfl | later
    · exact List.find?_cons_of_pos (by simp)
    · have other : first.path ≠ file.path := fun same =>
        distinct.1 (same ▸ List.mem_map_of_mem later)
      rw [List.find?_cons_of_neg (by simpa using other), ih distinct.2 later]

/-- A project has every file that is written into it. -/
theorem file_of_member (style : Style) (spec : Spec) (deployment : Deployment)
    (random : RandomBytes) (member : file ∈ filesFor style spec deployment
      (generate style spec deployment random).environment) :
    (generate style spec deployment random).file? file.path = some file.content := by
  rw [Generated.file?, generated_files, find_of_member (paths_distinct ..) member,
    Option.map_some]

theorem command_file (style : Style) (spec : Spec) (deployment : Deployment)
    (random : RandomBytes) :
    (generate style spec deployment random).file? commandModulePath =
      some (Code.render 0 (commandCode style spec)) := by
  have member : ⟨commandModulePath, commandModule style spec⟩ ∈ filesFor style spec deployment
      (generate style spec deployment random).environment := by
    cases deployment <;> simp [filesFor, commonModules]
  exact file_of_member style spec deployment random member

theorem example_file (style : Style) (spec : Spec) (deployment : Deployment)
    (random : RandomBytes) :
    (generate style spec deployment random).file? ".env.example" =
      some (dotenvExample spec.bot deployment spec.profiles) := by
  have member : ⟨".env.example", dotenvExample spec.bot deployment spec.profiles⟩ ∈
      filesFor style spec deployment (generate style spec deployment random).environment := by
    cases deployment <;> simp [filesFor, ownerFiles]
  exact file_of_member style spec deployment random member

/-- The module of a project reads just the settings that the profiles of its commands ask
for. A setting that is read is in the table and has a line of the example file unless
its name is blank; a blank name is in no table. -/
theorem settings_read_are_listed (style : Style) (spec : Spec) (deployment : Deployment)
    (random : RandomBytes) :
    (generate style spec deployment random).file? commandModulePath =
        some (Code.render 0 (commandCode style spec)) ∧
      (∀ name, name ∈ settingsRead (commandCode style spec) ↔
        ∃ command profile, Calls spec command profile ∧ Asks profile name) ∧
      ∃ text, (generate style spec deployment random).file? ".env.example" = some text ∧
        ∀ name ∈ settingsRead (commandCode style spec),
          (name ∈ (generate style spec deployment random).environment.map (·.name) ↔
            Text.isBlankText name = false) ∧
          (Text.isBlankText name = false → Shows text name) := by
  refine ⟨command_file style spec deployment random, settings_read_iff style spec,
    _, example_file style spec deployment random, fun name read => ?_⟩
  obtain ⟨command, profile, calls, asks⟩ := (settings_read_iff style spec name).mp read
  refine ⟨⟨fun listed => ?_, fun dark => ?_⟩, fun dark => ?_⟩
  · obtain ⟨entry, held, rfl⟩ := List.mem_map.mp listed
    obtain ⟨row, member, rfl⟩ := List.mem_map.mp held
    exact row_dark member
  · obtain ⟨row, member, rfl⟩ := row_of_calls calls asks dark spec.bot deployment
      (secretFor random deployment)
    exact List.mem_map_of_mem (List.mem_map_of_mem member)
  · obtain ⟨row, member, rfl⟩ := row_of_calls calls asks dark spec.bot deployment none
    exact shows_row member

def pingCommand : Command :=
  { Preset.command "ping" "asks" .apiCall with profileId := some "api", endpoint := some "/x" }

/-- A bot that asks one profile, by the names of its settings. -/
def askingSample (key url : String) : Spec where
  bot := ⟨"bot", "", none, none, none, .gateway⟩
  profiles := [⟨"api", "api", "https://api.test", .bearer, none, none, key, url⟩]
  commands := [pingCommand]

theorem sample_key_read (style : Style) (key url : String) :
    key ∈ settingsRead (commandCode style (askingSample key url)) := by
  have calls : Calls (askingSample key url) pingCommand
      ⟨"api", "api", "https://api.test", .bearer, none, none, key, url⟩ := by
    have named : pingCommand.profileId? = some "api" := by decide
    refine ⟨List.mem_cons_self, rfl, ?_⟩
    rw [Spec.profileOf?, named, Option.bind_some]
    exact List.find?_cons_of_pos (decide_eq_true rfl)
  exact (settings_read_iff ..).mpr ⟨_, _, calls, .inl ⟨rfl, rfl⟩⟩

theorem sample_key_listed :
    let generated := generate ⟨.simpleText, .english⟩ (askingSample "API_KEY" "API_URL") .gateway
      fun _ => 0
    "API_KEY" ∈ generated.environment.map (·.name) ∧
      ∃ text, generated.file? ".env.example" = some text ∧ Shows text "API_KEY" := by
  obtain ⟨-, -, text, file, listed⟩ := settings_read_are_listed ⟨.simpleText, .english⟩
    (askingSample "API_KEY" "API_URL") .gateway fun _ => 0
  obtain ⟨table, shown⟩ := listed "API_KEY" (sample_key_read ..)
  exact ⟨table.mpr (by decide), text, file, shown (by decide)⟩

/-- An accepted specification whose module reads a setting that its project does not
list: the variable of the secret has no name. -/
theorem nameless_setting_unlisted :
    (askingSample "" "").validate = .ok [] ∧
      "" ∈ settingsRead (commandCode ⟨.simpleText, .english⟩ (askingSample "" "")) ∧
      "" ∉ (generate ⟨.simpleText, .english⟩ (askingSample "" "") .gateway
        fun _ => 0).environment.map (·.name) :=
  ⟨by decide +kernel, sample_key_read .., by decide +kernel⟩

end Botwright.SettingsListing
