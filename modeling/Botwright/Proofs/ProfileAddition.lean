import Botwright.Proofs.SettingsListing

/-! One profile more. A profile that is added behind the others changes no handler unless
a command was waiting for its id; the table of the environment stays as it was, with the
variables of the new profile behind it. -/
namespace Botwright.ProfileAddition
open Reply Project Environment SettingsListing

/-- The specification with a profile behind those that it has. -/
def withProfile (spec : Spec) (profile : Profile) : Spec :=
  { spec with profiles := spec.profiles ++ [profile] }

/-- No command that calls an API refers to an id without finding a profile. -/
def Unawaited (spec : Spec) (id : String) : Prop :=
  ∀ command ∈ spec.commands, command.source = .apiCall → spec.profileOf? command = none →
    command.profileId? ≠ some id

instance (spec : Spec) (id : String) : Decidable (Unawaited spec id) :=
  inferInstanceAs (Decidable (∀ _ ∈ _, _))

/-- The variables that a profile declares: one for its secret, if it has one, and one for
its base URL, each of them if it has a name. -/
inductive BelongsTo (profile : Profile) : Variable → Prop where
  | key (secret : profile.auth ≠ .none) (named : Text.isBlankText profile.keyVariable = false) :
      BelongsTo profile ⟨profile.keyVariable, profile.apiKey?.getD "your_api_key",
        "API key for " ++ profile.name⟩
  | url (named : Text.isBlankText profile.urlVariable = false) :
      BelongsTo profile ⟨profile.urlVariable,
        (Text.nonBlank? (some profile.baseUrl)).getD "https://api.example.com",
        "Base URL for " ++ profile.name⟩

/-! ## Handlers -/

/-- A profile behind the others is found only where none of them was. -/
theorem profile_of_added (command : Command) (profile : Profile) :
    (withProfile spec profile).profileOf? command =
      (spec.profileOf? command).or
        (if command.profileId? = some profile.id then some profile else none) := by
  unfold Spec.profileOf?
  cases command.profileId? with
  | none => rfl
  | some id =>
    have last : [profile].find? (·.id = id) =
        if some id = some profile.id then some profile else none := by
      by_cases same : profile.id = id
      · simp [same]
      · simp [same, Ne.symm same]
    simp only [Option.bind_some, Spec.profile?, withProfile, List.find?_append, last]

theorem handler_added (unawaited : Unawaited spec profile.id) (style : Style)
    (declared : command ∈ spec.commands) :
    handler style (withProfile spec profile) command = handler style spec command := by
  cases source : command.source with
  | staticText =>
    unfold handler
    rw [source]
  | apiCall =>
    have found : (withProfile spec profile).profileOf? command = spec.profileOf? command := by
      rw [profile_of_added]
      cases before : spec.profileOf? command with
      | some first => rfl
      | none => rw [if_neg (unawaited command declared source before), Option.or_none]
    unfold handler
    rw [found]

theorem command_module_added (unawaited : Unawaited spec profile.id) (style : Style) :
    commandModule style (withProfile spec profile) = commandModule style spec := by
  have handlers : (withProfile spec profile).commands.flatMap (fun command =>
      [handler style (withProfile spec profile) command, .blank]) =
        spec.commands.flatMap fun command => [handler style spec command, .blank] :=
    List.flatMap_congr fun command declared => by rw [handler_added unawaited style declared]
  unfold commandModule commandCode
  rw [handlers]
  rfl

/-! ## Rows -/

theorem first_of_name_append (seen : List String) (front back : List Row) :
    ∃ later, firstOfName seen (front ++ back) =
      firstOfName seen front ++ firstOfName later back := by
  induction front generalizing seen with
  | nil => exact ⟨seen, rfl⟩
  | cons row rest ih =>
    rw [List.cons_append, firstOfName, firstOfName]
    split
    · exact ih seen
    · obtain ⟨later, split⟩ := ih (row.var.name :: seen)
      exact ⟨later, by rw [split, List.cons_append]⟩

theorem first_of_name_sublist (seen : List String) (rows : List Row) :
    (firstOfName seen rows).Sublist rows := by
  induction rows generalizing seen with
  | nil => exact .slnil
  | cons row rest ih =>
    rw [firstOfName]
    split
    · exact (ih seen).cons row
    · exact (ih _).cons_cons row

theorem belongs_iff (profile : Profile) (v : Variable) :
    BelongsTo profile v ↔ v ∈ (profileRows profile).map (·.var) := by
  constructor
  · rintro (⟨secret, named⟩ | named)
    · have kept := keyRow?_eq_some_iff.mpr ⟨⟨decide_eq_true secret, named⟩, rfl⟩
      exact List.mem_map.mpr ⟨_, List.mem_append_left _ (Option.mem_toList.mpr kept), rfl⟩
    · have kept := urlRow?_eq_some_iff.mpr ⟨named, rfl⟩
      exact List.mem_map.mpr ⟨_, List.mem_append_right _ (Option.mem_toList.mpr kept), rfl⟩
  · intro held
    obtain ⟨row, listed, rfl⟩ := List.mem_map.mp held
    rcases List.mem_append.mp listed with key | url
    · obtain ⟨⟨secret, named⟩, rfl⟩ := keyRow?_eq_some_iff.mp (Option.mem_toList.mp key)
      exact .key (of_decide_eq_true secret) named
    · obtain ⟨named, rfl⟩ := urlRow?_eq_some_iff.mp (Option.mem_toList.mp url)
      exact .url named

theorem length_profile_rows (profile : Profile) : (profileRows profile).length ≤ 2 := by
  have single (row : Option Row) : row.toList.length ≤ 1 := by cases row <;> simp
  have key := single (keyRow? profile)
  have url := single (urlRow? profile)
  rw [profileRows, List.length_append]
  omega

/-- The rows of a new profile stand behind all others. -/
theorem rows_added (spec : Spec) (profile : Profile) (deployment : Deployment)
    (secret : Option Secret) :
    ∃ later, rows spec.bot deployment (withProfile spec profile).profiles secret =
      rows spec.bot deployment spec.profiles secret ++ firstOfName later (profileRows profile) := by
  have flat : credentials spec.bot secret deployment ++
      (withProfile spec profile).profiles.flatMap profileRows =
        (credentials spec.bot secret deployment ++ spec.profiles.flatMap profileRows) ++
          profileRows profile := by
    simp [withProfile]
  unfold rows
  rw [flat]
  exact first_of_name_append [] _ _

/-- Every variable of the new profile has its name in the table, be it for another. -/
theorem listed_of_belongs (belongs : BelongsTo profile v) (spec : Spec)
    (deployment : Deployment) (secret : Option Secret) :
    v.name ∈ (table spec.bot deployment (withProfile spec profile).profiles secret).map
      (·.name) := by
  obtain ⟨row, own, rfl⟩ := List.mem_map.mp ((belongs_iff profile v).mp belongs)
  have candidate : row ∈ credentials spec.bot secret deployment ++
      (withProfile spec profile).profiles.flatMap profileRows := by
    simp [withProfile, own]
  rw [table, List.map_map]
  exact (names_first_of_name [] _).mpr
    ⟨List.mem_map_of_mem (f := fun row => row.var.name) candidate, List.not_mem_nil⟩

/-! ## The project -/

theorem definition_file (style : Style) (spec : Spec) (deployment : Deployment)
    (random : RandomBytes) :
    (generate style spec deployment random).file? definitionModulePath =
      some (definitionModule spec) := by
  have member : ⟨definitionModulePath, definitionModule spec⟩ ∈ filesFor style spec deployment
      (generate style spec deployment random).environment := by
    cases deployment <;> simp [filesFor, commonModules]
  exact file_of_member style spec deployment random member

/-- Adding a profile that no command waits for keeps the module of the commands and the
module of their definitions as they are, with any random bytes in either run. The table
of the environment keeps its rows; behind them stand at most two more, variables of the
profile, and no variable of the profile is left out unless its name was taken. -/
theorem added_profile_is_local (spec : Spec) (profile : Profile)
    (unawaited : Unawaited spec profile.id) :
    (∀ style deployment random other, ∀ path ∈ [commandModulePath, definitionModulePath],
      ∃ content, (generate style spec deployment random).file? path = some content ∧
        (generate style (withProfile spec profile) deployment other).file? path =
          some content) ∧
    ∀ deployment secret, ∃ added : List Variable,
      table (withProfile spec profile).bot deployment (withProfile spec profile).profiles secret =
        table spec.bot deployment spec.profiles secret ++ added ∧
      added.length ≤ 2 ∧ (∀ v ∈ added, BelongsTo profile v) ∧
      ∀ v, BelongsTo profile v →
        v.name ∈ (table spec.bot deployment spec.profiles secret ++ added).map (·.name) := by
  constructor
  · intro style deployment random other path listed
    simp only [List.mem_cons, List.not_mem_nil, or_false] at listed
    rcases listed with rfl | rfl
    · refine ⟨commandModule style spec, command_file style spec deployment random, ?_⟩
      rw [← command_module_added unawaited style]
      exact command_file style (withProfile spec profile) deployment other
    · exact ⟨definitionModule spec, definition_file style spec deployment random,
        definition_file style (withProfile spec profile) deployment other⟩
  · intro deployment secret
    obtain ⟨later, behind⟩ := rows_added spec profile deployment secret
    -- The rows of the profile come last, so they take no name from a row before them.
    have kept := first_of_name_sublist later (profileRows profile)
    have grown : table spec.bot deployment (withProfile spec profile).profiles secret =
        table spec.bot deployment spec.profiles secret ++
          (firstOfName later (profileRows profile)).map (·.var) := by
      rw [table, behind, List.map_append]
      rfl
    refine ⟨_, grown, ?_, fun v held => ?_, fun v belongs => ?_⟩
    · rw [List.length_map]
      exact Nat.le_trans kept.length_le (length_profile_rows profile)
    · exact (belongs_iff profile v).mpr ((kept.map (·.var)).mem held)
    · rw [← grown]
      exact listed_of_belongs belongs spec deployment secret

/-- A bot with two profiles of one id, and a command whose profile is missing. -/
def doubledSample : Spec where
  bot := ⟨"Weather", "", some "1", none, none, .gateway⟩
  profiles :=
    [⟨"a", "A", "https://a.test", .bearer, none, none, "A_KEY", "A_URL"⟩,
     ⟨"a", "B", "", .keyQuery, none, none, "A_KEY", "B_URL"⟩]
  commands :=
    [{ SettingsListing.pingCommand with profileId := some "a" },
     { SettingsListing.pingCommand with name := "lost", profileId := some "gone" }]

/-- A profile whose id and whose name for the secret are taken. -/
def lateProfile : Profile := ⟨"a", "C", "", .bearer, none, none, "DISCORD_BOT_TOKEN", "C_URL"⟩

theorem late_profile_is_local :
    Unawaited doubledSample lateProfile.id ∧
      ∃ added : List Variable,
        table doubledSample.bot .gateway (withProfile doubledSample lateProfile).profiles none =
          table doubledSample.bot .gateway doubledSample.profiles none ++ added ∧
        added.length ≤ 2 ∧ ∀ v ∈ added, BelongsTo lateProfile v := by
  have unawaited : Unawaited doubledSample lateProfile.id := by decide
  obtain ⟨-, tables⟩ := added_profile_is_local doubledSample lateProfile unawaited
  obtain ⟨added, grown, few, own, -⟩ := tables .gateway none
  exact ⟨unawaited, added, grown, few, own⟩

end Botwright.ProfileAddition
