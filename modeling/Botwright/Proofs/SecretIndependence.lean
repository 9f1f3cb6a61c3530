import Botwright.Compile

/-! Secrets reach nothing but the secret rows of the environment. Two runs on
specifications that differ only in the bot's token and the keys of profiles, with
any random bytes, write the same files; their environments have the same names
and descriptions in the same order, and where a value differs, its name is that
of a secret. -/
namespace Botwright.SecretIndependence
open Environment Project Reply

/-! ## Two runs -/

/-- The profile as someone sees it who may not see its key. -/
def withoutKey (profile : Profile) : Profile := { profile with apiKey := none }

def withoutToken (bot : Bot) : Bot := { bot with token := none }

def withoutSecrets (spec : Spec) : Spec :=
  { spec with bot := withoutToken spec.bot, profiles := spec.profiles.map withoutKey }

/-- The names of variables whose values may depend on secrets. -/
def NamesSecret (deployment : Deployment) (profiles : List Profile) (name : String) : Prop :=
  name = "DISCORD_BOT_TOKEN" ∨
  deployment = .interactions ∧ name = "REGISTER_SECRET" ∨
  ∃ profile ∈ profiles, profile.auth ≠ .none ∧ profile.keyVariable = name

/-- Two environments show the same names and descriptions in the same order. -/
def SameNames (environment other : List Variable) : Prop :=
  environment.map (fun v => (v.name, v.description)) =
    other.map fun v => (v.name, v.description)

/-- Nobody who may not see secrets can tell two projects apart. -/
structure DifferInSecretsOnly (deployment : Deployment) (profiles : List Profile)
    (project other : Generated) : Prop where
  files : project.files = other.files
  names : SameNames project.environment other.environment
  values : ∀ (place : Nat) (v w : Variable), project.environment[place]? = some v →
    other.environment[place]? = some w → v.value ≠ w.value →
      NamesSecret deployment profiles v.name

def hexDigits : List Char := "0123456789abcdef".toList

/-- A byte as two hexadecimal digits. -/
def hexByte (byte : UInt8) : List Char :=
  [hexDigits.getD (byte.toNat / 16) '?', hexDigits.getD (byte.toNat % 16) '?']

/-- The first 32 random bytes in hexadecimal. -/
def hexOfRandom (random : RandomBytes) : String :=
  String.ofList ((List.range 32).flatMap fun place => hexByte (random place))

/-! ## Rows without their secrets -/

/-- A row whose value is hidden if it is secret. -/
def conceal (row : Row) : Row :=
  if row.secret then { row with var := { row.var with value := "" } } else row

@[simp] theorem conceal_name (row : Row) : (conceal row).var.name = row.var.name := by
  unfold conceal
  split <;> rfl

@[simp] theorem conceal_secret (row : Row) : (conceal row).secret = row.secret := by
  unfold conceal
  split <;> rfl

@[simp] theorem conceal_description (row : Row) :
    (conceal row).var.description = row.var.description := by
  unfold conceal
  split <;> rfl

/-- The example file shows a row just as if its secret were hidden. -/
theorem example_entry_conceal (row : Row) : exampleEntry (conceal row) = exampleEntry row := by
  unfold conceal
  split
  · next secret => simp [exampleEntry, secret]
  · rfl

/-- Which rows are dropped depends on names only. -/
theorem first_of_name_conceal (rows : List Row) :
    firstOfName seen (rows.map conceal) = (firstOfName seen rows).map conceal := by
  induction rows generalizing seen with
  | nil => rfl
  | cons row rest ih =>
    rw [List.map_cons, firstOfName, firstOfName, conceal_name]
    split
    · exact ih
    · rw [ih, List.map_cons]

theorem credentials_conceal (bot : Bot) (secret : Option Secret) (deployment : Deployment) :
    (credentials bot secret deployment).map conceal =
      (credentials (withoutToken bot) none deployment).map conceal := by
  cases deployment <;> rfl

theorem profile_rows_conceal (profile : Profile) :
    (profileRows profile).map conceal = (profileRows (withoutKey profile)).map conceal := by
  have key : (keyRow? profile).toList.map conceal =
      (keyRow? (withoutKey profile)).toList.map conceal := by
    have auth : (withoutKey profile).auth = profile.auth := rfl
    have name : (withoutKey profile).keyVariable = profile.keyVariable := rfl
    unfold keyRow?
    rw [auth, name]
    split <;> rfl
  have url : urlRow? (withoutKey profile) = urlRow? profile := rfl
  rw [profileRows, profileRows, List.map_append, List.map_append, key, url]

/-- With their secrets hidden, the rows are those of a specification without
any and of a run without a registration secret. -/
theorem rows_conceal (bot : Bot) (deployment : Deployment) (profiles : List Profile)
    (secret : Option Secret) :
    (rows bot deployment profiles secret).map conceal =
      (rows (withoutToken bot) deployment (profiles.map withoutKey) none).map conceal := by
  simp only [rows, ← first_of_name_conceal, List.map_append, List.map_flatMap, List.flatMap_map,
    ← profile_rows_conceal]
  rw [credentials_conceal bot secret deployment]

/-- A row is secret only under the name of a secret. -/
theorem names_secret_of_row (member : row ∈ rows bot deployment profiles secret)
    (hidden : row.secret = true) : NamesSecret deployment profiles row.var.name := by
  cases rowOf_of_mem member with
  | applicationId | publicKey _ => cases hidden
  | token => exact .inl rfl
  | registerSecret target => exact .inr (.inl ⟨target, rfl⟩)
  | @key profile row listed made =>
    obtain ⟨⟨needed, -⟩, rfl⟩ := keyRow?_eq_some_iff.mp made
    exact .inr (.inr ⟨profile, listed, of_decide_eq_true needed, rfl⟩)
  | url _ made =>
    obtain ⟨-, rfl⟩ := urlRow?_eq_some_iff.mp made
    cases hidden

/-! ## Files -/

theorem example_conceal (bot : Bot) (deployment : Deployment) (profiles : List Profile) :
    dotenvExample (withoutToken bot) deployment (profiles.map withoutKey) =
      dotenvExample bot deployment profiles := by
  have shown (list : List Row) : list.map exampleEntry = (list.map conceal).map exampleEntry := by
    rw [List.map_map]
    exact List.map_congr_left fun row _ => (example_entry_conceal row).symm
  rw [dotenvExample, dotenvExample, shown (rows bot deployment profiles none), rows_conceal,
    ← shown]

/-- Of a profile, handlers use what is not secret. -/
theorem handler_without_secrets (style : Style) (spec : Spec) (command : Command) :
    handler style (withoutSecrets spec) command = handler style spec command := by
  have found : (withoutSecrets spec).profileOf? command =
      (spec.profileOf? command).map withoutKey := by
    unfold Spec.profileOf?
    cases command.profileId? with
    | none => rfl
    | some id => exact List.find?_map
  have api (name : String) (profile : Profile) :
      apiHandler style name command (withoutKey profile) =
        apiHandler style name command profile := rfl
  unfold handler
  rw [found]
  cases command.source with
  | staticText => rfl
  | apiCall =>
    cases spec.profileOf? command with
    | none => rfl
    | some profile => exact api _ profile

theorem command_module_without_secrets (style : Style) (spec : Spec) :
    commandModule style (withoutSecrets spec) = commandModule style spec := by
  unfold commandModule commandCode
  simp only [handler_without_secrets]
  rfl

/-- A readme lists variables without their values. -/
theorem readme_without_secrets (spec : Spec) (deployment : Deployment)
    (same : SameNames environment other) :
    readme (withoutSecrets spec) deployment environment = readme spec deployment other := by
  have entries (list : List Variable) :
      variableList list = linesText ((list.map fun v => (v.name, v.description)).map
        fun entry => "- `" ++ entry.1 ++ "`: " ++ entry.2) := by
    rw [variableList, List.map_map]
    rfl
  unfold readme
  rw [entries environment, same, ← entries]
  rfl

theorem files_without_secrets (style : Style) (spec : Spec) (deployment : Deployment)
    (same : SameNames environment other) :
    filesFor style (withoutSecrets spec) deployment environment =
      filesFor style spec deployment other := by
  have definitions : definitionModule (withoutSecrets spec) = definitionModule spec := rfl
  have package : packageJson (withoutSecrets spec) deployment = packageJson spec deployment := rfl
  have shown : dotenvExample (withoutSecrets spec).bot deployment (withoutSecrets spec).profiles =
      dotenvExample spec.bot deployment spec.profiles := example_conceal _ _ _
  simp only [filesFor, commonModules, ownerFiles, command_module_without_secrets, definitions,
    package, shown, readme_without_secrets spec deployment same]

/-! ## Two environments -/

theorem same_names_of_conceal {rows others : List Row}
    (agree : rows.map conceal = others.map conceal) :
    SameNames (rows.map (·.var)) (others.map (·.var)) := by
  have shown (list : List Row) : (list.map (·.var)).map (fun v => (v.name, v.description)) =
      (list.map conceal).map fun row => (row.var.name, row.var.description) := by
    simp only [List.map_map, Function.comp_def, conceal_name, conceal_description]
  rw [SameNames, shown, agree, ← shown]

theorem conceal_shown (shown : row.secret = false) : conceal row = row := by
  simp [conceal, shown]

/-- Where two rows agree but for hidden values, an open one has the same value. -/
theorem secret_of_value_ne (agree : conceal row = conceal other)
    (differs : row.var.value ≠ other.var.value) : row.secret = true := by
  cases hidden : row.secret with
  | true => rfl
  | false =>
    have same : other.secret = false := by
      rw [← conceal_secret, ← agree, conceal_secret, hidden]
    rw [conceal_shown hidden, conceal_shown same] at agree
    exact absurd (congrArg (·.var.value) agree) differs

/-- At one place of two such tables, values differ only in a secret row. -/
theorem secret_of_place {rows others : List Row} {place : Nat} {v w : Variable}
    (agree : rows.map conceal = others.map conceal)
    (here : (rows.map (·.var))[place]? = some v) (there : (others.map (·.var))[place]? = some w)
    (differs : v.value ≠ w.value) : ∃ row ∈ rows, row.secret = true ∧ row.var = v := by
  rw [List.getElem?_map] at here there
  obtain ⟨row, held, rfl⟩ := Option.map_eq_some_iff.mp here
  obtain ⟨other, found, rfl⟩ := Option.map_eq_some_iff.mp there
  have pair : conceal row = conceal other := by
    have shown := congrArg (·[place]?) agree
    simpa [held, found] using shown
  exact ⟨row, List.mem_of_getElem? held, secret_of_value_ne pair differs, rfl⟩

/-! ## The registration secret -/

theorem hex_byte_eq (byte : UInt8) : Text.hex 2 byte.toNat = hexByte byte := by
  have every : ∀ n < 256,
      Text.hex 2 n = [hexDigits.getD (n / 16) '?', hexDigits.getD (n % 16) '?'] := by
    decide +kernel
  exact every byte.toNat byte.toNat_lt

theorem draw_eq (random : RandomBytes) : (Secret.draw random).1.text = hexOfRandom random := by
  simp only [Secret.draw, hexOfRandom, secretBytes, hex_byte_eq]

/-- The secret stands under its name: no variable of a profile takes its place. -/
theorem register_value (bot : Bot) (profiles : List Profile) (secret : Secret) :
    ((table bot .interactions profiles (some secret)).find? (·.name = "REGISTER_SECRET")).map
      (·.value) = some secret.text := by
  rfl

/-! ## Whole projects -/

theorem rows_agree (agree : withoutSecrets first = withoutSecrets second)
    (deployment : Deployment) (secret other : Option Secret) :
    (rows first.bot deployment first.profiles secret).map conceal =
      (rows second.bot deployment second.profiles other).map conceal := by
  have bots : withoutToken first.bot = withoutToken second.bot := congrArg Spec.bot agree
  have profiles : first.profiles.map withoutKey = second.profiles.map withoutKey :=
    congrArg Spec.profiles agree
  rw [rows_conceal, rows_conceal second.bot, bots, profiles]

theorem target_agree (agree : withoutSecrets first = withoutSecrets second)
    (configuration : Configuration) :
    configuration.deploymentOf first = configuration.deploymentOf second := by
  have target : (withoutSecrets first).bot.deployment = (withoutSecrets second).bot.deployment := by
    rw [agree]
  exact congrArg configuration.deployment.getD target

theorem files_agree (agree : withoutSecrets first = withoutSecrets second) (style : Style)
    (deployment : Deployment) (same : SameNames environment other) :
    filesFor style first deployment environment = filesFor style second deployment other := by
  have self : SameNames environment environment := rfl
  rw [← files_without_secrets style first deployment self, agree,
    files_without_secrets style second deployment same]

/-- Two runs whose specifications agree but for the token and the keys, on any
random bytes, give projects that differ in secrets only. Where there is a
registration secret, its value is the first random bytes in hexadecimal. -/
theorem secrets_stay_in_their_rows (configuration : Configuration) (first second : Spec)
    (random other : RandomBytes) (agree : withoutSecrets first = withoutSecrets second) :
    DifferInSecretsOnly (configuration.deploymentOf first) first.profiles
      (configuration.generate first random) (configuration.generate second other) ∧
    (configuration.deploymentOf first = .interactions →
      ((configuration.generate first random).environment.find? (·.name = "REGISTER_SECRET")).map
        (·.value) = some (hexOfRandom random)) := by
  have concealed := rows_agree agree (configuration.deploymentOf second)
    (secretFor random (configuration.deploymentOf second))
    (secretFor other (configuration.deploymentOf second))
  have names := same_names_of_conceal concealed
  rw [Configuration.generate, Configuration.generate, target_agree agree]
  refine ⟨⟨?_, names, ?_⟩, ?_⟩
  · exact congrArg (fun files => (FileSet.ofList files).files)
      (files_agree agree configuration.style _ names)
  · intro place v w here there differs
    obtain ⟨row, member, hidden, rfl⟩ := secret_of_place concealed here there differs
    exact names_secret_of_row member hidden
  · intro target
    rw [target]
    exact (register_value _ _ _).trans (congrArg some (draw_eq random))

/-- Variables of profiles that share names with each other and with the token. -/
def sharedNamesSample (token key : Option String) : Spec where
  bot := ⟨"Weather", "", some "1", none, token, .interactions⟩
  profiles :=
    [⟨"a", "A", "https://a.test", .none, key, none, "A_KEY", "SHARED"⟩,
     ⟨"b", "B", "", .bearer, key, none, "SHARED", "B_URL"⟩,
     ⟨"c", "C", "", .keyQuery, key, none, "C_KEY", "DISCORD_BOT_TOKEN"⟩]
  commands :=
    [⟨"now", "Weather now", "", [], .apiCall, none, some "c", some "/now", none,
      some [⟨"main.temp", "Temperature", ""⟩], none⟩]

theorem shared_names_sample_secrets :
    withoutSecrets (sharedNamesSample (some "token") (some "key")) =
        withoutSecrets (sharedNamesSample none (some "other")) ∧
      DifferInSecretsOnly .interactions (sharedNamesSample (some "token") (some "key")).profiles
        (Configuration.initial.generate (sharedNamesSample (some "token") (some "key")) fun _ => 0)
        (Configuration.initial.generate (sharedNamesSample none (some "other")) fun _ => 255) :=
  have agree : withoutSecrets (sharedNamesSample (some "token") (some "key")) =
      withoutSecrets (sharedNamesSample none (some "other")) := rfl
  ⟨agree, (secrets_stay_in_their_rows Configuration.initial _ _ _ _ agree).1⟩

end Botwright.SecretIndependence
