import Botwright.Environment.Secret
import Botwright.Spec.Basic

/-!
The environment variables of a deployment: the bot's credentials in a fixed order, then the key and
the base URL of each profile. A name occurs once, and the first variable of a name wins. No variable
is empty: a placeholder stands for a value that is not known.
-/
namespace Botwright.Environment

/-- An environment variable with its value. -/
structure Variable where
  name : String
  value : String
  description : String
  deriving DecidableEq, Repr

/-- A row of the table: a variable, and whether its value is secret. -/
structure Row where
  var : Variable
  secret : Bool
  deriving DecidableEq, Repr

def applicationIdName : String := "DISCORD_APPLICATION_ID"

def publicKeyName : String := "DISCORD_PUBLIC_KEY"

def tokenName : String := "DISCORD_BOT_TOKEN"

def registerSecretName : String := "REGISTER_SECRET"

def applicationIdRow (bot : Bot) : Row where
  var := ⟨applicationIdName, bot.applicationId?.getD "your_discord_application_id",
    "Discord application ID"⟩
  secret := false

def publicKeyRow (bot : Bot) : Row where
  var := ⟨publicKeyName, bot.publicKey?.getD "your_discord_public_key",
    "Discord public key used to verify interaction signatures"⟩
  secret := false

def tokenRow (bot : Bot) : Row where
  var := ⟨tokenName, bot.token?.getD "your_discord_bot_token", "Discord bot token"⟩
  secret := true

def registerSecretRow (secret : Option Secret) : Row where
  var := ⟨registerSecretName, (secret.map (·.text)).getD "your_register_secret",
    "Secret required to call /api/register"⟩
  secret := true

/-- The credentials of a deployment. Only the endpoint verifies signatures and has a registration
route. -/
def credentials (bot : Bot) (secret : Option Secret) : Deployment → List Row
  | .interactions =>
    [applicationIdRow bot, publicKeyRow bot, tokenRow bot, registerSecretRow secret]
  | .gateway => [tokenRow bot, applicationIdRow bot]

/-- The row for the key of a profile that needs one and names a variable for it. -/
def keyRow? (profile : Profile) : Option Row :=
  if profile.auth.needsSecret && !Text.isBlankText profile.keyVariable then
    some ⟨⟨profile.keyVariable, profile.apiKey?.getD "your_api_key",
      "API key for " ++ profile.name⟩, true⟩
  else none

/-- The row for the base URL of a profile that names a variable for it. -/
def urlRow? (profile : Profile) : Option Row :=
  profile.urlVariable?.map fun name =>
    ⟨⟨name, (Text.nonBlank? (some profile.baseUrl)).getD "https://api.example.com",
      "Base URL for " ++ profile.name⟩, false⟩

theorem keyRow?_eq_some_iff {profile : Profile} {row : Row} :
    keyRow? profile = some row ↔
      (profile.auth.needsSecret = true ∧ Text.isBlankText profile.keyVariable = false) ∧
        ⟨⟨profile.keyVariable, profile.apiKey?.getD "your_api_key",
          "API key for " ++ profile.name⟩, true⟩ = row := by
  rw [keyRow?, Option.ite_none_right_eq_some, Bool.and_eq_true, Bool.not_eq_true',
    Option.some_inj]

theorem urlRow?_eq_some_iff {profile : Profile} {row : Row} :
    urlRow? profile = some row ↔
      Text.isBlankText profile.urlVariable = false ∧
        ⟨⟨profile.urlVariable,
          (Text.nonBlank? (some profile.baseUrl)).getD "https://api.example.com",
          "Base URL for " ++ profile.name⟩, false⟩ = row := by
  simp only [urlRow?, Option.map_eq_some_iff, Profile.urlVariable?, Text.nonBlank?_eq_some_iff,
    Option.some_inj]
  constructor
  · rintro ⟨name, ⟨rfl, named⟩, made⟩
    exact ⟨named, made⟩
  · rintro ⟨named, made⟩
    exact ⟨_, ⟨rfl, named⟩, made⟩

/-- The rows of a profile. -/
def profileRows (profile : Profile) : List Row :=
  (keyRow? profile).toList ++ (urlRow? profile).toList

/-- The rows whose names are not among those seen, the first of each name only. -/
def firstOfName (seen : List String) : List Row → List Row
  | [] => []
  | row :: rest =>
    if seen.contains row.var.name then firstOfName seen rest
    else row :: firstOfName (row.var.name :: seen) rest

theorem mem_firstOfName {seen : List String} {rows : List Row} {row : Row}
    (h : row ∈ firstOfName seen rows) : row ∈ rows ∧ row.var.name ∉ seen := by
  induction rows generalizing seen with
  | nil => cases h
  | cons first rest ih =>
    rw [firstOfName] at h
    split at h
    · exact ⟨List.mem_cons_of_mem _ (ih h).1, (ih h).2⟩
    · next fresh =>
      rcases List.mem_cons.1 h with rfl | h
      · exact ⟨List.mem_cons_self, by simpa using fresh⟩
      · obtain ⟨listed, unseen⟩ := ih h
        exact ⟨List.mem_cons_of_mem _ listed, fun m => unseen (List.mem_cons_of_mem _ m)⟩

/-- No name occurs twice. -/
theorem nodup_names_firstOfName (seen : List String) (rows : List Row) :
    ((firstOfName seen rows).map (·.var.name)).Nodup := by
  induction rows generalizing seen with
  | nil => simp [firstOfName]
  | cons first rest ih =>
    rw [firstOfName]
    split
    · exact ih seen
    · refine List.nodup_cons.2 ⟨fun m => ?_, ih _⟩
      obtain ⟨row, listed, same⟩ := List.mem_map.1 m
      exact (mem_firstOfName listed).2 (same ▸ List.mem_cons_self)

/-- The rows of a deployment. -/
def rows (bot : Bot) (deployment : Deployment) (profiles : List Profile)
    (secret : Option Secret) : List Row :=
  firstOfName [] (credentials bot secret deployment ++ profiles.flatMap profileRows)

/-- What a row of a deployment is made from: a credential, or a variable of a profile. -/
inductive RowOf (bot : Bot) (deployment : Deployment) (profiles : List Profile)
    (secret : Option Secret) : Row → Prop where
  | applicationId : RowOf bot deployment profiles secret (applicationIdRow bot)
  | publicKey (target : deployment = .interactions) :
      RowOf bot deployment profiles secret (publicKeyRow bot)
  | token : RowOf bot deployment profiles secret (tokenRow bot)
  | registerSecret (target : deployment = .interactions) :
      RowOf bot deployment profiles secret (registerSecretRow secret)
  | key {profile : Profile} {row : Row} (listed : profile ∈ profiles)
      (made : keyRow? profile = some row) : RowOf bot deployment profiles secret row
  | url {profile : Profile} {row : Row} (listed : profile ∈ profiles)
      (made : urlRow? profile = some row) : RowOf bot deployment profiles secret row

theorem rowOf_of_mem {bot : Bot} {deployment : Deployment} {profiles : List Profile}
    {secret : Option Secret} {row : Row} (member : row ∈ rows bot deployment profiles secret) :
    RowOf bot deployment profiles secret row := by
  rcases List.mem_append.1 (mem_firstOfName member).1 with credential | own
  · cases deployment with
    | interactions =>
      simp only [credentials, List.mem_cons, List.not_mem_nil, or_false] at credential
      rcases credential with rfl | rfl | rfl | rfl
      · exact .applicationId
      · exact .publicKey rfl
      · exact .token
      · exact .registerSecret rfl
    | gateway =>
      simp only [credentials, List.mem_cons, List.not_mem_nil, or_false] at credential
      rcases credential with rfl | rfl
      · exact .token
      · exact .applicationId
  · obtain ⟨profile, listed, held⟩ := List.mem_flatMap.1 own
    rcases List.mem_append.1 held with key | url
    · exact .key listed (Option.mem_toList.1 key)
    · exact .url listed (Option.mem_toList.1 url)

/-- The environment variables of a deployment. -/
def table (bot : Bot) (deployment : Deployment) (profiles : List Profile)
    (secret : Option Secret) : List Variable :=
  (rows bot deployment profiles secret).map (·.var)

end Botwright.Environment
