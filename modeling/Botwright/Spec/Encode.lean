import Botwright.Json.Writer
import Botwright.Locale
import Botwright.Spec.Basic

/-!
Specifications as JSON. Members stand in the order of the fields, and an absent text has no member;
the words for the fixed choices are those that are read back.
-/
namespace Botwright

/-- A member that is left out if the value is absent. -/
def optionalMember (key : String) (encode : α → Json) : Option α → List (String × Json)
  | some value => [(key, encode value)]
  | none => []

def AuthScheme.word : AuthScheme → String
  | none => "NONE"
  | keyHeader => "API_KEY_HEADER"
  | keyQuery => "API_KEY_QUERY"
  | bearer => "BEARER_TOKEN"

def AuthScheme.all : List AuthScheme := [none, keyHeader, keyQuery, bearer]

def Deployment.word : Deployment → String
  | interactions => "INTERACTIONS_ENDPOINT"
  | gateway => "GATEWAY"

def Deployment.all : List Deployment := [interactions, gateway]

def OptionType.word : OptionType → String
  | string => "string"
  | integer => "integer"
  | boolean => "boolean"
  | user => "user"
  | channel => "channel"
  | role => "role"
  | unknown => "unknown"

def OptionType.all : List OptionType := [string, integer, boolean, user, channel, role, unknown]

def ReplySource.word : ReplySource → String
  | staticText => "STATIC_TEXT"
  | apiCall => "API_CALL"

def ReplySource.all : List ReplySource := [staticText, apiCall]

def Template.word : Template → String
  | simpleText => "simple_text"
  | multiLine => "multi_line"
  | embed => "embed"
  | jsonFormatted => "json_formatted"

def Template.all : List Template := [simpleText, multiLine, embed, jsonFormatted]

def Locale.word : Locale → String
  | japanese => "ja"
  | english => "en"

/-- A value is found again by its word, where the values listed have different words. -/
theorem find?_word {word : α → String} {listed : List α} (distinct : (listed.map word).Nodup)
    {value : α} (held : value ∈ listed) :
    listed.find? (fun other => word other = word value) = some value := by
  induction listed with
  | nil => exact absurd held List.not_mem_nil
  | cons first rest ih =>
    rw [List.map_cons, List.nodup_cons] at distinct
    obtain rfl | later := List.mem_cons.mp held
    · rw [List.find?_cons_of_pos (by simp)]
    · have other : word first ≠ word value :=
        fun same => distinct.1 (same ▸ List.mem_map_of_mem later)
      rw [List.find?_cons_of_neg (by simpa using other), ih distinct.2 later]

def Bot.toJson (bot : Bot) : Json :=
  .object
    ([("name", .string bot.name), ("description", .string bot.description)] ++
     optionalMember "applicationId" .string bot.applicationId ++
     optionalMember "publicKey" .string bot.publicKey ++
     optionalMember "botToken" .string bot.token ++
     [("deploymentType", .string bot.deployment.word)])

def Profile.toJson (profile : Profile) : Json :=
  .object
    ([("id", .string profile.id), ("name", .string profile.name),
      ("baseUrl", .string profile.baseUrl), ("authType", .string profile.auth.word)] ++
     optionalMember "apiKey" .string profile.apiKey ++
     optionalMember "apiKeyName" .string profile.apiKeyName ++
     [("envVarKey", .string profile.keyVariable), ("envVarUrl", .string profile.urlVariable)])

def CommandOption.toJson (option : CommandOption) : Json :=
  .object
    [("name", .string option.name), ("description", .string option.description),
     ("type", .string option.type.word), ("required", .bool option.required)]

def Mapping.toJson (mapping : Mapping) : Json :=
  .object
    [("fieldPath", .string mapping.path), ("displayLabel", .string mapping.label),
     ("formatString", .string mapping.format)]

/-- A list of mappings as JSON. -/
def Mapping.listToJson (mappings : List Mapping) : Json := .array (mappings.map toJson)

def Command.toJson (command : Command) : Json :=
  .object
    ([("id", .string command.id), ("name", .string command.name),
      ("description", .string command.description),
      ("options", .array (command.options.map CommandOption.toJson)),
      ("responseType", .string command.source.word)] ++
     optionalMember "staticText" .string command.staticText ++
     optionalMember "apiProfileId" .string command.profileId ++
     optionalMember "apiEndpoint" .string command.endpoint ++
     optionalMember "codeSnippet" .string command.snippet ++
     optionalMember "fieldMappings" Mapping.listToJson command.mappings ++
     optionalMember "responseTemplate" (fun t => .string t.word) command.template)

def Spec.toJson (spec : Spec) : Json :=
  .object
    [("bot", spec.bot.toJson), ("apiProfiles", .array (spec.profiles.map Profile.toJson)),
     ("commands", .array (spec.commands.map Command.toJson))]

/-- The text of a specification as it is saved. -/
def Spec.saved (spec : Spec) : String := spec.toJson.pretty ++ "\n"

end Botwright
