import Botwright.Spec.Encode
import Botwright.Spec.Source

/-!
Reading specifications. A record may have members that are not known, but not a known one twice, and
required ones must be there. In place of a record a list of its values in order is accepted; values
may be left off at its end if they have defaults.
-/
namespace Botwright

/-- What the ways of writing a specification do differently. -/
structure Dialect where
  /-- Whether a list that stands for a record may have more values than the record has fields. -/
  allowsExtra : Bool
  /-- The values that say nothing: a record of a word and such a value stands for the word. -/
  isUnit : Source → Bool

namespace Dialect

/-- Specifications in JSON. -/
def json : Dialect where
  allowsExtra := false
  isUnit
    | .absent => true
    | _ => false

/-- Specifications in TOML. -/
def toml : Dialect where
  allowsExtra := true
  isUnit
    | .list [] => true
    | .record [] => true
    | _ => false

end Dialect

/-! ## Fields of records -/

namespace Source

/-- The values of the fields with the given keys, by key. -/
def fields? (dialect : Dialect) (keys : List String) : Source → Option (List (String × Source))
  | record members =>
    let known := members.filter fun member => keys.contains member.1
    if (known.map (·.1)).Nodup then some known else none
  | list items =>
    if dialect.allowsExtra || items.length ≤ keys.length then some (keys.zip items) else none
  | _ => none

/-- A field that must be there. -/
def required? (fields : List (String × Source)) (key : String) (decode : Source → Option α) :
    Option α :=
  (fields.lookup key).bind decode

/-- A field with a default. -/
def orDefault? (fields : List (String × Source)) (key : String) (default : α)
    (decode : Source → Option α) : Option α :=
  match fields.lookup key with
  | some source => decode source
  | none => some default

def text? : Source → Option String
  | text s => some s
  | _ => none

def bool? : Source → Option Bool
  | bool b => some b
  | _ => none

/-- A value that may be left empty. -/
def optional? (decode : Source → Option α) : Source → Option (Option α)
  | absent => some none
  | source => (decode source).map some

/-- A list of values. -/
def list? (decode : Source → Option α) : Source → Option (List α)
  | list items => items.mapM decode
  | _ => none

/-- The word for a fixed choice. -/
def word? (dialect : Dialect) : Source → Option String
  | text s => some s
  | record [(s, value)] => if dialect.isUnit value then some s else none
  | _ => none

/-- A text that may be left out or empty. -/
def optionalText? (fields : List (String × Source)) (key : String) : Option (Option String) :=
  orDefault? fields key none (optional? text?)

end Source

/-! ## Parts of specifications -/

open Source

def AuthScheme.decode? (dialect : Dialect) (source : Source) : Option AuthScheme :=
  (word? dialect source).bind fun word => AuthScheme.all.find? (·.word = word)

def Deployment.decode? (dialect : Dialect) (source : Source) : Option Deployment :=
  (word? dialect source).bind fun word => Deployment.all.find? (·.word = word)

/-- Any word is an option type; one that is not known stands for `unknown`. -/
def OptionType.decode? (dialect : Dialect) (source : Source) : Option OptionType :=
  (word? dialect source).map fun word => (OptionType.all.find? (·.word = word)).getD .unknown

def ReplySource.decode? (dialect : Dialect) (source : Source) : Option ReplySource :=
  (word? dialect source).bind fun word => ReplySource.all.find? (·.word = word)

def Template.decode? (dialect : Dialect) (source : Source) : Option Template :=
  (word? dialect source).bind fun word => Template.all.find? (·.word = word)

def Bot.keys : List String :=
  ["name", "description", "applicationId", "publicKey", "botToken", "deploymentType"]

def Bot.decode? (dialect : Dialect) (source : Source) : Option Bot := do
  let fields ← source.fields? dialect Bot.keys
  return {
    name := ← required? fields "name" text?
    description := ← orDefault? fields "description" "" text?
    applicationId := ← optionalText? fields "applicationId"
    publicKey := ← optionalText? fields "publicKey"
    token := ← optionalText? fields "botToken"
    deployment :=
      ← orDefault? fields "deploymentType" .interactions (Deployment.decode? dialect) }

def Profile.keys : List String :=
  ["id", "name", "baseUrl", "authType", "apiKey", "apiKeyName", "envVarKey", "envVarUrl"]

def Profile.decode? (dialect : Dialect) (source : Source) : Option Profile := do
  let fields ← source.fields? dialect Profile.keys
  return {
    id := ← required? fields "id" text?
    name := ← required? fields "name" text?
    baseUrl := ← required? fields "baseUrl" text?
    auth := ← orDefault? fields "authType" .none (AuthScheme.decode? dialect)
    apiKey := ← optionalText? fields "apiKey"
    apiKeyName := ← optionalText? fields "apiKeyName"
    keyVariable := ← required? fields "envVarKey" text?
    urlVariable := ← orDefault? fields "envVarUrl" "" text? }

def CommandOption.keys : List String := ["name", "description", "type", "required"]

def CommandOption.decode? (dialect : Dialect) (source : Source) : Option CommandOption := do
  let fields ← source.fields? dialect CommandOption.keys
  return {
    name := ← required? fields "name" text?
    description := ← required? fields "description" text?
    type := ← required? fields "type" (OptionType.decode? dialect)
    required := ← orDefault? fields "required" false bool? }

def Mapping.keys : List String := ["fieldPath", "displayLabel", "formatString"]

def Mapping.decode? (dialect : Dialect) (source : Source) : Option Mapping := do
  let fields ← source.fields? dialect Mapping.keys
  return {
    path := ← required? fields "fieldPath" text?
    label := ← required? fields "displayLabel" text?
    format := ← orDefault? fields "formatString" Mapping.plainFormat text? }

def Command.keys : List String :=
  ["id", "name", "description", "options", "responseType", "staticText", "apiProfileId",
   "apiEndpoint", "codeSnippet", "fieldMappings", "responseTemplate"]

def Command.decode? (dialect : Dialect) (source : Source) : Option Command := do
  let fields ← source.fields? dialect Command.keys
  return {
    id := ← required? fields "id" text?
    name := ← required? fields "name" text?
    description := ← required? fields "description" text?
    options := ← orDefault? fields "options" [] (list? (CommandOption.decode? dialect))
    source := ← required? fields "responseType" (ReplySource.decode? dialect)
    staticText := ← optionalText? fields "staticText"
    profileId := ← optionalText? fields "apiProfileId"
    endpoint := ← optionalText? fields "apiEndpoint"
    snippet := ← optionalText? fields "codeSnippet"
    mappings :=
      ← orDefault? fields "fieldMappings" none (optional? (list? (Mapping.decode? dialect)))
    template :=
      ← orDefault? fields "responseTemplate" none (optional? (Template.decode? dialect)) }

def Spec.keys : List String := ["bot", "apiProfiles", "commands"]

/-- The specification that a source holds. -/
def Spec.decode? (dialect : Dialect) (source : Source) : Option Spec := do
  let fields ← source.fields? dialect Spec.keys
  return {
    bot := ← required? fields "bot" (Bot.decode? dialect)
    profiles := ← orDefault? fields "apiProfiles" [] (list? (Profile.decode? dialect))
    commands := ← orDefault? fields "commands" [] (list? (Command.decode? dialect)) }

/-- The specification that a JSON text holds. -/
def Spec.ofJsonText? (text : String) : Option Spec :=
  (Json.Document.read? text.toList).bind fun document =>
    Spec.decode? .json (Source.ofJson document)

/-- The specification that a TOML text holds. -/
def Spec.ofTomlText? (text : String) : Option Spec :=
  (Toml.read? text).bind fun entries =>
    Spec.decode? .toml (.record (Source.ofTomlEntries entries))

end Botwright
