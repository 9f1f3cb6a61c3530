import Botwright.Text.Blank

/-!
Bot specifications: a bot, the API profiles it calls, and its slash commands. Optional texts may be
absent or blank, and both mean the same; the `?` accessors give a text only if it says something.
-/
namespace Botwright

/-- How a profile's secret is attached to a request. -/
inductive AuthScheme where
  | none
  | keyHeader
  | keyQuery
  | bearer
  deriving DecidableEq, Repr, Inhabited

/-- A profile has a secret unless its scheme is `none`. -/
def AuthScheme.needsSecret (scheme : AuthScheme) : Bool := scheme ≠ .none

/-- The connection to one external API. The two variable names are allocated when the profile is
made and never change. -/
structure Profile where
  id : String
  name : String
  baseUrl : String
  auth : AuthScheme
  apiKey : Option String
  apiKeyName : Option String
  keyVariable : String
  urlVariable : String
  deriving DecidableEq, Repr

namespace Profile

def apiKey? (p : Profile) : Option String := Text.nonBlank? p.apiKey

def apiKeyName? (p : Profile) : Option String := Text.nonBlank? p.apiKeyName

/-- The variable that overrides the base URL, if the profile declares one. -/
def urlVariable? (p : Profile) : Option String := Text.nonBlank? (some p.urlVariable)

end Profile

/-- What a generated project runs on. -/
inductive Deployment where
  /-- A stateless HTTP endpoint to which every interaction is posted. -/
  | interactions
  /-- A process that keeps a connection open. -/
  | gateway
  deriving DecidableEq, Repr, Inhabited

def Deployment.label : Deployment → String
  | interactions => "Interactions Endpoint (serverless)"
  | gateway => "Gateway (discord.js)"

/-- The bot itself, with its credentials. -/
structure Bot where
  name : String
  description : String
  applicationId : Option String
  publicKey : Option String
  token : Option String
  deployment : Deployment
  deriving DecidableEq, Repr

namespace Bot

def applicationId? (b : Bot) : Option String := Text.nonBlank? b.applicationId

def publicKey? (b : Bot) : Option String := Text.nonBlank? b.publicKey

def token? (b : Bot) : Option String := Text.nonBlank? b.token

end Bot

/-- The type of an option's values. A type that is not known stands for text. -/
inductive OptionType where
  | string
  | integer
  | boolean
  | user
  | channel
  | role
  | unknown
  deriving DecidableEq, Repr

/-- Discord's number for an option type. -/
def OptionType.code : OptionType → Nat
  | string => 3
  | integer => 4
  | boolean => 5
  | user => 6
  | channel => 7
  | role => 8
  | unknown => 3

/-- An option of a command. -/
structure CommandOption where
  name : String
  description : String
  type : OptionType
  required : Bool
  deriving DecidableEq, Repr

/-- Where a command's reply comes from. -/
inductive ReplySource where
  | staticText
  | apiCall
  deriving DecidableEq, Repr

/-- The shape of a reply that shows fields of a response. -/
inductive Template where
  | simpleText
  | multiLine
  | embed
  | jsonFormatted
  deriving DecidableEq, Repr, Inhabited

/-- A field of a response with its label and its format, in which `{value}` stands for the field's
value. -/
structure Mapping where
  path : String
  label : String
  format : String
  deriving DecidableEq, Repr

/-- The format that shows a value as it is. -/
def Mapping.plainFormat : String := "\x7bvalue\x7d"

/-- The format of a mapping; an empty one shows the value as it is. -/
def Mapping.effectiveFormat (m : Mapping) : String :=
  if m.format = "" then plainFormat else m.format

/-- A slash command. -/
structure Command where
  id : String
  name : String
  description : String
  options : List CommandOption
  source : ReplySource
  staticText : Option String
  profileId : Option String
  endpoint : Option String
  /-- Code of the user's own for the response; it wins over the mappings. -/
  snippet : Option String
  mappings : Option (List Mapping)
  template : Option Template
  deriving DecidableEq, Repr

namespace Command

def staticText? (c : Command) : Option String := Text.nonBlank? c.staticText

def profileId? (c : Command) : Option String := Text.nonBlank? c.profileId

def endpoint? (c : Command) : Option String := Text.nonBlank? c.endpoint

def snippet? (c : Command) : Option String := Text.nonBlank? c.snippet

/-- The mappings of a command that has any. -/
def mappingList (c : Command) : List Mapping := c.mappings.getD []

end Command

/-- A bot with everything it needs. -/
structure Spec where
  bot : Bot
  profiles : List Profile
  commands : List Command
  deriving DecidableEq, Repr

namespace Spec

/-- The first profile with an id. -/
def profile? (spec : Spec) (id : String) : Option Profile := spec.profiles.find? (·.id = id)

/-- The profile that a command calls, if the specification has it. -/
def profileOf? (spec : Spec) (command : Command) : Option Profile :=
  command.profileId?.bind spec.profile?

end Spec

end Botwright
