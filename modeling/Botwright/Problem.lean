import Botwright.Text.Decimal

/-!
What can go wrong around generation: files that cannot be read or written, texts that cannot be
read, and specifications that Discord would refuse. Each problem is a cause; its wording is in
`Problem.message`.
-/
namespace Botwright

/-- What is wrong with an option. -/
inductive OptionFault where
  | badName
  | repeated
  | noDescription
  | longDescription
  | requiredAfterOptional
  deriving DecidableEq, Repr

/-- A part that a command with an API call must name. -/
inductive ApiBinding where
  | profile
  | endpoint
  deriving DecidableEq, Repr

/-- A problem that ends an operation. -/
inductive Problem where
  /-- A file or directory cannot be read, made or written. -/
  | noAccess (path : String)
  /-- A file does not hold a specification. -/
  | badSpec (path : String)
  /-- A file name does not say in which notation the specification is. -/
  | unknownFormat (path : String)
  /-- A sample response is not JSON. -/
  | badSample
  | namelessBot
  | noCommands
  /-- The command at a position, counted from one, has no name. -/
  | namelessCommand (number : Nat)
  | undescribedCommand (command : String)
  | longDescription (command : String) (length : Nat)
  | badCommandName (command : String)
  | repeatedCommand (command : String)
  | badOption (command option : String) (fault : OptionFault)
  | tooManyOptions (command : String) (count : Nat)
  | noStaticText (command : String)
  | noApiBinding (command : String) (part : ApiBinding)
  deriving DecidableEq, Repr

/-- The greatest length of a description in characters. -/
def maxDescription : Nat := 100

/-- The greatest number of options of a command. -/
def maxOptions : Nat := 25

def OptionFault.message : OptionFault → String
  | badName => "names are 1-32 lowercase letters, digits, '-' or '_'"
  | repeated => "declared more than once"
  | noDescription => "description is empty"
  | longDescription => "description is longer than 100 characters"
  | requiredAfterOptional => "required options must come before optional ones"

def ApiBinding.key : ApiBinding → String
  | profile => "apiProfileId"
  | endpoint => "apiEndpoint"

namespace Problem

/-- A number in a message. -/
def count (n : Nat) : String := String.ofList (Text.decimal n)

/-- A text in single quotes. -/
def named (s : String) : String := "'" ++ s ++ "'"

def message : Problem → String
  | noAccess path => "Failed to access " ++ named path
  | badSpec path => "Failed to parse bot specification " ++ named path
  | unknownFormat path => "Unsupported specification format: " ++ path
  | badSample => "Response sample is not valid JSON"
  | namelessBot => "The bot has no name"
  | noCommands => "No commands defined"
  | namelessCommand number => "Command #" ++ count number ++ " has an empty name"
  | undescribedCommand command => "Command " ++ named command ++ " has an empty description"
  | longDescription command length =>
    "Description of " ++ named command ++ " is " ++ count length ++ " characters (maximum is " ++
      count maxDescription ++ ")"
  | badCommandName command => "Invalid command name " ++ named command
  | repeatedCommand command => "Duplicate command name: " ++ command
  | badOption command option fault =>
    "Option " ++ named option ++ " of command " ++ named command ++ " is invalid: " ++ fault.message
  | tooManyOptions command number =>
    "Command " ++ named command ++ " declares " ++ count number ++ " options (maximum is " ++
      count maxOptions ++ ")"
  | noStaticText command =>
    "Command " ++ named command ++ " responds with static text but has none"
  | noApiBinding command part =>
    "Command " ++ named command ++ " calls an API but is missing `" ++ part.key ++ "`"

/-- The stable identifier of a kind of problem. -/
def code : Problem → String
  | noAccess _ => "botforge::io::access_failed"
  | badSpec _ => "botforge::spec::parse_failed"
  | unknownFormat _ => "botforge::spec::unsupported_format"
  | badSample => "botforge::schema::invalid_json"
  | namelessBot => "botforge::validate::missing_bot_name"
  | noCommands => "botforge::validate::no_commands"
  | namelessCommand _ => "botforge::validate::empty_command_name"
  | undescribedCommand _ => "botforge::validate::empty_description"
  | longDescription _ _ => "botforge::validate::description_too_long"
  | badCommandName _ => "botforge::validate::invalid_command_name"
  | repeatedCommand _ => "botforge::validate::duplicate_command"
  | badOption _ _ _ => "botforge::validate::invalid_option"
  | tooManyOptions _ _ => "botforge::validate::too_many_options"
  | noStaticText _ => "botforge::validate::missing_static_text"
  | noApiBinding _ _ => "botforge::validate::missing_api_binding"

/-- Advice on how to solve a problem. -/
def help? : Problem → Option String
  | badSpec _ => some "The specification must contain `bot`, `apiProfiles` and `commands` keys"
  | unknownFormat _ => some "Use a .json or .toml file"
  | badSample => some "Save the raw body returned by the API, without headers"
  | noCommands => some "Add at least one entry to `commands`"
  | badCommandName _ =>
    some "Command names are 1-32 characters: lowercase letters, digits, '-' or '_'"
  | noStaticText _ => some "Set `staticText`, or switch `responseType` to API_CALL"
  | noApiBinding _ _ => some "API_CALL commands need both `apiProfileId` and `apiEndpoint`"
  | _ => none

end Problem

end Botwright
