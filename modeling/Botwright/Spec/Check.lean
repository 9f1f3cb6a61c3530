import Botwright.Problem
import Botwright.Spec.Basic
import Botwright.Text.Case
import Botwright.Text.Letter

/-!
The checks that a specification passes before it is compiled: what Discord would refuse is refused
here. The first problem in the order of the specification is the one reported.
-/
namespace Botwright.Spec

/-- A character of a command's or option's name. Letters of the newest scripts are none yet. -/
def isNameChar (c : Char) : Bool := c = '-' || c = '_' || Text.isSettledAlphanumeric c

/-- The greatest length of a name in characters. -/
def maxName : Nat := 32

/-- A name of a command or option: 1 to 32 letters, numbers, dashes and underscores that lower case
leaves as they are. -/
def isValidName (name : String) : Bool :=
  let chars := name.toList
  chars ≠ [] && chars.length ≤ maxName && chars.all isNameChar && Text.lower chars = chars

/-- The first thing wrong with an option that follows others: the names of those before it, and
whether one of them is optional. -/
def optionFault? (seen : List String) (optionalSeen : Bool) (option : CommandOption) :
    Option OptionFault :=
  if !isValidName option.name then some .badName
  else if seen.contains option.name then some .repeated
  else if Text.isBlankText option.description then some .noDescription
  else if maxDescription < option.description.length then some .longDescription
  else if option.required && optionalSeen then some .requiredAfterOptional
  else none

/-- Checks the options of a command that follow others. -/
def checkOptions (command : String) (seen : List String) (optionalSeen : Bool) :
    List CommandOption → Except Problem Unit
  | [] => .ok ()
  | option :: rest =>
    match optionFault? seen optionalSeen option with
    | some fault => .error (.badOption command option.name fault)
    | none => checkOptions command (option.name :: seen) (optionalSeen || !option.required) rest

/-- Checks that a command has what its reply needs. -/
def checkReply (command : Command) : Except Problem Unit :=
  match command.source with
  | .staticText =>
    if command.staticText?.isNone then .error (.noStaticText command.name) else .ok ()
  | .apiCall =>
    if command.profileId?.isNone then .error (.noApiBinding command.name .profile)
    else if command.endpoint?.isNone then .error (.noApiBinding command.name .endpoint)
    else .ok ()

/-- Checks a command by itself; `number` is its place, counted from one. -/
def checkCommand (number : Nat) (command : Command) : Except Problem Unit :=
  if Text.isBlankText command.name then .error (.namelessCommand number)
  else if !isValidName command.name then .error (.badCommandName command.name)
  else if Text.isBlankText command.description then .error (.undescribedCommand command.name)
  else if maxDescription < command.description.length then
    .error (.longDescription command.name command.description.length)
  else if maxOptions < command.options.length then
    .error (.tooManyOptions command.name command.options.length)
  else do
    checkOptions command.name [] false command.options
    checkReply command

/-- Checks commands that follow others, whose names are given. -/
def checkCommands (seen : List String) : List Command → Except Problem Unit
  | [] => .ok ()
  | command :: rest => do
    checkCommand (seen.length + 1) command
    if seen.contains command.name then .error (.repeatedCommand command.name)
    else checkCommands (command.name :: seen) rest

/-- Checks a specification. -/
def check (spec : Spec) : Except Problem Unit :=
  if Text.isBlankText spec.bot.name then .error .namelessBot
  else if spec.commands = [] then .error .noCommands
  else checkCommands [] spec.commands

end Botwright.Spec
