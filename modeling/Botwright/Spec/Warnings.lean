import Botwright.Reply.Endpoint
import Botwright.Spec.Check

/-!
Warnings: what a specification may contain although it makes the bot worse than meant.
-/
namespace Botwright

/-- Something in a specification that works differently than meant. -/
inductive Warning where
  /-- Two commands have handlers of one name. -/
  | handlerCollision (first second handler : String)
  /-- A command calls a profile that is not there, and will say so. -/
  | missingProfile (command profile : String)
  /-- An endpoint has a placeholder that no option fills. -/
  | unresolvedPlaceholder (command placeholder : String)
  deriving DecidableEq, Repr

def Warning.message : Warning → String
  | handlerCollision first second handler =>
    "commands '" ++ first ++ "' and '" ++ second ++ "' both generate " ++ handler ++
      "; rename one of them"
  | missingProfile command profile =>
    "command '" ++ command ++ "' uses unknown API profile '" ++ profile ++
      "'; it will reply \"not configured\""
  | unresolvedPlaceholder command placeholder =>
    "endpoint of '" ++ command ++ "' contains " ++ Reply.placeholder placeholder ++
      " but no option has that name"

namespace Spec

/-- The collision of a command with the first earlier one whose handler has the same name. -/
def collision? (earlier : List Command) (command : Command) : Option Warning :=
  let handler := Script.handlerName command.name
  match earlier.find? fun c => Script.handlerName c.name = handler with
  | some first =>
    if first.name = command.name then none
    else some (.handlerCollision first.name command.name handler)
  | none => none

/-- The warning for a profile that is named and not there. -/
def missingProfile? (spec : Spec) (command : Command) : Option Warning :=
  command.profileId?.bind fun id =>
    if (spec.profile? id).isNone then some (.missingProfile command.name id) else none

/-- The warnings for the placeholders of an endpoint. -/
def placeholderWarnings (command : Command) : List Warning :=
  match command.endpoint? with
  | some endpoint =>
    (Reply.unresolvedNames command endpoint).map (.unresolvedPlaceholder command.name)
  | none => []

/-- The warnings for a command that follows others. -/
def commandWarnings (spec : Spec) (earlier : List Command) (command : Command) : List Warning :=
  (collision? earlier command).toList ++
    match command.source with
    | .staticText => []
    | .apiCall => (missingProfile? spec command).toList ++ placeholderWarnings command

/-- The warnings for commands that follow others. -/
def warningsFrom (spec : Spec) (earlier : List Command) : List Command → List Warning
  | [] => []
  | command :: rest =>
    commandWarnings spec earlier command ++ warningsFrom spec (earlier ++ [command]) rest

/-- The warnings for a specification in the order of its commands. -/
def warnings (spec : Spec) : List Warning := warningsFrom spec [] spec.commands

/-- Validation: the first problem, or the warnings. -/
def validate (spec : Spec) : Except Problem (List Warning) := do
  check spec
  return spec.warnings

end Spec

end Botwright
