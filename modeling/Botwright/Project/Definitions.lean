import Botwright.Json.Writer
import Botwright.Spec.Basic

/-!
The definitions that a bot registers with Discord, as JSON and as a module that exports them.
-/
namespace Botwright.Project

def definitionModulePath : String := "src/definitions.js"

/-- Discord's number for a command that is typed with a slash. -/
def slashCommandCode : Json := .ofNat 1

/-- The number of an option type. -/
def optionCode (type : OptionType) : Json :=
  .ofNat type.code (by cases type <;> decide)

/-- The definition of an option. -/
def optionDefinition (option : CommandOption) : Json :=
  .object
    [("name", .string option.name), ("description", .string option.description),
     ("type", optionCode option.type), ("required", .bool option.required)]

/-- The definition of a command. -/
def commandDefinition (command : Command) : Json :=
  .object
    [("name", .string command.name), ("description", .string command.description),
     ("type", slashCommandCode), ("options", .array (command.options.map optionDefinition))]

/-- The definitions of all commands, in order. -/
def definitions (spec : Spec) : Json := .array (spec.commands.map commandDefinition)

/-- The text of the module. -/
def definitionModule (spec : Spec) : String :=
  "// Slash command definitions registered with Discord.\n// Generated by BotForge.\n\n" ++
    "export const commandDefinitions = " ++ (definitions spec).pretty ++ ";\n"

end Botwright.Project
