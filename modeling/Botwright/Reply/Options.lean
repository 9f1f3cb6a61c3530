import Botwright.Script.Access
import Botwright.Script.Binding
import Botwright.Script.Code
import Botwright.Spec.Basic

/-!
The options of a command as locals of its handler.
-/
namespace Botwright.Reply

/-- An option with the local that holds its value. -/
structure BoundOption where
  name : String
  binding : String
  deriving DecidableEq, Repr

/-- Locals for options in order, in a scope. -/
def bindOptions (scope : Script.Scope) : List CommandOption → List BoundOption
  | [] => []
  | option :: rest =>
    let (binding, scope) := scope.allocate option.name
    ⟨option.name, binding⟩ :: bindOptions scope rest

/-- Locals for the options of a command, in a scope of their own. -/
def boundOptions (command : Command) : List BoundOption :=
  bindOptions Script.Scope.empty command.options

/-- The placeholder that stands for an option in a text. -/
def placeholder (name : String) : String := "\x7b" ++ name ++ "\x7d"

/-- The line that reads an option into its local. -/
def optionRead (option : BoundOption) : Script.Code :=
  .line ("const " ++ option.binding ++ " = " ++ Script.member "options" option.name ++ ";")

end Botwright.Reply
