import Botwright.Environment.Dotenv
import Botwright.Project.CommandModule
import Botwright.Project.Definitions
import Botwright.Project.FileSet
import Botwright.Project.Gateway
import Botwright.Project.Interactions

/-!
Generation: the complete project for a specification. It never fails; what is missing in the
specification makes a handler worse, not the project impossible.
-/
namespace Botwright.Project

open Environment (RandomBytes Secret Variable)
open Reply (Style)

/-- A generated project. -/
structure Generated where
  files : List File
  environment : List Variable
  instructions : String
  deriving DecidableEq, Repr

/-- The content of the file at a path. -/
def Generated.file? (generated : Generated) (path : String) : Option String :=
  (generated.files.find? (·.path = path)).map (·.content)

/-- The files that both deployments have alike. -/
def commonModules (style : Style) (spec : Spec) : List File :=
  [⟨commandModulePath, commandModule style spec⟩, ⟨definitionModulePath, definitionModule spec⟩]

/-- The files for the owner of the project. -/
def ownerFiles (spec : Spec) (deployment : Deployment) (environment : List Variable) : List File :=
  [⟨".env.example", Environment.dotenvExample spec.bot deployment spec.profiles⟩,
   ⟨".gitignore", gitignore deployment⟩,
   ⟨"README.md", readme spec deployment environment⟩]

/-- The files of a project in order. -/
def filesFor (style : Style) (spec : Spec) (deployment : Deployment) (environment : List Variable) :
    List File :=
  let failure := (Reply.Messages.of style.locale).requestFailed
  match deployment with
  | .interactions =>
    [⟨interactionRoutePath, interactionRoute failure⟩, ⟨registerRoutePath, registerRoute⟩] ++
    commonModules style spec ++
    [⟨"package.json", packageJson spec deployment⟩, ⟨"vercel.json", vercelJson⟩] ++
    ownerFiles spec deployment environment
  | .gateway =>
    [⟨gatewayEntryPath, gatewayEntry failure⟩] ++
    commonModules style spec ++
    [⟨"package.json", packageJson spec deployment⟩] ++
    ownerFiles spec deployment environment

/-- The registration secret of a deployment; only the endpoint draws one. -/
def secretFor (random : RandomBytes) : Deployment → Option Secret
  | .interactions => some (Secret.draw random).1
  | .gateway => none

/-- The project for a deployment. -/
def generate (style : Style) (spec : Spec) (deployment : Deployment) (random : RandomBytes) :
    Generated :=
  let environment :=
    Environment.table spec.bot deployment spec.profiles (secretFor random deployment)
  { files := (FileSet.ofList (filesFor style spec deployment environment)).files
    environment := environment
    instructions := setupInstructions deployment environment }

end Botwright.Project
