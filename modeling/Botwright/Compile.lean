import Botwright.Catalogue.Infer
import Botwright.Disk.Basic
import Botwright.Json.Value
import Botwright.Project.Generate
import Botwright.Spec.Decode
import Botwright.Spec.Warnings

/-!
Operations on files: loading and saving specifications, and compiling one into a project directory.
Nothing is written unless the specification is valid, and what was written before a failure stays.
-/
namespace Botwright

open Environment (RandomBytes)

/-- The choices for a compilation. -/
structure Configuration where
  /-- The directory of the project. -/
  outDir : String
  /-- Wins over the deployment of the specification. -/
  deployment : Option Deployment
  skipValidation : Bool
  style : Reply.Style
  deriving DecidableEq, Repr

def Configuration.initial : Configuration where
  outDir := "bot"
  deployment := none
  skipValidation := false
  style := ⟨.simpleText, .japanese⟩

/-- The deployment of a project: the chosen one, else that of the specification. -/
def Configuration.deploymentOf (configuration : Configuration) (spec : Spec) : Deployment :=
  configuration.deployment.getD spec.bot.deployment

/-- The project for a specification. -/
def Configuration.generate (configuration : Configuration) (spec : Spec)
    (random : RandomBytes) : Project.Generated :=
  Project.generate configuration.style spec (configuration.deploymentOf spec) random

/-- What a compilation did. -/
structure Compiled where
  deployment : Deployment
  commands : Nat
  warnings : List Warning
  project : Project.Generated

/-- The specification in the text of a file; its name says how it is written. -/
def readSpec (path text : String) : Except Problem Spec :=
  let parsed :=
    match Disk.extension? path with
    | some "json" => some (Spec.ofJsonText? text)
    | some "toml" => some (Spec.ofTomlText? text)
    | _ => none
  match parsed with
  | none => .error (.unknownFormat path)
  | some none => .error (.badSpec path)
  | some (some spec) => .ok spec

/-- The catalogue of the sample response in a text. -/
def inferSample (maxDepth : Nat) (text : String) : Except Problem (List Field) :=
  match Json.read? text with
  | some document => .ok (Catalogue.infer maxDepth document)
  | none => .error .badSample

section Files

variable {m : Type → Type} [Monad m] [Disk m]

/-- The text of a file. -/
def readText (path : String) : ExceptT Problem m String := do
  match ← (Disk.read? path : m (Option ByteArray)) with
  | none => throw (.noAccess path)
  | some bytes =>
    match String.fromUTF8? bytes with
    | none => throw (.noAccess path)
    | some text => return text

/-- Makes a directory and those around it. -/
def makeDirectories (path : String) : ExceptT Problem m Unit := do
  if !(← (Disk.makeDirectories path : m Bool)) then throw (.noAccess path)

/-- Gives a file a text. -/
def writeText (path text : String) : ExceptT Problem m Unit := do
  if !(← (Disk.write path text.toUTF8 : m Bool)) then throw (.noAccess path)

/-- Gives a file a text, with the directories around it. -/
def writeDeep (path text : String) : ExceptT Problem m Unit := do
  match Disk.parent? path with
  | some directory => if directory = "" then pure () else makeDirectories directory
  | none => pure ()
  writeText path text

/-- The specification in a file. -/
def loadSpec (path : String) : ExceptT Problem m Spec := do
  let text ← readText path
  ExceptT.mk (pure (readSpec path text))

/-- Saves a specification as JSON. -/
def saveSpec (spec : Spec) (path : String) : ExceptT Problem m Unit := writeDeep path spec.saved

/-- Writes the files of a project into a directory. -/
def writeProject (outDir : String) (files : List Project.File) : ExceptT Problem m Unit := do
  makeDirectories outDir
  files.forM fun file => writeDeep (Disk.join outDir file.path) file.content

/-- Validates a specification, generates its project, and writes it. -/
def compile (configuration : Configuration) (spec : Spec) (random : RandomBytes) :
    ExceptT Problem m Compiled := do
  let warnings ←
    if configuration.skipValidation then pure [] else ExceptT.mk (pure spec.validate)
  let project := configuration.generate spec random
  writeProject configuration.outDir project.files
  return ⟨configuration.deploymentOf spec, spec.commands.length, warnings, project⟩

end Files

end Botwright
