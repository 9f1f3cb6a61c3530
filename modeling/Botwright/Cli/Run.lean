import Botwright.Catalogue.Defaults
import Botwright.Catalogue.Encode
import Botwright.Cli.Arguments
import Botwright.Cli.Screen
import Botwright.Compile
import Botwright.Spec.Preset

/-!
The runs of the program. A run acts on a disk and ends with an exit status, what it printed, and
what it has to say about a failure.
-/
namespace Botwright.Cli

open Environment (RandomBytes)

/-- The end of a run. -/
structure Outcome where
  status : Nat
  output : String
  /-- What went wrong, for the error stream. -/
  complaint : Option String
  deriving DecidableEq, Repr

/-- A run that did what it was asked to. -/
def Outcome.done (output : String) : Outcome := ⟨0, output, none⟩

/-- A run that failed after it had printed something. -/
def Outcome.failed (output complaint : String) : Outcome := ⟨1, output, some complaint⟩

/-- A run whose command line asks for nothing that there is. -/
def Outcome.misused : Outcome := ⟨2, "", some "usage: botforge <init|check|compile|infer|env>"⟩

section Runs

variable {m : Type → Type} [Monad m] [Disk m]

/-- Writes a starter specification. -/
def runInit (directory presetId : String) (target : Deployment) (force : Bool) : m Outcome := do
  match Preset.ofId? presetId with
  | none =>
    return .failed Screen.heading
      ("Unknown preset '" ++ presetId ++ "'. Available: " ++
        ", ".intercalate (Preset.all.map (·.id)))
  | some preset =>
    let path := Disk.join directory "bot.json"
    if (← Disk.exists? path) && !force then
      return .failed Screen.heading (path ++ " already exists")
    match ← (saveSpec (preset.spec target) path : ExceptT Problem m Unit).run with
    | .error problem => return .failed Screen.heading problem.message
    | .ok () =>
      return .done
        (Screen.heading ++
         Screen.success ("Created " ++ path ++ " from '" ++ preset.name ++ "'") ++
         Screen.plain preset.description ++ Screen.emptyLine ++
         Screen.box Screen.nextTitle
          [Screen.boxLine ("   Edit " ++ path),
           Screen.boxLine ("   botforge compile --spec " ++ path)])

/-- Lines for warnings. -/
def warningLines (warnings : List Warning) : String :=
  String.join (warnings.map fun w => Screen.warning w.message)

/-- Validates a specification. -/
def runCheck (spec : String) (elapsed : m Nat) : m Outcome := do
  match ← (loadSpec spec : ExceptT Problem m Spec).run with
  | .error problem => return .failed "" problem.message
  | .ok spec =>
    match spec.validate with
    | .error problem => return .failed Screen.refusal problem.message
    | .ok warnings =>
      return .done
        (warningLines warnings ++ Screen.approval ++ Screen.timing "Checked" (← elapsed))

/-- The word for where a reply comes from. -/
def sourceWord : ReplySource → String
  | .staticText => "static"
  | .apiCall => "api"

/-- How to start a project. -/
def startCommand : Deployment → String
  | .interactions => "npm install && npm run deploy"
  | .gateway => "npm install && npm start"

/-- What is printed about a compilation. -/
def compilationReport (spec : Spec) (outDir : String) (compiled : Compiled)
    (milliseconds : Nat) : String :=
  let files := String.ofList (Text.decimal compiled.project.files.length)
  warningLines compiled.warnings ++
  Screen.success
    ("Generated " ++ files ++ " files for " ++ spec.bot.name ++ " (" ++
      compiled.deployment.label ++ ")") ++
  Screen.emptyLine ++
  Screen.box "COMMANDS"
    (spec.commands.map fun command =>
      Screen.commandLine command.name (sourceWord command.source) command.options.length) ++
  Screen.box "ENVIRONMENT"
    (compiled.project.environment.map fun v => Screen.boxLine (" " ++ v.name)) ++
  Screen.timing "Done" milliseconds ++ Screen.emptyLine ++
  Screen.box Screen.nextTitle
    [Screen.boxLine ("   cd " ++ outDir ++ " && " ++ startCommand compiled.deployment),
     Screen.boxLine "   See README.md for the remaining setup steps"]

/-- Compiles a specification. -/
def runCompile (path : String) (configuration : Configuration) (random : RandomBytes)
    (elapsed : m Nat) : m Outcome := do
  match ← (loadSpec path : ExceptT Problem m Spec).run with
  | .error problem => return .failed Screen.heading problem.message
  | .ok spec =>
    match ← (compile configuration spec random : ExceptT Problem m Compiled).run with
    | .error problem => return .failed Screen.heading problem.message
    | .ok compiled =>
      return .done
        (Screen.heading ++
          compilationReport spec configuration.outDir compiled (← elapsed))

/-- The line of a field in the flat list. Only leaves show their sample. -/
def fieldLine (field : Field) : String :=
  let sample := match field.sample with
    | some sample =>
      if field.type.isSelectable then Screen.shortened 40 sample.compact else ""
    | none => ""
  Screen.plain
    (String.ofList (Text.padRight 40 field.path.toList) ++ " " ++
      String.ofList (Text.padRight 9 field.type.name.toList) ++ " " ++ sample)

mutual

/-- The lines of a node and of those under it. -/
def nodeLines (depth : Nat) (last : Bool) : FieldNode → String
  | .node field none =>
    Screen.treeLine depth (FieldPath.lastName field.path) field.type.name last
  | .node field (some children) =>
    Screen.treeLine depth (FieldPath.lastName field.path) field.type.name last ++
      treeLines (depth + 1) children

/-- The lines of sibling nodes. -/
def treeLines (depth : Nat) : List FieldNode → String
  | [] => ""
  | n :: rest => nodeLines depth rest.isEmpty n ++ treeLines depth rest

end

/-- What is printed about a catalogue. -/
def catalogueReport (fields : List Field) (tree mappings : Bool) (template : Option Template)
    (locale : Locale) : String :=
  let defaults := Catalogue.defaultMappings fields locale
  (if tree then treeLines 0 (Catalogue.hierarchy fields)
   else String.join (fields.map fieldLine)) ++
  (if mappings then
    Screen.emptyLine ++
    Screen.note (String.ofList (Text.decimal defaults.length) ++ " default mapping(s)") ++
    Screen.printed (Mapping.listToJson defaults).pretty
   else "") ++
  match template with
  | some template =>
    Screen.emptyLine ++ Screen.note ("Snippet preview (" ++ template.word ++ ")") ++
      Screen.printed (Reply.snippet .plain template locale defaults)
  | none => ""

/-- Infers the fields of a sample response. -/
def runInfer (response : String) (tree mappings : Bool) (template : Option Template)
    (locale : Locale) (maxDepth : Nat) : m Outcome := do
  match ← (readText response : ExceptT Problem m String).run with
  | .error problem => return .failed "" problem.message
  | .ok body =>
    match inferSample maxDepth body with
    | .error problem => return .failed "" problem.message
    | .ok fields => return .done (catalogueReport fields tree mappings template locale)

/-- Prints the environment variables of a specification. -/
def runEnv (path : String) (target : Option Deployment) (random : RandomBytes) : m Outcome := do
  match ← (loadSpec path : ExceptT Problem m Spec).run with
  | .error problem => return .failed "" problem.message
  | .ok spec =>
    let configuration := { Configuration.initial with deployment := target }
    return .done (Environment.dotenv (configuration.generate spec random).environment)

/-- Does what a command line asks for. -/
def run (arguments : List String) (random : RandomBytes) (elapsed : m Nat) : m Outcome := do
  match parse? arguments with
  | none => return .misused
  | some .help => return .done ""
  | some (.init directory preset target force) => runInit directory preset target force
  | some (.check spec) => runCheck spec elapsed
  | some (.compile spec output target template locale skipValidation) =>
    runCompile spec ⟨output, target, skipValidation, ⟨template, locale⟩⟩ random elapsed
  | some (.infer response tree mappings template locale maxDepth) =>
    runInfer response tree mappings template locale maxDepth
  | some (.env spec target) => runEnv spec target random

end Runs

end Botwright.Cli
