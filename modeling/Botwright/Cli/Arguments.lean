import Botwright.Catalogue.Infer
import Botwright.Spec.Words
import Botwright.Text.Decimal

/-!
The command line: five commands with their options. Options may be written `--name value`,
`--name=value`, `-n value` or `-nvalue`; flags may be grouped behind one dash; a lone `--` ends the
options. The arguments are judged from left to right: whichever comes first, a request for help or
something that the command does not take, decides.
-/
namespace Botwright.Cli

/-- What the program is asked to do. -/
inductive Request where
  | init (directory preset : String) (target : Deployment) (force : Bool)
  | check (spec : String)
  | compile (spec output : String) (target : Option Deployment) (template : Template)
      (locale : Locale) (skipValidation : Bool)
  | infer (response : String) (tree mappings : Bool) (template : Option Template)
      (locale : Locale) (maxDepth : Nat)
  | env (spec : String) (target : Option Deployment)
  /-- The program explains itself. -/
  | help
  deriving DecidableEq, Repr

/-- The commands of the program. -/
inductive Subcommand where
  | init
  | check
  | compile
  | infer
  | env
  deriving DecidableEq, Repr

def Subcommand.ofName? : String → Option Subcommand
  | "init" => some .init
  | "check" => some .check
  | "compile" => some .compile
  | "infer" => some .infer
  | "env" => some .env
  | _ => none

/-! ## Options and their spelling -/

/-- An option as it may be written. -/
structure OptionRule where
  long : String
  short : Option Char
  /-- The texts that the option takes for its value; a flag takes none. -/
  accepts? : Option (String → Bool)

/-- The option that makes the program say more; it is known everywhere and may be repeated. -/
def verboseRule : OptionRule := ⟨"verbose", some 'v', none⟩

/-- The option that makes the program explain itself. -/
def helpRule : OptionRule := ⟨"help", some 'h', none⟩

/-- The option that makes the program name its version; it stands before any command. -/
def versionRule : OptionRule := ⟨"version", some 'V', none⟩

/-- The options that need no command. -/
def commonRules : List OptionRule := [helpRule, versionRule, verboseRule]

/-- A path on the command line; it is not empty. -/
def readPath? (s : String) : Option String := if s = "" then none else some s

/-- An option whose value is read. -/
def OptionRule.reading (long : String) (short : Option Char) (read? : String → Option α) :
    OptionRule :=
  ⟨long, short, some fun s => (read? s).isSome⟩

/-- The depth to which a sample is read. -/
def readDepth? (s : String) : Option Nat := Text.readUnsigned? s.toList

def specRule : OptionRule := .reading "spec" (some 's') readPath?

def targetRule : OptionRule := .reading "target" (some 't') Deployment.ofWord?

def templateRule : OptionRule := .reading "template" none Template.ofWord?

def localeRule : OptionRule := .reading "locale" (some 'l') Locale.ofWord?

/-- The options of a command. -/
def rules : Subcommand → List OptionRule
  | .init => [.reading "preset" (some 'p') some, targetRule, ⟨"force", none, none⟩]
  | .check => [specRule]
  | .compile =>
    [specRule, .reading "output" (some 'o') readPath?, targetRule, templateRule, localeRule,
     ⟨"skip-validation", none, none⟩]
  | .infer =>
    [⟨"tree", none, none⟩, ⟨"mappings", none, none⟩, templateRule, localeRule,
     .reading "max-depth" none readDepth?]
  | .env => [specRule, targetRule]

/-- The number of paths without a name that a command takes at most. -/
def maxValues : Subcommand → Nat
  | .init | .infer => 1
  | _ => 0

/-! ## Reading arguments -/

/-- A part of the command line. -/
inductive Item where
  | option (name : String) (value : Option String)
  /-- A value without a name. -/
  | value (text : String)
  /-- Something that is neither. -/
  | fault
  deriving DecidableEq, Repr

/-- Whether a text begins like an option and so is no value. -/
def looksLikeOption (s : String) : Bool := s.toList.head? = some '-' && s ≠ "-"

/-- An option with a value, if the option takes it. -/
def OptionRule.item (rule : OptionRule) (accepts : String → Bool) (value : String) : Item :=
  if accepts value then .option rule.long value else .fault

/-- What an argument holds: its items and, where an option at its end has its value in the next
argument, what makes an item of that. -/
structure Argument where
  items : List Item
  open? : Option (String → Item)

/-- The argument with one more item in front. -/
def Argument.cons (item : Item) (argument : Argument) : Argument :=
  { argument with items := item :: argument.items }

/-- The options behind one dash. An option with a value takes the rest of the text, or else the next
argument, for its value. -/
def readShort (known : List OptionRule) : List Char → Argument
  | [] => ⟨[], none⟩
  | c :: rest =>
    match known.find? (·.short = some c) with
    | none => ⟨[.fault], none⟩
    | some rule =>
      match rule.accepts?, rest with
      | none, rest => (readShort known rest).cons (.option rule.long none)
      | some accepts, [] => ⟨[], some (rule.item accepts)⟩
      | some accepts, '=' :: value => ⟨[rule.item accepts (String.ofList value)], none⟩
      | some accepts, value => ⟨[rule.item accepts (String.ofList value)], none⟩

/-- The option behind two dashes. -/
def readLong (known : List OptionRule) (text : List Char) : Argument :=
  let name := text.takeWhile (· ≠ '=')
  let given := String.ofList ((text.dropWhile (· ≠ '=')).drop 1)
  let hasValue := name.length < text.length
  match known.find? (·.long = String.ofList name) with
  | none => ⟨[.fault], none⟩
  | some rule =>
    match rule.accepts? with
    | some accepts =>
      if hasValue then ⟨[rule.item accepts given], none⟩ else ⟨[], some (rule.item accepts)⟩
    | none => ⟨[if hasValue then .fault else .option rule.long none], none⟩

/-- What an argument by itself holds. -/
def readArgument (known : List OptionRule) (argument : String) : Argument :=
  match argument.toList with
  | '-' :: '-' :: text => readLong known text
  | '-' :: c :: text => readShort known (c :: text)
  | _ => ⟨[.value argument], none⟩

/-- The parts of a command's arguments. -/
def readItems (known : List OptionRule) : List String → List Item
  | [] => []
  | first :: next =>
    if first = "--" then next.map .value
    else
      let argument := readArgument known first
      match argument.open?, next with
      | none, next => argument.items ++ readItems known next
      | some item, value :: next =>
        if looksLikeOption value then argument.items ++ [.fault]
        else argument.items ++ item value :: readItems known next
      | some _, [] => argument.items ++ [.fault]

/-! ## Making a request -/

/-- Why no request of a command is made. -/
inductive Refusal where
  /-- The program explains itself instead. -/
  | help
  /-- The command does not take what is written. -/
  | misuse
  deriving DecidableEq, Repr

/-- The first reason not to make the request, of a command that takes so many values and has met
some options before. No option but the verbose one is repeated. -/
def refusal? (maxValues : Nat) (seen : List String) : List Item → Option Refusal
  | [] => none
  | .fault :: _ => some .misuse
  | .value text :: rest =>
    match maxValues with
    | 0 => some .misuse
    | more + 1 => if text = "" then some .misuse else refusal? more seen rest
  | .option name _ :: rest =>
    if name = helpRule.long || name = versionRule.long then some .help
    else if name = verboseRule.long then refusal? maxValues seen rest
    else if seen.contains name then some .misuse
    else refusal? maxValues (name :: seen) rest

/-- The first value without a name. -/
def firstValue? (items : List Item) : Option String :=
  items.findSome? fun
    | .value text => some text
    | _ => none

/-- The value of an option, if it is given. -/
def optionValue? (items : List Item) (name : String) : Option String :=
  items.findSome? fun
    | .option n (some value) => if n = name then some value else none
    | _ => none

def hasOption (items : List Item) (name : String) : Bool :=
  items.any fun
    | .option n _ => n = name
    | _ => false

/-- The value of an option, if it is given, read. -/
def readOption? (items : List Item) (name : String) (read? : String → Option α) : Option α :=
  (optionValue? items name).bind read?

/-- The request that the parts of a command's arguments make where nothing speaks against it. -/
def makeRequest? (subcommand : Subcommand) (items : List Item) : Option Request :=
  let text (name default : String) := (optionValue? items name).getD default
  let target := readOption? items "target" Deployment.ofWord?
  let template := readOption? items "template" Template.ofWord?
  let locale := (readOption? items "locale" Locale.ofWord?).getD .japanese
  match subcommand with
  | .init =>
    some (.init ((firstValue? items).getD ".") (text "preset" "simple-greeting")
      (target.getD .interactions) (hasOption items "force"))
  | .check => some (.check (text "spec" "bot.json"))
  | .compile =>
    some (.compile (text "spec" "bot.json") (text "output" "bot") target
      (template.getD .simpleText) locale (hasOption items "skip-validation"))
  | .infer =>
    (firstValue? items).map fun response =>
      .infer response (hasOption items "tree") (hasOption items "mappings") template locale
        ((readOption? items "max-depth" readDepth?).getD Catalogue.defaultDepth)
  | .env => some (.env (text "spec" "bot.json") target)

/-- The request that a command makes with its arguments. -/
def request? (subcommand : Subcommand) (arguments : List String) : Option Request :=
  let items := readItems (helpRule :: verboseRule :: rules subcommand) arguments
  match refusal? (maxValues subcommand) [] items with
  | some .help => some .help
  | some .misuse => none
  | none => makeRequest? subcommand items

/-- Whether the program can explain what the texts name: itself, or one of its commands. -/
def isHelpTopic : List String → Bool
  | [] => true
  | [name] => name = "help" || (Subcommand.ofName? name).isSome
  | _ => false

/-- The request that a command line makes, if it makes one. -/
def parse? : List String → Option Request
  | [] => none
  | first :: rest =>
    match Subcommand.ofName? first with
    | some subcommand => request? subcommand rest
    | none =>
      if first = "help" then if isHelpTopic rest then some .help else none
      else
        match refusal? 0 [] (readArgument commonRules first).items with
        | some .help => some .help
        | some .misuse => none
        | none => parse? rest

end Botwright.Cli
