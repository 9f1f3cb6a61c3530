import Botwright.Spec.Encode
import Botwright.Text.Case

/-!
The words by which users choose a language, a template or a deployment. Case and surrounding white
space do not matter, and there are more words than written specifications have.
-/
namespace Botwright

/-- A choice that users make by a word. -/
inductive Choice where
  | locale
  | template
  | deployment
  deriving DecidableEq, Repr

/-- A word in its plain form: without white space around it and in lower case. -/
def plainWord (s : String) : List Char := Text.lowerAscii (Text.trim s.toList)

/-- Dashes as underscores. -/
def dashesUnderscored (s : List Char) : List Char := s.map fun c => if c = '-' then '_' else c

/-- The word that is looked up for a choice. -/
def lookedUp (choice : Choice) (s : String) : String :=
  match choice with
  | .locale => String.ofList (plainWord s)
  | _ => String.ofList (dashesUnderscored (plainWord s))

def Locale.ofWord? (s : String) : Option Locale :=
  let word := lookedUp .locale s
  if ["ja", "jp", "japanese"].contains word then some .japanese
  else if ["en", "english"].contains word then some .english
  else none

def Template.ofWord? (s : String) : Option Template :=
  Template.all.find? (·.word = lookedUp .template s)

def Deployment.ofWord? (s : String) : Option Deployment :=
  let word := lookedUp .deployment s
  if ["interactions", "interactions_endpoint", "serverless"].contains word then some .interactions
  else if ["gateway", "persistent"].contains word then some .gateway
  else none

/-- What is said of a word that makes no choice. A template is shown as it was written. -/
def Choice.refusal (choice : Choice) (s : String) : String :=
  match choice with
  | .locale => "unknown locale '" ++ lookedUp choice s ++ "' (expected ja or en)"
  | .template =>
    "unknown template '" ++ s ++
      "' (expected simple_text, multi_line, embed or json_formatted)"
  | .deployment =>
    "unknown deployment target '" ++ lookedUp choice s ++ "' (expected interactions or gateway)"

end Botwright
