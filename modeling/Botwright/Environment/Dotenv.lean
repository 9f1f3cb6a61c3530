import Botwright.Environment.Table

/-!
Environment variables as dotenv text, one `NAME=value` a line. A value with white space, a hash or a
double quote stands in double quotes, in which line feeds are escaped, so that no value breaks its
line.
-/
namespace Botwright.Environment

/-- A character that a bare value may not hold. -/
def needsQuotes (c : Char) : Bool := Text.isBlank c || c = '#' || c = '"'

/-- A character inside a quoted value. -/
def quotedValueChar (c : Char) : List Char :=
  if c = '\\' then ['\\', '\\']
  else if c = '"' then ['\\', '"']
  else if c = '\n' then ['\\', 'n']
  else [c]

/-- A value as it is written after the equals sign. -/
def dotenvChars (value : List Char) : List Char :=
  if value.any needsQuotes then '"' :: value.flatMap quotedValueChar ++ ['"'] else value

/-- The line of a variable, with its line end. -/
def dotenvLine (name value : String) : String :=
  name ++ "=" ++ String.ofList (dotenvChars value.toList) ++ "\n"

/-- The variables as dotenv text. -/
def dotenv (environment : List Variable) : String :=
  String.join (environment.map fun v => dotenvLine v.name v.value)

/-- A row as an example: its description as a comment, and its value unless that is secret. -/
def exampleEntry (row : Row) : String :=
  "# " ++ row.var.description ++ "\n" ++
    dotenvLine row.var.name (if row.secret then "" else row.var.value)

/-- The example file of a deployment, which holds no secret. -/
def dotenvExample (bot : Bot) (deployment : Deployment) (profiles : List Profile) : String :=
  "\n".intercalate ((rows bot deployment profiles none).map exampleEntry)

end Botwright.Environment
