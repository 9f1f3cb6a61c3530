import Botwright.Text.Terminal
import Botwright.Text.Decimal

/-!
The lines that the command line prints: marks, boxes, and trees. Every line ends with a line end.
-/
namespace Botwright.Cli.Screen

/-- A text with its line end. -/
def printed (s : String) : String := s ++ "\n"

/-- The empty line. -/
def emptyLine : String := printed ""

/-- The version of the program. -/
def version : String := "0.1.0"

/-- The heading of a run. -/
def heading : String := printed ("  ◆ botforge " ++ version) ++ emptyLine

def success (message : String) : String := printed ("  ◉ " ++ message)

def warning (message : String) : String := printed ("  ◆ " ++ message)

def note (message : String) : String := printed ("  ◇ " ++ message)

def plain (message : String) : String := printed ("  " ++ message)

/-- Several times the same character. -/
def repeated (count : Nat) (c : Char) : String := String.ofList (List.replicate count c)

/-- The width of a box. -/
def boxWidth : Nat := 55

def boxTop (title : String) : String :=
  let padded := " " ++ title ++ " "
  printed ("  ╭─" ++ padded ++ repeated (boxWidth - (padded.length + 4)) '─' ++ "╮")

def boxLine (content : String) : String :=
  printed ("  │ " ++ String.ofList (Text.padColumns (boxWidth - 2) content.toList) ++ "│")

def boxBottom : String := printed ("  ╰" ++ repeated (boxWidth - 2) '─' ++ "╯")

/-- A box with an empty line above and below its lines, which are given whole. -/
def box (title : String) (lines : List String) : String :=
  boxTop title ++ boxLine "" ++ String.join lines ++ boxLine "" ++ boxBottom ++ emptyLine

/-- The title of the box that says how to go on. -/
def nextTitle : String := "─▸ What's Next"

/-- A node of a tree: its name and a remark. -/
def treeLine (depth : Nat) (name remark : String) (last : Bool) : String :=
  plain (String.join (List.replicate depth "│  ") ++ (if last then "╰──" else "├──") ++ "  " ++
    name ++ "   " ++ remark)

/-- The line of a command in a summary. -/
def commandLine (name kind : String) (options : Nat) : String :=
  plain ("▸   /" ++ String.ofList (Text.padRight 20 name.toList) ++ " " ++
    String.ofList (Text.padRight 12 kind.toList) ++ " " ++
    String.ofList (Text.decimal options) ++ " option(s)")

/-- How long something took. -/
def timing (label : String) (milliseconds : Nat) : String :=
  note (label ++ " in " ++ String.ofList (Text.decimal milliseconds) ++ "ms")

/-- The heading of a refusal. -/
def refusal : String := emptyLine ++ warning "Not quite." ++ emptyLine

def approval : String := success "Looking good."

/-- A text cut to a number of characters, with an ellipsis for what is missing. -/
def shortened (width : Nat) (s : String) : String :=
  if s.length ≤ width then s else String.ofList (s.toList.take (width - 1)) ++ "…"

end Botwright.Cli.Screen
