import Botwright.Text.Split

/-!
Generated source as a tree of lines and blocks. Writing a tree indents every line by two spaces a
level; lines without text are not indented.
-/
namespace Botwright.Script

/-- A piece of source. -/
inductive Code where
  /-- A text, each of whose lines is indented. -/
  | line (text : String)
  /-- A text that is written as it is, ended by a line end. -/
  | raw (text : String)
  | blank
  /-- A body one level deeper between two lines. -/
  | block (opening closing : String) (body : List Code)
  /-- A body one level deeper. -/
  | indented (body : List Code)

namespace Code

/-- A line of text at a depth, with its line end. -/
def indentLine (depth : Nat) (text : List Char) : List Char :=
  if text = [] then ['\n'] else List.replicate (2 * depth) ' ' ++ text ++ ['\n']

/-- Each line of a text at a depth. -/
def indentLines (depth : Nat) (text : String) : List Char :=
  (Text.pieces (· = '\n') text.toList).flatMap (indentLine depth)

/-- A text that is written as it is. It is ended by a line end unless it has one; an empty text
needs one only where nothing stands before it. -/
def rawText (first : Bool) (text : List Char) : List Char :=
  match text.getLast? with
  | none => if first then ['\n'] else []
  | some c => if c = '\n' then text else text ++ ['\n']

mutual

/-- The text of a piece at a depth. What stands before it is either nothing, if the piece is the
first, or ends with a line end. -/
def write (depth : Nat) (first : Bool) : Code → List Char
  | line text => indentLines depth text
  | raw text => rawText first text.toList
  | blank => ['\n']
  | block opening closing body =>
    indentLines depth opening ++ writeAll (depth + 1) false body ++ indentLines depth closing
  | indented body => writeAll (depth + 1) first body

/-- The text of consecutive pieces at a depth. -/
def writeAll (depth : Nat) (first : Bool) : List Code → List Char
  | [] => []
  | piece :: rest =>
    let text := write depth first piece
    text ++ writeAll depth (first && text.isEmpty) rest

end

/-- The source text of pieces that stand at a depth. -/
def render (depth : Nat) (pieces : List Code) : String :=
  String.ofList (writeAll depth true pieces)

/-- Consecutive lines. -/
def lines (texts : List String) : List Code := texts.map line

end Code

end Botwright.Script
