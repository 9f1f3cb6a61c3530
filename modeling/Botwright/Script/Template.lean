import Botwright.Script.Literal

/-!
Template literals made from text with placeholders. A text is split into plain parts and holes from
left to right without rescanning; a placeholder that nothing fills stays part of the plain text
around it.
-/
namespace Botwright.Script

/-- A part of a template: plain text, or a hole with the text it was written as and the expression
that fills it. -/
inductive Part where
  | text (plain : List Char)
  | hole (written : List Char) (expression : String)
  deriving DecidableEq, Repr

namespace Part

/-- The parts with a plain text in front, which joins a plain text there. -/
def addText (plain : List Char) : List Part → List Part
  | text more :: rest => text (plain ++ more) :: rest
  | parts => text plain :: parts

/-- Splits a text. `recognise` says which placeholder begins at a place, if one does, and how many
characters belong to it after its first; `fill` gives the expression for a placeholder. -/
def split (recognise : List Char → Option (α × Nat)) (fill : α → Option String) :
    List Char → List Part
  | [] => []
  | c :: rest =>
    match recognise (c :: rest) with
    | none => addText [c] (split recognise fill rest)
    | some (placeholder, more) =>
      let after := split recognise fill (rest.drop more)
      match fill placeholder with
      | some expression => hole (c :: rest.take more) expression :: after
      | none => addText (c :: rest.take more) after
termination_by s => s.length
decreasing_by all_goals simp only [List.length_cons, List.length_drop]; omega

/-- A part as it stands between the backticks. -/
def template : Part → String
  | text plain => String.ofList (templateChars plain)
  | hole _ expression => "$\x7b" ++ expression ++ "\x7d"

/-- The expressions of the holes in order, each of them once. -/
def expressions (parts : List Part) : List String :=
  (parts.filterMap fun
    | text _ => none
    | hole _ expression => some expression).eraseDups

/-- Parts as they stand between the backticks. -/
def templates (parts : List Part) : String := String.join (parts.map template)

end Part

/-- A character that opens or closes a placeholder. -/
def isBrace (c : Char) : Bool := c = '{' || c = '}'

/-- The brace group at the start of a text: what stands between its braces, and how many characters
belong to it after the opening one. -/
def braceGroup? : List Char → Option (List Char × Nat)
  | '{' :: rest =>
    let inner := rest.takeWhile fun c => !isBrace c
    if (rest.drop inner.length).head? = some '}' then some (inner, inner.length + 1) else none
  | _ => none

end Botwright.Script
