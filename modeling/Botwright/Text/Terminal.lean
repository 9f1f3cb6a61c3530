import Botwright.Text.Columns

/-!
Text for a terminal. A control sequence begins with an escape character or its one-character form
and takes no columns; what stands between two sequences is measured by itself.
-/
namespace Botwright.Text

/-- How far a control sequence has been read. -/
inductive SequenceStage where
  /-- After the introducer. -/
  | opened
  /-- After the parenthesis that chooses a character set. -/
  | charset
  /-- After a mark that parameters may follow. -/
  | marked
  /-- Within a number, after some digits. -/
  | digits (count : Nat)
  /-- After a number and a semicolon. -/
  | separated
  | finished
  deriving DecidableEq, Repr

/-- The characters that begin a control sequence. -/
def isIntroducer (c : Char) : Bool := c = '\x1b' || c = '\u009b'

namespace SequenceStage

/-- The letters and signs that end a control sequence. -/
def isFinal (c : Char) : Bool :=
  ('A' ≤ c && c ≤ 'P') || c = 'R' || c = 'Z' || c = 'c' || ('f' ≤ c && c ≤ 'n') || c = 'q' ||
    c = 'r' || c = 'y' || c = '=' || c = '>' || c = '<'

/-- The stage after a digit. A number has up to five; a character set may be a single one. -/
def nextDigit? (c : Char) : SequenceStage → Option SequenceStage
  | .opened | .marked | .separated => some (.digits 1)
  | .charset => some (if c ≤ '2' then .finished else .digits 1)
  | .digits n => if n < 5 then some (.digits (n + 1)) else none
  | .finished => none

/-- The stage after a semicolon. -/
def nextSeparator? : SequenceStage → Option SequenceStage
  | .opened | .charset | .marked => some .marked
  | .digits n => if n < 5 then some .separated else none
  | .separated => some .separated
  | .finished => none

/-- The stage after a mark. -/
def nextMark? (c : Char) : SequenceStage → Option SequenceStage
  | .opened => some (if c = '(' || c = ')' then .charset else .marked)
  | .charset | .marked => some .marked
  | _ => none

/-- Whether a final letter may follow. -/
def isClosable : SequenceStage → Bool
  | .digits n => n < 5
  | .finished => false
  | _ => true

/-- The stage after one more character, where the sequence can go on with it. -/
def next? (stage : SequenceStage) (c : Char) : Option SequenceStage :=
  if c.isDigit then stage.nextDigit? c
  else if c = ';' then stage.nextSeparator?
  else if ['(', ')', '[', '#', '?'].contains c then stage.nextMark? c
  else if isFinal c && stage.isClosable then some .finished
  else none

/-- Whether the sequence may end here. -/
def isComplete : SequenceStage → Bool
  | .digits _ | .finished => true
  | _ => false

/-- The length of the longest rest of a sequence with which a text begins. -/
def length? (stage : SequenceStage) : List Char → Option Nat
  | [] => if stage.isComplete then some 0 else none
  | c :: rest =>
    match (stage.next? c).bind fun next => next.length? rest with
    | some n => some (n + 1)
    | none => if stage.isComplete then some 0 else none

end SequenceStage

/-- The text between control sequences, in pieces, some of them empty. `hidden` tells how many
characters still belong to a sequence. -/
def visiblePieces (hidden : Nat) : List Char → List (List Char)
  | [] => [[]]
  | c :: rest =>
    match hidden with
    | more + 1 => visiblePieces more rest
    | 0 =>
      match if isIntroducer c then SequenceStage.opened.length? rest else none with
      | some length => [] :: visiblePieces length rest
      | none =>
        match visiblePieces 0 rest with
        | piece :: pieces => (c :: piece) :: pieces
        | [] => [[c]]

/-- The columns of a text on a terminal. -/
def terminalColumns (s : List Char) : Nat :=
  (visiblePieces 0 s).foldl (fun sum piece => sum + columns piece) 0

/-- A text filled up to a number of columns with spaces on the right. -/
def padColumns (width : Nat) (s : List Char) : List Char :=
  s ++ List.replicate (width - terminalColumns s) ' '

example : terminalColumns "\x1b[1mbold\x1b[0m".toList = 4 := by decide +kernel
example : terminalColumns "\x1b]0;t".toList = 5 := by decide +kernel

end Botwright.Text
