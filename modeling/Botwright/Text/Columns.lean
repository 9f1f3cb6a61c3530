import Botwright.Text.ColumnTable
import Botwright.Text.Emoji
import Botwright.Text.Ligature

/-!
The number of terminal columns that a text takes. A text is read from its end: what a character adds
depends on what stands after it, for letters may be drawn together, emoji make sequences, and a
selector changes the character before it.
-/
namespace Botwright.Text

/-- The form that a selector asks for. -/
inductive Style where
  | emoji
  | text
  /-- The wide form of a quotation mark. -/
  | wide
  deriving DecidableEq, Repr

/-- The style that a selector asks for. -/
def Style.ofSelector? (c : Char) : Option Style :=
  if c = '\ufe0f' then some .emoji
  else if c = '\ufe0e' then some .text
  else if c = '\ufe01' then some .wide
  else none

/-- What stands after a character and may be drawn together with it. -/
inductive Neighbour where
  | other
  | lineFeed
  | ligature (ending : Ligature)
  | emoji (ending : EmojiEnd)
  deriving DecidableEq, Repr

/-- The neighbour that a character is by itself. -/
def Neighbour.ofChar (c : Char) : Neighbour :=
  match EmojiEnd.ofChar? c with
  | some ending => .emoji ending
  | none =>
    match Ligature.ofChar? c with
    | some ending => .ligature ending
    | none => .other

/-- The neighbour that an open end of a ligature is, if there is one. -/
def Neighbour.ofLigature : Option Ligature → Neighbour
  | some ending => .ligature ending
  | none => .other

/-- Whether an emoji before the neighbour adds no columns. -/
def Neighbour.isJoined : Neighbour → Bool
  | .emoji ending => ending.isJoined
  | _ => false

/-- What is left of a neighbour across a selector that fits nothing. -/
def Neighbour.acrossStyle : Neighbour → Neighbour
  | .ligature ending => if ending.keepsStyle then .ligature ending else .other
  | _ => .other

/-- What stands after a character: the neighbour and the selector between them. -/
structure Following where
  neighbour : Neighbour
  style : Option Style

namespace Following

/-- A character without a part in anything larger, or the end of the text. -/
def plain : Following := ⟨.other, none⟩

/-- The columns of a character in the style that is asked for, where it has that style. -/
def styled? (following : Following) (c : Char) : Option (Int × Following) :=
  match following.style with
  | some .emoji =>
    if isTwofold c then
      some (if following.neighbour.isJoined then 0 else 2, ⟨.emoji .whole, none⟩)
    else none
  | some .text =>
    if isTwofold c && isEmoji c && !Ranges.has [(0x1F200, 0x1F2FF)] c then some (1, plain)
    else none
  | some .wide =>
    if Ranges.has [(0x2018, 0x2019), (0x201C, 0x201D)] c then some (2, plain) else none
  | none => none

/-- The neighbour of a character for which the selector after it means nothing. -/
def bare (following : Following) : Neighbour :=
  match following.style with
  | some _ => following.neighbour.acrossStyle
  | none => following.neighbour

end Following

/-- What a selector leaves visible of the neighbour after it. Joiners are seen across the selector
of the emoji form. -/
def Neighbour.withStyle (neighbour : Neighbour) (style : Style) : Following :=
  if style = .emoji && neighbour.isJoined then ⟨neighbour, some style⟩
  else ⟨neighbour.acrossStyle, some style⟩

/-- The columns of a control character or of one of the first scripts. A line end of two characters
takes one. -/
def Neighbour.basic (neighbour : Neighbour) (c : Char) : Int × Following :=
  if c = '\n' then (1, ⟨.lineFeed, none⟩)
  else if c = '\r' && neighbour = .lineFeed then (0, .plain)
  else (1, .plain)

/-- The columns of a character that is drawn together with its neighbour. -/
def Neighbour.joined? (neighbour : Neighbour) (c : Char) : Option (Int × Following) :=
  match neighbour with
  | .ligature ending =>
    (ending.add? c).map fun (added, ending) => (added, ⟨.ofLigature ending, none⟩)
  | .emoji ending => (ending.add? c).map fun (added, ending) => (added, ⟨.emoji ending, none⟩)
  | .other | .lineFeed => none

/-- The columns that a character adds to a text that follows it, and what the two are to the
character before them. -/
def Following.add (following : Following) (c : Char) : Int × Following :=
  match following.styled? c with
  | some placed => placed
  | none =>
    let neighbour := following.bare
    if c ≤ '\u00a0' then neighbour.basic c
    else
      match Style.ofSelector? c with
      | some style => (0, neighbour.withStyle style)
      | none => (neighbour.joined? c).getD (charColumns c, ⟨.ofChar c, none⟩)

/-- The columns of a text and what it is to a character before it. -/
def measure : List Char → Int × Following
  | [] => (0, .plain)
  | c :: rest =>
    let (sum, following) := measure rest
    let (added, following) := following.add c
    (sum + added, following)

/-- The columns of a text. -/
def columns (s : List Char) : Nat := (measure s).1.toNat

example : columns "天気".toList = 4 := by decide +kernel
example : columns "1\ufe0f\u20e3".toList = 2 := by decide +kernel
example : columns "لا".toList = 1 := by decide +kernel

end Botwright.Text
