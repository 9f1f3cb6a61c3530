import Botwright.Text.ColumnTable
import Botwright.Text.Emoji

/-!
Letters of several scripts that are drawn together and so take fewer columns than they do apart. A
text is read from its end, so a ligature is known by its last letter first.
-/
namespace Botwright.Text

/-- The end of a ligature. `joined` says that a joiner stands in front of it. -/
inductive Ligature where
  /-- The Arabic letter alef, which a lam before it takes in. -/
  | alef
  /-- The Hebrew letter lamed, which is drawn with an alef that is joined to it. -/
  | lamed (joined : Bool)
  /-- The Buginese letter ya, which is drawn with the letter a and its vowel sign. -/
  | ya (joined : Bool)
  /-- The Buginese vowel sign i and the letter ya. -/
  | signIYa
  /-- A consonant of the Tifinagh script. -/
  | tifinagh (joined : Bool)
  /-- The joining sign of the Tifinagh script and a consonant. -/
  | tifinaghSign
  /-- The second of two Lisu tones. -/
  | lisuTone
  /-- The letter i of the Orkhon script, which is drawn with a letter ec that is joined to it. -/
  | orkhonI (joined : Bool)
  /-- A Khmer letter, which may stand below the one before it. -/
  | khmerLetter
  /-- The Kirat Rai vowel sign e. -/
  | vowelE
  /-- The Kirat Rai vowel sign ai. -/
  | vowelAi
  deriving DecidableEq, Repr

/-- The alefs that join the lam before them. -/
def isAlef (c : Char) : Bool :=
  Ranges.has
    [(0x622, 0x623), (0x625, 0x625), (0x627, 0x627), (0x671, 0x673), (0x675, 0x675),
     (0x773, 0x774), (0x870, 0x882)] c

/-- The letters lam. -/
def isLam (c : Char) : Bool :=
  Ranges.has
    [(0x644, 0x644), (0x6B5, 0x6B8), (0x76A, 0x76A), (0x8A6, 0x8A6), (0x8C7, 0x8C7)] c

/-- The Khmer letters that have a form below another. -/
def isKhmerLetter (c : Char) : Bool :=
  Ranges.has
    [(0x1780, 0x1782), (0x1784, 0x1787), (0x1789, 0x178C), (0x178E, 0x1793), (0x1795, 0x1798),
     (0x179B, 0x179D), (0x17A0, 0x17A0), (0x17A2, 0x17A2), (0x17A7, 0x17A7), (0x17AB, 0x17AC),
     (0x17AF, 0x17AF)] c

/-- The consonants of the Tifinagh script. -/
def isTifinaghConsonant (c : Char) : Bool := Ranges.has [(0x2D31, 0x2D65), (0x2D6F, 0x2D6F)] c

/-- The characters that choose a form of the letter before them; a ligature reaches across them. -/
def isFormSelector (c : Char) : Bool :=
  Ranges.has
    [(0x34F, 0x34F), (0x17B4, 0x17B5), (0x180B, 0x180D), (0x180F, 0x180F), (0xFE00, 0xFE0F),
     (0xE0100, 0xE01EF)] c

namespace Ligature

/-- The end of a ligature that a character is by itself. -/
def ofChar? (c : Char) : Option Ligature :=
  if c = '\u05dc' then some (.lamed false)
  else if isAlef c then some .alef
  else if isKhmerLetter c then some .khmerLetter
  else if c = '\u1a10' then some (.ya false)
  else if isTifinaghConsonant c then some (.tifinagh false)
  else if c = '\ua4fc' || c = '\ua4fd' then some .lisuTone
  else if c.toNat = 0x10C03 then some (.orkhonI false)
  else if c.toNat = 0x16D67 then some .vowelE
  else if c.toNat = 0x16D68 then some .vowelAi
  else none

/-- The end of a ligature behind a joiner. -/
def join : Ligature → Ligature
  | .lamed _ => .lamed true
  | .ya _ => .ya true
  | .tifinagh _ => .tifinagh true
  | .orkhonI _ => .orkhonI true
  | other => other

/-- Whether the ligature reaches across selectors of a style. -/
def keepsStyle : Ligature → Bool
  | .vowelE | .vowelAi => false
  | _ => true

/-- Whether the ligature reaches across joiners and selectors of a form. -/
def spansJoiners : Ligature → Bool
  | .alef | .vowelE | .vowelAi => false
  | _ => true

/-- The columns that a letter adds to the end of a ligature, and what is then the end of one. -/
def addLetter? (ligature : Ligature) (c : Char) : Option (Int × Option Ligature) :=
  match ligature with
  | .alef =>
    if isLam c then some (0, none) else if isOverlaid c then some (0, some .alef) else none
  | .lamed joined => if joined && c = '\u05d0' then some (0, none) else none
  | .ya joined => if joined && c = '\u1a17' then some (0, some .signIYa) else none
  | .signIYa => if c = '\u1a15' then some (0, none) else none
  | .tifinagh joined =>
    if c = '\u2d7f' then some (1, some .tifinaghSign)
    else if joined && isTifinaghConsonant c then some (0, none)
    else none
  | .tifinaghSign => if isTifinaghConsonant c then some (-1, none) else none
  | .lisuTone => if '\ua4f8' ≤ c && c ≤ '\ua4fb' then some (0, none) else none
  | .orkhonI joined => if joined && c.toNat = 0x10C32 then some (0, none) else none
  | .khmerLetter => if c = '\u17d2' then some (-1, none) else none
  | .vowelE =>
    if c.toNat = 0x16D63 || c.toNat = 0x16D69 then some (0, none)
    else if c.toNat = 0x16D67 then some (0, some .vowelAi)
    else if c.toNat = 0x16D68 then some (1, some .vowelE)
    else none
  | .vowelAi => if c.toNat = 0x16D63 then some (0, none) else none

/-- The columns that a character adds to the end of a ligature, and what is then the end of one,
where the character belongs to it. -/
def add? (ligature : Ligature) (c : Char) : Option (Int × Option Ligature) :=
  if ligature.spansJoiners && c = joiner then some (0, some ligature.join)
  else if ligature.spansJoiners && isFormSelector c then some (0, some ligature)
  else ligature.addLetter? c

end Ligature

end Botwright.Text
