import Botwright.Text.Ranges

/-!
White space in the Unicode sense, and the texts that are blank. A blank text counts as absent
wherever a specification may leave a text out.
-/
namespace Botwright.Text

/-- The characters with the property White_Space. -/
def blankRanges : Ranges :=
  [(0x9, 0xD), (0x20, 0x20), (0x85, 0x85), (0xA0, 0xA0), (0x1680, 0x1680), (0x2000, 0x200A),
   (0x2028, 0x2029), (0x202F, 0x202F), (0x205F, 0x205F), (0x3000, 0x3000)]

/-- A character with the Unicode property White_Space. -/
def isBlank (c : Char) : Bool := blankRanges.has c

/-- A control character: U+0000 to U+001F and U+007F to U+009F. -/
def isControl (c : Char) : Bool := c.toNat < 0x20 || (0x7F ≤ c.toNat && c.toNat < 0xA0)

/-- Removes the characters of a class from the end. -/
def dropEndWhile (p : Char → Bool) (s : List Char) : List Char :=
  (s.reverse.dropWhile p).reverse

/-- Removes white space from the end. -/
def trimEnd (s : List Char) : List Char := dropEndWhile isBlank s

/-- Removes white space from both ends. -/
def trim (s : List Char) : List Char := trimEnd (s.dropWhile isBlank)

/-- A text of white space only, the empty text included. -/
def isBlankText (s : String) : Bool := s.toList.all isBlank

/-- A text that says something: absent, empty and blank texts are all `none`. -/
def nonBlank? (s : Option String) : Option String := s.filter fun t => !isBlankText t

theorem nonBlank?_none : nonBlank? none = none := rfl

theorem nonBlank?_eq_some_iff {s : Option String} {t : String} :
    nonBlank? s = some t ↔ s = some t ∧ isBlankText t = false := by
  cases s <;> simp [nonBlank?, Option.filter_eq_some_iff]

end Botwright.Text
