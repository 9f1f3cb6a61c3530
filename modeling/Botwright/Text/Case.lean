import Botwright.Text.CaseTable

/-!
Lower and upper case as Unicode maps them: one character may become several, and a capital sigma at
the end of a word becomes the final form.
-/
namespace Botwright.Text

/-- The code point that a range of regularly spaced mappings gives, if the character is in one. -/
def mapRange? (ranges : List (Nat × Nat × Nat × Nat)) (c : Char) : Option Nat :=
  ranges.findSome? fun (first, last, step, image) =>
    if first ≤ c.toNat ∧ c.toNat ≤ last ∧ (c.toNat - first) % step = 0 then
      some (image + (c.toNat - first))
    else none

/-- The full mapping of one character: an expansion, another character, or itself. -/
def mapCase (ranges : List (Nat × Nat × Nat × Nat)) (expansions : List (Nat × List Nat))
    (c : Char) : List Char :=
  match expansions.lookup c.toNat with
  | some codes => codes.map Char.ofNat
  | none =>
    match mapRange? ranges c with
    | some code => [Char.ofNat code]
    | none => [c]

/-- The lower-case form of a character that stands alone. -/
def lowerChar (c : Char) : List Char := mapCase lowerRanges lowerExpansions c

/-- The upper-case form of a character. -/
def upperChar (c : Char) : List Char := mapCase upperRanges upperExpansions c

/-- Whether the first character that does not stand aside for case is a cased one. -/
def startsCased (s : List Char) : Bool :=
  match s.dropWhile caseIgnorableRanges.has with
  | [] => false
  | c :: _ => casedRanges.has c

/-- Lower case of the text after `before`, which is given in reverse. -/
def lowerAfter (before : List Char) : List Char → List Char
  | [] => []
  | c :: rest =>
    let lowered :=
      if c = 'Σ' then
        if startsCased before && !startsCased rest then ['ς'] else ['σ']
      else lowerChar c
    lowered ++ lowerAfter (c :: before) rest

/-- Lower case; a capital sigma that ends a word becomes the final sigma. -/
def lower (s : List Char) : List Char := lowerAfter [] s

/-- Lower case of ASCII letters only. -/
def lowerAscii (s : List Char) : List Char := s.map Char.toLower

/-- The text with its first character in upper case. -/
def capitalize : List Char → List Char
  | [] => []
  | c :: rest => upperChar c ++ rest

end Botwright.Text
