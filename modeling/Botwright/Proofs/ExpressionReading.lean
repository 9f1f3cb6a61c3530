import Mathlib.Algebra.Order.Floor.Ring
import Botwright.Proofs.LiteralReading

/-! A reader for the expressions that draw at random: arithmetic over whole numbers and
`Math.random()`, and the item of a list of strings at a position. A text is split into
tokens, and the tokens are read by the precedence that the language gives its operators;
what is not in this part of the language is refused. -/
namespace Botwright.ExpressionReading
open Script LiteralReading

/-! ## Tokens -/

/-- The marks that expressions are built with. -/
inductive Mark where
  | dot | comma | opening | closing | openBracket | closeBracket | plus | minus | times
  deriving DecidableEq, Repr

def Mark.char : Mark → Char
  | dot => '.'
  | comma => ','
  | opening => '('
  | closing => ')'
  | openBracket => '['
  | closeBracket => ']'
  | plus => '+'
  | minus => '-'
  | times => '*'

/-- The marks that stand between or before operands. -/
def Mark.operator : Mark → Bool
  | plus | minus | times => true
  | _ => false

def marks : List Mark :=
  [.dot, .comma, .opening, .closing, .openBracket, .closeBracket, .plus, .minus, .times]

inductive Token where
  | number (n : Nat)
  | text (content : List Char)
  | name (word : String)
  | mark (m : Mark)
  deriving DecidableEq, Repr

/-- A character behind a token would make another token of it: a longer name or number, a
doubled operator, or an assignment. -/
def Token.runsOn : Token → Char → Bool
  | number _, c => isWordPart c || c = '.'
  | name _, c => isWordPart c
  | text _, _ => false
  | mark m, c => m.operator && (c = m.char || c = '=')

/-- A token is read if what follows does not belong to it. -/
def settled (token : Token) (rest : List Char) : Option (Token × List Char) :=
  if rest.head?.any token.runsOn then none else some (token, rest)

/-- The token at the start of a text, by its first character. -/
def readToken : Reader Token := fun s =>
  let s := s.dropWhile (· = ' ')
  match s with
  | [] => none
  | c :: rest =>
    if c.isDigit then (readNumber s).bind fun (n, rest) => settled (.number n) rest
    else if c = '\'' then (readString s).bind fun (content, rest) => settled (.text content) rest
    else match marks.find? (·.char = c) with
      | some m => settled (.mark m) rest
      | none => (readName languageNames s).bind fun (word, rest) => settled (.name word) rest

/-- The tokens of a text that has nothing else in it. -/
def tokens? (s : List Char) : Option (List Token) :=
  let (tokens, rest) := readMany readToken s
  if rest = [] then some tokens else none

/-! ## Expressions -/

/-- Arithmetic over a random number. -/
inductive Arithmetic where
  | literal (n : Nat)
  | random
  | negative (a : Arithmetic)
  | sum (a b : Arithmetic)
  | difference (a b : Arithmetic)
  | product (a b : Arithmetic)
  | floor (a : Arithmetic)
  deriving DecidableEq, Repr

/-- The exact value of an expression where `Math.random()` is `u`. -/
def Arithmetic.at [Ring K] [LinearOrder K] [FloorRing K] (u : K) : Arithmetic → K
  | literal n => n
  | random => u
  | negative a => -a.at u
  | sum a b => a.at u + b.at u
  | difference a b => a.at u - b.at u
  | product a b => a.at u * b.at u
  | floor a => (⌊a.at u⌋ : ℤ)

/-- What may fill a substitution: a number, or the item of a list at a position. -/
inductive Drawn where
  | number (value : Arithmetic)
  | item (items : List (List Char)) (position : Arithmetic)
  deriving DecidableEq, Repr

/-- Takes something off the start of a list of tokens. -/
abbrev Parser (α : Type) := List Token → Option (α × List Token)

/-- The closing mark behind something. -/
def enclosed (inner : Parser α) (close : Mark) : Parser α := fun tokens => do
  match ← inner tokens with
  | (a, .mark m :: rest) => if m = close then some (a, rest) else none
  | _ => none

/-- An operand, in which `inner` reads what stands in parentheses. -/
def readOperand (inner : Parser Arithmetic) : Parser Arithmetic
  | .mark .minus :: rest => (readOperand inner rest).map fun (a, rest) => (.negative a, rest)
  | .number n :: rest => some (.literal n, rest)
  | .mark .opening :: rest => enclosed inner .closing rest
  | .name word :: .mark .dot :: .name function :: .mark .opening :: rest =>
    if word = "Math" ∧ function = "random" ∧ rest.head? = some (.mark .closing) then
      some (.random, rest.tail)
    else if word = "Math" ∧ function = "floor" then
      (enclosed inner .closing rest).map fun (a, rest) => (.floor a, rest)
    else none
  | _ => none

/-- What an operator between two operands makes of them. -/
abbrev Operators := Mark → Option (Arithmetic → Arithmetic → Arithmetic)

/-- Operands behind a first one, joined from the left. The bound is the number of tokens,
of which each operand takes some. -/
def readChain (operand : Parser Arithmetic) (operators : Operators) :
    Nat → Arithmetic → Parser Arithmetic
  | bound + 1, first, .mark m :: rest =>
    match operators m with
    | some join => do
      let (next, rest) ← operand rest
      readChain operand operators bound (join first next) rest
    | none => some (first, .mark m :: rest)
  | _, first, rest => some (first, rest)

/-- Operands with operators of one level between them. -/
def readLevel (operand : Parser Arithmetic) (operators : Operators) : Parser Arithmetic :=
  fun tokens => do
    let (first, rest) ← operand tokens
    readChain operand operators rest.length first rest

/-- The operators that bind most. -/
def products : Operators
  | .times => some .product
  | _ => none

def sums : Operators
  | .plus => some .sum
  | .minus => some .difference
  | _ => none

/-- An expression with parentheses up to a depth. -/
def readArithmetic : Nat → Parser Arithmetic
  | 0 => fun _ => none
  | depth + 1 => readLevel (readLevel (readOperand (readArithmetic depth)) products) sums

/-- The strings of a list, from behind its opening bracket. -/
def readTexts : Parser (List (List Char))
  | .text content :: .mark .comma :: rest =>
    (readTexts rest).map fun (more, rest) => (content :: more, rest)
  | .text content :: .mark .closeBracket :: rest => some ([content], rest)
  | _ => none

/-- The expression that some tokens are. No parentheses are deeper than there are tokens. -/
def drawnOf? : List Token → Option Drawn
  | .mark .openBracket :: rest => do
    match ← readTexts rest with
    | (items, .mark .openBracket :: rest) =>
      match ← enclosed (readArithmetic rest.length) .closeBracket rest with
      | (position, []) => some (.item items position)
      | _ => none
    | _ => none
  | tokens => do
    match ← readArithmetic tokens.length tokens with
    | (value, []) => some (.number value)
    | _ => none

/-- The expression that a text is, read whole. -/
def drawn? (text : String) : Option Drawn := (tokens? text.toList).bind drawnOf?

/-! ## Tokens are read back -/

/-- A token as it is written. -/
def Token.spelled : Token → List Char
  | number n => Text.decimal n
  | text content => quoted content
  | name word => word.toList
  | mark m => [m.char]

/-- A token that can be written: a name is an identifier, and one of the language. -/
def Token.spellable : Token → Bool
  | name word => isIdentifier word && languageNames word
  | _ => true

/-- Tokens one after the other, with a space in front of some. -/
def layout (laid : List (Bool × Token)) : List Char :=
  laid.flatMap fun (spaced, token) => (if spaced then [' '] else []) ++ token.spelled

theorem layout_cons (spaced : Bool) (token : Token) (laid : List (Bool × Token)) :
    layout ((spaced, token) :: laid) =
      (if spaced then [' '] else []) ++ (token.spelled ++ layout laid) := by
  rw [layout, List.flatMap_cons, List.append_assoc]
  rfl

theorem layout_append (front back : List (Bool × Token)) :
    layout (front ++ back) = layout front ++ layout back :=
  List.flatMap_append

/-- Two tokens that would be read as something else without a space between them. -/
def Token.touches : Token → Token → Bool
  | number _, number _ | number _, name _ | name _, number _ | name _, name _ => true
  | number _, mark m => m = .dot
  | mark m, mark n => m.operator && m = n
  | _, _ => false

/-- The tokens can be written, and there is a space where there has to be one. -/
def wellLaid : List (Bool × Token) → Bool
  | [] => true
  | [(_, token)] => token.spellable
  | (_, token) :: (spaced, next) :: rest =>
    token.spellable && (spaced || !token.touches next) && wellLaid ((spaced, next) :: rest)

theorem find_mark (m : Mark) : marks.find? (·.char = m.char) = some m := by
  cases m <;> decide

/-- A mark is not part of a name. -/
theorem mark_outside (m : Mark) : isWordPart m.char = false := by
  cases m <;> decide

theorem decimal_head (n : Nat) : ∀ c ∈ (Text.decimal n).head?, c.isDigit = true := fun _ held =>
  Nat.isDigit_of_mem_toDigits (by decide) (by decide) (List.mem_of_mem_head? held)

theorem name_spellable (spellable : (Token.name word).spellable = true) :
    isIdentifier word = true ∧ languageNames word = true :=
  Bool.and_eq_true_iff.mp spellable

theorem name_head (identifier : isIdentifier word = true) :
    ∃ c rest, word.toList = c :: rest ∧ isIdentifierStart c = true := by
  rw [isIdentifier] at identifier
  cases shape : word.toList with
  | nil => simp [shape, isIdentifierText] at identifier
  | cons c rest =>
    rw [shape, BindingAllocation.identifier_cons] at identifier
    exact ⟨c, rest, rfl, identifier.1⟩

theorem spelled_ne_nil {token : Token} (spellable : token.spellable = true) :
    token.spelled ≠ [] := by
  cases token with
  | number n => exact Nat.toDigits_ne_nil
  | text content => simp [Token.spelled, quoted]
  | name word =>
    obtain ⟨c, rest, shape, -⟩ := name_head (name_spellable spellable).1
    simp [Token.spelled, shape]
  | mark m => simp [Token.spelled]

/-- The part of a name is not a mark behind an operator. -/
theorem not_operator_of_part (part : isWordPart c = true) (m : Mark) :
    (Token.mark m).runsOn c = false := by
  have apart : c ≠ m.char := fun same => by simp [same, mark_outside] at part
  have assigned : c ≠ '=' := fun same => absurd (same ▸ part) (by decide)
  simp [Token.runsOn, apart, assigned]

/-- Tokens that do not touch are apart where the second follows the first. -/
theorem runs_on_head (apart : Token.touches token next = false)
    (spellable : next.spellable = true) (head : next.spelled.head? = some c) :
    token.runsOn c = false := by
  cases next with
  | number n =>
    have digit : c.isDigit = true := decimal_head n c head
    have part : isWordPart c = true := by simp [isWordPart, Char.isAlphanum, digit]
    cases token with
    | mark m => exact not_operator_of_part part m
    | text => rfl
    | number | name => cases apart
  | name word =>
    obtain ⟨d, rest, shape, start⟩ := name_head (name_spellable spellable).1
    have same : c = d := by simpa [Token.spelled, shape] using head.symm
    have part : isWordPart c = true := word_of_part (LiteralScan.part_of_start (same ▸ start))
    cases token with
    | mark m => exact not_operator_of_part part m
    | text => rfl
    | number | name => cases apart
  | text content =>
    have same : c = '\'' := by simpa [Token.spelled, quoted] using head.symm
    subst same
    cases token with
    | mark m => cases m <;> decide
    | text | number | name => rfl
  | mark n =>
    have same : c = n.char := by simpa [Token.spelled] using head.symm
    subst same
    cases token with
    | mark m => cases m <;> cases n <;> first | rfl | cases apart
    | text => rfl
    | number => cases n <;> first | rfl | cases apart
    | name => exact mark_outside n

theorem settled_apart (apart : ∀ c ∈ rest.head?, token.runsOn c = false) :
    settled token rest = some (token, rest) := by
  have apart : rest.head?.any token.runsOn = false := by
    cases head : rest.head? with
    | none => rfl
    | some c => simpa using apart c head
  rw [settled, apart, if_neg Bool.false_ne_true]

theorem read_token_space (s : List Char) : readToken (' ' :: s) = readToken s := by
  simp [readToken]

/-- A token is read by its first character. -/
theorem read_token_cons (visible : c ≠ ' ') : readToken (c :: rest) =
    if c.isDigit then (readNumber (c :: rest)).bind fun (n, rest) => settled (.number n) rest
    else if c = '\'' then
      (readString (c :: rest)).bind fun (content, rest) => settled (.text content) rest
    else match marks.find? (·.char = c) with
      | some m => settled (.mark m) rest
      | none =>
        (readName languageNames (c :: rest)).bind fun (word, rest) =>
          settled (.name word) rest := by
  simp [readToken, visible]

theorem no_mark_of_part (part : isWordPart c = true) :
    marks.find? (·.char = c) = none := by
  rw [List.find?_eq_none]
  rintro m - same
  simp [← of_decide_eq_true same, mark_outside] at part

/-- A token is read back if what follows does not belong to it. -/
theorem read_token (spellable : token.spellable = true)
    (apart : ∀ c ∈ rest.head?, token.runsOn c = false) :
    readToken (token.spelled ++ rest) = some (token, rest) := by
  cases token with
  | number n =>
    obtain ⟨c, more, shape⟩ := List.exists_cons_of_ne_nil
      (show Text.decimal n ≠ [] from Nat.toDigits_ne_nil)
    have digit : c.isDigit = true := decimal_head n c (by simp [shape])
    have visible : c ≠ ' ' := fun same => absurd (same ▸ digit) (by decide)
    have read : readNumber (Text.decimal n ++ rest) = some (n, rest) := by
      refine read_decimal n fun d head => ?_
      have outside := apart d head
      simp only [Token.runsOn, isWordPart, Char.isAlphanum, Bool.or_eq_false_iff] at outside
      exact outside.1.1.2.2
    rw [shape, List.cons_append] at read
    rw [Token.spelled, shape, List.cons_append, read_token_cons visible, if_pos digit, read]
    exact settled_apart apart
  | text content =>
    have read := read_quoted content rest
    rw [quoted, List.cons_append, List.cons_append] at read
    rw [Token.spelled, quoted, List.cons_append, List.cons_append,
      read_token_cons (by decide), if_neg (by decide), if_pos rfl, read]
    exact settled_apart apart
  | name word =>
    obtain ⟨identifier, admitted⟩ := name_spellable spellable
    obtain ⟨c, more, shape, start⟩ := name_head identifier
    have part : isWordPart c = true := word_of_part (LiteralScan.part_of_start start)
    have visible : c ≠ ' ' := fun same => absurd (same ▸ part) (by decide)
    have unquoted : c ≠ '\'' := fun same => absurd (same ▸ part) (by decide)
    have letter : ¬ c.isDigit = true := by simp [digit_not_start start]
    have read : readName languageNames (word.toList ++ rest) = some (word, rest) :=
      read_name identifier admitted apart
    rw [shape, List.cons_append] at read
    rw [Token.spelled, shape, List.cons_append, read_token_cons visible, if_neg letter,
      if_neg unquoted, no_mark_of_part part, read]
    exact settled_apart apart
  | mark m =>
    have bare : m.char ≠ ' ' ∧ m.char.isDigit = false ∧ m.char ≠ '\'' := by cases m <;> decide
    obtain ⟨visible, letter, unquoted⟩ := bare
    rw [Token.spelled, List.singleton_append, read_token_cons visible, letter,
      if_neg Bool.false_ne_true, if_neg unquoted, find_mark]
    exact settled_apart apart

theorem well_laid_cons (well : wellLaid ((spaced, token) :: laid) = true) :
    token.spellable = true ∧ (∀ c ∈ (layout laid).head?, token.runsOn c = false) ∧
      wellLaid laid = true := by
  cases laid with
  | nil => exact ⟨well, by simp [layout], rfl⟩
  | cons second laid =>
    obtain ⟨gap, next⟩ := second
    simp only [wellLaid, Bool.and_eq_true] at well
    obtain ⟨⟨spellable, apart⟩, later⟩ := well
    refine ⟨spellable, fun c head => ?_, later⟩
    have nextSpellable : next.spellable = true := by
      cases laid with
      | nil => exact later
      | cons => simp only [wellLaid, Bool.and_eq_true] at later; exact later.1.1
    cases gap with
    | true =>
      have space : c = ' ' := by simpa [layout] using head.symm
      rw [space]
      cases token with
      | mark m => cases m <;> decide
      | text | number | name => rfl
    | false =>
      refine runs_on_head (by simpa using apart) nextSpellable ?_
      obtain ⟨d, more, shape⟩ := List.exists_cons_of_ne_nil (spelled_ne_nil nextSpellable)
      simpa [layout, shape] using head

/-- Tokens that are well laid out are read back. -/
theorem yields_layout (well : wellLaid laid = true) :
    Yields readToken (layout laid) (laid.map Prod.snd) [] := by
  induction laid with
  | nil => exact .nil
  | cons first laid ih =>
    obtain ⟨spaced, token⟩ := first
    obtain ⟨spellable, apart, later⟩ := well_laid_cons well
    have read := read_token spellable apart
    have written := List.length_pos_iff.mpr (spelled_ne_nil spellable)
    rw [layout_cons]
    refine .cons ?_ (by simp only [List.length_append]; omega) (ih later)
    cases spaced with
    | true => exact (read_token_space _).trans read
    | false => exact read

theorem tokens_layout (well : wellLaid laid = true) :
    tokens? (layout laid) = some (laid.map Prod.snd) := by
  have read := (yields_layout well).read_many (show readToken [] = none from rfl)
  simp only [tokens?, read, if_true]

end Botwright.ExpressionReading
