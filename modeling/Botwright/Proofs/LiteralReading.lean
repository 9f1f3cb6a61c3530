import Botwright.Json.Document
import Botwright.Proofs.IdentifierNames

/-! Readers for the smallest pieces of JavaScript: names, strings in single
quotes, and the links of member chains. Each takes one piece off the start of a
text or refuses; what the escapings write is read back as what was meant. Which
words are names is up to whoever reads: code that is to run must have those of the
language, while a reader that looks for what a text declares takes every word. -/
namespace Botwright.LiteralReading
open Script BindingAllocation IdentifierNames
open SourceScan (isLineTerminator)
open JsonReading (hex_unit_four)
open LiteralScan (NeedsHex part_of_start quotedLetters quoted_char)

/-- Takes something off the start of a text. -/
abbrev Reader (α : Type) := List Char → Option (α × List Char)

/-- What follows a fixed text at the start. -/
def expect (fixed : String) (s : List Char) : Option (List Char) :=
  Text.dropStart? fixed.toList s

/-- What stands between a fixed beginning and a fixed end of a text. -/
def enclosed? (opening closing : String) (s : List Char) : Option String := do
  let s ← expect opening s
  let s ← Text.dropStart? closing.toList.reverse s.reverse
  return String.ofList s.reverse

/-- The items at the start, as many as can be read, and what follows them. -/
def readMany (item : Reader α) (s : List Char) : List α × List Char :=
  match item s with
  | some (a, rest) =>
    if rest.length < s.length then
      let (more, after) := readMany item rest
      (a :: more, after)
    else ([], s)
  | none => ([], s)
termination_by s.length

/-! ## Names -/

/-- The white space of the language beyond ASCII. -/
def wideSpaces : List Char :=
  ['\u00a0', '\u1680', '\u2000', '\u2001', '\u2002', '\u2003', '\u2004', '\u2005', '\u2006',
   '\u2007', '\u2008', '\u2009', '\u200a', '\u2028', '\u2029', '\u202f', '\u205f', '\u3000',
   '\ufeff']

/-- A character that is no mark and no white space. Outside of literals it can only belong
to a word or a number. -/
def isWordPart (c : Char) : Bool :=
  c = '_' || c = '$' || c.isAlphanum || (0x80 ≤ c.toNat && !wideSpaces.contains c)

/-- A run of such characters that does not begin as a number. -/
def readWord : Reader String := fun s =>
  let word := s.takeWhile isWordPart
  if word.head?.any (!·.isDigit) then some (String.ofList word, s.dropWhile isWordPart) else none

/-- Which words are names. -/
abbrev Names := String → Bool

/-- Every word, whether the language admits it or not. -/
def anyWord : Names := fun _ => true

/-- The names of the language. Where a word is none of them, a source is in error: no shorter
name could be followed by what is left of the word. -/
def languageNames : Names := fun word => IdentifierName word

def readName (names : Names) : Reader String := fun s =>
  (readWord s).filter fun (word, _) => names word

/-- The words that the language keeps for itself in modules, and the two that no module may
declare. -/
def reservedWords : List String :=
  ["await", "break", "case", "catch", "class", "const", "continue", "debugger", "default",
   "delete", "do", "else", "enum", "export", "extends", "false", "finally", "for", "function",
   "if", "import", "in", "instanceof", "new", "null", "return", "super", "switch", "this",
   "throw", "true", "try", "typeof", "var", "void", "while", "with", "yield", "implements",
   "interface", "let", "package", "private", "protected", "public", "static", "arguments",
   "eval"]

/-- A name that can stand for a value. -/
def readReference (names : Names) : Reader String := fun s =>
  (readName names s).filter fun (name, _) => !reservedWords.contains name

/-! ## Strings -/

/-- The character that a single-letter escape stands for. -/
def simpleEscape? (c : Char) : Option Char :=
  if c = 'n' then some '\n'
  else if c = 'r' then some '\r'
  else if c = 't' then some '\t'
  else if c = 'b' then some '\x08'
  else if c = 'f' then some '\x0c'
  else if c = 'v' then some '\x0b'
  else if c = 'u' ∨ c = 'x' ∨ c.isDigit ∨ isLineTerminator c then none
  else some c

/-- An escape behind its backslash. Code units that are not characters by
themselves are refused. -/
def readEscape : Reader Char
  | 'u' :: a :: b :: c :: d :: rest => do
    let code ← Json.hexUnit? a b c d
    if (Char.ofNat code).toNat = code then some (Char.ofNat code, rest) else none
  | c :: rest => (simpleEscape? c).map fun meant => (meant, rest)
  | [] => none

def readStringChar : Reader Char
  | [] => none
  | c :: rest =>
    if c = '\'' ∨ c = '\n' ∨ c = '\r' then none
    else if c = '\\' then readEscape rest
    else some (c, rest)

/-- A string in single quotes. -/
def readString : Reader (List Char) := fun s => do
  let s ← expect "'" s
  let (text, rest) := readMany readStringChar s
  let rest ← expect "'" rest
  return (text, rest)

/-! ## Member chains -/

/-- One link of a member chain: whether it is optional, and which member it takes. -/
abbrev Link := Bool × FieldPath.Segment

/-- A number in decimal without leading zeros. -/
def readNumber : Reader Nat := fun s => do
  let digits := s.takeWhile Char.isDigit
  let n ← Text.readDigits? digits
  if Text.decimal n = digits then some (n, s.dropWhile Char.isDigit) else none

/-- What stands in brackets, from behind the opening one. -/
def readBracketed : Reader FieldPath.Segment := fun s => do
  let (step, rest) ← match readNumber s with
    | some (position, rest) => some (.index position, rest)
    | none => (readString s).map fun (key, rest) => (.key (String.ofList key), rest)
  let rest ← expect "]" rest
  return (step, rest)

def readMember (names : Names) (optional : Bool) : Reader Link := fun s =>
  match expect "[" s with
  | some rest => (readBracketed rest).map fun (step, rest) => ((optional, step), rest)
  | none =>
    match if optional then some s else expect "." s with
    | some rest => (readName names rest).map fun (name, rest) => ((optional, .key name), rest)
    | none => none

def readLink (names : Names) : Reader Link := fun s =>
  match expect "?." s with
  | some rest => readMember names true rest
  | none => readMember names false s

/-! ## Runs of items -/

/-- Reading items one after the other, each of which takes something, gets from
one text to another. -/
inductive Yields (item : Reader α) : List Char → List α → List Char → Prop where
  | nil : Yields item s [] s
  | cons (head : item s = some (a, middle)) (shorter : middle.length < s.length)
      (tail : Yields item middle more rest) : Yields item s (a :: more) rest

theorem Yields.one {item : Reader α} (head : item s = some (a, rest))
    (shorter : rest.length < s.length) : Yields item s [a] rest :=
  .cons head shorter .nil

theorem Yields.append {item : Reader α} (first : Yields item s items middle)
    (second : Yields item middle more rest) : Yields item s (items ++ more) rest := by
  induction first with
  | nil => exact second
  | cons head shorter _ ih => exact .cons head shorter (ih second)

/-- Reading stops where no item stands. -/
theorem Yields.read_many {item : Reader α} (yields : Yields item s items rest)
    (stop : item rest = none) : readMany item s = (items, rest) := by
  induction yields with
  | nil => rw [readMany, stop]
  | cons head shorter _ ih => rw [readMany, head]; simp only [shorter, if_true, ih stop]

/-- Reading items one after the other comes to a text where no item stands. -/
def Halts (item : Reader α) (s rest : List Char) : Prop :=
  ∃ items, Yields item s items rest ∧ item rest = none

theorem halts_here {item : Reader α} (stop : item s = none) : Halts item s s :=
  ⟨[], .nil, stop⟩

theorem Yields.halts {item : Reader α} (yields : Yields item s items middle)
    (halts : Halts item middle rest) : Halts item s rest := by
  obtain ⟨more, later, stop⟩ := halts
  exact ⟨items ++ more, yields.append later, stop⟩

theorem Halts.read_many {item : Reader α} (halts : Halts item s rest) :
    ∃ items, readMany item s = (items, rest) := by
  obtain ⟨items, yields, stop⟩ := halts
  exact ⟨items, yields.read_many stop⟩

/-- A reader goes on with what its first part has read. -/
theorem bind_read {x : Option α} {f : α → Option β} (here : x = some a) (next : f a = result) :
    (x >>= f) = result := by
  rw [here]
  exact next

theorem expect_append (fixed : String) (rest : List Char) :
    expect fixed (fixed.toList ++ rest) = some rest :=
  Text.dropStart?_eq_some_iff.mpr rfl

theorem expect_whole (fixed : String) : expect fixed fixed.toList = some [] := by
  simpa using expect_append fixed []

theorem enclosed_text (opening closing text : String) :
    enclosed? opening closing (opening.toList ++ (text.toList ++ closing.toList)) = some text := by
  have backwards : (text.toList ++ closing.toList).reverse =
      closing.toList.reverse ++ text.toList.reverse := List.reverse_append
  have dropped := Text.dropStart?_eq_some_iff.mpr backwards
  simp only [enclosed?, expect_append, dropped, Option.bind_eq_bind, Option.bind_some,
    Option.pure_def, List.reverse_reverse, String.ofList_toList]

/-! ## Names are read whole -/

theorem any_word (word : String) : anyWord word = true := rfl

/-- What the generator takes for an identifier is a name of the language just if it is
portable. -/
theorem language_names_iff (identifier : isIdentifier name = true) :
    languageNames name = true ↔ Portable name := by
  rw [languageNames, decide_eq_true_eq, identifier_name_iff identifier]

/-- A text does not begin with a character that would belong to a word before it. -/
def Apart (rest : List Char) : Prop := ∀ c ∈ rest.head?, isWordPart c = false

theorem apart_cons (outside : isWordPart c = false) (rest : List Char) : Apart (c :: rest) := by
  rintro d ⟨⟩
  exact outside

theorem apart_head (begins : text.head? = some c) (outside : isWordPart c = false) :
    Apart text := by
  intro d member
  rw [begins] at member
  cases member
  exact outside

theorem take_while_append {front rest : List Char} {p : Char → Bool}
    (all : ∀ c ∈ front, p c = true) (apart : ∀ c ∈ rest.head?, p c = false) :
    (front ++ rest).takeWhile p = front ∧ (front ++ rest).dropWhile p = rest := by
  rw [List.takeWhile_append_of_pos all, List.dropWhile_append_of_pos all]
  cases rest with
  | nil => simp
  | cons c rest =>
    have outside : p c = false := apart c rfl
    simp [outside]

theorem parts_of_identifier (identifier : isIdentifierText name = true) :
    ∀ c ∈ name, isIdentifierPart c = true := by
  cases name with
  | nil => simp
  | cons first inner =>
    obtain ⟨begins, parts⟩ := identifier_cons.mp identifier
    intro c member
    rcases List.mem_cons.mp member with rfl | later
    · exact part_of_start begins
    · exact parts c later

/-- What the generator takes for a part of an identifier is part of a word. -/
theorem word_of_part (part : isIdentifierPart c = true) : isWordPart c = true := by
  have spaces : (wideSpaces.all fun d => !isIdentifierPart d) = true := by decide +kernel
  have visible : c ∉ wideSpaces := by
    intro space
    have other := List.all_eq_true.mp spaces c space
    rw [part] at other
    cases other
  have wide (far : 0x80 ≤ c.toNat) : isWordPart c = true := by simp [isWordPart, far, visible]
  simp only [isIdentifierPart, isIdentifierStart, Bool.or_eq_true, Bool.and_eq_true,
    decide_eq_true_eq] at part
  rcases part with ((((bar | dollar) | letter) | ⟨far, _⟩) | digit) | ⟨far, _⟩
  · simp [isWordPart, bar]
  · simp [isWordPart, dollar]
  · simp [isWordPart, Char.isAlphanum, letter]
  · exact wide far
  · simp [isWordPart, Char.isAlphanum, digit]
  · exact wide far

theorem digit_not_start (start : isIdentifierStart c = true) : c.isDigit = false := by
  by_contra digit
  have refused : isIdentifierStart c = false :=
    of_digit (p := fun c => isIdentifierStart c = false) (by decide +kernel) (by simpa using digit)
  rw [start] at refused
  cases refused

theorem read_word (identifier : isIdentifier name = true) (apart : Apart rest) :
    readWord (name.toList ++ rest) = some (name, rest) := by
  have parts : ∀ c ∈ name.toList, isWordPart c = true :=
    fun c member => word_of_part (parts_of_identifier identifier c member)
  obtain ⟨taken, left⟩ := take_while_append parts apart
  have begins : name.toList.head?.any (!·.isDigit) = true := by
    rw [isIdentifier] at identifier
    cases shape : name.toList with
    | nil => simp [shape, isIdentifierText] at identifier
    | cons c tail =>
      rw [shape, identifier_cons] at identifier
      simp [digit_not_start identifier.1]
  simp only [readWord, taken, left, begins, if_true, String.ofList_toList]

/-- A name is read just if it is one for the reader. -/
theorem read_name_eq (names : Names) (identifier : isIdentifier name = true)
    (apart : Apart rest) :
    readName names (name.toList ++ rest) = if names name then some (name, rest) else none := by
  rw [readName, read_word identifier apart, Option.filter_some]

theorem read_name (identifier : isIdentifier name = true) (admitted : names name = true)
    (apart : Apart rest) : readName names (name.toList ++ rest) = some (name, rest) := by
  rw [read_name_eq names identifier apart, if_pos admitted]

theorem read_name_refused (identifier : isIdentifier name = true)
    (refused : names name = false) (apart : Apart rest) :
    readName names (name.toList ++ rest) = none := by
  rw [read_name_eq names identifier apart, refused, if_neg Bool.false_ne_true]

theorem read_reference (name : String) (identifier : isIdentifier name = true)
    (admitted : names name = true) (word : name ∉ reservedWords) (apart : Apart rest) :
    readReference names (name.toList ++ rest) = some (name, rest) := by
  simp [readReference, read_name identifier admitted apart, word]

theorem read_reference_refused (identifier : isIdentifier name = true)
    (refused : names name = false) (apart : Apart rest) :
    readReference names (name.toList ++ rest) = none := by
  rw [readReference, read_name_refused identifier refused apart, Option.filter_none]

theorem read_reference_reserved (names : Names) (identifier : isIdentifier name = true)
    (word : name ∈ reservedWords) (apart : Apart rest) :
    readReference names (name.toList ++ rest) = none := by
  rw [readReference, read_name_eq names identifier apart]
  split
  · simp [word]
  · rfl

/-! ## Strings are read back -/

/-- What follows an escape stays where it is. -/
theorem read_escape_append (read : readEscape s = some (c, after)) (rest : List Char) :
    readEscape (s ++ rest) = some (c, after ++ rest) := by
  unfold readEscape at read
  split at read
  · obtain ⟨code, unit, valid⟩ := Option.bind_eq_some_iff.mp read
    simp only [Option.ite_none_right_eq_some, Option.some.injEq, Prod.mk.injEq] at valid
    obtain ⟨valid, rfl, rfl⟩ := valid
    simp [readEscape, unit, valid]
  · next d tail shape =>
    obtain ⟨meant, simple, same⟩ := Option.map_eq_some_iff.mp read
    cases same
    have notUnit : d ≠ 'u' := by
      rintro rfl
      cases simple
    rw [List.cons_append, readEscape]
    · rw [simple, Option.map_some]
    · rintro _ _ _ _ _ rfl
      exact absurd rfl notUnit
  · cases read

/-- A character written by its code point is read back. -/
theorem read_hex (needed : NeedsHex c) (rest : List Char) :
    readEscape ('u' :: (Text.hex 4 c.toNat ++ rest)) = some (c, rest) := by
  obtain ⟨_, _, _, _, shape, unit⟩ := hex_unit_four needed.small
  simp [shape, readEscape, unit]

theorem read_quoted_char (c : Char) (rest : List Char) :
    readStringChar (quotedChar c ++ rest) = some (c, rest) := by
  have written := quoted_char c
  generalize quotedChar c = text at written ⊢
  cases written with
  | letter named =>
    have letter : ∀ pair ∈ quotedLetters, readEscape [pair.2] = some (pair.1, []) := by decide
    exact read_escape_append (letter _ named) rest
  | code needed => exact read_hex needed rest
  | itself slash mark feed back printed => simp [readStringChar, slash, mark, feed, back]

theorem quoted_char_ne_nil (c : Char) : quotedChar c ≠ [] := by
  intro empty
  have written := quoted_char c
  rw [empty] at written
  cases written

theorem yields_quoted (text rest : List Char) :
    Yields readStringChar (text.flatMap quotedChar ++ rest) text rest := by
  induction text with
  | nil => exact .nil
  | cons c text ih =>
    rw [List.flatMap_cons, List.append_assoc]
    have written := List.length_pos_iff.mpr (quoted_char_ne_nil c)
    exact .cons (read_quoted_char c _) (by simp only [List.length_append]; omega) ih

/-- A quoted text is read back, whatever follows it. -/
theorem read_quoted (text rest : List Char) :
    readString (quoted text ++ rest) = some (text, rest) := by
  have ends : readStringChar ('\'' :: rest) = none := rfl
  have body := (yields_quoted text ('\'' :: rest)).read_many ends
  have opening : expect "'" (quoted text ++ rest) =
      some (text.flatMap quotedChar ++ '\'' :: rest) := by
    apply Text.dropStart?_eq_some_iff.mpr
    simp [quoted]
  have closing : expect "'" ('\'' :: rest) = some rest := rfl
  simp [readString, opening, body, closing]

/-! ## Links -/

theorem read_decimal (n : Nat) (apart : ∀ c ∈ rest.head?, c.isDigit = false) :
    readNumber (Text.decimal n ++ rest) = some (n, rest) := by
  have digits : ∀ c ∈ Text.decimal n, c.isDigit = true := fun c member =>
    Nat.isDigit_of_mem_toDigits (by decide) (by decide) member
  have nonempty : Text.decimal n ≠ [] := Nat.toDigits_ne_nil
  have value : Text.digitsValue 0 (Text.decimal n) = n := Nat.ofDigitChars_ten_toDigits
  have number : Text.readDigits? (Text.decimal n) = some n := by
    rw [Text.readDigits?, if_pos ⟨nonempty, List.all_eq_true.mpr digits⟩, value]
  obtain ⟨taken, left⟩ := take_while_append digits apart
  simp [readNumber, taken, left, number]

theorem read_bracketed_key (name : String) (rest : List Char) :
    readBracketed ((stringLiteral name).toList ++ ']' :: rest) = some (.key name, rest) := by
  have notNumber : readNumber ((stringLiteral name).toList ++ ']' :: rest) = none := by
    simp [readNumber, stringLiteral, quoted, Text.readDigits?]
  have read : readString ((stringLiteral name).toList ++ ']' :: rest) =
      some (name.toList, ']' :: rest) := by
    rw [stringLiteral, String.toList_ofList, read_quoted]
  have closing : expect "]" (']' :: rest) = some rest := rfl
  simp [readBracketed, notNumber, read, closing]

theorem read_bracketed_index (position : Nat) (rest : List Char) :
    readBracketed (Text.decimal position ++ ']' :: rest) = some (.index position, rest) := by
  have read : readNumber (Text.decimal position ++ ']' :: rest) = some (position, ']' :: rest) :=
    read_decimal position (by simp)
  have closing : expect "]" (']' :: rest) = some rest := rfl
  simp [readBracketed, read, closing]

/-- Brackets are read alike behind an optional mark and without one. -/
theorem read_link_brackets (names : Names) (optional : Bool)
    (read : readBracketed (written ++ ']' :: rest) = some (step, rest)) :
    readLink names (((if optional then "?." else "") ++ "[" ++ String.ofList written ++
      "]").toList ++ rest) = some ((optional, step), rest) := by
  have text : ((if optional then "?." else "") ++ "[" ++ String.ofList written ++ "]").toList ++
      rest = (if optional then "?." else "").toList ++ '[' :: (written ++ ']' :: rest) := by
    simp
  have member : readMember names optional ('[' :: (written ++ ']' :: rest)) =
      some ((optional, step), rest) := by
    rw [show readMember names optional ('[' :: (written ++ ']' :: rest)) = (readBracketed
      (written ++ ']' :: rest)).map fun (step, rest) => ((optional, step), rest) from rfl, read]
    rfl
  rw [text]
  cases optional <;> exact member

/-- Behind its dot a bare name is read like any name. -/
theorem read_link_name (names : Names) (optional : Bool) (identifier : isIdentifier name = true)
    (rest : List Char) :
    readLink names (((if optional then "?." else ".") ++ name).toList ++ rest) =
      (readName names (name.toList ++ rest)).map fun (name, rest) =>
        ((optional, .key name), rest) := by
  have bare : expect "[" (name.toList ++ rest) = none := by
    rw [isIdentifier] at identifier
    cases shape : name.toList with
    | nil => simp [shape, isIdentifierText] at identifier
    | cons c tail =>
      rw [shape, identifier_cons] at identifier
      have notBracket : '[' ≠ c := by
        rintro rfl
        exact absurd identifier.1 (by decide)
      simp [expect, Text.dropStart?, notBracket]
  rw [String.toList_append, List.append_assoc]
  cases optional with
  | false =>
    have dotted : expect "." ('.' :: (name.toList ++ rest)) = some (name.toList ++ rest) := rfl
    have other : expect "[" ('.' :: (name.toList ++ rest)) = none := rfl
    have plain : expect "?." ('.' :: (name.toList ++ rest)) = none := rfl
    simp [readLink, plain, readMember, other, dotted]
  | true =>
    have marked : expect "?." ('?' :: '.' :: (name.toList ++ rest)) =
        some (name.toList ++ rest) := rfl
    simp [readLink, marked, readMember, bare]

/-- The key of a step that stands bare behind its dot. -/
def bareKey? : FieldPath.Segment → Option String
  | .key name => if isIdentifier name then some name else none
  | .index _ => none

theorem access_step_bare (optional : Bool) (bare : bareKey? step = some key) :
    isIdentifier key = true ∧
      accessStep optional step = (if optional then "?." else ".") ++ key := by
  cases step with
  | key name =>
    rw [bareKey?, Option.ite_none_right_eq_some, Option.some.injEq] at bare
    obtain ⟨identifier, rfl⟩ := bare
    exact ⟨identifier, by rw [accessStep, if_pos identifier]⟩
  | index position => cases bare

/-- A link is read as it was meant if the key in it, where it is bare, is a name for the
reader. Only a bare name could run on into what follows. -/
theorem read_access_step (optional : Bool) (step : FieldPath.Segment)
    (admitted : ∀ key ∈ bareKey? step, names key = true) (apart : Apart rest) :
    readLink names ((accessStep optional step).toList ++ rest) =
      some ((optional, step), rest) := by
  cases step with
  | key name =>
    by_cases identifier : isIdentifier name = true
    · have known : names name = true := admitted name (by simp [bareKey?, identifier])
      rw [accessStep, if_pos identifier, read_link_name names optional identifier,
        read_name identifier known apart, Option.map_some]
    · rw [accessStep, if_neg identifier]
      have read := read_bracketed_key name rest
      rw [stringLiteral, String.toList_ofList] at read
      exact read_link_brackets names optional read
  | index position =>
    exact read_link_brackets names optional (read_bracketed_index position rest)

theorem read_access_step_refused (optional : Bool) (bare : bareKey? step = some key)
    (refused : names key = false) (apart : Apart rest) :
    readLink names ((accessStep optional step).toList ++ rest) = none := by
  obtain ⟨identifier, written⟩ := access_step_bare optional bare
  rw [written, read_link_name names optional identifier,
    read_name_refused identifier refused apart, Option.map_none]

/-- A link begins with a mark, so a name before it cannot run on into it. -/
theorem access_step_begins (optional : Bool) (step : FieldPath.Segment) :
    ∃ c ∈ ['?', '.', '['], ∃ text, (accessStep optional step).toList = c :: text := by
  cases step with
  | key name =>
    rw [accessStep]
    split <;> cases optional <;> simp
  | index position =>
    rw [accessStep]
    cases optional <;> simp

/-- A member is a link behind its object. -/
theorem member_eq (object key : String) :
    member object key = object ++ accessStep false (.key key) := by
  unfold member accessStep
  split <;> simp only [Bool.false_eq_true, if_false, if_true, String.empty_append,
    String.append_assoc, *]

theorem apart_access_steps (optional : Bool) (steps : List FieldPath.Segment)
    (apart : Apart rest) :
    Apart ((String.join (steps.map (accessStep optional))).toList ++ rest) := by
  cases steps with
  | nil => exact apart
  | cons step steps =>
    obtain ⟨c, mark, text, begins⟩ := access_step_begins optional step
    have outside : isWordPart c = false := by
      simp only [List.mem_cons, List.not_mem_nil, or_false] at mark
      rcases mark with rfl | rfl | rfl <;> decide
    rw [List.map_cons, String.join_cons, String.toList_append, begins]
    intro d first
    cases first
    exact outside

/-- The keys that stand bare in a chain. -/
def bareKeys (steps : List FieldPath.Segment) : List String := steps.filterMap bareKey?

theorem shorter_access_step (optional : Bool) (step : FieldPath.Segment) (rest : List Char) :
    rest.length < ((accessStep optional step).toList ++ rest).length := by
  obtain ⟨c, _, text, begins⟩ := access_step_begins optional step
  rw [begins]
  simp only [List.cons_append, List.length_cons, List.length_append]
  omega

/-- A member chain is read link by link. -/
theorem yields_access_steps (optional : Bool) (steps : List FieldPath.Segment)
    (admitted : ∀ key ∈ bareKeys steps, names key = true) (apart : Apart rest) :
    Yields (readLink names) ((String.join (steps.map (accessStep optional))).toList ++ rest)
      (steps.map fun step => (optional, step)) rest := by
  induction steps with
  | nil => exact .nil
  | cons step steps ih =>
    have here : ∀ key ∈ bareKey? step, names key = true := fun key bare =>
      admitted key (List.mem_filterMap.mpr ⟨step, List.mem_cons_self, bare⟩)
    have later := ih fun key bare =>
      admitted key ((List.sublist_cons_self step steps).filterMap bareKey? |>.subset bare)
    have read := read_access_step optional step here (apart_access_steps optional steps apart)
    rw [List.map_cons, String.join_cons, String.toList_append, List.append_assoc]
    exact .cons read (shorter_access_step optional step _) later

/-- A member chain is read up to a bare key that is no name for the reader. -/
theorem halts_access_steps (optional : Bool) {steps : List FieldPath.Segment}
    (refused : ∃ key ∈ bareKeys steps, names key = false) (apart : Apart rest) :
    ∃ stuck, Halts (readLink names)
        ((String.join (steps.map (accessStep optional))).toList ++ rest) stuck ∧
      stuck.head? ∈ [some '?', some '.'] := by
  induction steps with
  | nil => simp [bareKeys] at refused
  | cons step steps ih =>
    have behind := apart_access_steps optional steps apart
    rw [List.map_cons, String.join_cons, String.toList_append, List.append_assoc]
    by_cases here : ∀ key ∈ bareKey? step, names key = true
    · have later : ∃ key ∈ bareKeys steps, names key = false := by
        obtain ⟨key, bare, other⟩ := refused
        obtain ⟨among, member, shape⟩ := List.mem_filterMap.mp bare
        rcases List.mem_cons.mp member with rfl | member
        · rw [here key shape] at other
          cases other
        · exact ⟨key, List.mem_filterMap.mpr ⟨among, member, shape⟩, other⟩
      obtain ⟨stuck, halts, mark⟩ := ih later
      have read := read_access_step optional step here behind
      exact ⟨stuck, (Yields.one read (shorter_access_step optional step _)).halts halts, mark⟩
    · obtain ⟨key, shape, other⟩ : ∃ key, bareKey? step = some key ∧ names key = false := by
        simpa using here
      have stop := read_access_step_refused optional shape other behind
      obtain ⟨_, written⟩ := access_step_bare optional shape
      refine ⟨_, halts_here stop, ?_⟩
      rw [written]
      cases optional <;> simp

end Botwright.LiteralReading
