import Mathlib.Data.List.DropRight
import Botwright.Proofs.NumberReading

/-! A JSON text is read as the document that it was written for, whether it is written
over several lines or without any space. The grammar takes back string by string, number
by number, item by item and member by member what the printer wrote; fuel beyond the
length of a text is enough to read it. -/
namespace Botwright.JsonReading
open Json NumberReading

/-! ## White space -/

theorem skip_dark (dark : isSpace c = false) (s : List Char) : skipSpace (c :: s) = c :: s := by
  simp [skipSpace, dark]

theorem skip_blank (blank : ∀ c ∈ gap, isSpace c = true) (s : List Char) :
    skipSpace (gap ++ s) = skipSpace s := by
  rw [skipSpace, List.dropWhile_append_of_pos blank, skipSpace]

theorem skip_skip (s : List Char) : skipSpace (skipSpace s) = skipSpace s :=
  List.dropWhile_idempotent isSpace s

theorem read_value_blank (fuel : Nat) (blank : ∀ c ∈ gap, isSpace c = true) (s : List Char) :
    readValue fuel (gap ++ s) = readValue fuel s := by
  cases fuel <;> simp only [readValue, skip_blank blank]

theorem read_value_skip (fuel : Nat) (s : List Char) :
    readValue fuel (skipSpace s) = readValue fuel s := by
  cases fuel <;> simp only [readValue, skip_skip]

theorem read_items_skip (fuel : Nat) (s : List Char) :
    readItems fuel (skipSpace s) = readItems fuel s := by
  cases fuel <;> simp only [readItems, read_value_skip]

theorem read_members_skip (fuel : Nat) (s : List Char) :
    readMembers fuel (skipSpace s) = readMembers fuel s := by
  cases fuel <;> simp only [readMembers, skip_skip]

/-! ## Hexadecimal digits -/

/-- The last of at least two digits stands behind the digits of a sixteenth. -/
theorem hex_last (width n : Nat) : Text.hex (width + 2) n =
    Text.hex (width + 1) (n / 16) ++ [Nat.digitChar (n % 16)] := by
  by_cases single : n < 16
  · have gone : n / 16 = 0 := by omega
    rw [Text.hex, Text.hex, gone, Nat.toDigits_of_lt_base single, Nat.mod_eq_of_lt single]
    simp [Text.padLeft, List.replicate_succ']
  · have more : 16 ≤ n := by omega
    rw [Text.hex, Text.hex, Nat.toDigits_of_base_le (by decide) more]
    simp [Text.padLeft]

theorem hex_four (small : n < 0x10000) : Text.hex 4 n = [Nat.digitChar (n / 16 / 16 / 16),
    Nat.digitChar (n / 16 / 16 % 16), Nat.digitChar (n / 16 % 16), Nat.digitChar (n % 16)] := by
  have first : Text.hex 1 (n / 16 / 16 / 16) = [Nat.digitChar (n / 16 / 16 / 16)] := by
    rw [Text.hex, Nat.toDigits_of_lt_base (by omega)]
    rfl
  rw [hex_last, hex_last, hex_last, first]
  rfl

theorem hex_digit_of_mem (small : n < 0x10000) (held : c ∈ Text.hex 4 n) :
    ∃ k < 16, c = Nat.digitChar k := by
  rw [hex_four small] at held
  simp only [List.mem_cons, List.not_mem_nil, or_false] at held
  rcases held with rfl | rfl | rfl | rfl
  all_goals exact ⟨_, by omega, rfl⟩

theorem hex_value_digit : ∀ k < 16, hexValue? (Nat.digitChar k) = some k := by decide

/-- Four digits are read as the number that they write. -/
theorem hex_unit_four (small : n < 0x10000) :
    ∃ a b c d, Text.hex 4 n = [a, b, c, d] ∧ hexUnit? a b c d = some n := by
  refine ⟨_, _, _, _, hex_four small, ?_⟩
  have digit (k : Nat) : hexValue? (Nat.digitChar (k % 16)) = some (k % 16) :=
    hex_value_digit _ (Nat.mod_lt k (by decide))
  have value : (((n / 16 / 16 / 16) * 16 + n / 16 / 16 % 16) * 16 + n / 16 % 16) * 16 +
      n % 16 = n := by omega
  rw [hexUnit?, hex_value_digit _ (by omega), digit, digit, digit]
  exact congrArg some value

/-! ## Strings -/

/-- The characters that are written as a backslash and one character more. -/
def letters : List (Char × Char) :=
  [('"', '"'), ('\\', '\\'), ('\n', 'n'), ('\r', 'r'), ('\t', 't'), ('\x08', 'b'), ('\x0c', 'f')]

/-- The ways in which a character of a string is written. -/
inductive Written (c : Char) : List Char → Prop where
  | letter (named : (c, e) ∈ letters) : Written c ['\\', e]
  | code (low : c.toNat < 0x20) (unnamed : c ∉ letters.map Prod.fst) :
      Written c ('\\' :: 'u' :: Text.hex 4 c.toNat)
  | itself (mark : c ≠ '"') (slash : c ≠ '\\') (high : ¬c.toNat < 0x20) : Written c [c]

theorem written_escape (c : Char) : Written c (escapeChar c) := by
  by_cases named : c ∈ letters.map Prod.fst
  · have known : ∀ pair ∈ letters, escapeChar pair.1 = ['\\', pair.2] := by decide
    obtain ⟨pair, held, rfl⟩ := List.mem_map.mp named
    rw [known pair held]
    exact .letter held
  · have others := named
    simp only [letters, List.map_cons, List.map_nil, List.mem_cons, not_or] at others
    obtain ⟨mark, slash, feed, back, tab, backspace, page, -⟩ := others
    rw [escapeChar, if_neg mark, if_neg slash, if_neg feed, if_neg back, if_neg tab,
      if_neg backspace, if_neg page]
    split
    · next low => exact .code low named
    · next high => exact .itself mark slash high

/-- What a character of a written string is read as. The controls that have no letter
of their own are written by number. -/
def unitOf (c : Char) : StringUnit :=
  if c.toNat < 0x20 ∧ c ∉ ['\n', '\r', '\t', '\x08', '\x0c'] then .code c.toNat else .plain c

/-- The four digits of a control are read as its number. -/
theorem read_hex (c : Char) (control : c.toNat < 0x20) (rest : List Char) :
    readString ('\\' :: 'u' :: (Text.hex 4 c.toNat ++ rest)) =
      (readString rest).map fun (units, after) => (.code c.toNat :: units, after) := by
  obtain ⟨_, _, _, _, shape, unit⟩ := hex_unit_four (n := c.toNat) (by omega)
  rw [shape]
  simp only [List.cons_append, List.nil_append, readString, unit, Option.bind_eq_bind,
    Option.bind_some]
  cases readString rest <;> rfl

theorem read_letter (named : (c, e) ∈ letters) (rest : List Char) :
    readString ('\\' :: e :: rest) =
      (readString rest).map fun (units, after) => (unitOf c :: units, after) := by
  have known : ∀ pair ∈ letters,
      simpleEscape? pair.2 = some pair.1 ∧ pair.2 ≠ 'u' ∧ unitOf pair.1 = .plain pair.1 := by decide
  obtain ⟨meant, notUnit, unit⟩ := known (c, e) named
  rw [readString, meant, unit]
  · cases readString rest <;> rfl
  · rintro _ _ _ _ _ rfl
    exact absurd rfl notUnit

theorem read_escape_char (c : Char) (rest : List Char) :
    readString (escapeChar c ++ rest) =
      (readString rest).map fun (units, after) => (unitOf c :: units, after) := by
  have written := written_escape c
  generalize escapeChar c = text at written ⊢
  cases written with
  | letter named => exact read_letter named rest
  | code low unnamed =>
    simp only [letters, List.map_cons, List.map_nil, List.mem_cons, not_or] at unnamed
    have unit : unitOf c = .code c.toNat := by simp [unitOf, low, unnamed]
    rw [unit]
    exact read_hex c low rest
  | itself mark slash high =>
    have unit : unitOf c = .plain c := by simp [unitOf, high]
    rw [unit, List.singleton_append, readString]
    · simp only [slash, high, or_self, if_false, Option.bind_eq_bind]
      cases readString rest <;> rfl
    all_goals simp [mark, slash]

/-- A string is read up to its closing quote. -/
theorem read_escaped (text rest : List Char) :
    readString (text.flatMap escapeChar ++ '"' :: rest) = some (text.map unitOf, rest) := by
  induction text with
  | nil => rfl
  | cons c text ih =>
    rw [List.flatMap_cons, List.append_assoc, read_escape_char, ih]
    rfl

theorem units_code (low : n < 0xD800) (units : List StringUnit) :
    unitsText? (.code n :: units) = (unitsText? units).map (Char.ofNat n :: ·) := by
  have notHigh : ¬0xD800 ≤ n := by omega
  have notLow : ¬0xDC00 ≤ n := by omega
  cases units with
  | nil => simp [unitsText?, notHigh]
  | cons unit units => cases unit <;> simp [unitsText?, notHigh, notLow]

/-- The units of a written string stand for its characters. -/
theorem text_of_units (text : List Char) : unitsText? (text.map unitOf) = some text := by
  induction text with
  | nil => rfl
  | cons c text ih =>
    rw [List.map_cons, unitOf]
    split
    · next control =>
      rw [units_code (by omega), ih, Option.map_some, Char.ofNat_toNat]
    · rw [unitsText?, ih, Option.map_some]

theorem string_of_units (s : String) : stringOf? (s.toList.map unitOf) = some s := by
  rw [stringOf?, text_of_units, Option.map_some, String.ofList_toList]

/-! ## Values -/

mutual

/-- The document that a value is written as. -/
def documentOf : Json → Document
  | .null => .null
  | .bool value => .bool value
  | .number n => .number (numeralOf n)
  | .string s => .string (s.toList.map unitOf)
  | .array items => .array (itemsOf items)
  | .object members => .object (membersOf members)

def itemsOf : List Json → List Document
  | [] => []
  | item :: rest => documentOf item :: itemsOf rest

def membersOf : List (String × Json) → List (List StringUnit × Document)
  | [] => []
  | (key, value) :: rest => (key.toList.map unitOf, documentOf value) :: membersOf rest

end

/-! ## Printers -/

/-- The white space that a printer puts between tokens. -/
structure Spacing where
  /-- In front of an item, a member or a closing bracket at a level. -/
  line : Nat → List Char
  /-- After a colon. -/
  colon : List Char
  line_blank : ∀ level, ∀ c ∈ line level, isSpace c = true
  colon_blank : ∀ c ∈ colon, isSpace c = true

namespace Spacing

def pretty : Spacing := ⟨newLine, [' '], by simp [newLine, isSpace], by simp [isSpace]⟩

def compact : Spacing := ⟨fun _ => [], [], nofun, nofun⟩

mutual

/-- A value with the white space of a printer. -/
def text (spacing : Spacing) (level : Nat) : Json → List Char
  | .null => ['n', 'u', 'l', 'l']
  | .bool true => ['t', 'r', 'u', 'e']
  | .bool false => ['f', 'a', 'l', 's', 'e']
  | .number n => numberText n
  | .string s => quote s.toList
  | .array [] => ['[', ']']
  | .array (item :: rest) => '[' :: spacing.items level (item :: rest)
  | .object [] => ['{', '}']
  | .object (member :: rest) => '{' :: spacing.members level (member :: rest)

def items (spacing : Spacing) (level : Nat) : List Json → List Char
  | [] => spacing.line level ++ [']']
  | item :: rest =>
    spacing.line (level + 1) ++ (spacing.text (level + 1) item ++
      if rest = [] then spacing.line level ++ [']'] else ',' :: spacing.items level rest)

def members (spacing : Spacing) (level : Nat) : List (String × Json) → List Char
  | [] => spacing.line level ++ ['}']
  | (key, value) :: rest =>
    spacing.line (level + 1) ++ (quote key.toList ++
      (':' :: (spacing.colon ++ (spacing.text (level + 1) value ++
        if rest = [] then spacing.line level ++ ['}'] else ',' :: spacing.members level rest))))

end

end Spacing

mutual

theorem pretty_text (v : Json) (level : Nat) :
    prettyText level v = Spacing.pretty.text level v := by
  cases v with
  | null | number | string => rfl
  | bool value => cases value <;> rfl
  | array items =>
    cases items with
    | nil => rfl
    | cons item rest => rw [prettyText, Spacing.text, pretty_items (item :: rest) level]
  | object members =>
    cases members with
    | nil => rfl
    | cons member rest => rw [prettyText, Spacing.text, pretty_members (member :: rest) level]

theorem pretty_items (items : List Json) (level : Nat) :
    prettyItems level items = Spacing.pretty.items level items := by
  cases items with
  | nil => rfl
  | cons item rest =>
    have inner := pretty_text item (level + 1)
    have later := pretty_items rest level
    cases rest <;> simp_all [prettyItems, Spacing.items, Spacing.pretty]

theorem pretty_members (members : List (String × Json)) (level : Nat) :
    prettyMembers level members = Spacing.pretty.members level members := by
  cases members with
  | nil => rfl
  | cons member rest =>
    have inner := pretty_text member.2 (level + 1)
    have later := pretty_members rest level
    cases rest <;> simp_all [prettyMembers, Spacing.members, Spacing.pretty]

end

mutual

theorem compact_text (v : Json) (level : Nat) : compactText v = Spacing.compact.text level v := by
  cases v with
  | null | number | string => rfl
  | bool value => cases value <;> rfl
  | array items =>
    cases items with
    | nil => rfl
    | cons item rest => rw [compactText, Spacing.text, compact_items (item :: rest) level]
  | object members =>
    cases members with
    | nil => rfl
    | cons member rest => rw [compactText, Spacing.text, compact_members (member :: rest) level]

theorem compact_items (items : List Json) (level : Nat) :
    compactItems items = Spacing.compact.items level items := by
  cases items with
  | nil => rfl
  | cons item rest =>
    have inner := compact_text item (level + 1)
    have later := compact_items rest level
    cases rest <;> simp_all [compactItems, Spacing.items, Spacing.compact]

theorem compact_members (members : List (String × Json)) (level : Nat) :
    compactMembers members = Spacing.compact.members level members := by
  cases members with
  | nil => rfl
  | cons member rest =>
    have inner := compact_text member.2 (level + 1)
    have later := compact_members rest level
    cases rest <;> simp_all [compactMembers, Spacing.members, Spacing.compact]

end

/-! ## Reading -/

/-- Neither a sign nor a digit is another mark of the grammar. -/
theorem number_mark_ne (mark : c = '-' ∨ c.isDigit = true) (other : d ≠ '-')
    (letter : d.isDigit = false) : c ≠ d := by
  rintro rfl
  rcases mark with same | digit
  · exact other same
  · rw [letter] at digit
    cases digit

theorem number_mark_dark (mark : c = '-' ∨ c.isDigit = true) : isSpace c = false := by
  have ne {d : Char} := number_mark_ne (d := d) mark
  simp [isSpace, ne (d := ' ') (by decide) rfl, ne (d := '\t') (by decide) rfl,
    ne (d := '\n') (by decide) rfl, ne (d := '\r') (by decide) rfl]

/-- The text of a value begins with a character of its own. -/
theorem text_begins (spacing : Spacing) (v : Json) (level : Nat) :
    ∃ c more, spacing.text level v = c :: more ∧ isSpace c = false ∧ c ≠ ']' := by
  cases v with
  | null => exact ⟨'n', _, rfl, rfl, by decide⟩
  | bool value => cases value <;> exact ⟨_, _, rfl, rfl, by decide⟩
  | number n =>
    obtain ⟨c, more, shape, mark⟩ := number_begins n
    exact ⟨c, more, shape, number_mark_dark mark, number_mark_ne mark (by decide) rfl⟩
  | string s => exact ⟨'"', _, rfl, rfl, by decide⟩
  | array items => cases items <;> exact ⟨'[', _, rfl, rfl, by decide⟩
  | object members => cases members <;> exact ⟨'{', _, rfl, rfl, by decide⟩

theorem read_number (n : Number) (ends : Ends rest) (fuel : Nat) :
    readValue (fuel + 1) (numberText n ++ rest) = some (.number (numeralOf n), rest) := by
  have read := read_number_text n ends
  obtain ⟨c, more, shape, mark⟩ := number_begins n
  have ne {d : Char} := number_mark_ne (d := d) mark
  rw [shape, List.cons_append] at read ⊢
  rw [readValue, skip_dark (number_mark_dark mark)]
  split
  case h_7 => rw [read]; rfl
  all_goals next shape => exact absurd (List.cons.inj shape).1 (ne (by decide) rfl)

/-- A bracket that is not closed at once opens a list of items. -/
theorem read_array (opens : (skipSpace s).head? ≠ some ']') (fuel : Nat) :
    readValue (fuel + 1) ('[' :: s) =
      (readItems fuel s).map fun (items, rest) => (.array items, rest) := by
  rw [readValue, skip_dark rfl, ← read_items_skip]
  split
  case h_2 rest shape =>
    obtain rfl := (List.cons.inj shape).2
    split
    · next closed => simp [closed] at opens
    · cases readItems fuel (skipSpace s) <;> rfl
  case h_7 other _ _ _ _ => exact (other s rfl).elim
  all_goals next shape => simp at shape

theorem read_object (opens : (skipSpace s).head? ≠ some '}') (fuel : Nat) :
    readValue (fuel + 1) ('{' :: s) =
      (readMembers fuel s).map fun (members, rest) => (.object members, rest) := by
  rw [readValue, skip_dark rfl, ← read_members_skip]
  split
  case h_3 rest shape =>
    obtain rfl := (List.cons.inj shape).2
    split
    · next closed => simp [closed] at opens
    · cases readMembers fuel (skipSpace s) <;> rfl
  case h_7 other _ _ _ => exact (other s rfl).elim
  all_goals next shape => simp at shape

theorem ends_blank (blank : ∀ c ∈ gap, isSpace c = true) (closing : Ends rest) :
    Ends (gap ++ rest) := by
  cases gap with
  | nil => exact closing
  | cons c more =>
    intro first same
    cases same
    have space := blank c List.mem_cons_self
    simp only [isSpace, Bool.or_eq_true, decide_eq_true_eq] at space
    rcases space with ((rfl | rfl) | rfl) | rfl <;> decide

theorem ends_mark (mark : c ∈ [',', ']', '}']) (rest : List Char) : Ends (c :: rest) := by
  have every : ∀ c ∈ [',', ']', '}'], c.isDigit = false ∧ c ≠ '.' ∧ c ≠ 'e' ∧ c ≠ 'E' := by
    simp
  intro first same
  cases same
  exact every c mark

section Printed
variable (spacing : Spacing)

/-- Behind the bracket that opens a list of items stands the first item. -/
theorem items_open (item : Json) (items : List Json) (level : Nat) (rest : List Char) :
    (skipSpace (spacing.items level (item :: items) ++ rest)).head? ≠ some ']' := by
  obtain ⟨c, more, shape, dark, other⟩ := text_begins spacing item (level + 1)
  simp [Spacing.items, List.append_assoc, skip_blank (spacing.line_blank _), shape,
    skip_dark dark, other]

theorem members_open (member : String × Json) (members : List (String × Json)) (level : Nat)
    (rest : List Char) :
    (skipSpace (spacing.members level (member :: members) ++ rest)).head? ≠ some '}' := by
  have mark : isSpace '"' = false := rfl
  simp [Spacing.members, List.append_assoc, skip_blank (spacing.line_blank _), quote,
    skip_dark mark]

mutual

/-- A text is read as its document, whatever follows it. -/
theorem read_text (v : Json) (ends : Ends rest) (enough : (spacing.text level v).length < fuel) :
    readValue fuel (spacing.text level v ++ rest) = some (documentOf v, rest) := by
  -- Each level takes one unit of fuel and has at least one character of its own.
  obtain ⟨fuel, rfl⟩ := Nat.exists_eq_succ_of_ne_zero (Nat.ne_zero_of_lt enough)
  cases v with
  | null => rfl
  | bool value => cases value <;> rfl
  | number n => exact read_number n ends fuel
  | string s =>
    simp only [Spacing.text, quote, List.cons_append, List.append_assoc, List.nil_append]
    rw [readValue, skip_dark rfl]
    simp only [read_escaped, Option.bind_eq_bind, Option.bind_some]
    rfl
  | array items =>
    cases items with
    | nil => rfl
    | cons item items =>
      rw [Spacing.text, List.length_cons] at enough
      have read : readItems fuel (spacing.items level (item :: items) ++ rest) =
          some (itemsOf (item :: items), rest) :=
        read_items (item :: items) (by simp) (by omega)
      have opens := items_open spacing item items level rest
      rw [Spacing.text, List.cons_append, read_array opens, read]
      rfl
  | object members =>
    cases members with
    | nil => rfl
    | cons member members =>
      rw [Spacing.text, List.length_cons] at enough
      have read : readMembers fuel (spacing.members level (member :: members) ++ rest) =
          some (membersOf (member :: members), rest) :=
        read_members (member :: members) (by simp) (by omega)
      have opens := members_open spacing member members level rest
      rw [Spacing.text, List.cons_append, read_object opens, read]
      rfl

theorem read_items (items : List Json) (nonempty : items ≠ [])
    (enough : (spacing.items level items).length < fuel) :
    readItems fuel (spacing.items level items ++ rest) = some (itemsOf items, rest) := by
  cases items with
  | nil => exact absurd rfl nonempty
  | cons item items =>
    rw [Spacing.items] at enough ⊢
    simp only [List.length_append] at enough
    obtain ⟨fuel, rfl⟩ := Nat.exists_eq_succ_of_ne_zero (n := fuel) (by omega)
    have first {tail : List Char} (ends : Ends tail) :
        readValue fuel (spacing.line (level + 1) ++ (spacing.text (level + 1) item ++ tail)) =
          some (documentOf item, tail) := by
      rw [read_value_blank fuel (spacing.line_blank _)]
      exact read_text item ends (by split at enough <;> simp at enough <;> omega)
    simp only [readItems, List.append_assoc]
    cases items with
    | nil =>
      have closing : skipSpace (spacing.line level ++ (']' :: rest)) = ']' :: rest := by
        rw [skip_blank (spacing.line_blank _)]
        rfl
      rw [if_pos rfl, List.append_assoc, List.singleton_append,
        first (ends_blank (spacing.line_blank _) (ends_mark (by decide) rest))]
      simp only [closing, Option.bind_eq_bind, Option.bind_some]
      rfl
    | cons next items =>
      have later : readItems fuel (spacing.items level (next :: items) ++ rest) =
          some (itemsOf (next :: items), rest) :=
        read_items (next :: items) (by simp) (by simp at enough; omega)
      have comma : skipSpace (',' :: (spacing.items level (next :: items) ++ rest)) =
          ',' :: (spacing.items level (next :: items) ++ rest) := skip_dark rfl _
      rw [if_neg (by simp), List.cons_append, first (ends_mark (by decide) _)]
      simp only [comma, later, Option.bind_eq_bind, Option.bind_some]
      rfl

theorem read_members (members : List (String × Json)) (nonempty : members ≠ [])
    (enough : (spacing.members level members).length < fuel) :
    readMembers fuel (spacing.members level members ++ rest) = some (membersOf members, rest) := by
  cases members with
  | nil => exact absurd rfl nonempty
  | cons member members =>
    obtain ⟨key, value⟩ := member
    rw [Spacing.members] at enough ⊢
    simp only [List.length_append, List.length_cons] at enough
    obtain ⟨fuel, rfl⟩ := Nat.exists_eq_succ_of_ne_zero (n := fuel) (by omega)
    have first {tail : List Char} (ends : Ends tail) :
        readValue fuel (spacing.colon ++ (spacing.text (level + 1) value ++ tail)) =
          some (documentOf value, tail) := by
      rw [read_value_blank fuel spacing.colon_blank]
      exact read_text value ends (by split at enough <;> simp at enough <;> omega)
    have opening (tail : List Char) : skipSpace (spacing.line (level + 1) ++
        (quote key.toList ++ tail)) = '"' :: (key.toList.flatMap escapeChar ++ '"' :: tail) := by
      rw [skip_blank (spacing.line_blank _), quote, List.cons_append, List.cons_append,
        skip_dark rfl]
      simp
    have colon (tail : List Char) : skipSpace (':' :: tail) = ':' :: tail := skip_dark rfl tail
    simp only [readMembers, List.append_assoc, opening, read_escaped, Option.bind_eq_bind,
      Option.bind_some, List.cons_append, colon]
    cases members with
    | nil =>
      have closing : skipSpace (spacing.line level ++ ('}' :: rest)) = '}' :: rest := by
        rw [skip_blank (spacing.line_blank _)]
        rfl
      rw [if_pos rfl, List.append_assoc, List.singleton_append,
        first (ends_blank (spacing.line_blank _) (ends_mark (by decide) rest))]
      simp only [closing, Option.bind_some]
      rfl
    | cons next members =>
      have later : readMembers fuel (spacing.members level (next :: members) ++ rest) =
          some (membersOf (next :: members), rest) :=
        read_members (next :: members) (by simp) (by simp at enough; omega)
      have comma : skipSpace (',' :: (spacing.members level (next :: members) ++ rest)) =
          ',' :: (spacing.members level (next :: members) ++ rest) := skip_dark rfl _
      rw [if_neg (by simp), List.cons_append, first (ends_mark (by decide) _)]
      simp only [comma, later, Option.bind_some]
      rfl

end

/-- A text, with white space behind it, is read whole. -/
theorem read_document (v : Json) (blank : ∀ c ∈ after, isSpace c = true) :
    Document.read? (spacing.text 0 v ++ after) = some (documentOf v) := by
  have ends : Ends after := by
    rw [← List.append_nil after]
    exact ends_blank blank nofun
  have rest : skipSpace after = [] := List.dropWhile_eq_nil_iff.mpr blank
  have read : readValue ((spacing.text 0 v ++ after).length + 1) (spacing.text 0 v ++ after) =
      some (documentOf v, after) :=
    read_text spacing v ends (by simp only [List.length_append]; omega)
  rw [Document.read?, read]
  simp [rest]

end Printed

end Botwright.JsonReading
