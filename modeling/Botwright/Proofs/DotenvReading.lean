import Botwright.Proofs.SettingsListing

/-! Dotenv text is read back. Each variable has a line of its own, which ends where the next
one begins whatever the value says; a bare value is the value, and a quoted one is unescaped
by a reader that knows three escapes and refuses any other. -/
namespace Botwright.DotenvReading
open Environment CodeLines
open LiteralReading (take_while_append)

/-! ## A reader -/

/-- The character that an escape stands for, by the letter behind its backslash. -/
def escaped? (letter : Char) : Option Char :=
  if letter = '\\' then some '\\'
  else if letter = '"' then some '"'
  else if letter = 'n' then some '\n'
  else none

/-- What a text between quotes stands for. A backslash alone and a quote without one have no
place in it. -/
def unescape? : List Char → Option (List Char)
  | [] => some []
  | '\\' :: letter :: rest => do
    let c ← escaped? letter
    let text ← unescape? rest
    return c :: text
  | c :: rest => if c = '\\' ∨ c = '"' then none else (unescape? rest).map (c :: ·)

/-- A value as it stands behind the equals sign: between quotes if it begins with one, and
verbatim otherwise. -/
def readValue? : List Char → Option (List Char)
  | '"' :: rest => if rest.getLast? = some '"' then unescape? rest.dropLast else none
  | value => some value

/-- The variable that a line gives a value to, and that value. The name ends at the first
equals sign. -/
def readVariable? (line : List Char) : Option (String × String) :=
  match line.dropWhile (· ≠ '=') with
  | [] => none
  | _ :: value => (readValue? value).map fun value =>
    (String.ofList (line.takeWhile (· ≠ '=')), String.ofList value)

/-! ## Values -/

/-- A text with every occurrence of a character replaced. -/
def replaceChar (c : Char) (replacement text : List Char) : List Char :=
  text.flatMap fun d => if d = c then replacement else [d]

/-- A value that needs quotes, with its escapes put in by one replacement after the other.
Backslashes come first: no replacement may touch what an earlier one has put in. -/
def quotedInPasses (value : List Char) : List Char :=
  let slashes := replaceChar '\\' ['\\', '\\'] value
  let marks := replaceChar '"' ['\\', '"'] slashes
  '"' :: replaceChar '\n' ['\\', 'n'] marks ++ ['"']

theorem quoted_in_passes (value : List Char) :
    '"' :: value.flatMap quotedValueChar ++ ['"'] = quotedInPasses value := by
  have single (c : Char) : quotedValueChar c =
      replaceChar '\n' ['\\', 'n']
        (replaceChar '"' ['\\', '"'] (replaceChar '\\' ['\\', '\\'] [c])) := by
    unfold quotedValueChar
    split_ifs with slash mark feed
    iterate 3 subst c; rfl
    simp [replaceChar, slash, mark, feed]
  have passes : value.flatMap quotedValueChar =
      replaceChar '\n' ['\\', 'n']
        (replaceChar '"' ['\\', '"'] (replaceChar '\\' ['\\', '\\'] value)) := by
    induction value with
    | nil => rfl
    | cons c rest ih =>
      rw [List.flatMap_cons, ih, single]
      simp only [replaceChar, List.flatMap_cons, List.flatMap_append, List.flatMap_nil,
        List.append_nil]
  rw [passes, quotedInPasses]

theorem unescape_char (c : Char) (rest : List Char) :
    unescape? (quotedValueChar c ++ rest) = (unescape? rest).map (c :: ·) := by
  have escape {letter : Char} (meant : escaped? letter = some c) :
      unescape? ('\\' :: letter :: rest) = (unescape? rest).map (c :: ·) := by
    rw [unescape?, meant]
    cases unescape? rest <;> rfl
  unfold quotedValueChar
  split_ifs with slash mark feed
  · subst c; exact escape rfl
  · subst c; exact escape rfl
  · subst c; exact escape rfl
  · rw [List.singleton_append, unescape?]
    · simp [slash, mark]
    · rintro _ _ rfl
      exact absurd rfl slash

theorem unescape_quoted (value : List Char) :
    unescape? (value.flatMap quotedValueChar) = some value := by
  induction value with
  | nil => rfl
  | cons c rest ih => rw [List.flatMap_cons, unescape_char, ih, Option.map_some]

/-- A value that needs no quotes holds none, so that it is not taken for a quoted one. -/
theorem read_bare (bare : value.any needsQuotes = false) : readValue? value = some value := by
  unfold readValue?
  split
  · next rest => simp [needsQuotes] at bare
  · rfl

theorem read_value (value : List Char) : readValue? (dotenvChars value) = some value := by
  rw [dotenvChars]
  split
  · have last : (value.flatMap quotedValueChar ++ ['"']).getLast? = some '"' :=
      List.getLast?_concat
    rw [List.cons_append, readValue?, if_pos last, List.dropLast_concat, unescape_quoted]
  · next bare => exact read_bare (Bool.not_eq_true _ ▸ bare)

/-! ## Lines -/

/-- A value as it is written: verbatim, unless there is something in it that needs quotes. -/
def writtenValue (value : List Char) : List Char :=
  if value.any needsQuotes then quotedInPasses value else value

/-- The line of a variable without its line end. -/
def lineOf (v : Variable) : List Char := v.name.toList ++ '=' :: writtenValue v.value.toList

theorem dotenv_chars_eq (value : List Char) : dotenvChars value = writtenValue value := by
  rw [dotenvChars, writtenValue, quoted_in_passes]

theorem dotenv_text (environment : List Variable) :
    (dotenv environment).toList = (environment.map lineOf).flatMap (· ++ ['\n']) := by
  induction environment with
  | nil => rfl
  | cons v rest ih =>
    have written : dotenv (v :: rest) = dotenvLine v.name v.value ++ dotenv rest := by
      rw [dotenv, List.map_cons, String.join_cons]
      rfl
    rw [written, String.toList_append, ih]
    simp [dotenvLine, lineOf, dotenv_chars_eq]

theorem one_line_variable (plain : '\n' ∉ v.name.toList) : '\n' ∉ lineOf v := by
  have value : '\n' ∉ writtenValue v.value.toList := by
    simpa [OneLine, dotenv_chars_eq] using SettingsListing.one_line_value v.value
  simp [lineOf, plain, value]

theorem read_line (plain : '=' ∉ v.name.toList) :
    readVariable? (lineOf v) = some (v.name, v.value) := by
  have kept : ∀ c ∈ v.name.toList, decide (c ≠ '=') = true := fun c held => by
    simpa using fun same : c = '=' => plain (same ▸ held)
  have ends : ∀ c ∈ ('=' :: writtenValue v.value.toList).head?, decide (c ≠ '=') = false := by
    simp
  obtain ⟨name, value⟩ := take_while_append kept ends
  rw [readVariable?, lineOf, name, value]
  simp [← dotenv_chars_eq, read_value]

/-- Where no name of a variable holds an equals sign or a line feed, and whatever the values
are, dotenv text has one line for each variable, and nothing behind the last line end. The
lines are read back as the names and values of the variables, in order. -/
theorem dotenv_round_trip (environment : List Variable)
    (plain : ∀ v ∈ environment, '=' ∉ v.name.toList ∧ '\n' ∉ v.name.toList) :
    let pieces := lines (dotenv environment).toList
    pieces = environment.map lineOf ++ [[]] ∧
      pieces.dropLast.map readVariable? = environment.map fun v => some (v.name, v.value) := by
  have single : ∀ line ∈ environment.map lineOf, '\n' ∉ line := by
    simpa using fun v held => one_line_variable (plain v held).2
  have pieces : lines (dotenv environment).toList = environment.map lineOf ++ [[]] := by
    have cut := lines_flat_map single []
    rwa [List.append_nil, ← dotenv_text] at cut
  dsimp only
  rw [pieces, List.dropLast_concat, List.map_map]
  exact ⟨rfl, List.map_congr_left fun v held => read_line (plain v held).1⟩

/-- Values with everything that is escaped, values that only look so, and names that are no
identifiers. -/
def crookedEnvironment : List Variable :=
  [⟨"A", "", ""⟩, ⟨"B", "a\\nb=c\\", ""⟩, ⟨"#", "\"\\n\"\n\\", ""⟩, ⟨" ", "'\u3000'\r", ""⟩,
    ⟨"", "\"", ""⟩, ⟨"A", "x#y", ""⟩]

theorem crooked_environment_round_trip :
    (∀ v ∈ crookedEnvironment, '=' ∉ v.name.toList ∧ '\n' ∉ v.name.toList) ∧
      lines (dotenv crookedEnvironment).toList =
        ["A=".toList, "B=a\\nb=c\\".toList, "#=\"\\\"\\\\n\\\"\\n\\\\\"".toList,
          " =\"'\u3000'\r\"".toList, "=\"\\\"\"".toList, "A=\"x#y\"".toList, []] ∧
      (lines (dotenv crookedEnvironment).toList).dropLast.map readVariable? =
        [some ("A", ""), some ("B", "a\\nb=c\\"), some ("#", "\"\\n\"\n\\"),
          some (" ", "'\u3000'\r"), some ("", "\""), some ("A", "x#y")] := by
  have plain : ∀ v ∈ crookedEnvironment, '=' ∉ v.name.toList ∧ '\n' ∉ v.name.toList := by decide
  exact ⟨plain, by decide +kernel, (dotenv_round_trip crookedEnvironment plain).2⟩

end Botwright.DotenvReading
