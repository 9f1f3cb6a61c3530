import Botwright.Proofs.SnippetLocals
import Botwright.Proofs.TemplateReading

/-! A reader for the statements of a text reply: locals that read members of the
response, texts that are added to a list under a guard, and the message at the
end. It knows no more of the language than that and refuses everything else. Whole
statements have the names of the language; locals and guards are also read alone, by
readers that do not mean to run them. -/
namespace Botwright.StatementReading
open Script SnippetLocals LiteralReading TemplateReading IdentifierNames

/-! ## Statements -/

/-- What a local is given. -/
inductive Source where
  /-- The document of a response, once it has come. -/
  | json (response : String)
  | emptyList
  | member (object : String) (links : List Link)
  deriving DecidableEq, Repr

inductive Statement where
  | const (name : String) (source : Source)
  /-- Adds a text to a list unless one of the needed values is missing. -/
  | push (needed : List String) (list : String) (text : List Mark)
  /-- Returns a message: the items of a list, or another text if there are none. -/
  | answer (list : String) (between fallback : List Char)
  deriving DecidableEq, Repr

section Parts
variable (names : Names)

def readSource : Reader Source := fun s =>
  match expect "[]" s with
  | some rest => some (.emptyList, rest)
  | none =>
    match expect "await " s with
    | some rest => do
      let (response, rest) ← readReference names rest
      let rest ← expect ".json()" rest
      return (.json response, rest)
    | none => do
      let (object, rest) ← readReference names s
      let (links, rest) := readMany (readLink names) rest
      return (.member object links, rest)

def readConst : Reader Statement := fun s => do
  let s ← expect "const " s
  let (name, s) ← readReference names s
  let s ← expect " = " s
  let (source, s) ← readSource names s
  let s ← expect ";" s
  return (.const name source, s)

def readCondition : Reader String := fun s => do
  let (name, s) ← readReference names s
  let s ← expect " != null" s
  return (name, s)

def readNextCondition : Reader String := fun s =>
  (expect " && " s).bind (readCondition names)

/-- The names that a guard needs; a statement without a guard needs none. -/
def readGuard : Reader (List String) := fun s =>
  match expect "if (" s with
  | none => some ([], s)
  | some s => do
    let (first, s) ← readCondition names s
    let (more, s) := readMany (readNextCondition names) s
    let s ← expect ") " s
    return (first :: more, s)

end Parts

def readPush : Reader Statement := fun s => do
  let (needed, s) ← readGuard languageNames s
  let (list, s) ← readReference languageNames s
  let s ← expect ".push(" s
  let (text, s) ← readTemplate s
  let s ← expect ");" s
  return (.push needed list text, s)

def readAnswer : Reader Statement := fun s => do
  let s ← expect "return \x7b\n  content: " s
  let (tested, s) ← readReference languageNames s
  let s ← expect ".length > 0 ? " s
  let (joined, s) ← readReference languageNames s
  let s ← expect ".join(" s
  let (between, s) ← readString s
  let s ← expect ") : " s
  let (fallback, s) ← readString s
  let s ← expect "\n\x7d;" s
  if tested = joined then some (.answer tested between fallback, s) else none

def readStatement : Reader Statement := fun s =>
  (readConst languageNames s).or ((readAnswer s).or (readPush s))

/-! ## Programs -/

/-- A character that may stand between statements. -/
def isGap (c : Char) : Bool := c = ' ' || c = '\n'

def skipGap (s : List Char) : List Char := s.dropWhile isGap

/-- A statement with the gap behind it. -/
def readLine : Reader Statement := fun s =>
  (readStatement s).map fun (statement, rest) => (statement, skipGap rest)

/-- Statements up to the end of a text. -/
def readProgram (s : List Char) : Option (List Statement) :=
  let (statements, rest) := readMany readLine (skipGap s)
  if rest = [] then some statements else none

/-- A text that does not begin with a gap. -/
def Solid (text : List Char) : Prop := ∃ c more, text = c :: more ∧ isGap c = false

/-- A text is a statement, whatever follows it. -/
structure Spells (text : List Char) (statement : Statement) : Prop where
  begins : Solid text
  reads : ∀ rest, readStatement (text ++ rest) = some (statement, rest)

/-- No statement begins like a text, whatever follows it. -/
structure Refused (text : List Char) : Prop where
  begins : Solid text
  refuses : ∀ rest, readStatement (text ++ rest) = none

theorem Solid.kept (solid : Solid text) (s : List Char) : skipGap (text ++ s) = text ++ s := by
  obtain ⟨c, more, shape, dark⟩ := solid
  rw [shape, List.cons_append, skipGap, List.dropWhile_cons_of_neg (by simp [dark])]

/-- A blank line is part of the gap. -/
theorem yields_behind_blank (yields : Yields readLine (skipGap s) items rest) :
    Yields readLine (skipGap ('\n' :: s)) items rest :=
  yields

theorem yields_statement (spells : Spells text statement) (s : List Char) :
    Yields readLine (skipGap (text ++ s)) [statement] (skipGap s) := by
  obtain ⟨c, more, shape, _⟩ := spells.begins
  rw [spells.begins.kept]
  apply Yields.one
  · rw [readLine, spells.reads, Option.map_some]
  · have shorter : (skipGap s).length ≤ s.length := (List.dropWhile_sublist isGap).length_le
    rw [shape, List.cons_append, List.length_cons, List.length_append]
    omega

theorem yields_line (spells : Spells text statement) (s : List Char) :
    Yields readLine (skipGap (text ++ '\n' :: s)) [statement] (skipGap s) :=
  yields_statement spells ('\n' :: s)

theorem yields_lines {entries : List α} (write : α → String) (mean : α → Statement)
    (each : ∀ entry ∈ entries, Spells (write entry).toList (mean entry)) (s : List Char) :
    Yields readLine (skipGap (entries.flatMap (fun entry => (write entry).toList ++ ['\n']) ++ s))
      (entries.map mean) (skipGap s) := by
  induction entries with
  | nil => exact .nil
  | cons entry rest ih =>
    have first := yields_line (each entry (by simp))
      (rest.flatMap (fun entry => (write entry).toList ++ ['\n']) ++ s)
    have more := ih fun other member => each other (by simp [member])
    simpa using first.append more

/-- Lines that may each be read, and one that may not, are read up to that one. -/
theorem halts_lines {entries : List α} (write : α → String) (mean : α → Statement)
    (each : ∀ entry ∈ entries,
      Spells (write entry).toList (mean entry) ∨ Refused (write entry).toList)
    (refused : ∃ entry ∈ entries, Refused (write entry).toList) (s : List Char) :
    ∃ stuck, stuck ≠ [] ∧
      Halts readLine
        (skipGap (entries.flatMap (fun entry => (write entry).toList ++ ['\n']) ++ s)) stuck := by
  induction entries with
  | nil => simp at refused
  | cons entry rest ih =>
    rw [List.forall_mem_cons] at each
    have text : (entry :: rest).flatMap (fun entry => (write entry).toList ++ ['\n']) ++ s =
        (write entry).toList ++ '\n' ::
          (rest.flatMap (fun entry => (write entry).toList ++ ['\n']) ++ s) := by simp
    rw [text]
    rcases each.1 with spells | stops
    · have later : ∃ entry ∈ rest, Refused (write entry).toList := by
        obtain ⟨other, member, stops⟩ := refused
        rcases List.mem_cons.mp member with rfl | member
        · have both := (spells.reads []).symm.trans (stops.refuses [])
          cases both
        · exact ⟨other, member, stops⟩
      obtain ⟨stuck, solid, halts⟩ := ih each.2 later
      exact ⟨stuck, solid, (yields_line spells _).halts halts⟩
    · obtain ⟨c, more, shape, _⟩ := stops.begins
      rw [stops.begins.kept]
      refine ⟨_, by simp [shape], halts_here ?_⟩
      rw [readLine, stops.refuses, Option.map_none]

/-! ## Locals -/

/-- A local whose name is one for the reader. -/
structure Readable (names : Names) (name : String) : Prop where
  isLocal : Local name
  admitted : names name = true

theorem readable_word (named : Local name) : Readable anyWord name :=
  ⟨named, any_word name⟩

theorem not_word_of_local (named : Local name) : name ∉ reservedWords := by
  have kept : ∀ word ∈ reservedWords, word ∈ reservedNames := by decide +kernel
  exact fun word => named.unreserved (kept name word)

theorem read_local (named : Readable names name) (apart : Apart rest) :
    readReference names (name.toList ++ rest) = some (name, rest) :=
  read_reference name named.isLocal.identifier named.admitted (not_word_of_local named.isLocal)
    apart

/-- The text of a declaration. -/
def constText (name : String) (source : List Char) : String :=
  "const " ++ name ++ " = " ++ String.ofList source ++ ";"

theorem to_list_const (name : String) (source rest : List Char) :
    (constText name source).toList ++ rest =
      "const ".toList ++ (name.toList ++ (" = ".toList ++ (source ++ ';' :: rest))) := by
  simp [constText]

theorem read_const (identifier : isIdentifier name = true) (admitted : names name = true)
    (word : name ∉ reservedWords)
    (read : ∀ rest, readSource names (text ++ ';' :: rest) = some (source, ';' :: rest))
    (rest : List Char) :
    readConst names ((constText name text).toList ++ rest) = some (.const name source, rest) := by
  have apart : Apart (" = ".toList ++ (text ++ ';' :: rest)) := apart_cons (by decide) _
  have closing : expect ";" (';' :: rest) = some rest := rfl
  rw [to_list_const]
  simp only [readConst, expect_append, read_reference name identifier admitted word apart, read,
    closing, Option.bind_eq_bind, Option.bind_some, Option.pure_def]

theorem solid_const (name : String) (source : List Char) : Solid (constText name source).toList :=
  ⟨'c', _, by simp [constText]; rfl, rfl⟩

theorem spells_const (identifier : isIdentifier name = true)
    (admitted : languageNames name = true) (word : name ∉ reservedWords)
    (read : ∀ rest, readSource languageNames (text ++ ';' :: rest) =
      some (source, ';' :: rest)) :
    Spells (constText name text).toList (.const name source) where
  begins := solid_const name text
  reads rest := by
    rw [readStatement, read_const identifier admitted word read rest, Option.some_or]

/-- No other statement begins like a declaration. -/
theorem refused_const (refuses : ∀ rest,
    readConst languageNames ((constText name text).toList ++ rest) = none) :
    Refused (constText name text).toList where
  begins := solid_const name text
  refuses rest := by
    have push (tail : List Char) : readPush ("const ".toList ++ tail) = none := by
      have word : readReference languageNames ("const".toList ++ ' ' :: tail) = none :=
        read_reference_reserved languageNames (by decide) (by decide) (apart_cons (by decide) _)
      have bare : readGuard languageNames ("const ".toList ++ tail) =
          some ([], "const".toList ++ ' ' :: tail) := rfl
      simp only [readPush, bare, word, Option.bind_eq_bind, Option.bind_some, Option.bind_none]
    have answer (tail : List Char) : readAnswer ("const ".toList ++ tail) = none := rfl
    rw [readStatement, refuses, to_list_const, push, answer]
    rfl

/-- A declaration is refused if its name is none of the language. -/
theorem refused_name (identifier : isIdentifier name = true)
    (refused : languageNames name = false) (text : List Char) :
    Refused (constText name text).toList := refused_const fun rest => by
  have apart : Apart (" = ".toList ++ (text ++ ';' :: rest)) := apart_cons (by decide) _
  rw [to_list_const]
  simp only [readConst, expect_append, read_reference_refused identifier refused apart,
    Option.bind_eq_bind, Option.bind_some, Option.bind_none]

/-- A declaration is refused if its source ends before the semicolon. -/
theorem refused_source (named : Local name) (admitted : languageNames name = true)
    (short : ∀ rest, ∃ source stuck, readSource languageNames (text ++ ';' :: rest) =
      some (source, stuck) ∧ stuck.head? ≠ some ';') :
    Refused (constText name text).toList := refused_const fun rest => by
  obtain ⟨source, stuck, read, other⟩ := short rest
  have apart : Apart (" = ".toList ++ (text ++ ';' :: rest)) := apart_cons (by decide) _
  have open_ended : expect ";" stuck = none := by
    cases stuck with
    | nil => rfl
    | cons c more =>
      have unlike : ';' ≠ c := fun same => other (by rw [same]; rfl)
      simp [expect, Text.dropStart?, unlike]
  rw [to_list_const]
  simp only [readConst, expect_append, read_local ⟨named, admitted⟩ apart, read, open_ended,
    Option.bind_eq_bind, Option.bind_some, Option.bind_none]

theorem read_response (rest : List Char) :
    readSource languageNames ("await ".toList ++ ("apiResponse".toList ++
      (".json()".toList ++ ';' :: rest))) = some (.json "apiResponse", ';' :: rest) := by
  have apart : Apart (".json()".toList ++ ';' :: rest) := apart_cons (by decide) _
  have response := read_reference "apiResponse" (by decide)
    (by decide +kernel : languageNames "apiResponse" = true) (by decide) apart
  have notList : expect "[]" ("await ".toList ++ ("apiResponse".toList ++
      (".json()".toList ++ ';' :: rest))) = none := rfl
  simp only [readSource, notList, expect_append, response, Option.bind_eq_bind, Option.bind_some,
    Option.pure_def]

/-- The source of a member is read as its object and as many links as can be read. -/
theorem read_access_eq (data : names "data" = true) (optional : Bool) (path : String)
    (rest : List Char) :
    readSource names ((access "data" path optional).toList ++ ';' :: rest) =
      let (links, stuck) := readMany (readLink names) ((String.join
        ((FieldPath.segments path).map (accessStep optional))).toList ++ ';' :: rest)
      some (.member "data" links, stuck) := by
  have ends : Apart (';' :: rest) := apart_cons (by decide) _
  have object := read_reference "data" (by decide) data (by decide)
    (apart_access_steps optional (FieldPath.segments path) ends)
  have plain : expect "[]" ((access "data" path optional).toList ++ ';' :: rest) = none := by
    simp [access, expect, Text.dropStart?]
  have ready : expect "await " ((access "data" path optional).toList ++ ';' :: rest) = none := by
    simp [access, expect, Text.dropStart?]
  rw [readSource, plain, ready, access, String.toList_append, List.append_assoc]
  simp only [object, Option.bind_eq_bind, Option.bind_some, Option.pure_def]

theorem read_access (data : names "data" = true) (optional : Bool) (path : String)
    (admitted : ∀ key ∈ bareKeys (FieldPath.segments path), names key = true)
    (rest : List Char) :
    readSource names ((access "data" path optional).toList ++ ';' :: rest) =
      some (.member "data" ((FieldPath.segments path).map fun step => (optional, step)),
        ';' :: rest) := by
  have ends : Apart (';' :: rest) := apart_cons (by decide) _
  have links := (yields_access_steps optional (FieldPath.segments path) admitted
    ends).read_many rfl
  rw [read_access_eq data, links]

/-- A member with a bare key that is no name is read up to a link. -/
theorem read_access_short (data : names "data" = true) (optional : Bool) (path : String)
    (refused : ∃ key ∈ bareKeys (FieldPath.segments path), names key = false)
    (rest : List Char) :
    ∃ source stuck, readSource names ((access "data" path optional).toList ++ ';' :: rest) =
      some (source, stuck) ∧ stuck.head? ≠ some ';' := by
  have ends : Apart (';' :: rest) := apart_cons (by decide) _
  obtain ⟨stuck, halts, mark⟩ := halts_access_steps optional refused ends
  obtain ⟨links, read⟩ := halts.read_many
  refine ⟨_, stuck, by rw [read_access_eq data, read], ?_⟩
  intro same
  rw [same] at mark
  exact absurd mark (by decide)

/-! ## Guards -/

/-- What stands before a statement so that it runs only if some values are there. -/
def guardText (needed : List String) : String :=
  if needed = [] then ""
  else "if (" ++ " && ".intercalate (needed.map fun name => name ++ " != null") ++ ") "

theorem intercalate_eq_join (between first : String) (more : List String) :
    between.intercalate (first :: more) =
      first ++ String.join (more.map fun text => between ++ text) := by
  induction more generalizing first with
  | nil => simp
  | cons second more ih =>
    rw [String.intercalate_cons_cons, ih, List.map_cons, String.join_cons]
    simp only [String.append_assoc]

theorem read_condition (named : Readable names name) (rest : List Char) :
    readCondition names ((name ++ " != null").toList ++ rest) = some (name, rest) := by
  have apart : Apart (" != null".toList ++ rest) := apart_cons (by decide) _
  rw [String.toList_append, List.append_assoc]
  simp only [readCondition, read_local named apart, expect_append, Option.bind_eq_bind,
    Option.bind_some, Option.pure_def]

theorem yields_conditions (locals : ∀ name ∈ needed, Readable names name) (rest : List Char) :
    Yields (readNextCondition names)
      ((String.join (needed.map fun name => " && " ++ (name ++ " != null"))).toList ++ rest)
      needed rest := by
  induction needed with
  | nil => exact .nil
  | cons name needed ih =>
    have more := ih fun other member => locals other (by simp [member])
    rw [List.map_cons, String.join_cons, String.toList_append, List.append_assoc,
      String.toList_append, List.append_assoc]
    refine .cons ?_ ?_ more
    · rw [readNextCondition, expect_append, Option.bind_some,
        read_condition (locals name List.mem_cons_self)]
    · simp only [List.length_append]
      have opening : 0 < " && ".toList.length := by decide
      omega

/-- A guard is read as the names that it tests. -/
theorem read_guard (locals : ∀ name ∈ needed, Readable names name)
    (bare : expect "if (" rest = none) :
    readGuard names ((guardText needed).toList ++ rest) = some (needed, rest) := by
  cases needed with
  | nil => simp [readGuard, guardText, bare]
  | cons first more =>
    have rest_locals : ∀ name ∈ more, Readable names name := fun name member =>
      locals name (List.mem_cons_of_mem first member)
    have later := (yields_conditions rest_locals (") ".toList ++ rest)).read_many rfl
    have text : (guardText (first :: more)).toList ++ rest = "if (".toList ++
        ((first ++ " != null").toList ++ ((String.join (more.map fun name =>
          " && " ++ (name ++ " != null"))).toList ++ (") ".toList ++ rest))) := by
      rw [guardText, if_neg (by simp), List.map_cons, intercalate_eq_join, List.map_map]
      simp only [String.toList_append, List.append_assoc]
      rfl
    rw [text]
    simp only [readGuard, expect_append, read_condition (locals first (by simp)), later,
      Option.bind_eq_bind, Option.bind_some, Option.pure_def]

theorem guarded_begins (needed : List String) (rest : List Char) :
    ∃ c more, (guardText needed).toList ++ 'p' :: rest = c :: more ∧ (c = 'i' ∨ c = 'p') := by
  cases needed with
  | nil => exact ⟨'p', rest, rfl, .inr rfl⟩
  | cons first more => exact ⟨'i', _, by simp [guardText]; rfl, .inl rfl⟩

/-! ## Texts -/

theorem parts_name : languageNames "parts" = true := by decide +kernel

/-- A text is added under the guard that stands before it. -/
theorem read_push (locals : ∀ name ∈ needed, Readable languageNames name)
    (read : readTemplate s = some (marks, ");".toList ++ rest)) :
    readPush ((guardText needed).toList ++ ("parts.push(".toList ++ s)) =
      some (.push needed "parts" marks, rest) := by
  have guarded :
      readGuard languageNames ((guardText needed).toList ++ ("parts.push(".toList ++ s)) =
      some (needed, "parts.push(".toList ++ s) := read_guard locals rfl
  have opening : "parts.push(".toList ++ s = "parts".toList ++ (".push(".toList ++ s) := rfl
  have apart : Apart (".push(".toList ++ s) := apart_cons (by decide) _
  have list := read_reference "parts" (by decide) parts_name (by decide) apart
  simp only [readPush, guarded, Option.bind_eq_bind, Option.bind_some]
  rw [opening]
  simp only [list, expect_append, read, Option.bind_some, Option.pure_def]

theorem spells_push (locals : ∀ name ∈ needed, Readable languageNames name)
    (read : ∀ rest, readTemplate ('\x60' :: (text ++ '\x60' :: rest)) = some (marks, rest)) :
    Spells (guardText needed ++ ("parts.push(`" ++ String.ofList text ++ "`);")).toList
      (.push needed "parts" marks) := by
  constructor
  · obtain ⟨c, more, shape, first⟩ := guarded_begins needed
      ("arts.push(`" ++ String.ofList text ++ "`);").toList
    refine ⟨c, more, ?_, ?_⟩
    · rw [← shape]
      simp
    · rcases first with rfl | rfl <;> rfl
  intro rest
  have whole : (guardText needed ++ ("parts.push(`" ++ String.ofList text ++ "`);")).toList ++
      rest = (guardText needed).toList ++ ("parts.push(".toList ++
        ('\x60' :: (text ++ '\x60' :: (");".toList ++ rest)))) := by
    simp
  have taken := read_push locals (read (");".toList ++ rest))
  rw [whole]
  generalize '\x60' :: (text ++ '\x60' :: (");".toList ++ rest)) = s at taken
  -- Neither of the other statements begins like this one.
  obtain ⟨c, more, shape, first⟩ := guarded_begins needed ("arts.push(".toList ++ s)
  have begins : (guardText needed).toList ++ ("parts.push(".toList ++ s) = c :: more := shape
  have notConst : readConst languageNames (c :: more) = none := by
    rcases first with rfl | rfl <;> rfl
  have notAnswer : readAnswer (c :: more) = none := by rcases first with rfl | rfl <;> rfl
  rw [readStatement, taken, begins, notConst, notAnswer]
  rfl

/-- The statement that returns the texts of a list, or another text if there are none. -/
def answerText (between fallback : String) : String :=
  "return \x7b\n  content: parts.length > 0 ? parts.join(" ++ stringLiteral between ++ ") : " ++
    stringLiteral fallback ++ "\n\x7d;"

theorem to_list_answer (between fallback : String) :
    (answerText between fallback).toList =
      "return \x7b\n  content: ".toList ++ ("parts".toList ++ (".length > 0 ? ".toList ++
        ("parts".toList ++ (".join(".toList ++ (quoted between.toList ++ (") : ".toList ++
          (quoted fallback.toList ++ "\n\x7d;".toList))))))) := by
  have opening : "return \x7b\n  content: parts.length > 0 ? parts.join(" =
      "return \x7b\n  content: " ++ "parts" ++ ".length > 0 ? " ++ "parts" ++ ".join(" := by decide
  unfold answerText stringLiteral
  simp only [opening, String.toList_append, String.toList_ofList, List.append_assoc]

theorem spells_answer (between fallback : String) :
    Spells (answerText between fallback).toList
      (.answer "parts" between.toList fallback.toList) where
  begins := ⟨'r', _, to_list_answer between fallback, rfl⟩
  reads rest := by
    have list {tail : List Char} (apart : Apart tail) :
        readReference languageNames ("parts".toList ++ tail) = some ("parts", tail) :=
      read_reference "parts" (by decide) parts_name (by decide) apart
    have test (tail : List Char) : Apart (".length > 0 ? ".toList ++ tail) :=
      apart_cons (by decide) _
    have call (tail : List Char) : Apart (".join(".toList ++ tail) := apart_cons (by decide) _
    have taken : readAnswer ((answerText between fallback).toList ++ rest) =
        some (.answer "parts" between.toList fallback.toList, rest) := by
      simp only [to_list_answer, List.append_assoc, readAnswer, expect_append, list (test _),
        list (call _), read_quoted, Option.bind_eq_bind, Option.bind_some, if_true]
    have notConst :
        readConst languageNames ((answerText between fallback).toList ++ rest) = none := by
      rw [to_list_answer]
      rfl
    rw [readStatement, notConst, taken]
    rfl

theorem answer_text_ends (between fallback : String) :
    (answerText between fallback).toList.getLast? = some ';' := by
  simp only [to_list_answer, List.getLast?_append]
  rfl

end Botwright.StatementReading
