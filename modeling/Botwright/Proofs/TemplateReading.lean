import Botwright.Proofs.LiteralReading
import Botwright.Proofs.TemplateScan

/-! A reader for template literals. It gives the characters that a template means
one by one, and of each substitution the expression as it stands there; parts that
fit between backticks are read back as they were. -/
namespace Botwright.TemplateReading
open Script SourceScan TemplateScan LiteralReading

/-- What a template literal is made of. -/
inductive Mark where
  | char (c : Char)
  | hole (expression : List Char)
  deriving DecidableEq, Repr

/-- The rest of a substitution up to the brace that ends it, with what follows that
brace. `state` is what the scanner has come to. -/
def readHole (state : State) : Reader (List Char)
  | [] => none
  | c :: rest =>
    match step state c with
    | none => none
    | some next =>
      if next = ⟨backticks, []⟩ then some ([], rest)
      else (readHole next rest).map fun (expression, after) => (c :: expression, after)

/-- One character or substitution of a template. A raw carriage return is refused,
because it would be read as a line feed. -/
def readMark : Reader Mark
  | [] => none
  | c :: rest =>
    if c = '\x60' ∨ c = '\r' then none
    else if c = '\\' then (readEscape rest).map fun (meant, after) => (.char meant, after)
    else if c = '$' ∧ rest.head? = some '{' then
      (readHole (inside [.substitution]) rest.tail).map fun (expression, after) =>
        (.hole expression, after)
    else some (.char c, rest)

/-- A template literal. -/
def readTemplate : Reader (List Mark) := fun s => do
  let s ← expect "`" s
  let (marks, rest) := readMany readMark s
  let rest ← expect "`" rest
  return (marks, rest)

/-! ## Substitutions -/

theorem read_hole_within (run : scan state expression = some start) (rest : List Char) :
    readHole (state.within [.substitution]) (expression ++ '}' :: rest) =
      some (expression, rest) := by
  induction expression generalizing state with
  | nil => cases run; rfl
  | cons c expression ih =>
    obtain ⟨next, stepped, after⟩ := Option.bind_eq_some_iff.mp run
    -- The brackets of the expression stand within those of the substitution.
    have inner : next.within [.substitution] ≠ ⟨backticks, []⟩ := by
      intro same
      have none : next.opened ++ [.substitution] = [] := congrArg State.opened same
      simp at none
    rw [List.cons_append, readHole, step_within stepped]
    simp only [inner, if_false, ih after, Option.map_some]

/-- A substitution reaches to its own closing brace. -/
theorem read_hole (quiet : Quiet expression) (rest : List Char) :
    readHole (inside [.substitution]) (expression.toList ++ '}' :: rest) =
      some (expression.toList, rest) :=
  read_hole_within quiet rest

/-! ## Plain text -/

/-- A text behind a plain one cannot turn its last dollar sign into a substitution. -/
def Follows (plain rest : List Char) : Prop :=
  plain.getLast? = some '$' → rest.head? ≠ some '{'

theorem head_template_chars (brace : (templateChars plain ++ rest).head? = some '{') :
    plain.head? = some '{' ∨ plain = [] ∧ rest.head? = some '{' := by
  cases plain with
  | nil => exact .inr ⟨rfl, brace⟩
  | cons c plain =>
    left
    obtain ⟨first, written, shape⟩ := template_chars_cons c plain
    rw [shape] at brace
    cases written with
    | letter named => cases brace
    | itself slash mark back feed closed => simpa using brace

theorem read_mark_plain (mark : c ≠ '\x60') (back : c ≠ '\r') (slash : c ≠ '\\')
    (closed : ¬(c = '$' ∧ rest.head? = some '{')) :
    readMark (c :: rest) = some (.char c, rest) := by
  simp [readMark, mark, back, slash, closed]

/-- Plain text is read back character by character. -/
theorem yields_template_chars (follows : Follows plain rest) :
    Yields readMark (templateChars plain ++ rest) (plain.map .char) rest := by
  induction plain with
  | nil => exact .nil
  | cons c plain ih =>
    have later : Follows plain rest := by
      intro dollar
      cases plain with
      | nil => cases dollar
      | cons d plain => exact follows (by simpa using dollar)
    have more := ih later
    obtain ⟨first, written, shape⟩ := template_chars_cons c plain
    rw [shape, List.append_assoc]
    cases written with
    | letter named =>
      have letter : ∀ pair ∈ templateLetters, readEscape [pair.2] = some (pair.1, []) := by decide
      refine .cons ?_ ?_ more
      · simpa [readMark] using
          read_escape_append (letter _ named) (templateChars plain ++ rest)
      · simp only [List.length_append, List.length_cons]
        omega
    | itself slash mark back feed closed =>
      have plainly : ¬(c = '$' ∧ (templateChars plain ++ rest).head? = some '{') := by
        rintro ⟨rfl, brace⟩
        rcases head_template_chars brace with inner | ⟨rfl, outer⟩
        · exact closed ⟨rfl, inner⟩
        · exact follows rfl outer
      exact .cons (read_mark_plain mark back slash plainly) (by simp) more

/-- A fixed text that needs no escape. -/
theorem yields_fixed (fixed : String) (bare : templateChars fixed.toList = fixed.toList)
    (calm : fixed.toList.getLast? ≠ some '$') (rest : List Char) :
    Yields readMark (fixed.toList ++ rest) (fixed.toList.map .char) rest := by
  have follows : Follows fixed.toList rest := fun dollar => absurd dollar calm
  have yields := yields_template_chars follows
  rwa [bare] at yields

/-! ## Parts -/

/-- What a part means. -/
def marksOf : Part → List Mark
  | .text plain => plain.map .char
  | .hole _ expression => [.hole expression.toList]

theorem marks_add_text (plain : List Char) (parts : List Part) :
    (Part.addText plain parts).flatMap marksOf = plain.map .char ++ parts.flatMap marksOf := by
  cases parts with
  | nil => simp [Part.addText, marksOf]
  | cons part rest => cases part <;> simp [Part.addText, marksOf]

theorem read_mark_hole (quiet : Quiet expression) (rest : List Char) :
    readMark ((Part.template (.hole written expression)).toList ++ rest) =
      some (.hole expression.toList, rest) := by
  have read := read_hole quiet rest
  simp [Part.template, readMark, read]

/-- Parts that fit are read back in order. -/
theorem yields_templates (fits : Fits parts) (apart : rest.head? ≠ some '{') :
    Yields readMark ((Part.templates parts).toList ++ rest) (parts.flatMap marksOf) rest := by
  induction fits with
  | nil => exact .nil
  | @text parts plain _ noText ih =>
    rw [Part.templates, List.map_cons, String.join_cons, String.toList_append, List.append_assoc,
      List.flatMap_cons, Part.template, String.toList_ofList]
    refine Yields.append (yields_template_chars fun _ => ?_) ih
    -- Behind plain text stands a hole, or nothing.
    cases parts with
    | nil => exact apart
    | cons part parts =>
      cases part with
      | text more => exact absurd rfl (noText more parts)
      | hole written expression => simp [Part.template]
  | hole written quiet _ ih =>
    rw [Part.templates, List.map_cons, String.join_cons, String.toList_append, List.append_assoc,
      List.flatMap_cons]
    exact Yields.append (.one (read_mark_hole quiet _) (by simp [Part.template]; omega)) ih

/-- A template ends at its backtick. -/
theorem read_template {marks : List Mark}
    (yields : Yields readMark (text ++ '\x60' :: rest) marks ('\x60' :: rest)) :
    readTemplate ('\x60' :: (text ++ '\x60' :: rest)) = some (marks, rest) := by
  have opening : expect "`" ('\x60' :: (text ++ '\x60' :: rest)) =
      some (text ++ '\x60' :: rest) := rfl
  have body := yields.read_many rfl
  have closing : expect "`" ('\x60' :: rest) = some rest := rfl
  simp [readTemplate, opening, body, closing]

/-! ## Brace groups -/

theorem drop_take_while (p : Char → Bool) (s : List Char) :
    s.drop (s.takeWhile p).length = s.dropWhile p := by
  calc s.drop (s.takeWhile p).length
      = (s.takeWhile p ++ s.dropWhile p).drop (s.takeWhile p).length := by
        rw [List.takeWhile_append_dropWhile]
    _ = s.dropWhile p := List.drop_left

/-- A brace group, and what it leaves. -/
theorem brace_group_eq_some {inner : List Char} (group : braceGroup? s = some (inner, more)) :
    ∃ rest, s = '{' :: (inner ++ '}' :: rest) ∧ more = inner.length + 1 ∧
      ∀ c ∈ inner, isBrace c = false := by
  unfold braceGroup? at group
  split at group
  · next text =>
    dsimp only at group
    rw [drop_take_while] at group
    simp only [Option.ite_none_right_eq_some, Option.some.injEq, Prod.mk.injEq] at group
    obtain ⟨closed, rfl, rfl⟩ := group
    obtain ⟨rest, shape⟩ := List.head?_eq_some_iff.mp closed
    refine ⟨rest, ?_, rfl, fun c member => ?_⟩
    · rw [← shape, List.takeWhile_append_dropWhile]
    · simpa using List.all_eq_true.mp List.all_takeWhile c member
  · cases group

/-- A text without braces between two of them is a brace group. -/
theorem brace_group_plain {inner : List Char} (plain : ∀ c ∈ inner, isBrace c = false)
    (rest : List Char) :
    braceGroup? ('{' :: (inner ++ '}' :: rest)) = some (inner, inner.length + 1) := by
  have taken : (inner ++ '}' :: rest).takeWhile (fun c => !isBrace c) = inner := by
    rw [List.takeWhile_append_of_pos (by simpa using plain),
      List.takeWhile_cons_of_neg (by decide), List.append_nil]
  simp only [braceGroup?, taken, List.drop_left, List.head?_cons, if_true]

end Botwright.TemplateReading
