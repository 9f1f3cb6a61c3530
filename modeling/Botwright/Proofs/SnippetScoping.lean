import Botwright.Proofs.GuardedReply
import Botwright.Proofs.JsonReading
import Botwright.Proofs.PreviewAgreement

/-! What the lines of a snippet mention. Behind the locals of the mapped paths, each line
of a reply is read as the locals that it tests and those that it shows, or is known to
mention none; they are the locals of the paths that the mappings refer to. -/
namespace Botwright.SnippetScoping
open Script Reply Reply.Snippet SnippetLocals LiteralReading TemplateReading StatementReading
  SnippetReading CodeLines PreviewAgreement
open TemplateScan (Fits NoLeadingText)
open GuardedReply (Piece pieces pieceMarks pathOf? formatOf)

/-! ## A reader for the lines of a reply -/

/-- The names that a line tests and those that it shows, in the order of the text. -/
structure Use where
  tested : List String
  shown : List String
  deriving DecidableEq, Repr

def expressionOf? : Mark → Option String
  | .char _ => none
  | .hole expression => some (String.ofList expression)

/-- A template literal, as the expressions that it shows. -/
def readShown : Reader (List String) := fun s =>
  (readTemplate s).map fun (marks, rest) => (marks.filterMap expressionOf?, rest)

/-- A text in double quotes. -/
def readLabel : Reader (List Json.StringUnit) := fun s => (expect "\"" s).bind Json.readString

/-- A statement that adds a text to a reply. -/
def readPart : Reader (List String) := fun s => do
  let s ← expect "parts.push(" s
  let (shown, s) ← readShown s
  let s ← expect ");" s
  return (shown, s)

/-- A statement that adds a field to an embed. -/
def readField : Reader (List String) := fun s => do
  let s ← expect "fields.push(\x7b name: " s
  let (_, s) ← readLabel s
  let s ← expect ", value: " s
  let (shown, s) ← readShown s
  let s ← expect ", inline: true \x7d);" s
  return (shown, s)

/-- A statement that adds a member to the selected data. -/
def readSelection : Reader (List String) := fun s => do
  let s ← expect "selectedData[" s
  let (_, s) ← readLabel s
  let s ← expect "] = " s
  let (name, s) ← readReference anyWord s
  let s ← expect ";" s
  return ([name], s)

/-- A member of the selected data, and the comma behind it if there is one. -/
def readEntry : Reader (List String) := fun s => do
  let (_, s) ← readLabel s
  let s ← expect ": " s
  let (name, s) ← readReference anyWord s
  return ([name], (expect "," s).getD s)

/-- The value of a field. -/
def readValue : Reader (List String) := fun s => do
  let s ← expect "value: " s
  let (shown, s) ← readShown s
  let s ← expect "," s
  return (shown, s)

/-- The text of a preview. -/
def readContent : Reader (List String) := fun s => (expect "content: " s).bind readShown

/-- What a whole line without its guard shows. -/
def shown? (s : List Char) : Option (List String) :=
  ((readPart s).or ((readField s).or ((readSelection s).or ((readEntry s).or
    ((readValue s).or (readContent s)))))).bind fun (shown, rest) =>
      if rest = [] then some shown else none

def use? (s : List Char) : Option Use :=
  (readGuard anyWord s).bind fun (tested, s) => (shown? s).map fun shown => ⟨tested, shown⟩

/-- The lines that stand in replies as they are. -/
def fixedLines : List String :=
  ["", "const parts = [];", "const fields = [];", "const selectedData = \x7b\x7d;",
   "const selectedData = \x7b", "return \x7b", "\x7d;", "embeds: [\x7b", "\x7d]",
   "title: \"API Response\",", "color: 0x5865F2,", "fields: [", "],", "fields,", "\x7b", "\x7d",
   "\x7d,", "inline: true", "timestamp: new Date().toISOString()",
   "content: \"```json\\n\" + JSON.stringify(selectedData, null, 2) + \"\\n```\""]

/-- The line with the name of a field. -/
def readNameLine : Reader Unit := fun s => do
  let s ← expect "name: " s
  let (_, s) ← readLabel s
  let s ← expect "," s
  return ((), s)

/-- The text of a reply, or another one if nothing was added to it. -/
def readJoined : Reader Unit := fun s => do
  let s ← expect "content: parts.length > 0 ? parts.join(" s
  let (_, s) ← readString s
  let s ← expect ") : " s
  let (_, s) ← readString s
  return ((), s)

/-- A line that mentions no local of a mapped path. -/
def Bare (s : List Char) : Prop :=
  String.ofList s ∈ fixedLines ∨ readNameLine s = some ((), []) ∨ readJoined s = some ((), [])

instance (s : List Char) : Decidable (Bare s) := inferInstanceAs (Decidable (_ ∨ _ ∨ _))

/-- What a line of a reply does with locals. Lines of any other kind are refused. -/
def readUses? (line : List Char) : Option (List Use) :=
  let s := line.dropWhile (· = ' ')
  match use? s with
  | some use => some [use]
  | none => if Bare s then some [] else none

/-- The uses of locals in all lines. -/
def readReply : List (List Char) → Option (List Use)
  | [] => some []
  | line :: rest => do
    let first ← readUses? line
    let more ← readReply rest
    return first ++ more

/-! ## Pieces are read at any depth -/

/-- Pieces whose lines are read as some uses, however deep they stand. -/
def Reads (pieces : List Code) (uses : List Use) : Prop :=
  ∀ depth, readReply (allLines depth pieces) = some uses

theorem read_reply_append (first : readReply front = some uses)
    (second : readReply back = some more) : readReply (front ++ back) = some (uses ++ more) := by
  induction front generalizing uses with
  | nil =>
    cases first
    exact second
  | cons line rest ih =>
    obtain ⟨here, line_read, first⟩ := Option.bind_eq_some_iff.mp first
    obtain ⟨later, rest_read, first⟩ := Option.bind_eq_some_iff.mp first
    cases first
    rw [List.cons_append, readReply, line_read, ih rest_read]
    simp

theorem reads_nil : Reads [] [] := fun _ => rfl

theorem Reads.append (first : Reads front uses) (second : Reads back more) :
    Reads (front ++ back) (uses ++ more) := fun depth => by
  rw [all_lines_append]
  exact read_reply_append (first depth) (second depth)

theorem Reads.cons (first : Reads [piece] uses) (second : Reads rest more) :
    Reads (piece :: rest) (uses ++ more) :=
  first.append second

/-- Indentation makes no difference to what a line says. -/
theorem read_indented (depth : Nat) (line : List Char) :
    readUses? (indent depth line) = readUses? line := by
  rw [readUses?, drop_indent, readUses?]

theorem read_reply_single (read : readUses? line = some uses) (depth : Nat) :
    readReply [indent depth line] = some uses := by
  simp [readReply, read_indented, read]

theorem reads_line (single : OneLine text) (read : readUses? text.toList = some uses) :
    Reads [.line text] uses := fun depth => by
  rw [all_lines_single, code_lines_line single]
  exact read_reply_single read depth

theorem read_fixed : ∀ text ∈ fixedLines, readUses? text.toList = some [] := by decide +kernel

theorem one_line_fixed : ∀ text ∈ fixedLines, OneLine text := by simp [fixedLines, OneLine]

theorem reads_fixed (fixed : text ∈ fixedLines) : Reads [.line text] [] :=
  reads_line (one_line_fixed text fixed) (read_fixed text fixed)

theorem reads_blank : Reads [.blank] [] := fun depth =>
  read_reply_single (read_fixed "" (by decide)) depth

theorem reads_block (opens : opening ∈ fixedLines) (closes : closing ∈ fixedLines)
    (inside : Reads body uses) : Reads [.block opening closing body] uses := fun depth => by
  have first := read_reply_single (read_fixed opening opens) depth
  have last := read_reply_single (read_fixed closing closes) depth
  have whole := read_reply_append (read_reply_append first (inside (depth + 1))) last
  rw [List.nil_append, List.append_nil] at whole
  rw [all_lines_single, code_lines_block (one_line_fixed _ opens) (one_line_fixed _ closes)]
  exact whole

theorem reads_map {write : α → Code} {mean : α → List Use} {entries : List α}
    (each : ∀ entry ∈ entries, Reads [write entry] (mean entry)) :
    Reads (entries.map write) (entries.flatMap mean) := by
  induction entries with
  | nil => exact reads_nil
  | cons entry rest ih =>
    rw [List.forall_mem_cons] at each
    exact each.1.cons (ih each.2)

/-! ## Lines that mention locals -/

/-- The expressions of the holes, in order. -/
def shownBy (parts : List Part) : List String :=
  parts.filterMap fun
    | .text _ => none
    | .hole _ expression => some expression

theorem expressions_eq (parts : List Part) :
    Part.expressions parts = (shownBy parts).eraseDups :=
  rfl

theorem expressions_of_chars (text : List Char) :
    (text.map Mark.char).filterMap expressionOf? = [] := by
  simp [expressionOf?]

theorem expressions_of_marks (parts : List Part) :
    (parts.flatMap marksOf).filterMap expressionOf? = shownBy parts := by
  induction parts with
  | nil => rfl
  | cons part rest ih =>
    rw [List.flatMap_cons, List.filterMap_append, ih]
    cases part with
    | text plain =>
      rw [marksOf, expressions_of_chars]
      rfl
    | hole written expression => simp [marksOf, shownBy, expressionOf?]

/-- An item whose value is in a local and whose parts show locals only. -/
structure Showable (entry : Item) : Prop where
  binding : Local entry.binding
  parts : Fits entry.parts
  holes : ∀ expression ∈ shownBy entry.parts, Local expression

theorem read_label (label : String) (rest : List Char) :
    readLabel ((labelLiteral label).toList ++ rest) =
      some (label.toList.map JsonReading.unitOf, rest) := by
  have opening : expect "\"" ((labelLiteral label).toList ++ rest) =
      some (label.toList.flatMap Json.escapeChar ++ '"' :: rest) := by
    apply Text.dropStart?_eq_some_iff.mpr
    simp [labelLiteral, Json.quote]
  rw [readLabel, opening, Option.bind_some, JsonReading.read_escaped]

theorem read_shown (read : readTemplate s = some (marks, rest)) :
    readShown s = some (marks.filterMap expressionOf?, rest) := by
  rw [readShown, read, Option.map_some]

theorem shown_parts (fits : Fits parts) (rest : List Char) :
    readShown ('\x60' :: ((Part.templates parts).toList ++ '\x60' :: rest)) =
      some (shownBy parts, rest) := by
  rw [read_shown (read_template (yields_templates fits (by simp))), expressions_of_marks]

theorem expressions_of_item (template : Template) (entry : Item) :
    (itemMarks template entry).filterMap expressionOf? = shownBy entry.parts := by
  rw [itemMarks, List.filterMap_append, expressions_of_marks, expressions_of_chars,
    List.nil_append]

theorem shown_labelled (fits : Fits entry.parts) (template : Template) (rest : List Char) :
    readShown ('\x60' :: ((labelled template entry).toList ++ '\x60' :: rest)) =
      some (shownBy entry.parts, rest) := by
  rw [read_shown (read_labelled template entry fits rest), expressions_of_item]

section Item
variable {entry : Item} (showable : Showable entry)
include showable

theorem shown_part (template : Template) :
    shown? ("parts.push(`" ++ labelled template entry ++ "`);").toList =
      some (shownBy entry.parts) := by
  have shape : ("parts.push(`" ++ labelled template entry ++ "`);").toList =
      "parts.push(".toList ++ ('\x60' :: ((labelled template entry).toList ++ '\x60' ::
        (");".toList ++ []))) := by
    simp
  rw [shape, shown?, readPart, expect_append]
  simp only [shown_labelled showable.parts, expect_append, Option.bind_eq_bind,
    Option.bind_some, Option.pure_def, Option.some_or, if_true]

theorem shown_field : shown? ("fields.push(\x7b name: " ++ labelLiteral entry.label ++
    ", value: `" ++ Part.templates entry.parts ++ "`, inline: true \x7d);").toList =
      some (shownBy entry.parts) := by
  let s := "fields.push(\x7b name: ".toList ++ ((labelLiteral entry.label).toList ++
    (", value: ".toList ++ ('\x60' :: ((Part.templates entry.parts).toList ++ '\x60' ::
      (", inline: true \x7d);".toList ++ [])))))
  have shape : ("fields.push(\x7b name: " ++ labelLiteral entry.label ++
      ", value: `" ++ Part.templates entry.parts ++ "`, inline: true \x7d);").toList = s := by
    simp [s]
  have read : readField s = some (shownBy entry.parts, []) := by
    simp only [s, readField, expect_append, read_label, shown_parts showable.parts,
      Option.bind_eq_bind, Option.bind_some, Option.pure_def]
  rw [shape, shown?, read]
  rfl

theorem shown_selection : shown? ("selectedData[" ++ labelLiteral entry.label ++ "] = " ++
    entry.binding ++ ";").toList = some [entry.binding] := by
  let s := "selectedData[".toList ++ ((labelLiteral entry.label).toList ++
    ("] = ".toList ++ (entry.binding.toList ++ (";".toList ++ []))))
  have shape : ("selectedData[" ++ labelLiteral entry.label ++ "] = " ++
      entry.binding ++ ";").toList = s := by
    simp [s]
  have apart : Apart (";".toList ++ []) := apart_cons (by decide) _
  have read : readSelection s = some ([entry.binding], []) := by
    simp only [s, readSelection, expect_append, read_label,
      read_local (readable_word showable.binding) apart,
      Option.bind_eq_bind, Option.bind_some, Option.pure_def]
  rw [shape, shown?, read]
  rfl

theorem shown_entry (follows : Bool) :
    shown? (labelLiteral entry.label ++ ": " ++ entry.binding ++ comma follows).toList =
      some [entry.binding] := by
  let s := (labelLiteral entry.label).toList ++ (": ".toList ++ (entry.binding.toList ++
    (comma follows).toList))
  have shape : (labelLiteral entry.label ++ ": " ++ entry.binding ++ comma follows).toList = s := by
    simp [s]
  have apart : Apart (comma follows).toList := by cases follows <;> simp [comma, Apart]; decide
  have behind : (expect "," (comma follows).toList).getD (comma follows).toList = [] := by
    cases follows <;> rfl
  have read : readEntry s = some ([entry.binding], []) := by
    simp only [s, readEntry, expect_append, read_label,
      read_local (readable_word showable.binding) apart, behind,
      Option.bind_eq_bind, Option.bind_some, Option.pure_def]
  -- The other readers see that they are not meant once the quotation mark is in the open.
  obtain ⟨tail, opened⟩ : ∃ tail, s = '"' :: tail := by simp [s, labelLiteral, Json.quote]
  rw [shape, shown?, read, opened]
  rfl

theorem shown_value : shown? ("value: `" ++ Part.templates entry.parts ++ "`,").toList =
    some (shownBy entry.parts) := by
  let s := "value: ".toList ++ ('\x60' :: ((Part.templates entry.parts).toList ++ '\x60' ::
    (",".toList ++ [])))
  have shape : ("value: `" ++ Part.templates entry.parts ++ "`,").toList = s := by simp [s]
  have read : readValue s = some (shownBy entry.parts, []) := by
    simp only [s, readValue, expect_append, shown_parts showable.parts, Option.bind_eq_bind,
      Option.bind_some, Option.pure_def]
  rw [shape, shown?, read]
  rfl

end Item

/-! ## Lines with their guards -/

theorem read_guarded (locals : ∀ name ∈ needed, Local name)
    (begins : ∀ c ∈ statement.toList.head?, c ≠ ' ' ∧ c ≠ 'i')
    (shown : shown? statement.toList = some names) :
    readUses? (guardText needed ++ statement).toList = some [⟨needed, names⟩] := by
  have unguarded : expect "if (" statement.toList = none := by
    cases text : statement.toList with
    | nil => rfl
    | cons c rest =>
      have other : 'i' ≠ c := ((begins c (by simp [text])).2).symm
      simp [expect, Text.dropStart?, other]
  have dark : (guardText needed ++ statement).toList.head? ≠ some ' ' := by
    rcases head_guarded needed statement with guard | bare
    · rw [guard]
      decide
    · exact fun space => (begins ' ' (bare ▸ space)).1 rfl
  have guard := read_guard
    (fun name member => readable_word (locals name member)) unguarded
  rw [← String.toList_append] at guard
  simp only [readUses?, drop_spaces dark, use?, guard, Option.bind_some, shown, Option.map_some]

theorem read_unguarded {statement : String}
    (begins : ∀ c ∈ statement.toList.head?, c ≠ ' ' ∧ c ≠ 'i')
    (shown : shown? statement.toList = some names) :
    readUses? statement.toList = some [⟨[], names⟩] := by
  have read := read_guarded (List.forall_mem_nil Local) begins shown
  rwa [guardText, if_pos rfl, String.empty_append] at read

section Item
variable {entry : Item} (showable : Showable entry)
include showable

theorem local_of_expression : ∀ name ∈ Part.expressions entry.parts, Local name :=
  fun name member => showable.holes name (List.mem_eraseDups.mp member)

theorem one_line_shown : OneLine (Part.templates entry.parts) :=
  one_line_templates fun _ expression member => one_line_of_local
    (showable.holes expression (List.mem_filterMap.mpr ⟨_, member, rfl⟩))

/-- A guarded statement tests what its item shows, each name once. -/
theorem reads_guarded (single : OneLine statement)
    (begins : ∀ c ∈ statement.toList.head?, c ≠ ' ' ∧ c ≠ 'i')
    (shown : shown? statement.toList = some (shownBy entry.parts)) :
    Reads [guardedStatement entry statement]
      [⟨Part.expressions entry.parts, shownBy entry.parts⟩] := by
  have locals := local_of_expression showable
  have guard := one_line_guard fun name member => one_line_of_local (locals name member)
  rw [guarded_statement_eq]
  exact reads_line (one_line_append.mpr ⟨guard, single⟩) (read_guarded locals begins shown)

end Item

/-! ## Texts of several items -/

theorem yields_separator (template : Template) (rest : List Char) :
    Yields readMark ((separator template).toList ++ rest) ((between template).toList.map .char)
      rest := by
  have comma := yields_fixed ", " rfl (by decide) rest
  cases template with
  | multiLine => exact .one rfl (Nat.lt_succ_of_lt (Nat.lt_succ_self rest.length))
  | simpleText | embed | jsonFormatted => exact comma

/-- A text made of those of items, with a separator between any two. -/
theorem yields_joined (template : Template) {entries : List Item}
    (fits : ∀ entry ∈ entries, Fits entry.parts) (rest : List Char) :
    ∃ marks, Yields readMark (((separator template).intercalate
        (entries.map (labelled template))).toList ++ '\x60' :: rest) marks ('\x60' :: rest) ∧
      marks.filterMap expressionOf? = entries.flatMap fun entry => shownBy entry.parts := by
  induction entries with
  | nil => exact ⟨[], .nil, rfl⟩
  | cons entry more ih =>
    rw [List.forall_mem_cons] at fits
    obtain ⟨marks, later, shown⟩ := ih fits.2
    cases more with
    | nil =>
      refine ⟨itemMarks template entry, ?_, by simp [expressions_of_item]⟩
      exact yields_labelled template entry fits.1 (by simp)
    | cons second others =>
      let gap : List Mark := (between template).toList.map .char
      refine ⟨itemMarks template entry ++ (gap ++ marks), ?_, ?_⟩
      · -- No separator turns a dollar sign before it into a substitution.
        have apart (s : List Char) : ((separator template).toList ++ s).head? ≠ some '{' := by
          cases template <;> simp [separator]
        have whole := (yields_labelled template entry fits.1 (apart _)).append
          ((yields_separator template _).append later)
        rw [List.map_cons, List.map_cons, String.intercalate_cons_cons, ← List.map_cons]
        simpa only [String.toList_append, List.append_assoc] using whole
      · have bare : gap.filterMap expressionOf? = [] := expressions_of_chars _
        rw [List.filterMap_append, List.filterMap_append, expressions_of_item, bare, shown]
        rfl

/-! ## Replies -/

theorem reads_embed_head : Reads embedHead [] :=
  (reads_fixed (by decide)).cons (reads_fixed (by decide))

theorem reads_embed_tail : Reads embedTail [] := reads_fixed (by decide)

theorem reads_embed (fields : Reads body uses) :
    Reads [.blank, returnBlock [.block "embeds: [\x7b" "\x7d]" (embedHead ++ body ++ embedTail)]]
      uses := by
  have whole := (reads_embed_head.append fields).append reads_embed_tail
  rw [List.nil_append, List.append_nil] at whole
  exact reads_blank.cons (reads_block (by decide) (by decide)
    (reads_block (by decide) (by decide) whole))

theorem reads_json_return : Reads jsonReturn [] :=
  reads_blank.cons (reads_block (by decide) (by decide) (reads_fixed (by decide)))

theorem first_of_following (items : List Item) : (withFollowing items).map (·.1) = items := by
  induction items with
  | nil => rfl
  | cons item rest ih =>
    cases rest with
    | nil => rfl
    | cons second more => rw [withFollowing, List.map_cons, ih]; simp

theorem read_bare (dark : s.head? ≠ some ' ') (unused : use? s = none) (bare : Bare s) :
    readUses? s = some [] := by
  simp only [readUses?, drop_spaces dark, unused, bare, if_true]

theorem reads_name (label : String) : Reads [.line ("name: " ++ labelLiteral label ++ ",")] [] := by
  let s := "name: ".toList ++ ((labelLiteral label).toList ++ (",".toList ++ []))
  have shape : ("name: " ++ labelLiteral label ++ ",").toList = s := by simp [s]
  have read : readNameLine s = some ((), []) := by
    simp only [s, readNameLine, expect_append, read_label, Option.bind_eq_bind, Option.bind_some,
      Option.pure_def]
  refine reads_line ?_ (shape ▸ read_bare (by simp [s]) rfl (.inr (.inl read)))
  simp only [one_line_append, one_line_label]
  decide

theorem reads_joined (between fallback : String) : Reads [.line
    ("content: parts.length > 0 ? parts.join(" ++ stringLiteral between ++ ") : " ++
      stringLiteral fallback)] [] := by
  let s := "content: parts.length > 0 ? parts.join(".toList ++ (quoted between.toList ++
    (") : ".toList ++ (quoted fallback.toList ++ [])))
  have shape : ("content: parts.length > 0 ? parts.join(" ++ stringLiteral between ++ ") : " ++
      stringLiteral fallback).toList = s := by
    simp [s, stringLiteral]
  have read : readJoined s = some ((), []) := by
    simp only [s, readJoined, expect_append, read_quoted, Option.bind_eq_bind, Option.bind_some,
      Option.pure_def]
  refine reads_line ?_ (shape ▸ read_bare (by simp [s]) rfl (.inr (.inr read)))
  simp only [one_line_append, one_line_string_literal]
  decide

/-- What is written for each item with or without a comma. -/
theorem reads_following {entries : List Item} {write : Item × Bool → Code} {mean : Item → Use}
    (each : ∀ entry ∈ entries, ∀ follows, Reads [write (entry, follows)] [mean entry]) :
    Reads ((withFollowing entries).map write) (entries.map mean) := by
  have reads : Reads ((withFollowing entries).map write)
      ((withFollowing entries).flatMap fun entry => [mean entry.1]) := by
    refine reads_map fun entry member => each entry.1 ?_ entry.2
    rw [← first_of_following entries]
    exact List.mem_map_of_mem member
  have uses : (withFollowing entries).flatMap (fun entry => [mean entry.1]) =
      entries.map mean := by
    rw [← List.map_eq_flatMap]
    conv_rhs => rw [← first_of_following entries, List.map_map]
    rfl
  rwa [uses] at reads

/-- Statements for all items behind the line that declares what they add to. -/
theorem reads_statements {entries : List Item} {write : Item → Code} {mean : Item → Use}
    (fixed : opening ∈ fixedLines) (each : ∀ entry ∈ entries, Reads [write entry] [mean entry])
    (closing : Reads rest []) :
    Reads ([.blank, .line opening] ++ entries.map write ++ rest) (entries.map mean) := by
  have whole := ((reads_blank.cons (reads_fixed fixed)).append (reads_map each)).append closing
  rwa [List.append_nil, List.append_nil, List.nil_append, ← List.map_eq_flatMap] at whole

section Replies
variable {entries : List Item} (showable : ∀ entry ∈ entries, Showable entry)
include showable

theorem shown_content (template : Template) :
    shown? ("content: `" ++ (separator template).intercalate (entries.map (labelled template)) ++
      "`").toList = some (entries.flatMap fun entry => shownBy entry.parts) := by
  obtain ⟨marks, yields, names⟩ := yields_joined template
    (fun entry held => (showable entry held).parts) []
  let s := "content: ".toList ++ ('\x60' :: (((separator template).intercalate
    (entries.map (labelled template))).toList ++ '\x60' :: []))
  have shape : ("content: `" ++ (separator template).intercalate
      (entries.map (labelled template)) ++ "`").toList = s := by
    simp [s]
  have read : readContent s = some (entries.flatMap fun entry => shownBy entry.parts, []) := by
    rw [readContent, expect_append, Option.bind_some, read_shown (read_template yields), names]
  rw [shape, shown?, read]
  rfl

theorem reads_plain_text (template : Template) :
    Reads (plainText template entries)
      [⟨[], entries.flatMap fun entry => shownBy entry.parts⟩] := by
  have joined : OneLine ((separator template).intercalate (entries.map (labelled template))) := by
    refine one_line_intercalate (by cases template <;> decide) fun text member => ?_
    obtain ⟨entry, held, rfl⟩ := List.mem_map.mp member
    exact one_line_labelled (one_line_shown (showable entry held)) template
  have single : OneLine ("content: `" ++ (separator template).intercalate
      (entries.map (labelled template)) ++ "`") := by
    simp only [one_line_append, joined]
    decide
  have content := reads_line single
    (read_unguarded (by simp) (shown_content showable template))
  exact reads_blank.cons (reads_block (by decide) (by decide) content)

theorem reads_plain_embed :
    Reads (plainEmbed entries) (entries.map fun entry => ⟨[], shownBy entry.parts⟩) := by
  let field (entry : Item × Bool) : Code := .block "\x7b" ("\x7d" ++ comma entry.2)
    (Code.lines ["name: " ++ labelLiteral entry.1.label ++ ",",
      "value: `" ++ Part.templates entry.1.parts ++ "`,", "inline: true"])
  have each : ∀ entry ∈ entries, ∀ follows,
      Reads [field (entry, follows)] [⟨[], shownBy entry.parts⟩] := by
    intro entry held follows
    have single : OneLine ("value: `" ++ Part.templates entry.parts ++ "`,") := by
      simp only [one_line_append, one_line_shown (showable entry held)]
      decide
    have value := reads_line single
      (read_unguarded (by simp) (shown_value (showable entry held)))
    have inline : Reads [.line "inline: true"] [] := reads_fixed (by decide)
    have closing : "\x7d" ++ comma follows ∈ fixedLines := by cases follows <;> decide
    exact reads_block (by decide) closing ((reads_name entry.label).cons (value.cons inline))
  exact reads_embed (reads_block (by decide) (by decide) (reads_following each))

theorem reads_plain_json :
    Reads (plainJson entries) (entries.map fun entry => ⟨[], [entry.binding]⟩) := by
  let entryLine (entry : Item × Bool) : Code :=
    .line (labelLiteral entry.1.label ++ ": " ++ entry.1.binding ++ comma entry.2)
  have each : ∀ entry ∈ entries, ∀ follows,
      Reads [entryLine (entry, follows)] [⟨[], [entry.binding]⟩] := by
    intro entry held follows
    have separate : OneLine (comma follows) := by cases follows <;> decide
    refine reads_line ?_ (read_unguarded (by simp [labelLiteral, Json.quote])
      (shown_entry (showable entry held) follows))
    simp only [one_line_append, one_line_label, separate,
      one_line_of_local (showable entry held).binding]
    decide
  have selected : Reads [.block "const selectedData = \x7b" "\x7d;" _] _ :=
    reads_block (by decide) (by decide) (reads_following each)
  have whole := (reads_blank.cons selected).append reads_json_return
  rwa [List.append_nil] at whole

theorem reads_guarded_text (template : Template) (noData : String) :
    Reads (guardedText template noData entries)
      (entries.map fun entry => ⟨Part.expressions entry.parts, shownBy entry.parts⟩) := by
  have each : ∀ entry ∈ entries,
      Reads [guardedStatement entry ("parts.push(`" ++ labelled template entry ++ "`);")]
        [⟨Part.expressions entry.parts, shownBy entry.parts⟩] := by
    intro entry held
    refine reads_guarded (showable entry held) ?_ (by simp) (shown_part (showable entry held) _)
    simp only [one_line_append, one_line_labelled (one_line_shown (showable entry held))]
    decide
  have joined := reads_joined (between template) noData
  rw [← separator_eq] at joined
  have closing : Reads [.blank, returnBlock [.line ("content: parts.length > 0 ? parts.join('" ++
      separator template ++ "') : " ++ stringLiteral noData)]] [] := by
    have merged : "content: parts.length > 0 ? parts.join(" ++ ("'" ++ separator template ++ "'") ++
        ") : " ++ stringLiteral noData = "content: parts.length > 0 ? parts.join('" ++
          separator template ++ "') : " ++ stringLiteral noData :=
      String.toList_inj.mp (by simp)
    rw [merged] at joined
    exact reads_blank.cons (reads_block (by decide) (by decide) joined)
  exact reads_statements (by decide) each closing

theorem reads_guarded_embed :
    Reads (guardedEmbed entries)
      (entries.map fun entry => ⟨Part.expressions entry.parts, shownBy entry.parts⟩) := by
  have each : ∀ entry ∈ entries, Reads [guardedStatement entry
      ("fields.push(\x7b name: " ++ labelLiteral entry.label ++ ", value: `" ++
        Part.templates entry.parts ++ "`, inline: true \x7d);")]
      [⟨Part.expressions entry.parts, shownBy entry.parts⟩] := by
    intro entry held
    refine reads_guarded (showable entry held) ?_ (by simp) (shown_field (showable entry held))
    simp only [one_line_append, one_line_label, one_line_shown (showable entry held)]
    decide
  have list : Reads [.line "fields,"] [] := reads_fixed (by decide)
  exact reads_statements (by decide) each (reads_embed list)

theorem reads_guarded_json :
    Reads (guardedJson entries)
      (entries.map fun entry => ⟨[entry.binding], [entry.binding]⟩) := by
  have each : ∀ entry ∈ entries, Reads [.line ("if (" ++ entry.binding ++
      " != null) selectedData[" ++ labelLiteral entry.label ++ "] = " ++ entry.binding ++ ";")]
      [⟨[entry.binding], [entry.binding]⟩] := by
    intro entry held
    have binding := (showable entry held).binding
    have guard : guardText [entry.binding] ++ ("selectedData[" ++ labelLiteral entry.label ++
        "] = " ++ entry.binding ++ ";") = "if (" ++ entry.binding ++ " != null) selectedData[" ++
          labelLiteral entry.label ++ "] = " ++ entry.binding ++ ";" :=
      String.toList_inj.mp (by simp [guardText])
    have read := read_guarded (List.forall_mem_singleton.mpr binding) (by simp)
      (shown_selection (showable entry held))
    rw [guard] at read
    refine reads_line ?_ read
    simp only [one_line_append, one_line_label, one_line_of_local binding]
    decide
  exact reads_statements (by decide) each reads_json_return

/-- What the lines of a reply do with locals. -/
def usesOf (style : SnippetStyle) (template : Template) (entries : List Item) : List Use :=
  match style, template with
  | .plain, .jsonFormatted => entries.map fun entry => ⟨[], [entry.binding]⟩
  | .plain, .embed => entries.map fun entry => ⟨[], shownBy entry.parts⟩
  | .plain, _ => [⟨[], entries.flatMap fun entry => shownBy entry.parts⟩]
  | .guarded, .jsonFormatted => entries.map fun entry => ⟨[entry.binding], [entry.binding]⟩
  | .guarded, _ => entries.map fun entry => ⟨Part.expressions entry.parts, shownBy entry.parts⟩

theorem reads_reply (style : SnippetStyle) (template : Template) (locale : Locale) :
    Reads (reply style template locale entries) (usesOf style template entries) := by
  cases style with
  | plain =>
    cases template with
    | simpleText | multiLine => exact reads_plain_text showable _
    | embed => exact reads_plain_embed showable
    | jsonFormatted => exact reads_plain_json showable
  | guarded =>
    cases template with
    | simpleText | multiLine => exact reads_guarded_text showable _ _
    | embed => exact reads_guarded_embed showable
    | jsonFormatted => exact reads_guarded_json showable

end Replies

/-! ## Guards -/

theorem nodup_erase_dups [DecidableEq α] (list : List α) : list.eraseDups.Nodup := by
  induction count : list.length using Nat.strongRecOn generalizing list with
  | ind n ih =>
    cases list with
    | nil => exact List.nodup_nil
    | cons first rest =>
      rw [List.eraseDups_cons]
      have shorter : (rest.filter (!· == first)).length ≤ rest.length := List.length_filter_le _ _
      refine List.nodup_cons.mpr ⟨by simp [List.mem_eraseDups], ih _ ?_ _ rfl⟩
      rw [← count, List.length_cons]
      omega

/-- A bot's guards test what their lines show, each name once; a preview has no guards. -/
theorem tested_iff_shown (member : use ∈ usesOf style template entries) :
    use.tested.Nodup ∧ ∀ name, name ∈ use.tested ↔ style = .guarded ∧ name ∈ use.shown := by
  cases style with
  | plain =>
    have unguarded : use.tested = [] := by
      cases template <;> simp only [usesOf, List.mem_map, List.mem_singleton] at member
      case simpleText | multiLine => rw [member]
      all_goals
        obtain ⟨entry, _, rfl⟩ := member
        rfl
    simp [unguarded]
  | guarded =>
    cases template <;> obtain ⟨entry, _, rfl⟩ := List.mem_map.mp member
    case jsonFormatted => simp
    all_goals simp [expressions_eq, nodup_erase_dups, List.mem_eraseDups]

/-! ## What mappings refer to -/

/-- The mapped paths in the order of first use. -/
def mappedPaths (mappings : List Mapping) : List String := (mappings.map (·.path)).eraseDups

/-- The path that a piece of a mapping's format refers to. -/
def piecePath? (mappings : List Mapping) (own : String) : Piece → Option String
  | .char _ => none
  | .group inner => pathOf? mappings own inner

/-- The paths whose values a mapping's format shows, one for each place: in a preview the
first `{value}`, in a bot every group that refers to a mapped path. -/
def formatPaths (style : SnippetStyle) (mappings : List Mapping) (mapping : Mapping) :
    List String :=
  match style with
  | .plain =>
    if Text.contains "\x7bvalue\x7d".toList (formatOf mapping).toList then [mapping.path] else []
  | .guarded => (pieces none (formatOf mapping).toList).filterMap (piecePath? mappings mapping.path)

/-- The paths whose values a reply shows, line by line. -/
def shownPaths (style : SnippetStyle) (template : Template) (mappings : List Mapping) :
    List (List String) :=
  match style, template with
  | _, .jsonFormatted => mappings.map fun mapping => [mapping.path]
  | .plain, .embed => mappings.map (formatPaths .plain mappings)
  | .plain, _ => [mappings.flatMap (formatPaths .plain mappings)]
  | .guarded, _ => mappings.map (formatPaths .guarded mappings)

/-- The local of a mapped path. -/
def localOf (mappings : List Mapping) (path : String) : String :=
  (bindingOf? (declarations mappings) path).getD ""

theorem local_of_declared (member : declaration ∈ declarations mappings) :
    localOf mappings declaration.path = declaration.binding := by
  have distinct : ((declarations mappings).map (·.path)).Nodup := by
    rw [paths_declarations]
    exact nodup_erase_dups _
  have declared := binding_of_is_some.mpr (List.mem_map_of_mem member)
  obtain ⟨binding, found⟩ := Option.isSome_iff_exists.mp declared
  obtain ⟨other, held, path, rfl⟩ := binding_of_eq_some found
  rw [localOf, found, Option.getD_some, List.inj_on_of_nodup_map distinct held member path]

theorem local_of_mapped (mapped : path ∈ mappings.map (·.path)) :
    bindingOf? (declarations mappings) path = some (localOf mappings path) := by
  obtain ⟨binding, found⟩ := GuardedReply.binding_of_listed mapped
  rw [localOf, found, Option.getD_some]

/-- What fills a group is the local of the path that it refers to. -/
theorem fill_format_eq (mappings : List Mapping) (own : String) (inner : List Char) :
    fillFormat (declarations mappings) (localOf mappings own) inner =
      (pathOf? mappings own inner).map (localOf mappings) := by
  unfold fillFormat pathOf?
  split_ifs with itself mapped
  · rfl
  · exact local_of_mapped mapped
  · rw [Option.map_none, ← Option.not_isSome_iff_eq_none, binding_of_declarations]
    exact mapped

/-- The locals that a bot's format shows are those of the paths that it refers to. -/
theorem expressions_of_pieces (mappings : List Mapping) (own : String) (list : List Piece) :
    (list.flatMap (pieceMarks (fillFormat (declarations mappings)
        (localOf mappings own)))).filterMap expressionOf? =
      (list.filterMap (piecePath? mappings own)).map (localOf mappings) := by
  induction list with
  | nil => rfl
  | cons piece rest ih =>
    rw [List.flatMap_cons, List.filterMap_append, ih]
    cases piece with
    | char c => rfl
    | group inner =>
      rw [pieceMarks, fill_format_eq]
      cases referred : pathOf? mappings own inner with
      | none =>
        have unfilled : piecePath? mappings own (.group inner) = none := referred
        rw [Option.map_none, expressions_of_chars, List.filterMap_cons_none unfilled]
        rfl
      | some path =>
        have filled : piecePath? mappings own (.group inner) = some path := referred
        rw [Option.map_some, List.filterMap_cons_some filled]
        simp [expressionOf?]

theorem shown_plain (format own : String) :
    shownBy (plainParts format own) =
      if Text.contains Mapping.plainFormat.toList format.toList then [own] else [] := by
  unfold plainParts Text.contains
  split
  · next cut => rw [cut]; rfl
  · next missing => rw [missing]; rfl

/-- An item shows the locals of the paths that its mapping's format refers to. -/
theorem shown_item (style : SnippetStyle) (mappings : List Mapping) (mapping : Mapping) :
    shownBy (item style (declarations mappings) mapping).parts =
      (formatPaths style mappings mapping).map (localOf mappings) := by
  cases style with
  | plain =>
    refine (shown_plain mapping.effectiveFormat (localOf mappings mapping.path)).trans ?_
    rw [formatPaths, apply_ite (List.map _)]
    rfl
  | guarded =>
    rw [← expressions_of_marks]
    refine (congrArg _ (GuardedReply.marks_split _ _)).trans ?_
    exact expressions_of_pieces mappings mapping.path _

theorem fits_plain (quiet : SourceScan.Quiet own) (format : String) :
    Fits (plainParts format own) := by
  have ends : NoLeadingText [] := nofun
  unfold plainParts
  split
  · exact .text _ (.hole _ quiet (.text _ .nil ends)) nofun
  · exact .text _ .nil ends

theorem showable_item (listed : mapping ∈ mappings) (style : SnippetStyle) :
    Showable (item style (declarations mappings) mapping) where
  binding := local_of_item listed style
  parts := by
    have writable : SnippetScan.Writable (item .guarded (declarations mappings) mapping) :=
      SnippetScan.writable_item mapping
    cases style with
    | plain => exact fits_plain writable.binding _
    | guarded => exact writable.parts
  holes := by
    intro expression shown
    obtain ⟨part, held, hole⟩ := List.mem_filterMap.mp shown
    cases part with
    | text plain => cases hole
    | hole written other =>
      cases hole
      exact local_of_hole listed held

/-- The locals that the lines of a reply show are those of the paths that are shown. -/
theorem uses_shown (style : SnippetStyle) (template : Template) (mappings : List Mapping) :
    (usesOf style template (mappings.map (item style (declarations mappings)))).map (·.shown) =
      (shownPaths style template mappings).map (·.map (localOf mappings)) := by
  have names (style : SnippetStyle) : (fun mapping =>
      shownBy (item style (declarations mappings) mapping).parts) =
        fun mapping => (formatPaths style mappings mapping).map (localOf mappings) :=
    funext (shown_item style mappings)
  have own (style : SnippetStyle) (mapping : Mapping) :
      (item style (declarations mappings) mapping).binding = localOf mappings mapping.path := rfl
  cases style <;> cases template <;>
    simp [usesOf, shownPaths, Function.comp_def, names, own, List.flatMap_map, List.map_flatMap]

theorem mapped_of_listed (listed : mapping ∈ mappings) : mapping.path ∈ mappedPaths mappings :=
  List.mem_eraseDups.mpr (List.mem_map_of_mem listed)

theorem mapped_of_format (listed : mapping ∈ mappings)
    (shown : path ∈ formatPaths style mappings mapping) : path ∈ mappedPaths mappings := by
  cases style with
  | plain =>
    rw [formatPaths] at shown
    split at shown
    · exact List.mem_singleton.mp shown ▸ mapped_of_listed listed
    · cases shown
  | guarded =>
    obtain ⟨piece, _, referred⟩ := List.mem_filterMap.mp shown
    cases piece with
    | char c => cases referred
    | group inner =>
      rw [piecePath?, pathOf?] at referred
      split_ifs at referred with itself mapped
      · cases referred
        exact mapped_of_listed listed
      · cases referred
        exact List.mem_eraseDups.mpr mapped

/-- A reply shows mapped paths only. -/
theorem mapped_of_shown (member : paths ∈ shownPaths style template mappings)
    (shown : path ∈ paths) : path ∈ mappedPaths mappings := by
  have format (style : SnippetStyle)
      (member : paths ∈ mappings.map (formatPaths style mappings)) :
      path ∈ mappedPaths mappings := by
    obtain ⟨mapping, listed, rfl⟩ := List.mem_map.mp member
    exact mapped_of_format listed shown
  have own (member : paths ∈ mappings.map fun mapping => [mapping.path]) :
      path ∈ mappedPaths mappings := by
    obtain ⟨mapping, listed, rfl⟩ := List.mem_map.mp member
    exact List.mem_singleton.mp shown ▸ mapped_of_listed listed
  have together (member : paths ∈ [mappings.flatMap (formatPaths .plain mappings)]) :
      path ∈ mappedPaths mappings := by
    rw [List.mem_singleton.mp member] at shown
    obtain ⟨mapping, listed, shown⟩ := List.mem_flatMap.mp shown
    exact mapped_of_format listed shown
  cases style with
  | plain =>
    cases template with
    | simpleText | multiLine => exact together member
    | embed => exact format .plain member
    | jsonFormatted => exact own member
  | guarded =>
    cases template with
    | simpleText | multiLine | embed => exact format .guarded member
    | jsonFormatted => exact own member

/-! ## Whole snippets -/

/-- The line that reads a path of the response into its local. -/
def readingLine (style : SnippetStyle) (nameOf : String → String) (path : String) : String :=
  "const " ++ nameOf path ++ " = " ++ access "data" path (style = .guarded) ++ ";"

/-- The lines of a source text that reads a response and then each mapped path once, in the
order of first use and into a local of its own. The lines of the reply behind that mention no
other locals; guards test what their lines show. -/
structure WellScoped (style : SnippetStyle) (template : Template) (mappings : List Mapping)
    (nameOf : String → String) (source reply : List (List Char)) (uses : List Use) : Prop where
  declared : source = dataLine.toList ::
    (mappedPaths mappings).map (fun path => (readingLine style nameOf path).toList) ++ reply
  locals : ∀ path ∈ mappedPaths mappings, Local (nameOf path)
  distinct : ((mappedPaths mappings).map nameOf).Nodup
  /-- No other line reads a field of the response. -/
  complete : ∀ line ∈ reply, field? line = none
  read : readReply reply = some uses
  shown : uses.map (·.shown) = (shownPaths style template mappings).map (·.map nameOf)
  mapped : ∀ paths ∈ shownPaths style template mappings, ∀ path ∈ paths, path ∈ mappedPaths mappings
  tested : ∀ use ∈ uses, use.tested.Nodup ∧
    ∀ name, name ∈ use.tested ↔ style = .guarded ∧ name ∈ use.shown

theorem lines_declared (style : SnippetStyle) (mappings : List Mapping) :
    allLines 0 ((declarations mappings).map (declarationLine style)) =
      (mappedPaths mappings).map fun path =>
        (readingLine style (localOf mappings) path).toList := by
  have each : ∀ declaration ∈ declarations mappings,
      gathered some [declarationLine style declaration] =
        [(readingLine style (localOf mappings) declaration.path).toList] := by
    intro declaration member
    rw [gathered_declaration member, readingLine, local_of_declared member]
    rfl
  have whole := gathered_map each
  rw [gathered, List.filterMap_some, ← List.map_eq_flatMap] at whole
  rw [whole, mappedPaths, ← paths_declarations, List.map_map]
  rfl

theorem locals_distinct (mappings : List Mapping) :
    ((mappedPaths mappings).map (localOf mappings)).Nodup := by
  have names : (mappedPaths mappings).map (localOf mappings) =
      (declarations mappings).map (·.binding) := by
    rw [mappedPaths, ← paths_declarations, List.map_map]
    exact List.map_congr_left fun _ member => local_of_declared member
  obtain ⟨_, allocated⟩ := allocated_declarations mappings
  exact names ▸ allocated.distinct

/-- Snippets are well scoped, whatever the paths, labels and formats of their mappings say. -/
theorem snippet_well_scoped (style : SnippetStyle) (template : Template) (locale : Locale)
    (mappings : List Mapping) (nonempty : mappings ≠ []) :
    ∃ reply uses, WellScoped style template mappings (localOf mappings)
      (lines (snippet style template locale mappings).toList) reply uses := by
  let entries := mappings.map (item style (declarations mappings))
  have showable : ∀ entry ∈ entries, Showable entry :=
    List.forall_mem_map.mpr fun _ listed => showable_item listed style
  refine ⟨allLines 0 (reply style template locale entries), usesOf style template entries, ?_⟩
  have data : allLines 0 [.line dataLine] = [dataLine.toList] := by decide
  constructor
  case declared =>
    rw [lines_snippet nonempty, code, all_lines_append, all_lines_append, data, lines_declared]
    rfl
  case locals =>
    intro path mapped
    exact local_of_binding (local_of_mapped (List.mem_eraseDups.mp mapped))
  case distinct => exact locals_distinct mappings
  case complete =>
    exact List.filterMap_eq_nil_iff.mp (fields_reply style template locale mappings)
  case read => exact reads_reply showable style template locale 0
  case shown => exact uses_shown style template mappings
  case mapped => exact fun _ member _ shown => mapped_of_shown member shown
  case tested => exact fun _ member => tested_iff_shown member

/-- Paths whose names collide with each other, with a numbered name and with a reserved one;
one path is mapped twice, and formats refer to other paths. -/
def collidingSample : List Mapping :=
  [⟨"main.temp", "Now", "\x7bvalue\x7d of \x7bmainTemp\x7d, \x7bvalue\x7d"⟩,
   ⟨"mainTemp", "Max", ""⟩,
   ⟨"data", "All", "\x7bdata2\x7d \x7b\x7d"⟩,
   ⟨"data2", "More", "none"⟩,
   ⟨"main.temp", "Again", "\x7bdata\x7d\x7bmain.temp\x7d"⟩]

theorem colliding_sample_well_scoped :
    collidingSample ≠ [] ∧
      (∃ reply uses, WellScoped .guarded .embed collidingSample (localOf collidingSample)
        (lines (snippet .guarded .embed .english collidingSample).toList) reply uses) ∧
      (mappedPaths collidingSample).map (localOf collidingSample) =
        ["mainTemp", "mainTemp2", "data2", "data22"] ∧
      shownPaths .guarded .embed collidingSample =
        [["main.temp", "mainTemp", "main.temp"], ["mainTemp"], ["data2"], [],
          ["data", "main.temp"]] :=
  have nonempty : collidingSample ≠ [] := by decide
  ⟨nonempty, snippet_well_scoped .guarded .embed .english collidingSample nonempty,
    by decide +kernel, by decide +kernel⟩

end Botwright.SnippetScoping
