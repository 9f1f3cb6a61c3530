import Botwright.Proofs.SnippetReading
import Botwright.Reply.StaticText

/-! The lines of generated source. Whatever a user writes is escaped into one line, so
a tree of code has one line for each text in it, and a snippet that is embedded in
a handler has the lines that it has by itself. -/
namespace Botwright.CodeLines
open Script SourceLayout BindingAllocation SnippetLocals

/-! ## Lines of a text -/

def lines (text : List Char) : List (List Char) := Text.pieces (· = '\n') text

/-- A text that does not break its line. -/
def OneLine (text : String) : Prop := '\n' ∉ text.toList

instance (text : String) : Decidable (OneLine text) := inferInstanceAs (Decidable (_ ∉ _))

@[simp] theorem one_line_append : OneLine (front ++ back) ↔ OneLine front ∧ OneLine back := by
  simp [OneLine]

/-- A text that is written out; its characters are looked at, and no bytes are read. -/
theorem one_line_chars {chars : List Char} (single : '\n' ∉ chars) :
    OneLine (String.ofList chars) := by
  rwa [OneLine, String.toList_ofList]

/-- A text between two that are written out. -/
theorem one_line_between {front back : List Char} (fixed : '\n' ∉ front ++ back)
    (single : OneLine text) : OneLine (String.ofList front ++ text ++ String.ofList back) := by
  rw [List.mem_append, not_or] at fixed
  exact one_line_append.mpr
    ⟨one_line_append.mpr ⟨one_line_chars fixed.1, single⟩, one_line_chars fixed.2⟩

/-- Two texts among three that are written out. -/
theorem one_line_among {front middle back : List Char} (fixed : '\n' ∉ front ++ middle ++ back)
    (first : OneLine text) (second : OneLine other) :
    OneLine (String.ofList front ++ text ++ String.ofList middle ++ other ++
      String.ofList back) := by
  rw [List.mem_append, not_or] at fixed
  exact one_line_append.mpr
    ⟨one_line_append.mpr ⟨one_line_between fixed.1 first, second⟩, one_line_chars fixed.2⟩

theorem lines_single (single : '\n' ∉ text) : lines text = [text] :=
  Text.pieces_whole fun c held => by simpa using fun same : c = '\n' => single (same ▸ held)

/-- The first of some lines that follow each other. -/
theorem lines_cons (single : '\n' ∉ text) (rest : List Char) :
    lines (text ++ '\n' :: rest) = text :: lines rest := by
  have first := lines_single single
  rw [lines] at first ⊢
  rw [Text.pieces_append_cons (by simp), first]
  rfl

theorem lines_flat_map {entries : List (List Char)} (single : ∀ entry ∈ entries, '\n' ∉ entry)
    (rest : List Char) :
    lines (entries.flatMap (· ++ ['\n']) ++ rest) = entries ++ lines rest := by
  induction entries with
  | nil => rfl
  | cons entry more ih =>
    rw [List.forall_mem_cons] at single
    simp [lines_cons single.1, ih single.2]

/-- Lines that are joined are lines again. -/
theorem lines_intercalate {texts : List String} (single : ∀ text ∈ texts, OneLine text)
    (nonempty : texts ≠ []) :
    lines ("\n".intercalate texts).toList = texts.map String.toList := by
  induction texts with
  | nil => exact absurd rfl nonempty
  | cons first rest ih =>
    rw [List.forall_mem_cons] at single
    cases rest with
    | nil =>
      rw [String.intercalate_singleton, lines_single single.1]
      rfl
    | cons second more =>
      have text : ("\n".intercalate (first :: second :: more)).toList =
          first.toList ++ '\n' :: ("\n".intercalate (second :: more)).toList := by
        rw [String.intercalate_cons_cons, String.toList_append, String.toList_append,
          List.append_assoc]
        rfl
      rw [text, lines_cons single.1, ih single.2 (List.cons_ne_nil _ _)]
      rfl

theorem single_of_lines (member : line ∈ lines text) : '\n' ∉ line := fun held => by
  have apart := Text.not_isSeparator_of_mem_pieces member held
  simp at apart

/-! ## Lines of a tree -/

/-- A line at a depth, without its line end. -/
def indent (depth : Nat) (line : List Char) : List Char :=
  if line = [] then [] else List.replicate (2 * depth) ' ' ++ line

theorem indent_top (line : List Char) : indent 0 line = line := by
  unfold indent
  split
  · next empty => exact empty.symm
  · rfl

theorem drop_spaces {line : List Char} (dark : line.head? ≠ some ' ') :
    line.dropWhile (· = ' ') = line := by
  cases line with
  | nil => rfl
  | cons c rest => exact List.dropWhile_cons_of_neg (by simpa using dark)

/-- Without its spaces, a line is the same at every depth. -/
theorem drop_indent (depth : Nat) (line : List Char) :
    (indent depth line).dropWhile (· = ' ') = line.dropWhile (· = ' ') := by
  unfold indent
  split
  · next empty => rw [empty]
  · exact List.dropWhile_append_of_pos (by simp)

theorem mem_indented (member : line ∈ (lines text).map (indent depth)) :
    ∃ plain, '\n' ∉ plain ∧ line = indent depth plain := by
  obtain ⟨plain, held, rfl⟩ := List.mem_map.mp member
  exact ⟨plain, single_of_lines held, rfl⟩

mutual

/-- The generated lines of a piece at a depth. What a user wrote as code is not generated. -/
def codeLines (depth : Nat) : Code → List (List Char)
  | .line text => (lines text.toList).map (indent depth)
  | .raw _ => []
  | .blank => [[]]
  | .block opening closing body =>
    (lines opening.toList).map (indent depth) ++ allLines (depth + 1) body ++
      (lines closing.toList).map (indent depth)
  | .indented body => allLines (depth + 1) body

/-- The generated lines of consecutive pieces at a depth. -/
def allLines (depth : Nat) : List Code → List (List Char)
  | [] => []
  | piece :: rest => codeLines depth piece ++ allLines depth rest

end

mutual

/-- Whether a piece holds no code that a user wrote. -/
def isGenerated : Code → Bool
  | .line _ | .blank => true
  | .raw _ => false
  | .block _ _ body | .indented body => allGenerated body

def allGenerated : List Code → Bool
  | [] => true
  | piece :: rest => isGenerated piece && allGenerated rest

end

theorem all_lines_append (depth : Nat) (front back : List Code) :
    allLines depth (front ++ back) = allLines depth front ++ allLines depth back := by
  induction front with
  | nil => rfl
  | cons piece rest ih => simp [allLines, ih]

theorem all_lines_single (depth : Nat) (piece : Code) :
    allLines depth [piece] = codeLines depth piece := by
  simp [allLines]

theorem all_generated_iff {pieces : List Code} :
    allGenerated pieces = true ↔ ∀ piece ∈ pieces, isGenerated piece = true := by
  induction pieces with
  | nil => simp [allGenerated]
  | cons piece rest ih => simp [allGenerated, ih]

theorem code_lines_line (single : OneLine text) (depth : Nat) :
    codeLines depth (.line text) = [indent depth text.toList] := by
  rw [codeLines, lines_single single, List.map_singleton]

theorem code_lines_block (opens : OneLine opening) (closes : OneLine closing) (depth : Nat)
    (body : List Code) :
    codeLines depth (.block opening closing body) =
      indent depth opening.toList ::
        (allLines (depth + 1) body ++ [indent depth closing.toList]) := by
  rw [codeLines, lines_single opens, lines_single closes]
  rfl

theorem indent_lines_eq (depth : Nat) (text : String) :
    Code.indentLines depth text =
      ((lines text.toList).map (indent depth)).flatMap (· ++ ['\n']) := by
  have line (piece : List Char) : Code.indentLine depth piece = indent depth piece ++ ['\n'] := by
    unfold Code.indentLine indent
    split <;> rfl
  rw [Code.indentLines, List.flatMap_map]
  exact List.flatMap_congr fun piece _ => line piece

mutual

theorem write_eq (generated : isGenerated piece = true) (depth : Nat) (first : Bool) :
    Code.write depth first piece = (codeLines depth piece).flatMap (· ++ ['\n']) := by
  cases piece with
  | line text => exact indent_lines_eq depth text
  | raw text => cases generated
  | blank => rfl
  | block opening closing body =>
    rw [Code.write, codeLines, indent_lines_eq, indent_lines_eq, write_all_eq generated]
    simp
  | indented body =>
    rw [Code.write, codeLines]
    exact write_all_eq generated _ _

theorem write_all_eq (generated : allGenerated pieces = true) (depth : Nat) (first : Bool) :
    Code.writeAll depth first pieces = (allLines depth pieces).flatMap (· ++ ['\n']) := by
  cases pieces with
  | nil => rfl
  | cons piece rest =>
    rw [allGenerated, Bool.and_eq_true] at generated
    rw [Code.writeAll, allLines, List.flatMap_append, write_eq generated.1,
      write_all_eq generated.2]

end

mutual

theorem mem_code_lines (member : line ∈ codeLines depth piece) :
    ∃ deeper plain, depth ≤ deeper ∧ '\n' ∉ plain ∧ line = indent deeper plain := by
  cases piece with
  | line text => exact ⟨depth, (mem_indented member).imp fun _ shape => ⟨Nat.le_refl depth, shape⟩⟩
  | raw text => cases member
  | blank =>
    have empty : line = [] := by simpa [codeLines] using member
    exact ⟨depth, [], Nat.le_refl depth, by simp, empty⟩
  | block opening closing body =>
    rw [codeLines, List.mem_append, List.mem_append] at member
    rcases member with (opens | inner) | closes
    · exact ⟨depth, (mem_indented opens).imp fun _ shape => ⟨Nat.le_refl depth, shape⟩⟩
    · obtain ⟨deeper, plain, above, shape⟩ := mem_all_lines inner
      exact ⟨deeper, plain, by omega, shape⟩
    · exact ⟨depth, (mem_indented closes).imp fun _ shape => ⟨Nat.le_refl depth, shape⟩⟩
  | indented body =>
    obtain ⟨deeper, plain, above, shape⟩ := mem_all_lines (by rwa [codeLines] at member)
    exact ⟨deeper, plain, by omega, shape⟩

/-- Each line of a tree is an unbroken text at the depth of the tree or deeper. -/
theorem mem_all_lines (member : line ∈ allLines depth pieces) :
    ∃ deeper plain, depth ≤ deeper ∧ '\n' ∉ plain ∧ line = indent deeper plain := by
  cases pieces with
  | nil => cases member
  | cons piece rest =>
    rcases List.mem_append.mp member with first | later
    · exact mem_code_lines first
    · exact mem_all_lines later

end

theorem all_lines_unbroken (member : line ∈ allLines depth pieces) : '\n' ∉ line := by
  obtain ⟨deeper, plain, _, single, rfl⟩ := mem_all_lines member
  unfold indent
  split <;> simp [single]

/-- Lines inside a block begin with a space. -/
theorem all_lines_indented (member : line ∈ allLines (depth + 1) pieces) :
    line = [] ∨ ∃ rest, line = ' ' :: rest := by
  obtain ⟨deeper, plain, above, _, rfl⟩ := mem_all_lines member
  unfold indent
  split
  · exact .inl rfl
  · obtain ⟨spaces, count⟩ : ∃ spaces, 2 * deeper = spaces + 1 := ⟨2 * deeper - 1, by omega⟩
    exact .inr ⟨_, by rw [count, List.replicate_succ, List.cons_append]⟩

/-! ## Reading line by line -/

section Gathered
variable {read : List Char → Option α}

/-- What is read from the generated lines of pieces, in order. -/
def gathered (read : List Char → Option α) (pieces : List Code) : List α :=
  (allLines 0 pieces).filterMap read

theorem gathered_append (read : List Char → Option α) (front back : List Code) :
    gathered read (front ++ back) = gathered read front ++ gathered read back := by
  rw [gathered, all_lines_append, List.filterMap_append]
  rfl

theorem gathered_line (single : OneLine text) (read : List Char → Option α) :
    gathered read [.line text] = (read text.toList).toList := by
  rw [gathered, all_lines_single, code_lines_line single, indent_top, List.filterMap_cons,
    List.filterMap_nil]
  cases read text.toList <;> rfl

theorem gathered_flat_map (read : List Char → Option α) (write : β → List Code)
    (entries : List β) :
    gathered read (entries.flatMap write) = entries.flatMap fun entry =>
      gathered read (write entry) := by
  induction entries with
  | nil => rfl
  | cons entry rest ih => rw [List.flatMap_cons, gathered_append, ih, List.flatMap_cons]

theorem gathered_map {write : β → Code} {mean : β → List α} {entries : List β}
    (each : ∀ entry ∈ entries, gathered read [write entry] = mean entry) :
    gathered read (entries.map write) = entries.flatMap mean := by
  rw [List.map_eq_flatMap, gathered_flat_map]
  exact List.flatMap_congr each

theorem gathered_map_nil {write : β → Code} {entries : List β}
    (each : ∀ entry ∈ entries, gathered read [write entry] = []) :
    gathered read (entries.map write) = [] :=
  (gathered_map each).trans (List.flatMap_eq_nil_iff.mpr fun _ _ => rfl)

/-- A reader that passes over lines inside blocks sees only the ends of a block. -/
theorem gathered_block (empty : read [] = none) (inside : ∀ rest, read (' ' :: rest) = none)
    (opens : OneLine opening) (closes : OneLine closing) (body : List Code) :
    gathered read [.block opening closing body] =
      (read opening.toList).toList ++ (read closing.toList).toList := by
  have within : (allLines (0 + 1) body).filterMap read = [] := by
    refine List.filterMap_eq_nil_iff.mpr fun line member => ?_
    rcases all_lines_indented member with rfl | ⟨rest, rfl⟩
    · exact empty
    · exact inside rest
  rw [gathered, all_lines_single, code_lines_block opens closes, List.filterMap_cons,
    List.filterMap_append, within, indent_top, indent_top, List.filterMap_cons,
    List.filterMap_nil]
  cases read opening.toList <;> cases read closing.toList <;> rfl

end Gathered

/-- Source that ends in something dark keeps all its lines when its end is trimmed. -/
theorem lines_trimmed (generated : allGenerated pieces = true)
    (shape : allLines 0 pieces = front ++ [last]) (ends : last.getLast? = some c)
    (dark : Text.isBlank c = false) :
    lines (Text.trimEnd (Code.render 0 pieces).toList) = allLines 0 pieces := by
  have unbroken : ∀ line ∈ front ++ [last], '\n' ∉ line := fun line member =>
    all_lines_unbroken (shape ▸ member)
  rw [List.forall_mem_append, List.forall_mem_singleton] at unbroken
  have text : (front ++ [last]).flatMap (· ++ ['\n']) =
      front.flatMap (· ++ ['\n']) ++ last ++ ['\n'] := by simp
  have whole : (front.flatMap (· ++ ['\n']) ++ last).getLast? = some c := by
    rw [List.getLast?_append, ends, Option.some_or]
  rw [Code.render, String.toList_ofList, write_all_eq generated, shape, text,
    trim_end_line whole dark, lines_flat_map unbroken.1, lines_single unbroken.2]

/-! ## Escaped texts are one line -/

theorem one_line_string_literal (text : String) : OneLine (stringLiteral text) := by
  have char (c : Char) : '\n' ∉ quotedChar c := fun held =>
    absurd (LiteralScan.calm_quoted_char held) (by decide)
  rw [OneLine, stringLiteral, String.toList_ofList, quoted]
  simp [char]

theorem one_line_label (label : String) : OneLine (Reply.Snippet.labelLiteral label) := by
  have digit : ∀ k < 16, '\n' ≠ Nat.digitChar k := by decide
  have letter : ∀ pair ∈ JsonReading.letters, '\n' ∉ ['\\', pair.2] := by decide
  have char (c : Char) : '\n' ∉ Json.escapeChar c := by
    have written := JsonReading.written_escape c
    generalize Json.escapeChar c = text at written ⊢
    cases written with
    | letter named => exact letter _ named
    | code low unnamed =>
      have digits : '\n' ∉ Text.hex 4 c.toNat := fun held => by
        obtain ⟨k, bound, same⟩ := JsonReading.hex_digit_of_mem (by omega) held
        exact digit k bound same
      simp [digits]
    | itself mark slash high =>
      rw [List.mem_singleton]
      rintro rfl
      exact high (by decide)
  rw [OneLine, Reply.Snippet.labelLiteral, String.toList_ofList, Json.quote]
  simp [char]

theorem template_text_unbroken (text : String) :
    ∀ c ∈ (templateText text).toList, c ≠ '\n' ∧ c ≠ '\r' := by
  rw [templateText, String.toList_ofList]
  induction text.toList with
  | nil => simp [templateChars]
  | cons c rest ih =>
    obtain ⟨first, written, shape⟩ := TemplateScan.template_chars_cons c rest
    rw [shape, List.forall_mem_append]
    refine ⟨?_, ih⟩
    cases written with
    | letter named =>
      have letter : ∀ pair ∈ TemplateScan.templateLetters, pair.2 ≠ '\n' ∧ pair.2 ≠ '\r' := by
        decide
      simpa using letter _ named
    | itself slash mark back feed closed => simp [back, feed]

theorem one_line_template_text (text : String) : OneLine (templateText text) :=
  fun held => (template_text_unbroken text _ held).1 rfl

theorem one_line_of_identifier (identifier : isIdentifier name = true) : OneLine name := by
  intro held
  have part := LiteralReading.parts_of_identifier identifier _ held
  exact absurd part (by decide)

theorem one_line_member (object : OneLine name) (key : String) : OneLine (member name key) := by
  unfold member
  split
  · next identifier =>
    have dot : OneLine "." := by decide
    simp [object, one_line_of_identifier identifier, dot]
  · simp only [one_line_append, object, one_line_string_literal, true_and, and_true]
    decide

theorem one_line_join {texts : List String} (each : ∀ text ∈ texts, OneLine text) :
    OneLine (String.join texts) := by
  induction texts with
  | nil => decide
  | cons text rest ih =>
    rw [List.forall_mem_cons] at each
    rw [String.join_cons, one_line_append]
    exact ⟨each.1, ih each.2⟩

theorem one_line_intercalate (between : OneLine separator) {texts : List String}
    (each : ∀ text ∈ texts, OneLine text) : OneLine (separator.intercalate texts) := by
  cases texts with
  | nil => exact (by decide : OneLine "")
  | cons first rest =>
    rw [List.forall_mem_cons] at each
    rw [StatementReading.intercalate_eq_join, one_line_append]
    refine ⟨each.1, one_line_join fun text member => ?_⟩
    obtain ⟨inner, held, rfl⟩ := List.mem_map.mp member
    exact one_line_append.mpr ⟨between, each.2 inner held⟩

theorem one_line_decimal (n : Nat) : OneLine (String.ofList (Text.decimal n)) := fun held => by
  rw [String.toList_ofList] at held
  have digit : Char.isDigit '\n' = true := Nat.isDigit_of_mem_toDigits (by decide) (by decide) held
  exact absurd digit (by decide)

theorem one_line_access (object : OneLine name) (path : String) (optional : Bool) :
    OneLine (access name path optional) := by
  refine one_line_append.mpr ⟨object, one_line_join fun text member => ?_⟩
  obtain ⟨step, _, rfl⟩ := List.mem_map.mp member
  have marks : OneLine "?." ∧ OneLine "." ∧ OneLine "?.[" ∧ OneLine "[" ∧ OneLine "]" := by decide
  cases step with
  | key key =>
    rw [accessStep]
    split
    · next identifier =>
      cases optional <;> simp [marks, one_line_of_identifier identifier]
    · cases optional <;> simp [marks, one_line_string_literal]
  | index position =>
    rw [accessStep]
    cases optional <;> simp [marks, one_line_decimal]

/-- A template whose holes do not break the line. -/
theorem one_line_templates {parts : List Part}
    (holes : ∀ written expression, .hole written expression ∈ parts → OneLine expression) :
    OneLine (Part.templates parts) := by
  refine one_line_join fun text member => ?_
  obtain ⟨part, held, rfl⟩ := List.mem_map.mp member
  cases part with
  | text plain =>
    have plain := one_line_template_text (String.ofList plain)
    rwa [templateText, String.toList_ofList] at plain
  | hole written expression =>
    simp only [Part.template, one_line_append, holes written expression held]
    decide

/-! ## Lines of a snippet -/

section Snippet
open Reply Reply.Snippet

theorem statement_generated (entry : Item) (statement : String) :
    isGenerated (guardedStatement entry statement) = true := by
  unfold guardedStatement
  split <;> rfl

theorem all_generated_append {front back : List Code} :
    allGenerated (front ++ back) = true ↔ allGenerated front = true ∧ allGenerated back = true := by
  simp [all_generated_iff, or_imp, forall_and]

theorem all_generated_map {write : α → Code} (each : ∀ entry, isGenerated (write entry) = true)
    (entries : List α) : allGenerated (entries.map write) = true :=
  all_generated_iff.mpr (List.forall_mem_map.mpr fun entry _ => each entry)

theorem all_generated_lines (text : α → String) (entries : List α) :
    allGenerated (entries.map fun entry => .line (text entry)) = true :=
  all_generated_map (fun _ => rfl) entries

theorem reply_generated (style : SnippetStyle) (template : Template) (locale : Locale)
    (items : List Item) : allGenerated (reply style template locale items) = true := by
  have guarded (statement : Item → String) : allGenerated
      (items.map fun entry => guardedStatement entry (statement entry)) = true :=
    all_generated_map (fun entry => statement_generated entry _) items
  cases style <;> cases template <;>
    simp [reply, plainText, plainEmbed, plainJson, guardedText, guardedEmbed, guardedJson,
      jsonReturn, returnBlock, embedHead, embedTail, Code.lines, all_generated_append,
      all_generated_map, all_generated_lines, guarded, allGenerated, isGenerated]

/-- Every reply ends with the object that it returns. -/
theorem reply_returns (style : SnippetStyle) (template : Template) (locale : Locale)
    (items : List Item) :
    ∃ front body, reply style template locale items = front ++ [returnBlock body] := by
  cases style <;> cases template
  case plain.simpleText | plain.multiLine | plain.embed => exact ⟨[.blank], _, rfl⟩
  case plain.jsonFormatted => exact ⟨[.blank, .block _ _ _, .blank], _, rfl⟩
  all_goals exact ⟨_, _, (List.append_cons ..)⟩

theorem code_generated (style : SnippetStyle) (template : Template) (locale : Locale)
    (mappings : List Mapping) : allGenerated (code style template locale mappings) = true := by
  rw [code, all_generated_append, all_generated_append]
  exact ⟨⟨rfl, all_generated_map (fun _ => rfl) _⟩, reply_generated ..⟩

/-- A snippet has the lines of its pieces: what is trimmed off is no line of it. -/
theorem lines_snippet (nonempty : mappings ≠ []) (style : SnippetStyle) (template : Template)
    (locale : Locale) :
    lines (snippet style template locale mappings).toList =
      allLines 0 (code style template locale mappings) := by
  obtain ⟨front, body, shape⟩ := reply_returns style template locale
    (mappings.map (item style (declarations mappings)))
  -- The last line is the end of the returned object, which no trimming touches.
  have last : allLines 0 (code style template locale mappings) =
      allLines 0 ([.line dataLine] ++
        (declarations mappings).map (declarationLine style) ++ front) ++
      (indent 0 "return \x7b".toList :: allLines 1 body) ++ ["\x7d;".toList] := by
    rw [code, shape, ← List.append_assoc, all_lines_append, all_lines_single, returnBlock,
      code_lines_block (by decide) (by decide)]
    simp [indent]
  rw [snippet, if_neg nonempty, String.toList_ofList]
  exact lines_trimmed (code_generated ..) last rfl (by decide)

/-- Without mappings, a snippet is the whole response in any style. -/
theorem lines_whole (style : SnippetStyle) (template : Template) (locale : Locale) :
    lines (snippet style template locale []).toList = wholeResponse.map String.toList := by
  have single : ∀ text ∈ wholeResponse, OneLine text := by
    simp only [wholeResponse, List.forall_mem_cons, List.not_mem_nil, false_implies,
      implies_true, and_true]
    exact ⟨one_line_chars (by decide), one_line_chars (by decide), one_line_chars (by decide),
      one_line_chars (by decide), one_line_chars (by decide)⟩
  rw [snippet, if_pos rfl, lines_intercalate single (List.cons_ne_nil _ _)]

theorem gathered_snippet (nonempty : mappings ≠ []) (read : List Char → Option α)
    (style : SnippetStyle) (template : Template) (locale : Locale) :
    (lines (snippet style template locale mappings).toList).filterMap read =
      gathered read (code style template locale mappings) := by
  rw [lines_snippet nonempty]
  rfl

/-! ### Items -/

theorem local_of_item (listed : mapping ∈ mappings) (style : SnippetStyle) :
    Local (item style (declarations mappings) mapping).binding := by
  have declared := (binding_of_declarations mappings mapping.path).mpr (List.mem_map_of_mem listed)
  obtain ⟨binding, found⟩ := Option.isSome_iff_exists.mp declared
  have bound : (item style (declarations mappings) mapping).binding = binding := by
    rw [item.eq_def, found]
    rfl
  exact bound ▸ local_of_binding found

theorem expression_of_hole (member : .hole written expression ∈ parts) :
    expression ∈ Part.expressions parts :=
  List.mem_eraseDups.mpr (List.mem_filterMap.mpr ⟨_, member, rfl⟩)

theorem plain_hole (member : .hole written expression ∈ plainParts format own) :
    expression = own := by
  unfold plainParts at member
  split at member <;> simp_all

/-- What an item shows is in a local. -/
theorem local_of_hole (listed : mapping ∈ mappings) {style : SnippetStyle}
    (member : .hole written expression ∈ (item style (declarations mappings) mapping).parts) :
    Local expression := by
  cases style with
  | plain => exact plain_hole member ▸ local_of_item listed .plain
  | guarded => exact SnippetReading.local_expression listed (expression_of_hole member)

theorem one_line_of_local (named : Local name) : OneLine name :=
  one_line_of_identifier named.identifier

theorem one_line_parts (listed : mapping ∈ mappings) (style : SnippetStyle) :
    OneLine (Part.templates (item style (declarations mappings) mapping).parts) :=
  one_line_templates fun _ _ member => one_line_of_local (local_of_hole listed member)

theorem one_line_labelled (parts : OneLine (Part.templates entry.parts)) (template : Template) :
    OneLine (labelled template entry) := by
  cases template <;> simp only [labelled, one_line_append, one_line_template_text, parts] <;> decide

theorem one_line_guard (needed : ∀ name ∈ names, OneLine name) :
    OneLine (StatementReading.guardText names) := by
  unfold StatementReading.guardText
  split
  · decide
  · have conditions : OneLine (" && ".intercalate (names.map fun name => name ++ " != null")) := by
      refine one_line_intercalate (by decide) fun text member => ?_
      obtain ⟨name, held, rfl⟩ := List.mem_map.mp member
      exact one_line_append.mpr ⟨needed name held, by decide⟩
    simp only [one_line_append, conditions]
    decide

/-- The guard of an item. -/
theorem one_line_guarded (listed : mapping ∈ mappings) : OneLine (StatementReading.guardText
    (Part.expressions (item .guarded (declarations mappings) mapping).parts)) :=
  one_line_guard fun _ member => one_line_of_local (SnippetReading.local_expression listed member)

/-- A guarded statement is one line. -/
theorem gathered_guarded (listed : mapping ∈ mappings) (single : OneLine statement)
    (read : List Char → Option α) :
    gathered read [guardedStatement (item .guarded (declarations mappings) mapping) statement] =
      (read (StatementReading.guardText (Part.expressions
        (item .guarded (declarations mappings) mapping).parts) ++ statement).toList).toList := by
  rw [SnippetReading.guarded_statement_eq]
  exact gathered_line (one_line_append.mpr ⟨one_line_guarded listed, single⟩) read

theorem head_guarded (needed : List String) (statement : String) :
    (StatementReading.guardText needed ++ statement).toList.head? = some 'i' ∨
      (StatementReading.guardText needed ++ statement).toList.head? = statement.toList.head? := by
  unfold StatementReading.guardText
  split
  · exact .inr (by simp)
  · exact .inl (by simp)

end Snippet

/-! ## Static replies -/

section StaticReply
open Reply

theorem one_line_signed (n : Int) : OneLine (String.ofList (Text.signedDecimal n)) := by
  cases n with
  | ofNat n => exact one_line_decimal n
  | negSucc n =>
    have digits := one_line_decimal (n + 1)
    rw [OneLine, String.toList_ofList] at digits ⊢
    simp [Text.signedDecimal, digits]

theorem one_line_choice (items : List (List Char)) : OneLine (choiceExpression items) := by
  have literals : OneLine (", ".intercalate
      (items.map fun item => String.ofList (quoted item))) := by
    refine one_line_intercalate (by decide) fun text member => ?_
    obtain ⟨item, _, rfl⟩ := List.mem_map.mp member
    have literal := one_line_string_literal (String.ofList item)
    rwa [stringLiteral, String.toList_ofList] at literal
  unfold choiceExpression
  simp only [one_line_append, literals, one_line_decimal]
  decide

theorem one_line_random (filled : randomExpression? arguments = some expression) :
    OneLine expression := by
  obtain ⟨low, high, rfl⟩ | ⟨items, rfl⟩ := randomExpression?_cases filled
  · unfold integerExpression
    simp only [one_line_append, one_line_signed]
    decide
  · exact one_line_choice items

theorem one_line_fill {options : List BoundOption}
    (locals : ∀ option ∈ options, Local option.binding)
    (filled : fillStatic options hole = some expression) : OneLine expression := by
  cases hole with
  | random arguments => exact one_line_random filled
  | name inner =>
    obtain ⟨option, located, rfl⟩ := Option.map_eq_some_iff.mp filled
    have named := locals option (List.mem_of_find?_eq_some located)
    exact one_line_append.mpr ⟨one_line_of_local named, by decide⟩

theorem one_line_static {options : List BoundOption}
    (locals : ∀ option ∈ options, Local option.binding) (text : String) :
    OneLine (staticExpression text options) := by
  have parts : OneLine (Part.templates (staticParts text options)) :=
    one_line_templates fun written expression member => by
      obtain ⟨hole, filled⟩ := SnippetReading.filled_of_hole member
      exact one_line_fill locals filled
  unfold staticExpression
  simp only [one_line_append, parts]
  decide

end StaticReply

end Botwright.CodeLines
