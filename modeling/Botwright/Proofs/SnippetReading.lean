import Botwright.Proofs.SnippetScan
import Botwright.Proofs.StatementReading

/-! A bot's snippet for a text template is read as the statements that are meant:
every local is given its member of the response, and every item shows its label and
its parts under a guard over the locals that it shows. It is no program of the language
if a local, or a key that it writes behind a dot, is no name there. -/
namespace Botwright.SnippetReading
open Script Reply Reply.Snippet SourceLayout SnippetLocals LiteralReading TemplateReading
  StatementReading IdentifierNames

/-! ## Lines -/

theorem data_name : languageNames "data" = true := by decide +kernel

theorem spells_data : Spells dataLine.toList (.const "data" (.json "apiResponse")) := by
  have line : dataLine = constText "data" "await apiResponse.json()".toList := by decide
  rw [line]
  exact spells_const (by decide) data_name (by decide) read_response

theorem spells_parts : Spells "const parts = [];".toList (.const "parts" .emptyList) := by
  have line : "const parts = [];" = constText "parts" "[]".toList := by decide
  rw [line]
  exact spells_const (by decide) parts_name (by decide) fun _ => rfl

/-- The line that gives a local its member of the response. -/
def declarationText (declaration : Declaration) : String :=
  "const " ++ declaration.binding ++ " = " ++ access "data" declaration.path true ++ ";"

/-- A local is given its member of the response by a chain of optional links. -/
def declarationStatement (declaration : Declaration) : Statement :=
  .const declaration.binding
    (.member "data" ((FieldPath.segments declaration.path).map fun step => (true, step)))

/-- What stands bare in the line of a declaration: its local, and keys behind dots. -/
def declaredNames (declaration : Declaration) : List String :=
  declaration.binding :: bareKeys (FieldPath.segments declaration.path)

theorem declaration_text_eq (declaration : Declaration) :
    declarationText declaration =
      constText declaration.binding (access "data" declaration.path true).toList := by
  rw [declarationText, constText, String.ofList_toList]

theorem spells_declaration (named : Local declaration.binding)
    (admitted : ∀ name ∈ declaredNames declaration, languageNames name = true) :
    Spells (declarationText declaration).toList (declarationStatement declaration) := by
  rw [declaredNames, List.forall_mem_cons] at admitted
  rw [declaration_text_eq]
  exact spells_const named.identifier admitted.1 (not_word_of_local named)
    (read_access data_name true declaration.path admitted.2)

theorem refused_declaration (named : Local declaration.binding)
    (refused : ∃ name ∈ declaredNames declaration, languageNames name = false) :
    Refused (declarationText declaration).toList := by
  rw [declaration_text_eq]
  cases admitted : languageNames declaration.binding with
  | false => exact refused_name named.identifier admitted _
  | true =>
    have keys : ∃ key ∈ bareKeys (FieldPath.segments declaration.path),
        languageNames key = false := by
      simpa [declaredNames, admitted] using refused
    exact refused_source named admitted (read_access_short data_name true declaration.path keys)

theorem guarded_statement_eq (entry : Item) (statement : String) :
    guardedStatement entry statement =
      .line (guardText (Part.expressions entry.parts) ++ statement) := by
  unfold guardedStatement guard? guardText
  cases Part.expressions entry.parts with
  | nil => simp
  | cons first more => simp [String.append_assoc]

/-! ## Whole snippets -/

/-- The templates whose reply is one text. -/
def TextTemplate (template : Template) : Prop :=
  template = .simpleText ∨ template = .multiLine

instance (template : Template) : Decidable (TextTemplate template) :=
  inferInstanceAs (Decidable (_ ∨ _))

/-- What stands between the items of a text reply. -/
def between : Template → String
  | .multiLine => "\n"
  | _ => ", "

/-- What stands in front of a value in a text reply. -/
def caption (template : Template) (label : String) : String :=
  match template with
  | .multiLine => "**" ++ label ++ "**: "
  | _ => label ++ ": "

/-- The statement that adds an item to a text reply, with its guard. -/
def itemText (template : Template) (entry : Item) : String :=
  guardText (Part.expressions entry.parts) ++ ("parts.push(`" ++ labelled template entry ++ "`);")

/-- What the text of an item means. -/
def itemMarks (template : Template) (entry : Item) : List Mark :=
  (caption template entry.label).toList.map .char ++ entry.parts.flatMap marksOf

def itemStatement (template : Template) (entry : Item) : Statement :=
  .push (Part.expressions entry.parts) "parts" (itemMarks template entry)

/-- The statements that a snippet for a text template stands for. -/
def statements (template : Template) (locale : Locale) (mappings : List Mapping) :
    List Statement :=
  [.const "data" (.json "apiResponse")] ++
  (declarations mappings).map declarationStatement ++ [.const "parts" .emptyList] ++
  (mappings.map (item .guarded (declarations mappings))).map (itemStatement template) ++
  [.answer "parts" (between template).toList (Messages.of locale).noData.toList]

theorem separator_eq (template : Template) :
    "'" ++ separator template ++ "'" = stringLiteral (between template) := by
  cases template <;> decide

/-- The end of a text reply. -/
theorem return_text (template : Template) (locale : Locale) (first : Bool) :
    Code.writeAll 0 first [returnBlock
      [.line ("content: parts.length > 0 ? parts.join('" ++ separator template ++ "') : " ++
        stringLiteral (Messages.of locale).noData)]] =
      (answerText (between template) (Messages.of locale).noData).toList ++ ['\n'] := by
  have content : Code.indentLines 1 ("content: parts.length > 0 ? parts.join('" ++
      separator template ++ "') : " ++ stringLiteral (Messages.of locale).noData) =
      "  content: parts.length > 0 ? parts.join('".toList ++ ((separator template).toList ++
        ("') : ".toList ++ ((stringLiteral (Messages.of locale).noData).toList ++ ['\n']))) := by
    have apart : (separator template).toList.all (· ≠ '\n') = true := by
      cases template <;> decide
    have notice : (stringLiteral (Messages.of locale).noData).toList.all (· ≠ '\n') = true := by
      cases locale <;> decide +kernel
    have single : ("content: parts.length > 0 ? parts.join('" ++ separator template ++ "') : " ++
        stringLiteral (Messages.of locale).noData).toList.all (· ≠ '\n') = true := by
      simp only [String.toList_append, List.all_append, apart, notice]
      rfl
    rw [indent_lines_single single (by simp)]
    simp [List.replicate]
  unfold answerText
  simp only [returnBlock, Code.writeAll, Code.write, indent_lines_top, content, ← separator_eq]
  simp

/-- The text of a snippet, statement by statement. -/
theorem snippet_text (template : Template) (textual : TextTemplate template) (locale : Locale)
    (mappings : List Mapping) (nonempty : mappings ≠ []) :
    (snippet .guarded template locale mappings).toList =
      dataLine.toList ++ '\n' ::
        ((declarations mappings).flatMap (fun declaration =>
          (declarationText declaration).toList ++ ['\n']) ++ '\n' ::
        ("const parts = [];".toList ++ '\n' ::
        ((mappings.map (item .guarded (declarations mappings))).flatMap (fun entry =>
          (itemText template entry).toList ++ ['\n']) ++ '\n' ::
        (answerText (between template) (Messages.of locale).noData).toList))) := by
  have blank (first : Bool) : Code.writeAll 0 first [.blank] = ['\n'] := rfl
  have pieces : code .guarded template locale mappings =
      [Code.line dataLine] ++ ((declarations mappings).map (fun declaration =>
        Code.line (declarationText declaration)) ++
      ([Code.blank] ++ ([Code.line "const parts = [];"] ++
      ((mappings.map (item .guarded (declarations mappings))).map (fun entry =>
        Code.line (itemText template entry)) ++
      ([Code.blank] ++ [returnBlock [Code.line ("content: parts.length > 0 ? parts.join('" ++
        separator template ++ "') : " ++ stringLiteral (Messages.of locale).noData)]]))))) := by
    have written : reply .guarded template locale =
        guardedText template (Messages.of locale).noData := by
      rcases textual with rfl | rfl <;> rfl
    simp only [code, written, guardedText, guarded_statement_eq, List.append_assoc]
    rfl
  rw [snippet, if_neg nonempty, pieces, Code.render, String.toList_ofList, String.toList_ofList]
  simp only [write_all_append, write_all_line, write_all_lines, blank, return_text]
  -- Only the line end behind the last semicolon is cut off.
  simp only [← List.append_assoc]
  rw [trim_end_line (List.getLast?_append.trans (by rw [answer_text_ends]; rfl)) (by decide)]
  simp only [List.append_assoc, List.cons_append, List.nil_append]

/-! ## Items are read as they were meant -/

theorem yields_labelled (template : Template) (entry : Item)
    (fits : TemplateScan.Fits entry.parts) (apart : rest.head? ≠ some '{') :
    Yields readMark ((labelled template entry).toList ++ rest) (itemMarks template entry) rest := by
  have parts : Yields readMark ((Part.templates entry.parts).toList ++ rest)
      (entry.parts.flatMap marksOf) rest := yields_templates fits apart
  have label {tail : List Char} (closed : tail.head? ≠ some '{') :
      Yields readMark ((templateText entry.label).toList ++ tail)
        (entry.label.toList.map .char) tail := by
    rw [templateText, String.toList_ofList]
    exact yields_template_chars fun _ => closed
  unfold labelled itemMarks caption
  split
  · have stars := yields_fixed "**" rfl (by decide)
    have colon := yields_fixed "**: " rfl (by decide)
    simpa using (stars _).append ((label (by simp)).append ((colon _).append parts))
  · have colon := yields_fixed ": " rfl (by decide)
    simpa using (label (by simp)).append ((colon _).append parts)

theorem read_labelled (template : Template) (entry : Item) (fits : TemplateScan.Fits entry.parts)
    (rest : List Char) :
    readTemplate ('\x60' :: ((labelled template entry).toList ++ '\x60' :: rest)) =
      some (itemMarks template entry, rest) :=
  read_template (yields_labelled template entry fits (by simp))

theorem hole_of_expression (member : expression ∈ Part.expressions parts) :
    ∃ written, .hole written expression ∈ parts := by
  rw [Part.expressions, List.mem_eraseDups] at member
  obtain ⟨part, held, shown⟩ := List.mem_filterMap.mp member
  cases part with
  | text plain => cases shown
  | hole written other =>
    cases shown
    exact ⟨written, held⟩

theorem hole_of_add_text (member : .hole written expression ∈ Part.addText plain parts) :
    .hole written expression ∈ parts := by
  cases parts with
  | nil => simp [Part.addText] at member
  | cons part rest => cases part <;> simpa [Part.addText] using member

/-- What fills a hole is what fills a placeholder. -/
theorem filled_of_hole {recognise : List Char → Option (α × Nat)} {fill : α → Option String}
    (member : .hole written expression ∈ Part.split recognise fill text) :
    ∃ placeholder, fill placeholder = some expression := by
  fun_induction Part.split recognise fill text with
  | case1 => cases member
  | case2 c rest _ ih => exact ih (hole_of_add_text member)
  | case3 c rest placeholder more _ after other found ih =>
    rcases List.mem_cons.mp member with here | later
    · cases here
      exact ⟨placeholder, found⟩
    · exact ih later
  | case4 c rest placeholder more _ after _ ih => exact ih (hole_of_add_text member)

/-- An item shows declared locals only. -/
theorem declared_expression (listed : mapping ∈ mappings)
    (member : expression ∈ Part.expressions (item .guarded (declarations mappings) mapping).parts) :
    ∃ declaration ∈ declarations mappings, declaration.binding = expression := by
  obtain ⟨written, hole⟩ := hole_of_expression member
  obtain ⟨group, filled⟩ := filled_of_hole hole
  have own : (bindingOf? (declarations mappings) mapping.path).isSome = true :=
    (binding_of_declarations mappings mapping.path).mpr (List.mem_map_of_mem listed)
  obtain ⟨binding, found⟩ := Option.isSome_iff_exists.mp own
  unfold fillFormat at filled
  rw [found, Option.getD_some] at filled
  have bound : ∃ path, bindingOf? (declarations mappings) path = some expression := by
    split at filled
    · cases filled
      exact ⟨_, found⟩
    · exact ⟨_, filled⟩
  obtain ⟨path, located⟩ := bound
  obtain ⟨declaration, declared, _, same⟩ := binding_of_eq_some located
  exact ⟨declaration, declared, same⟩

theorem local_expression (listed : mapping ∈ mappings)
    (member : expression ∈ Part.expressions (item .guarded (declarations mappings) mapping).parts) :
    Local expression := by
  obtain ⟨declaration, declared, rfl⟩ := declared_expression listed member
  exact local_of_declaration declared

theorem spells_item (template : Template) (entry : Item) (fits : TemplateScan.Fits entry.parts)
    (locals : ∀ expression ∈ Part.expressions entry.parts, Readable languageNames expression) :
    Spells (itemText template entry).toList (itemStatement template entry) := by
  have spelled := spells_push locals (read_labelled template entry fits)
  rwa [String.ofList_toList] at spelled

/-- The names that a snippet writes bare: its locals, and the keys on mapped paths that
stand behind dots. -/
def bareNames (mappings : List Mapping) : List String :=
  (declarations mappings).flatMap declaredNames

theorem bare_of_declared (member : declaration ∈ declarations mappings)
    (bare : name ∈ declaredNames declaration) : name ∈ bareNames mappings :=
  List.mem_flatMap.mpr ⟨declaration, member, bare⟩

/-- Every bare name is one for the generator. -/
theorem identifier_of_bare (bare : name ∈ bareNames mappings) : isIdentifier name = true := by
  obtain ⟨declaration, member, bare⟩ := List.mem_flatMap.mp bare
  rcases List.mem_cons.mp bare with rfl | key
  · exact (local_of_declaration member).identifier
  · obtain ⟨step, _, shape⟩ := List.mem_filterMap.mp key
    exact (access_step_bare true shape).1

/-- A bot's snippet for a text template is read as its statements if all its bare names are
names of the language. -/
theorem read_snippet (template : Template) (textual : TextTemplate template) (locale : Locale)
    (mappings : List Mapping) (nonempty : mappings ≠ [])
    (admitted : ∀ name ∈ bareNames mappings, languageNames name = true) :
    readProgram (snippet .guarded template locale mappings).toList =
      some (statements template locale mappings) := by
  have locals := yields_lines declarationText declarationStatement
    fun declaration (member : declaration ∈ declarations mappings) =>
      spells_declaration (local_of_declaration member) fun name bare =>
        admitted name (bare_of_declared member bare)
  have each : ∀ entry ∈ mappings.map (item .guarded (declarations mappings)),
      Spells (itemText template entry).toList (itemStatement template entry) := by
    intro entry member
    obtain ⟨mapping, listed, rfl⟩ := List.mem_map.mp member
    refine spells_item template _ (SnippetScan.writable_item mapping).parts fun _ shown => ?_
    obtain ⟨declaration, declared, rfl⟩ := declared_expression listed shown
    exact ⟨local_of_declaration declared,
      admitted _ (bare_of_declared declared List.mem_cons_self)⟩
  have items := yields_lines (itemText template) (itemStatement template) each
  have answer : Yields readLine
      (skipGap (answerText (between template) (Messages.of locale).noData).toList)
      [.answer "parts" (between template).toList (Messages.of locale).noData.toList] [] := by
    have spelled := yields_statement
      (spells_answer (between template) (Messages.of locale).noData) []
    rwa [List.append_nil] at spelled
  have whole := (yields_line spells_data _).append ((locals _).append
    (yields_behind_blank ((yields_line spells_parts _).append
      ((items _).append (yields_behind_blank answer)))))
  rw [readProgram, snippet_text template textual locale mappings nonempty, whole.read_many rfl]
  simp only [statements, List.append_assoc, if_true]

/-- Reading a snippet comes to a stop at the first declaration with a bare name that the
language does not have. -/
theorem read_snippet_refused (template : Template) (textual : TextTemplate template)
    (locale : Locale) (mappings : List Mapping) (nonempty : mappings ≠ [])
    (refused : ∃ name ∈ bareNames mappings, languageNames name = false) :
    readProgram (snippet .guarded template locale mappings).toList = none := by
  have each : ∀ declaration ∈ declarations mappings,
      Spells (declarationText declaration).toList (declarationStatement declaration) ∨
        Refused (declarationText declaration).toList := by
    intro declaration member
    have named := local_of_declaration member
    by_cases admitted : ∀ name ∈ declaredNames declaration, languageNames name = true
    · exact .inl (spells_declaration named admitted)
    · exact .inr (refused_declaration named (by simpa using admitted))
  have some : ∃ declaration ∈ declarations mappings,
      Refused (declarationText declaration).toList := by
    obtain ⟨name, bare, other⟩ := refused
    obtain ⟨declaration, member, bare⟩ := List.mem_flatMap.mp bare
    exact ⟨declaration, member,
      refused_declaration (local_of_declaration member) ⟨name, bare, other⟩⟩
  rw [readProgram, snippet_text template textual locale mappings nonempty]
  obtain ⟨stuck, solid, halts⟩ := halts_lines declarationText declarationStatement each some _
  obtain ⟨items, read⟩ := ((yields_line spells_data _).halts halts).read_many
  rw [read]
  exact if_neg solid

end Botwright.SnippetReading
