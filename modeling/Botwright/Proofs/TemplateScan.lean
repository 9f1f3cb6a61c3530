import Botwright.Proofs.LiteralScan
import Botwright.Script.Template

/-! Template literals. A dollar sign at the end of a plain part stays bare, which
is safe because splitting never leaves two plain parts next to each other: what
follows is a hole, which begins with a dollar sign itself, or fixed text. -/
namespace Botwright.TemplateScan
open Script SourceScan LiteralScan

/-- The mode between the backticks of a template. -/
abbrev backticks : Mode := .literal .backtick

/-- The characters that a template writes as a backslash and one character more, the dollar
sign only in front of a brace. -/
def templateLetters : List (Char × Char) :=
  [('\\', '\\'), ('\x60', '\x60'), ('$', '$'), ('\r', 'r'), ('\n', 'n')]

/-- The ways in which a character is written between backticks, in front of a text. -/
inductive Backticked (c : Char) (rest : List Char) : List Char → Prop where
  | letter (named : (c, e) ∈ templateLetters) : Backticked c rest ['\\', e]
  | itself (slash : c ≠ '\\') (mark : c ≠ '\x60') (back : c ≠ '\r') (feed : c ≠ '\n')
      (closed : ¬(c = '$' ∧ rest.head? = some '{')) : Backticked c rest [c]

theorem template_chars_cons (c : Char) (rest : List Char) :
    ∃ first, Backticked c rest first ∧ templateChars (c :: rest) = first ++ templateChars rest := by
  refine ⟨_, ?_, rfl⟩
  split_ifs with slash mark opens back feed
  · rw [slash]; exact .letter (by decide)
  · rw [mark]; exact .letter (by decide)
  · rw [opens.1]; exact .letter (by decide)
  · rw [back]; exact .letter (by decide)
  · rw [feed]; exact .letter (by decide)
  · exact .itself slash mark back feed opens

/-- Between backticks, possibly right after a dollar sign. -/
def InTemplate (mode : Mode) : Prop := mode = backticks ∨ mode = .dollar

/-- Within a template, a text cannot turn a dollar sign before it into a
substitution. -/
def Ready (mode : Mode) (text : List Char) : Prop :=
  mode = backticks ∨ mode = .dollar ∧ text.head? ≠ some '{'

theorem step_ready (ready : Ready mode (c :: rest)) :
    step ⟨mode, opened⟩ c = stepLiteral .backtick opened c := by
  rcases ready with rfl | ⟨rfl, notBrace⟩
  · rfl
  · have different : c ≠ '{' := by simpa using notBrace
    simp [step, different]

theorem scan_template_escape (inTemplate : InTemplate mode)
    (short : stepEscape .backtick opened c = some ⟨backticks, opened⟩) :
    scan ⟨mode, opened⟩ ['\\', c] = some ⟨backticks, opened⟩ := by
  have opening : step ⟨mode, opened⟩ '\\' = some ⟨.escape .backtick, opened⟩ := by
    rcases inTemplate with rfl | rfl <;> rfl
  rw [scan_cons, opening, Option.bind_some, scan_single]
  exact short

theorem in_template_of_ready (ready : Ready mode text) : InTemplate mode :=
  ready.imp_right And.left

/-- Plain text between backticks neither ends the template nor opens a
substitution, wherever its dollar signs and braces stand. -/
theorem scan_template_chars (opened : List Bracket) (ready : Ready mode text) :
    ∃ after, InTemplate after ∧
      scan ⟨mode, opened⟩ (templateChars text) = some ⟨after, opened⟩ := by
  induction text generalizing mode with
  | nil => exact ⟨mode, in_template_of_ready ready, rfl⟩
  | cons c rest ih =>
    obtain ⟨first, written, shape⟩ := template_chars_cons c rest
    rw [shape, scan_append]
    cases written with
    | letter named =>
      have letter : ∀ pair ∈ templateLetters,
          stepEscape .backtick opened pair.2 = some ⟨backticks, opened⟩ := by
        simp [templateLetters, stepEscape]
      rw [scan_template_escape (in_template_of_ready ready) (letter _ named)]
      exact ih (.inl rfl)
    | itself slash mark back feed closed =>
      -- Only a dollar sign changes the mode.
      by_cases dollar : c = '$'
      · have stepped : step ⟨mode, opened⟩ c = some ⟨.dollar, opened⟩ := by
          rw [step_ready ready]
          simp [stepLiteral, dollar, Quote.mark]
        rw [scan_single, stepped]
        exact ih (.inr ⟨rfl, fun brace => closed ⟨dollar, brace⟩⟩)
      · have stepped : step ⟨mode, opened⟩ c = some ⟨backticks, opened⟩ := by
          rw [step_ready ready]
          simp [stepLiteral, dollar, slash, mark, Quote.mark]
        rw [scan_single, stepped]
        exact ih (.inl rfl)

/-! ## Parts -/

/-- Parts that do not begin with plain text. -/
def NoLeadingText (parts : List Part) : Prop := ∀ plain rest, parts ≠ .text plain :: rest

/-- Parts that may be written between backticks: every hole is filled with quiet
code, and no plain text stands right behind another. -/
inductive Fits : List Part → Prop where
  | nil : Fits []
  | text (plain : List Char) (rest : Fits parts) (apart : NoLeadingText parts) :
      Fits (.text plain :: parts)
  | hole (written : List Char) (quiet : Quiet expression) (rest : Fits parts) :
      Fits (.hole written expression :: parts)

theorem fits_add_text (fits : Fits parts) : Fits (Part.addText plain parts) := by
  cases fits with
  | nil => exact .text plain .nil (by simp [NoLeadingText])
  | text more rest apart => exact .text (plain ++ more) rest apart
  | hole written quiet rest =>
    exact .text plain (.hole written quiet rest) (by simp [NoLeadingText])

/-- Splitting a text gives parts that fit, whatever counts as a placeholder. -/
theorem fits_split {recognise : List Char → Option (α × Nat)} {fill : α → Option String}
    (filled : ∀ placeholder expression, fill placeholder = some expression → Quiet expression)
    (text : List Char) : Fits (Part.split recognise fill text) := by
  fun_induction Part.split recognise fill text with
  | case1 => exact .nil
  | case2 c rest _ ih => exact fits_add_text ih
  | case3 c rest placeholder more _ after expression found ih =>
    exact .hole _ (filled placeholder expression found) ih
  | case4 c rest placeholder more _ after _ ih => exact fits_add_text ih

theorem quiet_expression (fits : Fits parts) (member : expression ∈ Part.expressions parts) :
    Quiet expression := by
  rw [Part.expressions, List.mem_eraseDups] at member
  induction fits with
  | nil => simp at member
  | text plain rest apart ih => exact ih (by simpa using member)
  | hole written quiet rest ih =>
    simp only [List.filterMap_cons, List.mem_cons] at member
    rcases member with rfl | later
    · exact quiet
    · exact ih later

theorem scan_hole (inTemplate : InTemplate mode) (quiet : Quiet expression) :
    Leads ⟨mode, []⟩ (Part.template (.hole written expression)) ⟨backticks, []⟩ := by
  have opening : Leads ⟨mode, []⟩ "$\x7b" (inside [.substitution]) := by
    rcases inTemplate with rfl | rfl <;> exact leads_fixed rfl
  exact (opening.insert quiet).fixed rfl

theorem scan_parts (fits : Fits parts)
    (entry : mode = backticks ∨ mode = .dollar ∧ NoLeadingText parts) :
    ∃ after, InTemplate after ∧ Leads ⟨mode, []⟩ (Part.templates parts) ⟨after, []⟩ := by
  induction fits generalizing mode with
  | nil => exact ⟨mode, entry.imp_right And.left, leads_empty⟩
  | text plain rest apart ih =>
    rcases entry with rfl | ⟨_, hole⟩
    · have ready : Ready backticks plain := .inl rfl
      obtain ⟨middle, inTemplate, first⟩ := scan_template_chars [] ready
      obtain ⟨after, inside, last⟩ := ih (inTemplate.imp_right fun dollar => ⟨dollar, apart⟩)
      refine ⟨after, inside, ?_⟩
      rw [Part.templates, List.map_cons, String.join_cons]
      exact (leads_fixed first).append last
    · exact absurd rfl (hole _ _)
  | hole written quiet rest ih =>
    obtain ⟨after, inside, last⟩ := ih (.inl rfl)
    refine ⟨after, inside, ?_⟩
    rw [Part.templates, List.map_cons, String.join_cons]
    exact (scan_hole (entry.imp_right And.left) quiet).append last

/-! ## Texts between backticks -/

/-- A text that may stand between backticks. -/
def Templated (text : String) : Prop :=
  ∃ after, InTemplate after ∧ Leads ⟨backticks, []⟩ text ⟨after, []⟩

theorem templated_text (text : String) : Templated (templateText text) := by
  have ready : Ready backticks text.toList := .inl rfl
  obtain ⟨after, inTemplate, run⟩ := scan_template_chars [] ready
  exact ⟨after, inTemplate, leads_fixed run⟩

theorem templated_parts (fits : Fits parts) : Templated (Part.templates parts) :=
  scan_parts fits (.inl rfl)

/-- A fixed text goes on from both modes unless it begins with a brace. -/
theorem leads_in_template (bare : scan ⟨backticks, opened⟩ characters = some after)
    (dollar : scan ⟨.dollar, opened⟩ characters = some after) (mode : Mode)
    (inTemplate : InTemplate mode) : Leads ⟨mode, opened⟩ (String.ofList characters) after := by
  rcases inTemplate with rfl | rfl
  · exact leads_fixed bare
  · exact leads_fixed dollar

theorem Templated.behind (templated : Templated text)
    (fixed : Leads ⟨backticks, []⟩ front ⟨backticks, []⟩) : Templated (front ++ text) := by
  obtain ⟨after, inTemplate, run⟩ := templated
  exact ⟨after, inTemplate, fixed.append run⟩

theorem Templated.append (templated : Templated front)
    (fixed : ∀ mode, InTemplate mode → Leads ⟨mode, []⟩ between ⟨backticks, []⟩)
    (more : Templated back) : Templated (front ++ between ++ back) := by
  obtain ⟨middle, inTemplate, first⟩ := templated
  obtain ⟨after, inside, last⟩ := more
  exact ⟨after, inside, (first.append (fixed middle inTemplate)).append last⟩

/-- Code around a template literal, which ends with fixed text from its backtick on. -/
theorem Templated.quiet (templated : Templated text) (opened : List Bracket)
    (before : Leads start front ⟨backticks, opened⟩)
    (after : ∀ mode, InTemplate mode → Leads ⟨mode, opened⟩ back start) :
    Quiet (front ++ text ++ back) := by
  obtain ⟨middle, inTemplate, run⟩ := templated
  exact (before.append (run.within opened)).append (after middle inTemplate)

end Botwright.TemplateScan
