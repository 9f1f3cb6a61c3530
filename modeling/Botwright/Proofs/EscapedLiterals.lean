import Botwright.Proofs.CodeLines
import Botwright.Proofs.TemplateReading

/-! Escaped texts are read back as they were. A string in quotes is one literal, whatever
follows it; texts and substitutions that take turns between backticks are read as those
texts and those substitutions, in that order. -/
namespace Botwright.EscapedLiterals
open Script SourceScan LiteralScan TemplateScan LiteralReading TemplateReading CodeLines

/-! ## Interpolations -/

/-- What a template literal holds: a text, and behind it substitutions, each with the text
that follows it. -/
structure Interpolation where
  head : String
  spans : List (String × String)
  deriving DecidableEq, Repr

/-- A substitution and the text behind it, as they stand between backticks. -/
def spanText (span : String × String) : String :=
  "$\x7b" ++ span.1 ++ "\x7d" ++ templateText span.2

def Interpolation.literal (template : Interpolation) : String :=
  "`" ++ templateText template.head ++ String.join (template.spans.map spanText) ++ "`"

/-- The texts and substitutions that the marks of a template are made of. -/
def gather : List Mark → Interpolation
  | [] => ⟨"", []⟩
  | .char c :: rest => ⟨String.singleton c ++ (gather rest).head, (gather rest).spans⟩
  | .hole expression :: rest =>
    ⟨"", (String.ofList expression, (gather rest).head) :: (gather rest).spans⟩

/-- A template literal, by its texts and substitutions. -/
def readInterpolation : Reader Interpolation := fun s =>
  (readTemplate s).map fun (marks, rest) => (gather marks, rest)

/-! ## Reading them back -/

def partsOfSpan (span : String × String) : List Part := [.hole [] span.1, .text span.2.toList]

/-- The parts that an interpolation is written from. -/
def Interpolation.parts (template : Interpolation) : List Part :=
  .text template.head.toList :: template.spans.flatMap partsOfSpan

theorem no_text_before_spans (spans : List (String × String)) :
    NoLeadingText (spans.flatMap partsOfSpan) := by
  cases spans <;> simp [NoLeadingText, partsOfSpan]

theorem fits_spans {spans : List (String × String)} (balanced : ∀ span ∈ spans, Quiet span.1) :
    Fits (spans.flatMap partsOfSpan) := by
  induction spans with
  | nil => exact .nil
  | cons span rest ih =>
    rw [List.forall_mem_cons] at balanced
    exact .hole [] balanced.1 (.text _ (ih balanced.2) (no_text_before_spans rest))

theorem templates_spans (spans : List (String × String)) :
    Part.templates (spans.flatMap partsOfSpan) = String.join (spans.map spanText) := by
  induction spans with
  | nil => rfl
  | cons span rest ih =>
    rw [Part.templates] at ih
    simp only [List.flatMap_cons, partsOfSpan, Part.templates, List.map_append, List.map_cons,
      List.map_nil, String.join_append, ih, String.join_cons]
    simp [Part.template, spanText, templateText, String.append_assoc]

theorem literal_eq (template : Interpolation) :
    template.literal = "`" ++ Part.templates template.parts ++ "`" := by
  have spans := templates_spans template.spans
  rw [Part.templates] at spans
  rw [Interpolation.literal, Interpolation.parts, Part.templates, List.map_cons,
    String.join_cons, spans, ← String.append_assoc]
  rfl

theorem gather_text (plain : List Char) (marks : List Mark) :
    gather (plain.map .char ++ marks) =
      ⟨String.ofList plain ++ (gather marks).head, (gather marks).spans⟩ := by
  induction plain with
  | nil => simp
  | cons c plain ih =>
    rw [List.map_cons, List.cons_append, gather, ih, String.ofList_cons, String.append_assoc]

theorem gather_spans (spans : List (String × String)) :
    gather ((spans.flatMap partsOfSpan).flatMap marksOf) = ⟨"", spans⟩ := by
  induction spans with
  | nil => rfl
  | cons span rest ih =>
    have marks : ((span :: rest).flatMap partsOfSpan).flatMap marksOf =
        .hole span.1.toList :: (span.2.toList.map .char ++
          (rest.flatMap partsOfSpan).flatMap marksOf) := by
      simp [partsOfSpan, marksOf]
    rw [marks, gather, gather_text, ih]
    simp

theorem gather_parts (template : Interpolation) :
    gather (template.parts.flatMap marksOf) = template := by
  rw [Interpolation.parts, List.flatMap_cons, marksOf, gather_text, gather_spans]
  simp

/-- Texts and balanced substitutions between backticks are read as they were. -/
theorem read_interpolation (template : Interpolation)
    (balanced : ∀ span ∈ template.spans, Quiet span.1) (rest : List Char) :
    readInterpolation (template.literal.toList ++ rest) = some (template, rest) := by
  have fits : Fits template.parts :=
    .text _ (fits_spans balanced) (no_text_before_spans template.spans)
  have closing : ('\x60' :: rest).head? ≠ some '{' := by simp
  have text : template.literal.toList ++ rest =
      '\x60' :: ((Part.templates template.parts).toList ++ '\x60' :: rest) := by
    simp [literal_eq]
  have read := read_template (yields_templates fits closing)
  rw [readInterpolation, text, read, Option.map_some]
  dsimp only
  rw [gather_parts]

theorem calm_literal (text : String) :
    ∀ c ∈ (stringLiteral text).toList, isLineTerminator c = false := by
  intro c member
  rw [stringLiteral, String.toList_ofList, quoted, List.mem_append, List.mem_cons] at member
  rcases member with (rfl | inner) | closing
  · rfl
  · obtain ⟨d, -, held⟩ := List.mem_flatMap.mp inner
    exact calm_quoted_char held
  · rw [List.mem_singleton.mp closing]
    rfl

/-- A text in quotes is read back from its literal, which has no line end in it, and what
follows the literal stays. Texts and balanced substitutions that take turns between
backticks are read back one by one, and no text of them breaks its line. -/
theorem escaped_literals_read_back (text : String) (template : Interpolation)
    (balanced : ∀ span ∈ template.spans, Quiet span.1) (rest : List Char) :
    readString ((stringLiteral text).toList ++ rest) = some (text.toList, rest) ∧
      (∀ c ∈ (stringLiteral text).toList, isLineTerminator c = false) ∧
      readInterpolation (template.literal.toList ++ rest) = some (template, rest) ∧
      ∀ plain ∈ template.head :: template.spans.map (·.2),
        ∀ c ∈ (templateText plain).toList, c ≠ '\n' ∧ c ≠ '\r' := by
  have literal : (stringLiteral text).toList = quoted text.toList := String.toList_ofList
  refine ⟨?_, calm_literal text, read_interpolation template balanced rest,
    fun plain _ => template_text_unbroken plain⟩
  rw [literal]
  exact read_quoted text.toList rest

/-- Texts that end in a dollar sign or a backslash right before a substitution, and a
substitution that holds a template of its own. -/
def crookedTemplate : Interpolation where
  head := "cost: $$"
  spans := [("f(`\x7d$\x7bx\x7d`)", "\x7b\\"), ("y ?? '\x7b'", "$\x7bz\x7d`\r\n")]

theorem crooked_literals_read_back :
    (∀ span ∈ crookedTemplate.spans, Quiet span.1) ∧
      readString ((stringLiteral "it's\\\r\u2028").toList ++ "'".toList) =
        some ("it's\\\r\u2028".toList, "'".toList) ∧
      readInterpolation (crookedTemplate.literal.toList ++ "'".toList) =
        some (crookedTemplate, "'".toList) := by
  have balanced : ∀ span ∈ crookedTemplate.spans, Quiet span.1 := by
    simp only [crookedTemplate, List.forall_mem_cons, List.not_mem_nil, false_implies,
      implies_true, and_true]
    exact ⟨leads_fixed rfl, leads_fixed rfl⟩
  obtain ⟨text, -, template, -⟩ := escaped_literals_read_back "it's\\\r\u2028" crookedTemplate
    balanced "'".toList
  exact ⟨balanced, text, template⟩

end Botwright.EscapedLiterals
