import Botwright.Proofs.CodeLines
import Mathlib.Data.List.Basic

/-! Generated source at any depth. A builder that writes line by line, and changes its depth as
it goes in and out of blocks, writes what a tree of code stands for; deeper down it writes the
same lines further in, so that source may be written first and put into other source later. -/
namespace Botwright.Reindentation
open Script CodeLines

/-! ## A builder -/

/-- Source that is being written: its text so far, and the depth of the next line. -/
@[ext] structure Builder where
  text : List Char
  depth : Nat
  /-- Every line is written to its end. -/
  whole : ∀ c ∈ text.getLast?, c = '\n'

namespace Builder

def start (depth : Nat) : Builder := ⟨[], depth, by simp⟩

/-- Writes one line behind two spaces a level; a line without text is not indented. -/
def push (b : Builder) (line : List Char) : Builder where
  text := b.text ++
    (if line = [] then [] else (List.replicate b.depth [' ', ' ']).flatten ++ line) ++ ['\n']
  depth := b.depth
  whole := by simp

def line (b : Builder) (text : String) : Builder :=
  (Text.pieces (· = '\n') text.toList).foldl push b

def blank (b : Builder) : Builder := ⟨b.text ++ ['\n'], b.depth, by simp⟩

/-- Writes a text as it is, and ends its last line. -/
def raw (b : Builder) (text : String) : Builder :=
  let written := b.text ++ text.toList
  if ends : written.getLast? = some '\n' then ⟨written, b.depth, by simp [ends]⟩
  else ⟨written ++ ['\n'], b.depth, by simp⟩

/-- One level deeper. -/
def deepen (b : Builder) : Builder := { b with depth := b.depth + 1 }

/-- One level back. -/
def lift (b : Builder) : Builder := { b with depth := b.depth - 1 }

mutual

/-- Writes a piece of code. -/
def run (b : Builder) : Code → Builder
  | .line text => b.line text
  | .raw text => b.raw text
  | .blank => b.blank
  | .block opening closing body => (((b.line opening).deepen.runAll body).lift).line closing
  | .indented body => (b.deepen.runAll body).lift

/-- Writes pieces of code one after the other. -/
def runAll (b : Builder) : List Code → Builder
  | [] => b
  | piece :: rest => (b.run piece).runAll rest

end

end Builder

open Builder (start push deepen lift)

/-! ## What it writes -/

/-- A builder with more text. -/
def Wrote (b after : Builder) (text : List Char) : Prop :=
  after.text = b.text ++ text ∧ after.depth = b.depth

theorem Wrote.trans (first : Wrote b middle front) (second : Wrote middle after back) :
    Wrote b after (front ++ back) := by
  refine ⟨?_, second.2.trans first.2⟩
  rw [second.1, first.1, List.append_assoc]

theorem wrote_push (b : Builder) (line : List Char) :
    Wrote b (b.push line) (indent b.depth line ++ ['\n']) := by
  have spaces : (List.replicate b.depth (List.replicate 2 ' ')).flatten =
      List.replicate (2 * b.depth) ' ' := by
    rw [List.flatten_replicate_replicate, Nat.mul_comm]
  refine ⟨?_, rfl⟩
  rw [indent, ← spaces, ← List.append_assoc]
  rfl

theorem wrote_pushes (b : Builder) (texts : List (List Char)) :
    Wrote b (texts.foldl push b) ((texts.map (indent b.depth)).flatMap (· ++ ['\n'])) := by
  induction texts generalizing b with
  | nil => exact ⟨(List.append_nil _).symm, rfl⟩
  | cons line rest ih => exact (wrote_push b line).trans (ih (b.push line))

theorem wrote_line (b : Builder) (text : String) :
    Wrote b (b.line text) (Code.indentLines b.depth text) := by
  rw [indent_lines_eq]
  exact wrote_pushes b (lines text.toList)

theorem wrote_raw (b : Builder) (text : String) :
    Wrote b (b.raw text) (Code.rawText b.text.isEmpty text.toList) := by
  unfold Builder.raw Code.rawText
  cases ends : text.toList.getLast? with
  | none =>
    have empty : text.toList = [] := List.getLast?_eq_none_iff.mp ends
    cases shape : b.text.getLast? with
    | none =>
      have fresh : b.text = [] := List.getLast?_eq_none_iff.mp shape
      simp [Wrote, empty, fresh]
    | some c =>
      have last : c = '\n' := b.whole c shape
      have begun : b.text ≠ [] := by
        intro fresh
        rw [fresh] at shape
        cases shape
      simp [Wrote, empty, shape, last, begun]
  | some c =>
    by_cases ended : c = '\n' <;> simp [Wrote, List.getLast?_append, ends, ended]

/-- Going in and out again changes no depth. -/
theorem wrote_inside (wrote : Wrote b.deepen after text) : Wrote b after.lift text := by
  obtain ⟨text, depth⟩ := wrote
  refine ⟨text, ?_⟩
  rw [lift, depth]
  rfl

theorem indent_lines_ne_nil (depth : Nat) (text : String) : Code.indentLines depth text ≠ [] := by
  obtain ⟨line, rest, shape⟩ := List.exists_cons_of_ne_nil
    (Text.pieces_ne_nil (fun c => c = '\n') text.toList)
  rw [indent_lines_eq, lines, shape]
  simp

mutual

theorem wrote_run (b : Builder) (piece : Code) :
    Wrote b (b.run piece) (Code.write b.depth b.text.isEmpty piece) := by
  cases piece with
  | line text => exact wrote_line b text
  | raw text => exact wrote_raw b text
  | blank => exact ⟨rfl, rfl⟩
  | block opening closing body =>
    have opened := wrote_line b opening
    have begun : (b.line opening).text.isEmpty = false := by
      rw [opened.1]
      simp [indent_lines_ne_nil]
    have inner : Wrote (b.line opening) ((b.line opening).deepen.runAll body).lift
        (Code.writeAll ((b.line opening).depth + 1) (b.line opening).text.isEmpty body) :=
      wrote_inside (wrote_run_all (b.line opening).deepen body)
    have closed := wrote_line ((b.line opening).deepen.runAll body).lift closing
    rw [inner.2, opened.2] at closed
    rw [opened.2, begun] at inner
    exact (opened.trans inner).trans closed
  | indented body => exact wrote_inside (wrote_run_all b.deepen body)

/-- A builder writes the text of the tree, at its own depth, and comes back to that depth. -/
theorem wrote_run_all (b : Builder) (pieces : List Code) :
    Wrote b (b.runAll pieces) (Code.writeAll b.depth b.text.isEmpty pieces) := by
  cases pieces with
  | nil => exact ⟨(List.append_nil _).symm, rfl⟩
  | cons piece rest =>
    have first := wrote_run b piece
    have later := wrote_run_all (b.run piece) rest
    have begun (more : List Char) :
        (b.text ++ more).isEmpty = (b.text.isEmpty && more.isEmpty) := by
      cases b.text <;> rfl
    rw [first.2, first.1, begun] at later
    exact first.trans later

end

theorem render_eq_run (depth : Nat) (pieces : List Code) :
    (Code.render depth pieces).toList = ((start depth).runAll pieces).text := by
  rw [(wrote_run_all (start depth) pieces).1, Code.render, String.toList_ofList]
  rfl

/-! ## Deeper -/

theorem indent_indent (outer inner : Nat) (line : List Char) :
    indent outer (indent inner line) = indent (outer + inner) line := by
  by_cases empty : line = []
  · simp [indent, empty]
  · simp only [indent, empty, ↓reduceIte, List.append_eq_nil_iff, and_false, Nat.mul_add,
      List.replicate_add, List.append_assoc]

mutual

theorem code_lines_deeper (outer inner : Nat) (piece : Code) :
    codeLines (outer + inner) piece = (codeLines inner piece).map (indent outer) := by
  have own (text : String) : (lines text.toList).map (indent (outer + inner)) =
      ((lines text.toList).map (indent inner)).map (indent outer) := by
    rw [List.map_map]
    exact List.map_congr_left fun line _ => (indent_indent outer inner line).symm
  cases piece with
  | line text => exact own text
  | raw text => rfl
  | blank => rfl
  | block opening closing body =>
    rw [codeLines, codeLines, own, own, Nat.add_assoc, all_lines_deeper outer (inner + 1) body,
      List.map_append, List.map_append]
  | indented body => exact all_lines_deeper outer (inner + 1) body

/-- Each line of a tree stands as much further in as the tree does. -/
theorem all_lines_deeper (outer inner : Nat) (pieces : List Code) :
    allLines (outer + inner) pieces = (allLines inner pieces).map (indent outer) := by
  cases pieces with
  | nil => rfl
  | cons piece rest =>
    rw [allLines, allLines, code_lines_deeper outer inner piece, all_lines_deeper outer inner rest,
      List.map_append]

end

/-- A text with each of its lines further in. -/
def reindent (depth : Nat) (text : List Char) : List Char :=
  Text.join ['\n'] ((lines text).map (indent depth))

/-- A text without the line end that it ends with. -/
def withoutLineEnd (text : String) : String :=
  if text.toList.getLast? = some '\n' then String.ofList text.toList.dropLast else text

theorem join_ended (texts : List (List Char)) :
    Text.join ['\n'] (texts ++ [[]]) = texts.flatMap (· ++ ['\n']) := by
  induction texts with
  | nil => rfl
  | cons line rest ih =>
    rw [List.cons_append, Text.join, ih, List.flatMap_cons]
    exact fun empty => List.append_ne_nil_of_right_ne_nil rest (List.cons_ne_nil [] []) empty

theorem lines_written (pieces : List Code) :
    lines ((allLines 0 pieces).flatMap (· ++ ['\n'])) = allLines 0 pieces ++ [[]] := by
  have unbroken : ∀ line ∈ allLines 0 pieces, '\n' ∉ line := fun line => all_lines_unbroken
  have written := lines_flat_map unbroken []
  rwa [List.append_nil] at written

theorem reindent_written (depth : Nat) (pieces : List Code) :
    reindent depth ((allLines 0 pieces).flatMap (· ++ ['\n'])) =
      (allLines depth pieces).flatMap (· ++ ['\n']) := by
  have deeper := all_lines_deeper depth 0 pieces
  rw [Nat.add_zero] at deeper
  rw [reindent, lines_written, List.map_append, ← deeper]
  exact join_ended _

/-- Source without its last line end has the lines of the source. -/
theorem lines_without_end (ended : (allLines 0 pieces).flatMap (· ++ ['\n']) = text ++ ['\n']) :
    lines text = allLines 0 pieces := by
  have written := lines_written pieces
  rw [ended, lines, Text.pieces_append_cons (by simp)] at written
  exact List.append_cancel_right written

theorem without_line_end (ends : ∀ c ∈ text.toList.getLast?, c = '\n') (nonempty : text ≠ "") :
    text.toList = (withoutLineEnd text).toList ++ ['\n'] := by
  have filled : text.toList ≠ [] := fun empty => nonempty (String.toList_eq_nil_iff.mp empty)
  have last := ends _ (List.getLast?_eq_getLast_of_ne_nil filled)
  have shape := List.dropLast_concat_getLast filled
  rw [last] at shape
  rw [withoutLineEnd, ← shape]
  simp

/-! ## Source in other source -/

theorem wrote_generated (generated : allGenerated pieces = true) (builder : Builder) :
    Wrote builder (builder.runAll pieces)
      ((allLines builder.depth pieces).flatMap (· ++ ['\n'])) := by
  have wrote := wrote_run_all builder pieces
  rwa [write_all_eq generated] at wrote

/-- A text that has the lines of a tree is written as the tree is. -/
theorem line_in_place (generated : allGenerated pieces = true)
    (same : lines text.toList = allLines 0 pieces) (builder : Builder) :
    builder.line text = builder.runAll pieces := by
  have line := wrote_line builder text
  have tree := wrote_generated generated builder
  rw [indent_lines_eq, same, ← all_lines_deeper, Nat.add_zero] at line
  exact Builder.ext (line.1.trans tree.1.symm) (line.2.trans tree.2.symm)

/-- For every tree of generated code, a builder that starts at any depth writes what it writes
at the top with every line but the empty ones behind two more spaces a level. A builder comes
back to the depth that it had, whatever it has written before; and if the tree writes anything,
then its source from the top, without the last line end and taken as one text, is written
exactly as the tree itself is. So is every snippet for some mappings. -/
theorem tree_reindents (generated : allGenerated pieces = true) :
    (∀ depth, ((start depth).runAll pieces).text = (Code.render depth pieces).toList ∧
      (Code.render depth pieces).toList = reindent depth (Code.render 0 pieces).toList) ∧
    ∀ builder : Builder,
      (builder.runAll pieces).depth = builder.depth ∧
      (builder.runAll pieces).text =
        builder.text ++ reindent builder.depth (Code.render 0 pieces).toList ∧
      (Code.render 0 pieces ≠ "" →
        builder.line (withoutLineEnd (Code.render 0 pieces)) = builder.runAll pieces) ∧
      ∀ style template locale mappings, mappings ≠ [] →
        builder.line (Reply.snippet style template locale mappings) =
          builder.runAll (Reply.Snippet.code style template locale mappings) := by
  have rendered (depth : Nat) :
      (Code.render depth pieces).toList = (allLines depth pieces).flatMap (· ++ ['\n']) := by
    rw [Code.render, String.toList_ofList, write_all_eq generated]
  refine ⟨fun depth => ⟨(render_eq_run depth pieces).symm, ?_⟩, fun builder => ?_⟩
  · rw [rendered, rendered, reindent_written]
  · obtain ⟨text, depth⟩ := wrote_generated generated builder
    refine ⟨depth, ?_, fun nonempty => ?_, fun style template locale mappings mapped => ?_⟩
    · rw [text, rendered, reindent_written]
    · have whole := ((start 0).runAll pieces).whole
      rw [← render_eq_run] at whole
      have ended := without_line_end whole nonempty
      rw [rendered] at ended
      exact line_in_place generated (lines_without_end ended) builder
    · exact line_in_place (code_generated style template locale mappings)
        (lines_snippet mapped style template locale) builder

/-- Blocks in blocks, texts of several lines, and lines without text. -/
def nestedSample : List Code :=
  [.block "if (x) \x7b" "\x7d" [.line "a();\n\nb();", .blank, .indented [.line "c();\n"]],
    .line ""]

theorem nested_sample_reindents :
    let builder := (start 1).line "before"
    allGenerated nestedSample = true ∧ Code.render 0 nestedSample ≠ "" ∧
      builder.line (withoutLineEnd (Code.render 0 nestedSample)) = builder.runAll nestedSample ∧
      String.ofList (builder.runAll nestedSample).text =
        "  before\n  if (x) \x7b\n    a();\n\n    b();\n\n      c();\n\n  \x7d\n\n" := by
  intro builder
  have generated : allGenerated nestedSample = true := by decide
  have nonempty : Code.render 0 nestedSample ≠ "" := by decide
  obtain ⟨_, inside⟩ := tree_reindents generated
  obtain ⟨_, text, embedded, _⟩ := inside builder
  refine ⟨generated, nonempty, embedded nonempty, ?_⟩
  rw [text]
  decide

/-- A tree that writes nothing has no last line end to go without: taken as one text, its
source is an empty line. -/
theorem empty_body_gains_line :
    let pieces : List Code := [.indented []]
    allGenerated pieces = true ∧ ((start 1).runAll pieces).text = [] ∧
      ((start 1).line (withoutLineEnd (Code.render 0 pieces))).text = ['\n'] := by
  decide

end Botwright.Reindentation
