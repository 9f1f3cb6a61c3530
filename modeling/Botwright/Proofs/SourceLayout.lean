import Botwright.Proofs.SourceScan
import Botwright.Script.Code

/-! Laying out does not change how source reads. Indentation stands only where
a space means nothing, so a tree of code can be scanned by its texts, and what
is cut from its end was white space outside every literal. -/
namespace Botwright.SourceLayout
open Script SourceScan

theorem scan_spaces (calm : step state ' ' = some state) :
    scan state (List.replicate count ' ') = some state := by
  induction count with
  | zero => rfl
  | succ count ih => rw [List.replicate_succ, scan_cons, calm]; exact ih

theorem scan_indent_line (calm : step state ' ' = some state) :
    scan state (Code.indentLine depth text) = scan state (text ++ ['\n']) := by
  unfold Code.indentLine
  split
  · next empty => rw [empty]; rfl
  · rw [List.append_assoc, scan_append, scan_spaces calm]; rfl

theorem scan_pieces (calm : step state ' ' = some state) (nonempty : pieces ≠ []) :
    scan state (pieces.flatMap (Code.indentLine depth)) =
      scan state (Text.join ['\n'] pieces ++ ['\n']) := by
  induction pieces generalizing state with
  | nil => exact absurd rfl nonempty
  | cons piece more ih =>
    cases more with
    | nil => simpa [Text.join] using scan_indent_line calm
    | cons second rest =>
      have joined : Text.join ['\n'] (piece :: second :: rest) ++ ['\n'] =
          (piece ++ ['\n']) ++ (Text.join ['\n'] (second :: rest) ++ ['\n']) := by
        simp [Text.join]
      rw [List.flatMap_cons, joined, scan_append, scan_append, scan_indent_line calm]
      cases reached : scan state (piece ++ ['\n']) with
      | none => rfl
      | some next =>
        rw [scan_append] at reached
        obtain ⟨middle, _, stepped⟩ := Option.bind_eq_some_iff.mp reached
        obtain ⟨_, stepped, same⟩ := Option.bind_eq_some_iff.mp stepped
        cases same
        exact ih (calm_after_line_end stepped) (by simp)

/-- An indented text reads like the text with a line end behind it. -/
theorem scan_indent_lines (calm : step state ' ' = some state) :
    scan state (Code.indentLines depth text) = scan state (text.toList ++ ['\n']) := by
  rw [Code.indentLines, scan_pieces calm (Text.pieces_ne_nil _ _), Text.join_pieces]

/-! ## Trees of code -/

/-- Wherever pieces of code are written, they take one nest of open brackets to
another and are outside every comment and literal at both ends. -/
def Stands (before : List Bracket) (pieces : List Code) (after : List Bracket) : Prop :=
  ∀ depth first, scan (inside before) (Code.writeAll depth first pieces) = some (inside after)

theorem write_all_append (depth : Nat) (first : Bool) (front back : List Code) :
    Code.writeAll depth first (front ++ back) =
      Code.writeAll depth first front ++
        Code.writeAll depth (first && (Code.writeAll depth first front).isEmpty) back := by
  induction front generalizing first with
  | nil => simp [Code.writeAll]
  | cons piece rest ih =>
    have empty (front back : List Char) :
        (front ++ back).isEmpty = (front.isEmpty && back.isEmpty) := by
      cases front <;> simp
    simp [Code.writeAll, ih, Bool.and_assoc, empty]

theorem stands_nil : Stands opened [] opened := by
  intro depth first
  simp [Code.writeAll]

theorem Stands.append (leading : Stands before front between)
    (trailing : Stands between back after) : Stands before (front ++ back) after := by
  intro depth first
  rw [write_all_append, scan_append, leading]
  exact trailing depth _

theorem Stands.cons (leading : Stands before [piece] between)
    (trailing : Stands between rest after) : Stands before (piece :: rest) after :=
  Stands.append leading trailing

theorem Stands.within (stands : Stands before pieces after) (outer : List Bracket) :
    Stands (before ++ outer) pieces (after ++ outer) :=
  fun depth first => scan_within outer (stands depth first)

theorem stands_flat_map {entries : List α} {expand : α → List Code}
    (each : ∀ entry ∈ entries, Stands opened (expand entry) opened) :
    Stands opened (entries.flatMap expand) opened := by
  induction entries with
  | nil => exact stands_nil
  | cons entry rest ih =>
    exact (each entry (by simp)).append (ih fun other member => each other (by simp [member]))

theorem stands_map {entries : List α} {write : α → Code}
    (each : ∀ entry ∈ entries, Stands opened [write entry] opened) :
    Stands opened (entries.map write) opened := by
  rw [List.map_eq_flatMap]
  exact stands_flat_map each

/-- A line stands if its text and the line end behind it do. -/
theorem stands_line (run : scan (inside before) (text.toList ++ ['\n']) = some (inside after)) :
    Stands before [.line text] after := by
  intro depth first
  simp only [Code.writeAll, Code.write, List.append_nil]
  rw [scan_indent_lines rfl, run]

theorem stands_statement (leads : Leads (inside before) text (inside after)) :
    Stands before [.line text] after := by
  apply stands_line
  rw [scan_append, leads]
  rfl

theorem stands_quiet (quiet : Quiet text) : Stands opened [.line text] opened :=
  stands_statement (quiet.anywhere opened)

theorem stands_comment (leads : Leads start text ⟨.lineComment, []⟩) :
    Stands [] [.line text] [] := by
  apply stands_line
  rw [scan_append, show scan (inside []) text.toList = _ from leads]
  rfl

theorem stands_blank : Stands opened [.blank] opened := by
  intro depth first
  simp only [Code.writeAll, Code.write]
  rfl

theorem stands_block (entered left : List Bracket)
    (opening : Leads (inside before) front (inside entered)) (body : Stands entered pieces left)
    (closing : Leads (inside left) back (inside after)) :
    Stands before [.block front back pieces] after := by
  intro depth first
  simp only [Code.writeAll, Code.write, List.append_nil]
  have entering := stands_statement opening depth first
  have leaving := stands_statement closing depth first
  simp only [Code.writeAll, Code.write, List.append_nil] at entering leaving
  rw [scan_append, scan_append, entering, Option.bind_some, body]
  exact leaving

/-- A body that closes what it opens, between the lines of a block that does. -/
theorem stands_enclosed (opened : List Bracket) (opening : Leads start front (inside opened))
    (body : Stands [] pieces []) (closing : Leads (inside opened) back start) :
    Stands [] [.block front back pieces] [] :=
  stands_block opened opened opening (body.within opened) closing

theorem stands_indented (body : Stands before pieces after) :
    Stands before [.indented pieces] after := by
  intro depth first
  simp only [Code.writeAll, Code.write, List.append_nil]
  exact body _ _

/-! ## The outermost level -/

/-- Without indentation a text only gets a line end. -/
theorem indent_lines_top (text : String) : Code.indentLines 0 text = text.toList ++ ['\n'] := by
  have join (pieces : List (List Char)) (nonempty : pieces ≠ []) :
      pieces.flatMap (Code.indentLine 0) = Text.join ['\n'] pieces ++ ['\n'] := by
    induction pieces with
    | nil => exact absurd rfl nonempty
    | cons piece more ih =>
      have first : Code.indentLine 0 piece = piece ++ ['\n'] := by
        unfold Code.indentLine
        split
        · next empty => rw [empty]; rfl
        · rfl
      cases more with
      | nil => simp [Text.join, first]
      | cons second rest => simp [List.flatMap_cons, Text.join, first, ← ih (by simp)]
  rw [Code.indentLines, join _ (Text.pieces_ne_nil _ _), Text.join_pieces]

theorem write_all_line (text : String) (first : Bool) :
    Code.writeAll 0 first [.line text] = text.toList ++ ['\n'] := by
  simp only [Code.writeAll, Code.write, List.append_nil, indent_lines_top]

theorem write_all_lines (entries : List α) (text : α → String) (first : Bool) :
    Code.writeAll 0 first (entries.map fun entry => .line (text entry)) =
      entries.flatMap fun entry => (text entry).toList ++ ['\n'] := by
  induction entries generalizing first with
  | nil => rfl
  | cons entry rest ih =>
    simp only [List.map_cons, Code.writeAll, Code.write, indent_lines_top, ih, List.flatMap_cons]

/-- A text without line ends is one line. -/
theorem indent_lines_single (single : text.toList.all (· ≠ '\n') = true)
    (nonempty : text.toList ≠ []) (depth : Nat) :
    Code.indentLines depth text = List.replicate (2 * depth) ' ' ++ text.toList ++ ['\n'] := by
  have whole (s : List Char) (single : s.all (· ≠ '\n') = true) :
      Text.pieces (· = '\n') s = [s] := by
    induction s with
    | nil => rfl
    | cons c rest ih =>
      simp only [List.all_cons, Bool.and_eq_true, decide_eq_true_eq] at single
      simp [Text.pieces, ih single.2, single.1]
  rw [Code.indentLines, whole _ single, List.flatMap_singleton, Code.indentLine, if_neg nonempty]

/-! ## The end of a text -/

/-- Of a line that ends in something dark, only the line end is cut off. -/
theorem trim_end_line (last : text.getLast? = some c) (dark : Text.isBlank c = false) :
    Text.trimEnd (text ++ ['\n']) = text := by
  have feed : Text.isBlank '\n' = true := by decide
  obtain ⟨front, rfl⟩ := List.getLast?_eq_some_iff.mp last
  simp [Text.trimEnd, Text.dropEndWhile, dark, feed]

theorem trim_end_append (text : List Char) :
    ∃ blanks, text = Text.trimEnd text ++ blanks ∧ ∀ c ∈ blanks, Text.isBlank c = true := by
  refine ⟨(text.reverse.takeWhile Text.isBlank).reverse, ?_, ?_⟩
  · rw [Text.trimEnd, Text.dropEndWhile, ← List.reverse_append, List.takeWhile_append_dropWhile,
      List.reverse_reverse]
  · intro c member
    exact List.all_eq_true.mp List.all_takeWhile c (List.mem_reverse.mp member)

/-- Source without its trailing white space stands as a line of other source. -/
theorem stands_trimmed (stands : Stands before pieces after) :
    Stands before [.line (String.ofList (Text.trimEnd (Code.render depth pieces).toList))]
      after := by
  have run := stands depth true
  obtain ⟨blanks, parts, blank⟩ := trim_end_append (Code.writeAll depth true pieces)
  rw [parts, scan_append] at run
  obtain ⟨⟨mode, opened⟩, reached, rest⟩ := Option.bind_eq_some_iff.mp run
  obtain ⟨settled, same⟩ := settled_before_blanks blank rest (.inl rfl)
  cases same
  apply stands_line
  rw [Code.render, String.toList_ofList, String.toList_ofList, scan_append, reached]
  exact (scan_cons ..).trans (by rw [step_settled settled]; rfl)

end Botwright.SourceLayout
