import Botwright.Proofs.TemplateReading

/-! How a text is split into the parts of a template. Of what fills placeholders only
the placeholders of the text matter, each of them shows in the template, and brace
groups are found alike in a text and in front of another group. -/
namespace Botwright.TemplateSplit
open Script TemplateReading

variable {α : Type} {recognise : List Char → Option (α × Nat)} {fill other : α → Option String}

/-- What is recognised in a text, from left to right without rescanning. -/
def found (recognise : List Char → Option (α × Nat)) : List Char → List α
  | [] => []
  | c :: rest =>
    match recognise (c :: rest) with
    | none => found recognise rest
    | some (placeholder, more) => placeholder :: found recognise (rest.drop more)
termination_by s => s.length
decreasing_by all_goals simp only [List.length_cons, List.length_drop]; omega

/-- What is recognised stands in the text. -/
theorem infix_of_found (begins : ∀ s more, recognise s = some (placeholder, more) → written <+: s)
    (held : placeholder ∈ found recognise text) : written <:+: text := by
  fun_induction found recognise text with
  | case1 => cases held
  | case2 c rest _ ih => exact (ih held).trans (List.suffix_cons c rest).isInfix
  | case3 c rest first more recognised ih =>
    rcases List.mem_cons.mp held with rfl | later
    · exact (begins _ _ recognised).isInfix
    · exact (ih later).trans
        ((List.drop_suffix more rest).isInfix.trans (List.suffix_cons c rest).isInfix)

/-- What fills the placeholders of a text is all that matters. -/
theorem split_congr (agree : ∀ placeholder ∈ found recognise text,
    fill placeholder = other placeholder) :
    Part.split recognise fill text = Part.split recognise other text := by
  fun_induction found recognise text with
  | case1 => rw [Part.split, Part.split]
  | case2 c rest none ih => rw [Part.split, Part.split, none]; simp only [ih agree]
  | case3 c rest placeholder more some ih =>
    rw [List.forall_mem_cons] at agree
    rw [Part.split, Part.split, some]
    simp only [agree.1, ih agree.2]

/-- A template shows what fills each placeholder. -/
theorem fill_of_marks (same : (Part.split recognise fill text).flatMap marksOf =
      (Part.split recognise other text).flatMap marksOf) :
    ∀ placeholder ∈ found recognise text, fill placeholder = other placeholder := by
  fun_induction found recognise text with
  | case1 => simp
  | case2 c rest none ih =>
    rw [Part.split, Part.split, none] at same
    simp only [marks_add_text, List.append_cancel_left_eq] at same
    exact ih same
  | case3 c rest placeholder more some ih =>
    rw [Part.split, Part.split, some] at same
    rw [List.forall_mem_cons]
    cases filled : fill placeholder <;> cases others : other placeholder <;>
      simp only [filled, others, marks_add_text, List.flatMap_cons, marksOf, List.map_cons,
        List.cons_append, List.nil_append, List.cons.injEq, reduceCtorEq, false_and, true_and,
        List.append_cancel_left_eq, Mark.hole.injEq, String.toList_inj] at same
    · exact ⟨rfl, ih same⟩
    · exact ⟨congrArg _ same.1, ih same.2⟩

/-! ## Brace groups -/

theorem prefix_of_group {inner : List Char} (group : braceGroup? s = some (inner, more)) :
    '{' :: (inner ++ ['}']) <+: s := by
  obtain ⟨rest, rfl, -⟩ := brace_group_eq_some group
  exact ⟨rest, by simp⟩

/-- A text that begins no character of a brace group before it. -/
def Opens (behind : List Char) : Prop := ∀ c ∈ behind.head?, c = '{'

/-- No brace group reaches from one text into one that opens its own. -/
theorem brace_group_append (opens : Opens behind) (c : Char) (rest : List Char) :
    braceGroup? (c :: (rest ++ behind)) = braceGroup? (c :: rest) := by
  cases here : braceGroup? (c :: rest) with
  | some group =>
    obtain ⟨inner, more⟩ := group
    obtain ⟨back, shape, same, plain⟩ := brace_group_eq_some here
    have whole : c :: (rest ++ behind) = '{' :: (inner ++ '}' :: (back ++ behind)) := by
      rw [← List.cons_append, shape]
      simp
    rw [whole, brace_group_plain plain, ← same]
  | none =>
    cases there : braceGroup? (c :: (rest ++ behind)) with
    | none => rfl
    | some group =>
      obtain ⟨inner, more⟩ := group
      obtain ⟨back, shape, -, plain⟩ := brace_group_eq_some there
      obtain ⟨rfl, tail⟩ := List.cons.inj shape
      -- The brace that closes the group stands behind the border or in front of it.
      rcases List.append_eq_append_iff.mp tail with
        ⟨middle, inside, outside⟩ | ⟨middle, inside, outside⟩
      · cases middle with
        | nil => exact absurd (opens '}' (by rw [outside]; rfl)) (by decide)
        | cons d middle =>
          have first := opens d (by rw [outside]; rfl)
          have calm := plain d (by rw [inside]; simp)
          rw [first] at calm
          exact absurd calm (by decide)
      · cases middle with
        | nil =>
          have first : behind.head? = some '}' := by
            rw [← List.nil_append behind, ← outside]
            rfl
          exact absurd (opens '}' first) (by decide)
        | cons d middle =>
          obtain ⟨rfl, -⟩ := List.cons.inj outside
          rw [inside, brace_group_plain plain] at here
          cases here

theorem add_text_add_text (front back : List Char) (parts : List Part) :
    Part.addText front (Part.addText back parts) = Part.addText (front ++ back) parts := by
  cases parts with
  | nil => rfl
  | cons part rest => cases part <;> simp [Part.addText]

/-- Text whose groups are not filled goes in front of the parts of what follows. -/
theorem split_behind {fill : List Char → Option String} (opens : Opens behind)
    (unfilled : ∀ inner ∈ found braceGroup? before, fill inner = none) (nonempty : before ≠ []) :
    Part.split braceGroup? fill (before ++ behind) =
      Part.addText before (Part.split braceGroup? fill behind) := by
  fun_induction found braceGroup? before with
  | case1 => exact absurd rfl nonempty
  | case2 c rest missing ih =>
    rw [List.cons_append, Part.split, brace_group_append opens, missing]
    by_cases empty : rest = []
    · rw [empty, List.nil_append]
    · simp only [ih unfilled empty, add_text_add_text, List.singleton_append]
  | case3 c rest inner more group ih =>
    rw [List.forall_mem_cons] at unfilled
    have within : more ≤ rest.length := by
      obtain ⟨back, shape, rfl, -⟩ := brace_group_eq_some group
      simp [(List.cons.inj shape).2]
    rw [List.cons_append, Part.split, brace_group_append opens, group]
    simp only [unfilled.1, List.take_append_of_le_length within,
      List.drop_append_of_le_length within]
    -- The group is written as it stands, and the split goes on behind it.
    have parts : c :: rest.take more ++ rest.drop more = c :: rest := by simp
    by_cases empty : rest.drop more = []
    · rw [empty, List.append_nil] at parts
      rw [empty, List.nil_append, parts]
    · rw [ih unfilled.2 empty, add_text_add_text, parts]

end Botwright.TemplateSplit
