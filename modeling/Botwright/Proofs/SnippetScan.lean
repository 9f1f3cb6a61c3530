import Botwright.Proofs.SourceLayout
import Botwright.Proofs.TemplateScan
import Botwright.Reply.Snippet

/-! The code that shapes a response. Its locals are names handed out by a scope,
its holes hold nothing but those names, and labels and formats stand in literals. -/
namespace Botwright.SnippetScan
open Script Reply Reply.Snippet SourceScan SourceLayout LiteralScan TemplateScan

/-! ## Locals -/

theorem quiet_declare_from (quiet : ∀ declaration ∈ declared, Quiet declaration.binding) :
    ∀ declaration ∈ declareFrom declared scope mappings, Quiet declaration.binding := by
  induction mappings generalizing declared scope with
  | nil => exact quiet
  | cons mapping rest ih =>
    rw [declareFrom]
    split
    · exact ih quiet
    · apply ih
      intro declaration member
      rcases List.mem_append.mp member with old | new
      · exact quiet declaration old
      · have chosen := quiet_choose scope (fieldName mapping.path)
        simpa only [List.mem_singleton.mp new] using chosen

theorem quiet_binding_of (found : bindingOf? (declarations mappings) path = some binding) :
    Quiet binding := by
  obtain ⟨declaration, located, rfl⟩ := Option.map_eq_some_iff.mp found
  have member := List.mem_of_find?_eq_some located
  exact quiet_declare_from (by simp) declaration member

theorem stands_declaration (member : declaration ∈ declarations mappings) (style : SnippetStyle) :
    Stands [] [declarationLine style declaration] [] := by
  have binding : Quiet declaration.binding := quiet_declare_from (by simp) declaration member
  have object : Quiet "data" := leads_fixed rfl
  have value := quiet_access object declaration.path (style = .guarded)
  exact stands_quiet (((((leads_fixed rfl).insert binding).fixed rfl).insert value).fixed rfl)

/-! ## Items -/

/-- An item whose value is a local and whose parts may be written in a template. -/
structure Writable (entry : Item) : Prop where
  binding : Quiet entry.binding
  parts : Fits entry.parts

theorem quiet_fill_format (own : Quiet binding)
    (filled : fillFormat (declarations mappings) binding group = some expression) :
    Quiet expression := by
  unfold fillFormat at filled
  split at filled
  · cases filled
    exact own
  · exact quiet_binding_of filled

theorem writable_item (mapping : Mapping) :
    Writable (item .guarded (declarations mappings) mapping) := by
  have own : Quiet ((bindingOf? (declarations mappings) mapping.path).getD "") := by
    cases found : bindingOf? (declarations mappings) mapping.path with
    | none => exact leads_empty
    | some binding => exact quiet_binding_of found
  exact ⟨own, fits_split (fun _ _ filled => quiet_fill_format own filled) _⟩

theorem quiet_guard (writable : Writable entry) (guarded : guard? entry = some condition) :
    Quiet condition := by
  unfold guard? at guarded
  split at guarded
  · cases guarded
  · cases guarded
    apply quiet_intercalate (leads_fixed rfl)
    intro text member
    obtain ⟨binding, held, rfl⟩ := List.mem_map.mp member
    exact Leads.fixed (quiet_expression writable.parts held) rfl

theorem stands_guarded (writable : Writable entry) (quiet : Quiet statement) :
    Stands [] [guardedStatement entry statement] [] := by
  unfold guardedStatement
  split
  · next condition guarded =>
    apply stands_quiet
    exact (((leads_fixed rfl).insert (quiet_guard writable guarded)).fixed rfl).insert quiet
  · exact stands_quiet quiet

theorem templated_labelled (writable : Writable entry) (template : Template) :
    Templated (labelled template entry) := by
  have label := templated_text entry.label
  have parts := templated_parts writable.parts
  unfold labelled
  split
  · exact (label.behind (leads_fixed rfl)).append (leads_in_template rfl rfl) parts
  · exact label.append (leads_in_template rfl rfl) parts

/-! ## Replies -/

theorem stands_return_block (body : Stands [] pieces []) : Stands [] [returnBlock pieces] [] :=
  stands_enclosed [.curly] (leads_fixed rfl) body (leads_fixed rfl)

theorem stands_embed_head : Stands [] embedHead [] :=
  Stands.cons (stands_quiet (leads_fixed rfl)) (stands_quiet (leads_fixed rfl))

theorem stands_embed_tail : Stands [] embedTail [] := stands_quiet (leads_fixed rfl)

theorem stands_json_return : Stands [] jsonReturn [] :=
  stands_blank.cons (stands_return_block (stands_quiet (leads_fixed rfl)))

theorem leads_separator (template : Template) (opened : List Bracket) :
    Leads ⟨.literal .single, opened⟩ (separator template) ⟨.literal .single, opened⟩ := by
  cases template <;> exact leads_fixed rfl

section Items
variable {entries : List Item} (writable : ∀ entry ∈ entries, Writable entry)
include writable

theorem stands_guarded_text (template : Template) (noData : String) :
    Stands [] (guardedText template noData entries) [] := by
  have head : Stands [] [.blank, .line "const parts = [];"] [] :=
    stands_blank.cons (stands_quiet (leads_fixed rfl))
  have content : Quiet ("content: parts.length > 0 ? parts.join('" ++ separator template ++
      "') : " ++ stringLiteral noData) :=
    (((leads_fixed rfl).append (leads_separator template [.round])).fixed rfl).insert
      (quiet_string_literal noData)
  have closing := stands_blank.cons (stands_return_block (stands_quiet content))
  refine (head.append (stands_map ?_)).append closing
  intro entry held
  apply stands_guarded (writable entry held)
  have text := templated_labelled (writable entry held) template
  exact text.quiet [.round] (leads_fixed rfl) (leads_in_template rfl rfl)

theorem stands_guarded_embed : Stands [] (guardedEmbed entries) [] := by
  have head : Stands [] [.blank, .line "const fields = [];"] [] :=
    stands_blank.cons (stands_quiet (leads_fixed rfl))
  have list : Stands [] [.line "fields,"] [] := stands_quiet (leads_fixed rfl)
  have embeds : Stands [] [.block "embeds: [\x7b" "\x7d]"
      (embedHead ++ [.line "fields,"] ++ embedTail)] [] :=
    stands_enclosed [.curly, .square] (leads_fixed rfl)
      ((stands_embed_head.append list).append stands_embed_tail) (leads_fixed rfl)
  have closing := stands_blank.cons (stands_return_block embeds)
  refine (head.append (stands_map ?_)).append closing
  intro entry held
  apply stands_guarded (writable entry held)
  have label : Quiet (labelLiteral entry.label) := quiet_quote entry.label.toList
  have value := templated_parts (writable entry held).parts
  exact value.quiet [.curly, .round] (((leads_fixed rfl).insert label).fixed rfl)
    (leads_in_template rfl rfl)

theorem stands_guarded_json : Stands [] (guardedJson entries) [] := by
  have head : Stands [] [.blank, .line "const selectedData = \x7b\x7d;"] [] :=
    stands_blank.cons (stands_quiet (leads_fixed rfl))
  refine (head.append (stands_map ?_)).append stands_json_return
  intro entry held
  have binding := (writable entry held).binding
  have label : Quiet (labelLiteral entry.label) := quiet_quote entry.label.toList
  apply stands_quiet
  exact ((((((leads_fixed rfl).insert binding).fixed rfl).insert label).fixed rfl).insert
    binding).fixed rfl

/-- The part of a bot's snippet behind the locals. -/
theorem stands_reply (template : Template) (locale : Locale) :
    Stands [] (reply .guarded template locale entries) [] := by
  cases template with
  | embed => exact stands_guarded_embed writable
  | jsonFormatted => exact stands_guarded_json writable
  | simpleText | multiLine => exact stands_guarded_text writable _ _

end Items

/-! ## Whole snippets -/

theorem stands_code (template : Template) (locale : Locale) (mappings : List Mapping) :
    Stands [] (code .guarded template locale mappings) [] := by
  have data : Stands [] [.line dataLine] [] := stands_quiet (leads_fixed rfl)
  have locals := stands_map fun declaration (held : declaration ∈ declarations mappings) =>
    stands_declaration held .guarded
  refine (data.append locals).append (stands_reply ?_ template locale)
  intro entry member
  obtain ⟨mapping, _, rfl⟩ := List.mem_map.mp member
  exact writable_item mapping

theorem quiet_whole_response : Quiet ("\n".intercalate wholeResponse) := by
  simp only [wholeResponse, dataLine, String.intercalate_cons_cons, String.intercalate_singleton]
  exact ((leads_fixed rfl).fixed rfl).append (((leads_fixed rfl).fixed rfl).append
    (((leads_fixed rfl).fixed rfl).append (((leads_fixed rfl).fixed rfl).fixed rfl)))

/-- A bot's snippet is quiet code for any mappings, whatever their paths, labels
and formats say. -/
theorem stands_snippet (template : Template) (locale : Locale) (mappings : List Mapping) :
    Stands [] [.line (snippet .guarded template locale mappings)] [] := by
  unfold snippet
  split
  · exact stands_quiet quiet_whole_response
  · exact stands_trimmed (stands_code template locale mappings)

end Botwright.SnippetScan
