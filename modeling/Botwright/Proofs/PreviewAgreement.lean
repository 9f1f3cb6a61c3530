import Mathlib.Data.List.Infix
import Botwright.Proofs.CodeLines
import Botwright.Proofs.TemplateSplit

/-! A preview against the bot that is generated from the same mappings. The preview fills
the first placeholder of each format, the bot goes through all brace groups; where only
one placeholder of the format is filled, both write the same text for it. -/
namespace Botwright.PreviewAgreement
open Script Reply Reply.Snippet LiteralReading TemplateReading TemplateSplit SnippetLocals
  StatementReading SnippetReading CodeLines

/-! ## Formats that both styles fill alike -/

/-- The number of places in a text where another text begins. -/
def occurrences (written : List Char) : List Char → Nat
  | [] => 0
  | c :: rest => occurrences written rest + if written.isPrefixOf (c :: rest) then 1 else 0

/-- A mapping whose format has the placeholder of the mapping's own value at most once,
and no placeholder of another mapped path. -/
structure Agreeing (mappings : List Mapping) (mapping : Mapping) : Prop where
  once : occurrences Mapping.plainFormat.toList mapping.effectiveFormat.toList ≤ 1
  unmapped : ∀ other ∈ mappings, other.path ≠ "value" →
    ¬ (placeholder other.path).toList <:+: mapping.effectiveFormat.toList

instance (mappings : List Mapping) (mapping : Mapping) : Decidable (Agreeing mappings mapping) :=
  decidable_of_iff
    (occurrences Mapping.plainFormat.toList mapping.effectiveFormat.toList ≤ 1 ∧
      ∀ other ∈ mappings, other.path ≠ "value" →
        ¬ (placeholder other.path).toList <:+: mapping.effectiveFormat.toList)
    ⟨fun both => ⟨both.1, both.2⟩, fun agreeing => ⟨agreeing.once, agreeing.unmapped⟩⟩

theorem occurrences_append (written front back : List Char) :
    occurrences written front + occurrences written back ≤ occurrences written (front ++ back) := by
  induction front with
  | nil => simp [occurrences]
  | cons c rest ih =>
    have kept : written.isPrefixOf (c :: rest) = true →
        written.isPrefixOf (c :: (rest ++ back)) = true := by
      simp only [List.isPrefixOf_iff_prefix]
      exact fun held => held.trans (List.prefix_append (c :: rest) back)
    rw [List.cons_append, occurrences, occurrences]
    split_ifs <;> simp_all <;> omega

theorem occurrences_pos_iff (nonempty : written ≠ []) :
    0 < occurrences written text ↔ written <:+: text := by
  induction text with
  | nil => simp [occurrences, nonempty]
  | cons c rest ih =>
    rw [occurrences, List.infix_cons_iff, ← ih, ← List.isPrefixOf_iff_prefix]
    split_ifs with here <;> simp [here]

/-- What fills the group of a mapping's own value, and no other one. -/
def fillOwn (own : String) (inner : List Char) : Option String :=
  if inner = "value".toList then some own else none

theorem placeholder_of_found {inner : List Char} (held : inner ∈ found braceGroup? text) :
    (placeholder (String.ofList inner)).toList <:+: text := by
  simpa [placeholder] using infix_of_found (fun _ _ group => prefix_of_group group) held

theorem unfilled_of_free (free : occurrences Mapping.plainFormat.toList text = 0) (own : String) :
    ∀ inner ∈ found braceGroup? text, fillOwn own inner = none := by
  intro inner held
  refine if_neg fun itself => ?_
  have same : placeholder (String.ofList "value".toList) = Mapping.plainFormat := by decide
  have written := placeholder_of_found held
  rw [itself, same] at written
  have there := (occurrences_pos_iff (by decide)).mpr written
  omega

/-- Text whose groups are not filled is written as it stands in front of what follows. -/
theorem templates_behind {fill : List Char → Option String} (opens : Opens behind)
    (unfilled : ∀ inner ∈ found braceGroup? before, fill inner = none) :
    Part.templates (Part.split braceGroup? fill (before ++ behind)) =
      Part.templates (Part.addText before (Part.split braceGroup? fill behind)) := by
  by_cases empty : before = []
  · rw [empty, List.nil_append]
    cases parts : Part.split braceGroup? fill behind with
    | nil => rfl
    | cons part rest =>
      cases part <;> simp [Part.addText, Part.templates, Part.template, templateChars]
  · rw [split_behind opens unfilled empty]

theorem templates_free (free : occurrences Mapping.plainFormat.toList text = 0) (own : String) :
    Part.templates (Part.split braceGroup? (fillOwn own) text) =
      Part.templates [.text text] := by
  have opens : Opens [] := by simp [Opens]
  have whole := templates_behind opens (unfilled_of_free free own)
  rw [List.append_nil] at whole
  rw [whole, Part.split]
  rfl

/-- The placeholder of the own value becomes a hole. -/
theorem split_own (own : String) (after : List Char) :
    Part.split braceGroup? (fillOwn own) (Mapping.plainFormat.toList ++ after) =
      .hole Mapping.plainFormat.toList own :: Part.split braceGroup? (fillOwn own) after := by
  have opened : Mapping.plainFormat.toList ++ after = '{' :: ("value".toList ++ '}' :: after) := rfl
  have plain : ∀ c ∈ "value".toList, isBrace c = false := by simp [isBrace]
  rw [opened, Part.split, brace_group_plain plain]
  rfl

theorem templates_cons (part : Part) (parts : List Part) :
    Part.templates (part :: parts) = part.template ++ Part.templates parts := by
  rw [Part.templates, List.map_cons, String.join_cons]
  rfl

/-- Where the own placeholder stands at most once, filling the first one is filling all. -/
theorem templates_plain_parts
    (once : occurrences Mapping.plainFormat.toList format.toList ≤ 1) (own : String) :
    Part.templates (plainParts format own) =
      Part.templates (Part.split braceGroup? (fillOwn own) format.toList) := by
  unfold plainParts
  split
  · next before after cut =>
    have shape := Text.eq_append_of_cut? cut
    rw [shape] at once ⊢
    have front := occurrences_append Mapping.plainFormat.toList before
      (Mapping.plainFormat.toList ++ after)
    have back := occurrences_append Mapping.plainFormat.toList Mapping.plainFormat.toList after
    have itself : occurrences Mapping.plainFormat.toList Mapping.plainFormat.toList = 1 := by
      decide
    have opens : Opens (Mapping.plainFormat.toList ++ after) := by
      rintro c ⟨⟩
      rfl
    -- The one occurrence is the one that is cut out, so none is left on either side.
    have bare : occurrences Mapping.plainFormat.toList after = 0 := by omega
    rw [templates_behind opens (unfilled_of_free (by omega) own), split_own, Part.addText]
    · simp only [templates_cons, templates_free bare own]
    · rintro _ _ ⟨⟩
  · next missing =>
    have free : ¬ 0 < occurrences Mapping.plainFormat.toList format.toList := by
      rw [occurrences_pos_iff (by decide), ← Text.contains_iff, Text.contains, missing]
      decide
    exact (templates_free (by omega) own).symm

/-- What a bot fills in an agreeing format is the own value only. -/
theorem fill_agreeing (agreeing : Agreeing mappings mapping) (own : String) :
    ∀ inner ∈ found braceGroup? mapping.effectiveFormat.toList,
      fillFormat (declarations mappings) own inner = fillOwn own inner := by
  intro inner held
  unfold fillFormat fillOwn
  split
  · rfl
  · next other =>
    rw [← Option.not_isSome_iff_eq_none, binding_of_declarations]
    intro mapped
    obtain ⟨sibling, listed, path⟩ := List.mem_map.mp mapped
    refine agreeing.unmapped sibling listed ?_ (path ▸ placeholder_of_found held)
    rintro named
    rw [named] at path
    exact other (by simpa using congrArg String.toList path.symm)

/-- Both styles write the format of an agreeing mapping alike. -/
theorem templates_agree (agreeing : Agreeing mappings mapping) :
    Part.templates (item .plain (declarations mappings) mapping).parts =
      Part.templates (item .guarded (declarations mappings) mapping).parts := by
  have guarded := split_congr (fill_agreeing agreeing
    ((bindingOf? (declarations mappings) mapping.path).getD ""))
  exact (templates_plain_parts agreeing.once _).trans (congrArg Part.templates guarded.symm)

/-! ## Snippets line by line -/

/-- The field of the response that a line reads into a local. -/
def field? (line : List Char) : Option (String × List FieldPath.Segment) :=
  match readConst anyWord line with
  | some (.const name (.member object links), []) =>
    if object = "data" then some (name, links.map (·.2)) else none
  | _ => none

/-- The text that a line of a bot adds to its reply, as it is written. -/
def pushed? (line : List Char) : Option String :=
  (readGuard anyWord line).bind fun (_, statement) => enclosed? "parts.push(`" "`);" statement

/-- The text that a line of a preview replies with, as it is written. -/
def content? (line : List Char) : Option String := enclosed? "  content: `" "`" line

/-- What is read from the lines of a source text, in order. -/
def fromLines (read : List Char → Option α) (source : String) : List α :=
  (lines source.toList).filterMap read

theorem field_line (named : Local name) (path : String) (optional : Bool) :
    field? ("const " ++ name ++ " = " ++ access "data" path optional ++ ";").toList =
      some (name, FieldPath.segments path) := by
  have read := read_const named.identifier (any_word name) (not_word_of_local named)
    (read_access (any_word "data") optional path fun key _ => any_word key) []
  rw [List.append_nil, constText, String.ofList_toList] at read
  rw [field?, read]
  simp [Function.comp_def]

/-- A line that is no declaration reads no field. -/
theorem field_foreign (other : line.head? ≠ some 'c') : field? line = none := by
  cases line with
  | nil => rfl
  | cons c rest =>
    have foreign : 'c' ≠ c := fun same => other (congrArg some same.symm)
    simp [field?, readConst, expect, Text.dropStart?, foreign]

theorem pushed_foreign (other : ∀ c ∈ line.head?, c ≠ 'i' ∧ c ≠ 'p') : pushed? line = none := by
  cases line with
  | nil => rfl
  | cons c rest =>
    have foreign := other c rfl
    simp [pushed?, readGuard, enclosed?, expect, Text.dropStart?, Ne.symm foreign.1,
      Ne.symm foreign.2]

theorem pushed_line (locals : ∀ name ∈ names, Local name) (text : String) :
    pushed? (guardText names ++ ("parts.push(`" ++ text ++ "`);")).toList = some text := by
  have whole : (guardText names ++ ("parts.push(`" ++ text ++ "`);")).toList =
      (guardText names).toList ++ ("parts.push(`".toList ++ (text.toList ++ "`);".toList)) := by
    simp only [String.toList_append, List.append_assoc]
  have guard : readGuard anyWord ((guardText names).toList ++ ("parts.push(`".toList ++
      (text.toList ++ "`);".toList))) =
        some (names, "parts.push(`".toList ++ (text.toList ++ "`);".toList)) :=
    read_guard (fun name member => readable_word (locals name member)) rfl
  rw [whole, pushed?, guard, Option.bind_some]
  exact enclosed_text ..

/-! ## What the lines of snippets say -/

theorem gathered_declaration (member : declaration ∈ declarations mappings) (style : SnippetStyle)
    (read : List Char → Option α) :
    gathered read [declarationLine style declaration] =
      (read ("const " ++ declaration.binding ++ " = " ++
        access "data" declaration.path (style = .guarded) ++ ";").toList).toList := by
  have object : OneLine "data" := by decide
  refine gathered_line ?_ read
  simp only [one_line_append, one_line_of_local (local_of_declaration member),
    one_line_access object]
  decide

theorem fields_guarded (listed : mapping ∈ mappings) (single : OneLine statement)
    (begins : statement.toList.head? ≠ some 'c') :
    gathered field? [guardedStatement (item .guarded (declarations mappings) mapping) statement] =
      [] := by
  rw [gathered_guarded listed single]
  generalize Part.expressions (item .guarded (declarations mappings) mapping).parts = needed
  have foreign : field? (guardText needed ++ statement).toList = none := by
    rcases head_guarded needed statement with guard | bare
    · exact field_foreign (by rw [guard]; decide)
    · exact field_foreign (bare ▸ begins)
  rw [foreign]
  rfl

theorem fields_block (opens : OneLine opening) (closes : OneLine closing)
    (first : field? opening.toList = none) (last : field? closing.toList = none)
    (body : List Code) : gathered field? [.block opening closing body] = [] := by
  have inside (rest : List Char) : field? (' ' :: rest) = none := field_foreign (by simp)
  rw [gathered_block rfl inside opens closes, first, last]
  rfl

/-- Guarded statements for all items read no field. -/
theorem fields_items (mappings : List Mapping) (statement : Item → String)
    (single : ∀ mapping ∈ mappings,
      OneLine (statement (item .guarded (declarations mappings) mapping)))
    (begins : ∀ entry, (statement entry).toList.head? ≠ some 'c') :
    gathered field? ((mappings.map (item .guarded (declarations mappings))).map fun entry =>
      guardedStatement entry (statement entry)) = [] :=
  gathered_map_nil (List.forall_mem_map.mpr fun mapping listed =>
    fields_guarded listed (single mapping listed) (begins _))

theorem fields_returned (body : List Code) : gathered field? [.blank, returnBlock body] = [] :=
  fields_block (by decide) (by decide) rfl rfl body

theorem fields_text (template : Template) (noData : String) (mappings : List Mapping) :
    gathered field? (guardedText template noData
      (mappings.map (item .guarded (declarations mappings)))) = [] := by
  have head : gathered field? [.blank, .line "const parts = [];"] = [] := by decide
  have items := fields_items mappings
    (fun entry => "parts.push(`" ++ labelled template entry ++ "`);")
    (fun mapping listed => by
      simp only [one_line_append, one_line_labelled (one_line_parts listed .guarded)]
      decide)
    (fun entry => by simp)
  simp only [guardedText, gathered_append, head, items, fields_returned, List.append_nil]

theorem fields_embed (mappings : List Mapping) :
    gathered field? (guardedEmbed (mappings.map (item .guarded (declarations mappings)))) = [] := by
  have head : gathered field? [.blank, .line "const fields = [];"] = [] := by decide
  have items := fields_items mappings
    (fun entry => "fields.push(\x7b name: " ++ labelLiteral entry.label ++
      ", value: `" ++ Part.templates entry.parts ++ "`, inline: true \x7d);")
    (fun mapping listed => by
      simp only [one_line_append, one_line_label, one_line_parts listed .guarded]
      decide)
    (fun entry => by simp)
  simp only [guardedEmbed, gathered_append, head, items, fields_returned, List.append_nil]

theorem fields_json (mappings : List Mapping) :
    gathered field? (guardedJson (mappings.map (item .guarded (declarations mappings)))) = [] := by
  have head : gathered field? [.blank, .line "const selectedData = \x7b\x7d;"] = [] := by decide
  have returned : gathered field? jsonReturn = [] := fields_returned _
  have entries : gathered field? ((mappings.map (item .guarded (declarations mappings))).map
      fun entry => Code.line ("if (" ++ entry.binding ++ " != null) selectedData[" ++
        labelLiteral entry.label ++ "] = " ++ entry.binding ++ ";")) = [] := by
    refine gathered_map_nil (List.forall_mem_map.mpr fun mapping listed => ?_)
    rw [gathered_line, field_foreign (by simp)]
    · rfl
    · simp only [one_line_append, one_line_label, one_line_of_local (local_of_item listed .guarded)]
      decide
  simp only [guardedJson, gathered_append, head, entries, returned, List.append_nil]

/-- No reply reads a field: what stands inside its blocks is indented. -/
theorem fields_reply (style : SnippetStyle) (template : Template) (locale : Locale)
    (mappings : List Mapping) :
    gathered field? (reply style template locale
      (mappings.map (item style (declarations mappings)))) = [] := by
  cases style with
  | plain =>
    cases template with
    | simpleText | multiLine | embed => exact fields_returned _
    | jsonFormatted =>
      have selected (body : List Code) :
          gathered field? [.blank, .block "const selectedData = \x7b" "\x7d;" body] = [] :=
        fields_block (by decide) (by decide) (by decide) rfl body
      have returned : gathered field? jsonReturn = [] := fields_returned _
      exact (gathered_append ..).trans (by rw [selected, returned]; rfl)
  | guarded =>
    cases template with
    | simpleText | multiLine => exact fields_text _ _ mappings
    | embed => exact fields_embed mappings
    | jsonFormatted => exact fields_json mappings

/-- Both styles read each mapped path once, in the order of first use and into the same
locals. -/
theorem fields_snippet (style : SnippetStyle) (template : Template) (locale : Locale)
    (mappings : List Mapping) :
    fromLines field? (snippet style template locale mappings) =
      (declarations mappings).map fun declaration =>
        (declaration.binding, FieldPath.segments declaration.path) := by
  by_cases empty : mappings = []
  · rw [empty, fromLines, lines_whole]
    decide +kernel
  have data : gathered field? [.line dataLine] = [] := by decide
  have declared : ∀ declaration ∈ declarations mappings,
      gathered field? [declarationLine style declaration] =
        [(declaration.binding, FieldPath.segments declaration.path)] := by
    intro declaration member
    rw [gathered_declaration member, field_line (local_of_declaration member)]
    rfl
  rw [fromLines, gathered_snippet empty, code, gathered_append, gathered_append, data,
    gathered_map declared, fields_reply, ← List.map_eq_flatMap, List.nil_append, List.append_nil]

/-! ## What the replies say -/

/-- A reader that passes over declarations reads the reply only. -/
theorem gathered_reply (nonempty : mappings ≠ []) {read : List Char → Option α}
    (foreign : ∀ rest, read ('c' :: rest) = none) (style : SnippetStyle) (template : Template)
    (locale : Locale) :
    fromLines read (snippet style template locale mappings) =
      gathered read (reply style template locale
        (mappings.map (item style (declarations mappings)))) := by
  have data : gathered read [.line dataLine] = [] := by
    rw [gathered_line (by decide), dataLine]
    simp [foreign]
  have declared : gathered read ((declarations mappings).map (declarationLine style)) = [] := by
    refine gathered_map_nil fun declaration member => ?_
    rw [gathered_declaration member]
    simp [foreign]
  rw [fromLines, gathered_snippet nonempty, code, gathered_append, gathered_append, data,
    declared, List.nil_append, List.nil_append]

theorem reply_text (textual : TextTemplate template) (locale : Locale) (entries : List Item) :
    reply .plain template locale entries = plainText template entries ∧
      reply .guarded template locale entries =
        guardedText template (Messages.of locale).noData entries := by
  rcases textual with rfl | rfl <;> exact ⟨rfl, rfl⟩

/-- A bot adds one text for each mapping, in order. -/
theorem pushed_snippet (textual : TextTemplate template) (locale : Locale)
    (nonempty : mappings ≠ []) :
    fromLines pushed? (snippet .guarded template locale mappings) =
      (mappings.map (item .guarded (declarations mappings))).map (labelled template) := by
  have head : gathered pushed? [.blank, .line "const parts = [];"] = [] := by decide
  have last (body : List Code) : gathered pushed? [.blank, returnBlock body] = [] := by
    have inside (rest : List Char) : pushed? (' ' :: rest) = none := pushed_foreign (by simp)
    exact gathered_block rfl inside (by decide) (by decide) body
  have each : ∀ entry ∈ mappings.map (item .guarded (declarations mappings)),
      gathered pushed? [guardedStatement entry ("parts.push(`" ++ labelled template entry ++
        "`);")] = [labelled template entry] := by
    refine List.forall_mem_map.mpr fun mapping listed => ?_
    rw [gathered_guarded listed, pushed_line fun _ shown => local_expression listed shown]
    · rfl
    · simp only [one_line_append, one_line_labelled (one_line_parts listed .guarded)]
      decide
  rw [gathered_reply nonempty (fun _ => pushed_foreign (by simp)), (reply_text textual locale _).2,
    guardedText, gathered_append, gathered_append, head, gathered_map each, last,
    ← List.map_eq_flatMap, List.nil_append, List.append_nil]

/-- A preview replies with one text, in which those of the mappings stand one after another. -/
theorem content_snippet (textual : TextTemplate template) (locale : Locale)
    (nonempty : mappings ≠ []) :
    fromLines content? (snippet .plain template locale mappings) =
      [(separator template).intercalate
        ((mappings.map (item .plain (declarations mappings))).map (labelled template))] := by
  have foreign (rest : List Char) : content? ('c' :: rest) = none := rfl
  rw [gathered_reply nonempty foreign, (reply_text textual locale _).1, plainText]
  generalize shown : (separator template).intercalate _ = content
  have single : OneLine content := by
    rw [← shown]
    refine one_line_intercalate (by cases template <;> decide) fun text member => ?_
    obtain ⟨entry, held, rfl⟩ := List.mem_map.mp member
    obtain ⟨mapping, listed, rfl⟩ := List.mem_map.mp held
    exact one_line_labelled (one_line_parts listed .plain) template
  have whole : OneLine ("content: `" ++ content ++ "`") := by
    simp only [one_line_append, single]
    decide
  -- The reply is written over four lines, of which only the third is read.
  have text : allLines 0 [.blank, returnBlock [.line ("content: `" ++ content ++ "`")]] =
      [[], "return \x7b".toList, "  content: `".toList ++ (content.toList ++ "`".toList),
        "\x7d;".toList] := by
    rw [allLines, all_lines_single, returnBlock, code_lines_block (by decide) (by decide),
      all_lines_single, code_lines_line whole]
    simp [codeLines, indent, List.replicate]
  have read : content? ("  content: `".toList ++ (content.toList ++ "`".toList)) = some content :=
    enclosed_text ..
  have others : content? [] = none ∧ content? "return \x7b".toList = none ∧
      content? "\x7d;".toList = none := ⟨rfl, rfl, rfl⟩
  rw [gathered, text]
  simp only [List.filterMap_cons, List.filterMap_nil, read, others]

/-! ## A preview and its bot -/

theorem labelled_agree (agreeing : Agreeing mappings mapping) (template : Template) :
    labelled template (item .plain (declarations mappings) mapping) =
      labelled template (item .guarded (declarations mappings) mapping) := by
  have label : (item .plain (declarations mappings) mapping).label =
      (item .guarded (declarations mappings) mapping).label := rfl
  unfold labelled
  rw [label, templates_agree agreeing]

theorem field_of_mapping (listed : mapping ∈ mappings) (style : SnippetStyle)
    (template : Template) (locale : Locale) :
    ((item .guarded (declarations mappings) mapping).binding, FieldPath.segments mapping.path) ∈
      fromLines field? (snippet style template locale mappings) := by
  have declared := (binding_of_declarations mappings mapping.path).mpr (List.mem_map_of_mem listed)
  obtain ⟨binding, located⟩ := Option.isSome_iff_exists.mp declared
  obtain ⟨declaration, member, path, rfl⟩ := binding_of_eq_some located
  rw [fields_snippet, ← path, List.mem_map]
  refine ⟨declaration, member, ?_⟩
  rw [item.eq_def, path, located]
  rfl

/-- A preview and the bot read the same fields into the same locals, and write the format
of each agreeing mapping alike. Where all mappings agree, the text of a preview is made
of the texts that the bot adds to its reply, one for each mapping; without mappings the
two are the same. -/
theorem preview_agrees (template : Template) (locale : Locale) (mappings : List Mapping) :
    fromLines field? (snippet .plain template locale mappings) =
      fromLines field? (snippet .guarded template locale mappings) ∧
    (∀ mapping ∈ mappings, Agreeing mappings mapping → ∃ binding text,
      (binding, FieldPath.segments mapping.path) ∈
        fromLines field? (snippet .guarded template locale mappings) ∧
      ∀ style, (item style (declarations mappings) mapping).binding = binding ∧
        Part.templates (item style (declarations mappings) mapping).parts = text) ∧
    (TextTemplate template → mappings ≠ [] → (∀ mapping ∈ mappings, Agreeing mappings mapping) →
      fromLines pushed? (snippet .guarded template locale mappings) =
        mappings.map (fun mapping =>
          labelled template (item .guarded (declarations mappings) mapping)) ∧
      fromLines content? (snippet .plain template locale mappings) =
        [(separator template).intercalate
          (fromLines pushed? (snippet .guarded template locale mappings))]) ∧
    (mappings = [] →
      snippet .plain template locale mappings = snippet .guarded template locale mappings) := by
  refine ⟨?_, fun mapping listed agreeing => ?_, fun textual nonempty agreeing => ?_,
    fun empty => ?_⟩
  · rw [fields_snippet, fields_snippet]
  · refine ⟨_, Part.templates (item .guarded (declarations mappings) mapping).parts,
      field_of_mapping listed .guarded template locale, fun style => ?_⟩
    cases style with
    | plain => exact ⟨rfl, templates_agree agreeing⟩
    | guarded => exact ⟨rfl, rfl⟩
  · have texts : (mappings.map (item .plain (declarations mappings))).map (labelled template) =
        (mappings.map (item .guarded (declarations mappings))).map (labelled template) := by
      rw [List.map_map, List.map_map]
      exact List.map_congr_left fun mapping listed =>
        labelled_agree (agreeing mapping listed) template
    rw [content_snippet textual locale nonempty, pushed_snippet textual locale nonempty, texts,
      List.map_map]
    exact ⟨rfl, rfl⟩
  · rw [snippet, snippet, if_pos empty, if_pos empty]

/-- Formats with braces that are no placeholder, in front of one and around one, and with
everything that has to be escaped; one has no placeholder, and one mapped path is named
like the placeholder. -/
def bracedSample : List Mapping :=
  [⟨"main.temp", "Now $", "$\x7b\x7bvalue\x7d\x7d \\ \x7bunknown\x7d `"⟩,
   ⟨"value", "`Max`", "\x7b\x7bvalue\x7d"⟩,
   ⟨"a\x7bb", "$\x7b", "\x7d none \x7b"⟩,
   ⟨"main.temp", "Again", ""⟩]

theorem braced_sample_agrees :
    (∀ mapping ∈ bracedSample, Agreeing bracedSample mapping) ∧
      Part.templates (item .guarded (declarations bracedSample) ⟨"main.temp", "Now $",
          "$\x7b\x7bvalue\x7d\x7d \\ \x7bunknown\x7d `"⟩).parts =
        "\\$\x7b$\x7bmainTemp\x7d\x7d \\\\ \x7bunknown\x7d \\`" ∧
      fromLines content? (snippet .plain .multiLine .english bracedSample) =
        ["\\n".intercalate
          (fromLines pushed? (snippet .guarded .multiLine .english bracedSample))] := by
  have agreeing : ∀ mapping ∈ bracedSample, Agreeing bracedSample mapping := by decide +kernel
  obtain ⟨_, formats, texts⟩ := preview_agrees .multiLine .english bracedSample
  obtain ⟨_, text, _, alike⟩ := formats _ List.mem_cons_self (agreeing _ List.mem_cons_self)
  refine ⟨agreeing, ?_, (texts.1 (.inr rfl) (by decide) agreeing).2⟩
  exact (alike .guarded).2.trans ((alike .plain).2.symm.trans (by decide +kernel))

end Botwright.PreviewAgreement
