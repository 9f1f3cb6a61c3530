import Botwright.Proofs.SnippetRun

/-! What a bot replies with the fields of a response. Running its snippet for
a text template gives one text for each mapping whose values are there, in order:
the mapping's label, and its format with every group in braces that refers to
a mapped path replaced by that path's value, in one pass from left to right. A snippet
with a bare name that only the generator takes for one is no program and gives nothing. -/
namespace Botwright.GuardedReply
open Script Reply Reply.Snippet LiteralReading TemplateReading StatementReading SnippetLocals
  SnippetReading SnippetRun IdentifierNames

/-! ## What mappings say -/

/-- A piece of a format: a character, or a text without braces between two of them. -/
inductive Piece where
  | char (c : Char)
  | group (inner : List Char)
  deriving DecidableEq, Repr

/-- The pieces of a format from left to right. `pending` is what stands behind the
last opening brace as long as that may still open a group. -/
def pieces (pending : Option (List Char)) : List Char → List Piece
  | [] =>
    match pending with
    | none => []
    | some inner => .char '{' :: inner.map .char
  | c :: rest =>
    match pending with
    | none => if c = '{' then pieces (some []) rest else .char c :: pieces none rest
    | some inner =>
      if c = '{' then .char '{' :: (inner.map .char ++ pieces (some []) rest)
      else if c = '}' then .group inner :: pieces none rest
      else pieces (some (inner ++ [c])) rest

/-- The path that a group refers to in the format of the mapping with path `own`. -/
def pathOf? (mappings : List Mapping) (own : String) (inner : List Char) : Option String :=
  if inner = "value".toList then some own
  else if String.ofList inner ∈ mappings.map (·.path) then some (String.ofList inner)
  else none

/-- The text of a piece, or nothing if it refers to a value that is missing. -/
def pieceText? (pathOf : List Char → Option String) (value : String → Datum) :
    Piece → Option (List Char)
  | .char c => some [c]
  | .group inner =>
    match pathOf inner with
    | some path => (value path).text?.map String.toList
    | none => some ('{' :: inner ++ ['}'])

def formatOf (mapping : Mapping) : String :=
  if mapping.format = "" then "\x7bvalue\x7d" else mapping.format

/-- The text of a mapping, or nothing if it refers to a value that is missing. -/
def mappingText? (mappings : List Mapping) (value : String → Datum) (mapping : Mapping) :
    Option String :=
  (concat? (pieceText? (pathOf? mappings mapping.path) value)
    (pieces none (formatOf mapping).toList)).map String.ofList

/-- The text of a reply. -/
def replyText (template : Template) (locale : Locale) (mappings : List Mapping)
    (value : String → Datum) : String :=
  let lines := mappings.filterMap fun mapping =>
    (mappingText? mappings value mapping).map (caption template mapping.label ++ ·)
  if lines = [] then (Messages.of locale).noData else (between template).intercalate lines

/-! ## Formats are split into their pieces -/

/-- What a piece of a format means in a template. -/
def pieceMarks (fill : List Char → Option String) : Piece → List Mark
  | .char c => [.char c]
  | .group inner =>
    match fill inner with
    | some expression => [.hole expression.toList]
    | none => ('{' :: inner ++ ['}']).map .char

theorem pieces_group {inner : List Char} (plain : ∀ c ∈ inner, isBrace c = false)
    (front rest : List Char) :
    pieces (some front) (inner ++ '}' :: rest) = .group (front ++ inner) :: pieces none rest := by
  induction inner generalizing front with
  | nil => simp [pieces]
  | cons c inner ih =>
    have notBrace := plain c List.mem_cons_self
    simp only [isBrace, Bool.or_eq_false_iff, decide_eq_false_iff_not] at notBrace
    rw [List.cons_append, pieces, if_neg notBrace.1, if_neg notBrace.2,
      ih fun d member => plain d (List.mem_cons_of_mem c member)]
    simp

/-- An opening brace without its group is a character like any other. -/
theorem pieces_no_group
    (unclosed : (rest.dropWhile fun c => !isBrace c).head? ≠ some '}') (front : List Char) :
    pieces (some front) rest = .char '{' :: (front.map .char ++ pieces none rest) := by
  induction rest generalizing front with
  | nil => simp [pieces]
  | cons c rest ih =>
    by_cases opening : c = '{'
    · simp [pieces, opening]
    · by_cases closing : c = '}'
      · subst closing
        exact absurd rfl unclosed
      · have plain : isBrace c = false := by simp [isBrace, opening, closing]
        rw [List.dropWhile_cons_of_pos (by simp [plain])] at unclosed
        simp [pieces, opening, closing, ih unclosed]

theorem pieces_brace_group {inner : List Char}
    (group : braceGroup? (c :: rest) = some (inner, more)) :
    pieces none (c :: rest) = .group inner :: pieces none (rest.drop more) ∧
      c :: rest.take more = '{' :: inner ++ ['}'] := by
  obtain ⟨after, shape, rfl, plain⟩ := brace_group_eq_some group
  obtain ⟨rfl, rfl⟩ := List.cons.inj shape
  have length : (inner ++ ['}']).length = inner.length + 1 := by simp
  rw [List.append_cons inner '}' after]
  constructor
  · rw [List.drop_left' length, ← List.append_cons, pieces, if_pos rfl, pieces_group plain,
      List.nil_append]
  · rw [List.take_left' length, List.cons_append]

theorem pieces_no_brace_group (missing : braceGroup? (c :: rest) = none) :
    pieces none (c :: rest) = .char c :: pieces none rest := by
  by_cases opening : c = '{'
  · subst opening
    rw [pieces, if_pos rfl]
    refine pieces_no_group ?_ []
    intro closed
    rw [← drop_take_while] at closed
    simp [braceGroup?, closed] at missing
  · rw [pieces, if_neg opening]

/-- Splitting a format into parts finds the groups that one pass finds. -/
theorem marks_split (fill : List Char → Option String) (s : List Char) :
    (Part.split braceGroup? fill s).flatMap marksOf =
      (pieces none s).flatMap (pieceMarks fill) := by
  fun_induction Part.split braceGroup? fill s with
  | case1 => rfl
  | case2 c rest missing ih =>
    rw [marks_add_text, ih, pieces_no_brace_group missing]
    rfl
  | case3 c rest inner more group after expression filled ih =>
    rw [(pieces_brace_group group).1, List.flatMap_cons, List.flatMap_cons, ih, marksOf,
      pieceMarks, filled]
  | case4 c rest inner more group after unfilled ih =>
    obtain ⟨found, written⟩ := pieces_brace_group group
    rw [marks_add_text, ih, found, List.flatMap_cons, pieceMarks, unfilled, written]

/-! ## Showing a text runs to what its mapping says -/

theorem concat_append (text : α → Option (List Char)) (front back : List α) :
    concat? text (front ++ back) =
      (concat? text front).bind fun first => (concat? text back).map (first ++ ·) := by
  induction front with
  | nil => simp [concat?]
  | cons item rest ih =>
    rw [List.cons_append, concat?, concat?, ih]
    cases text item <;> cases concat? text rest <;> cases concat? text back <;> simp

theorem concat_chars (state : State) (plain : List Char) :
    concat? (show? state) (plain.map .char) = some plain := by
  induction plain with
  | nil => rfl
  | cons c rest ih => simp [concat?, show?, ih]

/-- Items that all have a text have one together. -/
theorem concat_is_some (text : α → Option (List Char)) (items : List α) :
    (concat? text items).isSome = items.all fun item => (text item).isSome := by
  induction items with
  | nil => rfl
  | cons item rest ih =>
    rw [concat?, List.all_cons, ← ih]
    cases text item <;> cases concat? text rest <;> rfl

/-- A guard over values that are known looks for one that is missing. -/
theorem passes_eq (bound : ∀ name ∈ needed, ∃ datum, state.datum? name = some datum) :
    passes state needed =
      some (needed.all fun name => (state.datum? name).any fun datum => datum.text?.isSome) := by
  induction needed with
  | nil => rfl
  | cons name rest ih =>
    obtain ⟨datum, held⟩ := bound name List.mem_cons_self
    have more := ih fun other member => bound other (List.mem_cons_of_mem name member)
    cases there : datum.text?.isSome <;> simp [passes, held, there, more]

/-- What fills a group is the local of the path that it refers to. -/
structure Resolves (fill : List Char → Option String) (pathOf : List Char → Option String)
    (value : String → Datum) (state : State) : Prop where
  filled : ∀ inner path, pathOf inner = some path → ∃ binding, fill inner = some binding ∧
    state.datum? binding = some (value path)
  unfilled : ∀ inner, pathOf inner = none → fill inner = none

section Text
variable {fill pathOf : List Char → Option String} {value : String → Datum} {state : State}
  (resolves : Resolves fill pathOf value state)
include resolves

theorem show_piece (text : pieceText? pathOf value piece = some shown) :
    concat? (show? state) (pieceMarks fill piece) = some shown := by
  cases piece with
  | char c =>
    cases text
    rfl
  | group inner =>
    rw [pieceText?] at text
    cases referred : pathOf inner with
    | none =>
      rw [referred] at text
      cases text
      rw [pieceMarks, resolves.unfilled inner referred]
      exact concat_chars state _
    | some path =>
      obtain ⟨binding, filled, held⟩ := resolves.filled inner path referred
      rw [referred] at text
      obtain ⟨content, there, rfl⟩ := Option.map_eq_some_iff.mp text
      have spoken : (value path).shown = content := by
        cases known : value path <;> simp_all [Datum.text?, Datum.shown]
      rw [pieceMarks, filled]
      simp [concat?, show?, held, spoken]

/-- If nothing is missing, the marks of a format show its text. -/
theorem show_pieces (text : concat? (pieceText? pathOf value) list = some shown) :
    concat? (show? state) (list.flatMap (pieceMarks fill)) = some shown := by
  induction list generalizing shown with
  | nil => exact text
  | cons piece rest ih =>
    obtain ⟨front, first, text⟩ := Option.bind_eq_some_iff.mp text
    obtain ⟨back, more, text⟩ := Option.bind_eq_some_iff.mp text
    cases text
    rw [List.flatMap_cons, concat_append, show_piece resolves first, Option.bind_some, ih more]
    rfl

/-- What fills a group holds the value at the path that the group refers to. -/
theorem datum_of_filled {inner : List Char} (filled : fill inner = some name) :
    ∃ path, pathOf inner = some path ∧ state.datum? name = some (value path) := by
  cases referred : pathOf inner with
  | none =>
    rw [resolves.unfilled inner referred] at filled
    cases filled
  | some path =>
    obtain ⟨binding, same, held⟩ := resolves.filled inner path referred
    rw [same] at filled
    cases filled
    exact ⟨path, rfl, held⟩

/-- A guard over the locals of some groups looks whether those groups have a text. -/
theorem passes_pieces {list : List Piece} {needed : List String}
    (guarded : ∀ name, name ∈ needed ↔ ∃ inner, .group inner ∈ list ∧ fill inner = some name) :
    passes state needed = some (list.all fun piece => (pieceText? pathOf value piece).isSome) := by
  have bound : ∀ name ∈ needed, ∃ datum, state.datum? name = some datum := by
    intro name member
    obtain ⟨inner, _, filled⟩ := (guarded name).mp member
    obtain ⟨path, _, held⟩ := datum_of_filled resolves filled
    exact ⟨_, held⟩
  rw [passes_eq bound]
  congr 1
  rw [Bool.eq_iff_iff, List.all_eq_true, List.all_eq_true]
  constructor
  · -- A group that refers to a path has a text just if the local of the path does.
    intro there piece member
    cases piece with
    | char c => rfl
    | group inner =>
      cases referred : pathOf inner with
      | none => simp [pieceText?, referred]
      | some path =>
        obtain ⟨binding, filled, held⟩ := resolves.filled inner path referred
        have present := there binding ((guarded binding).mpr ⟨inner, member, filled⟩)
        simpa [pieceText?, referred, held] using present
  · intro there name member
    obtain ⟨inner, listed, filled⟩ := (guarded name).mp member
    obtain ⟨path, referred, held⟩ := datum_of_filled resolves filled
    simpa [pieceText?, referred, held] using there (.group inner) listed

end Text

/-! ## Items -/

theorem expression_iff_mark (parts : List Part) (name : String) :
    name ∈ Part.expressions parts ↔ .hole name.toList ∈ parts.flatMap marksOf := by
  constructor
  · intro member
    obtain ⟨written, hole⟩ := hole_of_expression member
    exact List.mem_flatMap.mpr ⟨_, hole, by simp [marksOf]⟩
  · intro member
    obtain ⟨part, held, mark⟩ := List.mem_flatMap.mp member
    rw [Part.expressions, List.mem_eraseDups, List.mem_filterMap]
    refine ⟨part, held, ?_⟩
    cases part with
    | text plain => simp [marksOf] at mark
    | hole written expression =>
      have same : name.toList = expression.toList := by simpa [marksOf] using mark
      rw [String.toList_inj.mp same]

/-- The expressions of an item are the locals that fill groups of its format. -/
theorem mem_expressions (fill : List Char → Option String) (s : List Char) (name : String) :
    name ∈ Part.expressions (Part.split braceGroup? fill s) ↔
      ∃ inner, .group inner ∈ pieces none s ∧ fill inner = some name := by
  rw [expression_iff_mark, marks_split, List.mem_flatMap]
  constructor
  · rintro ⟨piece, member, shown⟩
    cases piece with
    | char c => simp [pieceMarks] at shown
    | group inner =>
      cases filled : fill inner with
      | none => simp [pieceMarks, filled] at shown
      | some expression =>
        have same : name.toList = expression.toList := by simpa [pieceMarks, filled] using shown
        exact ⟨inner, member, by rw [filled, String.toList_inj.mp same]⟩
  · rintro ⟨inner, member, filled⟩
    exact ⟨_, member, by simp [pieceMarks, filled]⟩

theorem datum_of_binding (knows : Knows value (declarations mappings) state)
    (found : bindingOf? (declarations mappings) path = some binding) :
    state.datum? binding = some (value path) := by
  obtain ⟨declaration, member, rfl, rfl⟩ := binding_of_eq_some found
  rw [State.datum?, knows declaration member]

theorem binding_of_listed (listed : path ∈ mappings.map (·.path)) :
    ∃ binding, bindingOf? (declarations mappings) path = some binding :=
  Option.isSome_iff_exists.mp ((binding_of_declarations mappings path).mpr listed)

theorem resolves_item (knows : Knows value (declarations mappings) state)
    (listed : mapping ∈ mappings) :
    Resolves (fillFormat (declarations mappings)
        ((bindingOf? (declarations mappings) mapping.path).getD ""))
      (pathOf? mappings mapping.path) value state := by
  obtain ⟨own, found⟩ := binding_of_listed (List.mem_map_of_mem listed)
  rw [found, Option.getD_some]
  constructor
  · intro inner path referred
    unfold pathOf? at referred
    unfold fillFormat
    split at referred
    · next itself =>
      cases referred
      exact ⟨own, if_pos itself, datum_of_binding knows found⟩
    · next other =>
      rw [Option.ite_none_right_eq_some] at referred
      obtain ⟨mapped, same⟩ := referred
      cases same
      obtain ⟨binding, located⟩ := binding_of_listed mapped
      exact ⟨binding, (if_neg other).trans located, datum_of_binding knows located⟩
  · intro inner referred
    unfold pathOf? at referred
    split at referred
    · cases referred
    · next other =>
      have unmapped : String.ofList inner ∉ mappings.map (·.path) := by simpa using referred
      rw [fillFormat, if_neg other, ← Option.not_isSome_iff_eq_none, binding_of_declarations]
      exact unmapped

/-- An item adds its line to the reply, unless a value that it refers to is missing. -/
theorem step_item (template : Template) (listed : mapping ∈ mappings)
    (knows : Knows value (declarations mappings) state) (held : state.list? "parts" = some items) :
    step state (itemStatement template (item .guarded (declarations mappings) mapping)) =
      some (add state items
        ((mappingText? mappings value mapping).map (caption template mapping.label ++ ·))) := by
  have resolves := resolves_item knows listed
  have guard := passes_pieces resolves (mem_expressions (fillFormat (declarations mappings)
    ((bindingOf? (declarations mappings) mapping.path).getD "")) (formatOf mapping).toList)
  rw [← concat_is_some] at guard
  have parts : (item .guarded (declarations mappings) mapping).parts =
      Part.split braceGroup? (fillFormat (declarations mappings)
        ((bindingOf? (declarations mappings) mapping.path).getD "")) (formatOf mapping).toList :=
    rfl
  rw [itemStatement, parts, step, mappingText?, guard]
  cases text : concat? (pieceText? (pathOf? mappings mapping.path) value)
    (pieces none (formatOf mapping).toList) with
  | none => rfl
  | some content =>
    have shown : concat? (show? state) (itemMarks template
        (item .guarded (declarations mappings) mapping)) =
          some ((caption template mapping.label).toList ++ content) := by
      rw [itemMarks, concat_append, concat_chars, parts, marks_split,
        show_pieces resolves text]
      rfl
    simp [shown, held, add]

theorem binding_ne (member : declaration ∈ declarations mappings)
    (reserved : other ∈ reservedNames) : declaration.binding ≠ other := by
  rintro rfl
  exact (local_of_declaration member).unreserved reserved

/-- The members of a response that a snippet reads, each mapped path once in the order
of first use, with given values. -/
def readsOf (mappings : List Mapping) (value : String → Datum) : List (List Link × Datum) :=
  (mappings.map (·.path)).eraseDups.map fun path =>
    ((FieldPath.segments path).map fun step => (true, step), value path)

theorem reads_of_eq (mappings : List Mapping) (value : String → Datum) :
    readsOf mappings value = (declarations mappings).map (readOf value) := by
  rw [readsOf, ← paths_declarations, List.map_map]
  rfl

/-- Once the response is in a local, the declarations of a snippet come next. -/
theorem awaits_declarations (mappings : List Mapping) (value : String → Datum) :
    Awaits value (declarations mappings) []
      ((begin (readsOf mappings value)).put "data" .document) := by
  refine ⟨lookup_put_self _ _ _, fun declaration member => ?_, ?_⟩
  · have notResponse : (declaration.binding == "apiResponse") = false :=
      beq_eq_false_iff_ne.mpr (binding_ne member (by decide))
    rw [lookup_put_other _ _ (binding_ne member (by decide)), begin, List.lookup_cons, notResponse]
    rfl
  · rw [List.append_nil]
    exact reads_of_eq mappings value

/-- Once the response is read, every local holds the value at its path. -/
theorem run_reads (mappings : List Mapping) (value : String → Datum) (rest : List Statement) :
    ∃ after, run (begin (readsOf mappings value)) ([.const "data" (.json "apiResponse")] ++
        (declarations mappings).map declarationStatement ++ [.const "parts" .emptyList] ++ rest) =
          run after rest ∧
      Knows value (declarations mappings) after ∧ after.list? "parts" = some [] := by
  obtain ⟨_, allocated⟩ := allocated_declarations mappings
  have document : step (begin (readsOf mappings value)) (.const "data" (.json "apiResponse")) =
      some ((begin (readsOf mappings value)).put "data" .document) := rfl
  obtain ⟨known, ran, knows, kept⟩ := run_declarations allocated.distinct
    (awaits_declarations mappings value) (.const "parts" .emptyList :: rest)
  have undeclared : known.locals.lookup "parts" = none := by
    rw [kept "parts"]
    · rfl
    · intro member
      obtain ⟨declaration, held, same⟩ := List.mem_map.mp member
      exact binding_ne held (by decide) same
  have list : step known (.const "parts" .emptyList) = some (known.put "parts" (.list [])) := by
    simp [step, give, undeclared]
  refine ⟨known.put "parts" (.list []), ?_, ?_, ?_⟩
  · rw [List.append_assoc, List.append_assoc, List.singleton_append, run_step document]
    exact ran.trans (run_step list rest)
  · intro declaration member
    rw [lookup_put_other _ _ (binding_ne member (by decide))]
    exact knows declaration member
  · simp [State.list?, lookup_put_self]

/-- The statements of a snippet, run one after the other, give the text that its mappings
say. -/
theorem run_statements (template : Template) (locale : Locale) (mappings : List Mapping)
    (value : String → Datum) :
    run (begin (readsOf mappings value)) (statements template locale mappings) =
      some (replyText template locale mappings value) := by
  obtain ⟨known, ran, knows, empty⟩ := run_reads mappings value
    ((mappings.map (item .guarded (declarations mappings))).map (itemStatement template) ++
      [.answer "parts" (between template).toList (Messages.of locale).noData.toList])
  have apart : ∀ declaration ∈ declarations mappings, declaration.binding ≠ "parts" :=
    fun declaration member => binding_ne member (by decide)
  have adds : ∀ mapping ∈ mappings, ∀ state items, Knows value (declarations mappings) state →
      state.list? "parts" = some items →
        step state (itemStatement template (item .guarded (declarations mappings) mapping)) =
          some (add state items
            ((mappingText? mappings value mapping).map (caption template mapping.label ++ ·))) :=
    fun mapping listed state items => step_item template listed
  obtain ⟨after, added, list⟩ := run_lines apart adds knows empty
    [.answer "parts" (between template).toList (Messages.of locale).noData.toList]
  rw [statements, List.append_assoc, ran, List.map_map]
  refine added.trans ?_
  rw [run, list, List.nil_append, Option.map_some, String.ofList_toList, String.ofList_toList]
  rfl

/-- A bot's snippet for a text template gives the text that its mappings say, whatever
the values at their paths are, just if the names that it writes bare are portable; otherwise
it is no program of the language. -/
theorem guarded_reply_text (template : Template) (textual : TextTemplate template)
    (locale : Locale) (mappings : List Mapping) (nonempty : mappings ≠ [])
    (value : String → Datum) :
    (readProgram (snippet .guarded template locale mappings).toList).bind
        (run (begin (readsOf mappings value))) =
      if ∀ name ∈ bareNames mappings, Portable name then
        some (replyText template locale mappings value)
      else none := by
  split
  · next portable =>
    have admitted : ∀ name ∈ bareNames mappings, languageNames name = true :=
      fun name bare => (language_names_iff (identifier_of_bare bare)).mpr (portable name bare)
    rw [read_snippet template textual locale mappings nonempty admitted, Option.bind_some,
      run_statements]
  · next stray =>
    obtain ⟨name, bare, other⟩ : ∃ name ∈ bareNames mappings, ¬Portable name := by
      simpa using stray
    have refused : languageNames name = false :=
      Bool.eq_false_iff.mpr (mt (language_names_iff (identifier_of_bare bare)).mp other)
    rw [read_snippet_refused template textual locale mappings nonempty ⟨name, bare, refused⟩,
      Option.bind_none]

/-- Mappings that refer to each other, with a path named like the placeholder, a path
that is mapped twice, and braces that are no group. -/
def crossedSample : List Mapping :=
  [⟨"main.temp", "Now $", "\x7bvalue\x7d of \x7bmain.max\x7d \x7bunknown\x7d"⟩,
   ⟨"main.max", "`Max`", "$\x7b\x7bvalue\x7d\x7d \\"⟩,
   ⟨"value", "Rain", ""⟩,
   ⟨"main.temp", "Both", "\x7b\x7bmain.temp\x7d/\x7bvalue\x7d"⟩]

/-- The values at the paths of the sample; the one at the path `value` is missing. -/
def crossedValues : String → Datum
  | "main.temp" => .text "\x7bvalue\x7d"
  | "main.max" => .text "9"
  | _ => .null

theorem crossed_sample_reply :
    TextTemplate .multiLine ∧ crossedSample ≠ [] ∧
      (readProgram (snippet .guarded .multiLine .english crossedSample).toList).bind
          (run (begin (readsOf crossedSample crossedValues))) =
        some ("**Now $**: \x7bvalue\x7d of 9 \x7bunknown\x7d\n**`Max`**: $\x7b9\x7d \\\n" ++
          "**Both**: \x7b\x7bvalue\x7d/\x7bvalue\x7d") := by
  have textual : TextTemplate .multiLine := .inr rfl
  have nonempty : crossedSample ≠ [] := by decide
  have portable : ∀ name ∈ bareNames crossedSample, Portable name := by decide +kernel
  have reply := guarded_reply_text .multiLine textual .english crossedSample nonempty crossedValues
  rw [if_pos portable] at reply
  exact ⟨textual, nonempty, reply.trans (congrArg some (by decide +kernel))⟩

/-- A path with a character that no name of the language holds. -/
def squareSample : List Mapping := [⟨"x\u00b2", "Area", ""⟩]

/-- The mapping of a square says what to reply, and its snippet gives nothing: it is no
program, because the generator writes the path's key and its local bare. -/
theorem square_snippet_no_reply :
    replyText .simpleText .english squareSample (fun _ => .text "9") = "Area: 9" ∧
      (readProgram (snippet .guarded .simpleText .english squareSample).toList).bind
        (run (begin (readsOf squareSample fun _ => .text "9"))) = none := by
  have refused : readProgram (snippet .guarded .simpleText .english squareSample).toList = none :=
    read_snippet_refused .simpleText (.inl rfl) .english squareSample (by decide)
      ⟨"x\u00b2", by decide +kernel, by decide +kernel⟩
  exact ⟨by decide +kernel, by rw [refused, Option.bind_none]⟩

end Botwright.GuardedReply
