import Mathlib.Data.List.Infix
import Botwright.Proofs.RequestReading
import Botwright.Proofs.SpecAdmission

/-! What the replacements in an endpoint amount to. They are made one after another, each
in the text that the one before has left. None makes, breaks or reaches into a placeholder
of another option, so the placeholders of all options are filled at once, and the order
in which the options are declared does not show. Nothing runs if the local of an option is
no name of the language. -/
namespace Botwright.EndpointSubstitution
open Script Reply SpecAdmission SnippetLocals OptionLocals RequestReading LiteralReading
  StatementReading IdentifierNames

/-! ## Replacing a text -/

/-- What is put for a match. After a dollar sign, some characters stand for the match or
for the text before or behind it. -/
def expand (before found behind : List Char) : List Char → List Char
  | '$' :: '$' :: rest => '$' :: expand before found behind rest
  | '$' :: '&' :: rest => found ++ expand before found behind rest
  | '$' :: '\x60' :: rest => before ++ expand before found behind rest
  | '$' :: '\'' :: rest => behind ++ expand before found behind rest
  | c :: rest => c :: expand before found behind rest
  | [] => []

/-- A text in which every occurrence of another is replaced, from the left and without
overlap. The empty text occurs in front of every character and at the end. -/
def replaceAll (target replacement before : List Char) : List Char → List Char
  | [] => if target = [] then expand before [] [] replacement else []
  | c :: rest =>
    if target = [] then
      expand before [] (c :: rest) replacement ++
        c :: replaceAll target replacement (before ++ [c]) rest
    else if target <+: c :: rest then
      expand before target (rest.drop (target.length - 1)) replacement ++
        replaceAll target replacement (before ++ target) (rest.drop (target.length - 1))
    else c :: replaceAll target replacement (before ++ [c]) rest
termination_by text => text.length
decreasing_by all_goals simp only [List.length_cons, List.length_drop]; omega

/-! ## Running the statements -/

/-- Locals with their values, the latest value of each first. An option that is not given
has no value. -/
abbrev Locals := List (String × Option (List Char))

/-- Makes a replacement in the endpoint, which has to have a value. Nothing else is run. -/
def perform (encode : List Char → List Char) (locals : Locals) : RequestStep → Option Locals
  | .replacement target source => do
    let value ← locals.lookup source
    let endpoint ← (← locals.lookup "endpoint")
    return ("endpoint", replaceAll target (encode (value.getD [])) [] endpoint) :: locals
  | .address _ _ | .header _ _ _ | .query _ _ => none

/-- A replacement, read whole and with the names of the language. -/
def statement? (text : List Char) : Option RequestStep :=
  (readReplacement languageNames text).bind fun (step, rest) =>
    if rest = [] then some step else none

def execute (encode : List Char → List Char) (locals : Locals) (statement : String) :
    Option Locals :=
  (statement? statement.toList).bind (perform encode locals)

/-- The locals of the options of a command. -/
def optionLocals (values : String → Option (List Char)) (options : List CommandOption) : Locals :=
  (bindOptions Scope.empty options).map fun option => (option.binding, values option.name)

/-- An endpoint after the statements that replace the placeholders of options in it. -/
def endpointAfter (encode : List Char → List Char) (values : String → Option (List Char))
    (options : List CommandOption) (endpoint : List Char) : Option (List Char) := do
  let start := ("endpoint", some endpoint) :: optionLocals values options
  let statements := (bindOptions Scope.empty options).map endpointReplacement
  let locals ← statements.foldlM (execute encode) start
  (← locals.lookup "endpoint")

/-! ## Filling all placeholders at once -/

/-- A text in which the placeholder of every one of the names is replaced by its value, and
every other character is kept. -/
def filled (names : List String) (value : String → List Char) : List Char → List Char
  | [] => []
  | c :: rest =>
    match names.find? fun name => (placeholder name).toList <+: c :: rest with
    | some name => value name ++ filled names value (rest.drop (name.length + 1))
    | none => c :: filled names value rest
termination_by text => text.length
decreasing_by all_goals simp only [List.length_cons, List.length_drop]; omega

/-- Between an opening brace and the next closing brace there is no other opening brace. -/
def Flat (text : List Char) : Prop :=
  ∀ behind ∈ text.tails, behind.head? = some '{' → '}' ∈ behind →
    '{' ∉ behind.tail.takeWhile (· ≠ '}')

instance (text : List Char) : Decidable (Flat text) := inferInstanceAs (Decidable (∀ _ ∈ _, _))

/-! ## Placeholders -/

/-- A name without braces. -/
def Plain (name : String) : Prop := '{' ∉ name.toList ∧ '}' ∉ name.toList

theorem plain_of_valid (valid : ValidName name) : Plain name := by
  have bare (c : Char) (brace : Spec.isNameChar c = false) : c ∉ name.toList := fun held => by
    have allowed := name_char_iff.mpr (valid.characters c held)
    rw [brace] at allowed
    cases allowed
  exact ⟨bare '{' (by decide +kernel), bare '}' (by decide +kernel)⟩

theorem placeholder_text (name : String) :
    (placeholder name).toList = '{' :: (name.toList ++ ['}']) := by
  simp [placeholder]

theorem placeholder_ne_nil (name : String) : (placeholder name).toList ≠ [] := by
  rw [placeholder_text]
  exact List.cons_ne_nil _ _

theorem until_closing {inner : List Char} (unclosed : '}' ∉ inner) (rest : List Char) :
    (inner ++ '}' :: rest).takeWhile (· ≠ '}') = inner := by
  have kept : ∀ c ∈ inner, decide (c ≠ '}') = true := fun c held => by
    simpa using fun same : c = '}' => unclosed (same ▸ held)
  rw [List.takeWhile_append_of_pos kept]
  simp

/-- A placeholder stands at an opening brace just if its name is what stands in front of
the next closing brace. -/
theorem stands_iff {inner : List Char} (plain : Plain name) (unclosed : '}' ∉ inner) :
    (placeholder name).toList <+: '{' :: (inner ++ '}' :: rest) ↔ name.toList = inner := by
  rw [placeholder_text, List.cons_prefix_cons]
  constructor
  · rintro ⟨-, behind, shape⟩
    rw [List.append_assoc, List.singleton_append] at shape
    rw [← until_closing plain.2 behind, shape, until_closing unclosed]
  · rintro rfl
    exact ⟨rfl, rest, by simp⟩

/-- What a placeholder stands in front of. -/
theorem split_of_stands (stands : (placeholder name).toList <+: c :: rest) :
    c :: rest = (placeholder name).toList ++ rest.drop (name.length + 1) := by
  have size : (placeholder name).toList.length = name.length + 2 := by
    rw [placeholder_text, List.length_cons, List.length_append, String.length_toList]
    rfl
  have shape := List.prefix_iff_eq_append.mp stands
  rw [size, List.drop_succ_cons] at shape
  exact shape.symm

/-- No two placeholders stand at one place. -/
theorem name_of_stands (plain : Plain name) (other : Plain otherName)
    (here : (placeholder name).toList <+: text) (there : (placeholder otherName).toList <+: text) :
    name = otherName := by
  obtain ⟨rest, rfl⟩ := here
  rw [placeholder_text name, List.cons_append, List.append_assoc, List.singleton_append,
    stands_iff other plain.2] at there
  exact (String.toList_inj.mp there).symm

theorem not_stands (other : c ≠ '{') (name : String) (rest : List Char) :
    ¬ (placeholder name).toList <+: c :: rest := by
  rw [placeholder_text, List.cons_prefix_cons]
  exact fun stands => other stands.1.symm

/-! ## Filled texts -/

/-- The name whose placeholder stands at the start of a text does not depend on the order
of the names. -/
theorem find_stands_iff {names : List String} (plain : ∀ name ∈ names, Plain name) :
    (names.find? fun name => (placeholder name).toList <+: text) = some found ↔
      found ∈ names ∧ (placeholder found).toList <+: text := by
  constructor
  · intro located
    exact ⟨List.mem_of_find?_eq_some located, by simpa using List.find?_some located⟩
  · rintro ⟨held, stands⟩
    have some : (names.find? fun name => (placeholder name).toList <+: text).isSome :=
      List.find?_isSome.mpr ⟨found, held, by simpa using stands⟩
    obtain ⟨first, located⟩ := Option.isSome_iff_exists.mp some
    have here : (placeholder first).toList <+: text := by simpa using List.find?_some located
    rw [located, name_of_stands (plain first (List.mem_of_find?_eq_some located))
      (plain found held) here stands]

theorem filled_perm {names others : List String} (plain : ∀ name ∈ names, Plain name)
    (same : names.Perm others) (value : String → List Char) (text : List Char) :
    filled others value text = filled names value text := by
  have also : ∀ name ∈ others, Plain name := fun name held => plain name (same.mem_iff.mpr held)
  have find (text : List Char) :
      (others.find? fun name => (placeholder name).toList <+: text) =
        names.find? fun name => (placeholder name).toList <+: text := by
    ext found
    rw [find_stands_iff plain, find_stands_iff also, same.mem_iff]
  fun_induction filled names value text with
  | case1 => rw [filled]
  | case2 c rest name located ih =>
    rw [filled, find, located]
    simp only [ih]
  | case3 c rest absent ih =>
    rw [filled, find, absent]
    simp only [ih]

theorem filled_keeps (absent : ∀ name ∈ names, ¬ (placeholder name).toList <+: c :: rest)
    (value : String → List Char) :
    filled names value (c :: rest) = c :: filled names value rest := by
  have missing : (names.find? fun name => (placeholder name).toList <+: c :: rest) = none :=
    List.find?_eq_none.mpr (by simpa using absent)
  rw [filled, missing]

/-- A part without an opening brace is kept. -/
theorem filled_part (names : List String) (value : String → List Char) (unopened : '{' ∉ part)
    (rest : List Char) : filled names value (part ++ rest) = part ++ filled names value rest := by
  induction part with
  | nil => rfl
  | cons c part ih =>
    rw [List.mem_cons, not_or] at unopened
    rw [List.cons_append, filled_keeps (fun name _ => not_stands (Ne.symm unopened.1) name _),
      ih unopened.2, List.cons_append]

/-- Without a closing brace there is no placeholder. -/
theorem filled_unclosed (names : List String) (value : String → List Char)
    (unclosed : '}' ∉ text) : filled names value text = text := by
  induction text with
  | nil => rw [filled]
  | cons c rest ih =>
    have absent : ∀ name ∈ names, ¬ (placeholder name).toList <+: c :: rest := by
      intro name _ stands
      exact unclosed (stands.subset (by simp [placeholder_text]))
    rw [filled_keeps absent, ih (fun held => unclosed (List.mem_cons_of_mem c held))]

/-! ## One replacement -/

theorem expand_calm (calm : '$' ∉ replacement) (before found behind : List Char) :
    expand before found behind replacement = replacement := by
  fun_induction expand before found behind replacement with
  | case5 c rest _ _ _ _ ih => rw [ih (fun held => calm (List.mem_cons_of_mem c held))]
  | case6 => rfl
  | _ => exact absurd List.mem_cons_self calm

theorem replace_other {target : List Char} (nonempty : target ≠ [])
    (absent : ¬ target <+: c :: rest) (replacement before : List Char) :
    replaceAll target replacement before (c :: rest) =
      c :: replaceAll target replacement (before ++ [c]) rest := by
  rw [replaceAll, if_neg nonempty, if_neg absent]

/-- A part without an opening brace is passed over. -/
theorem replace_part (name : String) (replacement before : List Char) (unopened : '{' ∉ part)
    (rest : List Char) :
    replaceAll (placeholder name).toList replacement before (part ++ rest) =
      part ++ replaceAll (placeholder name).toList replacement (before ++ part) rest := by
  induction part generalizing before with
  | nil => simp
  | cons c part ih =>
    rw [List.mem_cons, not_or] at unopened
    have absent := not_stands (Ne.symm unopened.1) name (part ++ rest)
    rw [List.cons_append, replace_other (placeholder_ne_nil name) absent, ih _ unopened.2,
      List.append_assoc, List.singleton_append, List.cons_append]

theorem replace_found (name : String) (calm : '$' ∉ replacement) (before rest : List Char) :
    replaceAll (placeholder name).toList replacement before ((placeholder name).toList ++ rest) =
      replacement ++ replaceAll (placeholder name).toList replacement
        (before ++ (placeholder name).toList) rest := by
  obtain ⟨c, more, shape⟩ := List.exists_cons_of_ne_nil (placeholder_ne_nil name)
  have stands : c :: more <+: c :: (more ++ rest) := by simp
  rw [shape, List.cons_append, replaceAll, if_neg (List.cons_ne_nil c more), if_pos stands,
    expand_calm calm]
  simp

/-- What is filled in leaves no new placeholder behind it: where none stood, there is still
none. -/
theorem still_absent (names : List String) (plain : Plain name) (flat : Flat (c :: rest))
    (absent : ¬ (placeholder name).toList <+: c :: rest) (value : String → List Char) :
    ¬ (placeholder name).toList <+: c :: filled names value rest := by
  by_cases opens : c = '{'
  · subst opens
    by_cases closes : '}' ∈ rest
    · obtain ⟨inner, after, rfl, unclosed⟩ := List.eq_append_cons_of_mem closes
      have unopened : '{' ∉ inner := by
        have between := flat _ ((List.mem_tails _ _).mpr (List.suffix_refl _)) rfl
          (List.mem_cons_of_mem _ closes)
        rwa [List.tail_cons, until_closing unclosed] at between
      have kept : filled names value (inner ++ '}' :: after) =
          inner ++ '}' :: filled names value after := by
        rw [filled_part names value unopened, ← List.singleton_append,
          filled_part names value (by decide), List.singleton_append]
      rw [kept, stands_iff plain unclosed]
      rwa [stands_iff plain unclosed] at absent
    · rw [filled_unclosed names value closes]
      exact absent
  · exact not_stands opens name _

theorem Flat.behind (flat : Flat text) (part : rest <:+ text) : Flat rest :=
  fun behind held => flat behind
    ((List.mem_tails _ _).mpr (((List.mem_tails _ _).mp held).trans part))

/-- A placeholder whose name is not listed stays where it stands. -/
theorem filled_unlisted {names : List String} (plainNames : ∀ name ∈ names, Plain name)
    (plain : Plain name) (unlisted : name ∉ names)
    (stands : (placeholder name).toList <+: c :: rest) (value : String → List Char) :
    filled names value (c :: rest) =
      (placeholder name).toList ++ filled names value (rest.drop (name.length + 1)) := by
  have split := split_of_stands stands
  have absent : ∀ other ∈ names, ¬ (placeholder other).toList <+: c :: rest :=
    fun other among here =>
      unlisted (name_of_stands plain (plainNames other among) stands here ▸ among)
  have opening := placeholder_text name
  rw [split, opening, List.cons_append] at absent ⊢
  rw [filled_keeps absent, filled_part names value (by simp [plain.1])]
  rfl

/-- One more replacement in a filled text fills the placeholders of one more name. -/
theorem replace_filled {names : List String} {value : String → List Char}
    (plainNames : ∀ name ∈ names, Plain name) (plain : Plain name)
    (calm : ∀ name, '{' ∉ value name ∧ '$' ∉ value name) (flat : Flat text)
    (before : List Char) :
    replaceAll (placeholder name).toList (value name) before (filled names value text) =
      filled (names ++ [name]) value text := by
  have all : ∀ other ∈ names ++ [name], Plain other := by
    simpa [or_imp, forall_and] using ⟨plainNames, plain⟩
  fun_induction filled (names ++ [name]) value text generalizing before with
  | case1 => rw [filled, replaceAll, if_neg (placeholder_ne_nil name)]
  | case2 c rest found located ih =>
    obtain ⟨held, stands⟩ := (find_stands_iff all).mp located
    have later := ih (flat.behind ((List.drop_suffix ..).trans (List.suffix_cons ..)))
    -- The name is one of those that are filled already, or the one whose turn it is.
    by_cases old : found ∈ names
    · have first := (find_stands_iff plainNames).mpr ⟨old, stands⟩
      rw [filled, first]
      simp only
      rw [replace_part name _ _ (calm found).1, later]
    · obtain rfl : found = name := by simpa [old] using held
      rw [filled_unlisted plainNames plain old stands value, replace_found found (calm found).2,
        later]
  | case3 c rest absent ih =>
    have none : ∀ other ∈ names ++ [name], ¬ (placeholder other).toList <+: c :: rest := by
      simpa using List.find?_eq_none.mp absent
    have others : ∀ other ∈ names, ¬ (placeholder other).toList <+: c :: rest :=
      fun other among => none other (List.mem_append_left _ among)
    have here := still_absent names plain flat (none name (by simp)) value
    rw [filled_keeps others, replace_other (placeholder_ne_nil name) here,
      ih (flat.behind (List.suffix_cons ..))]

/-! ## All replacements -/

/-- The local of an option has the value of the option. -/
theorem value_of_bound (values : String → Option (List Char))
    (bound : option ∈ bindOptions scope options) :
    ((bindOptions scope options).map fun option => (option.binding, values option.name)).lookup
      option.binding = some (values option.name) := by
  induction options generalizing scope with
  | nil => cases bound
  | cons first rest ih =>
    rw [bind_options_cons] at bound ⊢
    rw [List.map_cons, List.lookup_cons]
    rcases List.mem_cons.mp bound with rfl | later
    · rw [beq_self_eq_true]
    · have apart : option.binding ≠ scope.choose first.name := fun same =>
        fresh_of_bound later (same ▸ List.mem_cons_self)
      rw [beq_eq_false_iff_ne.mpr apart]
      exact ih later

/-- No local of an option has the name of the endpoint. -/
theorem binding_ne_endpoint (named : Local name) : (name == "endpoint") = false := by
  rw [beq_eq_false_iff_ne]
  rintro rfl
  exact named.unreserved (by decide)

/-- What is put for the placeholder of an option. -/
def encoded (encode : List Char → List Char) (values : String → Option (List Char))
    (name : String) : List Char :=
  encode ((values name).getD [])

theorem statement_replacement (named : Readable languageNames option.binding) :
    statement? (endpointReplacement option).toList =
      some (.replacement (placeholder option.name).toList option.binding) := by
  rw [statement?, read_replacement named]
  rfl

/-- One statement fills the placeholders of one more option. -/
theorem execute_replacement {names : List String} {values : String → Option (List Char)}
    (calm : ∀ value, '{' ∉ encode value ∧ '$' ∉ encode value) (flat : Flat text)
    (plainNames : ∀ name ∈ names, Plain name) (plain : Plain option.name)
    (named : Readable languageNames option.binding)
    (known : locals.lookup option.binding = some (values option.name))
    (current : locals.lookup "endpoint" = some (some (filled names (encoded encode values) text))) :
    execute encode locals (endpointReplacement option) =
      some (("endpoint", some (filled (names ++ [option.name]) (encoded encode values) text)) ::
        locals) := by
  have each : ∀ name, '{' ∉ encoded encode values name ∧ '$' ∉ encoded encode values name :=
    fun name => calm ((values name).getD [])
  have more := replace_filled plainNames plain each flat []
  rw [execute, statement_replacement named, Option.bind_some, perform, known, current]
  simp only [Option.bind_eq_bind, Option.bind_some, Option.pure_def]
  rw [← more, encoded]

/-- The statements for options fill the placeholders of all of them. -/
theorem execute_replacements {bound : List BoundOption} {values : String → Option (List Char)}
    (calm : ∀ value, '{' ∉ encode value ∧ '$' ∉ encode value) (flat : Flat text)
    (plainNames : ∀ name ∈ names, Plain name) (plain : ∀ option ∈ bound, Plain option.name)
    (named : ∀ option ∈ bound, Readable languageNames option.binding)
    (known : ∀ option ∈ bound, locals.lookup option.binding = some (values option.name))
    (current : locals.lookup "endpoint" = some (some (filled names (encoded encode values) text))) :
    ∃ after, (bound.map endpointReplacement).foldlM (execute encode) locals = some after ∧
      after.lookup "endpoint" =
        some (some (filled (names ++ bound.map (·.name)) (encoded encode values) text)) := by
  induction bound generalizing names locals with
  | nil => exact ⟨locals, rfl, by simpa using current⟩
  | cons option rest ih =>
    rw [List.forall_mem_cons] at plain named known
    -- The endpoint is filled for one more name, and no local of an option has changed.
    have here := execute_replacement calm flat plainNames plain.1 named.1 known.1 current
    have all : ∀ name ∈ names ++ [option.name], Plain name := by
      simpa [or_imp, forall_and] using ⟨plainNames, plain.1⟩
    have kept : ∀ other ∈ rest, List.lookup other.binding
        (("endpoint", some (filled (names ++ [option.name]) (encoded encode values) text)) ::
          locals) = some (values other.name) := by
      intro other later
      rw [List.lookup_cons, binding_ne_endpoint (named.2 other later).isLocal]
      exact known.2 other later
    obtain ⟨after, runs, final⟩ := ih all plain.2 named.2 kept List.lookup_cons_self
    refine ⟨after, ?_, ?_⟩
    · rw [List.map_cons, List.foldlM_cons, here]
      exact runs
    · rw [final, List.map_cons, List.append_assoc, List.singleton_append]

theorem filled_nothing (value : String → List Char) (text : List Char) :
    filled [] value text = text := by
  induction text with
  | nil => rw [filled]
  | cons c rest ih => rw [filled_keeps (by simp), ih]

/-- No statements run of which one has a local that is no name of the language. -/
theorem execute_refused (encode : List Char → List Char) {bound : List BoundOption}
    (named : ∀ option ∈ bound, Local option.binding)
    (refused : ∃ option ∈ bound, languageNames option.binding = false) (locals : Locals) :
    (bound.map endpointReplacement).foldlM (execute encode) locals = none := by
  induction bound generalizing locals with
  | nil => simp at refused
  | cons option rest ih =>
    rw [List.forall_mem_cons] at named
    rw [List.map_cons, List.foldlM_cons]
    cases admitted : languageNames option.binding with
    | false =>
      rw [execute, statement?, read_replacement_refused named.1 admitted]
      rfl
    | true =>
      have later : ∃ option ∈ rest, languageNames option.binding = false := by
        simpa [admitted] using refused
      cases execute encode locals (endpointReplacement option) with
      | none => rfl
      | some next => exact ih named.2 later next

theorem endpoint_after_eq {options : List CommandOption}
    (calm : ∀ value, '{' ∉ encode value ∧ '$' ∉ encode value)
    (valid : ∀ option ∈ options, ValidName option.name) (flat : Flat endpoint)
    (named : ∀ option ∈ bindOptions Scope.empty options,
      Readable languageNames option.binding)
    (values : String → Option (List Char)) :
    endpointAfter encode values options endpoint =
      some (filled (options.map (·.name)) (encoded encode values) endpoint) := by
  have names := names_bind_options Scope.empty options
  have plain : ∀ option ∈ bindOptions Scope.empty options, Plain option.name := by
    intro option bound
    obtain ⟨declared, held, same⟩ := List.mem_map.mp (names ▸ List.mem_map_of_mem bound)
    exact same ▸ plain_of_valid (valid declared held)
  have known : ∀ option ∈ bindOptions Scope.empty options,
      List.lookup option.binding (("endpoint", some endpoint) :: optionLocals values options) =
        some (values option.name) := by
    intro option bound
    rw [List.lookup_cons, binding_ne_endpoint (local_of_bound bound)]
    exact value_of_bound values bound
  have start : List.lookup "endpoint"
      (("endpoint", some endpoint) :: optionLocals values options) =
        some (some (filled [] (encoded encode values) endpoint)) := by
    rw [filled_nothing, List.lookup_cons_self]
  obtain ⟨after, runs, final⟩ := execute_replacements calm flat (by simp) plain named known start
  rw [endpointAfter]
  simp only [runs, final, names, Option.bind_eq_bind, Option.bind_some, List.nil_append]

theorem endpoint_after_refused (encode : List Char → List Char)
    (values : String → Option (List Char)) {options : List CommandOption}
    (refused : ∃ option ∈ bindOptions Scope.empty options,
      languageNames option.binding = false) (endpoint : List Char) :
    endpointAfter encode values options endpoint = none := by
  rw [endpointAfter]
  simp only [execute_refused encode (fun _ bound => local_of_bound bound) refused,
    Option.bind_eq_bind, Option.bind_none]

/-! ## Locals that are names of the language -/

/-- Whether all locals are portable depends on the names of the options, and not on what
they collide with. -/
theorem portable_bindings_iff (scope : Scope) (options : List CommandOption) :
    (∀ option ∈ bindOptions scope options, Portable option.binding) ↔
      ∀ option ∈ options, Portable (sanitize option.name) := by
  induction options generalizing scope with
  | nil => simp [bindOptions]
  | cons option rest ih =>
    rw [bind_options_cons, List.forall_mem_cons, List.forall_mem_cons, ih, portable_choose]

theorem portable_bindings_perm {options others : List CommandOption}
    (same : options.Perm others) :
    (∀ option ∈ bindOptions Scope.empty others, Portable option.binding) ↔
      ∀ option ∈ bindOptions Scope.empty options, Portable option.binding := by
  simp only [portable_bindings_iff, same.mem_iff]

/-- An endpoint after the replacements, whatever the names of the options are. -/
theorem endpoint_after_ite {options : List CommandOption}
    (calm : ∀ value, '{' ∉ encode value ∧ '$' ∉ encode value)
    (valid : ∀ option ∈ options, ValidName option.name) (flat : Flat endpoint)
    (values : String → Option (List Char)) :
    endpointAfter encode values options endpoint =
      if ∀ option ∈ bindOptions Scope.empty options, Portable option.binding then
        some (filled (options.map (·.name)) (encoded encode values) endpoint)
      else none := by
  split
  · next portable =>
    refine endpoint_after_eq calm valid flat (fun option bound => ?_) values
    have named := local_of_bound bound
    exact ⟨named, (language_names_iff named.identifier).mpr (portable option bound)⟩
  · next stray =>
    obtain ⟨option, bound, other⟩ : ∃ option ∈ bindOptions Scope.empty options,
        ¬Portable option.binding := by simpa using stray
    have refused : languageNames option.binding = false :=
      Bool.eq_false_iff.mpr (mt (language_names_iff (local_of_bound bound).identifier).mp other)
    exact endpoint_after_refused encode values ⟨option, bound, refused⟩ endpoint

/-- Run one after another, the replacements for options fill the placeholders of all of
them at once: what is filled in is not looked at again, and all other characters are kept.
They run just if the locals of the options are portable. So the address is the same in
whichever order the options are declared. Of the encoding it is only needed that it makes
no opening brace and no dollar sign. -/
theorem endpoint_filled_at_once (encode : List Char → List Char)
    (calm : ∀ value, '{' ∉ encode value ∧ '$' ∉ encode value) (options : List CommandOption)
    (valid : ∀ option ∈ options, ValidName option.name) (endpoint : List Char)
    (flat : Flat endpoint) (values : String → Option (List Char)) :
    (endpointAfter encode values options endpoint =
      if ∀ option ∈ bindOptions Scope.empty options, Portable option.binding then
        some (filled (options.map (·.name)) (encoded encode values) endpoint)
      else none) ∧
      ∀ others, options.Perm others →
        endpointAfter encode values others endpoint =
          endpointAfter encode values options endpoint := by
  refine ⟨endpoint_after_ite calm valid flat values, fun others same => ?_⟩
  have plain : ∀ name ∈ options.map (·.name), Plain name := by
    intro name held
    obtain ⟨option, declared, rfl⟩ := List.mem_map.mp held
    exact plain_of_valid (valid option declared)
  have validOthers : ∀ option ∈ others, ValidName option.name :=
    fun option held => valid option (same.mem_iff.mpr held)
  rw [endpoint_after_ite calm valid flat, endpoint_after_ite calm validOthers flat,
    filled_perm plain (same.map _)]
  simp only [portable_bindings_perm same]

/-! ## Percent-encoding -/

def hexDigits : List Char := "0123456789ABCDEF".toList

/-- The characters that are not encoded. -/
def isUnreserved (c : Char) : Bool := c.isAlphanum || "-_.!~*'()".toList.contains c

/-- A text with the bytes of every character that is reserved in an address in
hexadecimal, each behind a percent sign. -/
def percentEncode (text : List Char) : List Char :=
  text.flatMap fun c =>
    if isUnreserved c then [c]
    else (String.utf8EncodeChar c).flatMap fun byte =>
      ['%', hexDigits.getD (byte.toNat / 16) '0', hexDigits.getD (byte.toNat % 16) '0']

theorem hex_digit_mem (n : Nat) : hexDigits.getD n '0' ∈ hexDigits := by
  rw [List.getD_eq_getElem?_getD]
  cases found : hexDigits[n]? with
  | none => decide
  | some digit => exact List.mem_of_getElem? found

theorem percent_encode_calm (text : List Char) :
    '{' ∉ percentEncode text ∧ '$' ∉ percentEncode text := by
  have without (c : Char) (reserved : isUnreserved c = false) (percent : c ≠ '%')
      (digit : c ∉ hexDigits) : c ∉ percentEncode text := by
    intro held
    obtain ⟨source, -, held⟩ := List.mem_flatMap.mp held
    split at held
    · next unreserved =>
      rw [List.mem_singleton] at held
      rw [held, unreserved] at reserved
      cases reserved
    · obtain ⟨byte, -, held⟩ := List.mem_flatMap.mp held
      simp only [List.mem_cons, List.not_mem_nil, or_false] at held
      rcases held with same | same | same
      · exact percent same
      · exact digit (same ▸ hex_digit_mem _)
      · exact digit (same ▸ hex_digit_mem _)
  exact ⟨without '{' (by decide) (by decide) (by decide),
    without '$' (by decide) (by decide) (by decide)⟩

/-- Names of which one begins another, and one that the local of the endpoint has. -/
def crookedOptions : List CommandOption :=
  ["a", "ab", "endpoint"].map fun name => ⟨name, "", .string, false⟩

/-- Placeholders next to one another, one without an option, and stray braces. -/
def crookedEndpoint : String :=
  "\x7d/\x7ba\x7d\x7bab\x7d\x7babc\x7d\x7d/\x7bendpoint\x7d/\x7ba\x7d?q=\x7bb"

def crookedValues : String → Option (List Char)
  | "a" => some "\x7bab\x7d$&".toList
  | "ab" => some "é".toList
  | _ => none

theorem crooked_endpoint_filled :
    endpointAfter percentEncode crookedValues crookedOptions crookedEndpoint.toList =
        some "\x7d/%7Bab%7D%24%26%C3%A9\x7babc\x7d\x7d//%7Bab%7D%24%26?q=\x7bb".toList ∧
      ∀ others, crookedOptions.Perm others →
        endpointAfter percentEncode crookedValues others crookedEndpoint.toList =
          endpointAfter percentEncode crookedValues crookedOptions crookedEndpoint.toList := by
  have valid : ∀ option ∈ crookedOptions, ValidName option.name := fun option held =>
    is_valid_name_iff.mp (by revert option; decide +kernel)
  have portable : ∀ option ∈ bindOptions Scope.empty crookedOptions,
      Portable option.binding := by decide +kernel
  have once := endpoint_filled_at_once percentEncode percent_encode_calm crookedOptions valid
    crookedEndpoint.toList (by decide +kernel) crookedValues
  have text : filled (crookedOptions.map (·.name)) (encoded percentEncode crookedValues)
      crookedEndpoint.toList =
        "\x7d/%7Bab%7D%24%26%C3%A9\x7babc\x7d\x7d//%7Bab%7D%24%26?q=\x7bb".toList := by
    decide +kernel
  rwa [if_pos portable, text] at once

/-- An option with a character in its name that no name of the language holds. -/
def squareOptions : List CommandOption := [⟨"x\u00b2", "", .integer, false⟩]

/-- The square has a valid name, and its replacement does not run: it is no statement of the
language, because the generator writes the option's local bare. -/
theorem square_endpoint_unfilled :
    (∀ option ∈ squareOptions, Spec.isValidName option.name = true) ∧
      filled (squareOptions.map (·.name)) (encoded percentEncode fun _ => some ['9'])
        "/a/\x7bx\u00b2\x7d".toList = "/a/9".toList ∧
      endpointAfter percentEncode (fun _ => some ['9']) squareOptions
        "/a/\x7bx\u00b2\x7d".toList = none := by
  have bound : ⟨"x\u00b2", "x\u00b2"⟩ ∈ bindOptions Scope.empty squareOptions := by decide +kernel
  have refused : languageNames "x\u00b2" = false := by decide +kernel
  exact ⟨by decide +kernel, by decide +kernel,
    endpoint_after_refused percentEncode _ ⟨_, bound, refused⟩ _⟩

end Botwright.EndpointSubstitution
