import Botwright.Assoc
import Botwright.Proofs.WarningForecast

/-! The dispatcher of a module, run on what the module declares. Without collisions it
answers every command by the handler of that command and every other text by the
message for unknown commands. The one exception is a command named `__proto__`: its
entry in the table sets the prototype of the table, and the command is not found. -/
namespace Botwright.CommandDispatch
open Script Reply Project LiteralReading ModuleReading

/-! ## Running the dispatcher -/

/-- What a call of the dispatcher comes to. -/
inductive Answer where
  | message (content : String)
  /-- What a function of the module makes of the options. -/
  | run (name : String) (body : List Code)

/-- The properties that an object literal gives its object. A later value for a key takes
the place of an earlier one; a quoted `__proto__` sets the prototype instead. -/
def ownProperties (entries : List (String × String)) : List (String × String) :=
  (entries.filter (·.1 ≠ "__proto__")).foldl
    (fun properties (key, value) => Assoc.put key value properties) []

/-- The object that is tested for a property of the name that the dispatcher is given. -/
def readGuard : Reader String := fun s => do
  let s ← expect "if (!Object.hasOwn(" s
  let (object, s) ← readReference languageNames s
  let s ← expect ", name)) \x7b" s
  return (object, s)

/-- The content of a message. -/
def readRefusal : Reader (List Char) := fun s => do
  let s ← expect "return \x7b content: " s
  let (content, s) ← readString s
  let s ← expect " \x7d;" s
  return (content, s)

/-- The object whose property of the given name is called. -/
def readCall : Reader String := fun s => do
  let s ← expect "const payload = await " s
  let (object, s) ← readReference languageNames s
  let s ← expect "[name](options ?? \x7b\x7d, env);" s
  return (object, s)

/-- The object in which a dispatcher looks the name up, and the content of its message for
a name that is no property of the object's own. What the dispatcher does to the payload of
a handler before it returns it is not read. -/
def readDispatcher : List Code → Option (String × String)
  | .block guard closing [.line refusal] :: .line call :: _ =>
    match readGuard guard.toList, readRefusal refusal.toList, readCall call.toList with
    | some (tested, []), some (content, []), some (called, []) =>
      if closing = "\x7d" ∧ called = tested then some (tested, String.ofList content) else none
    | _, _, _ => none
  | _ => none

/-- The body of the function of a name. -/
def functionBody? (declarations : List Declaration) (name : String) : Option (List Code) :=
  declarations.findSome? fun
    | .function declared _ body => if declared = name then some body else none
    | _ => none

/-- The entries of the object of a name. -/
def entries? (declarations : List Declaration) (name : String) : Option (List (String × String)) :=
  declarations.findSome? fun
    | .object declared entries => if declared = name then some entries else none
    | _ => none

/-- What the dispatcher of some declarations answers to a name. Declarations of one name
are an error, and then nothing runs. -/
def answer? (declarations : List Declaration) (name : String) : Option Answer := do
  if ¬(declarations.map Declaration.name).Nodup then none
  let body ← functionBody? declarations "dispatchCommand"
  let (object, refusal) ← readDispatcher body
  let entries ← entries? declarations object
  match (ownProperties entries).lookup name with
  | none => return .message refusal
  | some function => return .run function (← functionBody? declarations function)

/-- What the dispatcher of a module answers to a name. -/
def dispatched (pieces : List Code) (name : String) : Option Answer :=
  (readModule pieces).bind (answer? · name)

/-! ## The table of handlers -/

/-- The last value that a key was given counts. -/
theorem lookup_fold_put (entries properties : List (String × String)) (key : String) :
    (entries.foldl (fun properties (key, value) => Assoc.put key value properties)
      properties).lookup key = (entries.reverse.lookup key).or (properties.lookup key) := by
  induction entries generalizing properties with
  | nil => rfl
  | cons entry rest ih =>
    obtain ⟨first, value⟩ := entry
    rw [List.foldl_cons, ih, Assoc.lookup_put, List.reverse_cons, List.lookup_append,
      Option.or_assoc, List.lookup_cons]
    cases key == first <;> rfl

/-- The entries of the table for some commands. -/
def table (commands : List Command) : List (String × String) :=
  commands.map fun command => (command.name, handlerName command.name)

theorem lookup_table (commands : List Command) (key : String) :
    (table commands).lookup key =
      (commands.find? (·.name = key)).map fun command => handlerName command.name := by
  induction commands with
  | nil => rfl
  | cons command rest ih =>
    rw [table] at ih ⊢
    rw [List.map_cons, List.lookup_cons, List.find?_cons, ih]
    by_cases same : command.name = key
    · simp [same]
    · have other : (key == command.name) = false :=
        beq_eq_false_iff_ne.mpr (Ne.symm same)
      simp [same, other]

theorem lookup_own (commands : List Command) (key : String) :
    (ownProperties (table commands)).lookup key =
      ((commands.filter (·.name ≠ "__proto__")).reverse.find? (·.name = key)).map
        fun command => handlerName command.name := by
  rw [ownProperties, lookup_fold_put, List.lookup_nil, Option.or_none, ← lookup_table]
  simp [table, List.filter_map, Function.comp_def]

/-- What is picked from the one item that has something to give. -/
theorem pick_only {pick : α → Option β} {items : List α} (held : item ∈ items)
    (picked : pick item = some result)
    (only : ∀ other ∈ items, (pick other).isSome = true → other = item) :
    items.findSome? pick = some result := by
  cases found : items.findSome? pick with
  | none =>
    rw [List.findSome?_eq_none_iff] at found
    rw [found item held] at picked
    cases picked
  | some here =>
    obtain ⟨other, listed, given⟩ := List.exists_of_findSome?_eq_some found
    rw [only other listed (by simp [given]), picked] at given
    exact given.symm

/-- What is found is the only one that could be. -/
theorem find_only {commands : List Command} {test : Command → Bool} (held : command ∈ commands)
    (passes : test command = true) (only : ∀ c ∈ commands, test c = true → c = command) :
    commands.find? test = some command := by
  rw [List.find?_eq_findSome?_guard]
  refine pick_only held (by simp [passes]) fun other listed given => only other listed ?_
  simpa using given

theorem lookup_declared {commands : List Command} (distinct : (commands.map (·.name)).Nodup)
    (held : command ∈ commands) (plain : command.name ≠ "__proto__") :
    (ownProperties (table commands)).lookup command.name = some (handlerName command.name) := by
  have found : (commands.filter (·.name ≠ "__proto__")).reverse.find?
      (·.name = command.name) = some command := by
    refine find_only (by simp [held, plain]) (by simp) fun c listed same => ?_
    have other : c ∈ commands := (List.mem_filter.mp (List.mem_reverse.mp listed)).1
    exact WarningForecast.command_of_name distinct held other (by simpa using same)
  rw [lookup_own, found, Option.map_some]

theorem lookup_undeclared {commands : List Command}
    (absent : ∀ command ∈ commands, command.name = key → key = "__proto__") :
    (ownProperties (table commands)).lookup key = none := by
  rw [lookup_own, Option.map_eq_none_iff, List.find?_eq_none]
  intro command listed
  obtain ⟨held, plain⟩ := List.mem_filter.mp (List.mem_reverse.mp listed)
  simp only [decide_eq_true_eq] at plain ⊢
  exact fun same => plain (same.trans (absent command held same))

/-! ## Names of the module -/

/-- No upper case begins with a small r, or is empty. -/
theorem upper_char_begins (c : Char) : ∃ d more, Text.upperChar c = d :: more ∧ d ≠ 'r' := by
  -- Both tables are looked through once; a character in neither is its own upper case.
  have expansions : ∀ entry ∈ Text.upperExpansions,
      entry.2.head?.any (fun code => Char.ofNat code ≠ 'r') = true := by decide +kernel
  have images : ∀ range ∈ Text.upperRanges,
      range.2.2.2 + (range.2.1 - range.1) < 'r'.toNat ∨ 'r'.toNat < range.2.2.2 := by
    decide +kernel
  rw [Text.upperChar, Text.mapCase]
  split
  · next codes found =>
    obtain ⟨before, after, shape, _⟩ := List.lookup_eq_some_iff.mp found
    have head := expansions (c.toNat, codes) (by simp [shape])
    cases codes with
    | nil => simp at head
    | cons code more => exact ⟨Char.ofNat code, more.map Char.ofNat, rfl, by simpa using head⟩
  · split
    · next code mapped =>
      refine ⟨Char.ofNat code, [], rfl, fun same => ?_⟩
      obtain ⟨⟨first, last, step, image⟩, held, here⟩ := List.exists_of_findSome?_eq_some mapped
      simp only [Option.ite_none_right_eq_some, Option.some.injEq] at here
      have range := images _ held
      have code_r : code = 'r'.toNat := by
        by_cases valid : code.isValidChar
        · exact congrArg Char.toNat ((dif_pos valid).symm.trans same)
        · cases (dif_neg valid).symm.trans same
      simp only at range
      omega
    · next unmapped =>
      refine ⟨c, [], rfl, ?_⟩
      rintro rfl
      exact absurd unmapped (by decide +kernel)

theorem capitalized_begins (words : List (List Char)) :
    (sanitizeChars (words.flatMap Text.capitalize)).head? ≠ some 'r' := by
  induction words with
  | nil => simp [sanitizeChars]
  | cons word rest ih =>
    cases word with
    | nil => exact ih
    | cons c inner =>
      obtain ⟨d, more, upper, other⟩ := upper_char_begins c
      have first : sanitizeChars ((c :: inner) :: rest |>.flatMap Text.capitalize) =
          (if isIdentifierPart d then d else '_') ::
            sanitizeChars (more ++ inner ++ rest.flatMap Text.capitalize) := by
        simp [sanitizeChars, Text.capitalize, upper]
      rw [first, List.head?_cons]
      split
      · simpa using other
      · decide

/-- No handler is named like something else in the module. Only the table's name begins
like a handler's, and it goes on with a small letter. -/
theorem handler_name_ne (command : String) :
    handlerName command ∉ ["buildUrl", "handlers", "MAX_CONTENT_LENGTH", "dispatchCommand"] := by
  have apart := capitalized_begins (Text.pieces (fun c => c = '-' || c = '_') command.toList)
  have text : (handlerName command).toList = 'h' :: 'a' :: 'n' :: 'd' :: 'l' :: 'e' ::
      sanitizeChars ((Text.pieces (fun c => c = '-' || c = '_') command.toList).flatMap
        Text.capitalize) := by
    simp [handlerName]
  intro clash
  simp only [List.mem_cons, List.not_mem_nil, or_false] at clash
  rcases clash with same | same | same | same <;> rw [same] at text
  · simp at text
  · simp only [String.reduceToList, List.cons.injEq, true_and] at text
    exact apart (by rw [← text]; rfl)
  · simp at text
  · simp at text

theorem read_refusal (content : String) :
    readRefusal ("return \x7b content: " ++ stringLiteral content ++ " \x7d;").toList =
      some (content.toList, []) := by
  have text : ("return \x7b content: " ++ stringLiteral content ++ " \x7d;").toList =
      "return \x7b content: ".toList ++ (quoted content.toList ++ (" \x7d;".toList ++ [])) := by
    simp [stringLiteral]
  rw [readRefusal, text]
  simp only [expect_append, read_quoted, Option.bind_eq_bind, Option.bind_some]
  rfl

theorem read_dispatcher_body (locale : Locale) : readDispatcher (dispatcherBody locale) =
    some ("handlers", (Messages.of locale).unknownCommand) := by
  have guard : readGuard "if (!Object.hasOwn(handlers, name)) \x7b".toList =
      some ("handlers", []) := by decide +kernel
  have call : readCall "const payload = await handlers[name](options ?? \x7b\x7d, env);".toList =
      some ("handlers", []) := by decide +kernel
  have shape : ∃ rest, dispatcherBody locale =
      .block "if (!Object.hasOwn(handlers, name)) \x7b" "\x7d"
        [.line ("return \x7b content: " ++ stringLiteral (Messages.of locale).unknownCommand ++
          " \x7d;")] ::
      .line "const payload = await handlers[name](options ?? \x7b\x7d, env);" :: rest := ⟨_, rfl⟩
  obtain ⟨rest, shape⟩ := shape
  rw [shape, readDispatcher, guard, read_refusal, call]
  simp

/-! ## Looking a name up in the module -/

section Lookup
variable {declarations : List Declaration}

theorem declaration_of_name (distinct : (declarations.map Declaration.name).Nodup)
    (held : declaration ∈ declarations) (other : d ∈ declarations)
    (same : d.name = declaration.name) : d = declaration :=
  List.inj_on_of_nodup_map distinct other held same

theorem function_body (distinct : (declarations.map Declaration.name).Nodup)
    (held : .function name parameters body ∈ declarations) :
    functionBody? declarations name = some body := by
  refine pick_only held (by simp) fun other listed given => ?_
  cases other with
  | function declared _ _ =>
    refine declaration_of_name distinct held listed ?_
    by_contra differs
    have differs : ¬declared = name := differs
    simp [differs] at given
  | constant | object => simp at given

theorem object_entries (distinct : (declarations.map Declaration.name).Nodup)
    (held : .object name entries ∈ declarations) :
    entries? declarations name = some entries := by
  refine pick_only held (by simp) fun other listed given => ?_
  cases other with
  | object declared _ =>
    refine declaration_of_name distinct held listed ?_
    by_contra differs
    have differs : ¬declared = name := differs
    simp [differs] at given
  | constant | function => simp at given

end Lookup

theorem module_names (style : Style) {spec : Spec}
    (distinct : (spec.commands.map fun command => handlerName command.name).Nodup) :
    ((moduleDeclarations style spec).map Declaration.name).Nodup := by
  have helper : ((helpers spec).map Declaration.name).Sublist ["buildUrl"] := by
    unfold helpers
    split
    · exact .refl _
    · exact List.nil_sublist _
  have handlers : (spec.commands.map (handlerFunction style spec)).map Declaration.name =
      spec.commands.map fun command => handlerName command.name := by
    rw [List.map_map]
    rfl
  have apart : ∀ command ∈ spec.commands, handlerName command.name ∉
      ["buildUrl", "handlers", "MAX_CONTENT_LENGTH", "dispatchCommand"] :=
    fun command _ => handler_name_ne command.name
  rw [moduleDeclarations, List.map_append, List.map_append, handlers]
  refine ((helper.append (.refl _)).append (.refl _)).nodup ?_
  simp only [List.mem_cons, List.not_mem_nil, or_false, not_or] at apart
  simp only [List.nodup_append, Declaration.name, distinct, List.map_cons, List.map_nil]
  simpa using ⟨fun command held => Ne.symm (apart command held).1,
    fun command held => (apart command held).2⟩

/-- The module runs, and its dispatcher answers by its table. -/
theorem dispatched_by_table (style : Style) {spec : Spec}
    (distinct : (spec.commands.map fun command => handlerName command.name).Nodup)
    (name : String) :
    dispatched (commandCode style spec) name =
      match (ownProperties (table spec.commands)).lookup name with
      | none => some (.message (Messages.of style.locale).unknownCommand)
      | some function =>
        (functionBody? (moduleDeclarations style spec) function).map (.run function) := by
  have names := module_names style distinct
  have dispatcher : .function "dispatchCommand" "name, options, env"
      (dispatcherBody style.locale) ∈ moduleDeclarations style spec := by
    simp [moduleDeclarations]
  have handlers : .object "handlers" (table spec.commands) ∈ moduleDeclarations style spec := by
    simp [moduleDeclarations, table]
  rw [dispatched, read_module, Option.bind_some, answer?, if_neg (not_not.mpr names),
    function_body names dispatcher]
  simp only [Option.bind_eq_bind, Option.bind_some, read_dispatcher_body,
    object_entries names handlers]
  cases (ownProperties (table spec.commands)).lookup name with
  | none => rfl
  | some function =>
    simp only []
    cases functionBody? (moduleDeclarations style spec) function <;> rfl

/-- In the module of an accepted specification without collisions, the dispatcher runs for
a command's name the handler of that command, and answers all other texts by the message
for unknown commands. To a command named `__proto__` it answers that message, too. -/
theorem dispatch_reaches_handlers (style : Style) {spec : Spec} {warnings : List Warning}
    (validated : spec.validate = .ok warnings)
    (unique : ∀ first second name, .handlerCollision first second name ∉ warnings) :
    (∀ command ∈ spec.commands, command.name ≠ "__proto__" →
      dispatched (commandCode style spec) command.name =
        some (.run (handlerName command.name) (handlerBody style spec command))) ∧
    ∀ name, (∀ command ∈ spec.commands, command.name = name → name = "__proto__") →
      dispatched (commandCode style spec) name =
        some (.message (Messages.of style.locale).unknownCommand) := by
  have accepted : spec.check = .ok () :=
    (SpecAdmission.validate_ok_iff spec).mp ⟨warnings, validated⟩
  have admitted := (SpecAdmission.check_ok_iff spec).mp accepted
  have reported : warnings = spec.warnings := by
    rw [Spec.validate, accepted] at validated
    exact (Except.ok.inj validated).symm
  -- Without a reported collision, no two handlers of the module have one name.
  have distinct := (WarningForecast.no_collision_iff admitted.distinct).mp (reported ▸ unique)
  have names := module_names style distinct
  constructor
  · intro command held plain
    have handler : handlerFunction style spec command ∈ moduleDeclarations style spec := by
      simp only [moduleDeclarations, List.mem_append, List.mem_map]
      exact .inl (.inr ⟨command, held, rfl⟩)
    rw [dispatched_by_table style distinct, lookup_declared admitted.distinct held plain]
    simp only [function_body names handler, Option.map_some]
  · intro name absent
    rw [dispatched_by_table style distinct, lookup_undeclared absent]

/-- Two commands, one of which has the name that no entry of an object literal can take. -/
def sampleSpec : Spec where
  bot := ⟨"bot", "", none, none, none, .gateway⟩
  profiles := []
  commands :=
    [{ Preset.command "__proto__" "first" .staticText with staticText := some "one" },
     { Preset.command "_proto_a" "second" .staticText with staticText := some "two" }]

theorem sample_reaches_handlers :
    sampleSpec.validate = .ok [] ∧
    (∀ first second name, .handlerCollision first second name ∉ ([] : List Warning)) ∧
    (∀ command ∈ sampleSpec.commands, command.name ≠ "__proto__" →
      dispatched (commandCode ⟨.simpleText, .english⟩ sampleSpec) command.name =
        some (.run (handlerName command.name)
          (handlerBody ⟨.simpleText, .english⟩ sampleSpec command))) ∧
    ∀ name, (∀ command ∈ sampleSpec.commands, command.name = name → name = "__proto__") →
      dispatched (commandCode ⟨.simpleText, .english⟩ sampleSpec) name =
        some (.message "Unknown command.") :=
  have validated : sampleSpec.validate = .ok [] := by rfl
  have unique : ∀ first second name, .handlerCollision first second name ∉ ([] : List Warning) :=
    fun _ _ _ => List.not_mem_nil
  ⟨validated, unique, dispatch_reaches_handlers ⟨.simpleText, .english⟩ validated unique⟩

/-- An accepted specification without a warning whose module does not know a command
that it declares. -/
theorem declared_command_unknown :
    ∃ command ∈ sampleSpec.commands, sampleSpec.validate = .ok [] ∧
      dispatched (commandCode ⟨.simpleText, .english⟩ sampleSpec) command.name =
        some (.message "Unknown command.") := by
  have distinct : (sampleSpec.commands.map fun command => handlerName command.name).Nodup := by
    decide +kernel
  refine ⟨_, List.mem_cons_self, rfl, ?_⟩
  rw [dispatched_by_table ⟨.simpleText, .english⟩ distinct]
  rfl

end Botwright.CommandDispatch
