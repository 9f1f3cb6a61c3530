import Mathlib.Data.List.Induction
import Botwright.Proofs.ModuleReading
import Botwright.Proofs.SpecAdmission
import Botwright.Spec.Preset

/-! The warnings of an accepted specification foretell what its module lacks: which
commands share a handler's name with an earlier one, and which handlers only say
that they are not configured. -/
namespace Botwright.WarningForecast
open Script Reply Project SpecAdmission ModuleReading
open Spec (warningsFrom commandWarnings collision? missingProfile? placeholderWarnings)

/-! ## Where a warning comes from -/

theorem mem_warnings_from : warning ∈ warningsFrom spec earlier pending ↔
    ∃ front command back, pending = front ++ command :: back ∧
      warning ∈ commandWarnings spec (earlier ++ front) command := by
  induction pending generalizing earlier with
  | nil => simp [warningsFrom]
  | cons first rest ih =>
    rw [warningsFrom, List.mem_append, ih]
    constructor
    · rintro (own | ⟨front, command, back, rfl, held⟩)
      · exact ⟨[], first, rest, rfl, by rwa [List.append_nil]⟩
      · exact ⟨first :: front, command, back, rfl, by simpa using held⟩
    · rintro ⟨front, command, back, shape, held⟩
      cases front with
      | nil =>
        cases shape
        rw [List.append_nil] at held
        exact .inl held
      | cons head front =>
        cases shape
        exact .inr ⟨front, command, back, rfl, by simpa using held⟩

/-- A warning is about one command behind the ones before it. -/
theorem mem_warnings : warning ∈ spec.warnings ↔
    ∃ earlier command later, spec.commands = earlier ++ command :: later ∧
      warning ∈ commandWarnings spec earlier command :=
  mem_warnings_from

/-! ## Distinct names -/

/-- Names are distinct exactly if none comes back later. -/
theorem nodup_map_iff {commands : List Command} (name : Command → String) :
    (commands.map name).Nodup ↔ ∀ earlier command later, commands = earlier ++ command :: later →
      ∀ c ∈ earlier, name c ≠ name command := by
  constructor
  · rintro distinct earlier command later rfl c held same
    rw [List.map_append, List.map_cons, List.nodup_append'] at distinct
    exact distinct.2.2 (List.mem_map_of_mem held) (same ▸ List.mem_cons_self)
  · intro apart
    -- on the commands from the last one on: it differs from all before it
    induction commands using List.reverseRecOn with
    | nil => exact List.nodup_nil
    | append_singleton front last ih =>
      have before : (front.map name).Nodup := ih fun earlier command later shape =>
        apart earlier command (later ++ [last]) (by simp [shape])
      have fresh := apart front last [] rfl
      rw [List.map_append, List.nodup_append']
      simpa [before, eq_comm] using fresh

/-- Two commands of one name are one command. -/
theorem command_of_name {commands : List Command} (distinct : Distinct commands)
    (held : command ∈ commands) (other : c ∈ commands) (same : c.name = command.name) :
    c = command :=
  List.inj_on_of_nodup_map distinct other held same

/-! ## The kinds of warnings -/

theorem collision_shape (found : collision? earlier command = some warning) :
    ∃ first, warning = .handlerCollision first command.name (handlerName command.name) := by
  simp only [collision?] at found
  split at found
  · split at found
    · cases found
    · cases found
      exact ⟨_, rfl⟩
  · cases found

theorem missing_shape (found : missingProfile? spec command = some warning) :
    ∃ id, command.profileId? = some id ∧ spec.profile? id = none ∧
      warning = .missingProfile command.name id := by
  obtain ⟨id, named, absent⟩ := Option.bind_eq_some_iff.mp found
  split at absent
  · next gone =>
    cases absent
    exact ⟨id, named, Option.isNone_iff_eq_none.mp gone, rfl⟩
  · cases absent

theorem placeholder_shape (held : warning ∈ placeholderWarnings command) :
    ∃ name, warning = .unresolvedPlaceholder command.name name := by
  unfold placeholderWarnings at held
  split at held
  · obtain ⟨name, _, rfl⟩ := List.mem_map.mp held
    exact ⟨name, rfl⟩
  · cases held

/-- The warnings about a command's call of an API. -/
def callWarnings (spec : Spec) (command : Command) : List Warning :=
  match command.source with
  | .staticText => []
  | .apiCall => (missingProfile? spec command).toList ++ placeholderWarnings command

theorem command_warnings_eq (spec : Spec) (earlier : List Command) (command : Command) :
    commandWarnings spec earlier command =
      (collision? earlier command).toList ++ callWarnings spec command :=
  rfl

theorem mem_call_warnings : warning ∈ callWarnings spec command ↔ command.source = .apiCall ∧
    (missingProfile? spec command = some warning ∨ warning ∈ placeholderWarnings command) := by
  rw [callWarnings]
  cases command.source <;> simp

/-- A warning for a command is a collision, or it is about its call of an API. -/
theorem mem_command_warnings : warning ∈ commandWarnings spec earlier command ↔
    collision? earlier command = some warning ∨ command.source = .apiCall ∧
      (missingProfile? spec command = some warning ∨ warning ∈ placeholderWarnings command) := by
  rw [command_warnings_eq, List.mem_append, Option.mem_toList, mem_call_warnings]

/-! ## Collisions -/

/-- The command named second in a collision. -/
def second? : Warning → Option String
  | .handlerCollision _ second _ => some second
  | _ => none

/-- The first of some commands whose handler has a name. -/
def Earliest (name : String) (commands : List Command) (user : Command) : Prop :=
  ∃ front back, commands = front ++ user :: back ∧ handlerName user.name = name ∧
    ∀ command ∈ front, handlerName command.name ≠ name

theorem earliest_iff {commands : List Command} :
    commands.find? (fun c => handlerName c.name = name) = some user ↔
      Earliest name commands user := by
  rw [List.find?_eq_some_iff_append]
  simp only [decide_eq_true_eq, Bool.not_eq_true', decide_eq_false_iff_not, Earliest]
  constructor
  · rintro ⟨named, front, back, shape, others⟩
    exact ⟨front, back, shape, named, others⟩
  · rintro ⟨front, back, shape, named, others⟩
    exact ⟨named, front, back, shape, others⟩

theorem Earliest.mem (earliest : Earliest name commands user) : user ∈ commands := by
  obtain ⟨front, back, rfl, _⟩ := earliest
  simp

theorem exists_earliest {commands : List Command} (held : c ∈ commands) :
    ∃ user, Earliest (handlerName c.name) commands user := by
  have found : (commands.find? fun d => handlerName d.name = handlerName c.name).isSome = true :=
    List.find?_isSome.mpr ⟨c, held, by simp⟩
  obtain ⟨user, here⟩ := Option.isSome_iff_exists.mp found
  exact ⟨user, earliest_iff.mp here⟩

/-- Names differ, so every earlier command with the handler's name is another one. -/
theorem collision_iff (distinct : Distinct (earlier ++ command :: later)) :
    collision? earlier command = some warning ↔
      ∃ user, Earliest (handlerName command.name) earlier user ∧
        warning = .handlerCollision user.name command.name (handlerName command.name) := by
  have apart : ∀ c ∈ earlier, c.name ≠ command.name :=
    (nodup_map_iff (·.name)).mp distinct earlier command later rfl
  rw [collision?]
  cases found : earlier.find? fun c => handlerName c.name = handlerName command.name with
  | none =>
    simp only [reduceCtorEq, false_iff, not_exists, not_and]
    intro user earliest
    rw [earliest_iff.mpr earliest] at found
    cases found
  | some first =>
    have earliest := earliest_iff.mp found
    simp only [apart first earliest.mem, if_false, Option.some.injEq]
    constructor
    · rintro rfl
      exact ⟨first, earliest, rfl⟩
    · rintro ⟨user, other, rfl⟩
      rw [earliest_iff.mpr other, Option.some.injEq] at found
      rw [found]

theorem mem_command_collision :
    .handlerCollision first second name ∈ commandWarnings spec earlier command ↔
      collision? earlier command = some (.handlerCollision first second name) := by
  rw [mem_command_warnings, or_iff_left]
  rintro ⟨_, missing | placeholder⟩
  · obtain ⟨_, _, _, other⟩ := missing_shape missing
    cases other
  · obtain ⟨_, other⟩ := placeholder_shape placeholder
    cases other

/-! ## Missing profiles -/

/-- The command whose profile is missing. -/
def unconfigured? : Warning → Option String
  | .missingProfile command _ => some command
  | _ => none

theorem mem_command_missing :
    .missingProfile name profile ∈ commandWarnings spec earlier command ↔
      command.source = .apiCall ∧
        missingProfile? spec command = some (.missingProfile name profile) := by
  rw [mem_command_warnings, or_iff_right]
  · refine and_congr_right fun _ => or_iff_left ?_
    intro placeholder
    obtain ⟨_, other⟩ := placeholder_shape placeholder
    cases other
  · intro collision
    obtain ⟨_, other⟩ := collision_shape collision
    cases other

/-! ## At most one of a kind -/

/-- What the warnings for one command name at most once is the command. -/
theorem named_once (take : Warning → Option String)
    (once : ∀ earlier command,
      ((commandWarnings spec earlier command).filterMap take).Sublist [command.name])
    (earlier pending : List Command) :
    ((warningsFrom spec earlier pending).filterMap take).Sublist (pending.map (·.name)) := by
  induction pending generalizing earlier with
  | nil => exact .slnil
  | cons command rest ih =>
    rw [warningsFrom, List.filterMap_append, List.map_cons]
    exact (once earlier command).append (ih _)

theorem second_once (spec : Spec) (earlier : List Command) (command : Command) :
    ((commandWarnings spec earlier command).filterMap second?).Sublist [command.name] := by
  have calls : (callWarnings spec command).filterMap second? = [] := by
    rw [List.filterMap_eq_nil_iff]
    intro warning held
    rcases (mem_call_warnings.mp held).2 with missing | placeholder
    · obtain ⟨_, _, _, rfl⟩ := missing_shape missing
      rfl
    · obtain ⟨_, rfl⟩ := placeholder_shape placeholder
      rfl
  rw [command_warnings_eq, List.filterMap_append, calls, List.append_nil]
  cases found : collision? earlier command with
  | none => exact List.nil_sublist _
  | some warning =>
    obtain ⟨_, rfl⟩ := collision_shape found
    exact .refl _

theorem unconfigured_once (spec : Spec) (earlier : List Command) (command : Command) :
    ((commandWarnings spec earlier command).filterMap unconfigured?).Sublist [command.name] := by
  have collision : (collision? earlier command).toList.filterMap unconfigured? = [] := by
    rw [List.filterMap_eq_nil_iff]
    intro warning held
    obtain ⟨_, rfl⟩ := collision_shape (Option.mem_toList.mp held)
    rfl
  have placeholders : (placeholderWarnings command).filterMap unconfigured? = [] := by
    rw [List.filterMap_eq_nil_iff]
    intro warning held
    obtain ⟨_, rfl⟩ := placeholder_shape held
    rfl
  rw [command_warnings_eq, List.filterMap_append, collision, List.nil_append, callWarnings]
  cases command.source with
  | staticText => exact List.nil_sublist _
  | apiCall =>
    simp only [List.filterMap_append, placeholders, List.append_nil]
    cases found : missingProfile? spec command with
    | none => exact List.nil_sublist _
    | some warning =>
      obtain ⟨_, _, _, rfl⟩ := missing_shape found
      exact .refl _

/-! ## Handlers without a profile -/

/-- The body of a handler that only says that it is not configured. -/
def notConfigured (locale : Locale) : List Code :=
  [returnContent (stringLiteral (Messages.of locale).notConfigured)]

theorem body_unconfigured (style : Style) (api : command.source = .apiCall)
    (missing : spec.profileOf? command = none) :
    handlerBody style spec command = notConfigured style.locale := by
  rw [handlerBody, handler, api, missing]
  rfl

theorem body_configured (style : Style) (api : command.source = .apiCall)
    (found : spec.profileOf? command = some profile) :
    handlerBody style spec command =
      bodyOf (apiHandler style (handlerName command.name) command profile) := by
  rw [handlerBody, handler, api, found]

/-- A handler that calls an API says more than that it is not configured. -/
theorem api_body_ne (style : Style) (name : String) (command : Command) (profile : Profile) :
    bodyOf (apiHandler style name command profile) ≠ notConfigured style.locale := by
  intro same
  have lengths := congrArg List.length same
  simp [apiHandler, bodyOf, notConfigured] at lengths

theorem body_unconfigured_iff (style : Style) (api : command.source = .apiCall) :
    spec.profileOf? command = none ↔
      handlerBody style spec command = notConfigured style.locale := by
  refine ⟨body_unconfigured style api, fun body => ?_⟩
  cases found : spec.profileOf? command with
  | none => rfl
  | some profile =>
    exact absurd ((body_configured style api found).symm.trans body) (api_body_ne style _ _ _)

/-! ## Warnings and the module -/

/-- What the warnings of a specification tell about the module for it. -/
structure Foretells (style : Style) (spec : Spec) (warnings : List Warning) : Prop where
  /-- A collision is reported for each command whose handler is named like one before it,
  together with the first of those. -/
  collision : .handlerCollision first second name ∈ warnings ↔
    ∃ earlier command later user, spec.commands = earlier ++ command :: later ∧
      Earliest (handlerName command.name) earlier user ∧
      first = user.name ∧ second = command.name ∧ name = handlerName command.name
  collision_once : (warnings.filterMap second?).Nodup
  collision_none : (∀ first second name, .handlerCollision first second name ∉ warnings) ↔
    ((handlerFunctions (commandCode style spec)).map (·.1)).Nodup
  /-- A missing profile is reported for each call of an API whose handler in the module
  only says that it is not configured. -/
  missing : (command, function) ∈ spec.commands.zip (handlerFunctions (commandCode style spec)) →
    command.source = .apiCall →
      ((∃ profile, .missingProfile command.name profile ∈ warnings) ↔
        function.2 = notConfigured style.locale)
  missing_source : .missingProfile name profile ∈ warnings →
    ∃ command ∈ spec.commands, command.name = name ∧ command.source = .apiCall ∧
      command.profileId? = some profile
  missing_once : (warnings.filterMap unconfigured?).Nodup
  /-- Every other call of an API has a handler that makes the request. -/
  configured :
    (command, function) ∈ spec.commands.zip (handlerFunctions (commandCode style spec)) →
    command.source = .apiCall → function.2 ≠ notConfigured style.locale →
      ∃ profile, spec.profileOf? command = some profile ∧
        function.2 = bodyOf (apiHandler style (handlerName command.name) command profile)

theorem mem_zip_handlers
    (paired : (command, function) ∈
      spec.commands.zip (handlerFunctions (commandCode style spec))) :
    command ∈ spec.commands ∧ function.2 = handlerBody style spec command := by
  have zipped : spec.commands.zip (handlerFunctions (commandCode style spec)) =
      spec.commands.map fun command =>
        (command, handlerName command.name, handlerBody style spec command) := by
    rw [handler_functions]
    simpa using List.zip_map' (l := spec.commands) (f := id)
  rw [zipped] at paired
  obtain ⟨_, held, same⟩ := List.mem_map.mp paired
  cases same
  exact ⟨held, rfl⟩

/-- The profile of a valid command that calls an API is looked up by its id. -/
theorem profile_of_api (valid : ValidCommand command) (api : command.source = .apiCall) :
    ∃ id, command.profileId? = some id ∧ ∀ spec : Spec,
      spec.profileOf? command = spec.profile? id := by
  have reply := valid.reply
  rw [HasReply, api] at reply
  cases given : command.profileId? with
  | none => exact absurd reply.1 (absent_iff.mp (by rw [← Command.profileId?, given]; rfl))
  | some id => exact ⟨id, rfl, fun spec => by rw [Spec.profileOf?, given]; rfl⟩

theorem missing_warning_iff (admitted : Admissible spec) (held : command ∈ spec.commands)
    (api : command.source = .apiCall) :
    (∃ profile, .missingProfile command.name profile ∈ spec.warnings) ↔
      spec.profileOf? command = none := by
  obtain ⟨id, named, looked⟩ := profile_of_api (admitted.commands command held) api
  rw [looked]
  constructor
  · rintro ⟨profile, reported⟩
    obtain ⟨earlier, other, later, shape, own⟩ := mem_warnings.mp reported
    obtain ⟨_, found⟩ := mem_command_missing.mp own
    obtain ⟨_, given, absent, same⟩ := missing_shape found
    have there : other ∈ spec.commands := by simp [shape]
    simp only [Warning.missingProfile.injEq] at same
    rw [command_of_name admitted.distinct there held same.1] at named
    rw [Option.some.inj (named.symm.trans given)]
    exact absent
  · intro absent
    obtain ⟨earlier, later, shape⟩ := List.append_of_mem held
    refine ⟨id, mem_warnings.mpr ⟨earlier, command, later, shape, ?_⟩⟩
    rw [mem_command_missing, missingProfile?, named]
    simp [api, absent]

theorem collision_warning_iff {spec : Spec} (distinct : Distinct spec.commands) :
    .handlerCollision first second name ∈ spec.warnings ↔
      ∃ earlier command later user, spec.commands = earlier ++ command :: later ∧
        Earliest (handlerName command.name) earlier user ∧
        first = user.name ∧ second = command.name ∧ name = handlerName command.name := by
  rw [mem_warnings]
  refine exists_congr fun earlier => exists_congr fun command => exists_congr fun later => ?_
  rw [mem_command_collision]
  constructor
  · rintro ⟨shape, found⟩
    obtain ⟨user, earliest, same⟩ := (collision_iff (shape ▸ distinct)).mp found
    cases same
    exact ⟨user, shape, earliest, rfl, rfl, rfl⟩
  · rintro ⟨user, shape, earliest, rfl, rfl, rfl⟩
    exact ⟨shape, (collision_iff (shape ▸ distinct)).mpr ⟨user, earliest, rfl⟩⟩

theorem no_collision_iff {spec : Spec} (distinct : Distinct spec.commands) :
    (∀ first second name, .handlerCollision first second name ∉ spec.warnings) ↔
      (spec.commands.map fun command => handlerName command.name).Nodup := by
  rw [nodup_map_iff]
  constructor
  · intro silent earlier command later shape c held same
    obtain ⟨user, earliest⟩ := exists_earliest held
    rw [same] at earliest
    exact silent _ _ _ ((collision_warning_iff distinct).mpr
      ⟨earlier, command, later, user, shape, earliest, rfl, rfl, rfl⟩)
  · intro apart first second name reported
    obtain ⟨earlier, command, later, user, shape, earliest, _⟩ :=
      (collision_warning_iff distinct).mp reported
    have held := earliest.mem
    obtain ⟨_, _, _, same, _⟩ := earliest
    exact apart earlier command later shape user held same

/-- An accepted specification is warned about exactly where the handlers of its module
share a name or do without the profile that they were meant to call. -/
theorem warnings_foretell (style : Style) {spec : Spec} (accepted : spec.check = .ok ()) :
    ∃ warnings, spec.validate = .ok warnings ∧ Foretells style spec warnings := by
  have admitted := (check_ok_iff spec).mp accepted
  have distinct := admitted.distinct
  have validated : spec.validate = .ok spec.warnings := by
    rw [Spec.validate, accepted]
    rfl
  have names : (handlerFunctions (commandCode style spec)).map (·.1) =
      spec.commands.map fun command => handlerName command.name := by
    rw [handler_functions, List.map_map]
    rfl
  refine ⟨spec.warnings, validated, ?_⟩
  constructor
  case collision => exact collision_warning_iff distinct
  case collision_once =>
    exact distinct.sublist (named_once second? (second_once spec) [] spec.commands)
  case missing_once =>
    exact distinct.sublist (named_once unconfigured? (unconfigured_once spec) [] spec.commands)
  case collision_none =>
    rw [names]
    exact no_collision_iff distinct
  case missing =>
    intro command function paired api
    obtain ⟨held, body⟩ := mem_zip_handlers paired
    rw [missing_warning_iff admitted held api, body, body_unconfigured_iff style api]
  case missing_source =>
    intro name profile held
    obtain ⟨earlier, command, later, shape, own⟩ := mem_warnings.mp held
    obtain ⟨api, found⟩ := mem_command_missing.mp own
    obtain ⟨_, given, _, same⟩ := missing_shape found
    cases same
    exact ⟨command, by simp [shape], rfl, api, given⟩
  case configured =>
    intro command function paired api other
    obtain ⟨_, body⟩ := mem_zip_handlers paired
    cases found : spec.profileOf? command with
    | none => exact absurd (body.trans (body_unconfigured style api found)) other
    | some profile => exact ⟨profile, rfl, body.trans (body_configured style api found)⟩

/-- Three commands of two handlers' names, one of which calls a profile that is there and
one a profile that is not. -/
def sampleSpec : Spec where
  bot := ⟨"bot", "", none, none, none, .gateway⟩
  profiles := [⟨"api", "", "https://example.com", .none, none, none, "API_KEY_1", ""⟩]
  commands :=
    [{ Preset.command "a-b" "first" .staticText with staticText := some "one" },
     { Preset.command "a_b" "second" .apiCall with
        profileId := some "gone", endpoint := some "/" },
     { Preset.command "c" "third" .apiCall with
        profileId := some "api", endpoint := some "/" },
     { Preset.command "a--b" "fourth" .staticText with staticText := some "two" }]

theorem sample_foretold :
    sampleSpec.check = .ok () ∧ ∃ warnings, sampleSpec.validate = .ok warnings ∧
      Foretells ⟨.embed, .english⟩ sampleSpec warnings := by
  have accepted : sampleSpec.check = .ok () := by rfl
  exact ⟨accepted, warnings_foretell _ accepted⟩

end Botwright.WarningForecast
