import Mathlib.Data.List.TakeWhile
import Botwright.Proofs.RequestReading
import Botwright.Proofs.WarningForecast

/-! The placeholders of an endpoint that no option fills. The warnings name those that
begin where no brace is open; one behind an open brace is passed over, although the
handler would replace it for an option of its name. -/
namespace Botwright.EndpointPlaceholders
open Script Reply Project SpecAdmission ModuleReading TemplateReading RequestReading
  WarningForecast
open Spec (warningsFrom commandWarnings collision? missingProfile? placeholderWarnings)

/-! ## Placeholders of a text -/

/-- The places of a text in order: what stands before each and what behind it. -/
def cuts (before : List Char) : List Char → List (List Char × List Char)
  | [] => [(before, [])]
  | c :: rest => (before, c :: rest) :: cuts (before ++ [c]) rest

/-- The name in a placeholder that begins a text. -/
def nameAt? (behind : List Char) : Option String :=
  match braceGroup? behind with
  | some (inner, _) => if inner = [] then none else some (String.ofList inner)
  | none => none

/-- The placeholders from a place on, each with what stands before it. -/
def placementsFrom (before text : List Char) : List (List Char × String) :=
  (cuts before text).filterMap fun (before, behind) => (nameAt? behind).map (before, ·)

def placements (text : String) : List (List Char × String) := placementsFrom [] text.toList

/-- A text that leaves no brace open. -/
def Clear (before : List Char) : Prop := '{' ∉ before.reverse.takeWhile (· ≠ '}')

instance (before : List Char) : Decidable (Clear before) := inferInstanceAs (Decidable (_ ∉ _))

/-- The names in the placeholders of a text, in order and as often as they occur. -/
def placeholderNames (text : String) : List String := (placements text).map (·.2)

/-- The names in the placeholders that begin where no brace is open. -/
def clearNames (text : String) : List String :=
  ((placements text).filter (Clear ·.1)).map (·.2)

theorem name_at_iff : nameAt? behind = some name ↔ name ≠ "" ∧
    (∀ c ∈ name.toList, c ≠ '{' ∧ c ≠ '}') ∧ (placeholder name).toList <+: behind := by
  have written (inner rest : List Char) :
      (placeholder (String.ofList inner)).toList ++ rest = '{' :: (inner ++ '}' :: rest) := by
    simp [placeholder]
  constructor
  · intro found
    unfold nameAt? at found
    split at found
    · next inner more group =>
      obtain ⟨rest, rfl, -, plain⟩ := brace_group_eq_some group
      split at found
      · cases found
      · next nonempty =>
        cases found
        refine ⟨?_, fun c member => ?_, rest, written inner rest⟩
        · exact fun empty => nonempty (by simpa using congrArg String.toList empty)
        · simpa [isBrace] using plain c (by simpa using member)
    · cases found
  · rintro ⟨nonempty, plain, rest, rfl⟩
    have text := written name.toList rest
    rw [String.ofList_toList] at text
    rw [text, nameAt?, brace_group_plain (by simpa [isBrace] using plain)]
    simp [nonempty]

theorem mem_cuts : (front, behind) ∈ cuts before text ↔
    ∃ skipped, front = before ++ skipped ∧ text = skipped ++ behind := by
  induction text generalizing before with
  | nil => simp [cuts, eq_comm]
  | cons c rest ih =>
    rw [cuts, List.mem_cons, ih]
    constructor
    · rintro (same | ⟨skipped, rfl, rfl⟩)
      · cases same
        exact ⟨[], by simp⟩
      · exact ⟨c :: skipped, by simp⟩
    · rintro ⟨skipped, rfl, shape⟩
      cases skipped with
      | nil => exact .inl (by simp_all)
      | cons d skipped =>
        cases shape
        exact .inr ⟨skipped, by simp⟩

/-- The placeholders of a text are all texts without a brace between two of them. -/
theorem mem_placements : (before, name) ∈ placements text ↔ name ≠ "" ∧
    (∀ c ∈ name.toList, c ≠ '{' ∧ c ≠ '}') ∧
      ∃ back, text.toList = before ++ ((placeholder name).toList ++ back) := by
  rw [placements, placementsFrom, List.mem_filterMap]
  constructor
  · rintro ⟨⟨front, behind⟩, held, found⟩
    obtain ⟨skipped, rfl, shape⟩ := mem_cuts.mp held
    obtain ⟨other, here, same⟩ := Option.map_eq_some_iff.mp found
    cases same
    obtain ⟨nonempty, plain, back, rfl⟩ := name_at_iff.mp here
    exact ⟨nonempty, plain, back, shape⟩
  · rintro ⟨nonempty, plain, back, shape⟩
    have here : nameAt? ((placeholder name).toList ++ back) = some name :=
      name_at_iff.mpr ⟨nonempty, plain, List.prefix_append ..⟩
    refine ⟨(before, (placeholder name).toList ++ back), mem_cuts.mpr ⟨before, rfl, shape⟩, ?_⟩
    exact congrArg (Option.map (before, ·)) here

theorem cuts_ordered (before text : List Char) :
    (cuts before text).Pairwise fun first second => first.1.length < second.1.length := by
  induction text generalizing before with
  | nil => exact List.pairwise_singleton ..
  | cons c rest ih =>
    rw [cuts, List.pairwise_cons]
    refine ⟨fun ⟨front, behind⟩ held => ?_, ih _⟩
    obtain ⟨skipped, rfl, -⟩ := mem_cuts.mp held
    simp only [List.length_append, List.length_singleton]
    omega

/-- Placeholders are listed in the order in which they begin, each place once. -/
theorem placements_ordered (text : String) :
    (placements text).Pairwise fun first second => first.1.length < second.1.length := by
  refine List.Pairwise.filterMap _ (fun first second earlier p here q there => ?_)
    (cuts_ordered [] text.toList)
  obtain ⟨_, _, rfl⟩ := Option.map_eq_some_iff.mp (Option.mem_def.mp here)
  obtain ⟨_, _, rfl⟩ := Option.map_eq_some_iff.mp (Option.mem_def.mp there)
  exact earlier

/-! ## Where a brace is open -/

theorem clear_snoc (before : List Char) (c : Char) :
    Clear (before ++ [c]) ↔ c = '}' ∨ c ≠ '{' ∧ Clear before := by
  unfold Clear
  rw [List.reverse_append, List.reverse_singleton, List.singleton_append, List.takeWhile_cons]
  by_cases closing : c = '}'
  · simp [closing]
  · simp [closing, eq_comm]

theorem placements_cons (before : List Char) (c : Char) (rest : List Char) :
    placementsFrom before (c :: rest) =
      ((nameAt? (c :: rest)).map (before, ·)).toList ++ placementsFrom (before ++ [c]) rest := by
  rw [placementsFrom, cuts, List.filterMap_cons, placementsFrom]
  cases found : nameAt? (c :: rest) <;> simp [found]

theorem no_name (other : c ≠ '{') (rest : List Char) : nameAt? (c :: rest) = none := by
  unfold nameAt?
  split
  · next inner more group =>
    obtain ⟨back, shape, -⟩ := brace_group_eq_some group
    exact absurd (List.cons.inj shape).1 other
  · rfl

/-- Without a closing brace there is no placeholder. -/
theorem placements_unclosed (unclosed : '}' ∉ text) (before : List Char) :
    placementsFrom before text = [] := by
  induction text generalizing before with
  | nil => rfl
  | cons c rest ih =>
    have missing : nameAt? (c :: rest) = none := by
      unfold nameAt?
      split
      · next inner more group =>
        obtain ⟨back, shape, -⟩ := brace_group_eq_some group
        rw [shape] at unclosed
        simp at unclosed
      · rfl
    rw [List.mem_cons, not_or] at unclosed
    rw [placements_cons, missing, ih unclosed.2]
    rfl

/-- Behind an open brace no placeholder is clear, up to the brace that closes it. -/
theorem clear_behind_open (opened : ¬Clear before) {inner : List Char} (unclosed : '}' ∉ inner)
    (rest : List Char) :
    (placementsFrom before (inner ++ '}' :: rest)).filter (Clear ·.1) =
      (placementsFrom (before ++ inner ++ ['}']) rest).filter (Clear ·.1) := by
  induction inner generalizing before with
  | nil =>
    rw [List.nil_append, placements_cons, no_name (by decide), List.append_nil]
    rfl
  | cons c inner ih =>
    rw [List.mem_cons, not_or] at unclosed
    have still : ¬Clear (before ++ [c]) := by
      rw [clear_snoc]
      rintro (closing | ⟨-, clear⟩)
      · exact unclosed.1 closing.symm
      · exact opened clear
    have hidden : (((nameAt? (c :: (inner ++ '}' :: rest))).map (before, ·)).toList).filter
        (Clear ·.1) = [] := by
      cases nameAt? (c :: (inner ++ '}' :: rest)) <;> simp [opened]
    rw [List.cons_append, placements_cons, List.filter_append, hidden, ih still unclosed.2]
    simp

/-! ## The scanner -/

theorem take_to_closing {inner : List Char} (unclosed : '}' ∉ inner) (back : List Char) :
    (inner ++ '}' :: back).takeWhile (· ≠ '}') = inner := by
  have kept : ∀ c ∈ inner, decide (c ≠ '}') = true := fun c member => by
    simpa using fun same : c = '}' => unclosed (same ▸ member)
  rw [List.takeWhile_append_of_pos kept, List.takeWhile_cons_of_neg (by decide), List.append_nil]

theorem name_at_group {inner : List Char} (unclosed : '}' ∉ inner) (back : List Char) :
    nameAt? ('{' :: (inner ++ '}' :: back)) =
      if inner = [] ∨ inner.contains '{' then none else some (String.ofList inner) := by
  by_cases opening : '{' ∈ inner
  · have missing : braceGroup? ('{' :: (inner ++ '}' :: back)) = none := by
      cases found : braceGroup? ('{' :: (inner ++ '}' :: back)) with
      | none => rfl
      | some group =>
        obtain ⟨other, more⟩ := group
        obtain ⟨rest, shape, -, plain⟩ := brace_group_eq_some found
        have closes : '}' ∉ other := fun held => absurd (plain _ held) (by decide)
        have same := congrArg (List.takeWhile (· ≠ '}')) (List.cons.inj shape).2
        rw [take_to_closing unclosed, take_to_closing closes] at same
        exact absurd (plain _ (same ▸ opening)) (by decide)
    simp [nameAt?, missing, opening]
  · have plain : ∀ c ∈ inner, isBrace c = false := by
      intro c member
      have opens : c ≠ '{' := fun same => opening (same ▸ member)
      have closes : c ≠ '}' := fun same => unclosed (same ▸ member)
      simp [isBrace, opens, closes]
    rw [nameAt?, brace_group_plain plain]
    simp [opening]

theorem clear_group (clear : Clear before) {inner : List Char} (unclosed : '}' ∉ inner)
    (back : List Char) :
    (placementsFrom before ('{' :: (inner ++ '}' :: back))).filter (Clear ·.1) =
      (if inner = [] ∨ inner.contains '{' then [] else [(before, String.ofList inner)]) ++
        (placementsFrom (before ++ ['{'] ++ inner ++ ['}']) back).filter (Clear ·.1) := by
  have opened : ¬Clear (before ++ ['{']) := by simp [clear_snoc]
  rw [placements_cons, List.filter_append, name_at_group unclosed,
    clear_behind_open opened unclosed]
  congr 1
  split <;> simp [clear]

theorem endpoint_names_plain (other : c ≠ '{') (rest : List Char) :
    endpointNames (c :: rest) = endpointNames rest := by
  rw [endpointNames, if_neg other]

theorem endpoint_names_unclosed (absent : '}' ∉ rest) : endpointNames ('{' :: rest) = [] := by
  have whole : rest.takeWhile (· ≠ '}') = rest := List.takeWhile_eq_self_iff.mpr fun c member => by
    simpa using fun same : c = '}' => absent (same ▸ member)
  rw [endpointNames, if_pos rfl, whole, if_pos rfl]

theorem endpoint_names_group {inner : List Char} (unclosed : '}' ∉ inner) (back : List Char) :
    endpointNames ('{' :: (inner ++ '}' :: back)) =
      (if inner = [] ∨ inner.contains '{' then [] else [inner]) ++ endpointNames back := by
  have left : (inner ++ '}' :: back).drop (inner.length + 1) = back := by
    rw [← List.drop_drop, List.drop_left, List.drop_one, List.tail_cons]
  rw [endpointNames, if_pos rfl, take_to_closing unclosed, if_neg (by simp)]
  simp only [left]
  split <;> rfl

/-- The scanner finds the placeholders that begin where no brace is open. -/
theorem endpoint_names_eq (clear : Clear before) (text : List Char) :
    (endpointNames text).map String.ofList =
      ((placementsFrom before text).filter (Clear ·.1)).map (·.2) := by
  match text with
  | [] => simp [endpointNames, placementsFrom, cuts, nameAt?, braceGroup?]
  | c :: rest =>
    by_cases opening : c = '{'
    · subst opening
      by_cases closed : '}' ∈ rest
      · -- The group is skipped as a whole, and behind its closing brace none is open.
        obtain ⟨inner, back, shape, unclosed⟩ := List.eq_append_cons_of_mem closed
        have shorter : back.length < rest.length := by
          rw [shape, List.length_append, List.length_cons]
          omega
        have behind : Clear (before ++ ['{'] ++ inner ++ ['}']) :=
          (clear_snoc _ _).mpr (.inl rfl)
        have later := endpoint_names_eq behind back
        rw [shape, endpoint_names_group unclosed, clear_group clear unclosed, List.map_append,
          later, List.map_append]
        congr 1
        split <;> rfl
      · rw [endpoint_names_unclosed closed, placements_unclosed (by simp [closed])]
        rfl
    · have behind : Clear (before ++ [c]) := (clear_snoc before c).mpr (.inr ⟨opening, clear⟩)
      have later := endpoint_names_eq behind rest
      rw [endpoint_names_plain opening, later, placements_cons, no_name opening]
      rfl
termination_by text.length
decreasing_by all_goals simp only [List.length_cons]; omega

/-! ## What is reported -/

/-- The name in a warning about a placeholder of one command. -/
def unresolvedIn? (name : String) : Warning → Option String
  | .unresolvedPlaceholder command placeholder => if command = name then some placeholder else none
  | _ => none

/-- The placeholders that warnings report for a command. -/
def reported (command : String) (warnings : List Warning) : List String :=
  warnings.filterMap (unresolvedIn? command)

/-- No option of a command has a name. -/
def Undeclared (command : Command) (name : String) : Prop :=
  ∀ option ∈ command.options, option.name ≠ name

instance (command : Command) (name : String) : Decidable (Undeclared command name) :=
  inferInstanceAs (Decidable (∀ _ ∈ _, _))

theorem unresolved_names_eq (command : Command) (endpoint : String) :
    unresolvedNames command endpoint = (clearNames endpoint).filter (Undeclared command) := by
  have clear : Clear [] := by decide
  have undeclared (name : String) :
      (!command.options.any (·.name = name)) = decide (Undeclared command name) := by
    rw [Bool.eq_iff_iff, Bool.not_eq_true', List.any_eq_false, decide_eq_true_eq]
    simp [Undeclared]
  rw [unresolvedNames, endpoint_names_eq clear]
  simp only [undeclared]
  rfl

theorem reported_append (command : String) (front back : List Warning) :
    reported command (front ++ back) = reported command front ++ reported command back :=
  List.filterMap_append

theorem reported_names (command : String) (names : List String) :
    reported command (names.map (.unresolvedPlaceholder command)) = names := by
  simp [reported, List.filterMap_map, Function.comp_def, unresolvedIn?]

/-- Nothing is reported for a command among the warnings for another. -/
theorem reported_other (spec : Spec) (earlier : List Command) (other : command.name ≠ name) :
    reported name (commandWarnings spec earlier command) = [] := by
  rw [reported, List.filterMap_eq_nil_iff]
  intro warning held
  rcases mem_command_warnings.mp held with collision | ⟨-, missing | placeholder⟩
  · obtain ⟨_, rfl⟩ := collision_shape collision
    rfl
  · obtain ⟨_, _, _, rfl⟩ := missing_shape missing
    rfl
  · obtain ⟨_, rfl⟩ := placeholder_shape placeholder
    simp [unresolvedIn?, other]

theorem reported_absent (spec : Spec) (absent : name ∉ pending.map (·.name))
    (earlier : List Command) : reported name (warningsFrom spec earlier pending) = [] := by
  induction pending generalizing earlier with
  | nil => rfl
  | cons command rest ih =>
    rw [List.map_cons, List.mem_cons, not_or] at absent
    rw [warningsFrom, reported_append, reported_other spec earlier (Ne.symm absent.1),
      ih absent.2, List.append_nil]

/-- Among the warnings for a command, its placeholders are reported behind the others. -/
theorem reported_command (spec : Spec) (earlier : List Command)
    (api : command.source = .apiCall) (given : command.endpoint? = some endpoint) :
    reported command.name (commandWarnings spec earlier command) =
      (clearNames endpoint).filter (Undeclared command) := by
  have collision : reported command.name (collision? earlier command).toList = [] := by
    rw [reported, List.filterMap_eq_nil_iff]
    intro warning held
    obtain ⟨_, rfl⟩ := collision_shape (Option.mem_toList.mp held)
    rfl
  have missing : reported command.name (missingProfile? spec command).toList = [] := by
    rw [reported, List.filterMap_eq_nil_iff]
    intro warning held
    obtain ⟨_, _, _, rfl⟩ := missing_shape (Option.mem_toList.mp held)
    rfl
  have own : placeholderWarnings command =
      (unresolvedNames command endpoint).map (.unresolvedPlaceholder command.name) := by
    rw [placeholderWarnings, given]
  rw [command_warnings_eq, callWarnings, api]
  simp only [reported_append, collision, missing, own, reported_names, unresolved_names_eq,
    List.nil_append]

/-- Names are distinct, so only a command's own warnings report its placeholders. -/
theorem reported_from (spec : Spec) (distinct : Distinct pending) (declared : command ∈ pending)
    (api : command.source = .apiCall) (given : command.endpoint? = some endpoint)
    (earlier : List Command) :
    reported command.name (warningsFrom spec earlier pending) =
      (clearNames endpoint).filter (Undeclared command) := by
  induction pending generalizing earlier with
  | nil => cases declared
  | cons first rest ih =>
    rw [Distinct, List.map_cons, List.nodup_cons] at distinct
    rw [warningsFrom, reported_append]
    rcases List.mem_cons.mp declared with rfl | later
    · rw [reported_command spec earlier api given, reported_absent spec distinct.1,
        List.append_nil]
    · have other : first.name ≠ command.name := fun same =>
        distinct.1 (same ▸ List.mem_map_of_mem later)
      rw [reported_other spec earlier other, ih distinct.2 later, List.nil_append]

/-! ## What is missed -/

/-- Nothing that counts is missed just if it all begins where no brace is open. -/
theorem clear_names_complete_iff (text : String) (counts : String → Bool) :
    (clearNames text).filter counts = (placeholderNames text).filter counts ↔
      ∀ before name, (before, name) ∈ placements text → counts name = true → Clear before := by
  let counted := (placements text).filter (counts ·.2)
  have all : (placeholderNames text).filter counts = counted.map (·.2) := List.filter_map ..
  have clear : (clearNames text).filter counts = (counted.filter (Clear ·.1)).map (·.2) := by
    rw [clearNames, List.filter_map, List.filter_comm]
    rfl
  have member : (∀ placement ∈ counted, decide (Clear placement.1) = true) ↔
      ∀ before name, (before, name) ∈ placements text → counts name = true → Clear before := by
    simp [counted, List.mem_filter]
  rw [all, clear, ← member, ← List.length_filter_eq_length_iff]
  constructor
  · intro same
    simpa using congrArg List.length same
  · intro same
    rw [List.filter_sublist.eq_of_length same]

/-! ## Replacements -/

theorem placeholder_injective (same : (placeholder name).toList = (placeholder other).toList) :
    name = other :=
  String.toList_inj.mp (by simpa [placeholder] using same)

/-- A handler that makes a request replaces the placeholders of the declared options. -/
theorem untargeted_iff (style : Style) (api : command.source = .apiCall)
    (configured : spec.profileOf? command = some profile) (name : String) :
    Undeclared command name ↔ ∀ source, .replacement (placeholder name).toList source ∉
      requestSteps (handlerBody style spec command) := by
  have steps : requestSteps (handlerBody style spec command) = requestOf command profile := by
    rw [steps_handler_body, stepsOf, api, configured]
  have targets (source : String) : .replacement (placeholder name).toList source ∈
      requestOf command profile ↔ ⟨name, source⟩ ∈ boundOptions command := by
    have attached : .replacement (placeholder name).toList source ∉
        (attachment? profile).toList := by
      unfold attachment?
      cases profile.auth <;> simp
    simp only [requestOf, List.mem_append, attached, or_false, List.mem_singleton, reduceCtorEq,
      replacements, List.mem_map, RequestStep.replacement.injEq]
    constructor
    · rintro ⟨option, bound, same, rfl⟩
      rwa [← placeholder_injective same]
    · exact fun bound => ⟨_, bound, rfl, rfl⟩
  simp only [steps, targets]
  have names := OptionLocals.names_bound_options command
  constructor
  · intro undeclared source bound
    have held := List.mem_map_of_mem (f := BoundOption.name) bound
    rw [names] at held
    obtain ⟨option, declared, same⟩ := List.mem_map.mp held
    exact undeclared option declared same
  · rintro missing option declared rfl
    have held := List.mem_map_of_mem (f := CommandOption.name) declared
    rw [← names] at held
    obtain ⟨⟨other, binding⟩, bound, same⟩ := List.mem_map.mp held
    exact missing binding (same ▸ bound)

/-! ## Accepted specifications -/

theorem endpoint_given (valid : ValidCommand command) (api : command.source = .apiCall) :
    ∃ endpoint, command.endpoint? = some endpoint := by
  have reply := valid.reply
  rw [HasReply, api] at reply
  cases given : command.endpoint? with
  | none => exact absurd reply.2 (absent_iff.mp (by rw [← Command.endpoint?, given]; rfl))
  | some endpoint => exact ⟨endpoint, rfl⟩

/-- For a command that calls an API, an accepted specification is warned about the
placeholders that begin where no brace is open and that no option is named for, in order and
as often as they occur. Those are all that no option is named for just if each of them
begins so. No option is named for a placeholder just if the handler's request does not
replace it. -/
theorem reported_placeholders (style : Style) (accepted : spec.check = .ok ())
    (declared : command ∈ spec.commands) (api : command.source = .apiCall) :
    ∃ endpoint warnings, command.endpoint? = some endpoint ∧ spec.validate = .ok warnings ∧
      reported command.name warnings = (clearNames endpoint).filter (Undeclared command) ∧
      (reported command.name warnings = (placeholderNames endpoint).filter (Undeclared command) ↔
        ∀ before name, (before, name) ∈ placements endpoint → Undeclared command name →
          Clear before) ∧
      ∀ profile, spec.profileOf? command = some profile → ∀ name, Undeclared command name ↔
        ∀ source, .replacement (placeholder name).toList source ∉
          requestSteps (handlerBody style spec command) := by
  have admitted := (check_ok_iff spec).mp accepted
  obtain ⟨endpoint, given⟩ := endpoint_given (admitted.commands command declared) api
  have validated : spec.validate = .ok spec.warnings := by
    rw [Spec.validate, accepted]
    rfl
  have own : reported command.name spec.warnings =
      (clearNames endpoint).filter (Undeclared command) :=
    reported_from spec admitted.distinct declared api given []
  refine ⟨endpoint, spec.warnings, given, validated, own, ?_,
    fun profile configured => untargeted_iff style api configured⟩
  rw [own, clear_names_complete_iff]
  simp only [decide_eq_true_eq]

def askCommand (endpoint : String) : Command :=
  { Preset.command "ask" "asks" .apiCall with
    profileId := some "api"
    endpoint := some endpoint
    options := [⟨"city", "where", .string, false⟩] }

def askSample (endpoint : String) : Spec where
  bot := ⟨"bot", "", none, none, none, .gateway⟩
  profiles := [⟨"api", "api", "https://api.test", .none, none, none, "KEY", ""⟩]
  commands := [askCommand endpoint]

theorem sample_placeholders_reported :
    (askSample "/\x7bb\x7d/\x7bcity\x7d?q=\x7bb\x7d").check = .ok () ∧
      ∃ warnings, (askSample "/\x7bb\x7d/\x7bcity\x7d?q=\x7bb\x7d").validate = .ok warnings ∧
        reported "ask" warnings = ["b", "b"] := by
  have accepted : (askSample "/\x7bb\x7d/\x7bcity\x7d?q=\x7bb\x7d").check = .ok () := by
    decide +kernel
  have declared : askCommand "/\x7bb\x7d/\x7bcity\x7d?q=\x7bb\x7d" ∈
      (askSample "/\x7bb\x7d/\x7bcity\x7d?q=\x7bb\x7d").commands := by decide
  obtain ⟨endpoint, warnings, given, validated, own, -⟩ := reported_placeholders
    ⟨.simpleText, .english⟩ accepted declared rfl
  have text : (askCommand "/\x7bb\x7d/\x7bcity\x7d?q=\x7bb\x7d").endpoint? =
      some "/\x7bb\x7d/\x7bcity\x7d?q=\x7bb\x7d" := by decide +kernel
  cases given.symm.trans text
  exact ⟨accepted, warnings, validated, own.trans (by decide +kernel)⟩

/-- An endpoint with a placeholder behind an open brace, which no option is named for and
no warning reports. -/
theorem hidden_placeholder_unreported :
    (askSample "/x?q=\x7ba\x7bb\x7d").validate = .ok [] ∧
      (placeholderNames "/x?q=\x7ba\x7bb\x7d").filter
        (Undeclared (askCommand "/x?q=\x7ba\x7bb\x7d")) = ["b"] :=
  ⟨by decide +kernel, by decide +kernel⟩

end Botwright.EndpointPlaceholders
