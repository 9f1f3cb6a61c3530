import Mathlib.Data.List.Nodup
import Mathlib.Tactic.SplitIfs
import Botwright.Spec.Warnings

/-! Validation accepts exactly the specifications that Discord admits. What is
admitted is said here of whole lists, without an order of checks: which names
and texts are allowed, that names differ, and that no required option stands
behind an optional one. A refusal names a real fault of one command, and every
command in front of it is admitted. -/
namespace Botwright.SpecAdmission
open Spec

/-! ## What is admitted -/

/-- A text with a character that is not white space. -/
def Present (text : String) : Prop := ∃ c ∈ text.toList, Text.isBlank c = false

/-- A letter, a number, a dash or an underscore. What only the newest edition of the
standard assigns is no letter or number yet. -/
def NameCharacter (c : Char) : Prop :=
  c = '-' ∨ c = '_' ∨
    (Text.isLetter c = true ∨ Text.isNumber c = true) ∧ Text.newestRanges.has c = false

structure ValidName (name : String) : Prop where
  nonempty : 1 ≤ name.length
  short : name.length ≤ 32
  characters : ∀ c ∈ name.toList, NameCharacter c
  lower_case : String.ofList (Text.lower name.toList) = name

structure ValidDescription (text : String) : Prop where
  present : Present text
  short : text.length ≤ 100

structure ValidOptions (options : List CommandOption) : Prop where
  few : options.length ≤ 25
  names : ∀ option ∈ options, ValidName option.name
  distinct : (options.map (·.name)).Nodup
  descriptions : ∀ option ∈ options, ValidDescription option.description
  required_first : options.Pairwise fun earlier later =>
    later.required = true → earlier.required = true

/-- An optional text that is there and says something. -/
def Given (text : Option String) : Prop := ∃ said, text = some said ∧ Present said

/-- A command has what its kind of reply is made from. -/
def HasReply (command : Command) : Prop :=
  match command.source with
  | .staticText => Given command.staticText
  | .apiCall => Given command.profileId ∧ Given command.endpoint

structure ValidCommand (command : Command) : Prop where
  name : ValidName command.name
  description : ValidDescription command.description
  options : ValidOptions command.options
  reply : HasReply command

/-- The commands have distinct names. -/
def Distinct (commands : List Command) : Prop := (commands.map (·.name)).Nodup

structure Admissible (spec : Spec) : Prop where
  named : Present spec.bot.name
  nonempty : spec.commands ≠ []
  distinct : Distinct spec.commands
  commands : ∀ command ∈ spec.commands, ValidCommand command

/-! ## What a refusal says -/

/-- A fault is true of an option that follows others. -/
def OptionFaulty (earlier : List CommandOption) (option : CommandOption) : OptionFault → Prop
  | .badName => ¬ValidName option.name
  | .repeated => option.name ∈ earlier.map (·.name)
  | .noDescription => ¬Present option.description
  | .longDescription => 100 < option.description.length
  | .requiredAfterOptional => option.required = true ∧ ∃ e ∈ earlier, e.required = false

/-- A problem names a command that follows others, by its name or its place,
and is true of it. -/
def Faulty (earlier : List Command) (command : Command) : Problem → Prop
  | .namelessCommand number => number = earlier.length + 1 ∧ ¬Present command.name
  | .badCommandName name => name = command.name ∧ ¬ValidName command.name
  | .undescribedCommand name => name = command.name ∧ ¬Present command.description
  | .longDescription name length =>
    name = command.name ∧ length = command.description.length ∧ 100 < length
  | .tooManyOptions name count => name = command.name ∧ count = command.options.length ∧ 25 < count
  | .badOption name option fault =>
    name = command.name ∧ ∃ before faulty after,
      command.options = before ++ faulty :: after ∧ option = faulty.name ∧
        OptionFaulty before faulty fault
  | .noStaticText name =>
    name = command.name ∧ command.source = .staticText ∧ ¬Given command.staticText
  | .noApiBinding name .profile =>
    name = command.name ∧ command.source = .apiCall ∧ ¬Given command.profileId
  | .noApiBinding name .endpoint =>
    name = command.name ∧ command.source = .apiCall ∧ ¬Given command.endpoint
  | .repeatedCommand name => name = command.name ∧ name ∈ earlier.map (·.name)
  | _ => False

/-! ## Texts and names -/

theorem blank_iff : Text.isBlankText text = true ↔ ¬Present text := by
  simp [Text.isBlankText, Present, List.all_eq_true]

theorem absent_iff : (Text.nonBlank? text).isNone = true ↔ ¬Given text := by
  cases text with
  | none => simp [Given, Text.nonBlank?_none]
  | some said => simp [Text.nonBlank?, Given, Option.filter, blank_iff]

theorem name_char_iff : isNameChar c = true ↔ NameCharacter c := by
  simp [isNameChar, NameCharacter, Text.isSettledAlphanumeric, or_assoc]

theorem is_valid_name_iff : isValidName name = true ↔ ValidName name := by
  have lowered : Text.lower name.toList = name.toList ↔
      String.ofList (Text.lower name.toList) = name := by
    rw [← String.toList_inj, String.toList_ofList]
  have nonempty : name.toList ≠ [] ↔ 1 ≤ name.length := by
    rw [← String.length_toList, Nat.one_le_iff_ne_zero, ne_eq, ne_eq, List.length_eq_zero_iff]
  simp only [isValidName, Bool.and_eq_true, decide_eq_true_eq, List.all_eq_true, name_char_iff,
    String.length_toList, maxName, lowered, nonempty]
  constructor
  · rintro ⟨⟨⟨nonempty, short⟩, characters⟩, lower⟩
    exact ⟨nonempty, short, characters, lower⟩
  · rintro ⟨nonempty, short, characters, lower⟩
    exact ⟨⟨⟨nonempty, short⟩, characters⟩, lower⟩

/-- No character is in both of two sets whose ranges do not meet. -/
theorem not_has_of_apart {ranges others : Text.Ranges}
    (apart : ∀ range ∈ ranges, ∀ other ∈ others, range.2 < other.1 ∨ other.2 < range.1)
    (held : ranges.has c = true) : others.has c = false := by
  rw [Bool.eq_false_iff]
  intro found
  obtain ⟨range, member, low, high⟩ := Text.Ranges.has_iff.mp held
  obtain ⟨other, listed, first, last⟩ := Text.Ranges.has_iff.mp found
  rcases apart range member other listed with below | above <;> omega

theorem name_character_dark (allowed : NameCharacter c) : Text.isBlank c = false := by
  rcases allowed with rfl | rfl | ⟨letter | number, _⟩
  · decide
  · decide
  · exact not_has_of_apart (by decide +kernel) letter
  · exact not_has_of_apart (by decide +kernel) number

/-- A valid name is never blank, so the check for blank names refuses nothing
that the check for bad ones would let through. -/
theorem ValidName.present (valid : ValidName name) : Present name := by
  have nonempty : name.toList ≠ [] := by
    intro empty
    have none := valid.nonempty
    rw [← String.length_toList, empty] at none
    cases none
  obtain ⟨c, rest, shape⟩ := List.exists_cons_of_ne_nil nonempty
  have member : c ∈ name.toList := by simp [shape]
  exact ⟨c, member, name_character_dark (valid.characters c member)⟩

/-! ## Checks in sequence -/

theorem then_ok_iff {first second : Except Problem Unit} :
    (first >>= fun _ => second) = .ok () ↔ first = .ok () ∧ second = .ok () := by
  cases first <;> simp [bind, Except.bind]

theorem then_error_iff {first second : Except Problem Unit} :
    (first >>= fun _ => second) = .error problem ↔
      first = .error problem ∨ first = .ok () ∧ second = .error problem := by
  cases first <;> simp [bind, Except.bind]

/-- A check that lets a text pass goes on to the next one. -/
theorem if_pass_iff [Decidable refuses] {rest : Except Problem Unit}
    (meaning : refuses ↔ ¬allowed) :
    (if refuses then .error problem else rest) = .ok () ↔ allowed ∧ rest = .ok () := by
  by_cases refused : refuses
  · simp [refused, meaning.mp refused]
  · simp [refused, meaning.not_left.mp refused]

/-! ## Options -/

/-- What the check keeps in mind of the options before the next one. -/
structure Remembers (earlier : List CommandOption) (seen : List String) (optionalSeen : Bool) :
    Prop where
  names : name ∈ seen ↔ name ∈ earlier.map (·.name)
  flag : optionalSeen = true ↔ ∃ e ∈ earlier, e.required = false

theorem remembers_none : Remembers [] [] false := ⟨by simp, by simp⟩

theorem Remembers.next (state : Remembers earlier seen optionalSeen) (option : CommandOption) :
    Remembers (earlier ++ [option]) (option.name :: seen) (optionalSeen || !option.required) := by
  constructor
  · intro name
    simp [state.names, or_comm, eq_comm]
  · simp [state.flag, or_and_right, exists_or]

/-- What an option needs by itself. -/
structure ValidOption (option : CommandOption) : Prop where
  name : ValidName option.name
  description : ValidDescription option.description

/-- What an option needs of one before it. -/
def MayPrecede (earlier later : CommandOption) : Prop :=
  earlier.name ≠ later.name ∧ (later.required = true → earlier.required = true)

theorem seen_iff (state : Remembers earlier seen optionalSeen) :
    seen.contains name = true ↔ name ∈ earlier.map (·.name) := by
  rw [List.contains_iff_mem, state.names]

theorem late_iff (state : Remembers earlier seen optionalSeen) (required : Bool) :
    (required && optionalSeen) = true ↔ required = true ∧ ∃ e ∈ earlier, e.required = false := by
  rw [Bool.and_eq_true, state.flag]

theorem bad_name_iff : (!isValidName name) = true ↔ ¬ValidName name := by
  rw [Bool.not_eq_true', Bool.eq_false_iff, ne_eq, is_valid_name_iff]

/-- A fault is found exactly where an option breaks a rule. -/
theorem option_fault_none_iff (state : Remembers earlier seen optionalSeen) :
    optionFault? seen optionalSeen option = none ↔
      ValidOption option ∧ ∀ e ∈ earlier, MayPrecede e option := by
  unfold optionFault?
  constructor
  · intro passed
    split_ifs at passed with name repeated silent long late
    refine ⟨⟨bad_name_iff.not_left.mp name, blank_iff.not_left.mp silent, Nat.not_lt.mp long⟩,
      fun e member => ⟨?_, ?_⟩⟩
    · intro same
      exact repeated ((seen_iff state).mpr (List.mem_map.mpr ⟨e, member, same⟩))
    · intro required
      by_contra optional
      exact late ((late_iff state _).mpr ⟨required, e, member, Bool.eq_false_iff.mpr optional⟩)
  · rintro ⟨⟨name, present, short⟩, apart⟩
    have fresh : ¬seen.contains option.name = true := by
      rw [seen_iff state]
      intro repeated
      obtain ⟨e, member, same⟩ := List.mem_map.mp repeated
      exact (apart e member).1 same
    have ordered : ¬(option.required && optionalSeen) = true := by
      rw [late_iff state]
      rintro ⟨required, e, member, optional⟩
      rw [(apart e member).2 required] at optional
      cases optional
    have bounded : ¬maxDescription < option.description.length := Nat.not_lt.mpr short
    rw [if_neg (bad_name_iff.not_left.mpr name), if_neg fresh,
      if_neg (blank_iff.not_left.mpr present), if_neg bounded, if_neg ordered]

theorem option_faulty (state : Remembers earlier seen optionalSeen)
    (found : optionFault? seen optionalSeen option = some fault) :
    OptionFaulty earlier option fault := by
  unfold optionFault? at found
  split_ifs at found with name repeated silent long late <;> cases found
  · exact bad_name_iff.mp name
  · exact (seen_iff state).mp repeated
  · exact blank_iff.mp silent
  · exact long
  · exact (late_iff state _).mp late

/-- The check goes on exactly while each option is valid and may stand behind
all before it. -/
theorem check_options_ok_iff (state : Remembers earlier seen optionalSeen) :
    checkOptions command seen optionalSeen options = .ok () ↔
      (∀ option ∈ options, ValidOption option) ∧ options.Pairwise MayPrecede ∧
        ∀ e ∈ earlier, ∀ option ∈ options, MayPrecede e option := by
  induction options generalizing earlier seen optionalSeen with
  | nil => simp [checkOptions]
  | cons option rest ih =>
    have next := ih (state.next option)
    have fits : optionFault? seen optionalSeen option = none ↔
        ValidOption option ∧ ∀ e ∈ earlier, MayPrecede e option := option_fault_none_iff state
    rw [checkOptions]
    cases found : optionFault? seen optionalSeen option with
    | some fault =>
      rw [found] at fits
      simp only [reduceCtorEq, false_iff] at fits ⊢
      rintro ⟨valid, -, apart⟩
      exact fits ⟨valid option (by simp), fun e member => apart e member option (by simp)⟩
    | none =>
      obtain ⟨valid, apart⟩ := fits.mp found
      simp only [next, List.forall_mem_cons, List.pairwise_cons, List.mem_append,
        List.mem_singleton]
      constructor
      · rintro ⟨others, ordered, behind⟩
        exact ⟨⟨valid, others⟩, ⟨behind option (.inr rfl), ordered⟩,
          fun e member => ⟨apart e member, behind e (.inl member)⟩⟩
      · rintro ⟨⟨-, others⟩, ⟨first, ordered⟩, behind⟩
        refine ⟨others, ordered, fun e member => ?_⟩
        rcases member with earlier | rfl
        · exact (behind e earlier).2
        · exact first

theorem check_options_error (state : Remembers earlier seen optionalSeen)
    (refused : checkOptions command seen optionalSeen options = .error problem) :
    ∃ before faulty after fault, options = before ++ faulty :: after ∧
      problem = .badOption command faulty.name fault ∧
        OptionFaulty (earlier ++ before) faulty fault := by
  induction options generalizing earlier seen optionalSeen with
  | nil => cases refused
  | cons option rest ih =>
    rw [checkOptions] at refused
    split at refused
    · next fault found =>
      cases refused
      refine ⟨[], option, rest, fault, rfl, rfl, ?_⟩
      rw [List.append_nil]
      exact option_faulty state found
    · obtain ⟨before, faulty, after, fault, shape, named, fact⟩ := ih (state.next option) refused
      refine ⟨option :: before, faulty, after, fault, by rw [shape]; rfl, named, ?_⟩
      rwa [List.append_assoc] at fact

theorem options_ok_iff (few : options.length ≤ 25) :
    checkOptions command [] false options = .ok () ↔ ValidOptions options := by
  rw [check_options_ok_iff remembers_none]
  constructor
  · rintro ⟨valid, ordered, -⟩
    refine ⟨few, fun o member => (valid o member).name, ?_,
      fun o member => (valid o member).description, ordered.imp And.right⟩
    exact List.pairwise_map.mpr (ordered.imp And.left)
  · rintro ⟨-, names, distinct, descriptions, ordered⟩
    refine ⟨fun o member => ⟨names o member, descriptions o member⟩, ?_, by simp⟩
    exact (List.pairwise_map.mp distinct).and ordered

/-! ## Commands -/

theorem check_reply_ok_iff : checkReply command = .ok () ↔ HasReply command := by
  unfold checkReply HasReply
  cases command.source with
  | staticText => exact (if_pass_iff absent_iff).trans (and_iff_left rfl)
  | apiCall =>
    exact (if_pass_iff absent_iff).trans
      (and_congr_right fun _ => (if_pass_iff absent_iff).trans (and_iff_left rfl))

theorem check_reply_error (refused : checkReply command = .error problem) :
    Faulty earlier command problem := by
  unfold checkReply at refused
  split at refused
  · next kind =>
    split_ifs at refused with absent
    cases refused
    exact ⟨rfl, kind, absent_iff.mp absent⟩
  · next kind =>
    split_ifs at refused with profile endpoint <;> cases refused
    · exact ⟨rfl, kind, absent_iff.mp profile⟩
    · exact ⟨rfl, kind, absent_iff.mp endpoint⟩

/-- A command passes by itself exactly if it is valid. -/
theorem check_command_ok_iff : checkCommand number command = .ok () ↔ ValidCommand command := by
  have bounded : maxDescription < command.description.length ↔
      ¬command.description.length ≤ 100 := Nat.not_le.symm
  have few : maxOptions < command.options.length ↔ ¬command.options.length ≤ 25 := Nat.not_le.symm
  rw [checkCommand, if_pass_iff blank_iff, if_pass_iff bad_name_iff, if_pass_iff blank_iff,
    if_pass_iff bounded, if_pass_iff few, then_ok_iff, check_reply_ok_iff]
  constructor
  · rintro ⟨-, name, present, short, few, options, reply⟩
    exact ⟨name, ⟨present, short⟩, (options_ok_iff few).mp options, reply⟩
  · rintro ⟨name, ⟨present, short⟩, options, reply⟩
    exact ⟨name.present, name, present, short, options.few,
      (options_ok_iff options.few).mpr options, reply⟩

theorem check_command_error
    (refused : checkCommand (earlier.length + 1) command = .error problem) :
    Faulty earlier command problem := by
  unfold checkCommand at refused
  split_ifs at refused with blank name silent long many
  · cases refused
    exact ⟨rfl, blank_iff.mp blank⟩
  · cases refused
    exact ⟨rfl, bad_name_iff.mp name⟩
  · cases refused
    exact ⟨rfl, blank_iff.mp silent⟩
  · cases refused
    exact ⟨rfl, rfl, long⟩
  · cases refused
    exact ⟨rfl, rfl, many⟩
  · rcases then_error_iff.mp refused with options | ⟨-, reply⟩
    · obtain ⟨before, faulty, after, fault, shape, rfl, fact⟩ :=
        check_options_error remembers_none options
      exact ⟨rfl, before, faulty, after, shape, rfl, fact⟩
    · exact check_reply_error reply

/-- The check of the commands keeps the names of those before in mind, the last
one first. -/
def namesBefore (earlier : List Command) : List String := (earlier.map (·.name)).reverse

theorem names_before_next :
    namesBefore (earlier ++ [command]) = command.name :: namesBefore earlier := by
  simp [namesBefore]

theorem taken_iff : (namesBefore earlier).contains name = true ↔ name ∈ earlier.map (·.name) := by
  rw [List.contains_iff_mem, namesBefore, List.mem_reverse]

/-- One round of the loop: the command by itself, then its name, then the rest. -/
theorem check_commands_cons :
    checkCommands (namesBefore earlier) (command :: rest) =
      (checkCommand (earlier.length + 1) command >>= fun _ =>
        if (namesBefore earlier).contains command.name then .error (.repeatedCommand command.name)
        else checkCommands (namesBefore (earlier ++ [command])) rest) := by
  rw [checkCommands, names_before_next, namesBefore, List.length_reverse, List.length_map]

theorem distinct_next_iff :
    Distinct (earlier ++ [command]) ↔
      Distinct earlier ∧ command.name ∉ earlier.map (·.name) := by
  rw [Distinct, List.map_append, List.map_singleton, List.nodup_append']
  simp only [List.nodup_singleton, true_and, List.disjoint_singleton]
  rfl

theorem check_commands_ok_iff (distinct : Distinct earlier) :
    checkCommands (namesBefore earlier) pending = .ok () ↔
      (∀ command ∈ pending, ValidCommand command) ∧ Distinct (earlier ++ pending) := by
  induction pending generalizing earlier with
  | nil => simpa [checkCommands] using distinct
  | cons command rest ih =>
    have taken : (namesBefore earlier).contains command.name = true ↔
        ¬command.name ∉ earlier.map (·.name) := taken_iff.trans not_not.symm
    have shape : earlier ++ command :: rest = (earlier ++ [command]) ++ rest := by simp
    rw [check_commands_cons, then_ok_iff, check_command_ok_iff, if_pass_iff taken,
      List.forall_mem_cons, shape]
    constructor
    · rintro ⟨valid, fresh, passed⟩
      obtain ⟨others, apart⟩ := (ih (distinct_next_iff.mpr ⟨distinct, fresh⟩)).mp passed
      exact ⟨⟨valid, others⟩, apart⟩
    · rintro ⟨⟨valid, others⟩, apart⟩
      have next : Distinct (earlier ++ [command]) := by
        rw [Distinct, List.map_append] at apart
        exact apart.of_append_left
      exact ⟨valid, (distinct_next_iff.mp next).2, (ih next).mpr ⟨others, apart⟩⟩

/-- The first command that is refused follows only valid ones of distinct names,
and the problem is its own. -/
theorem check_commands_error (distinct : Distinct earlier)
    (refused : checkCommands (namesBefore earlier) pending = .error problem) :
    ∃ before failing after, pending = before ++ failing :: after ∧
      Faulty (earlier ++ before) failing problem ∧
        (∀ command ∈ before, ValidCommand command) ∧ Distinct (earlier ++ before) := by
  induction pending generalizing earlier with
  | nil => cases refused
  | cons command rest ih =>
    rw [check_commands_cons] at refused
    rcases then_error_iff.mp refused with own | ⟨valid, refused⟩
    · refine ⟨[], command, rest, rfl, ?_, by simp, ?_⟩
      · rw [List.append_nil]
        exact check_command_error own
      · rwa [List.append_nil]
    · split_ifs at refused with taken
      · cases refused
        refine ⟨[], command, rest, rfl, ?_, by simp, ?_⟩
        · rw [List.append_nil]
          exact ⟨rfl, taken_iff.mp taken⟩
        · rwa [List.append_nil]
      · -- This command passes, so the failing one is among the rest.
        have next := distinct_next_iff.mpr ⟨distinct, mt taken_iff.mpr taken⟩
        obtain ⟨before, failing, after, shape, fact, others, apart⟩ := ih next refused
        rw [List.append_assoc] at fact apart
        refine ⟨command :: before, failing, after, by rw [shape]; rfl, fact, ?_, apart⟩
        exact List.forall_mem_cons.mpr ⟨check_command_ok_iff.mp valid, others⟩

theorem not_valid_of_option_faulty (fact : OptionFaulty before faulty fault) :
    ¬ValidOptions (before ++ faulty :: after) := by
  intro valid
  have member : faulty ∈ before ++ faulty :: after := by simp
  cases fault with
  | badName => exact fact (valid.names faulty member)
  | noDescription => exact fact (valid.descriptions faulty member).present
  | longDescription =>
    exact absurd (valid.descriptions faulty member).short (Nat.not_le.mpr fact)
  | repeated =>
    obtain ⟨e, held, same⟩ := List.mem_map.mp fact
    have apart := List.pairwise_append.mp (List.pairwise_map.mp valid.distinct)
    exact apart.2.2 e held faulty (by simp) same
  | requiredAfterOptional =>
    obtain ⟨required, e, held, optional⟩ := fact
    have ordered := List.pairwise_append.mp valid.required_first
    rw [ordered.2.2 e held faulty (by simp) required] at optional
    cases optional

/-- A problem that is true of a command keeps it out. -/
theorem not_admitted_of_faulty (fact : Faulty earlier command problem) :
    ¬(ValidCommand command ∧ command.name ∉ earlier.map (·.name)) := by
  rintro ⟨valid, fresh⟩
  have reply := valid.reply
  cases problem with
  | namelessCommand => exact fact.2 valid.name.present
  | badCommandName => exact fact.2 valid.name
  | undescribedCommand => exact fact.2 valid.description.present
  | longDescription =>
    obtain ⟨-, rfl, long⟩ := fact
    exact absurd valid.description.short (Nat.not_le.mpr long)
  | tooManyOptions =>
    obtain ⟨-, rfl, many⟩ := fact
    exact absurd valid.options.few (Nat.not_le.mpr many)
  | badOption =>
    obtain ⟨-, before, faulty, after, shape, -, broken⟩ := fact
    exact not_valid_of_option_faulty broken (shape ▸ valid.options)
  | repeatedCommand =>
    obtain ⟨rfl, taken⟩ := fact
    exact fresh taken
  | noStaticText =>
    obtain ⟨-, kind, absent⟩ := fact
    rw [HasReply, kind] at reply
    exact absent reply
  | noApiBinding _ part =>
    cases part with
    | profile =>
      obtain ⟨-, kind, absent⟩ := fact
      rw [HasReply, kind] at reply
      exact absent reply.1
    | endpoint =>
      obtain ⟨-, kind, absent⟩ := fact
      rw [HasReply, kind] at reply
      exact absent reply.2
  | noAccess | badSpec | unknownFormat | badSample | namelessBot | noCommands => exact fact

/-! ## Whole specifications -/

theorem validate_ok_iff (spec : Spec) :
    (∃ warnings, spec.validate = .ok warnings) ↔ spec.check = .ok () := by
  unfold validate
  cases spec.check <;> simp [bind, Except.bind, pure, Except.pure]

theorem validate_error_iff (spec : Spec) :
    spec.validate = .error problem ↔ spec.check = .error problem := by
  unfold validate
  cases spec.check <;> simp [bind, Except.bind, pure, Except.pure]

theorem distinct_none : Distinct [] := List.nodup_nil

theorem check_ok_iff (spec : Spec) : spec.check = .ok () ↔ Admissible spec := by
  have commands : checkCommands [] spec.commands = .ok () ↔ _ :=
    check_commands_ok_iff distinct_none
  rw [check, if_pass_iff blank_iff, if_pass_iff not_not.symm, commands]
  constructor
  · rintro ⟨named, nonempty, valid, distinct⟩
    exact ⟨named, nonempty, distinct, valid⟩
  · rintro ⟨named, nonempty, distinct, valid⟩
    exact ⟨named, nonempty, valid, distinct⟩

/-- Validation passes exactly the admissible specifications. When it stops at a
command, what it reports is true of that command, which is therefore not
admitted, while all commands before it are valid and have distinct names. -/
theorem validation_passes_exactly_admissible (spec : Spec) :
    ((∃ warnings, spec.validate = .ok warnings) ↔ Admissible spec) ∧
    ∀ problem, spec.validate = .error problem →
      problem = .namelessBot ∧ ¬Present spec.bot.name ∨
      problem = .noCommands ∧ spec.commands = [] ∨
      ∃ before failing after, spec.commands = before ++ failing :: after ∧
        Faulty before failing problem ∧
        ¬(ValidCommand failing ∧ failing.name ∉ before.map (·.name)) ∧
        (∀ command ∈ before, ValidCommand command) ∧ Distinct before := by
  refine ⟨(validate_ok_iff spec).trans (check_ok_iff spec), fun problem stopped => ?_⟩
  rw [validate_error_iff, check] at stopped
  split_ifs at stopped with blank empty
  · cases stopped
    exact .inl ⟨rfl, blank_iff.mp blank⟩
  · cases stopped
    exact .inr (.inl ⟨rfl, empty⟩)
  · obtain ⟨before, failing, after, shape, fact, valid, distinct⟩ :=
      check_commands_error distinct_none stopped
    exact .inr (.inr ⟨before, failing, after, shape, fact, not_admitted_of_faulty fact, valid,
      distinct⟩)

end Botwright.SpecAdmission
