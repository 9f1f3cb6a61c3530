import Botwright.Proofs.IdentifierNames
import Botwright.Proofs.ModuleReading
import Botwright.Proofs.SnippetLocals
import Botwright.Spec.Preset

/-! The names that a generated module takes from its specification: handlers, locals of
options and of fields, and properties after a dot. Each of them is an identifier for
the generator, and an identifier name of ECMAScript unless it holds one of the symbols
and numbers, or begins with one of the marks, that only the generator admits. -/
namespace Botwright.EmittedNames
open Script Reply Project ModuleReading IdentifierNames

/-! ## Names in a module -/

/-- A command calls an API whose profile is there. -/
structure Calls (spec : Spec) (command : Command) (profile : Profile) : Prop where
  declared : command ∈ spec.commands
  api : command.source = .apiCall
  configured : spec.profileOf? command = some profile

/-- A command's handler treats the response by a snippet for the command's mappings. -/
structure Generates (spec : Spec) (command : Command) : Prop where
  calls : ∃ profile, Calls spec command profile
  unwritten : command.snippet? = none

/-- A property of an object that is written after a dot. -/
def Dotted (object name : String) : Prop := member object name = object ++ "." ++ name

/-- What stands bare in the module and comes from the specification: names of handlers,
locals of options and of mapped fields, and after a dot the names of options, the keys on
mapped paths and the variables of profiles. -/
inductive Emitted (style : Style) (spec : Spec) : String → Prop where
  | handler (declared : (name, body) ∈ handlerFunctions (commandCode style spec)) :
      Emitted style spec name
  | option (declared : command ∈ spec.commands) (bound : option ∈ boundOptions command)
      (read : optionRead option ∈ handlerBody style spec command) :
      Emitted style spec option.binding
  | optionKey (declared : command ∈ spec.commands) (bound : option ∈ boundOptions command)
      (read : optionRead option ∈ handlerBody style spec command)
      (dotted : Dotted "options" option.name) : Emitted style spec option.name
  | field (generates : Generates spec command)
      (held : field ∈ Snippet.declarations command.mappingList) :
      Emitted style spec field.binding
  | fieldKey (generates : Generates spec command)
      (held : field ∈ Snippet.declarations command.mappingList)
      (step : .key key ∈ FieldPath.segments field.path)
      (dotted : accessStep true (.key key) = "?." ++ key) : Emitted style spec key
  | secret (calls : Calls spec command profile)
      (authorized : (authorization? profile).isSome = true)
      (dotted : Dotted "env" profile.keyVariable) : Emitted style spec profile.keyVariable
  | address (calls : Calls spec command profile) (named : profile.urlVariable? = some name)
      (dotted : Dotted "env" name) : Emitted style spec name

/-! ## Names for the generator -/

theorem identifier_of_dotted (dotted : Dotted object name) : isIdentifier name = true := by
  by_contra other
  rw [Dotted, member, if_neg other, String.append_assoc, String.append_assoc,
    String.append_assoc] at dotted
  have text := congrArg String.toList dotted
  simp at text

theorem length_lt_quoted (text : List Char) : text.length < (quoted text).length := by
  have escaped : text.length ≤ (text.flatMap quotedChar).length := by
    induction text with
    | nil => exact Nat.le_refl 0
    | cons c rest ih =>
      have written := List.length_pos_iff.mpr (LiteralReading.quoted_char_ne_nil c)
      rw [List.length_cons, List.flatMap_cons, List.length_append]
      omega
  rw [quoted, List.length_append, List.length_cons]
  omega

/-- A key in brackets is not mistaken for one after a dot: its quotes make it longer. -/
theorem identifier_of_link (dotted : accessStep true (.key key) = "?." ++ key) :
    isIdentifier key = true := by
  by_contra other
  rw [accessStep, if_neg other, if_pos rfl] at dotted
  have lengths := congrArg (fun text => text.toList.length) dotted
  have longer := length_lt_quoted key.toList
  simp [stringLiteral] at lengths longer
  omega

theorem identifier_of_bound (bound : option ∈ bindOptions scope options) :
    isIdentifier option.binding = true := by
  induction options generalizing scope with
  | nil => cases bound
  | cons first rest ih =>
    rw [bindOptions] at bound
    rcases List.mem_cons.mp bound with rfl | later
    · exact BindingAllocation.identifier_choose _ _
    · exact ih later

/-- Every emitted name has passed the generator's own test or was made to pass it. -/
theorem identifier_of_emitted (emitted : Emitted style spec name) : isIdentifier name = true := by
  cases emitted with
  | handler declared =>
    rw [handler_functions] at declared
    obtain ⟨command, _, same⟩ := List.mem_map.mp declared
    cases same
    exact identifier_handler_name command.name
  | option _ bound _ => exact identifier_of_bound bound
  | optionKey _ _ _ dotted => exact identifier_of_dotted dotted
  | field _ held => exact (SnippetLocals.local_of_declaration held).identifier
  | fieldKey _ _ _ dotted => exact identifier_of_link dotted
  | secret _ _ dotted => exact identifier_of_dotted dotted
  | address _ _ dotted => exact identifier_of_dotted dotted

/-! ## Names for ECMAScript -/

/-- A name that a module takes from its specification is an identifier for the generator.
It is an identifier name of ECMAScript just if it holds no symbol or number that only the
generator admits and begins with no mark. -/
theorem emitted_name_iff (emitted : Emitted style spec name) :
    isIdentifier name = true ∧
      (IdentifierName name ↔
        (∀ c ∈ name.toList, ¬Stray c) ∧ ∀ c ∈ name.toList.head?, ¬Late c) :=
  have identifier := identifier_of_emitted emitted
  ⟨identifier, identifier_name_iff identifier⟩

/-- A command with a number in its name that no identifier name holds. -/
def sampleSpec : Spec where
  bot := ⟨"bot", "", none, none, none, .gateway⟩
  profiles := []
  commands := [{ Preset.command "x\u00b2" "square" .staticText with staticText := some "one" }]

theorem sample_handler : Emitted ⟨.simpleText, .english⟩ sampleSpec "handleX\u00b2" := by
  have named : handlerName "x\u00b2" = "handleX\u00b2" := by decide +kernel
  have declared : ∃ body, ("handleX\u00b2", body) ∈
      handlerFunctions (commandCode ⟨.simpleText, .english⟩ sampleSpec) := by
    rw [handler_functions, ← named]
    exact ⟨_, List.mem_cons_self⟩
  exact .handler declared.choose_spec

theorem sample_name_iff :
    Emitted ⟨.simpleText, .english⟩ sampleSpec "handleX\u00b2" ∧
      isIdentifier "handleX\u00b2" = true ∧
      (IdentifierName "handleX\u00b2" ↔ (∀ c ∈ "handleX\u00b2".toList, ¬Stray c) ∧
        ∀ c ∈ "handleX\u00b2".toList.head?, ¬Late c) :=
  ⟨sample_handler, emitted_name_iff sample_handler⟩

/-- An accepted specification without a warning whose module declares a function by what
is no name in ECMAScript. -/
theorem emitted_name_invalid :
    sampleSpec.validate = .ok [] ∧
      ∃ name, Emitted ⟨.simpleText, .english⟩ sampleSpec name ∧ ¬IdentifierName name :=
  ⟨by decide +kernel, "handleX\u00b2", sample_handler, by decide +kernel⟩

end Botwright.EmittedNames
