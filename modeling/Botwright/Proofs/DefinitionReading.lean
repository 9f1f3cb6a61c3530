import Botwright.Proofs.CatalogueTransmission
import Botwright.Proofs.LiteralReading
import Botwright.Proofs.ProfileAddition

/-! The definitions that a bot registers, read from the module that exports them. The JSON
text in it is what stands between the export and the end of the statement, whatever texts
are in it, and whoever reads that text by Discord's numbers for the types of options gets
the commands as they were declared. -/
namespace Botwright.DefinitionReading
open Project Environment Json
open Reply (Style)
open DocumentKeys JsonReading CatalogueTransmission LiteralReading ProfileAddition

/-! ## The payload -/

/-- How the statement with the definitions begins. -/
def exportOpening : String := "export const commandDefinitions = "

/-- What stands in a module between the first such beginning and the semicolon at its end. -/
def payload? (module : String) : Option String := do
  let (_, rest) ← Text.cut? exportOpening.toList module.toList
  enclosed? "" ";\n" rest

/-! ## Declarations -/

/-- What is declared of a command where it is registered. -/
structure Declaration where
  name : String
  description : String
  options : List CommandOption
  deriving DecidableEq, Repr

/-- An option as it is registered: one of a type that nobody knows is a string. -/
def registered (option : CommandOption) : CommandOption :=
  if option.type = .unknown then { option with type := .string } else option

/-- What a command declares. -/
def Declaration.of (command : Command) : Declaration :=
  ⟨command.name, command.description, command.options.map registered⟩

/-- Discord's numbers for the types of options. -/
def discordTypes : List (Int × OptionType) :=
  [(3, .string), (4, .integer), (5, .boolean), (6, .user), (7, .channel), (8, .role)]

def text? : Json → Option String
  | .string s => some s
  | _ => none

def flag? : Json → Option Bool
  | .bool b => some b
  | _ => none

def type? : Json → Option OptionType
  | .number (.integer code _) => discordTypes.lookup code
  | _ => none

def items? : Json → Option (List Json)
  | .array items => some items
  | _ => none

/-- The option that an object describes. -/
def option? (v : Json) : Option CommandOption := do
  let name ← (v.get? "name").bind text?
  let description ← (v.get? "description").bind text?
  let type ← (v.get? "type").bind type?
  let required ← (v.get? "required").bind flag?
  return { name, description, type, required }

/-- The declaration that an object is. -/
def declaration? (v : Json) : Option Declaration := do
  let name ← (v.get? "name").bind text?
  let description ← (v.get? "description").bind text?
  let items ← (v.get? "options").bind items?
  let options ← items.mapM option?
  return { name, description, options }

theorem option_read (option : CommandOption) :
    option? (optionDefinition option) = some (registered option) := by
  obtain ⟨name, description, type, required⟩ := option
  cases type <;> rfl

theorem mapM_read {encode : α → Json} {decode : Json → Option β} {meant : α → β}
    (each : ∀ a, decode (encode a) = some (meant a)) (list : List α) :
    (list.map encode).mapM decode = some (list.map meant) := by
  induction list with
  | nil => rfl
  | cons a list ih => simp [each, ih]

theorem declaration_read (command : Command) :
    declaration? (commandDefinition command) = some (.of command) := by
  have options := mapM_read option_read command.options
  simp [declaration?, commandDefinition, Json.get?, List.lookup_cons, text?, items?, options,
    Declaration.of]

/-! ## Values that are read back -/

/-- A value that is written and read without a change: no object repeats a key, numbers are
read exactly, and it is not nested deeper than a limit. -/
structure Steady (depth : Nat) (v : Json) : Prop where
  distinct : Distinct v
  shallow : nesting v ≤ depth
  exact : ∀ n ∈ numbers v, Exact n

/-- The text of such a value is read as the value. -/
theorem Steady.read (steady : Steady depth v) (within : depth ≤ maxDepth) :
    Json.read? v.pretty = some v := by
  rw [read_pretty steady.distinct, if_pos (steady.shallow.trans within), reread_self_iff]
  exact steady.exact

theorem Steady.string (depth : Nat) (s : String) : Steady depth (.string s) :=
  ⟨trivial, Nat.zero_le _, by simp [numbers]⟩

theorem Steady.bool (depth : Nat) (b : Bool) : Steady depth (.bool b) :=
  ⟨trivial, Nat.zero_le _, by simp [numbers]⟩

theorem Steady.integer (depth : Nat) (value : Int) (inRange) :
    Steady depth (.number (.integer value inRange)) :=
  ⟨trivial, Nat.zero_le _, by simp [numbers, integer_exact]⟩

theorem Steady.array (each : ∀ item ∈ items, Steady depth item) :
    Steady (depth + 1) (.array items) := by
  have inside : EveryItem List.Nodup items ∧ ∀ n ∈ itemsNumbers items, Exact n := by
    induction items with
    | nil => exact ⟨trivial, by simp [itemsNumbers]⟩
    | cons item rest ih =>
      rw [List.forall_mem_cons] at each
      obtain ⟨distinct, exact⟩ := ih each.2
      exact ⟨⟨each.1.distinct, distinct⟩, List.forall_mem_append.mpr ⟨each.1.exact, exact⟩⟩
  have shallow : itemsNesting items ≤ depth :=
    items_nesting_le_iff.mpr fun item held => (each item held).shallow
  exact ⟨inside.1, Nat.succ_le_succ shallow, inside.2⟩

theorem Steady.object (keys : (members.map (·.1)).Nodup)
    (each : ∀ member ∈ members, Steady depth member.2) :
    Steady (depth + 1) (.object members) := by
  have exact : ∀ n ∈ membersNumbers members, Exact n := by
    clear keys
    induction members with
    | nil => simp [membersNumbers]
    | cons member rest ih =>
      rw [List.forall_mem_cons] at each
      exact List.forall_mem_append.mpr ⟨each.1.exact, ih each.2⟩
  have shallow : membersNesting members ≤ depth :=
    members_nesting_le_iff.mpr fun member held => (each member held).shallow
  have distinct : EveryMember List.Nodup members :=
    every_member_iff.mpr fun member held => (each member held).distinct
  exact ⟨⟨keys, distinct⟩, Nat.succ_le_succ shallow, exact⟩

theorem option_steady (option : CommandOption) : Steady 1 (optionDefinition option) := by
  refine .object (show ["name", "description", "type", "required"].Nodup by decide) ?_
  simp only [List.forall_mem_cons]
  exact ⟨.string 0 _, .string 0 _, .integer 0 _ _, .bool 0 _, List.forall_mem_nil _⟩

theorem command_steady (command : Command) : Steady 3 (commandDefinition command) := by
  have options : Steady 2 (.array (command.options.map optionDefinition)) :=
    .array (List.forall_mem_map.mpr fun option _ => option_steady option)
  refine .object (show ["name", "description", "type", "options"].Nodup by decide) ?_
  simp only [List.forall_mem_cons]
  exact ⟨.string 2 _, .string 2 _, .integer 2 _ _, options, List.forall_mem_nil _⟩

theorem definitions_steady (spec : Spec) : Steady 4 (definitions spec) :=
  .array (List.forall_mem_map.mpr fun command _ => command_steady command)

/-! ## The module -/

/-- A text is cut at a pattern that does not begin earlier, not even with its end behind the
text in front. -/
theorem cut_behind {pattern front rest : List Char}
    (late : ∀ tail ∈ front.tails, tail ≠ [] → ¬ pattern <+: tail ++ pattern) :
    Text.cut? pattern (front ++ (pattern ++ rest)) = some (front, rest) := by
  induction front with
  | nil =>
    cases shape : pattern ++ rest with
    | nil =>
      obtain ⟨rfl, rfl⟩ := List.append_eq_nil_iff.mp shape
      rfl
    | cons c text =>
      rw [List.nil_append, Text.cut?, ← shape, Text.dropStart?_eq_some_iff.mpr rfl]
  | cons c front ih =>
    rw [List.tails, List.forall_mem_cons] at late
    have missing : Text.dropStart? pattern (c :: (front ++ (pattern ++ rest))) = none := by
      by_contra found
      obtain ⟨after, found⟩ := Option.ne_none_iff_exists'.mp found
      have whole : pattern <+: (c :: front ++ pattern) ++ rest := by
        refine ⟨after, ?_⟩
        simpa using (Text.dropStart?_eq_some_iff.mp found).symm
      refine late.1 (List.cons_ne_nil c front) ?_
      refine List.prefix_of_prefix_length_le whole (List.prefix_append _ rest) ?_
      rw [List.length_append]
      omega
    rw [List.cons_append, Text.cut?, missing, ih late.2]
    rfl

/-- What stands in front of the export. -/
def moduleComment : String :=
  "// Slash command definitions registered with Discord.\n// Generated by BotForge.\n\n"

theorem cut_export (rest : List Char) :
    Text.cut? exportOpening.toList (moduleComment.toList ++ (exportOpening.toList ++ rest)) =
      some (moduleComment.toList, rest) :=
  cut_behind (by decide +kernel)

theorem payload_definitions (spec : Spec) :
    payload? (definitionModule spec) = some (definitions spec).pretty := by
  have whole : (definitionModule spec).toList = moduleComment.toList ++
      (exportOpening.toList ++ ((definitions spec).pretty.toList ++ ";\n".toList)) := by
    have text : definitionModule spec =
        moduleComment ++ exportOpening ++ (definitions spec).pretty ++ ";\n" := rfl
    rw [text, String.toList_append, String.toList_append, String.toList_append, List.append_assoc,
      List.append_assoc]
  have read := enclosed_text "" ";\n" (definitions spec).pretty
  rw [String.toList_empty, List.nil_append] at read
  simp only [payload?, whole, cut_export, Option.bind_eq_bind, Option.bind_some, read]

/-- For every specification, the module of the definitions has one payload, from the first
export to the end of the statement. It is a JSON text for a list with an object for each
command in the order of the commands, and each object declares the command: its name and
description as they are, and its options in their order, each with its name, description
and flag as they are and with Discord's number for its type, where an option of a type that
nobody knows is a string. -/
theorem registration_payload_faithful (style : Style) (spec : Spec) (deployment : Deployment)
    (random : RandomBytes) :
    ∃ text payload items,
      (generate style spec deployment random).file? "src/definitions.js" = some text ∧
      payload? text = some payload ∧ Json.read? payload = some (.array items) ∧
      items.mapM declaration? = some (spec.commands.map .of) :=
  ⟨_, _, _, definition_file style spec deployment random, payload_definitions spec,
    (definitions_steady spec).read (by decide),
    mapM_read declaration_read spec.commands⟩

end Botwright.DefinitionReading
