import Botwright.Compile

/-! A blank text means the same as no text, wherever a specification may leave
one out. Two specifications that differ only in blank texts, in an empty list of
mappings, or in an empty format instead of the plain one, pass or fail validation
alike and give the same project. Every function reads such a text through the
accessor that drops blank ones; the lemmas follow the calls upwards from there. -/
namespace Botwright.BlankTexts
open Reply Reply.Snippet Environment Project

/-- A blank text is taken for an absent one; any other text is kept. -/
def dropBlank : Option String → Option String
  | none => none
  | some text => if text.toList.all Text.isBlank then none else some text

def normalBot (bot : Bot) : Bot :=
  { bot with
    applicationId := dropBlank bot.applicationId
    publicKey := dropBlank bot.publicKey
    token := dropBlank bot.token }

def normalProfile (profile : Profile) : Profile :=
  { profile with
    apiKey := dropBlank profile.apiKey
    apiKeyName := dropBlank profile.apiKeyName }

/-- An empty format is written out as the plain one. -/
def normalMapping (mapping : Mapping) : Mapping :=
  { mapping with format := if mapping.format = "" then "\x7bvalue\x7d" else mapping.format }

/-- An empty list of mappings is taken for an absent one. -/
def normalMappings : Option (List Mapping) → Option (List Mapping)
  | none => none
  | some [] => none
  | some (first :: rest) => some ((first :: rest).map normalMapping)

def normalCommand (command : Command) : Command :=
  { command with
    staticText := dropBlank command.staticText
    profileId := dropBlank command.profileId
    endpoint := dropBlank command.endpoint
    snippet := dropBlank command.snippet
    mappings := normalMappings command.mappings }

/-- The specification without blank texts, empty lists of mappings and empty
formats. -/
def normal (spec : Spec) : Spec where
  bot := normalBot spec.bot
  profiles := spec.profiles.map normalProfile
  commands := spec.commands.map normalCommand

/-! ## Accessors -/

theorem non_blank_drop_blank (text : Option String) :
    Text.nonBlank? (dropBlank text) = Text.nonBlank? text := by
  cases text with
  | none => rfl
  | some text =>
    by_cases blank : text.toList.all Text.isBlank = true
    · have dropped : Text.isBlankText text = true := blank
      rw [dropBlank, if_pos blank]
      simp [Text.nonBlank?, Option.filter, dropped]
    · rw [dropBlank, if_neg blank]

section Accessors
variable (bot : Bot) (profile : Profile) (command : Command) (mapping : Mapping)

@[simp] theorem application_id_normal :
    (normalBot bot).applicationId? = bot.applicationId? := non_blank_drop_blank _

@[simp] theorem public_key_normal : (normalBot bot).publicKey? = bot.publicKey? :=
  non_blank_drop_blank _

@[simp] theorem token_normal : (normalBot bot).token? = bot.token? := non_blank_drop_blank _

@[simp] theorem api_key_normal : (normalProfile profile).apiKey? = profile.apiKey? :=
  non_blank_drop_blank _

@[simp] theorem api_key_name_normal :
    (normalProfile profile).apiKeyName? = profile.apiKeyName? := non_blank_drop_blank _

@[simp] theorem static_text_normal : (normalCommand command).staticText? = command.staticText? :=
  non_blank_drop_blank _

@[simp] theorem profile_id_normal : (normalCommand command).profileId? = command.profileId? :=
  non_blank_drop_blank _

@[simp] theorem endpoint_normal : (normalCommand command).endpoint? = command.endpoint? :=
  non_blank_drop_blank _

@[simp] theorem snippet_normal : (normalCommand command).snippet? = command.snippet? :=
  non_blank_drop_blank _

@[simp] theorem effective_format_normal :
    (normalMapping mapping).effectiveFormat = mapping.effectiveFormat := by
  unfold Mapping.effectiveFormat normalMapping Mapping.plainFormat
  by_cases empty : mapping.format = "" <;> simp [empty]

@[simp] theorem mapping_list_normal :
    (normalCommand command).mappingList = command.mappingList.map normalMapping := by
  unfold Command.mappingList normalCommand
  match command.mappings with
  | none => rfl
  | some [] => rfl
  | some (_ :: _) => rfl

end Accessors

/-! ## Environment -/

theorem credentials_normal (bot : Bot) (secret : Option Secret) (deployment : Deployment) :
    credentials (normalBot bot) secret deployment = credentials bot secret deployment := by
  simp only [credentials, applicationIdRow, publicKeyRow, tokenRow, application_id_normal,
    public_key_normal, token_normal]

theorem profile_rows_normal (profile : Profile) :
    profileRows (normalProfile profile) = profileRows profile := by
  simp only [profileRows, keyRow?, api_key_normal]
  rfl

theorem rows_normal (bot : Bot) (deployment : Deployment) (profiles : List Profile)
    (secret : Option Secret) :
    rows (normalBot bot) deployment (profiles.map normalProfile) secret =
      rows bot deployment profiles secret := by
  rw [rows, rows, credentials_normal, List.flatMap_map]
  simp only [profile_rows_normal]

/-! ## Replies -/

theorem declare_from_normal (mappings : List Mapping) :
    declareFrom declared scope (mappings.map normalMapping) =
      declareFrom declared scope mappings := by
  induction mappings generalizing declared scope with
  | nil => rfl
  | cons mapping rest ih =>
    rw [List.map_cons, declareFrom, declareFrom]
    simp only [ih]
    rfl

theorem item_normal (style : SnippetStyle) (declared : List Declaration) (mapping : Mapping) :
    item style declared (normalMapping mapping) = item style declared mapping := by
  unfold item
  rw [effective_format_normal]
  rfl

theorem snippet_of_normal (style : SnippetStyle) (template : Template) (locale : Locale)
    (mappings : List Mapping) :
    snippet style template locale (mappings.map normalMapping) =
      snippet style template locale mappings := by
  have locals : declarations (mappings.map normalMapping) = declarations mappings :=
    declare_from_normal mappings
  have items (declared : List Declaration) :
      (mappings.map normalMapping).map (item style declared) =
        mappings.map (item style declared) := by
    rw [List.map_map]
    exact List.map_congr_left fun mapping _ => item_normal style declared mapping
  simp only [snippet, code, List.map_eq_nil_iff, locals, items]

theorem authorization_normal (profile : Profile) :
    authorization? (normalProfile profile) = authorization? profile := by
  unfold authorization?
  rw [api_key_name_normal]
  rfl

theorem api_handler_normal (style : Style) (name : String) (command : Command)
    (profile : Profile) :
    apiHandler style name (normalCommand command) (normalProfile profile) =
      apiHandler style name command profile := by
  have body : responseBody style (normalCommand command) = responseBody style command := by
    unfold responseBody
    rw [snippet_normal, mapping_list_normal, snippet_of_normal]
    rfl
  have request (options : List BoundOption) :
      requestLines (normalCommand command) (normalProfile profile) options =
        requestLines command profile options := by
    unfold requestLines
    rw [authorization_normal, endpoint_normal]
    rfl
  simp only [apiHandler, body, request]
  rfl

theorem static_handler_normal (name : String) (command : Command) :
    staticHandler name (normalCommand command) = staticHandler name command := by
  have text : staticReply (normalCommand command) = staticReply command := by
    unfold staticReply
    rw [static_text_normal]
    rfl
  unfold staticHandler
  rw [text]
  rfl

theorem profile_normal (spec : Spec) (id : String) :
    (normal spec).profile? id = (spec.profile? id).map normalProfile := by
  unfold Spec.profile? normal
  rw [List.find?_map]
  rfl

theorem profile_of_normal (spec : Spec) (command : Command) :
    (normal spec).profileOf? (normalCommand command) =
      (spec.profileOf? command).map normalProfile := by
  unfold Spec.profileOf?
  rw [profile_id_normal]
  cases command.profileId? with
  | none => rfl
  | some id => exact profile_normal spec id

theorem handler_normal (style : Style) (spec : Spec) (command : Command) :
    handler style (normal spec) (normalCommand command) = handler style spec command := by
  unfold handler
  rw [profile_of_normal]
  have source : (normalCommand command).source = command.source := rfl
  have name : (normalCommand command).name = command.name := rfl
  rw [source, name]
  cases command.source with
  | staticText => exact static_handler_normal _ command
  | apiCall =>
    cases spec.profileOf? command with
    | none => rfl
    | some profile => exact api_handler_normal style _ command profile

/-! ## Projects -/

theorem command_module_normal (style : Style) (spec : Spec) :
    commandModule style (normal spec) = commandModule style spec := by
  have title : heading (normal spec) = heading spec := rfl
  have calls : callsApi (normal spec) = callsApi spec := List.any_map
  have handlers : ((normal spec).commands.flatMap fun command =>
      [handler style (normal spec) command, .blank]) =
        spec.commands.flatMap fun command => [handler style spec command, .blank] := by
    have commands : (normal spec).commands = spec.commands.map normalCommand := rfl
    rw [commands, List.flatMap_map]
    simp only [handler_normal]
  have table : handlerTable (normal spec) = handlerTable spec := by
    rw [handlerTable, normal, List.map_map]
    rfl
  rw [commandModule, commandCode, title, calls, handlers, table]
  rfl

theorem definition_module_normal (spec : Spec) :
    definitionModule (normal spec) = definitionModule spec := by
  have each (command : Command) :
      commandDefinition (normalCommand command) = commandDefinition command := rfl
  have same : definitions (normal spec) = definitions spec := by
    simp only [definitions, normal, List.map_map, Function.comp_def, each]
  unfold definitionModule
  rw [same]

theorem readme_normal (spec : Spec) (deployment : Deployment) (environment : List Variable) :
    readme (normal spec) deployment environment = readme spec deployment environment := by
  have list : commandList (normal spec) = commandList spec := by
    simp only [commandList, normal, List.map_eq_nil_iff, List.map_map]
    rfl
  rw [readme, list]
  rfl

theorem dotenv_example_normal (spec : Spec) (deployment : Deployment) :
    dotenvExample (normal spec).bot deployment (normal spec).profiles =
      dotenvExample spec.bot deployment spec.profiles := by
  rw [dotenvExample, normal, rows_normal]
  rfl

theorem files_normal (style : Style) (spec : Spec) (deployment : Deployment)
    (environment : List Variable) :
    filesFor style (normal spec) deployment environment =
      filesFor style spec deployment environment := by
  have package : packageJson (normal spec) deployment = packageJson spec deployment := rfl
  simp only [filesFor, commonModules, ownerFiles, command_module_normal, definition_module_normal,
    package, dotenv_example_normal, readme_normal]

theorem generate_normal (configuration : Configuration) (spec : Spec) (random : RandomBytes) :
    configuration.generate (normal spec) random = configuration.generate spec random := by
  have target : configuration.deploymentOf (normal spec) = configuration.deploymentOf spec := rfl
  have tables (deployment : Deployment) (secret : Option Secret) :
      table (normal spec).bot deployment (normal spec).profiles secret =
        table spec.bot deployment spec.profiles secret := by
    rw [table, normal, rows_normal]
    rfl
  simp only [Configuration.generate, Project.generate, target, tables, files_normal]

/-! ## Validation -/

theorem check_command_normal (number : Nat) (command : Command) :
    Spec.checkCommand number (normalCommand command) = Spec.checkCommand number command := by
  have reply : Spec.checkReply (normalCommand command) = Spec.checkReply command := by
    simp only [Spec.checkReply, static_text_normal, profile_id_normal, endpoint_normal]
    rfl
  rw [Spec.checkCommand, reply]
  rfl

theorem check_commands_normal (commands : List Command) :
    Spec.checkCommands seen (commands.map normalCommand) = Spec.checkCommands seen commands := by
  induction commands generalizing seen with
  | nil => rfl
  | cons command rest ih =>
    have name : (normalCommand command).name = command.name := rfl
    rw [List.map_cons, Spec.checkCommands, Spec.checkCommands, check_command_normal, ih, name]

theorem check_normal (spec : Spec) : (normal spec).check = spec.check := by
  simp only [Spec.check, normal, List.map_eq_nil_iff, check_commands_normal]
  rfl

theorem command_warnings_normal (spec : Spec) (earlier : List Command) (command : Command) :
    (normal spec).commandWarnings (earlier.map normalCommand) (normalCommand command) =
      spec.commandWarnings earlier command := by
  have collision : Spec.collision? (earlier.map normalCommand) (normalCommand command) =
      Spec.collision? earlier command := by
    have found (handler : String) :
        (earlier.map normalCommand).find? (fun c => Script.handlerName c.name = handler) =
          (earlier.find? fun c => Script.handlerName c.name = handler).map normalCommand :=
      List.find?_map
    have name : (normalCommand command).name = command.name := rfl
    simp only [Spec.collision?, found, name]
    cases earlier.find? fun c => Script.handlerName c.name = Script.handlerName command.name <;> rfl
  have missing : (normal spec).missingProfile? (normalCommand command) =
      spec.missingProfile? command := by
    simp only [Spec.missingProfile?, profile_id_normal, profile_normal, Option.isNone_map]
    rfl
  have placeholders : Spec.placeholderWarnings (normalCommand command) =
      Spec.placeholderWarnings command := by
    rw [Spec.placeholderWarnings, endpoint_normal]
    rfl
  rw [Spec.commandWarnings, collision, missing, placeholders]
  rfl

theorem warnings_from_normal (spec : Spec) (earlier commands : List Command) :
    (normal spec).warningsFrom (earlier.map normalCommand) (commands.map normalCommand) =
      spec.warningsFrom earlier commands := by
  induction commands generalizing earlier with
  | nil => rfl
  | cons command rest ih =>
    have next := ih (earlier ++ [command])
    rw [List.map_append, List.map_singleton] at next
    rw [List.map_cons, Spec.warningsFrom, Spec.warningsFrom, command_warnings_normal, next]

theorem validate_normal (spec : Spec) : (normal spec).validate = spec.validate := by
  have warnings : (normal spec).warnings = spec.warnings :=
    warnings_from_normal spec [] spec.commands
  rw [Spec.validate, check_normal, warnings]
  rfl

/-- A specification and its form without blank texts have the same verdict and,
for every deployment, style and random bytes, the same project down to the
environment and the instructions. -/
theorem blank_counts_as_absent (spec : Spec) :
    (normal spec).validate = spec.validate ∧
    ∀ (configuration : Configuration) (random : RandomBytes),
      configuration.generate (normal spec) random = configuration.generate spec random :=
  ⟨validate_normal spec, fun configuration random => generate_normal configuration spec random⟩

end Botwright.BlankTexts
