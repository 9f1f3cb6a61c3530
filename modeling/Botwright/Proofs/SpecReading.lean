import Mathlib.Data.List.Nodup
import Botwright.Proofs.JsonReading
import Botwright.Spec.Decode

/-! The JSON form of a specification is decoded to that very specification. A
record is written as the members that are present, each under a key of its own, and
read by looking its keys up; what was left out is what the reader takes for
absent. -/
namespace Botwright.SpecReading
open Source JsonReading
open Json (prettyText isSpace)

/-! ## Values as sources -/

mutual

/-- What is left of a value when its text is read as a source. -/
def sourceOf : Json → Source
  | .null => .absent
  | .bool value => .bool value
  | .number _ => .other
  | .string s => .text s
  | .array items => .list (sourcesOf items)
  | .object members => .record (recordOf members)

def sourcesOf : List Json → List Source
  | [] => []
  | item :: rest => sourceOf item :: sourcesOf rest

def recordOf : List (String × Json) → List (String × Source)
  | [] => []
  | (key, value) :: rest => (key, sourceOf value) :: recordOf rest

end

theorem named_keys (entries : List (String × Source)) :
    named (entries.map fun entry => (some entry.1, entry.2)) = .record entries := by
  have all : (entries.map fun entry => (some entry.1, entry.2)).all (·.1.isSome) = true := by
    simp
  rw [named, if_pos all, List.filterMap_map]
  congr 1
  exact List.filterMap_some

mutual

theorem source_of_document (v : Json) : ofJson (documentOf v) = sourceOf v := by
  cases v with
  | null | bool | number => rfl
  | string s => simp only [documentOf, ofJson, string_of_units, sourceOf]
  | array items => simp only [documentOf, ofJson, sources_of_documents items, sourceOf]
  | object members =>
    simp only [documentOf, ofJson, record_of_documents members, named_keys, sourceOf]

theorem sources_of_documents (items : List Json) :
    ofJsonItems (itemsOf items) = sourcesOf items := by
  cases items with
  | nil => rfl
  | cons item rest =>
    simp only [itemsOf, ofJsonItems, source_of_document item, sources_of_documents rest, sourcesOf]

theorem record_of_documents (members : List (String × Json)) :
    ofJsonMembers (membersOf members) =
      (recordOf members).map fun entry => (some entry.1, entry.2) := by
  cases members with
  | nil => rfl
  | cons member rest =>
    simp only [membersOf, ofJsonMembers, string_of_units, source_of_document member.2,
      record_of_documents rest, recordOf, List.map_cons]

end

theorem sources_of_map (write : α → Json) (entries : List α) :
    sourcesOf (entries.map write) = entries.map fun entry => sourceOf (write entry) := by
  induction entries with
  | nil => rfl
  | cons entry rest ih => simp only [List.map_cons, sourcesOf, ih]

/-! ## Records -/

/-- The entries that have a value. -/
def present (entries : List (String × Option α)) : List (String × α) :=
  entries.filterMap fun (key, value) => value.map (key, ·)

theorem present_nil : present ([] : List (String × Option α)) = [] :=
  rfl

theorem present_none (key : String) (entries : List (String × Option α)) :
    present ((key, none) :: entries) = present entries :=
  rfl

theorem present_some (key : String) (value : α) (entries : List (String × Option α)) :
    present ((key, some value) :: entries) = (key, value) :: present entries :=
  rfl

theorem present_cons (key : String) (value : Option α) (entries : List (String × Option α)) :
    present ((key, value) :: entries) = (value.map (key, ·)).toList ++ present entries := by
  cases value <;> rfl

theorem keys_present (entries : List (String × Option α)) :
    ((present entries).map (·.1)).Sublist (entries.map (·.1)) := by
  induction entries with
  | nil => exact .slnil
  | cons entry rest ih =>
    obtain ⟨key, value⟩ := entry
    cases value with
    | none => exact ih.cons key
    | some value => exact ih.cons_cons key

/-- The members of a record are known and distinct if the keys of its fields are. -/
theorem fields_present (dialect : Dialect) {entries : List (String × Option Source)}
    (known : entries.map (·.1) = keys) (distinct : keys.Nodup) :
    fields? dialect keys (.record (present entries)) = some (present entries) := by
  subst known
  have all : (present entries).filter (fun member => (entries.map (·.1)).contains member.1) =
      present entries := by
    apply List.filter_eq_self.mpr
    intro member held
    exact List.contains_iff_mem.mpr ((keys_present entries).subset (List.mem_map_of_mem held))
  rw [fields?]
  simp only [all, if_pos (distinct.sublist (keys_present entries))]

theorem lookup_absent {entries : List (String × α)} (absent : key ∉ entries.map (·.1)) :
    entries.lookup key = none := by
  rw [List.lookup_eq_none_iff]
  intro entry held
  have other : key ≠ entry.1 := fun same => absent (same ▸ List.mem_map_of_mem held)
  simpa using other

/-- A field is found under its key exactly if it has a value. -/
theorem lookup_present {entries : List (String × Option α)}
    (distinct : (entries.map (·.1)).Nodup) (key : String) :
    (present entries).lookup key = (entries.lookup key).join := by
  induction entries with
  | nil => rfl
  | cons entry rest ih =>
    obtain ⟨first, value⟩ := entry
    rw [List.map_cons, List.nodup_cons] at distinct
    have later := ih distinct.2
    cases value with
    | some value =>
      rw [present_some, List.lookup_cons, List.lookup_cons, later]
      split <;> rfl
    | none =>
      rw [present_none, List.lookup_cons, later]
      split
      · next same =>
        have here : key = first := by simpa using same
        rw [here, lookup_absent distinct.1]
        rfl
      · rfl

/-! ## Fields -/

section Fields
variable {entries : List (String × Option Source)} {keys : List String}

theorem required_present (known : entries.map (·.1) = keys) (distinct : keys.Nodup)
    (key : String) (decode : Source → Option α) :
    required? (present entries) key decode = (entries.lookup key).join.bind decode := by
  rw [required?, lookup_present (known ▸ distinct)]

theorem default_present (known : entries.map (·.1) = keys) (distinct : keys.Nodup)
    (key : String) (default : α) (decode : Source → Option α) :
    orDefault? (present entries) key default decode =
      ((entries.lookup key).join.map decode).getD (some default) := by
  rw [orDefault?, lookup_present (known ▸ distinct)]
  cases (entries.lookup key).join <;> rfl

end Fields

/-- What is left out if it is absent, and never written empty. -/
theorem read_optional {decode : Source → Option α} {write : α → Source}
    (decoded : ∀ v, decode (write v) = some v) (written : ∀ v, write v ≠ .absent)
    (value : Option α) :
    ((value.map write).map (optional? decode)).getD (some none) = some value := by
  cases value with
  | none => rfl
  | some v =>
    have kept : optional? decode (write v) = (decode (write v)).map some := by
      rw [optional?]
      exact written v
    simp only [Option.map_some, Option.getD_some, kept, decoded]

theorem read_text (value : Option String) :
    ((value.map text).map (optional? text?)).getD (some none) = some value :=
  @read_optional String text? text (fun _ => rfl) (fun _ => by simp) value

theorem read_list {decode : Source → Option α} {write : α → Json}
    (decoded : ∀ v, decode (sourceOf (write v)) = some v) (values : List α) :
    list? decode (.list (sourcesOf (values.map write))) = some values := by
  rw [list?, sources_of_map]
  induction values with
  | nil => rfl
  | cons value rest ih => simp [decoded, ih]

/-! ## Parts of specifications -/

theorem record_append (members more : List (String × Json)) :
    recordOf (members ++ more) = recordOf members ++ recordOf more := by
  induction members with
  | nil => rfl
  | cons member rest ih => simp only [List.cons_append, recordOf, ih]

theorem record_optional (key : String) (write : α → Json) (value : Option α) :
    recordOf (optionalMember key write value) =
      ((value.map fun v => sourceOf (write v)).map (key, ·)).toList := by
  cases value <;> rfl

/-- The fields of a bot as its record has them. -/
def botTable (bot : Bot) : List (String × Option Source) :=
  [("name", some (.text bot.name)), ("description", some (.text bot.description)),
   ("applicationId", bot.applicationId.map .text), ("publicKey", bot.publicKey.map .text),
   ("botToken", bot.token.map .text), ("deploymentType", some (.text bot.deployment.word))]

theorem source_bot (bot : Bot) : sourceOf bot.toJson = .record (present (botTable bot)) := by
  simp [Bot.toJson, sourceOf, record_append, record_optional, recordOf, botTable, present_cons,
    present_nil]

theorem decode_bot (bot : Bot) : Bot.decode? .json (sourceOf bot.toJson) = some bot := by
  have known : (botTable bot).map (·.1) = Bot.keys := rfl
  have distinct : Bot.keys.Nodup := by decide
  have deployment : Deployment.decode? .json (.text bot.deployment.word) = some bot.deployment :=
    find?_word (by decide) (by cases bot.deployment <;> decide)
  rw [source_bot, Bot.decode?, fields_present .json known distinct]
  simp only [Option.bind_eq_bind, Option.bind_some, optionalText?,
    required_present known distinct, default_present known distinct]
  simp [botTable, List.lookup_cons, text?, deployment, -Option.map_map, read_text]

/-- The fields of a profile as its record has them. -/
def profileTable (profile : Profile) : List (String × Option Source) :=
  [("id", some (.text profile.id)), ("name", some (.text profile.name)),
   ("baseUrl", some (.text profile.baseUrl)), ("authType", some (.text profile.auth.word)),
   ("apiKey", profile.apiKey.map .text), ("apiKeyName", profile.apiKeyName.map .text),
   ("envVarKey", some (.text profile.keyVariable)),
   ("envVarUrl", some (.text profile.urlVariable))]

theorem source_profile (profile : Profile) :
    sourceOf profile.toJson = .record (present (profileTable profile)) := by
  simp [Profile.toJson, sourceOf, record_append, record_optional, recordOf, profileTable,
    present_cons, present_nil]

theorem decode_profile (profile : Profile) :
    Profile.decode? .json (sourceOf profile.toJson) = some profile := by
  have known : (profileTable profile).map (·.1) = Profile.keys := rfl
  have distinct : Profile.keys.Nodup := by decide
  have auth : AuthScheme.decode? .json (.text profile.auth.word) = some profile.auth :=
    find?_word (by decide) (by cases profile.auth <;> decide)
  rw [source_profile, Profile.decode?, fields_present .json known distinct]
  simp only [Option.bind_eq_bind, Option.bind_some, optionalText?,
    required_present known distinct, default_present known distinct]
  simp [profileTable, List.lookup_cons, text?, auth, -Option.map_map, read_text]

/-- The fields of an option as its record has them. -/
def optionTable (option : CommandOption) : List (String × Option Source) :=
  [("name", some (.text option.name)), ("description", some (.text option.description)),
   ("type", some (.text option.type.word)), ("required", some (.bool option.required))]

theorem decode_option (option : CommandOption) :
    CommandOption.decode? .json (sourceOf option.toJson) = some option := by
  have known : (optionTable option).map (·.1) = CommandOption.keys := rfl
  have distinct : CommandOption.keys.Nodup := by decide
  have type : OptionType.decode? .json (.text option.type.word) = some option.type := by
    have found : OptionType.all.find? (·.word = option.type.word) = some option.type :=
      find?_word (by decide) (by cases option.type <;> decide)
    rw [OptionType.decode?, word?, Option.map_some, found, Option.getD_some]
  have source : sourceOf option.toJson = .record (present (optionTable option)) := rfl
  rw [source, CommandOption.decode?, fields_present .json known distinct]
  simp only [Option.bind_eq_bind, Option.bind_some, required_present known distinct,
    default_present known distinct]
  simp [optionTable, List.lookup_cons, text?, bool?, type]

/-- The fields of a mapping as its record has them. -/
def mappingTable (mapping : Mapping) : List (String × Option Source) :=
  [("fieldPath", some (.text mapping.path)), ("displayLabel", some (.text mapping.label)),
   ("formatString", some (.text mapping.format))]

theorem decode_mapping (mapping : Mapping) :
    Mapping.decode? .json (sourceOf mapping.toJson) = some mapping := by
  have known : (mappingTable mapping).map (·.1) = Mapping.keys := rfl
  have distinct : Mapping.keys.Nodup := by decide
  have source : sourceOf mapping.toJson = .record (present (mappingTable mapping)) := rfl
  rw [source, Mapping.decode?, fields_present .json known distinct]
  simp only [Option.bind_eq_bind, Option.bind_some, required_present known distinct,
    default_present known distinct]
  simp [mappingTable, List.lookup_cons, text?]

/-- The fields of a command as its record has them. -/
def commandTable (command : Command) : List (String × Option Source) :=
  [("id", some (.text command.id)), ("name", some (.text command.name)),
   ("description", some (.text command.description)),
   ("options", some (.list (sourcesOf (command.options.map CommandOption.toJson)))),
   ("responseType", some (.text command.source.word)),
   ("staticText", command.staticText.map .text), ("apiProfileId", command.profileId.map .text),
   ("apiEndpoint", command.endpoint.map .text), ("codeSnippet", command.snippet.map .text),
   ("fieldMappings", command.mappings.map fun mappings => sourceOf (Mapping.listToJson mappings)),
   ("responseTemplate", command.template.map fun template => .text template.word)]

theorem source_command (command : Command) :
    sourceOf command.toJson = .record (present (commandTable command)) := by
  simp [Command.toJson, sourceOf, record_append, record_optional, recordOf, commandTable,
    present_cons, present_nil]

theorem read_mappings (mappings : Option (List Mapping)) :
    ((mappings.map fun listed => sourceOf (Mapping.listToJson listed)).map
      (optional? (list? (Mapping.decode? .json)))).getD (some none) = some mappings :=
  read_optional (fun listed => read_list decode_mapping listed)
    (fun listed => by simp) mappings

theorem read_template (template : Option Template) :
    ((template.map fun shape => text shape.word).map
      (optional? (Template.decode? .json))).getD (some none) = some template :=
  read_optional (fun shape => find?_word (by decide) (by cases shape <;> decide))
    (fun shape => by simp) template

theorem decode_command (command : Command) :
    Command.decode? .json (sourceOf command.toJson) = some command := by
  have known : (commandTable command).map (·.1) = Command.keys := rfl
  have distinct : Command.keys.Nodup := by decide
  have options := read_list decode_option command.options
  have source : ReplySource.decode? .json (.text command.source.word) = some command.source :=
    find?_word (by decide) (by cases command.source <;> decide)
  rw [source_command, Command.decode?, fields_present .json known distinct, Option.bind_eq_bind,
    Option.bind_some]
  simp only [optionalText?, required_present known distinct, default_present known distinct]
  simp only [commandTable, List.lookup_cons_self, List.lookup_cons, String.reduceBEq,
    Option.join_some, Option.bind_some, Option.map_some, Option.getD_some, text?, options, source,
    read_text, read_mappings, read_template]
  rfl

/-- The fields of a specification as its record has them. -/
def specTable (spec : Spec) : List (String × Option Source) :=
  [("bot", some (sourceOf spec.bot.toJson)),
   ("apiProfiles", some (.list (sourcesOf (spec.profiles.map Profile.toJson)))),
   ("commands", some (.list (sourcesOf (spec.commands.map Command.toJson))))]

/-- The source of a specification is decoded to it. -/
theorem decode_spec (spec : Spec) : Spec.decode? .json (sourceOf spec.toJson) = some spec := by
  have known : (specTable spec).map (·.1) = Spec.keys := rfl
  have distinct : Spec.keys.Nodup := by decide
  have profiles := read_list decode_profile spec.profiles
  have commands := read_list decode_command spec.commands
  have source : sourceOf spec.toJson = .record (present (specTable spec)) := rfl
  rw [source, Spec.decode?, fields_present .json known distinct]
  simp only [Option.bind_eq_bind, Option.bind_some, required_present known distinct,
    default_present known distinct]
  simp [specTable, List.lookup_cons, decode_bot, profiles, commands]

/-! ## Texts of specifications -/

/-- A saved specification is read back. -/
theorem read_saved (spec : Spec) : Spec.ofJsonText? spec.saved = some spec := by
  have text : spec.saved.toList = prettyText 0 spec.toJson ++ ['\n'] := by
    simp [Spec.saved, Json.pretty]
  have blank : ∀ c ∈ ['\n'], isSpace c = true := List.forall_mem_singleton.mpr rfl
  rw [Spec.ofJsonText?, text, pretty_text, read_document .pretty spec.toJson blank,
    Option.bind_some, source_of_document, decode_spec]

end Botwright.SpecReading
