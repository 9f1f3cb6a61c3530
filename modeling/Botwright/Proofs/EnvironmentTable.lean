import Botwright.Proofs.ExampleAssignments

/-! The table of the environment as a whole. It is what the deployment and the profiles ask
for, in that order, without the variables whose names were there before; no name occurs
twice, and neither a name nor a value is blank. A secret changes no name, so that the
example file and the readme list the variables that the table has. -/
namespace Botwright.EnvironmentTable
open Environment Project CodeLines SecretIndependence SettingsListing
open Reply (Style)

/-! ## What is asked for -/

/-- The names of the credentials of a deployment, in their order. -/
def credentialNames : Deployment → List String
  | .interactions =>
    ["DISCORD_APPLICATION_ID", "DISCORD_PUBLIC_KEY", "DISCORD_BOT_TOKEN", "REGISTER_SECRET"]
  | .gateway => ["DISCORD_BOT_TOKEN", "DISCORD_APPLICATION_ID"]

/-- The names that a profile has for variables, first for its key and then for its base URL.
A profile without a secret has none for a key, and a blank text is no name. -/
def profileNames (profile : Profile) : List String :=
  let key := if profile.auth = .none then [] else [profile.keyVariable]
  (key ++ [profile.urlVariable]).filter fun name => !Text.isBlankText name

/-- The variables that are asked for: the credentials, and what each profile adds. A name
may occur any number of times. -/
def announced (bot : Bot) (deployment : Deployment) (profiles : List Profile)
    (secret : Option Secret) : List Variable :=
  (credentials bot secret deployment ++ profiles.flatMap profileRows).map (·.var)

/-- The variables in front of which their names do not occur. -/
def firstOfEach (all : List Variable) : List Variable :=
  (all.zipIdx.filter fun (v, place) => (all.take place).all (·.name ≠ v.name)).map (·.1)

/-- A list of variables is the table for those that are asked for. -/
structure IsTable (asked listed : List Variable) : Prop where
  firsts : listed = firstOfEach asked
  distinct : (listed.map (·.name)).Nodup
  named : ∀ v ∈ listed, Text.isBlankText v.name = false
  valued : ∀ v ∈ listed, Text.isBlankText v.value = false

theorem credential_names (bot : Bot) (secret : Option Secret) (deployment : Deployment) :
    (credentials bot secret deployment).map (·.var.name) = credentialNames deployment := by
  cases deployment <;> rfl

theorem profile_names (profile : Profile) :
    (profileRows profile).map (·.var.name) = profileNames profile := by
  have key : (keyRow? profile).toList.map (·.var.name) =
      (if profile.auth = .none then [] else [profile.keyVariable]).filter
        fun name => !Text.isBlankText name := by
    unfold keyRow? AuthScheme.needsSecret
    by_cases none : profile.auth = .none <;>
      by_cases blank : Text.isBlankText profile.keyVariable = true <;> simp [none, blank]
  have url : (urlRow? profile).toList.map (·.var.name) =
      [profile.urlVariable].filter fun name => !Text.isBlankText name := by
    unfold urlRow? Profile.urlVariable? Text.nonBlank?
    by_cases blank : Text.isBlankText profile.urlVariable = true <;> simp [blank]
  rw [profileRows, List.map_append, key, url, profileNames, List.filter_append]

theorem announced_names (bot : Bot) (deployment : Deployment) (profiles : List Profile)
    (secret : Option Secret) :
    (announced bot deployment profiles secret).map (·.name) =
      credentialNames deployment ++ profiles.flatMap profileNames := by
  have profileRowNames : (profiles.flatMap profileRows).map (·.var.name) =
      profiles.flatMap profileNames := by
    rw [List.map_flatMap]
    simp only [profile_names]
  rw [announced, List.map_map, List.map_append]
  exact congrArg₂ (· ++ ·) (credential_names bot secret deployment) profileRowNames

/-! ## The first of each name -/

/-- Behind the rows that were seen, the rows that are kept are those with no row of their
name in front of them. -/
theorem first_of_name_eq (before rest : List Row)
    (same : ∀ name, name ∈ seen ↔ name ∈ before.map (·.var.name)) :
    firstOfName seen rest = ((rest.zipIdx before.length).filter fun (row, place) =>
      ((before ++ rest).take place).all (·.var.name ≠ row.var.name)).map (·.1) := by
  induction rest generalizing before seen with
  | nil => rfl
  | cons row rest ih =>
    -- The rows in front grow by this one, whether or not it is kept.
    have onward (later : List String)
        (same : ∀ name, name ∈ later ↔ name ∈ (before ++ [row]).map (·.var.name)) :
        firstOfName later rest = ((rest.zipIdx (before.length + 1)).filter fun (other, place) =>
          ((before ++ row :: rest).take place).all (·.var.name ≠ other.var.name)).map (·.1) := by
      simpa using ih (before ++ [row]) same
    have front : (before ++ row :: rest).take before.length = before := List.take_left
    rw [firstOfName, List.zipIdx_cons, List.filter_cons]
    simp only [front]
    split
    · next held =>
      have taken : row.var.name ∈ before.map (·.var.name) := (same _).mp (by simpa using held)
      rw [if_neg (by simpa using taken), onward seen]
      intro name
      rw [same name]
      grind
    · next fresh =>
      have free : row.var.name ∉ before.map (·.var.name) :=
        fun held => fresh (by simpa using (same _).mpr held)
      rw [if_pos (by simpa using free), List.map_cons, onward (row.var.name :: seen)]
      intro name
      rw [List.mem_cons, same name]
      grind

theorem table_firsts (bot : Bot) (deployment : Deployment) (profiles : List Profile)
    (secret : Option Secret) :
    table bot deployment profiles secret =
      firstOfEach (announced bot deployment profiles secret) := by
  have kept (candidates : List Row) : (firstOfName [] candidates).map (·.var) =
      firstOfEach (candidates.map (·.var)) := by
    rw [first_of_name_eq [] candidates (by simp), firstOfEach, List.zipIdx_map, List.filter_map,
      List.map_map, List.map_map]
    simp [Function.comp_def, ← List.map_take]
  exact kept _

/-! ## Names and values -/

theorem table_distinct (bot : Bot) (deployment : Deployment) (profiles : List Profile)
    (secret : Option Secret) : ((table bot deployment profiles secret).map (·.name)).Nodup := by
  rw [table, List.map_map]
  exact nodup_names_firstOfName [] _

/-- What is known is not blank, and a placeholder stands for what is not. -/
theorem known_dark (text : Option String) (dark : Text.isBlankText placeholder = false) :
    Text.isBlankText ((Text.nonBlank? text).getD placeholder) = false := by
  cases known : Text.nonBlank? text with
  | none => exact dark
  | some t => exact (Text.nonBlank?_eq_some_iff.mp known).2

/-- A secret that was drawn begins with a digit. -/
theorem secret_dark (random : RandomBytes) :
    Text.isBlankText (Secret.draw random).1.text = false := by
  have digit : ∀ n < 16, Text.isBlank (hexDigits.getD n '?') = false := by decide
  have high : (random 0).toNat / 16 < 16 := Nat.div_lt_of_lt_mul (random 0).toNat_lt
  have first : (hexOfRandom random).toList.head? =
      some (hexDigits.getD ((random 0).toNat / 16) '?') := by
    simp [hexOfRandom, List.range_succ_eq_map, hexByte]
  obtain ⟨more, shape⟩ := List.head?_eq_some_iff.mp first
  rw [draw_eq, Text.isBlankText, shape, List.all_cons, digit _ high, Bool.false_and]

theorem value_dark (random : Option RandomBytes) (member : row ∈ rows bot deployment profiles
      (random.map fun bytes => (Secret.draw bytes).1)) :
    Text.isBlankText row.var.value = false := by
  cases rowOf_of_mem member with
  | applicationId | publicKey _ | token => exact known_dark _ (by decide)
  | registerSecret _ =>
    cases random with
    | none => decide
    | some bytes => exact secret_dark bytes
  | key _ made =>
    obtain ⟨-, rfl⟩ := keyRow?_eq_some_iff.mp made
    exact known_dark _ (by decide)
  | url _ made =>
    obtain ⟨-, rfl⟩ := urlRow?_eq_some_iff.mp made
    exact known_dark _ (by decide)

/-! ## The files that list variables -/

/-- The entry of an example file for a variable, whatever value it shows. -/
def Exemplifies (v : Variable) (entry : String) : Prop :=
  ∃ value, OneLine value ∧ entry = "# " ++ v.description ++ "\n" ++ v.name ++ "=" ++ value ++ "\n"

/-- The line of a readme for a variable. -/
def readmeLine (v : Variable) : String := "- `" ++ v.name ++ "`: " ++ v.description ++ "\n"

/-- A readme lists variables, and nothing but these, under their heading. -/
def ListsVariables (environment : List Variable) (text : String) : Prop :=
  ∃ front back, text = front ++ "### Environment variables\n\n" ++
    String.join (environment.map readmeLine) ++ "\n### Deploy\n" ++ back

theorem names_agree (bot : Bot) (deployment : Deployment) (profiles : List Profile)
    (secret other : Option Secret) :
    SameNames (table bot deployment profiles secret) (table bot deployment profiles other) :=
  same_names_of_conceal <| by rw [rows_conceal, ← rows_conceal bot deployment profiles other]

theorem readme_lines_agree (bot : Bot) (deployment : Deployment) (profiles : List Profile)
    (secret other : Option Secret) :
    (table bot deployment profiles secret).map readmeLine =
      (table bot deployment profiles other).map readmeLine := by
  have agree := congrArg (List.map fun entry : String × String =>
    "- `" ++ entry.1 ++ "`: " ++ entry.2 ++ "\n")
      (names_agree bot deployment profiles secret other)
  rw [List.map_map, List.map_map] at agree
  exact agree

/-- The entry of a row is one for every row that looks like it without its secret. -/
theorem exemplifies_of_conceal (agree : conceal row = conceal other) :
    Exemplifies row.var (exampleEntry other) := by
  have name : row.var.name = other.var.name := by
    rw [← conceal_name, agree, conceal_name]
  have description : row.var.description = other.var.description := by
    rw [← conceal_description, agree, conceal_description]
  refine ⟨_, one_line_value (if other.secret then "" else other.var.value), ?_⟩
  rw [exampleEntry, dotenvLine, name, description]
  simp only [String.append_assoc]

theorem example_lists (bot : Bot) (deployment : Deployment) (profiles : List Profile)
    (secret : Option Secret) :
    ∃ entries, dotenvExample bot deployment profiles = "\n".intercalate entries ∧
      List.Forall₂ Exemplifies (table bot deployment profiles secret) entries := by
  have agree : (rows bot deployment profiles secret).map conceal =
      (rows bot deployment profiles none).map conceal := by
    rw [rows_conceal, ← rows_conceal bot deployment profiles none]
  have pairs := List.forall₂_eq_eq_eq ▸ agree
  rw [List.forall₂_map_left_iff, List.forall₂_map_right_iff] at pairs
  refine ⟨_, rfl, ?_⟩
  rw [table, List.forall₂_map_left_iff, List.forall₂_map_right_iff]
  exact pairs.imp fun _ _ => exemplifies_of_conceal

theorem lines_text_append (front back : List String) :
    linesText (front ++ back) = linesText front ++ linesText back := by
  rw [linesText, List.map_append, String.join_append, linesText, linesText]

theorem readme_lists (spec : Spec) (deployment : Deployment) (environment : List Variable) :
    ListsVariables environment (readme spec deployment environment) := by
  have list : variableList environment = String.join (environment.map readmeLine) := by
    rw [variableList, linesText, List.map_map]
    rfl
  have heading : linesText ["", "### Environment variables", ""] =
      "\n" ++ "### Environment variables\n\n" := by decide
  have closing : linesText ["", "### Deploy", ""] = "\n### Deploy\n" ++ "\n" := by decide
  unfold ListsVariables readme
  generalize linesText ["# " ++ spec.bot.name, _, _, _, _, _, _, _] = title
  rw [list, lines_text_append _ ["", "### Environment variables", ""], heading,
    List.append_assoc ["", "### Deploy", ""], lines_text_append ["", "### Deploy", ""], closing]
  refine ⟨title ++ commandList spec ++
      linesText (["", "## Setup", "", "Install dependencies:", ""] ++ installBlock) ++ "\n",
    "\n" ++ linesText (deploySteps deployment ++ ["", "---", "", "Generated by BotForge."]), ?_⟩
  simp only [String.append_assoc]

theorem readme_file (style : Style) (spec : Spec) (deployment : Deployment)
    (random : RandomBytes) :
    (generate style spec deployment random).file? "README.md" =
      some (readme spec deployment (generate style spec deployment random).environment) := by
  have member : ⟨"README.md", readme spec deployment
        (generate style spec deployment random).environment⟩ ∈
      filesFor style spec deployment (generate style spec deployment random).environment := by
    cases deployment <;> simp [filesFor, ownerFiles]
  exact file_of_member style spec deployment random member

/-! ## The table -/

theorem table_is_table (bot : Bot) (deployment : Deployment) (profiles : List Profile)
    (random : Option RandomBytes) :
    let secret := random.map fun bytes => (Secret.draw bytes).1
    IsTable (announced bot deployment profiles secret) (table bot deployment profiles secret) := by
  intro secret
  refine ⟨table_firsts bot deployment profiles secret,
    table_distinct bot deployment profiles secret, fun v held => ?_, fun v held => ?_⟩
  · obtain ⟨row, member, rfl⟩ := List.mem_map.mp held
    exact row_dark member
  · obtain ⟨row, member, rfl⟩ := List.mem_map.mp held
    exact value_dark random member

/-- A secret changes no name. -/
theorem table_names (bot : Bot) (deployment : Deployment) (profiles : List Profile)
    (secret other : Option Secret) :
    (table bot deployment profiles other).map (·.name) =
      (table bot deployment profiles secret).map (·.name) := by
  have agree := congrArg (List.map Prod.fst) (names_agree bot deployment profiles other secret)
  simpa [List.map_map, Function.comp_def] using agree

/-- For every bot, deployment and list of profiles, and whether or not a secret was drawn,
the table has the first variable of each name, as it is, out of what is asked for: the
credentials in their fixed order, and for each profile in turn the variable for its key, if
it has one, and that for its base URL. No name occurs twice, and no name and no value is
blank. The names and their order are the same with any other secret or none, and they are
those that the environment, the example file and the readme of a project list. -/
theorem table_invariant (bot : Bot) (deployment : Deployment) (profiles : List Profile)
    (random : Option RandomBytes) :
    let secret := random.map fun bytes => (Secret.draw bytes).1
    let asked := announced bot deployment profiles secret
    let listed := table bot deployment profiles secret
    asked.map (·.name) = credentialNames deployment ++ profiles.flatMap profileNames ∧
      IsTable asked listed ∧
      (∀ other, (table bot deployment profiles other).map (·.name) = listed.map (·.name)) ∧
      ∀ (style : Style) (commands : List Command) (bytes : RandomBytes),
        let project := generate style ⟨bot, profiles, commands⟩ deployment bytes
        project.environment.map (·.name) = listed.map (·.name) ∧
          (∃ entries, project.file? ".env.example" = some ("\n".intercalate entries) ∧
            List.Forall₂ Exemplifies listed entries) ∧
          ∃ text, project.file? "README.md" = some text ∧ ListsVariables listed text := by
  intro secret asked listed
  refine ⟨announced_names bot deployment profiles secret,
    table_is_table bot deployment profiles random,
    table_names bot deployment profiles secret, ?_⟩
  intro style commands bytes project
  obtain ⟨entries, shown, pairs⟩ := example_lists bot deployment profiles secret
  have same : project.environment.map readmeLine = listed.map readmeLine :=
    readme_lines_agree bot deployment profiles (secretFor bytes deployment) secret
  refine ⟨table_names bot deployment profiles secret _, ⟨entries, ?_, pairs⟩, _,
    readme_file style _ deployment bytes, ?_⟩
  · rw [← shown]
    exact example_file style _ deployment bytes
  · have lists := readme_lists ⟨bot, profiles, commands⟩ deployment project.environment
    rwa [ListsVariables, same] at lists

/-- Names that profiles share with each other, with a credential, and with themselves. -/
example : (table ⟨"bot", "", none, none, some "token", .gateway⟩ .gateway
    [⟨"a", "A", " ", .bearer, none, none, "KEY", "KEY"⟩,
      ⟨"b", "B", "https://b.test", .none, none, none, "LOST", "DISCORD_BOT_TOKEN"⟩,
      ⟨"c", "C", "https://c.test", .keyQuery, some "c", none, "KEY", "URL"⟩] none).map
      (fun v => (v.name, v.value)) =
    [("DISCORD_BOT_TOKEN", "token"), ("DISCORD_APPLICATION_ID", "your_discord_application_id"),
      ("KEY", "your_api_key"), ("URL", "https://c.test")] := by
  decide +kernel

end Botwright.EnvironmentTable
