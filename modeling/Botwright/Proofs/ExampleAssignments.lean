import Botwright.Proofs.SecretIndependence
import Botwright.Proofs.SettingsListing

/-! What an example file assigns. Beside comments and blank lines it has one line for each
row of the table, in the same order, and the line of a secret ends at its equals sign. No
value reaches the next line, but a description may: what the name of a profile says behind a
line feed stands in the file as it is, and may assign something. -/
namespace Botwright.ExampleAssignments
open Environment CodeLines SecretIndependence

/-! ## Lines that assign -/

/-- A line that assigns nothing: a comment, or white space. -/
def isNote (line : List Char) : Bool := line.head? = some '#' || line.all Text.isBlank

/-- The lines of a text that are more than notes. -/
def assignments (text : List Char) : List (List Char) :=
  (lines text).filter fun line => !isNote line

/-- The variable that a line assigns to. -/
def assignedName (line : List Char) : String := String.ofList (line.takeWhile (· ≠ '='))

/-- A name that leaves a line of its own whole, and ends at the first equals sign. -/
structure PlainName (name : String) : Prop where
  equals : '=' ∉ name.toList
  hash : '#' ∉ name.toList
  feed : '\n' ∉ name.toList

instance (name : String) : Decidable (PlainName name) :=
  decidable_of_iff ('=' ∉ name.toList ∧ '#' ∉ name.toList ∧ '\n' ∉ name.toList)
    ⟨fun ⟨equals, hash, feed⟩ => ⟨equals, hash, feed⟩, fun plain =>
      ⟨plain.equals, plain.hash, plain.feed⟩⟩

/-- The line of a row: its value stays away if it is secret. -/
def rowLine (row : Row) : List Char :=
  row.var.name.toList ++ '=' :: if row.secret then [] else dotenvChars row.var.value.toList

/-- What a description assigns where it goes on in further lines. -/
def smuggled (row : Row) : List (List Char) :=
  (lines row.var.description.toList).tail.filter fun line => !isNote line

/-- The rows that hold a secret: the token, the registration secret, the keys of profiles. -/
def HoldsSecret (bot : Bot) (profiles : List Profile) (secret : Option Secret) (row : Row) :
    Prop :=
  row = tokenRow bot ∨ row = registerSecretRow secret ∨
    ∃ profile ∈ profiles, keyRow? profile = some row

/-! ## Lines of an example -/

theorem assignments_break (front back : List Char) :
    assignments (front ++ '\n' :: back) = assignments front ++ assignments back := by
  rw [assignments, lines, Text.pieces_append_cons (by simp), List.filter_append]
  rfl

theorem assignments_intercalate (texts : List String) :
    assignments ("\n".intercalate texts).toList = texts.flatMap (assignments ·.toList) := by
  induction texts with
  | nil => rfl
  | cons first rest ih =>
    cases rest with
    | nil => simp
    | cons second more =>
      rw [String.intercalate_cons_cons, List.flatMap_cons, ← ih, ← assignments_break]
      simp

theorem assignments_single (single : '\n' ∉ line) (assigns : isNote line = false) :
    assignments line = [line] := by
  rw [assignments, lines_single single, List.filter_cons_of_pos (by simp [assigns]),
    List.filter_nil]

/-- Of a comment, the first line is a note whatever it says. -/
theorem assignments_comment (text : List Char) :
    assignments ('#' :: ' ' :: text) = (lines text).tail.filter fun line => !isNote line := by
  obtain ⟨first, more, shape⟩ := List.exists_cons_of_ne_nil (Text.pieces_ne_nil (· = '\n') text)
  simp [assignments, lines, Text.pieces, shape, isNote]

theorem one_line_row (feed : '\n' ∉ row.var.name.toList) : '\n' ∉ rowLine row := by
  have value : '\n' ∉ dotenvChars row.var.value.toList := by
    simpa [OneLine] using SettingsListing.one_line_value row.var.value
  rw [rowLine, List.mem_append, List.mem_cons, not_or, not_or]
  refine ⟨feed, by decide, ?_⟩
  split
  · exact List.not_mem_nil
  · exact value

/-- The line of a row is no note: its name is not blank and does not begin with a hash. -/
theorem row_line_assigns (dark : Text.isBlankText row.var.name = false)
    (hash : '#' ∉ row.var.name.toList) : isNote (rowLine row) = false := by
  rw [Text.isBlankText] at dark
  rw [isNote, rowLine, List.all_append, dark, Bool.false_and, Bool.or_false,
    decide_eq_false_iff_not]
  cases shape : row.var.name.toList with
  | nil => simp [shape] at dark
  | cons c rest =>
    rintro ⟨⟩
    exact hash (shape ▸ List.mem_cons_self)

theorem entry_text (row : Row) :
    (exampleEntry row).toList =
      ('#' :: ' ' :: row.var.description.toList) ++ '\n' :: (rowLine row ++ ['\n']) := by
  have hidden : dotenvChars [] = [] := rfl
  rw [exampleEntry, rowLine, dotenvLine]
  cases row.secret <;> simp [hidden]

theorem assignments_entry (dark : Text.isBlankText row.var.name = false)
    (plain : PlainName row.var.name) :
    assignments (exampleEntry row).toList = smuggled row ++ [rowLine row] := by
  have last : assignments [] = [] := rfl
  rw [entry_text, assignments_break, assignments_break, assignments_comment, last,
    assignments_single (one_line_row plain.feed) (row_line_assigns dark plain.hash),
    List.append_nil]
  rfl

/-! ## Rows -/

theorem plain_row (named : ∀ profile ∈ profiles, PlainName profile.keyVariable ∧
      PlainName profile.urlVariable)
    (member : row ∈ rows bot deployment profiles secret) : PlainName row.var.name := by
  have fixed : ∀ name ∈ [applicationIdName, publicKeyName, tokenName, registerSecretName],
      PlainName name := by decide
  cases rowOf_of_mem member with
  | applicationId | publicKey _ | token | registerSecret _ =>
    exact fixed _ (by simp [applicationIdRow, publicKeyRow, tokenRow, registerSecretRow])
  | key listed made =>
    obtain ⟨-, rfl⟩ := keyRow?_eq_some_iff.mp made
    exact (named _ listed).1
  | url listed made =>
    obtain ⟨-, rfl⟩ := urlRow?_eq_some_iff.mp made
    exact (named _ listed).2

/-- A row is marked as secret just if it holds a secret. -/
theorem secret_iff (member : row ∈ rows bot deployment profiles secret) :
    row.secret = true ↔ HoldsSecret bot profiles secret row := by
  constructor
  · intro hidden
    cases rowOf_of_mem member with
    | applicationId | publicKey _ => cases hidden
    | token => exact .inl rfl
    | registerSecret _ => exact .inr (.inl rfl)
    | key listed made => exact .inr (.inr ⟨_, listed, made⟩)
    | url _ made =>
      obtain ⟨-, rfl⟩ := urlRow?_eq_some_iff.mp made
      cases hidden
  · rintro (rfl | rfl | ⟨profile, -, made⟩)
    · rfl
    · rfl
    · obtain ⟨-, rfl⟩ := keyRow?_eq_some_iff.mp made
      rfl

/-- What is seen of rows without their secrets is the same with any registration secret. -/
theorem seen_of_rows (seen : Row → α) (blind : ∀ row, seen (conceal row) = seen row)
    (bot : Bot) (deployment : Deployment) (profiles : List Profile)
    (secret other : Option Secret) :
    (rows bot deployment profiles secret).map seen =
      (rows bot deployment profiles other).map seen := by
  have through (list : List Row) : list.map seen = (list.map conceal).map seen := by
    rw [List.map_map]
    exact List.map_congr_left fun row _ => (blind row).symm
  rw [through, rows_conceal, ← rows_conceal bot deployment profiles other, ← through]

theorem row_line_conceal (row : Row) : rowLine (conceal row) = rowLine row := by
  unfold conceal
  split
  · next hidden => simp [rowLine, hidden]
  · rfl

theorem smuggled_conceal (row : Row) : smuggled (conceal row) = smuggled row := by
  rw [smuggled, conceal_description, smuggled]

/-! ## The whole file -/

/-- The example file, in full: whatever a description adds stands in front of the line of
its row. -/
theorem assignments_example (named : ∀ profile ∈ profiles, PlainName profile.keyVariable ∧
      PlainName profile.urlVariable) (bot : Bot) (deployment : Deployment)
    (secret : Option Secret) :
    assignments (dotenvExample bot deployment profiles).toList =
      (rows bot deployment profiles secret).flatMap fun row => smuggled row ++ [rowLine row] := by
  have entries : (rows bot deployment profiles none).flatMap
        (fun row => assignments (exampleEntry row).toList) =
      (rows bot deployment profiles none).flatMap fun row => smuggled row ++ [rowLine row] :=
    List.flatMap_congr fun row member =>
      assignments_entry (SettingsListing.row_dark member) (plain_row named member)
  rw [dotenvExample, assignments_intercalate, List.flatMap_map, entries, List.flatMap_def,
    List.flatMap_def, seen_of_rows _ _ bot deployment profiles none secret]
  intro row
  rw [smuggled_conceal, row_line_conceal]

/-- Items with something in front of them are those items only if nothing is there: it would
show in the length. -/
theorem flat_map_singles_iff (before : α → List β) (item : α → β) (list : List α) :
    list.flatMap (fun a => before a ++ [item a]) = list.map item ↔ ∀ a ∈ list, before a = [] := by
  have long (list : List α) :
      list.length ≤ (list.flatMap fun a => before a ++ [item a]).length := by
    induction list with
    | nil => exact Nat.le_refl 0
    | cons a rest ih =>
      simp only [List.flatMap_cons, List.length_append, List.length_cons, List.length_nil]
      omega
  induction list with
  | nil => simp
  | cons a rest ih =>
    rw [List.flatMap_cons, List.map_cons]
    constructor
    · intro same
      have size := congrArg List.length same
      have further := long rest
      simp only [List.length_append, List.length_cons, List.length_nil, List.length_map] at size
      have nothing : before a = [] := List.length_eq_zero_iff.mp (by omega)
      rw [nothing] at same
      exact List.forall_mem_cons.mpr ⟨nothing, ih.mp (List.cons.inj same).2⟩
    · intro nothing
      have later := ih.mpr fun other member => nothing other (List.mem_cons_of_mem a member)
      rw [nothing a List.mem_cons_self, later]
      rfl

/-- The line of a row begins with its name. -/
theorem assigned_name_row (plain : PlainName row.var.name) :
    assignedName (rowLine row) = row.var.name := by
  have kept : ∀ c ∈ row.var.name.toList, decide (c ≠ '=') = true := fun c held => by
    simpa using fun same : c = '=' => plain.equals (same ▸ held)
  rw [assignedName, rowLine, List.takeWhile_append_of_pos kept]
  simp

/-- Where the names of variables are plain and all other texts are arbitrary, the example file
assigns one line for each row of the table, in the same order and under the same name, and
the line of a row that holds a secret ends at its equals sign, while any other shows the
value. In front of the line of a row stands what its description smuggles in, so these lines
are all that there is just if no description goes on in a line that is more than a note. -/
theorem example_assigns_table (named : ∀ profile ∈ profiles,
      PlainName profile.keyVariable ∧ PlainName profile.urlVariable) (bot : Bot)
    (deployment : Deployment) (secret : Option Secret) :
    let listed := rows bot deployment profiles secret
    let assigned := assignments (dotenvExample bot deployment profiles).toList
    assigned = listed.flatMap (fun row => smuggled row ++ [rowLine row]) ∧
      (assigned = listed.map rowLine ↔ ∀ row ∈ listed, smuggled row = []) ∧
      (listed.map rowLine).map assignedName =
        (table bot deployment profiles secret).map (·.name) ∧
      ∀ row ∈ listed,
        (HoldsSecret bot profiles secret row → rowLine row = row.var.name.toList ++ ['=']) ∧
        (¬HoldsSecret bot profiles secret row →
          rowLine row = row.var.name.toList ++ '=' :: dotenvChars row.var.value.toList) := by
  intro listed assigned
  have whole : assigned = listed.flatMap (fun row => smuggled row ++ [rowLine row]) :=
    assignments_example named bot deployment secret
  refine ⟨whole, ?_, ?_, fun row member => ⟨fun holds => ?_, fun shown => ?_⟩⟩
  · rw [whole]
    exact flat_map_singles_iff smuggled rowLine listed
  · rw [table, List.map_map, List.map_map]
    exact List.map_congr_left fun row member => assigned_name_row (plain_row named member)
  · rw [rowLine, (secret_iff member).mpr holds]
    rfl
  · rw [rowLine, Bool.eq_false_iff.mpr (mt (secret_iff member).mp shown)]
    rfl

/-- A profile with a name, an address, and two names for variables. -/
def profileCalled (name baseUrl key url : String) : Profile :=
  ⟨"id", name, baseUrl, .bearer, some "secret", none, key, url⟩

/-- Names and addresses that would break their lines, or look like comments, if they could. -/
def crookedProfiles : List Profile :=
  [profileCalled "Weather # EVIL=1" "https://a.test/\nEVIL=\"1\"" "A KEY" "A_URL",
   profileCalled "Maps\n#EVIL=1\n  " "" "DISCORD_BOT_TOKEN" "B_URL"]

/-- A bot whose credentials are texts of the user, too. -/
def crookedBot : Bot := ⟨"bot", "", some "1\nEVIL=1", none, some "token", .gateway⟩

theorem crooked_profiles_assign :
    (∀ profile ∈ crookedProfiles,
      PlainName profile.keyVariable ∧ PlainName profile.urlVariable) ∧
      assignments (dotenvExample crookedBot .gateway crookedProfiles).toList =
        ["DISCORD_BOT_TOKEN=".toList, "DISCORD_APPLICATION_ID=\"1\\nEVIL=1\"".toList,
          "A KEY=".toList, "A_URL=\"https://a.test/\\nEVIL=\\\"1\\\"\"".toList,
          "B_URL=https://api.example.com".toList] := by
  have named : ∀ profile ∈ crookedProfiles,
      PlainName profile.keyVariable ∧ PlainName profile.urlVariable := by decide
  obtain ⟨-, straight, -⟩ := example_assigns_table named crookedBot .gateway none
  have notes : ∀ row ∈ rows crookedBot .gateway crookedProfiles none, smuggled row = [] := by
    decide +kernel
  refine ⟨named, (straight.mpr notes).trans ?_⟩
  decide +kernel

/-- The name of a profile puts an assignment into the example file that is in no table. -/
theorem smuggled_assignment :
    let profiles := [profileCalled "api\nEVIL=1" "https://api.test" "API_KEY" ""]
    (∀ profile ∈ profiles, PlainName profile.keyVariable ∧ PlainName profile.urlVariable) ∧
      "EVIL=1".toList ∈ assignments (dotenvExample crookedBot .gateway profiles).toList ∧
      "EVIL" ∉ (table crookedBot .gateway profiles none).map (·.name) := by
  decide +kernel

end Botwright.ExampleAssignments
