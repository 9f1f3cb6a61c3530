import Botwright.PackageName
import Botwright.Proofs.LiteralReading
import Mathlib

/-! Package names. What the scan of a name writes is compared with the maximal runs of letters
and digits in it, which are found without the scan; a cut may leave one dash at the end, never
two, so that what remains is words again. -/
namespace Botwright.PackageNames
open PackageName
open LiteralReading (take_while_append)

/-! ## Runs -/

/-- The maximal runs of ASCII letters and digits in a text, in order. Nothing but other
characters stands in front of a run, and another one, or nothing, behind it. -/
inductive Runs : List Char → List (List Char) → Prop where
  | none (gap : ∀ c ∈ text, c.isAlphanum = false) : Runs text []
  | next (gap : ∀ c ∈ before, c.isAlphanum = false) (nonempty : run ≠ [])
      (whole : ∀ c ∈ run, c.isAlphanum = true) (ends : ∀ c ∈ rest.head?, c.isAlphanum = false)
      (more : Runs rest runs) : Runs (before ++ (run ++ rest)) (run :: runs)

/-- A run with nothing in front of it. -/
theorem runs_begin (nonempty : run ≠ []) (whole : ∀ c ∈ run, Char.isAlphanum c = true)
    (ends : ∀ c ∈ rest.head?, c.isAlphanum = false) (more : Runs rest runs) :
    Runs (run ++ rest) (run :: runs) := by
  have begun : Runs ([] ++ (run ++ rest)) (run :: runs) :=
    .next (List.forall_mem_nil _) nonempty whole ends more
  exact begun

theorem exists_runs (text : List Char) : ∃ runs, Runs text runs := by
  induction text with
  | nil => exact ⟨[], .none (by simp)⟩
  | cons c rest ih =>
    obtain ⟨runs, found⟩ := ih
    cases usable : c.isAlphanum with
    | false =>
      cases found with
      | none gap => exact ⟨[], .none (List.forall_mem_cons.mpr ⟨usable, gap⟩)⟩
      | next gap nonempty whole ends more =>
        exact ⟨_, .next (List.forall_mem_cons.mpr ⟨usable, gap⟩) nonempty whole ends more⟩
    | true =>
      have single : ∀ d ∈ [c], d.isAlphanum = true := by simpa using usable
      cases found with
      | none gap =>
        exact ⟨[[c]], runs_begin (List.cons_ne_nil c []) single
          (fun d first => gap d (List.mem_of_mem_head? first)) (.none gap)⟩
      | @next before run rest runs gap nonempty whole ends more =>
        -- The character is part of the first run just if nothing stands between them.
        cases before with
        | nil =>
          exact ⟨(c :: run) :: runs, runs_begin (List.cons_ne_nil c run)
            (List.forall_mem_cons.mpr ⟨usable, whole⟩) ends more⟩
        | cons d before =>
          exact ⟨[c] :: run :: runs, runs_begin (List.cons_ne_nil c []) single
            (by simpa using gap d List.mem_cons_self) (.next gap nonempty whole ends more)⟩

/-- Where the first run of a text begins and ends. -/
theorem first_run (gap : ∀ c ∈ before, Char.isAlphanum c = false) (nonempty : run ≠ [])
    (whole : ∀ c ∈ run, Char.isAlphanum c = true)
    (ends : ∀ c ∈ rest.head?, Char.isAlphanum c = false) :
    (before ++ (run ++ rest)).dropWhile (fun c => !c.isAlphanum) = run ++ rest ∧
      (run ++ rest).takeWhile Char.isAlphanum = run ∧
      (run ++ rest).dropWhile Char.isAlphanum = rest := by
  obtain ⟨c, more, rfl⟩ := List.exists_cons_of_ne_nil nonempty
  have begins : ∀ d ∈ (c :: more ++ rest).head?, (!Char.isAlphanum d) = false := by
    simpa using whole c List.mem_cons_self
  have reached := take_while_append (p := fun c => !c.isAlphanum) (by simpa using gap) begins
  exact ⟨reached.2, take_while_append whole ends⟩

theorem runs_nil_iff (found : Runs text runs) :
    runs = [] ↔ text.any Char.isAlphanum = false := by
  cases found with
  | none gap => simpa using gap
  | @next before run rest runs _ nonempty whole =>
    obtain ⟨c, more, rfl⟩ := List.exists_cons_of_ne_nil nonempty
    simp [whole c List.mem_cons_self]

theorem runs_unique (found : Runs text runs) (other : Runs text others) : others = runs := by
  induction found generalizing others with
  | none gap => exact (runs_nil_iff other).mpr (by simpa using gap)
  | @next before run rest runs gap nonempty whole ends more ih =>
    obtain ⟨reached, taken, left⟩ := first_run gap nonempty whole ends
    have held := (runs_nil_iff (.next gap nonempty whole ends more)).not.mp (List.cons_ne_nil _ _)
    generalize before ++ (run ++ rest) = text at reached held other
    cases other with
    | none gap => exact absurd (by simpa using gap) held
    | next gap nonempty whole ends later =>
      obtain ⟨reached', taken', left'⟩ := first_run gap nonempty whole ends
      rw [reached'.symm.trans reached] at taken' left'
      obtain rfl := taken'.symm.trans taken
      obtain rfl := left'.symm.trans left
      rw [ih later]

/-! ## The scan -/

theorem squeeze_gap (gap : ∀ c ∈ before, Char.isAlphanum c = false) (begun pending : Bool)
    (rest : List Char) :
    squeeze begun pending (before ++ rest) = squeeze begun (pending || !before.isEmpty) rest := by
  induction before generalizing pending with
  | nil => simp
  | cons c before ih =>
    rw [List.forall_mem_cons] at gap
    simp [squeeze, isUsable, gap.1, ih gap.2]

/-- Within a run there is nothing but its characters. -/
theorem squeeze_within (whole : ∀ c ∈ run, Char.isAlphanum c = true) (rest : List Char) :
    squeeze true false (run ++ rest) = run.map Char.toLower ++ squeeze true false rest := by
  induction run with
  | nil => rfl
  | cons c run ih =>
    rw [List.forall_mem_cons] at whole
    simp [squeeze, isUsable, whole.1, ih whole.2]

theorem squeeze_run (nonempty : run ≠ []) (whole : ∀ c ∈ run, Char.isAlphanum c = true)
    (begun pending : Bool) (rest : List Char) :
    squeeze begun pending (run ++ rest) =
      (if pending && begun then ['-'] else []) ++
        (run.map Char.toLower ++ squeeze true false rest) := by
  obtain ⟨c, more, rfl⟩ := List.exists_cons_of_ne_nil nonempty
  rw [List.forall_mem_cons] at whole
  simp [squeeze, isUsable, whole.1, squeeze_within whole.2]

/-- Behind a run, every further run is written behind a dash. -/
theorem squeeze_behind (found : Runs text runs)
    (apart : pending = true ∨ ∀ c ∈ text.head?, c.isAlphanum = false) :
    squeeze true pending text = runs.flatMap fun run => '-' :: run.map Char.toLower := by
  induction found generalizing pending with
  | none gap =>
    have passed := squeeze_gap gap true pending []
    rw [List.append_nil] at passed
    rw [passed]
    rfl
  | @next before run rest runs gap nonempty whole ends more ih =>
    have waiting : (pending || !before.isEmpty) = true := by
      rcases apart with pending | dark
      · simp [pending]
      · cases before with
        | nil =>
          obtain ⟨c, more, rfl⟩ := List.exists_cons_of_ne_nil nonempty
          have light := whole c List.mem_cons_self
          rw [dark c rfl] at light
          cases light
        | cons c before => simp
    rw [squeeze_gap gap, waiting, squeeze_run nonempty whole, ih (.inr ends)]
    rfl

theorem intercalate_cons (word : List Char) (words : List (List Char)) :
    ['-'].intercalate (word :: words) = word ++ words.flatMap ('-' :: ·) := by
  induction words generalizing word with
  | nil => simp
  | cons next words ih => rw [List.intercalate_cons_cons, ih]; simp

/-- The scan writes the runs in lower case, joined by single dashes. -/
theorem squeeze_runs (found : Runs text runs) (pending : Bool) :
    squeeze false pending text = ['-'].intercalate (runs.map (·.map Char.toLower)) := by
  cases found with
  | none gap =>
    have passed := squeeze_gap gap false pending []
    rw [List.append_nil] at passed
    rw [passed]
    rfl
  | next gap nonempty whole ends more =>
    rw [squeeze_gap gap, squeeze_run nonempty whole, squeeze_behind more (.inr ends),
      List.map_cons, intercalate_cons, List.flatMap_map]
    simp

/-! ## Dashed words -/

/-- A character of a package name between its dashes. -/
def IsPlain (c : Char) : Prop := c.isLower = true ∨ c.isDigit = true

instance (c : Char) : Decidable (IsPlain c) := inferInstanceAs (Decidable (_ ∨ _))

/-- Words with single dashes between them; no word is empty. -/
inductive Dashed : List Char → Prop where
  | word (nonempty : word ≠ []) (plain : ∀ c ∈ word, IsPlain c) : Dashed word
  | next (nonempty : word ≠ []) (plain : ∀ c ∈ word, IsPlain c) (more : Dashed rest) :
      Dashed (word ++ '-' :: rest)

/-- A name that a package may have. -/
structure IsPackageName (name : String) : Prop where
  dashed : Dashed name.toList
  nonempty : 1 ≤ name.length
  short : name.length ≤ 214

theorem not_upper_of_digit (digit : Char.isDigit c = true) : ¬c.isUpper = true := by
  intro upper
  simp only [Char.isDigit, Char.isUpper, UInt32.le_iff_toNat_le, ge_iff_le, Bool.and_eq_true,
    decide_eq_true_eq] at digit upper
  have limits : 'A'.val.toNat = 65 ∧ '9'.val.toNat = 57 := by decide
  omega

theorem usable_iff : Char.isAlphanum c = true ↔ c.isAlpha = true ∨ c.isDigit = true := by
  rw [Char.isAlphanum, Bool.or_eq_true]

theorem plain_to_lower (usable : Char.isAlphanum c = true) : IsPlain c.toLower := by
  rcases usable_iff.mp usable with letter | digit
  · exact .inl ((Char.isLower_toLower_eq_isAlpha c).trans letter)
  · rw [Char.toLower_eq_of_not_isUpper (not_upper_of_digit digit)]
    exact .inr digit

/-- A plain character is written as it is. -/
theorem usable_of_plain (plain : IsPlain c) : c.isAlphanum = true ∧ c.toLower = c := by
  rcases plain with small | digit
  · have letter : c.isAlpha = true := by rw [Char.isAlpha, small, Bool.or_true]
    exact ⟨usable_iff.mpr (.inl letter),
      Char.toLower_eq_of_not_isUpper (Char.not_isUpper_of_isLower small)⟩
  · exact ⟨usable_iff.mpr (.inr digit),
      Char.toLower_eq_of_not_isUpper (not_upper_of_digit digit)⟩

theorem dash_not_plain : ¬IsPlain '-' := by decide

theorem runs_usable (found : Runs text runs) :
    ∀ run ∈ runs, run ≠ [] ∧ ∀ c ∈ run, c.isAlphanum = true := by
  induction found with
  | none _ => exact List.forall_mem_nil _
  | next _ nonempty whole _ _ ih => exact List.forall_mem_cons.mpr ⟨⟨nonempty, whole⟩, ih⟩

/-- Runs in lower case are words. -/
theorem dashed_intercalate {runs : List (List Char)}
    (usable : ∀ run ∈ runs, run ≠ [] ∧ ∀ c ∈ run, c.isAlphanum = true) (filled : runs ≠ []) :
    Dashed (['-'].intercalate (runs.map (·.map Char.toLower))) := by
  have word {run : List Char} (whole : ∀ c ∈ run, c.isAlphanum = true) :
      ∀ c ∈ run.map Char.toLower, IsPlain c :=
    List.forall_mem_map.mpr fun c held => plain_to_lower (whole c held)
  induction runs with
  | nil => exact absurd rfl filled
  | cons run runs ih =>
    rw [List.forall_mem_cons] at usable
    obtain ⟨⟨nonempty, whole⟩, later⟩ := usable
    have written : run.map Char.toLower ≠ [] := by simpa using nonempty
    cases runs with
    | nil => simpa using Dashed.word written (word whole)
    | cons next runs =>
      rw [List.map_cons, List.map_cons, List.intercalate_cons_cons, List.append_assoc]
      exact .next written (word whole) (ih later (List.cons_ne_nil next runs))

/-- A name that is dashed already is written as it is. -/
theorem squeeze_dashed (dashed : Dashed text) (begun pending : Bool) :
    squeeze begun pending text = (if pending && begun then ['-'] else []) ++ text := by
  have same {word : List Char} (plain : ∀ c ∈ word, IsPlain c) : word.map Char.toLower = word :=
    (List.map_congr_left fun c held => (usable_of_plain (plain c held)).2).trans (List.map_id' word)
  induction dashed generalizing begun pending with
  | @word word nonempty plain =>
    have written := squeeze_run nonempty (fun c held => (usable_of_plain (plain c held)).1)
      begun pending []
    rwa [List.append_nil, same plain, squeeze, List.append_nil] at written
  | @next word rest nonempty plain more ih =>
    have dash : squeeze true false ('-' :: rest) = squeeze true true rest := rfl
    rw [squeeze_run nonempty fun c held => (usable_of_plain (plain c held)).1, same plain, dash, ih]
    rfl

/-! ## The cut -/

/-- A text without a dash that it ends with. -/
def withoutEndDash (text : List Char) : List Char :=
  if text.getLast? = some '-' then text.dropLast else text

theorem length_without_end_dash (text : List Char) :
    (withoutEndDash text).length ≤ text.length := by
  unfold withoutEndDash
  split <;> simp

theorem dashed_ends (dashed : Dashed text) : ∃ front c, text = front ++ [c] ∧ c ≠ '-' := by
  induction dashed with
  | @word word nonempty plain =>
    refine ⟨_, _, (List.dropLast_concat_getLast nonempty).symm, fun same => ?_⟩
    exact dash_not_plain (same ▸ plain _ (List.getLast_mem nonempty))
  | @next word rest _ _ _ ih =>
    obtain ⟨front, c, rfl, light⟩ := ih
    exact ⟨word ++ '-' :: front, c, by simp, light⟩

/-- What is left of dashed words is dashed, but for one dash at the end. -/
theorem dashed_take (dashed : Dashed text) (positive : 1 ≤ n) :
    ∃ kept, Dashed kept ∧ (text.take n = kept ∨ text.take n = kept ++ ['-']) := by
  have front {word : List Char} (n : Nat) (positive : 1 ≤ n) (nonempty : word ≠ [])
      (plain : ∀ c ∈ word, IsPlain c) : Dashed (word.take n) :=
    .word (by simp [nonempty]; omega) fun c held => plain c (List.mem_of_mem_take held)
  induction dashed generalizing n with
  | word nonempty plain => exact ⟨_, front n positive nonempty plain, .inl rfl⟩
  | @next word rest nonempty plain more ih =>
    rcases Nat.lt_trichotomy n (word.length + 1) with within | rfl | beyond
    · refine ⟨_, front n positive nonempty plain, .inl ?_⟩
      exact List.take_append_of_le_length (by omega)
    · exact ⟨word, .word nonempty plain, .inr (by simp [List.take_append, List.take_of_length_le])⟩
    · obtain ⟨more, count⟩ : ∃ more, n = word.length + 1 + (more + 1) :=
        ⟨n - word.length - 2, by omega⟩
      obtain ⟨kept, dashed, cut⟩ := ih (n := more + 1) (by omega)
      have text : (word ++ '-' :: rest).take n = word ++ '-' :: rest.take (more + 1) := by
        rw [count, Nat.add_assoc, List.take_length_add_append, Nat.add_comm 1,
          List.take_succ_cons]
      refine ⟨word ++ '-' :: kept, .next nonempty plain dashed, ?_⟩
      rw [text]
      exact cut.imp (fun whole => by rw [whole]) fun dash => by rw [dash]; simp

theorem trim_dashed (dashed : Dashed text) :
    trimDashes text = text ∧ trimDashes (text ++ ['-']) = text := by
  obtain ⟨front, c, rfl, light⟩ := dashed_ends dashed
  simp [trimDashes, light]

/-- The cut takes away one dash at most, and leaves words. -/
theorem trim_take (dashed : Dashed text) (positive : 1 ≤ n) :
    trimDashes (text.take n) = withoutEndDash (text.take n) ∧
      Dashed (withoutEndDash (text.take n)) := by
  obtain ⟨kept, still, whole | dash⟩ := dashed_take dashed positive
  · obtain ⟨front, c, rfl, light⟩ := dashed_ends still
    have same : withoutEndDash (front ++ [c]) = front ++ [c] := by simp [withoutEndDash, light]
    rw [whole, same]
    exact ⟨(trim_dashed still).1, still⟩
  · have same : withoutEndDash (kept ++ ['-']) = kept := by simp [withoutEndDash]
    rw [dash, same]
    exact ⟨(trim_dashed still).2, still⟩

/-- A cut right behind a dash. -/
example : trimDashes ("my-bot".toList.take 3) = "my".toList := by decide

/-! ## Names -/

theorem of_name_dashed (dashed : Dashed (squeeze false false name.toList)) :
    (ofName name).toList =
      withoutEndDash ((squeeze false false name.toList).take maxLength) := by
  obtain ⟨trimmed, still⟩ := trim_take dashed (by decide : 1 ≤ maxLength)
  obtain ⟨front, c, shape, _⟩ := dashed_ends still
  rw [ofName, trimmed, if_neg (by simp [shape]), String.toList_ofList]

theorem package_name_of_dashed (dashed : Dashed name.toList) (short : name.length ≤ 214) :
    IsPackageName name := by
  obtain ⟨front, c, shape, _⟩ := dashed_ends dashed
  refine ⟨dashed, ?_, short⟩
  rw [← String.length_toList, shape]
  simp

theorem fallback_name : IsPackageName fallback := by
  have words : fallback.toList =
      ['d', 'i', 's', 'c', 'o', 'r', 'd'] ++ '-' :: ['b', 'o', 't'] := by decide
  refine package_name_of_dashed ?_ (by decide)
  rw [words]
  exact .next (by simp) (by simp [IsPlain]) (.word (by simp) (by simp [IsPlain]))

/-- A package name is its own. -/
theorem of_package_name (valid : IsPackageName name) : ofName name = name := by
  have written : squeeze false false name.toList = name.toList :=
    squeeze_dashed valid.dashed false false
  have short : name.toList.length ≤ maxLength := by
    rw [String.length_toList]
    exact valid.short
  obtain ⟨front, c, shape, light⟩ := dashed_ends valid.dashed
  have kept : withoutEndDash name.toList = name.toList := by
    rw [shape]
    simp [withoutEndDash, light]
  refine String.toList_injective ?_
  rw [of_name_dashed (by rw [written]; exact valid.dashed), written,
    List.take_of_length_le short, kept]

/-- For every name, the package name is built from the maximal runs of ASCII letters and digits
in the name, of which there is one list: in lower case and joined by dashes, cut to 214
characters, and without a dash that the cut leaves at the end. Without a letter or digit it is
`discord-bot`. It always consists of 1 to 214 characters, which are non-empty words of small
letters and digits with single dashes between them, and it is its own package name. -/
theorem package_name_of_runs (name : String) :
    ∃ runs, Runs name.toList runs ∧ (∀ other, Runs name.toList other → other = runs) ∧
      (ofName name).toList = (if name.toList.any Char.isAlphanum then
          withoutEndDash ((['-'].intercalate (runs.map (·.map Char.toLower))).take 214)
        else "discord-bot".toList) ∧
      IsPackageName (ofName name) ∧ ofName (ofName name) = ofName name := by
  obtain ⟨runs, found⟩ := exists_runs name.toList
  have written := squeeze_runs found false
  refine ⟨runs, found, fun other => runs_unique found, ?_⟩
  suffices spelled : (ofName name).toList = (if name.toList.any Char.isAlphanum then
      withoutEndDash ((['-'].intercalate (runs.map (·.map Char.toLower))).take 214)
      else "discord-bot".toList) ∧ IsPackageName (ofName name) from
    ⟨spelled.1, spelled.2, of_package_name spelled.2⟩
  cases usable : name.toList.any Char.isAlphanum with
  | false =>
    have unnamed : ofName name = fallback := by
      rw [ofName, written, (runs_nil_iff found).mpr usable]
      rfl
    rw [unnamed]
    exact ⟨rfl, fallback_name⟩
  | true =>
    have filled : runs ≠ [] := (runs_nil_iff found).not.mpr (by simp [usable])
    have dashed := dashed_intercalate (runs_usable found) filled
    have cut := trim_take dashed (by decide : 1 ≤ maxLength)
    rw [← written] at dashed
    have spelled := of_name_dashed dashed
    rw [written] at spelled
    refine ⟨spelled, package_name_of_dashed (spelled ▸ cut.2) ?_⟩
    rw [← String.length_toList, spelled]
    exact Nat.le_trans (length_without_end_dash _) (List.length_take_le ..)

end Botwright.PackageNames
