import Botwright.Proofs.StaticReplies

/-! What a static text becomes. Its placeholders are matched from the left without
overlap, a random one first; what a list or an option fills becomes a substitution, all
else stays text, so the text comes back when each placeholder is put in the place of its
substitution. -/
namespace Botwright.StaticRestoration
open Script Reply LiteralReading TemplateReading TemplateScan HandlerScan StaticReplies

/-! ## Matches -/

/-- How placeholders are written. The arguments of a random one have no parentheses in
them, and a name has no braces in it and is not empty. -/
inductive Written : StaticPlaceholder → List Char → Prop where
  | random (flat : ∀ c ∈ arguments, c ≠ '(' ∧ c ≠ ')') :
      Written (.random arguments) ("\x7brandom(".toList ++ arguments ++ ")\x7d".toList)
  | name {inner : List Char} (nonempty : inner ≠ []) (flat : ∀ c ∈ inner, c ≠ '{' ∧ c ≠ '}') :
      Written (.name inner) ('{' :: inner ++ ['}'])

/-- A random placeholder stands at the start of a text. -/
def RandomBegins (text : List Char) : Prop :=
  ∃ arguments written, Written (.random arguments) written ∧ written <+: text

/-- A piece of a text: a character, or a placeholder as it is written. -/
inductive Piece where
  | char (c : Char)
  | placeholder (meant : StaticPlaceholder) (written : List Char)
  deriving DecidableEq, Repr

def Piece.source : Piece → List Char
  | char c => [c]
  | placeholder _ written => written

/-- The matches of placeholders in a text, leftmost first and without overlap. A character
is passed over only where no placeholder begins, and a name is matched only where no
random placeholder begins. -/
inductive Matched : List Char → List Piece → Prop where
  | nil : Matched [] []
  | char (absent : ∀ meant written, Written meant written → ¬ written <+: c :: rest)
      (later : Matched rest pieces) : Matched (c :: rest) (.char c :: pieces)
  | placeholder (here : Written meant written)
      (first : ∀ inner, meant = .name inner → ¬ RandomBegins (written ++ rest))
      (later : Matched rest pieces) :
      Matched (written ++ rest) (.placeholder meant written :: pieces)

/-! ## Recognition -/

theorem opening_text : randomOpening = "\x7brandom(".toList := rfl

theorem closing_text : randomClosing = ")\x7d".toList := rfl

theorem random_placeholder_written {arguments : List Char}
    (flat : ∀ c ∈ arguments, c ≠ '(' ∧ c ≠ ')') (rest : List Char) :
    randomPlaceholder? ("\x7brandom(".toList ++ arguments ++ ")\x7d".toList ++ rest) =
      some (arguments, arguments.length + 9) := by
  rw [← opening_text, ← closing_text]
  have opening : Text.dropStart? randomOpening
      (randomOpening ++ arguments ++ randomClosing ++ rest) =
        some (arguments ++ (randomClosing ++ rest)) := by
    rw [Text.dropStart?_eq_some_iff, List.append_assoc, List.append_assoc]
  have closing : Text.dropStart? randomClosing (randomClosing ++ rest) = some rest :=
    Text.dropStart?_eq_some_iff.mpr rfl
  have ends : (randomClosing ++ rest).takeWhile (fun c => c ≠ '(' && c ≠ ')') = [] := rfl
  have taken : (arguments ++ (randomClosing ++ rest)).takeWhile
      (fun c => c ≠ '(' && c ≠ ')') = arguments := by
    rw [List.takeWhile_append_of_pos (by simpa using flat), ends, List.append_nil]
  simp only [randomPlaceholder?, opening, taken, List.drop_left, closing, Option.bind_eq_bind,
    Option.bind_some, Option.pure_def]

theorem random_placeholder_eq_some (found : randomPlaceholder? text = some (arguments, more)) :
    ∃ rest, text = "\x7brandom(".toList ++ arguments ++ ")\x7d".toList ++ rest ∧
      more = arguments.length + 9 ∧ ∀ c ∈ arguments, c ≠ '(' ∧ c ≠ ')' := by
  unfold randomPlaceholder? at found
  obtain ⟨inner, opening, found⟩ := Option.bind_eq_some_iff.mp found
  obtain ⟨rest, closing, found⟩ := Option.bind_eq_some_iff.mp found
  cases found
  rw [drop_take_while] at closing
  rw [Text.dropStart?_eq_some_iff] at opening closing
  have inside := List.takeWhile_append_dropWhile (p := fun c => c ≠ '(' && c ≠ ')') (l := inner)
  rw [closing] at inside
  refine ⟨rest, ?_, rfl, fun c member => ?_⟩
  · rw [← opening_text, ← closing_text, List.append_assoc, List.append_assoc, inside, opening]
  · simpa using List.all_eq_true.mp List.all_takeWhile c member

theorem random_begins_iff : RandomBegins text ↔ randomPlaceholder? text ≠ none := by
  constructor
  · rintro ⟨arguments, written, ⟨flat⟩, rest, rfl⟩
    rw [random_placeholder_written flat rest]
    exact Option.some_ne_none _
  · intro found
    obtain ⟨⟨arguments, more⟩, found⟩ := Option.ne_none_iff_exists'.mp found
    obtain ⟨rest, rfl, -, flat⟩ := random_placeholder_eq_some found
    exact ⟨arguments, _, .random flat, List.prefix_append _ rest⟩

theorem flat_iff {inner : List Char} :
    (∀ c ∈ inner, isBrace c = false) ↔ ∀ c ∈ inner, c ≠ '{' ∧ c ≠ '}' := by
  simp [isBrace]

/-- A placeholder that may be matched at the start of a text is recognised there. -/
theorem recognised (here : Written meant written)
    (first : ∀ inner, meant = .name inner → ¬ RandomBegins (written ++ rest)) :
    ∃ c tail, written = c :: tail ∧
      staticPlaceholder? (written ++ rest) = some (meant, tail.length) := by
  cases here with
  | @random arguments flat =>
    refine ⟨'{', "random(".toList ++ arguments ++ ")\x7d".toList, rfl, ?_⟩
    rw [staticPlaceholder?, random_placeholder_written flat]
    simp
  | @name inner nonempty flat =>
    have group := brace_group_plain (flat_iff.mpr flat) rest
    have missing : randomPlaceholder? ('{' :: inner ++ ['}'] ++ rest) = none :=
      not_not.mp (mt random_begins_iff.mpr (first inner rfl))
    refine ⟨'{', inner ++ ['}'], rfl, ?_⟩
    rw [staticPlaceholder?, missing]
    simp [group, nonempty]

theorem static_placeholder_eq_some (found : staticPlaceholder? text = some (meant, more)) :
    ∃ written rest, text = written ++ rest ∧ Written meant written ∧
      written.length = more + 1 ∧ ∀ inner, meant = .name inner → ¬ RandomBegins text := by
  unfold staticPlaceholder? at found
  split at found
  · next arguments _ random =>
    cases found
    obtain ⟨rest, shape, rfl, flat⟩ := random_placeholder_eq_some random
    exact ⟨_, rest, shape, .random flat, by simp, by simp⟩
  · next missing =>
    have absent : ¬ RandomBegins text := fun begins => random_begins_iff.mp begins missing
    split at found
    · next inner _ group =>
      split at found
      · cases found
      · next nonempty =>
        cases found
        obtain ⟨rest, shape, rfl, flat⟩ := brace_group_eq_some group
        exact ⟨'{' :: inner ++ ['}'], rest, by simpa using shape,
          .name nonempty (flat_iff.mp flat), by simp, fun _ _ => absent⟩
    · cases found

theorem absent_of_unrecognised (missing : staticPlaceholder? text = none)
    (here : Written meant written) : ¬ written <+: text := by
  rintro ⟨rest, rfl⟩
  by_cases random : RandomBegins (written ++ rest)
  · obtain ⟨arguments, other, begins, rest', shape⟩ := random
    have first (inner : List Char) (same : StaticPlaceholder.random arguments = .name inner) :
        ¬ RandomBegins (other ++ rest') := by cases same
    obtain ⟨c, tail, -, found⟩ := recognised begins first
    rw [shape, missing] at found
    cases found
  · obtain ⟨c, tail, -, found⟩ := recognised here (fun _ _ => random)
    rw [missing] at found
    cases found

/-! ## Pieces -/

/-- The pieces of a text, by what is recognised in it from left to right. -/
def piecesOf : List Char → List Piece
  | [] => []
  | c :: rest =>
    match staticPlaceholder? (c :: rest) with
    | none => .char c :: piecesOf rest
    | some (meant, more) => .placeholder meant (c :: rest.take more) :: piecesOf (rest.drop more)
termination_by text => text.length
decreasing_by all_goals simp only [List.length_cons, List.length_drop]; omega

theorem matched_pieces (text : List Char) : Matched text (piecesOf text) := by
  fun_induction piecesOf text with
  | case1 => exact .nil
  | case2 c rest missing ih => exact .char (fun _ _ => absent_of_unrecognised missing) ih
  | case3 c rest meant more found ih =>
    obtain ⟨written, after, shape, here, length, first⟩ := static_placeholder_eq_some found
    obtain ⟨d, tail, rfl⟩ := List.exists_cons_of_length_eq_add_one length
    rw [List.cons_append] at shape
    obtain ⟨rfl, rfl⟩ := List.cons.inj shape
    have size : more = tail.length := by simpa using length.symm
    rw [size, List.drop_left] at ih
    rw [size, List.take_left, List.drop_left]
    exact .placeholder here (fun inner same => first inner same) ih

/-- There is one way to match the placeholders of a text. -/
theorem matched_unique (matched : Matched text pieces) : pieces = piecesOf text := by
  induction matched with
  | nil => simp [piecesOf]
  | @char c rest pieces absent later ih =>
    have missing : staticPlaceholder? (c :: rest) = none := by
      by_contra some
      obtain ⟨⟨meant, more⟩, found⟩ := Option.ne_none_iff_exists'.mp some
      obtain ⟨written, after, shape, here, -, -⟩ := static_placeholder_eq_some found
      exact absent meant written here ⟨after, shape.symm⟩
    rw [piecesOf, missing, ih]
  | @placeholder meant written rest pieces here first later ih =>
    obtain ⟨c, tail, rfl, found⟩ := recognised here first
    rw [List.cons_append] at found ⊢
    rw [piecesOf, found]
    simp only [List.take_left, List.drop_left, ih]

theorem sources_of_matched (matched : Matched text pieces) :
    pieces.flatMap Piece.source = text := by
  induction matched with
  | nil => rfl
  | char absent later ih => simp [Piece.source, ih]
  | placeholder here first later ih => simp [Piece.source, ih]

/-! ## Substitutions -/

/-- The items of a list: what stands between commas, without white space around it and
without its quotes. -/
def listItems (arguments : List Char) : List (List Char) :=
  (arguments.splitOn ',').map fun item => unquote (Text.trim item)

/-- A placeholder asks for something that there is: an item of a list that is not empty, or
an option of its name. -/
def Fillable (options : List BoundOption) : StaticPlaceholder → Prop
  | .random arguments => ∃ item ∈ listItems arguments, item ≠ []
  | .name inner => ∃ option ∈ options, option.name = String.ofList (Text.trim inner)

instance (options : List BoundOption) :
    (meant : StaticPlaceholder) → Decidable (Fillable options meant)
  | .random _ => inferInstanceAs (Decidable (∃ _ ∈ _, _))
  | .name _ => inferInstanceAs (Decidable (∃ _ ∈ _, _))

/-- What stands in the substitution for a placeholder. The value of an option is that of the
first option of its name. -/
inductive Fills (options : List BoundOption) : StaticPlaceholder → String → Prop where
  | random (chosen : randomExpression? arguments = some expression) :
      Fills options (.random arguments) expression
  | option {inner : List Char} (found : options = before ++ option :: behind)
      (named : option.name = String.ofList (Text.trim inner))
      (first : ∀ other ∈ before, other.name ≠ option.name) :
      Fills options (.name inner) (option.binding ++ " ?? ''")

/-- How a piece of a static text shows in its template. -/
inductive Shows (options : List BoundOption) : Piece → List Mark → Prop where
  | char : Shows options (.char c) [.char c]
  | substitution (fillable : Fillable options meant) (fills : Fills options meant expression) :
      Shows options (.placeholder meant written) [.hole expression.toList]
  | verbatim (unfilled : ¬ Fillable options meant) :
      Shows options (.placeholder meant written) (written.map .char)

theorem pieces_eq_split_on (separator : Char) (text : List Char) :
    Text.pieces (· = separator) text = text.splitOn separator := by
  induction text with
  | nil => rfl
  | cons c rest ih =>
    obtain ⟨piece, more, shape⟩ :=
      List.exists_cons_of_ne_nil (Text.pieces_ne_nil (· = separator) rest)
    rw [List.splitOn_cons_eq_if_modifyHead, ← ih, Text.pieces, shape]
    by_cases same : c = separator <;> simp [same]

theorem random_items_eq (arguments : List Char) :
    randomItems arguments = listItems arguments := by
  rw [randomItems, pieces_eq_split_on, listItems]

/-- There is nothing to choose from just if every item is empty. -/
theorem random_expression_none_iff :
    randomExpression? arguments = none ↔ ∀ item ∈ listItems arguments, item = [] := by
  rw [← random_items_eq]
  unfold randomExpression?
  generalize randomItems arguments = items
  split
  · next a b =>
    by_cases empty : a = [] ∧ b = []
    · simp [empty]
    · rw [if_neg empty]
      split <;> simpa using empty
  · by_cases empty : items.all (· = []) = true
    · rw [if_pos empty]
      simpa using empty
    · rw [if_neg empty]
      simpa using empty

theorem fills_of_filled (filled : fillStatic options meant = some expression) :
    Fillable options meant ∧ Fills options meant expression := by
  cases meant with
  | random arguments =>
    have some : ¬ ∀ item ∈ listItems arguments, item = [] := fun empty =>
      Option.some_ne_none expression (filled.symm.trans (random_expression_none_iff.mpr empty))
    exact ⟨by simpa [Fillable] using some, .random filled⟩
  | name inner =>
    obtain ⟨option, located, rfl⟩ := Option.map_eq_some_iff.mp filled
    obtain ⟨named, before, behind, split, first⟩ := List.find?_eq_some_iff_append.mp located
    have named : option.name = String.ofList (Text.trim inner) := by simpa using named
    refine ⟨⟨option, List.mem_of_find?_eq_some located, named⟩, .option split named ?_⟩
    intro other earlier
    rw [named]
    simpa using first other earlier

theorem unfillable_of_unfilled (unfilled : fillStatic options meant = none) :
    ¬ Fillable options meant := by
  cases meant with
  | random arguments =>
    rintro ⟨item, listed, present⟩
    exact present (random_expression_none_iff.mp unfilled item listed)
  | name inner =>
    rintro ⟨option, held, named⟩
    have absent := List.find?_eq_none.mp (Option.map_eq_none_iff.mp unfilled) option held
    exact absent (by simpa using named)

/-! ## The template -/

/-- The marks of a piece, given what fills its placeholders. -/
def pieceMarks (fill : StaticPlaceholder → Option String) : Piece → List Mark
  | .char c => [.char c]
  | .placeholder meant written =>
    match fill meant with
    | some expression => [.hole expression.toList]
    | none => written.map .char

theorem marks_of_split (fill : StaticPlaceholder → Option String) (text : List Char) :
    (Part.split staticPlaceholder? fill text).flatMap marksOf =
      ((piecesOf text).map (pieceMarks fill)).flatten := by
  fun_induction Part.split staticPlaceholder? fill text with
  | case1 => simp [piecesOf]
  | case2 c rest missing ih =>
    rw [marks_add_text, ih, piecesOf, missing]
    rfl
  | case3 c rest meant more found after expression filled ih =>
    rw [piecesOf, found, List.flatMap_cons, ih]
    simp [pieceMarks, filled, marksOf]
  | case4 c rest meant more found after unfilled ih =>
    rw [marks_add_text, ih, piecesOf, found]
    simp [pieceMarks, unfilled]

theorem shows_piece (options : List BoundOption) (piece : Piece) :
    Shows options piece (pieceMarks (fillStatic options) piece) := by
  cases piece with
  | char c => exact .char
  | placeholder meant written =>
    rw [pieceMarks]
    split
    · next expression filled =>
      obtain ⟨fillable, fills⟩ := fills_of_filled filled
      exact .substitution fillable fills
    · next unfilled => exact .verbatim (unfillable_of_unfilled unfilled)

/-! ## Putting placeholders back -/

/-- The placeholders that something fills, as they are written, in order. -/
def filledSources (options : List BoundOption) (pieces : List Piece) : List (List Char) :=
  pieces.filterMap fun
    | .char _ => none
    | .placeholder meant written => if Fillable options meant then some written else none

/-- The text of a template in which texts take the places of the substitutions, in order.
There has to be one text for each substitution. -/
def restore : List (List Char) → List Mark → Option (List Char)
  | [], [] => some []
  | sources, .char c :: rest => (restore sources rest).map (c :: ·)
  | source :: sources, .hole _ :: rest => (restore sources rest).map (source ++ ·)
  | _, _ => none

theorem restore_chars (sources : List (List Char)) (plain : List Char) (marks : List Mark) :
    restore sources (plain.map .char ++ marks) = (restore sources marks).map (plain ++ ·) := by
  induction plain with
  | nil => simp
  | cons c plain ih => simp [restore, ih, Function.comp_def]

theorem restore_shown (shows : List.Forall₂ (Shows options) pieces shown) :
    restore (filledSources options pieces) shown.flatten = some (pieces.flatMap Piece.source) := by
  induction shows with
  | nil => rfl
  | @cons piece marks pieces shown here later ih =>
    rw [List.flatten_cons, List.flatMap_cons]
    cases here with
    | @char c =>
      have sources : filledSources options (.char c :: pieces) = filledSources options pieces :=
        rfl
      rw [sources, List.singleton_append, restore, ih]
      rfl
    | @substitution meant expression written fillable fills =>
      have sources : filledSources options (.placeholder meant written :: pieces) =
          written :: filledSources options pieces := by
        simp [filledSources, fillable]
      rw [sources, List.singleton_append, restore, ih]
      rfl
    | @verbatim meant written unfilled =>
      have sources : filledSources options (.placeholder meant written :: pieces) =
          filledSources options pieces := by
        simp [filledSources, unfilled]
      rw [sources, restore_chars, ih]
      rfl

/-- The template for a static text shows the pieces of the text in order: what is matched
as a placeholder and asks for something that there is stands as its substitution, and all
else as it is written. There is one way to match the placeholders, and the text comes back
when those that are filled take the places of the substitutions. -/
theorem static_text_restored (text : String) (options : List BoundOption)
    (bound : Bound options) :
    ∃ pieces shown, Matched text.toList pieces ∧
      (∀ other, Matched text.toList other → other = pieces) ∧
      List.Forall₂ (Shows options) pieces shown ∧
      readTemplate (staticExpression text options).toList = some (shown.flatten, []) ∧
      restore (filledSources options pieces) shown.flatten = some text.toList := by
  have matched := matched_pieces text.toList
  have shows : List.Forall₂ (Shows options) (piecesOf text.toList)
      ((piecesOf text.toList).map (pieceMarks (fillStatic options))) := by
    rw [List.forall₂_map_right_iff, List.forall₂_same]
    exact fun piece _ => shows_piece options piece
  refine ⟨_, _, matched, fun _ => matched_unique, shows, ?_, ?_⟩
  · rw [read_static bound, staticParts, marks_of_split]
  · rw [restore_shown shows, sources_of_matched matched]

/-- Options of which two have one name. -/
def twinOptions : List BoundOption := [⟨"a", "a"⟩, ⟨"a", "a2"⟩, ⟨"b", "b"⟩]

/-- Placeholders within one another, with white space, without an option, and with nothing
to choose from. -/
def crookedText : String :=
  "\x7brandom(\x7ba\x7d,'')\x7d \x7b a \x7d\x7bc\x7d\x7brandom('',)\x7d$\x7b\x7bb\x7d"

theorem crooked_text_restored :
    Bound twinOptions ∧ ∃ pieces shown, Matched crookedText.toList pieces ∧
      List.Forall₂ (Shows twinOptions) pieces shown ∧
      readTemplate (staticExpression crookedText twinOptions).toList =
        some (shown.flatten, []) ∧
      restore (filledSources twinOptions pieces) shown.flatten = some crookedText.toList := by
  have bound : Bound twinOptions := by
    simp only [Bound, twinOptions, List.forall_mem_cons, List.not_mem_nil, false_implies,
      implies_true, and_true]
    exact ⟨SourceScan.leads_fixed rfl, SourceScan.leads_fixed rfl, SourceScan.leads_fixed rfl⟩
  obtain ⟨pieces, shown, matched, -, shows, read, restored⟩ :=
    static_text_restored crookedText twinOptions bound
  exact ⟨bound, pieces, shown, matched, shows, read, restored⟩

end Botwright.StaticRestoration
