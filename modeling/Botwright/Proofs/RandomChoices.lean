import Mathlib
import Botwright.Proofs.ExpressionReading
import Botwright.Proofs.StaticRestoration

/-! What a random placeholder chooses from. Two whole numbers are the bounds of a range, in
either order; any other items are a list. The expression that is written is read by the
rules of the language and evaluated exactly, and as the random number goes through the
half-open unit interval, every choice is met and nothing else. -/
namespace Botwright.RandomChoices
open Script Reply LiteralReading ExpressionReading
open StaticRestoration (listItems random_items_eq random_expression_none_iff)
open StatementReading (intercalate_eq_join)

/-! ## Items -/

/-- A text without the white space around it. -/
structure Trimmed (text core : List Char) : Prop where
  around : ∃ front back, text = front ++ core ++ back ∧
    (∀ c ∈ front, Text.isBlank c = true) ∧ ∀ c ∈ back, Text.isBlank c = true
  first : ∀ c ∈ core.head?, Text.isBlank c = false
  last : ∀ c ∈ core.getLast?, Text.isBlank c = false

/-- The item that a piece between commas is: what stands in it, without white space around
it, and without quotes of one kind around that. -/
inductive Item (piece item : List Char) : Prop where
  | quoted (quote : mark ∈ itemQuotes) (trimmed : Trimmed piece (mark :: item ++ [mark]))
  | bare (trimmed : Trimmed piece item)
      (plain : ∀ mark ∈ itemQuotes, ∀ inner, item ≠ mark :: inner ++ [mark])

/-- A text is a whole number: digits behind a sign or none, for a number that a signed word
holds. -/
def Denotes (text : List Char) (n : Int) : Prop :=
  ∃ sign digits, text = sign ++ digits ∧ sign ∈ [[], ['+'], ['-']] ∧
    digits ≠ [] ∧ (∀ c ∈ digits, c.isDigit = true) ∧
    n = (if sign = ['-'] then -1 else 1) * (Nat.ofDigitChars 10 digits 0 : Int) ∧
    -2 ^ 63 ≤ n ∧ n < 2 ^ 63

/-- Behind a text that is not blank at its end, white space is removed. -/
theorem trim_end_append (last : ∀ c ∈ core.getLast?, Text.isBlank c = false)
    (blank : ∀ c ∈ back, Text.isBlank c = true) : Text.trimEnd (core ++ back) = core := by
  have backwards : (back.reverse ++ core.reverse).dropWhile Text.isBlank = core.reverse :=
    (take_while_append (by simpa using blank) (by simpa using last)).2
  rw [Text.trimEnd, Text.dropEndWhile, List.reverse_append, backwards, List.reverse_reverse]

theorem Trimmed.eq_trim (trimmed : Trimmed text core) : core = Text.trim text := by
  obtain ⟨⟨front, back, rfl, before, behind⟩, first, last⟩ := trimmed
  rw [List.append_assoc, Text.trim]
  cases core with
  | nil =>
    have blank : (front ++ back).dropWhile Text.isBlank = [] := by
      rw [List.dropWhile_eq_nil_iff]
      exact fun c held => (List.mem_append.mp held).elim (before c) (behind c)
    rw [List.nil_append, blank]
    rfl
  | cons c core =>
    have visible : ∀ d ∈ (c :: core ++ back).head?, Text.isBlank d = false := first
    rw [(take_while_append before visible).2, trim_end_append last behind]

theorem trimmed_trim (text : List Char) : Trimmed text (Text.trim text) := by
  obtain ⟨back, split, behind⟩ := SourceLayout.trim_end_append (text.dropWhile Text.isBlank)
  refine ⟨⟨text.takeWhile Text.isBlank, back, ?_, fun c held => List.mem_takeWhile_imp held,
    behind⟩, fun c head => ?_, fun c final => ?_⟩
  · rw [List.append_assoc, Text.trim, ← split, List.takeWhile_append_dropWhile]
  · have begins : (text.dropWhile Text.isBlank).head? = some c := by
      rw [Text.trim] at head
      rw [split, List.head?_append, head]
      rfl
    have visible := List.head?_dropWhile_not Text.isBlank text
    rwa [begins] at visible
  · have visible := List.head?_dropWhile_not Text.isBlank (text.dropWhile Text.isBlank).reverse
    rw [Text.trim, Text.trimEnd, Text.dropEndWhile, List.getLast?_reverse] at final
    rwa [final] at visible

theorem trimmed_iff : Trimmed text core ↔ core = Text.trim text :=
  ⟨Trimmed.eq_trim, fun same => same ▸ trimmed_trim text⟩

theorem unquote_with_iff {inner : List Char} :
    unquoteWith? mark s = some inner ↔ s = mark :: inner ++ [mark] := by
  cases s with
  | nil => simp [unquoteWith?]
  | cons c rest =>
    rw [unquoteWith?]
    split
    · next quoted =>
      obtain ⟨rfl, closed⟩ := quoted
      obtain ⟨front, rfl⟩ := List.getLast?_eq_some_iff.mp closed
      simp [eq_comm]
    · next bare =>
      constructor
      · intro missing
        cases missing
      · rintro ⟨⟩
        simp at bare

theorem item_iff : Item piece item ↔ item = unquote (Text.trim piece) := by
  rw [unquote]
  cases found : itemQuotes.findSome? (unquoteWith? · (Text.trim piece)) with
  | none =>
    have plain : ∀ mark ∈ itemQuotes, ∀ inner, Text.trim piece ≠ mark :: inner ++ [mark] := by
      intro mark held inner shape
      have missing := List.findSome?_eq_none_iff.mp found mark held
      exact Option.some_ne_none inner ((unquote_with_iff.mpr shape).symm.trans missing)
    constructor
    · rintro (⟨held, trimmed⟩ | ⟨trimmed, -⟩)
      · exact absurd (trimmed_iff.mp trimmed).symm (plain _ held _)
      · exact trimmed_iff.mp trimmed
    · rintro rfl
      exact .bare (trimmed_iff.mpr rfl) plain
  | some inner =>
    obtain ⟨mark, held, within⟩ := List.exists_of_findSome?_eq_some found
    have shape := unquote_with_iff.mp within
    constructor
    · rintro (⟨-, trimmed⟩ | ⟨trimmed, plain⟩)
      · have same := (trimmed_iff.mp trimmed).trans shape
        rw [List.cons_append, List.cons_append, List.cons.injEq] at same
        obtain ⟨rfl, same⟩ := same
        exact List.append_cancel_right same
      · exact absurd ((trimmed_iff.mp trimmed).trans shape) (plain mark held inner)
    · rintro rfl
      exact .quoted held (trimmed_iff.mpr shape.symm)

theorem items_iff : List.Forall₂ Item pieces items ↔
    items = pieces.map fun piece => unquote (Text.trim piece) := by
  induction pieces generalizing items with
  | nil => simp
  | cons piece pieces ih =>
    cases items <;> simp [item_iff, ih]

/-! ## Whole numbers -/

/-- Digits for a number within a limit are read as what they make. -/
theorem read_digits_iff {limit : Nat → Bool} {f : Nat → Int} :
    ((Text.readDigits? digits).filter limit).map f = some n ↔
      digits ≠ [] ∧ (∀ c ∈ digits, c.isDigit = true) ∧
        limit (Nat.ofDigitChars 10 digits 0) = true ∧ n = f (Nat.ofDigitChars 10 digits 0) := by
  have value : Text.digitsValue 0 digits = Nat.ofDigitChars 10 digits 0 := rfl
  rw [Text.readDigits?, value]
  by_cases run : digits ≠ [] ∧ digits.all Char.isDigit = true
  · have all : ∀ c ∈ digits, c.isDigit = true := List.all_eq_true.mp run.2
    rw [if_pos run, Option.map_eq_some_iff]
    simp only [Option.filter_eq_some_iff, Option.some.injEq]
    constructor
    · rintro ⟨-, ⟨rfl, fits⟩, rfl⟩
      exact ⟨run.1, all, fits, rfl⟩
    · rintro ⟨-, -, fits, rfl⟩
      exact ⟨_, ⟨rfl, fits⟩, rfl⟩
  · rw [if_neg run]
    constructor
    · intro missing
      cases missing
    · rintro ⟨nonempty, all, -⟩
      exact absurd ⟨nonempty, List.all_eq_true.mpr all⟩ run

theorem read_signed_minus (digits : List Char) : Text.readSigned? ('-' :: digits) =
    ((Text.readDigits? digits).filter (· ≤ Numeric.signedLimit)).map fun n => -Int.ofNat n := by
  cases digits' : (Text.readDigits? digits).filter (· ≤ Numeric.signedLimit) <;>
    simp [Text.readSigned?, digits']

theorem read_signed_bare (minus : text.head? ≠ some '-') (plus : text.head? ≠ some '+') :
    Text.readSigned? text =
      ((Text.readDigits? text).filter (· < Numeric.signedLimit)).map Int.ofNat := by
  unfold Text.readSigned?
  split
  · exact absurd rfl minus
  · unfold Text.dropPlus
    split
    · exact absurd rfl plus
    · rfl

theorem read_signed_plus (digits : List Char) : Text.readSigned? ('+' :: digits) =
    ((Text.readDigits? digits).filter (· < Numeric.signedLimit)).map Int.ofNat :=
  rfl

/-- Just the texts that are whole numbers are read as numbers. -/
theorem denotes_of_read (read : Text.readSigned? text = some n) : Denotes text n := by
  have limit : Numeric.signedLimit = 2 ^ 63 := rfl
  by_cases minus : text.head? = some '-'
  · obtain ⟨digits, rfl⟩ := List.head?_eq_some_iff.mp minus
    rw [read_signed_minus, read_digits_iff] at read
    obtain ⟨run, all, fits, rfl⟩ := read
    have fits := of_decide_eq_true fits
    rw [Int.ofNat_eq_natCast]
    exact ⟨['-'], digits, rfl, by decide, run, all, by simp, by omega, by omega⟩
  · by_cases plus : text.head? = some '+'
    · obtain ⟨digits, rfl⟩ := List.head?_eq_some_iff.mp plus
      rw [read_signed_plus, read_digits_iff] at read
      obtain ⟨run, all, fits, rfl⟩ := read
      have fits := of_decide_eq_true fits
      rw [Int.ofNat_eq_natCast]
      exact ⟨['+'], digits, rfl, by decide, run, all, by simp, by omega, by omega⟩
    · rw [read_signed_bare minus plus, read_digits_iff] at read
      obtain ⟨run, all, fits, rfl⟩ := read
      have fits := of_decide_eq_true fits
      rw [Int.ofNat_eq_natCast]
      exact ⟨[], text, rfl, by decide, run, all, by simp, by omega, by omega⟩

theorem read_of_denotes (denotes : Denotes text n) : Text.readSigned? text = some n := by
  have limit : Numeric.signedLimit = 2 ^ 63 := rfl
  obtain ⟨sign, digits, rfl, known, run, all, value, low, high⟩ := denotes
  simp only [List.mem_cons, List.not_mem_nil, or_false] at known
  rcases known with rfl | rfl | rfl
  · have digit (c : Char) (head : digits.head? = some c) : c.isDigit = true :=
      all c (List.mem_of_mem_head? head)
    rw [List.nil_append, read_signed_bare (fun head => absurd (digit _ head) (by decide))
      (fun head => absurd (digit _ head) (by decide)), read_digits_iff]
    rw [if_neg (by decide), one_mul] at value
    exact ⟨run, all, decide_eq_true (by omega), value⟩
  · rw [List.singleton_append, read_signed_plus, read_digits_iff]
    rw [if_neg (by decide), one_mul] at value
    exact ⟨run, all, decide_eq_true (by omega), value⟩
  · rw [List.singleton_append, read_signed_minus, read_digits_iff]
    rw [if_pos rfl, neg_one_mul] at value
    exact ⟨run, all, decide_eq_true (by omega), value⟩

/-! ## Values -/

/-- The values that an expression takes as its random number goes through the half-open unit
interval: those of the set, and each of them. -/
def Takes (e : Arithmetic) (values : Set ℤ) : Prop :=
  (fun u : ℝ => e.at u) '' Set.Ico 0 1 = (fun n : ℤ => (n : ℝ)) '' values

theorem floor_range {count : ℤ} (any : 0 < count) :
    (fun u : ℝ => ⌊u * count⌋) '' Set.Ico 0 1 = Set.Ico 0 count := by
  have positive : (0 : ℝ) < count := by exact_mod_cast any
  ext n
  constructor
  · rintro ⟨u, ⟨low, high⟩, rfl⟩
    refine ⟨Int.floor_nonneg.mpr (mul_nonneg low positive.le), Int.floor_lt.mpr ?_⟩
    exact mul_lt_of_lt_one_left positive high
  · rintro ⟨low, high⟩
    have low : (0 : ℝ) ≤ n := by exact_mod_cast low
    have high : (n : ℝ) < count := by exact_mod_cast high
    refine ⟨n / count, ⟨div_nonneg low positive.le, (div_lt_one positive).mpr high⟩, ?_⟩
    simp [div_mul_cancel₀ _ positive.ne']

/-- A random position below a bound. -/
def below (count : Arithmetic) : Arithmetic := .floor (.product .random count)

theorem takes_below {e : Arithmetic} {count : ℤ} (value : ∀ u : ℝ, e.at u = count)
    (any : 0 < count) : Takes (below e) (Set.Ico 0 count) := by
  rw [Takes, ← floor_range any, Set.image_image]
  simp only [below, Arithmetic.at, value]

/-- A random number from one bound to another. -/
def between (least greatest : Arithmetic) : Arithmetic :=
  .sum (below (.sum (.difference greatest least) (.literal 1))) least

theorem takes_between {low high : Arithmetic} {least greatest : ℤ}
    (lowValue : ∀ u : ℝ, low.at u = least) (highValue : ∀ u : ℝ, high.at u = greatest)
    (ordered : least ≤ greatest) : Takes (between low high) (Set.Icc least greatest) := by
  have count (u : ℝ) : (Arithmetic.sum (.difference high low) (.literal 1)).at u =
      ((greatest - least + 1 : ℤ) : ℝ) := by
    simp [Arithmetic.at, lowValue, highValue]
  have drawn := takes_below count (by omega)
  have shifted : Set.Icc least greatest =
      (fun n => n + least) '' Set.Ico 0 (greatest - least + 1) := by
    ext n
    constructor
    · rintro ⟨above, under⟩
      exact ⟨n - least, ⟨by omega, by omega⟩, show n - least + least = n by omega⟩
    · rintro ⟨m, ⟨above, under⟩, rfl⟩
      exact ⟨show least ≤ m + least by omega, show m + least ≤ greatest by omega⟩
  rw [Takes] at drawn
  rw [Takes, shifted, Set.image_image]
  -- A number between two bounds is one below their distance plus one, moved by the lower.
  have sums : (fun u : ℝ => (between low high).at u) =
      (fun x : ℝ => x + least) ∘ fun u : ℝ => (below (.sum (.difference high low)
        (.literal 1))).at u := by
    funext u
    simp [between, Arithmetic.at, lowValue]
  rw [sums, Set.image_comp, drawn, Set.image_image]
  simp

/-! ## What is written -/

/-- A call of a function on numbers, up to its opening parenthesis. -/
def call (function : String) : List (Bool × Token) :=
  [(false, .name "Math"), (false, .mark .dot), (false, .name function), (false, .mark .opening)]

/-- A random number times something in parentheses. -/
def scaled : List (Bool × Token) :=
  call "floor" ++ call "random" ++ [(false, .mark .closing), (true, .mark .times)]

/-- A number with its sign. -/
def signedTokens (spaced : Bool) : Int → List (Bool × Token)
  | .ofNat n => [(spaced, .number n)]
  | .negSucc n => [(spaced, .mark .minus), (false, .number (n + 1))]

def signedValue : Int → Arithmetic
  | .ofNat n => .literal n
  | .negSucc n => .negative (.literal (n + 1))

def integerTokens (least greatest : Int) : List (Bool × Token) :=
  let one : List (Bool × Token) :=
    [(true, .mark .plus), (true, .number 1), (false, .mark .closing), (false, .mark .closing)]
  scaled ++ (true, .mark .opening) :: signedTokens false greatest ++
    (true, .mark .minus) :: signedTokens true least ++ one ++
      (true, .mark .plus) :: signedTokens true least

theorem signed_value_at (n : Int) (u : ℝ) : (signedValue n).at u = n := by
  cases n <;> simp [signedValue, Arithmetic.at]

theorem integer_written (a b : Int) :
    (integerExpression a b).toList = layout (integerTokens (min a b) (max a b)) := by
  have one : Text.decimal 1 = ['1'] := by decide
  unfold integerExpression
  generalize min a b = least, max a b = greatest
  cases least <;> cases greatest <;>
    simp [integerTokens, scaled, call, signedTokens, layout, Token.spelled, Mark.char,
      Text.signedDecimal, one]

theorem integer_read (a b : Int) : drawn? (integerExpression a b) =
    some (.number (between (signedValue (min a b)) (signedValue (max a b)))) := by
  rw [drawn?, integer_written]
  generalize min a b = least, max a b = greatest
  have well : wellLaid (integerTokens least greatest) = true := by
    cases least <;> cases greatest <;> rfl
  rw [tokens_layout well]
  cases least <;> cases greatest <;> rfl

/-- Strings with commas between them, the first one with a space in front or none. -/
def textTokens (spaced : Bool) : List (List Char) → List (Bool × Token)
  | [] => []
  | [last] => [(spaced, .text last)]
  | item :: more => (spaced, .text item) :: (false, .mark .comma) :: textTokens true more

/-- From behind a list, a random position in it. -/
def positionTokens (count : Nat) : List (Bool × Token) :=
  (false, .mark .closeBracket) :: (false, .mark .openBracket) :: scaled ++
    [(true, .number count), (false, .mark .closing), (false, .mark .closeBracket)]

def choiceTokens (items : List (List Char)) : List (Bool × Token) :=
  (false, .mark .openBracket) :: textTokens false items ++ positionTokens items.length

theorem text_tokens_cons (spaced : Bool) (item next : List Char) (more : List (List Char)) :
    textTokens spaced (item :: next :: more) =
      (spaced, .text item) :: (false, .mark .comma) :: textTokens true (next :: more) :=
  rfl

theorem texts_written (spaced : Bool) (item : List Char) (more : List (List Char)) :
    layout (textTokens spaced (item :: more)) =
      (if spaced then [' '] else []) ++ [',', ' '].intercalate ((item :: more).map quoted) := by
  induction more generalizing spaced item with
  | nil => simp [textTokens, layout, Token.spelled]
  | cons next more ih =>
    rw [text_tokens_cons, layout_cons, layout_cons, ih]
    simp [Token.spelled, Mark.char, List.intercalate_cons_cons]

theorem choice_written (present : items ≠ []) :
    (choiceExpression items).toList = layout (choiceTokens items) := by
  obtain ⟨item, more, rfl⟩ := List.exists_cons_of_ne_nil present
  rw [choiceTokens, List.cons_append, layout_cons, layout_append, texts_written]
  have literals : (String.toList ∘ fun item => String.ofList (quoted item)) = quoted := by
    funext item
    exact String.toList_ofList
  simp [choiceExpression, positionTokens, layout, scaled, call, Token.spelled, Mark.char, literals]

theorem texts_begin (spaced : Bool) (item : List Char) (more : List (List Char)) :
    ∃ rest, textTokens spaced (item :: more) = (spaced, .text item) :: rest := by
  cases more <;> exact ⟨_, rfl⟩

theorem texts_laid (spaced : Bool) (item : List Char) (more : List (List Char)) (count : Nat) :
    wellLaid (textTokens spaced (item :: more) ++ positionTokens count) = true := by
  induction more generalizing spaced item with
  | nil => rfl
  | cons next more ih =>
    have later := ih true next
    obtain ⟨rest, shape⟩ := texts_begin true next more
    rw [text_tokens_cons, shape]
    rw [shape] at later
    simpa [wellLaid, Token.spellable, Token.touches] using later

theorem choice_laid (present : items ≠ []) : wellLaid (choiceTokens items) = true := by
  obtain ⟨item, more, rfl⟩ := List.exists_cons_of_ne_nil present
  have texts := texts_laid false item more (more.length + 1)
  obtain ⟨rest, shape⟩ := texts_begin false item more
  rw [choiceTokens, shape]
  rw [shape] at texts
  simpa [wellLaid, Token.spellable, Token.touches] using texts

theorem read_texts (spaced : Bool) (item : List Char) (more : List (List Char))
    (rest : List Token) :
    readTexts ((textTokens spaced (item :: more)).map Prod.snd ++ .mark .closeBracket :: rest) =
      some (item :: more, rest) := by
  induction more generalizing spaced item with
  | nil => rfl
  | cons next more ih =>
    have step : readTexts ((textTokens spaced (item :: next :: more)).map Prod.snd ++
        .mark .closeBracket :: rest) = (readTexts ((textTokens true (next :: more)).map Prod.snd ++
          .mark .closeBracket :: rest)).map fun read => (item :: read.1, read.2) := rfl
    rw [step, ih]
    rfl

theorem choice_read (present : items ≠ []) : drawn? (choiceExpression items) =
    some (.item items (below (.literal items.length))) := by
  rw [drawn?, choice_written present, tokens_layout (choice_laid present)]
  obtain ⟨item, more, rfl⟩ := List.exists_cons_of_ne_nil present
  have texts := read_texts false item more ((positionTokens (more.length + 1)).map Prod.snd).tail
  have tokens : (choiceTokens (item :: more)).map Prod.snd = .mark .openBracket ::
      ((textTokens false (item :: more)).map Prod.snd ++ .mark .closeBracket ::
        ((positionTokens (more.length + 1)).map Prod.snd).tail) := by
    simp [choiceTokens, positionTokens]
  rw [Option.bind_some, tokens, drawnOf?, texts]
  rfl

/-! ## What a placeholder chooses from -/

/-- The items are two whole numbers. -/
def Bounds (items : List (List Char)) (a b : Int) : Prop :=
  ∃ first second, items = [first, second] ∧ Denotes first a ∧ Denotes second b

theorem random_of_bounds (bounds : Bounds (listItems arguments) a b) :
    randomExpression? arguments = some (integerExpression a b) := by
  obtain ⟨first, second, two, low, high⟩ := bounds
  have shown : first ≠ [] := by
    rintro rfl
    cases read_of_denotes low
  rw [randomExpression?, random_items_eq, two]
  simp only [shown, false_and, if_false, read_of_denotes low, read_of_denotes high]

theorem random_of_items (shown : ∃ item ∈ listItems arguments, item ≠ [])
    (free : ∀ a b, ¬ Bounds (listItems arguments) a b) :
    randomExpression? arguments = some (choiceExpression (listItems arguments)) := by
  rw [randomExpression?, random_items_eq]
  generalize listItems arguments = items at shown free
  split
  · next first second =>
    rw [if_neg (by simpa [imp_iff_not_or] using shown)]
    split
    · next a b low high =>
      exact absurd ⟨first, second, rfl, denotes_of_read low, denotes_of_read high⟩ (free a b)
    · rfl
  · rw [if_neg (by simpa using shown)]

/-- For all arguments of a random placeholder there is one list of items between its commas.
Nothing is written just if they are all empty. If they are two whole numbers, in either
order, what is written is a number, and takes the values between them and no other. Other
items are written as a list of strings in their order, with a position behind it that
takes the values of all places in the list and no other. -/
theorem random_choices (arguments : List Char) :
    ∃ items, (∀ other, List.Forall₂ Item (arguments.splitOn ',') other ↔ other = items) ∧
      (randomExpression? arguments = none ↔ ∀ item ∈ items, item = []) ∧
      (∀ a b, Bounds items a b → ∃ text value, randomExpression? arguments = some text ∧
        drawn? text = some (.number value) ∧ Takes value (Set.Icc (min a b) (max a b))) ∧
      ((∃ item ∈ items, item ≠ []) → (∀ a b, ¬ Bounds items a b) →
        ∃ text position, randomExpression? arguments = some text ∧
          drawn? text = some (.item items position) ∧
            Takes position (Set.Ico 0 items.length)) := by
  refine ⟨listItems arguments, fun _ => items_iff, random_expression_none_iff, ?_, ?_⟩
  · intro a b bounds
    refine ⟨_, _, random_of_bounds bounds, integer_read a b, ?_⟩
    exact takes_between (signed_value_at _) (signed_value_at _) min_le_max
  · rintro ⟨item, held, shown⟩ free
    have present : listItems arguments ≠ [] := List.ne_nil_of_mem held
    refine ⟨_, _, random_of_items ⟨item, held, shown⟩ free, choice_read present, ?_⟩
    refine takes_below (fun u => by simp [Arithmetic.at]) ?_
    exact_mod_cast List.length_pos_iff.mpr present

/-- Bounds in the wrong order, one of them in quotes, and a list that ends with a comma. -/
theorem crooked_arguments_covered :
    (∃ text value, randomExpression? " '3' , -2".toList = some text ∧
      drawn? text = some (.number value) ∧ Takes value (Set.Icc (-2) 3)) ∧
    ∃ text position, randomExpression? "x , 'y',".toList = some text ∧
      drawn? text = some (.item [['x'], ['y'], []] position) ∧
        Takes position (Set.Ico 0 3) := by
  constructor
  · obtain ⟨items, only, -, range, -⟩ := random_choices " '3' , -2".toList
    have known : items = [['3'], ['-', '2']] :=
      ((only _).mp (items_iff.mpr (by decide +kernel))).symm
    exact range 3 (-2) ⟨_, _, known, denotes_of_read (by decide), denotes_of_read (by decide)⟩
  · obtain ⟨items, only, -, -, list⟩ := random_choices "x , 'y',".toList
    have known : items = [['x'], ['y'], []] :=
      ((only _).mp (items_iff.mpr (by decide +kernel))).symm
    subst known
    refine list ⟨['x'], by simp, by simp⟩ fun a b bounds => ?_
    obtain ⟨first, second, two, -⟩ := bounds
    cases two

end Botwright.RandomChoices
