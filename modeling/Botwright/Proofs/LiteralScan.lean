import Botwright.Proofs.JsonReading
import Botwright.Proofs.SourceScan
import Botwright.Script.Access
import Botwright.Script.Binding

/-! Whatever a user writes is quiet once it has been escaped: as a literal in
either kind of quotes, as the text of a comment, as a name, or as a step of
a member chain. -/
namespace Botwright.LiteralScan
open Script SourceScan

/-! ## Literals in quotes -/

/-- The characters that an escaping writes by their code point. -/
def NeedsHex (c : Char) : Prop := c = '\u2028' ∨ c = '\u2029' ∨ Text.isControl c = true

/-- The characters that a quoted literal writes as a backslash and one character more. -/
def quotedLetters : List (Char × Char) :=
  [('\\', '\\'), ('\'', '\''), ('\n', 'n'), ('\r', 'r'), ('\t', 't')]

/-- The ways in which a character of a quoted literal is written. -/
inductive Quoted (c : Char) : List Char → Prop where
  | letter (named : (c, e) ∈ quotedLetters) : Quoted c ['\\', e]
  | code (needed : NeedsHex c) : Quoted c ('\\' :: 'u' :: Text.hex 4 c.toNat)
  | itself (slash : c ≠ '\\') (mark : c ≠ '\'') (feed : c ≠ '\n') (back : c ≠ '\r')
      (printed : ¬NeedsHex c) : Quoted c [c]

theorem quoted_char (c : Char) : Quoted c (quotedChar c) := by
  by_cases named : c ∈ quotedLetters.map Prod.fst
  · have known : ∀ pair ∈ quotedLetters, quotedChar pair.1 = ['\\', pair.2] := by decide
    obtain ⟨pair, held, rfl⟩ := List.mem_map.mp named
    rw [known pair held]
    exact .letter held
  · simp only [quotedLetters, List.map_cons, List.map_nil, List.mem_cons, not_or] at named
    obtain ⟨slash, mark, feed, back, tab, -⟩ := named
    rw [quotedChar, if_neg slash, if_neg mark, if_neg feed, if_neg back, if_neg tab]
    split
    · next needed => exact .code needed
    · next printed => exact .itself slash mark feed back printed

/-- Each of these code points has no more than the four digits that an escape takes. -/
theorem NeedsHex.small (needed : NeedsHex c) : c.toNat < 0x10000 := by
  rcases needed with rfl | rfl | control
  · decide
  · decide
  · simp only [Text.isControl, Bool.or_eq_true, Bool.and_eq_true, decide_eq_true_eq] at control
    omega

theorem scan_hex (needed : NeedsHex c) (quote : Quote) :
    scan ⟨.hex quote 4, opened⟩ (Text.hex 4 c.toNat) = some ⟨.literal quote, opened⟩ := by
  have digit : ∀ k < 16, isHexDigit (Nat.digitChar k) = true := by decide
  have last (k : Nat) : isHexDigit (Nat.digitChar (k % 16)) = true :=
    digit _ (Nat.mod_lt k (by decide))
  have small := needed.small
  rw [JsonReading.hex_four small]
  simp [scan_cons, step, stepHex, last, digit (c.toNat / 16 / 16 / 16) (by omega)]

/-- No line ends within an escaped character. -/
theorem calm_quoted_char (member : d ∈ quotedChar c) : isLineTerminator d = false := by
  have letter : ∀ pair ∈ quotedLetters, isLineTerminator pair.2 = false := by decide
  have digit : ∀ k < 16, isLineTerminator (Nat.digitChar k) = false := by decide
  have written := quoted_char c
  generalize quotedChar c = text at written member
  cases written with
  | letter named =>
    rcases List.mem_cons.mp member with rfl | member
    · rfl
    rw [List.mem_singleton.mp member]
    exact letter _ named
  | code needed =>
    rcases List.mem_cons.mp member with rfl | member
    · rfl
    rcases List.mem_cons.mp member with rfl | member
    · rfl
    obtain ⟨k, bound, rfl⟩ := JsonReading.hex_digit_of_mem needed.small member
    exact digit k bound
  | itself slash mark feed back printed =>
    rw [NeedsHex, not_or, not_or] at printed
    rw [List.mem_singleton] at member
    simp [member, isLineTerminator, feed, back, printed.1, printed.2.1]

/-- A literal whose characters are escaped one by one does not end early. -/
theorem scan_escaped {escaped : Char → List Char} {state : State}
    (each : ∀ c, scan state (escaped c) = some state) (text : List Char) :
    scan state (text.flatMap escaped) = some state := by
  induction text with
  | nil => rfl
  | cons c rest ih => rw [List.flatMap_cons, scan_append, each]; exact ih

/-- A character of a quoted literal that needs no escape. -/
theorem scan_unescaped (notSlash : c ≠ '\\') (notMark : c ≠ quote.mark) (feed : c ≠ '\n')
    (back : c ≠ '\r') (lined : quote ≠ .backtick) :
    scan ⟨.literal quote, opened⟩ [c] = some ⟨.literal quote, opened⟩ := by
  rw [scan_single]
  simp [step, stepLiteral, notSlash, notMark, feed, back, lined]

theorem scan_quoted_char (c : Char) :
    scan ⟨.literal .single, opened⟩ (quotedChar c) = some ⟨.literal .single, opened⟩ := by
  have letter : ∀ pair ∈ quotedLetters,
      scan ⟨.literal .single, []⟩ ['\\', pair.2] = some ⟨.literal .single, []⟩ := by decide
  have written := quoted_char c
  generalize quotedChar c = text at written ⊢
  cases written with
  | letter named => exact scan_within opened (letter _ named)
  | code needed => exact scan_hex needed .single
  | itself slash mark feed back printed => exact scan_unescaped slash mark feed back (by simp)

theorem scan_escape_char (c : Char) :
    scan ⟨.literal .double, opened⟩ (Json.escapeChar c) = some ⟨.literal .double, opened⟩ := by
  have letter : ∀ pair ∈ JsonReading.letters,
      scan ⟨.literal .double, []⟩ ['\\', pair.2] = some ⟨.literal .double, []⟩ := by decide
  have written := JsonReading.written_escape c
  generalize Json.escapeChar c = text at written ⊢
  cases written with
  | letter named => exact scan_within opened (letter _ named)
  | code low unnamed => exact scan_hex (.inr (.inr (by simp [Text.isControl, low]))) .double
  | itself mark slash high =>
    have printed (d : Char) (control : d.toNat < 0x20) : c ≠ d := by rintro rfl; exact high control
    exact scan_unescaped slash mark (printed '\n' (by decide)) (printed '\r' (by decide)) (by simp)

theorem quiet_enclosed (quote : Quote)
    (body : scan ⟨.literal quote, []⟩ text = some ⟨.literal quote, []⟩) :
    Quiet (String.ofList (quote.mark :: text ++ [quote.mark])) := by
  have opening : step start quote.mark = some ⟨.literal quote, []⟩ := by cases quote <;> rfl
  have closing : scan ⟨.literal quote, []⟩ [quote.mark] = some start := by cases quote <;> rfl
  apply leads_fixed
  rw [List.cons_append, scan_cons, opening, Option.bind_some, scan_append, body]
  exact closing

theorem quiet_string_literal (text : String) : Quiet (stringLiteral text) :=
  quiet_enclosed .single (scan_escaped scan_quoted_char _)

/- Without its escape the second quote would end the literal. -/
example : scan start "'it's'".toList = some ⟨.literal .single, []⟩ := by decide

theorem quiet_quote (text : List Char) : Quiet (String.ofList (Json.quote text)) :=
  quiet_enclosed .double (scan_escaped scan_escape_char _)

/-! ## Comments -/

/-- A comment text has no line end in it, so it reaches exactly to its line's end. -/
theorem leads_comment_text (text : String) :
    Leads ⟨.lineComment, opened⟩ (commentText text) ⟨.lineComment, opened⟩ := by
  apply leads_fixed
  rw [List.map_eq_flatMap]
  apply scan_escaped
  intro c
  rw [scan_single]
  by_cases ends : isLineEnd c = true
  · rw [if_pos ends]
    rfl
  · rw [if_neg ends]
    have same : isLineTerminator c = isLineEnd c := rfl
    simp [step, same, ends]

/-! ## Names and numbers -/

theorem plain_of_part (part : isIdentifierPart c = true) : isMark c = false := by
  rw [Bool.eq_false_iff, ne_eq, is_mark_iff]
  rintro (rfl | rfl | rfl | rfl | rfl | rfl | rfl | rfl | rfl | rfl) <;>
    exact absurd part (by decide)

theorem quiet_of_parts (parts : ∀ c ∈ text, isIdentifierPart c = true) :
    Quiet (String.ofList text) := by
  apply quiet_of_plain
  rw [String.toList_ofList]
  exact fun c member => plain_of_part (parts c member)

theorem part_of_start (begins : isIdentifierStart c = true) : isIdentifierPart c = true := by
  simp [isIdentifierPart, begins]

theorem quiet_of_identifier (identifier : isIdentifier name = true) : Quiet name := by
  suffices quiet : Quiet (String.ofList name.toList) by rwa [String.ofList_toList] at quiet
  apply quiet_of_parts
  unfold isIdentifier at identifier
  cases shape : name.toList with
  | nil => simp
  | cons c rest =>
    simp only [shape, isIdentifierText, Bool.and_eq_true, List.all_eq_true] at identifier
    intro d member
    rcases List.mem_cons.mp member with rfl | later
    · exact part_of_start identifier.1
    · exact identifier.2 d later

theorem parts_sanitize_chars (member : c ∈ sanitizeChars text) : isIdentifierPart c = true := by
  obtain ⟨d, _, rfl⟩ := List.mem_map.mp member
  by_cases part : isIdentifierPart d = true
  · simp [part]
  · rw [if_neg part]
    decide

theorem parts_sanitize_text (member : c ∈ sanitizeText text) : isIdentifierPart c = true := by
  have underscore : isIdentifierPart '_' = true := by decide
  unfold sanitizeText at member
  split at member
  · simp_all
  · next first rest shape =>
    have inner {d : Char} (held : d ∈ first :: rest) : isIdentifierPart d = true :=
      parts_sanitize_chars (shape ▸ held)
    split at member
    · exact inner member
    · rcases List.mem_cons.mp member with rfl | held
      · exact underscore
      · exact inner held

theorem quiet_sanitize (text : String) : Quiet (sanitize text) :=
  quiet_of_parts fun _ member => parts_sanitize_text member

theorem quiet_handler_name (command : String) : Quiet (handlerName command) :=
  Quiet.append (leads_fixed rfl) (quiet_of_parts fun _ member => parts_sanitize_chars member)

theorem quiet_decimal (n : Nat) : Quiet (String.ofList (Text.decimal n)) := by
  apply quiet_of_parts
  intro c member
  have digit : c.isDigit = true := Nat.isDigit_of_mem_toDigits (by decide) (by decide) member
  simp [isIdentifierPart, digit]

theorem quiet_signed_decimal (n : Int) : Quiet (String.ofList (Text.signedDecimal n)) := by
  cases n with
  | ofNat n => exact quiet_decimal n
  | negSucc n =>
    rw [Text.signedDecimal, ← List.singleton_append, String.ofList_append]
    exact Quiet.append (leads_fixed rfl) (quiet_decimal (n + 1))

theorem quiet_first_free (quiet : Quiet base) : Quiet (Scope.firstFree scope base n tries) := by
  induction tries generalizing n with
  | zero => exact quiet.append (quiet_decimal n)
  | succ tries ih =>
    rw [Scope.firstFree]
    split
    · exact quiet.append (quiet_decimal n)
    · exact ih

/-- Whatever text a local is asked for, the name that is handed out is quiet. -/
theorem quiet_choose (scope : Scope) (base : String) : Quiet (scope.choose base) := by
  unfold Scope.choose
  dsimp only
  split
  · exact quiet_sanitize base
  · exact quiet_first_free (quiet_sanitize base)

/-! ## Members -/

theorem quiet_brackets (quiet : Quiet text) : Quiet ("[" ++ text ++ "]") :=
  ((leads_fixed rfl).insert quiet).fixed rfl

theorem quiet_member (object : Quiet name) (key : String) : Quiet (member name key) := by
  unfold member
  split
  · next identifier =>
    exact (Leads.fixed object rfl).insert (quiet_of_identifier identifier)
  · have literal := object.append (quiet_brackets (quiet_string_literal key))
    simpa only [String.append_assoc] using literal

theorem quiet_access_step (optional : Bool) (step : FieldPath.Segment) :
    Quiet (accessStep optional step) := by
  have mark : Quiet (if optional then "?." else "") := by
    cases optional
    · exact leads_empty
    · exact leads_fixed rfl
  have dot : Quiet (if optional then "?." else ".") := by
    cases optional <;> exact leads_fixed rfl
  cases step with
  | key name =>
    by_cases identifier : isIdentifier name = true
    · rw [accessStep, if_pos identifier]
      exact dot.append (quiet_of_identifier identifier)
    · rw [accessStep, if_neg identifier, String.append_assoc, String.append_assoc]
      have literal := mark.append (quiet_brackets (quiet_string_literal name))
      rwa [String.append_assoc] at literal
  | index position =>
    rw [accessStep, String.append_assoc, String.append_assoc]
    have literal := mark.append (quiet_brackets (quiet_decimal position))
    rwa [String.append_assoc] at literal

theorem quiet_access (object : Quiet name) (path : String) (optional : Bool) :
    Quiet (access name path optional) := by
  apply object.append
  apply quiet_join
  intro text member
  obtain ⟨step, _, rfl⟩ := List.mem_map.mp member
  exact quiet_access_step optional step

end Botwright.LiteralScan
