import Mathlib.Tactic.SplitIfs
import Botwright.Text.Blank

/-! A scanner for the shape of JavaScript source: line and block comments, the
three kinds of literal, substitutions in templates, and brackets. It refuses
a raw line end in a quoted string, a malformed escape and a bracket that closes
nothing or another kind. Regular expressions are read as plain code. -/
namespace Botwright.SourceScan

/-- What a closing bracket has to match. -/
inductive Bracket where
  | round
  | square
  | curly
  /-- The hole of a template literal, entered by a dollar sign and a brace. -/
  | substitution
  deriving DecidableEq, Repr

/-- The kinds of literal, by what stands at both their ends. -/
inductive Quote where
  | single
  | double
  | backtick
  deriving DecidableEq, Repr

def Quote.mark : Quote → Char
  | single => '\''
  | double => '"'
  | backtick => '\x60'

/-- What the next character is read as. -/
inductive Mode where
  | code
  /-- After a slash in code, which may begin a comment. -/
  | slash
  | lineComment
  | blockComment
  /-- After a star in a block comment. -/
  | blockStar
  | literal (quote : Quote)
  /-- After a backslash in a literal. -/
  | escape (quote : Quote)
  /-- Within the digits of an escape, some of them still missing. -/
  | hex (quote : Quote) (missing : Nat)
  /-- After a dollar sign in a template, which may begin a substitution. -/
  | dollar
  deriving DecidableEq, Repr

structure State where
  mode : Mode
  /-- The brackets that are open, innermost first. -/
  opened : List Bracket
  deriving DecidableEq, Repr

/-- Code within some brackets. -/
def inside (opened : List Bracket) : State := ⟨.code, opened⟩

/-- Where a source begins and where a whole one ends. -/
def start : State := inside []

def isLineTerminator (c : Char) : Bool :=
  c = '\n' || c = '\r' || c = '\u2028' || c = '\u2029'

def isHexDigit (c : Char) : Bool := c.isDigit || ('a' ≤ c && c ≤ 'f') || ('A' ≤ c && c ≤ 'F')

/-! ## One character -/

/-- A closing bracket closes the innermost open one. The end of a substitution
is back in its template. -/
def closeBracket (c : Char) : List Bracket → Option State
  | .round :: rest => if c = ')' then some (inside rest) else none
  | .square :: rest => if c = ']' then some (inside rest) else none
  | .curly :: rest => if c = '}' then some (inside rest) else none
  | .substitution :: rest => if c = '}' then some ⟨.literal .backtick, rest⟩ else none
  | [] => none

def stepCode (opened : List Bracket) (c : Char) : Option State :=
  if c = '\'' then some ⟨.literal .single, opened⟩
  else if c = '"' then some ⟨.literal .double, opened⟩
  else if c = '\x60' then some ⟨.literal .backtick, opened⟩
  else if c = '/' then some ⟨.slash, opened⟩
  else if c = '(' then some (inside (.round :: opened))
  else if c = '[' then some (inside (.square :: opened))
  else if c = '{' then some (inside (.curly :: opened))
  else if c = ')' ∨ c = ']' ∨ c = '}' then closeBracket c opened
  else some (inside opened)

def stepSlash (opened : List Bracket) (c : Char) : Option State :=
  if c = '/' then some ⟨.lineComment, opened⟩
  else if c = '*' then some ⟨.blockComment, opened⟩
  else stepCode opened c

def stepLiteral (quote : Quote) (opened : List Bracket) (c : Char) : Option State :=
  if c = '\\' then some ⟨.escape quote, opened⟩
  else if c = quote.mark then some (inside opened)
  else if quote = .backtick then some ⟨if c = '$' then .dollar else .literal .backtick, opened⟩
  else if c = '\n' ∨ c = '\r' then none
  else some ⟨.literal quote, opened⟩

/-- An escape by code unit takes exactly four or two digits; octal escapes are
not allowed in a module. -/
def stepEscape (quote : Quote) (opened : List Bracket) (c : Char) : Option State :=
  if c = 'u' then some ⟨.hex quote 4, opened⟩
  else if c = 'x' then some ⟨.hex quote 2, opened⟩
  else if c.isDigit then none
  else some ⟨.literal quote, opened⟩

def stepHex (quote : Quote) (opened : List Bracket) (c : Char) : Nat → Option State
  | 0 => none
  | missing + 1 =>
    if isHexDigit c then
      some ⟨if missing = 0 then .literal quote else .hex quote missing, opened⟩
    else none

def step (state : State) (c : Char) : Option State :=
  match state.mode with
  | .code => stepCode state.opened c
  | .slash => stepSlash state.opened c
  | .lineComment => some ⟨if isLineTerminator c then .code else .lineComment, state.opened⟩
  | .blockComment => some ⟨if c = '*' then .blockStar else .blockComment, state.opened⟩
  | .blockStar =>
    some ⟨if c = '/' then .code else if c = '*' then .blockStar else .blockComment, state.opened⟩
  | .literal quote => stepLiteral quote state.opened c
  | .escape quote => stepEscape quote state.opened c
  | .hex quote missing => stepHex quote state.opened c missing
  | .dollar =>
    if c = '{' then some (inside (.substitution :: state.opened))
    else stepLiteral .backtick state.opened c

/-- The state after a text, unless the text is malformed. -/
def scan (state : State) (text : List Char) : Option State := text.foldlM step state

/-- The characters that mean something in code. -/
def isMark (c : Char) : Bool :=
  ['\'', '"', '\x60', '/', '(', '[', '{', ')', ']', '}'].contains c

theorem is_mark_iff :
    isMark c = true ↔ c = '\'' ∨ c = '"' ∨ c = '\x60' ∨ c = '/' ∨ c = '(' ∨ c = '[' ∨ c = '{' ∨
      c = ')' ∨ c = ']' ∨ c = '}' := by
  simp [isMark]

theorem step_plain (plain : isMark c = false) : stepCode opened c = some (inside opened) := by
  have different := mt is_mark_iff.mpr (Bool.eq_false_iff.mp plain)
  simp only [not_or] at different
  simp only [stepCode, different, if_false, or_self]

/-! ## Runs -/

@[simp] theorem scan_nil : scan state [] = some state := rfl

@[simp] theorem scan_cons :
    scan state (c :: text) = (step state c).bind fun next => scan next text := rfl

theorem scan_single : scan state [c] = step state c := by simp

@[simp] theorem scan_append :
    scan state (front ++ back) = (scan state front).bind fun next => scan next back := by
  simp [scan, List.foldlM_append]

/-- The same state with more brackets open around it. -/
def State.within (state : State) (outer : List Bracket) : State :=
  ⟨state.mode, state.opened ++ outer⟩

@[simp] theorem inside_within : (inside opened).within outer = inside (opened ++ outer) := rfl

theorem close_within (closed : closeBracket c opened = some next) :
    closeBracket c (opened ++ outer) = some (next.within outer) := by
  cases opened with
  | nil => simp [closeBracket] at closed
  | cons bracket rest =>
    cases bracket <;>
      simp only [closeBracket, Option.ite_none_right_eq_some, Option.some.injEq] at closed <;>
      simp [closeBracket, closed.1, ← closed.2, State.within, inside]

theorem code_within (stepped : stepCode opened c = some next) :
    stepCode (opened ++ outer) c = some (next.within outer) := by
  by_cases mark : isMark c = true
  · rcases is_mark_iff.mp mark with rfl | rfl | rfl | rfl | rfl | rfl | rfl | closing
    case inr.inr.inr.inr.inr.inr.inr =>
      rcases closing with rfl | rfl | rfl <;> exact close_within stepped
    all_goals cases stepped; rfl
  · rw [step_plain (Bool.eq_false_iff.mpr mark)] at stepped ⊢
    cases stepped
    rfl

theorem literal_within (stepped : stepLiteral quote opened c = some next) :
    stepLiteral quote (opened ++ outer) c = some (next.within outer) := by
  unfold stepLiteral at stepped ⊢
  split_ifs at stepped ⊢ <;> cases stepped <;> rfl

/-- Brackets further out than the text reaches do not matter to it. -/
theorem step_within (stepped : step state c = some next) :
    step (state.within outer) c = some (next.within outer) := by
  obtain ⟨mode, opened⟩ := state
  cases mode with
  | code => exact code_within stepped
  | literal quote => exact literal_within stepped
  | lineComment | blockComment | blockStar => cases stepped; rfl
  | slash =>
    simp only [step, stepSlash, State.within] at stepped ⊢
    split_ifs at stepped ⊢
    · cases stepped; rfl
    · cases stepped; rfl
    · exact code_within stepped
  | escape quote =>
    simp only [step, stepEscape, State.within] at stepped ⊢
    split_ifs at stepped ⊢ <;> cases stepped <;> rfl
  | hex quote missing =>
    cases missing with
    | zero => cases stepped
    | succ missing =>
      simp only [step, stepHex, State.within] at stepped ⊢
      split_ifs at stepped ⊢ <;> cases stepped <;> rfl
  | dollar =>
    simp only [step, State.within] at stepped ⊢
    split_ifs at stepped ⊢
    · cases stepped; rfl
    · exact literal_within stepped

theorem scan_within (outer : List Bracket) (run : scan state text = some final) :
    scan (state.within outer) text = some (final.within outer) := by
  induction text generalizing state with
  | nil => cases run; rfl
  | cons c rest ih =>
    obtain ⟨next, stepped, after⟩ := Option.bind_eq_some_iff.mp run
    rw [scan_cons, step_within stepped]
    exact ih after

/-! ## Line ends and white space -/

/-- A line may be indented: after its predecessor's end a space changes nothing,
whatever the line stands in. -/
theorem calm_after_line_end (stepped : step state '\n' = some next) :
    step next ' ' = some next := by
  obtain ⟨mode, opened⟩ := state
  cases mode with
  | code | slash | lineComment | blockComment | blockStar => cases stepped; rfl
  | literal quote | escape quote => cases quote <;> cases stepped <;> rfl
  | hex quote missing => cases missing <;> cases stepped
  | dollar => cases stepped; rfl

/-- The modes from which a line end is back in code. -/
def Settled (mode : Mode) : Prop := mode = .code ∨ mode = .slash ∨ mode = .lineComment

theorem step_settled (settled : Settled mode) :
    step ⟨mode, opened⟩ '\n' = some (inside opened) := by
  rcases settled with rfl | rfl | rfl <;> rfl

theorem blank_ne (blank : Text.isBlank c = true) (dark : Text.isBlank d = false) : c ≠ d := by
  rintro rfl
  simp [blank] at dark

theorem blank_plain (blank : Text.isBlank c = true) : isMark c = false := by
  rw [Bool.eq_false_iff, ne_eq, is_mark_iff]
  rintro (rfl | rfl | rfl | rfl | rfl | rfl | rfl | rfl | rfl | rfl) <;>
    exact absurd blank (by decide)

/-- White space neither leaves a comment or literal for code nor moves a bracket,
so text that ends in code ends there before its trailing white space too. -/
theorem settled_before_blank (blank : Text.isBlank c = true) (stepped : step state c = some next)
    (settled : Settled next.mode) : Settled state.mode ∧ next.opened = state.opened := by
  obtain ⟨mode, opened⟩ := state
  have slash : c ≠ '/' := blank_ne blank rfl
  have star : c ≠ '*' := blank_ne blank rfl
  have brace : c ≠ '{' := blank_ne blank rfl
  -- White space closes no literal, and a literal is not settled.
  have literal {quote : Quote} (stepped : stepLiteral quote opened c = some next) : False := by
    have mark : c ≠ quote.mark := blank_ne blank (by cases quote <;> rfl)
    unfold stepLiteral at stepped
    split_ifs at stepped <;> cases stepped <;> simp [Settled] at settled
  cases mode with
  | code =>
    simp only [step, step_plain (blank_plain blank)] at stepped
    cases stepped
    exact ⟨.inl rfl, rfl⟩
  | slash =>
    simp only [step, stepSlash, slash, star, if_false, step_plain (blank_plain blank)] at stepped
    cases stepped
    exact ⟨.inr (.inl rfl), rfl⟩
  | lineComment =>
    cases stepped
    exact ⟨.inr (.inr rfl), rfl⟩
  | blockComment | blockStar =>
    simp only [step, slash, star, if_false] at stepped
    cases stepped
    simp [Settled] at settled
  | literal quote => exact (literal stepped).elim
  | escape quote =>
    simp only [step, stepEscape] at stepped
    split_ifs at stepped <;> cases stepped <;> simp [Settled] at settled
  | hex quote missing =>
    cases missing with
    | zero => cases stepped
    | succ missing =>
      simp only [step, stepHex] at stepped
      split_ifs at stepped <;> cases stepped <;> simp [Settled] at settled
  | dollar =>
    simp only [step, brace, if_false] at stepped
    exact (literal stepped).elim

theorem settled_before_blanks (blank : ∀ c ∈ blanks, Text.isBlank c = true)
    (run : scan state blanks = some final) (settled : Settled final.mode) :
    Settled state.mode ∧ final.opened = state.opened := by
  induction blanks generalizing state with
  | nil => cases run; exact ⟨settled, rfl⟩
  | cons c rest ih =>
    obtain ⟨next, stepped, after⟩ := Option.bind_eq_some_iff.mp run
    obtain ⟨settledNext, same⟩ := ih (fun d member => blank d (by simp [member])) after
    rw [same]
    exact settled_before_blank (blank c (by simp)) stepped settledNext

/-! ## Texts -/

/-- Reading a text takes one state to another. -/
def Leads (before : State) (text : String) (after : State) : Prop :=
  scan before text.toList = some after

/-- A text that may stand anywhere in code: every literal, comment and bracket
that it opens it also closes. -/
def Quiet (text : String) : Prop := Leads start text start

/-- A fixed text is read character by character. -/
theorem leads_fixed (run : scan before characters = some after) :
    Leads before (String.ofList characters) after := by
  simpa [Leads] using run

theorem leads_empty : Leads state "" state := by simp [Leads]

theorem Leads.append (first : Leads before front between) (second : Leads between back after) :
    Leads before (front ++ back) after := by
  unfold Leads at first second ⊢
  rw [String.toList_append, scan_append, first]
  exact second

theorem Leads.within (leads : Leads before text after) (outer : List Bracket) :
    Leads (before.within outer) text (after.within outer) :=
  scan_within outer leads

theorem Quiet.anywhere (quiet : Quiet text) (opened : List Bracket) :
    Leads (inside opened) text (inside opened) :=
  Leads.within quiet opened

theorem Quiet.append (first : Quiet front) (second : Quiet back) : Quiet (front ++ back) :=
  Leads.append first second

/-- A line of code is read from left to right: quiet texts are inserted between
fixed ones, wherever those have left brackets open. -/
theorem Leads.insert (leads : Leads before front (inside opened)) (quiet : Quiet text) :
    Leads before (front ++ text) (inside opened) :=
  leads.append (quiet.anywhere opened)

theorem Leads.fixed (leads : Leads before front between)
    (run : scan between characters = some after) :
    Leads before (front ++ String.ofList characters) after :=
  leads.append (leads_fixed run)

theorem quiet_join (quiet : ∀ text ∈ texts, Quiet text) : Quiet (String.join texts) := by
  induction texts with
  | nil => exact leads_empty
  | cons text rest ih =>
    rw [String.join_cons]
    exact (quiet text (by simp)).append (ih fun other member => quiet other (by simp [member]))

theorem quiet_intercalate (separator : Quiet between) (quiet : ∀ text ∈ texts, Quiet text) :
    Quiet (between.intercalate texts) := by
  induction texts with
  | nil => exact leads_empty
  | cons text rest ih =>
    have first := quiet text (by simp)
    by_cases last : rest = []
    · simpa [last] using first
    · rw [String.intercalate_cons_of_ne_nil last]
      exact (first.append separator).append (ih fun other member => quiet other (by simp [member]))

/-- A text of characters that mean nothing in code. -/
theorem quiet_of_plain (plain : ∀ c ∈ text.toList, isMark c = false) : Quiet text := by
  have run (characters : List Char) (plain : ∀ c ∈ characters, isMark c = false) :
      scan start characters = some start := by
    induction characters with
    | nil => rfl
    | cons c rest ih =>
      have stepped : step start c = some start := step_plain (plain c (by simp))
      rw [scan_cons, stepped]
      exact ih fun d member => plain d (by simp [member])
  exact run _ plain

end Botwright.SourceScan
