import Botwright.Assoc
import Botwright.Proofs.SnippetReading

/-! What the statements of a text reply do. Running them reads members of the
response into locals, collects texts, and gives the content of the message that
is returned. A run stops where JavaScript would throw: at a name that is not
declared or declared twice, and where a value is not of the kind that is used. -/
namespace Botwright.SnippetRun
open Script Reply Reply.Snippet SnippetLocals LiteralReading TemplateReading StatementReading
  SnippetReading

/-! ## Values -/

/-- What the member of a response may be. -/
inductive Datum where
  | undefined
  | null
  | text (content : String)
  deriving DecidableEq, Repr

/-- The text of a value that is there. -/
def Datum.text? : Datum → Option String
  | text content => some content
  | _ => none

/-- How a template shows a value. -/
def Datum.shown : Datum → String
  | undefined => "undefined"
  | null => "null"
  | text content => content

/-- What a name stands for. -/
inductive Held where
  | response
  /-- The document of the response. -/
  | document
  | datum (value : Datum)
  | list (items : List String)
  deriving DecidableEq, Repr

structure State where
  locals : List (String × Held)
  /-- The members of the document that will be read, in order, with their values. -/
  reads : List (List Link × Datum)

namespace State

def datum? (state : State) (name : String) : Option Datum :=
  match state.locals.lookup name with
  | some (.datum value) => some value
  | _ => none

def list? (state : State) (name : String) : Option (List String) :=
  match state.locals.lookup name with
  | some (.list items) => some items
  | _ => none

def put (state : State) (name : String) (held : Held) : State :=
  { state with locals := Assoc.put name held state.locals }

end State

/-! ## Statements -/

/-- What a local is given, and the state after that was found out. -/
def give (state : State) : Source → Option (Held × State)
  | .json response =>
    if state.locals.lookup response = some .response then some (.document, state) else none
  | .emptyList => some (.list [], state)
  | .member object links =>
    match state.reads with
    | (next, value) :: later =>
      if state.locals.lookup object = some .document ∧ links = next then
        some (.datum value, { state with reads := later })
      else none
    | [] => none

/-- Whether all values that a guard needs are there. It looks no further than to the
first one that is not. -/
def passes (state : State) : List String → Option Bool
  | [] => some true
  | name :: rest => do
    let value ← state.datum? name
    if value.text?.isSome then passes state rest else some false

/-- One mark of a template as text. An expression is shown if it is a name. -/
def show? (state : State) : Mark → Option (List Char)
  | .char c => some [c]
  | .hole expression =>
    (state.datum? (String.ofList expression)).map fun value => value.shown.toList

/-- The texts that every item gives, one behind the other. -/
def concat? (text : α → Option (List Char)) : List α → Option (List Char)
  | [] => some []
  | item :: rest => do
    let front ← text item
    let back ← concat? text rest
    return front ++ back

def step (state : State) : Statement → Option State
  | .const name source => do
    let (held, state) ← give state source
    if state.locals.lookup name = none then some (state.put name held) else none
  | .push needed list text => do
    let shown ← passes state needed
    if shown then
      let content ← concat? (show? state) text
      let items ← state.list? list
      some (state.put list (.list (items ++ [String.ofList content])))
    else some state
  | .answer .. => none

/-- The content of the message that the statements return. -/
def run (state : State) : List Statement → Option String
  | [] => none
  | .answer list between fallback :: _ =>
    (state.list? list).map fun items =>
      if items = [] then String.ofList fallback else (String.ofList between).intercalate items
  | statement :: rest => (step state statement).bind fun next => run next rest

/-- Where a snippet begins: nothing is declared but the response. -/
def begin (reads : List (List Link × Datum)) : State := ⟨[("apiResponse", .response)], reads⟩

/-! ## Runs -/

theorem lookup_put (state : State) (name other : String) (held : Held) :
    (state.put name held).locals.lookup other =
      if other == name then some held else state.locals.lookup other :=
  Assoc.lookup_put name other held state.locals

theorem lookup_put_self (state : State) (name : String) (held : Held) :
    (state.put name held).locals.lookup name = some held := by
  simp [lookup_put]

theorem lookup_put_other (state : State) (held : Held) (other : name ≠ changed) :
    (state.put changed held).locals.lookup name = state.locals.lookup name := by
  simp [lookup_put, other]

theorem run_step (stepped : step state statement = some next) (rest : List Statement) :
    run state (statement :: rest) = run next rest := by
  cases statement with
  | answer => cases stepped
  | const | push => rw [run, stepped, Option.bind_some]; simp

/-- The read of a declaration: its links, with the value of its path. -/
def readOf (value : String → Datum) (declaration : Declaration) : List Link × Datum :=
  ((FieldPath.segments declaration.path).map fun step => (true, step), value declaration.path)

theorem step_declaration (document : state.locals.lookup "data" = some .document)
    (fresh : state.locals.lookup declaration.binding = none)
    (reads : state.reads = readOf value declaration :: later) :
    step state (declarationStatement declaration) =
      some (({ state with reads := later } : State).put declaration.binding
        (.datum (value declaration.path))) := by
  rw [readOf] at reads
  simp [step, declarationStatement, give, reads, document, fresh]

/-- Each local of a path holds the path's value. -/
def Knows (value : String → Datum) (declared : List Declaration) (state : State) : Prop :=
  ∀ declaration ∈ declared,
    state.locals.lookup declaration.binding = some (.datum (value declaration.path))

/-- A state in which the next reads are those of declarations, and none of their locals is
known yet. -/
structure Awaits (value : String → Datum) (declared : List Declaration)
    (later : List (List Link × Datum)) (state : State) : Prop where
  document : state.locals.lookup "data" = some .document
  fresh : ∀ declaration ∈ declared, state.locals.lookup declaration.binding = none
  reads : state.reads = declared.map (readOf value) ++ later

/-- The first of some declarations gives its path's value to its local and changes no
other name. -/
theorem awaits_step (awaits : Awaits value (first :: more) later state)
    (unique : first.binding ∉ more.map (·.binding)) :
    ∃ next, step state (declarationStatement first) = some next ∧ Awaits value more later next ∧
      next.locals.lookup first.binding = some (.datum (value first.path)) ∧
      ∀ name ≠ first.binding, next.locals.lookup name = state.locals.lookup name := by
  -- The response is known under its name already, and the local is not known yet.
  have notData : "data" ≠ first.binding := by
    intro same
    have undeclared := awaits.fresh first List.mem_cons_self
    rw [← same, awaits.document] at undeclared
    cases undeclared
  refine ⟨_, step_declaration awaits.document (awaits.fresh first List.mem_cons_self) awaits.reads,
    ⟨(lookup_put_other _ _ notData).trans awaits.document, ?_, rfl⟩, lookup_put_self _ _ _,
    fun name other => lookup_put_other _ _ other⟩
  intro declaration member
  have other : declaration.binding ≠ first.binding := fun same =>
    unique (List.mem_map.mpr ⟨declaration, member, same⟩)
  rw [lookup_put_other _ _ other]
  exact awaits.fresh declaration (List.mem_cons_of_mem _ member)

/-- Declarations give each path's value to its local and change no other name. -/
theorem run_declarations (distinct : (declared.map (·.binding)).Nodup)
    (awaits : Awaits value declared later state) (rest : List Statement) :
    ∃ after, run state (declared.map declarationStatement ++ rest) = run after rest ∧
      Knows value declared after ∧
      ∀ name ∉ declared.map (·.binding), after.locals.lookup name = state.locals.lookup name := by
  induction declared generalizing state with
  | nil => exact ⟨state, rfl, by simp [Knows], fun _ _ => rfl⟩
  | cons first more ih =>
    obtain ⟨unique, distinct⟩ := List.nodup_cons.mp distinct
    obtain ⟨next, stepped, awaits, held, same⟩ := awaits_step awaits unique
    obtain ⟨after, ran, knows, kept⟩ := ih distinct awaits
    refine ⟨after, ?_, ?_, ?_⟩
    · rw [List.map_cons, List.cons_append, run_step stepped, ran]
    · intro declaration member
      rcases List.mem_cons.mp member with rfl | later
      · exact (kept _ unique).trans held
      · exact knows declaration later
    · intro name outside
      rw [List.map_cons, List.mem_cons, not_or] at outside
      exact (kept name outside.2).trans (same name outside.1)

/-- The state with one more text in the list of a text reply, if there is one. -/
def add (state : State) (items : List String) : Option String → State
  | some line => state.put "parts" (.list (items ++ [line]))
  | none => state

theorem knows_add (knows : Knows value declared state)
    (apart : ∀ declaration ∈ declared, declaration.binding ≠ "parts") (items : List String)
    (line : Option String) : Knows value declared (add state items line) := by
  intro declaration member
  cases line with
  | none => exact knows declaration member
  | some line =>
    rw [add, lookup_put_other _ _ (apart declaration member)]
    exact knows declaration member

theorem list_add (held : state.list? "parts" = some items) (line : Option String) :
    (add state items line).list? "parts" = some (items ++ line.toList) := by
  cases line with
  | none => simpa [add] using held
  | some line => simp [add, State.list?, lookup_put_self]

/-- Statements that each add their line, or nothing, add their lines in order. -/
theorem run_lines {entries : List α} {statement : α → Statement} {line? : α → Option String}
    (apart : ∀ declaration ∈ declared, declaration.binding ≠ "parts")
    (adds : ∀ entry ∈ entries, ∀ state items, Knows value declared state →
      state.list? "parts" = some items →
        step state (statement entry) = some (add state items (line? entry)))
    (knows : Knows value declared state) (held : state.list? "parts" = some items)
    (rest : List Statement) :
    ∃ after, run state (entries.map statement ++ rest) = run after rest ∧
      after.list? "parts" = some (items ++ entries.filterMap line?) := by
  induction entries generalizing state items with
  | nil => exact ⟨state, rfl, by simpa using held⟩
  | cons entry more ih =>
    have stepped := adds entry List.mem_cons_self state items knows held
    obtain ⟨after, ran, list⟩ := ih (fun other member => adds other (List.mem_cons_of_mem _ member))
      (knows_add knows apart items (line? entry)) (list_add held (line? entry))
    refine ⟨after, ?_, ?_⟩
    · rw [List.map_cons, List.cons_append, run_step stepped, ran]
    · rw [list, List.append_assoc]
      cases line : line? entry <;> simp [line]

end Botwright.SnippetRun
