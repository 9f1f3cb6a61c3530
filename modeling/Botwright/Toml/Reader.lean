import Botwright.Toml.Basic
import Botwright.Toml.Scalar

/-!
Reading a TOML document: values, lines of keys and values, and headers.
-/
namespace Botwright.Toml

/-- What follows white space, comments and line ends inside an array. -/
def skipLines : Nat → List Char → List Char
  | 0, s => s
  | fuel + 1, s =>
    match skipSpace s with
    | '\n' :: rest => skipLines fuel rest
    | '\r' :: '\n' :: rest => skipLines fuel rest
    | '#' :: rest =>
      match lineEnd? (skipComment ('#' :: rest)) with
      | some after => skipLines fuel after
      | none => '#' :: rest
    | rest => rest

/-- What follows all white space, comments and line ends. -/
def skipGap (s : List Char) : List Char := skipLines (s.length + 1) s

/-! ## Values -/

mutual

/-- A value inside `depth` arrays and inline tables, and the text after it. Every step that spends
fuel takes a character. -/
def readValue : Nat → Nat → List Char → Option (Value × List Char)
  | 0, _, _ => none
  | fuel + 1, depth, s =>
    match s with
    | '[' :: rest =>
      if depthLimit ≤ depth + 1 then none
      else
        match skipGap rest with
        | ']' :: rest => some (.array [], rest)
        | rest => do
          let (items, rest) ← readItems fuel (depth + 1) rest
          return (.array items, rest)
    | '{' :: rest =>
      if depthLimit ≤ depth + 1 then none
      else
        match skipSpace rest with
        | '}' :: rest => some (.table .inline [], rest)
        | rest => do
          let (entries, rest) ← readEntries fuel (depth + 1) [] rest
          return (.table .inline entries, rest)
    | 't' :: 'r' :: 'u' :: 'e' :: rest => some (.bool true, rest)
    | 'f' :: 'a' :: 'l' :: 's' :: 'e' :: rest => some (.bool false, rest)
    | '"' :: _ | '\'' :: _ => do
      let (text, rest) ← readText? s
      return (.text (String.ofList text), rest)
    | s => (scalarEnd? s).map fun rest => (.scalar, rest)

/-- The items of an array up to its closing bracket. -/
def readItems : Nat → Nat → List Char → Option (List Value × List Char)
  | 0, _, _ => none
  | fuel + 1, depth, s => do
    let (item, rest) ← readValue fuel depth s
    match skipGap rest with
    | ']' :: rest => return ([item], rest)
    | ',' :: rest =>
      match skipGap rest with
      | ']' :: rest => return ([item], rest)
      | rest =>
        let (items, rest) ← readItems fuel depth rest
        return (item :: items, rest)
    | _ => none

/-- The entries of an inline table after those already read, up to its closing brace. -/
def readEntries : Nat → Nat → Entries → List Char → Option (Entries × List Char)
  | 0, _, _, _ => none
  | fuel + 1, depth, entries, s => do
    let (keys, rest) ← readKey? s
    let rest ← after? '=' rest
    let (value, rest) ← readValue fuel depth (skipSpace rest)
    let entries ← Entries.put (keys.getLast?.getD "") value keys.dropLast entries
    match skipSpace rest with
    | '}' :: rest => return (entries, rest)
    | ',' :: rest => readEntries fuel depth entries rest
    | _ => none

end

/-! ## Lines -/

/-- A document that is being read: its entries, and the header whose table is open. -/
structure State where
  entries : Entries
  header : List String

/-- Adds a key and its value to the table that is open. -/
def State.put (state : State) (keys : List String) (value : Value) : Option State := do
  let path := keys.dropLast
  let key := keys.getLast?.getD ""
  let entries ←
    if state.header = [] then Entries.put key value path state.entries
    else Entries.atHeader (putIn path key value) state.header state.entries
  return { state with entries }

/-- Opens the table at a header. -/
def State.openHeader (state : State) (header : List String) (change : Option Value → Option Value) :
    Option State := do
  return ⟨← Entries.atHeader change header state.entries, header⟩

/-- One line that is neither blank nor a comment, up to and with its end. -/
def readLine (state : State) (s : List Char) : Option (State × List Char) :=
  match s with
  | '[' :: '[' :: rest => do
    let (header, rest) ← readKey? rest
    let rest ← (after? ']' rest).bind (after? ']')
    return (← state.openHeader header openItem, ← restOfLine? rest)
  | '[' :: rest => do
    let (header, rest) ← readKey? rest
    let rest ← after? ']' rest
    return (← state.openHeader header openTable, ← restOfLine? rest)
  | s => do
    let (keys, rest) ← readKey? s
    let rest ← after? '=' rest
    let (value, rest) ← readValue (rest.length + 1) 0 (skipSpace rest)
    return (← state.put keys value, ← restOfLine? rest)

/-- The lines of a document from a state on. -/
def readLines : Nat → State → List Char → Option State
  | 0, _, _ => none
  | fuel + 1, state, s =>
    match skipSpace s with
    | [] => some state
    | '\n' :: rest => readLines fuel state rest
    | '\r' :: '\n' :: rest => readLines fuel state rest
    | '#' :: rest => do readLines fuel state (← restOfLine? ('#' :: rest))
    | rest => do
      let (state, rest) ← readLine state rest
      readLines fuel state rest

/-- The text without a byte order mark. -/
def dropMark : List Char → List Char
  | '\ufeff' :: rest => rest
  | s => s

/-- The entries of a TOML document. -/
def read? (text : String) : Option Entries :=
  let s := dropMark text.toList
  (readLines (s.length + 1) ⟨[], []⟩ s).map (·.entries)

end Botwright.Toml
