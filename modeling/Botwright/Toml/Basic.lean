/-!
TOML values, and the rules by which keys and headers add to a table. A table knows how it came
about, because that decides what may still be added to it.
-/
namespace Botwright.Toml

/-- How a table came about. -/
inductive TableKind where
  /-- By a header of its own. -/
  | headed
  /-- By the header of a table inside it. -/
  | implied
  /-- By a dotted key. -/
  | dotted
  /-- Within braces; nothing can be added later. -/
  | inline
  deriving DecidableEq, Repr

/-- A TOML value. Numbers and dates are all one here, since only their form matters. -/
inductive Value where
  | text (value : String)
  | bool (value : Bool)
  | scalar
  | array (items : List Value)
  | table (kind : TableKind) (entries : List (String × Value))
  /-- The tables under a double-bracketed header. -/
  | tables (items : List (List (String × Value)))

/-- The entries of a table. -/
abbrev Entries := List (String × Value)

/-- The entries after the value of one key has changed; `change` may refuse. -/
def Entries.alter (key : String) (change : Option Value → Option Value) :
    Entries → Option Entries
  | [] => (change none).map fun value => [(key, value)]
  | (k, v) :: rest =>
    if k = key then (change (some v)).map fun value => (k, value) :: rest
    else (Entries.alter key change rest).map ((k, v) :: ·)

/-- The tables of a double-bracketed header after the last of them has changed. -/
def alterLast (change : Entries → Option Entries) :
    List Entries → Option (List Entries)
  | [] => none
  | [last] => (change last).map fun entries => [entries]
  | item :: rest => (alterLast change rest).map (item :: ·)

/-- A value for a key that has none yet. -/
def setNew (value : Value) : Option Value → Option Value
  | none => some value
  | some _ => none

/-- Adds a value under a dotted key. Dots make tables, or go on in tables that dots have made; they
may pass through tables that headers imply, but not end in one. -/
def Entries.put (key : String) (value : Value) : List String → Entries → Option Entries
  | [], entries => entries.alter key (setNew value)
  | step :: rest, entries =>
    entries.alter step fun
      | none => (Entries.put key value rest []).map (.table .dotted)
      | some (.table .dotted sub) => (Entries.put key value rest sub).map (.table .dotted)
      | some (.table .implied sub) =>
        if rest = [] then none else (Entries.put key value rest sub).map (.table .implied)
      | some (.tables items) =>
        if rest = [] then none else (alterLast (Entries.put key value rest) items).map .tables
      | _ => none

/-- Changes the table at a header, and those on the way to it. A table that is not there is made
with what `change` makes of no table; a double-bracketed header stands for its last table. -/
def Entries.atHeader (change : Option Value → Option Value) :
    List String → Entries → Option Entries
  | [], _ => none
  | [key], entries => entries.alter key change
  | step :: rest, entries =>
    entries.alter step fun
      | none => (Entries.atHeader change rest []).map (.table .implied)
      | some (.table .inline _) => none
      | some (.table kind sub) => (Entries.atHeader change rest sub).map (.table kind)
      | some (.tables items) => (alterLast (Entries.atHeader change rest) items).map .tables
      | _ => none

/-- A header opens a table once; before that a header further in may have implied it. -/
def openTable : Option Value → Option Value
  | none => some (.table .headed [])
  | some (.table .implied sub) => some (.table .headed sub)
  | _ => none

/-- A double-bracketed header opens one more table. -/
def openItem : Option Value → Option Value
  | none => some (.tables [[]])
  | some (.tables items) => some (.tables (items ++ [[]]))
  | _ => none

/-- Adds a value under a dotted key to a table that is open. -/
def putIn (path : List String) (key : String) (value : Value) : Option Value → Option Value
  | some (.table .inline _) => none
  | some (.table kind sub) => (Entries.put key value path sub).map (.table kind)
  | some (.tables items) => (alterLast (Entries.put key value path) items).map .tables
  | _ => none

end Botwright.Toml
