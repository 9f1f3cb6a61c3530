import Botwright.Json.Value
import Botwright.Toml.Reader

/-!
What a specification is read from, whatever notation it is written in: a tree of texts, truth
values, lists and records.
-/
namespace Botwright

/-- A written value as far as a specification can use it. -/
inductive Source where
  /-- A value that was left empty on purpose. -/
  | absent
  | bool (value : Bool)
  | text (value : String)
  | list (items : List Source)
  | record (members : List (String × Source))
  /-- A value that no part of a specification takes: a number, a date, an ill-formed text. -/
  | other

namespace Source

/-- The members of a record under their names, unless some name is ill-formed. -/
def named : List (Option String × Source) → Source
  | members =>
    if members.all (·.1.isSome) then
      record (members.filterMap fun (key, value) => key.map fun k => (k, value))
    else other

mutual

/-- A JSON document as a source. -/
def ofJson : Json.Document → Source
  | .null => absent
  | .bool b => bool b
  | .number _ => other
  | .string units =>
    match Json.stringOf? units with
    | some s => text s
    | none => other
  | .array items => list (ofJsonItems items)
  | .object members => named (ofJsonMembers members)

def ofJsonItems : List Json.Document → List Source
  | [] => []
  | item :: rest => ofJson item :: ofJsonItems rest

def ofJsonMembers :
    List (List Json.StringUnit × Json.Document) → List (Option String × Source)
  | [] => []
  | (key, value) :: rest => (Json.stringOf? key, ofJson value) :: ofJsonMembers rest

end

mutual

/-- A TOML value as a source. -/
def ofToml : Toml.Value → Source
  | .text s => text s
  | .bool b => bool b
  | .scalar => other
  | .array items => list (ofTomlItems items)
  | .table _ entries => record (ofTomlEntries entries)
  | .tables items => list (ofTomlTables items)

def ofTomlItems : List Toml.Value → List Source
  | [] => []
  | item :: rest => ofToml item :: ofTomlItems rest

def ofTomlEntries : List (String × Toml.Value) → List (String × Source)
  | [] => []
  | (key, value) :: rest => (key, ofToml value) :: ofTomlEntries rest

def ofTomlTables : List (List (String × Toml.Value)) → List Source
  | [] => []
  | entries :: rest => record (ofTomlEntries entries) :: ofTomlTables rest

end

end Source

end Botwright
