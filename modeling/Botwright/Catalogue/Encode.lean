import Botwright.Catalogue.Hierarchy
import Botwright.Json.Writer

/-!
Catalogues as JSON. A field without a sample has no member for it, and a null sample is read as
none.
-/
namespace Botwright

/-- The members of a field. -/
def Field.members (field : Field) : List (String × Json) :=
  [("path", .string field.path), ("type", .string field.type.name)] ++
    match field.sample with
    | some sample => [("sampleValue", sample)]
    | none => []

def Field.toJson (field : Field) : Json := .object field.members

/-- The field that a JSON object describes. -/
def Field.ofJson? (json : Json) : Option Field := do
  let .string path ← json.get? "path" | none
  let .string type ← json.get? "type" | none
  let type ← FieldType.ofName? type
  let sample := (json.get? "sampleValue").filter fun
    | .null => false
    | _ => true
  return ⟨path, type, sample⟩

/-- A catalogue as JSON. -/
def Catalogue.toJson (fields : List Field) : Json := .array (fields.map Field.toJson)

/-- The catalogue that a JSON array describes. -/
def Catalogue.ofJson? : Json → Option (List Field)
  | .array items => items.mapM Field.ofJson?
  | _ => none

/-- The members of a node before and after its children. -/
def FieldNode.members (field : Field) (children : List (String × Json)) : List (String × Json) :=
  [("path", .string field.path), ("name", .string (FieldPath.lastName field.path))] ++
    field.members.drop 1 ++ children ++ [("isLeaf", .bool field.type.isSelectable)]

mutual

/-- A node with its children as JSON. -/
def FieldNode.toJson : FieldNode → Json
  | .node field none => .object (FieldNode.members field [])
  | .node field (some children) =>
    .object (FieldNode.members field [("children", .array (FieldNode.forestToJson children))])

def FieldNode.forestToJson : List FieldNode → List Json
  | [] => []
  | n :: rest => n.toJson :: FieldNode.forestToJson rest

end

end Botwright
