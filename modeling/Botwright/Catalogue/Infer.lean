import Botwright.Catalogue.Basic

/-!
Inference: the catalogue of a document in preorder. Of an array only the first item is looked at,
because the items of an array are taken to be alike.
-/
namespace Botwright.Catalogue

/-- The depth to which documents are inferred unless told otherwise. -/
def defaultDepth : Nat := 64

/-- The path under which a position is recorded; the empty path is the document's. -/
def recorded (path : String) : String := if path = "" then FieldPath.root else path

/-- The path of a member of the object at `path`. -/
def memberPath (path key : String) : String := if path = "" then key else path ++ "." ++ key

/-- The path of the first item of the array at `path`. -/
def itemPath (path : String) : String := path ++ "[0]"

mutual

/-- The fields from a value on, with `depth` more levels to descend. -/
def fieldsOf (depth : Nat) (path : String) : Json → List Field
  | .array (item :: rest) =>
    ⟨recorded path, .array, some (.array (item :: rest))⟩ ::
      if depth = 0 then [] else fieldsOf (depth - 1) (itemPath path) item
  | .object members =>
    ⟨recorded path, .object, some (.object members)⟩ ::
      if depth = 0 then [] else memberFields (depth - 1) path members
  | value => [⟨recorded path, .of value, some value⟩]

/-- The fields of the members of the object at `path`. -/
def memberFields (depth : Nat) (path : String) : List (String × Json) → List Field
  | [] => []
  | (key, value) :: rest =>
    fieldsOf depth (memberPath path key) value ++ memberFields depth path rest

end

/-- The catalogue of a document, to a depth of `maxDepth` steps. -/
def infer (maxDepth : Nat) (document : Json) : List Field := fieldsOf maxDepth "" document

/-- The catalogue of a document that is not there. -/
def inferAbsent : List Field := [⟨FieldPath.root, .undefined, none⟩]

end Botwright.Catalogue
