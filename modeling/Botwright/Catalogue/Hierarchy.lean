import Botwright.Catalogue.Basic

/-!
The tree of a catalogue. A field lies in the field at its path without the last step, if the
catalogue has one there that is a container; every other field is a root. The catalogue may be any
list of fields, in any order, and each of them has one place in the tree.
-/
namespace Botwright

/-- A field with the fields that lie in it. Only containers have a list of children. -/
inductive FieldNode where
  | node (field : Field) (children : Option (List FieldNode))

namespace FieldNode

def field : FieldNode → Field
  | node field _ => field

def children : FieldNode → Option (List FieldNode)
  | node _ children => children

/-- The name under which a node is shown. -/
def name (n : FieldNode) : String := FieldPath.lastName n.field.path

mutual

/-- The number of fields in the tree under a node, the node included. -/
def size : FieldNode → Nat
  | node _ none => 1
  | node _ (some children) => 1 + forestSize children

def forestSize : List FieldNode → Nat
  | [] => 0
  | n :: rest => n.size + forestSize rest

end

mutual

/-- The fields under a node in preorder, its own first. -/
def flatten : FieldNode → List Field
  | node field none => [field]
  | node field (some children) => field :: flattenForest children

def flattenForest : List FieldNode → List Field
  | [] => []
  | n :: rest => n.flatten ++ flattenForest rest

end

end FieldNode

namespace Catalogue

/-- The place in the catalogue of the container that the field at place `i` lies in. -/
def parentIndex? (fields : List Field) (i : Nat) (field : Field) : Option Nat := do
  let path ← FieldPath.parent? field.path
  let parent ← fields.findIdx? (·.path = path)
  if parent ≠ i ∧ (fields[parent]?.any (·.type.isContainer)) then some parent else none

/-- The fields with their places and the places of their parents. -/
def placed (fields : List Field) : List (Nat × Field × Option Nat) :=
  fields.zipIdx.map fun (field, i) => (i, field, parentIndex? fields i field)

/-- The nodes under one parent, or the roots, with `levels` levels at most. A child's path is longer
than its parent's, so as many levels as the longest path has characters are enough. -/
def forest (entries : List (Nat × Field × Option Nat)) (parent : Option Nat) :
    Nat → List FieldNode
  | 0 => []
  | levels + 1 =>
    (entries.filter fun (_, _, p) => p = parent).map fun (i, field, _) =>
      .node field (if field.type.isContainer then some (forest entries (some i) levels) else none)

/-- The tree of a catalogue. Roots and children stand in the order of the catalogue. -/
def hierarchy (fields : List Field) : List FieldNode :=
  let longest := (fields.map (·.path.length)).foldl max 0
  forest (placed fields) none (longest + 1)

end Catalogue

end Botwright
