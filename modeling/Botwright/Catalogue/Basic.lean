import Botwright.FieldPath

/-!
The catalogue of a sample response: one field for every value that can be addressed in it, in the
order of the document.
-/
namespace Botwright

/-- The type of a value in a sample; `undefined` is the type of a sample that is not there. -/
inductive FieldType where
  | string
  | number
  | boolean
  | null
  | undefined
  | object
  | array
  deriving DecidableEq, Repr

/-- One addressable value of a sample. -/
structure Field where
  path : String
  type : FieldType
  sample : Option Json

namespace FieldType

def name : FieldType → String
  | string => "string"
  | number => "number"
  | boolean => "boolean"
  | null => "null"
  | undefined => "undefined"
  | object => "object"
  | array => "array"

def all : List FieldType := [string, number, boolean, null, undefined, object, array]

def ofName? (name : String) : Option FieldType := all.find? (·.name = name)

/-- The type of a value. -/
def of : Json → FieldType
  | .null => null
  | .bool _ => boolean
  | .number _ => number
  | .string _ => string
  | .array _ => array
  | .object _ => object

/-- A leaf that a user may choose. -/
def isSelectable (type : FieldType) : Bool :=
  type = string || type = number || type = boolean || type = null

/-- A leaf with content worth showing without being asked. -/
def isFormattable (type : FieldType) : Bool := type = string || type = number || type = boolean

/-- A field that other fields may lie in. -/
def isContainer (type : FieldType) : Bool := type = object || type = array

theorem ofName?_name (type : FieldType) : ofName? type.name = some type := by
  cases type <;> decide

end FieldType

/-- The fields that a user may choose. -/
def selectable (fields : List Field) : List Field := fields.filter (·.type.isSelectable)

end Botwright
