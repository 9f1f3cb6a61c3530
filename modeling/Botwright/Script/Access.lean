import Botwright.Script.Identifier
import Botwright.Script.Literal

/-!
Property access: a member of an object by name, and the member chain that reads the value at a
field path.
-/
namespace Botwright.Script

/-- The member of an object: after a dot if its name is an identifier, else in brackets. -/
def member (object key : String) : String :=
  if isIdentifier key then object ++ "." ++ key
  else object ++ "[" ++ stringLiteral key ++ "]"

/-- One step of a member chain. An optional step gives `undefined` where there is no object. -/
def accessStep (optional : Bool) : FieldPath.Segment → String
  | .key name =>
    if isIdentifier name then (if optional then "?." else ".") ++ name
    else (if optional then "?." else "") ++ "[" ++ stringLiteral name ++ "]"
  | .index position =>
    (if optional then "?." else "") ++ "[" ++ String.ofList (Text.decimal position) ++ "]"

/-- The member chain for a field path from `object` on. -/
def access (object path : String) (optional : Bool) : String :=
  object ++ String.join ((FieldPath.segments path).map (accessStep optional))

end Botwright.Script
