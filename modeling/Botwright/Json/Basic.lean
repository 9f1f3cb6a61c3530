import Botwright.Numeric.Layout
import Botwright.Numeric.Width

/-!
JSON values. Objects keep the order of their members; a number is an integer of 64 bits or a
binary64 number, and the two kinds are told apart.
-/
namespace Botwright

/-- A JSON number: an integer that fits into 64 bits, signed or unsigned, or a binary64 number. -/
inductive Json.Number where
  | integer (value : Int)
      (inRange : -(Numeric.signedLimit : Int) ≤ value ∧ value < Numeric.unsignedLimit)
  | real (value : Numeric.Binary64)
  deriving DecidableEq

/-- A JSON value. -/
inductive Json where
  | null
  | bool (value : Bool)
  | number (value : Json.Number)
  | string (value : String)
  | array (items : List Json)
  | object (members : List (String × Json))

namespace Json

/-- A natural number that fits into a signed word. -/
def ofNat (n : Nat) (inRange : n < Numeric.signedLimit := by decide) : Json :=
  .number (.integer n (by
    simp only [Numeric.signedLimit, Numeric.unsignedLimit] at *
    omega))

/-- The value under a key of an object. -/
def get? (key : String) : Json → Option Json
  | .object members => members.lookup key
  | _ => none

/-- The greatest number of arrays and objects around a value that a reader accepts. -/
def maxDepth : Nat := 127

end Json

end Botwright
