import Botwright.Script.Identifier
import Botwright.Script.Reserved

/-!
Allocation of locals in one scope. Every name that is handed out is new in the scope and not
reserved; a name that is taken is tried again with the numbers 2, 3, and so on behind it.
-/
namespace Botwright.Script

/-- The names in use in a scope. -/
structure Scope where
  used : List String
  deriving DecidableEq, Repr

namespace Scope

def empty : Scope := ⟨[]⟩

/-- Whether a name may still be handed out. -/
def isFree (scope : Scope) (name : String) : Bool :=
  !isReserved name && !scope.used.contains name

/-- A name with a number behind it. -/
def numbered (base : String) (n : Nat) : String := base ++ String.ofList (Text.decimal n)

/-- The first free name among `base` with a number from `n` on; `tries` bounds the search. -/
def firstFree (scope : Scope) (base : String) (n : Nat) : Nat → String
  | 0 => numbered base n
  | tries + 1 =>
    if scope.isFree (numbered base n) then numbered base n
    else firstFree scope base (n + 1) tries

/-- The name for `base`: its identifier if that is free, else the first free numbered one. Among
one more numbered name than there are names in use and reserved, one is free. -/
def choose (scope : Scope) (base : String) : String :=
  let name := sanitize base
  if scope.isFree name then name
  else firstFree scope name 2 (scope.used.length + reservedNames.length + 1)

/-- Takes a name without handing it out. -/
def reserve (scope : Scope) (name : String) : Scope := ⟨name :: scope.used⟩

/-- Hands out a name for `base`. -/
def allocate (scope : Scope) (base : String) : String × Scope :=
  (scope.choose base, scope.reserve (scope.choose base))

/-- A demand on a scope. -/
inductive Demand where
  | allocate (base : String)
  | reserve (name : String)
  deriving DecidableEq, Repr

/-- The name that a demand is answered with, if it asks for one, and the scope after it. -/
def meet (scope : Scope) : Demand → Option String × Scope
  | .allocate base => (some (scope.choose base), (scope.allocate base).2)
  | .reserve name => (none, scope.reserve name)

/-- The answers to demands that are made one after the other. -/
def meetAll (scope : Scope) : List Demand → List (Option String)
  | [] => []
  | demand :: rest => (scope.meet demand).1 :: (scope.meet demand).2.meetAll rest

end Scope

end Botwright.Script
