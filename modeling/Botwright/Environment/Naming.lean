import Botwright.Spec.Basic
import Botwright.Text.Decimal
import Botwright.Text.Split

/-!
Names of environment variables for profiles. A profile gets its names when it is made and keeps
them; the allocator counts upwards and never goes back to a number that some profile has used.
-/
namespace Botwright.Environment

def keyStem : String := "BOT_API_KEY"

def urlStem : String := "BOT_BASE_URL"

/-- The name with a number of at least two digits behind it. -/
def numberedName (stem : String) (number : Nat) : String :=
  stem ++ "_" ++ String.ofList (Text.padLeft 2 '0' (Text.decimal number))

/-- The number behind a name, if it is the stem with a number. -/
def numberOf? (stem name : String) : Option Nat := do
  let rest ← Text.dropStart? stem.toList name.toList
  let digits ← Text.dropStart? ['_'] rest
  Text.readUnsigned? digits

/-- The variable names of one profile. -/
structure ProfileVariables where
  key : String
  url : String
  deriving DecidableEq, Repr

/-- The number that the next profile gets. -/
structure Allocator where
  next : Nat
  deriving DecidableEq, Repr

namespace Allocator

/-- The allocator for a bot without profiles. -/
def initial : Allocator := ⟨1⟩

/-- The numbers that a profile has used. -/
def usedNumbers (profile : Profile) : List Nat :=
  (numberOf? keyStem profile.keyVariable).toList ++
    (numberOf? urlStem profile.urlVariable).toList

/-- The allocator that goes on after the highest number any profile has used. -/
def resume (profiles : List Profile) : Allocator :=
  ⟨(profiles.flatMap usedNumbers).foldl max 0 + 1⟩

/-- Names for one profile. -/
def allocate (allocator : Allocator) : ProfileVariables × Allocator :=
  (⟨numberedName keyStem allocator.next, numberedName urlStem allocator.next⟩,
   ⟨allocator.next + 1⟩)

end Allocator

end Botwright.Environment
