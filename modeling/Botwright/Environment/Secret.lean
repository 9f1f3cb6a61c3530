import Botwright.Text.Decimal

/-!
The secret that guards the registration of commands: 32 random bytes, written in hexadecimal.
-/
namespace Botwright.Environment

/-- A source of random bytes: the bytes that it will give, in order. -/
abbrev RandomBytes := Nat → UInt8

/-- The number of random bytes in a secret. -/
def secretBytes : Nat := 32

/-- A registration secret. It is shown only where it is written on purpose. -/
structure Secret where
  text : String
  deriving DecidableEq

/-- What stands for a secret where values are shown for inspection. -/
def Secret.shown (_ : Secret) : String := "RegistrationSecret(..)"

/-- The secret from the next random bytes, and the source after them. -/
def Secret.draw (random : RandomBytes) : Secret × RandomBytes :=
  (⟨String.ofList ((List.range secretBytes).flatMap fun i => Text.hex 2 (random i).toNat)⟩,
   fun i => random (secretBytes + i))

end Botwright.Environment
