/-!
The two languages that labels and replies come in.
-/
namespace Botwright

/-- The language of default labels and of the replies a bot gives by itself. -/
inductive Locale where
  | japanese
  | english
  deriving DecidableEq, Repr, Inhabited

end Botwright
