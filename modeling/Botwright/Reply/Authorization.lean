import Botwright.Script.Access
import Botwright.Spec.Basic

/-!
How a handler attaches the secret of a profile to its request. The secret itself is never written
into the project: the statement reads it from the environment.
-/
namespace Botwright.Reply

/-- A statement that attaches a secret, by what it acts on. -/
inductive Authorization where
  /-- Acts on the headers of the request. -/
  | header (statement : String)
  /-- Acts on the address of the request. -/
  | query (statement : String)
  deriving DecidableEq, Repr

/-- The header for a key when the profile names none. -/
def defaultHeader : String := "X-API-Key"

/-- The query parameter for a key when the profile names none. -/
def defaultQuery : String := "api_key"

/-- The statement that attaches the secret of a profile, if it has one. -/
def authorization? (profile : Profile) : Option Authorization :=
  let secret := Script.member "env" profile.keyVariable
  let name (fallback : String) := Script.stringLiteral (profile.apiKeyName?.getD fallback)
  match profile.auth with
  | .none => none
  | .keyHeader =>
    some (.header ("headers.set(" ++ name defaultHeader ++ ", " ++ secret ++ ");"))
  | .bearer =>
    some (.header ("headers.set('Authorization', `Bearer $\x7b" ++ secret ++ "\x7d`);"))
  | .keyQuery =>
    some (.query ("url.searchParams.set(" ++ name defaultQuery ++ ", " ++ secret ++ ");"))

end Botwright.Reply
