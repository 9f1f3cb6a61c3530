import Botwright.Environment.Naming

/-!
Editing sessions: profiles come and go while one allocator hands out their variable names. The
allocator may at any time be replaced by one that goes on from the profiles that are there.
-/
namespace Botwright.Environment

/-- A step of an editing session. -/
inductive Edit where
  /-- Takes names that no profile is made for. -/
  | allocate
  /-- Goes on with an allocator made from the profiles. -/
  | resume
  /-- Adds a profile with fresh names. -/
  | add (id : String)
  /-- Removes every profile with an id. -/
  | remove (id : String)
  deriving DecidableEq, Repr

/-- The state between two steps. -/
structure Session where
  allocator : Allocator
  profiles : List Profile
  deriving DecidableEq, Repr

/-- A profile that has only its id and its names so far. -/
def newProfile (id : String) (names : ProfileVariables) : Profile where
  id := id
  name := ""
  baseUrl := ""
  auth := .none
  apiKey := none
  apiKeyName := none
  keyVariable := names.key
  urlVariable := names.url

namespace Session

/-- A session that begins with some profiles and a new allocator. -/
def start (profiles : List Profile) : Session := ⟨Allocator.initial, profiles⟩

/-- The names that a step hands out, if it does, and the state after it. -/
def step (session : Session) : Edit → Option ProfileVariables × Session
  | .allocate =>
    let (names, allocator) := session.allocator.allocate
    (some names, { session with allocator })
  | .resume => (none, { session with allocator := Allocator.resume session.profiles })
  | .add id =>
    let (names, allocator) := session.allocator.allocate
    (some names, ⟨allocator, session.profiles ++ [newProfile id names]⟩)
  | .remove id => (none, { session with profiles := session.profiles.filter (·.id ≠ id) })

/-- The state after some steps. -/
def after (session : Session) (edits : List Edit) : Session :=
  edits.foldl (fun s edit => (s.step edit).2) session

end Session

end Botwright.Environment
