import Botwright.Reply.Options

/-!
Endpoints with placeholders. The handler replaces the placeholder of each option by its value; a
placeholder without an option stays in the address and is worth a warning.
-/
namespace Botwright.Reply

/-- The statement that puts an option's value into the endpoint. -/
def endpointReplacement (option : BoundOption) : String :=
  "endpoint = endpoint.replaceAll(" ++ Script.stringLiteral (placeholder option.name) ++
    ", encodeURIComponent(String(" ++ option.binding ++ " ?? '')));"

/-- The placeholder names of an endpoint in order. A group reaches from an opening brace to the next
closing one; a name that is empty or holds another opening brace does not count. -/
def endpointNames (s : List Char) : List (List Char) :=
  match s with
  | [] => []
  | c :: rest =>
    if c = '{' then
      let inner := rest.takeWhile (· ≠ '}')
      if inner.length = rest.length then []
      else
        let more := endpointNames (rest.drop (inner.length + 1))
        if inner = [] ∨ inner.contains '{' then more else inner :: more
    else endpointNames rest
termination_by s.length
decreasing_by all_goals simp only [List.length_cons, List.length_drop]; omega

/-- The placeholder names of an endpoint that no option of the command has. -/
def unresolvedNames (command : Command) (endpoint : String) : List String :=
  ((endpointNames endpoint.toList).map String.ofList).filter fun name =>
    !command.options.any (·.name = name)

end Botwright.Reply
