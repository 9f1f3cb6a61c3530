import Botwright.Reply.Authorization
import Botwright.Reply.Endpoint
import Botwright.Reply.Snippet
import Botwright.Reply.StaticText

/-!
Handlers: the function that answers one command. A command with a static text returns it, one that
calls an API fetches and shapes the response, and one whose API profile is missing says so.
-/
namespace Botwright.Reply

open Script (Code)

/-- What applies where a command does not choose for itself. -/
structure Style where
  /-- The template of commands that name none. -/
  template : Template
  locale : Locale
  deriving DecidableEq, Repr, Inhabited

/-- The line that opens a handler. -/
def handlerOpening (name : String) : String :=
  "async function " ++ name ++ "(options, env) \x7b"

/-- A statement that returns a message with the given content. -/
def returnContent (expression : String) : Code :=
  .line ("return \x7b content: " ++ expression ++ " \x7d;")

/-- The text of a static reply; a command without one says hello. -/
def staticReply (command : Command) : String :=
  command.staticText?.getD ("Hello from " ++ command.name)

/-- Whether a text holds the placeholder of an option. -/
def mentions (text : String) (option : BoundOption) : Bool :=
  Text.contains (placeholder option.name).toList text.toList

/-- The handler of a command with a static text. It reads only the options that the text
mentions. -/
def staticHandler (name : String) (command : Command) : Code :=
  let text := staticReply command
  let options := (boundOptions command).filter (mentions text)
  .block (handlerOpening name) "\x7d"
    (options.map optionRead ++ [returnContent (staticExpression text options)])

/-- The handler of a command whose profile is missing. -/
def unconfiguredHandler (name : String) (message : String) : Code :=
  .block (handlerOpening name) "\x7d" [returnContent (Script.stringLiteral message)]

/-- The expression for the base URL: the variable if it is set, else the profile's own. -/
def baseUrlExpression (profile : Profile) : String :=
  match profile.urlVariable? with
  | some name =>
    Script.member "env" name ++ " ?? " ++ Script.stringLiteral profile.baseUrl
  | none => Script.stringLiteral profile.baseUrl

/-- The treatment of the response: the user's own code, a guarded snippet, or all of it. -/
def responseBody (style : Style) (command : Command) : Code :=
  match command.snippet? with
  | some code => .raw code
  | none =>
    .line
      (snippet .guarded (command.template.getD style.template) style.locale command.mappingList)

/-- The request up to the response. -/
def requestLines (command : Command) (profile : Profile) (options : List BoundOption) :
    List Code :=
  let authorization := authorization? profile
  [.line ("let endpoint = " ++ Script.stringLiteral (command.endpoint?.getD "") ++ ";")] ++
  options.map (fun option => .line (endpointReplacement option)) ++
  [.line ("const url = buildUrl(" ++ baseUrlExpression profile ++ ", endpoint);")] ++
  (match authorization with
    | some (.query statement) => [.line statement]
    | _ => []) ++
  [.blank, .line "const headers = new Headers();",
   .line "headers.set('Content-Type', 'application/json');"] ++
  (match authorization with
    | some (.header statement) => [.line statement]
    | _ => []) ++
  [.blank, .line "const apiResponse = await fetch(url, \x7b method: 'GET', headers \x7d);",
   .block "if (!apiResponse.ok) \x7b" "\x7d"
    [.line "throw new Error(`API request failed: $\x7bapiResponse.status\x7d`);"]]

/-- The handler of a command that calls an API. -/
def apiHandler (style : Style) (name : String) (command : Command) (profile : Profile) : Code :=
  let options := boundOptions command
  let response := Code.block "return await (async () => \x7b" "\x7d)();"
    [responseBody style command]
  let failure := Code.indented
    [.line ("console.error(" ++ Script.stringLiteral ("Error in " ++ name ++ ":") ++ ", error);"),
     returnContent (Script.stringLiteral (Messages.of style.locale).requestFailed)]
  .block (handlerOpening name) "\x7d"
    (options.map optionRead ++
     [.block "try \x7b" "\x7d catch (error) \x7b"
        (requestLines command profile options ++ [.blank, response]),
      failure, .line "\x7d"])

/-- The handler of a command. -/
def handler (style : Style) (spec : Spec) (command : Command) : Code :=
  let name := Script.handlerName command.name
  match command.source with
  | .staticText => staticHandler name command
  | .apiCall =>
    match spec.profileOf? command with
    | some profile => apiHandler style name command profile
    | none => unconfiguredHandler name (Messages.of style.locale).notConfigured

end Botwright.Reply
