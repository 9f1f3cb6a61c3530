import Botwright.Reply.Handler

/-!
The module that answers commands: a handler for each, a table from names to handlers, and the
function that looks a command up and runs it. It is the same for both deployments.
-/
namespace Botwright.Project

open Script (Code)
open Reply (Style)

def commandModulePath : String := "src/commands.js"

/-- The greatest length of a message; a longer one is cut. -/
def maxContentLength : Nat := 2000

/-- The function that joins a base URL and an endpoint. -/
def buildUrl : Code :=
  .block "function buildUrl(baseUrl, endpoint) \x7b" "\x7d"
    [.line "const base = (baseUrl ?? '').replace(/\\/+$/, '');",
     .block "if (endpoint.startsWith('?') || endpoint.startsWith('#')) \x7b" "\x7d"
      [.line "return new URL(base + endpoint);"],
     .line "return new URL(base + '/' + endpoint.replace(/^\\/+/, ''));"]

/-- The comment at the top. -/
def heading (spec : Spec) : List Code :=
  [.line ("// Command handlers for " ++ Script.commentText spec.bot.name ++ "."),
   .line "// Generated by BotForge. Edit the bot specification and regenerate instead.",
   .blank]

/-- Whether any command calls an API. -/
def callsApi (spec : Spec) : Bool := spec.commands.any (·.source = .apiCall)

/-- The entry of a command in the table of handlers. -/
def tableEntry (command : Command) : Code :=
  .line (Script.stringLiteral command.name ++ ": " ++ Script.handlerName command.name ++ ",")

/-- The table from command names to handlers. -/
def handlerTable (spec : Spec) : Code :=
  .block "const handlers = \x7b" "\x7d;" (spec.commands.map tableEntry)

/-- The function that runs the handler of a command. -/
def dispatch (locale : Locale) : List Code :=
  [.line ("const MAX_CONTENT_LENGTH = " ++ String.ofList (Text.decimal maxContentLength) ++ ";"),
   .blank, .line "/** Runs the handler registered for `name`. */",
   .block "export async function dispatchCommand(name, options, env) \x7b" "\x7d"
    [.block "if (!Object.hasOwn(handlers, name)) \x7b" "\x7d"
      [Reply.returnContent (Script.stringLiteral (Reply.Messages.of locale).unknownCommand)],
     .line "const payload = await handlers[name](options ?? \x7b\x7d, env);",
     .block
      ("if (typeof payload?.content === 'string' && " ++
        "payload.content.length > MAX_CONTENT_LENGTH) \x7b")
      "\x7d"
      [.line "payload.content = payload.content.slice(0, MAX_CONTENT_LENGTH - 3) + '...';"],
     .line "return payload;"]]

/-- The pieces of the module. -/
def commandCode (style : Style) (spec : Spec) : List Code :=
  heading spec ++
  (if callsApi spec then [buildUrl, .blank] else []) ++
  spec.commands.flatMap (fun command => [Reply.handler style spec command, .blank]) ++
  [handlerTable spec, .blank] ++
  dispatch style.locale

/-- The text of the module. -/
def commandModule (style : Style) (spec : Spec) : String :=
  Code.render 0 (commandCode style spec)

end Botwright.Project
