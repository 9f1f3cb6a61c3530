import Botwright.Json.Writer
import Botwright.PackageName
import Botwright.Spec.Basic

/-!
The files that describe a project to its tools: the package manifest, the ignore list and, for the
endpoint, the host's settings.
-/
namespace Botwright.Project

/-- The description of a bot that has none. -/
def defaultDescription : String := "Discord bot generated by BotForge"

/-- The description of a bot without white space around it. -/
def description (bot : Bot) : String :=
  let trimmed := Text.trim bot.description.toList
  if trimmed = [] then defaultDescription else String.ofList trimmed

/-- An object whose members are texts. -/
def texts (members : List (String × String)) : Json :=
  .object (members.map fun (key, value) => (key, .string value))

/-- The members of a manifest that depend on the deployment. -/
def targetMembers : Deployment → List (String × Json)
  | .interactions =>
    [("scripts", texts [("dev", "vercel dev"), ("deploy", "vercel deploy --prod")]),
     ("dependencies", texts [("discord-interactions", "^4.1.0")])]
  | .gateway =>
    [("main", .string "index.js"), ("scripts", texts [("start", "node index.js")]),
     ("dependencies", texts [("discord.js", "^14.16.3"), ("dotenv", "^16.4.5")])]

/-- The package manifest as a value. -/
def manifest (spec : Spec) (deployment : Deployment) : Json :=
  .object
    ([("name", .string (PackageName.ofName spec.bot.name)), ("version", .string "1.0.0"),
      ("private", .bool true), ("description", .string (description spec.bot)),
      ("type", .string "module")] ++
     targetMembers deployment ++ [("engines", texts [("node", ">=18")])])

/-- The text of the package manifest. -/
def packageJson (spec : Spec) (deployment : Deployment) : String :=
  (manifest spec deployment).pretty ++ "\n"

/-- The settings of the serverless host. -/
def vercelJson : String :=
  "\n".intercalate
    ["\x7b", "  \"functions\": \x7b", "    \"api/*.js\": \x7b", "      \"maxDuration\": 10",
     "    \x7d", "  \x7d", "\x7d", ""]

/-- The files that version control leaves out. -/
def gitignore : Deployment → String
  | .interactions => "node_modules/\n.vercel/\n.env\n.env.local\n*.log\n"
  | .gateway => "node_modules/\n.env\n*.log\n"

end Botwright.Project
