import Botwright.Environment.Table
import Botwright.Project.Package

/-!
What a project tells its owner: the readme, and the setup instructions with the values of the
environment variables.
-/
namespace Botwright.Project

open Environment (Variable)

/-- The steps that put a project into operation. -/
def deploySteps : Deployment → List String
  | .interactions =>
    ["1. Deploy with `npm run deploy` (or import the repository in the Vercel dashboard).",
     "2. Add the environment variables above in the Vercel project settings and redeploy.",
     "3. In the Discord Developer Portal, set **Interactions Endpoint URL** to",
     "   `https://<your-deployment>/api/interactions`.",
     "4. Register the slash commands once:",
     "",
     "   ```bash",
     "   curl -X POST -H \"x-register-secret: $REGISTER_SECRET\" " ++
       "https://<your-deployment>/api/register",
     "   ```",
     "",
     "The bot is shown as offline in Discord. It still answers commands, because",
     "Discord delivers every interaction to the endpoint over HTTP."]
  | .gateway =>
    ["1. Copy `.env.example` to `.env` and fill in the values.",
     "2. Start the bot with `npm start`. Commands are registered automatically",
     "   when the bot connects.",
     "3. Keep the process running (a VPS, a container, or any always-on host)."]

/-- Texts as lines, each with its line end. -/
def linesText (lines : List String) : String := String.join (lines.map (· ++ "\n"))

/-- The list of variables without their values. -/
def variableList (environment : List Variable) : String :=
  linesText (environment.map fun v => "- `" ++ v.name ++ "`: " ++ v.description)

/-- The list of commands. -/
def commandList (spec : Spec) : String :=
  if spec.commands = [] then "_No commands defined._\n"
  else linesText (spec.commands.map fun c => "- `/" ++ c.name ++ "`: " ++ c.description)

/-- How the dependencies are installed. -/
def installBlock : List String := ["```bash", "npm install", "```"]

/-- The readme of a project. -/
def readme (spec : Spec) (deployment : Deployment) (environment : List Variable) : String :=
  linesText
    ["# " ++ spec.bot.name, "", description spec.bot, "", "Deployment: " ++ deployment.label, "",
     "## Commands", ""] ++
  commandList spec ++
  linesText
    (["", "## Setup", "", "Install dependencies:", ""] ++ installBlock ++
     ["", "### Environment variables", ""]) ++
  variableList environment ++
  linesText
    (["", "### Deploy", ""] ++ deploySteps deployment ++ ["", "---", "", "Generated by BotForge."])

/-- A variable with its value, followed by an empty line. -/
def variableEntry (v : Variable) : String :=
  linesText ["### " ++ v.name, v.description, "Value: `" ++ v.value ++ "`", ""]

/-- The setup instructions for a project. -/
def setupInstructions (deployment : Deployment) (environment : List Variable) : String :=
  linesText
    (["# Discord bot setup (" ++ deployment.label ++ ")", "", "## 1. Install dependencies", ""] ++
     installBlock ++ ["", "## 2. Configure environment variables", ""]) ++
  String.join (environment.map variableEntry) ++
  linesText (["## 3. Deploy", ""] ++ deploySteps deployment)

end Botwright.Project
