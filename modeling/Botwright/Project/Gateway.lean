import Botwright.Project.Guide
import Botwright.Script.Literal

/-!
The entry point of a bot that keeps a connection to the gateway. It registers the commands when it
connects, and a failure while it answers one command does not end the process.
-/
namespace Botwright.Project

def gatewayEntryPath : String := "index.js"

/-- The text of the entry point; `failure` is the reply when a command fails. -/
def gatewayEntry (failure : String) : String :=
  linesText
    ["import 'dotenv/config';",
     "import \x7b Client, Events, GatewayIntentBits, REST, Routes \x7d from 'discord.js';",
     "import \x7b dispatchCommand \x7d from './src/commands.js';",
     "import \x7b commandDefinitions \x7d from './src/definitions.js';",
     "",
     "const token = process.env.DISCORD_BOT_TOKEN;",
     "const applicationId = process.env.DISCORD_APPLICATION_ID;",
     "",
     "if (!token || !applicationId) \x7b",
     "  console.error('DISCORD_BOT_TOKEN and DISCORD_APPLICATION_ID must be set.');",
     "  process.exit(1);",
     "\x7d",
     "",
     "const client = new Client(\x7b intents: [GatewayIntentBits.Guilds] \x7d);",
     "",
     "client.once(Events.ClientReady, async (readyClient) => \x7b",
     "  console.log(`Logged in as $\x7breadyClient.user.tag\x7d`);",
     "  try \x7b",
     "    const rest = new REST(\x7b version: '10' \x7d).setToken(token);",
     "    await rest.put(Routes.applicationCommands(applicationId), \x7b body: " ++
       "commandDefinitions \x7d);",
     "    console.log(`Registered $\x7bcommandDefinitions.length\x7d command(s).`);",
     "  \x7d catch (error) \x7b",
     "    console.error('Failed to register commands:', error);",
     "  \x7d",
     "\x7d);",
     "",
     "client.on(Events.InteractionCreate, async (interaction) => \x7b",
     "  if (!interaction.isChatInputCommand()) return;",
     "",
     "  // Any rejection here must stay inside the listener: an unhandled one",
     "  // terminates the process.",
     "  try \x7b",
     "    await interaction.deferReply();",
     "    const options = Object.fromEntries(",
     "      interaction.options.data.map((option) => [option.name, option.value]),",
     "    );",
     "    const payload = await dispatchCommand(interaction.commandName, options, process.env);",
     "    await interaction.editReply(payload);",
     "  \x7d catch (error) \x7b",
     "    console.error(`Error handling /$\x7binteraction.commandName\x7d:`, error);",
     "    await interaction.editReply(\x7b content: " ++
       Script.stringLiteral failure ++ " \x7d).catch(console.error);",
     "  \x7d",
     "\x7d);",
     "",
     "client.login(token).catch((error) => \x7b",
     "  console.error('Failed to log in:', error);",
     "  process.exit(1);",
     "\x7d);"]

end Botwright.Project
