import Botwright.Project.Guide
import Botwright.Script.Literal

/-!
The routes of a bot that is called over HTTP: one answers interactions whose signature is valid, the
other registers the commands for a caller who knows the secret.
-/
namespace Botwright.Project

def interactionRoutePath : String := "api/interactions.js"

def registerRoutePath : String := "api/register.js"

/-- The text of the route for interactions; `failure` is the reply when a command fails. -/
def interactionRoute (failure : String) : String :=
  linesText
    ["import \x7b InteractionResponseType, InteractionType, verifyKey \x7d from " ++
       "'discord-interactions';",
     "import \x7b dispatchCommand \x7d from '../src/commands.js';",
     "",
     "// The signature is computed over the exact request bytes.",
     "export const config = \x7b api: \x7b bodyParser: false \x7d \x7d;",
     "",
     "async function readRawBody(req) \x7b",
     "  const chunks = [];",
     "  for await (const chunk of req) \x7b",
     "    chunks.push(typeof chunk === 'string' ? Buffer.from(chunk) : chunk);",
     "  \x7d",
     "  return Buffer.concat(chunks).toString('utf8');",
     "\x7d",
     "",
     "function collectOptions(interaction) \x7b",
     "  return Object.fromEntries(",
     "    (interaction.data?.options ?? []).map((option) => [option.name, option.value]),",
     "  );",
     "\x7d",
     "",
     "export default async function handler(req, res) \x7b",
     "  if (req.method !== 'POST') \x7b",
     "    res.status(405).json(\x7b error: 'Method not allowed' \x7d);",
     "    return;",
     "  \x7d",
     "",
     "  const signature = req.headers['x-signature-ed25519'];",
     "  const timestamp = req.headers['x-signature-timestamp'];",
     "  const rawBody = await readRawBody(req);",
     "",
     "  const valid =",
     "    signature &&",
     "    timestamp &&",
     "    (await verifyKey(rawBody, signature, timestamp, process.env.DISCORD_PUBLIC_KEY));",
     "  if (!valid) \x7b",
     "    res.status(401).send('Invalid request signature');",
     "    return;",
     "  \x7d",
     "",
     "  const interaction = JSON.parse(rawBody);",
     "",
     "  if (interaction.type === InteractionType.PING) \x7b",
     "    res.status(200).json(\x7b type: InteractionResponseType.PONG \x7d);",
     "    return;",
     "  \x7d",
     "",
     "  if (interaction.type === InteractionType.APPLICATION_COMMAND) \x7b",
     "    let data;",
     "    try \x7b",
     "      data = await dispatchCommand(interaction.data.name, " ++
       "collectOptions(interaction), process.env);",
     "    \x7d catch (error) \x7b",
     "      console.error(`Error handling /$\x7binteraction.data.name\x7d:`, error);",
     "      data = \x7b content: " ++ Script.stringLiteral failure ++ " \x7d;",
     "    \x7d",
     "    res.status(200).json(\x7b",
     "      type: InteractionResponseType.CHANNEL_MESSAGE_WITH_SOURCE,",
     "      data,",
     "    \x7d);",
     "    return;",
     "  \x7d",
     "",
     "  res.status(400).json(\x7b error: 'Unknown interaction type' \x7d);",
     "\x7d"]

/-- The text of the route that registers the commands. -/
def registerRoute : String :=
  linesText
    ["import \x7b commandDefinitions \x7d from '../src/definitions.js';",
     "",
     "// Registers the slash commands. Call once after each deployment that",
     "// changes commands, passing REGISTER_SECRET as the x-register-secret",
     "// header or the ?secret= query parameter.",
     "export default async function handler(req, res) \x7b",
     "  const expected = process.env.REGISTER_SECRET;",
     "  const provided = req.headers['x-register-secret'] ?? req.query?.secret;",
     "  if (!expected || provided !== expected) \x7b",
     "    res.status(401).json(\x7b error: 'Unauthorized' \x7d);",
     "    return;",
     "  \x7d",
     "",
     "  const response = await fetch(",
     "    " ++
       "`https://discord.com/api/v10/applications/" ++
       "$\x7bprocess.env.DISCORD_APPLICATION_ID\x7d/commands`,",
     "    \x7b",
     "      method: 'PUT',",
     "      headers: \x7b",
     "        'Content-Type': 'application/json',",
     "        Authorization: `Bot $\x7bprocess.env.DISCORD_BOT_TOKEN\x7d`,",
     "      \x7d,",
     "      body: JSON.stringify(commandDefinitions),",
     "    \x7d,",
     "  );",
     "",
     "  if (!response.ok) \x7b",
     "    const detail = await response.text();",
     "    console.error('Failed to register commands:', detail);",
     "    res.status(502).json(\x7b error: 'Failed to register commands', detail \x7d);",
     "    return;",
     "  \x7d",
     "",
     "  const registered = await response.json();",
     "  res.status(200).json(\x7b registered: registered.length \x7d);",
     "\x7d"]

end Botwright.Project
