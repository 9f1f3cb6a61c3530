import Botwright.Environment.Naming
import Botwright.Spec.Basic

/-!
Starter specifications.
-/
namespace Botwright

/-- A starter bot. -/
structure Preset where
  id : String
  name : String
  description : String
  profiles : List Profile
  commands : List Command

namespace Preset

/-- A command without options. -/
def command (name description : String) (source : ReplySource) : Command where
  id := name
  name := name
  description := description
  options := []
  source := source
  staticText := none
  profileId := none
  endpoint := none
  snippet := none
  mappings := none
  template := none

/-- A command that answers with a text. -/
def textCommand (name description text : String) : Command :=
  { command name description .staticText with staticText := some text }

/-- A command that calls the API of a profile. -/
def apiCommand (name description : String) (profile : Profile) (endpoint : String)
    (mappings : List Mapping) : Command :=
  { command name description .apiCall with
    profileId := some profile.id
    endpoint := some endpoint
    mappings := some mappings }

/-- A text option that must be given. -/
def textOption (name description : String) : CommandOption := ⟨name, description, .string, true⟩

/-- The first profile of a bot, for an API that needs no secret. -/
def openProfile (id name baseUrl : String) : Profile :=
  let names := Environment.Allocator.initial.allocate.1
  { id := id
    name := name
    baseUrl := baseUrl
    auth := .none
    apiKey := none
    apiKeyName := none
    keyVariable := names.key
    urlVariable := names.url }

def greeting : Preset where
  id := "simple-greeting"
  name := "Greeting Bot"
  description := "Replies to greetings"
  profiles := []
  commands :=
    [{ textCommand "hello" "Say hello" "Hello, \x7bname\x7d! 👋" with
        options := [textOption "name" "Who to greet"] },
     textCommand "ping" "Check that the bot is alive" "Pong! 🏓"]

def games : Preset where
  id := "fun-games"
  name := "Game Bot"
  description := "Dice, coin flips and fortunes"
  profiles := []
  commands :=
    [textCommand "dice" "Roll a six-sided die" "🎲 You rolled \x7brandom(1,6)\x7d",
     textCommand "coin" "Flip a coin" "🪙 \x7brandom(\"Heads\", \"Tails\")\x7d",
     textCommand "fortune" "Draw today's fortune"
      ("🔮 Today's fortune: \x7brandom(\"Great blessing\", \"Blessing\", " ++
        "\"Small blessing\", \"Curse\")\x7d")]

def dogProfile : Profile := openProfile "dog-ceo" "Dog CEO" "https://dog.ceo/api"

def dogs : Preset where
  id := "dog-images"
  name := "Dog Bot"
  description := "Random dog pictures from dog.ceo"
  profiles := [dogProfile]
  commands :=
    let image : List Mapping := [⟨"message", "Image", Mapping.plainFormat⟩]
    [apiCommand "dog" "Show a random dog" dogProfile "/breeds/image/random" image,
     { apiCommand "breed" "Show a dog of a given breed" dogProfile
        "/breed/\x7bbreed\x7d/images/random" image with
        options := [textOption "breed" "Breed, for example shiba"] }]

def jokeProfile : Profile :=
  openProfile "joke-api" "Official Joke API" "https://official-joke-api.appspot.com"

def jokes : Preset where
  id := "joke-bot"
  name := "Joke Bot"
  description := "Tells a random joke"
  profiles := [jokeProfile]
  commands :=
    [{ apiCommand "joke" "Tell a random joke" jokeProfile "/random_joke"
        [⟨"setup", "Setup", Mapping.plainFormat⟩,
         ⟨"punchline", "Punchline", "||" ++ Mapping.plainFormat ++ "||"⟩] with
        template := some .multiLine }]

def all : List Preset := [greeting, games, dogs, jokes]

def ofId? (id : String) : Option Preset := all.find? (·.id = id)

/-- The preset as a specification for a deployment. -/
def spec (preset : Preset) (deployment : Deployment) : Spec where
  bot :=
    { name := preset.name
      description := preset.description
      applicationId := none
      publicKey := none
      token := none
      deployment := deployment }
  profiles := preset.profiles
  commands := preset.commands

end Preset

end Botwright
