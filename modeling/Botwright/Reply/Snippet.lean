import Botwright.Json.Writer
import Botwright.Reply.Messages
import Botwright.Script.Access
import Botwright.Script.Binding
import Botwright.Script.Code
import Botwright.Script.Template
import Botwright.Spec.Basic

/-!
Snippets: function bodies that turn an API response into a reply which shows the mapped fields.

A plain snippet is a preview. It fills the first `{value}` of each format and shows every mapping.
A guarded snippet is what a bot runs. It fills every `{value}` and every placeholder that names
another mapped path, and leaves out a mapping when a value it refers to is missing.
-/
namespace Botwright.Reply

open Script (Code Part Scope)

/-- How a snippet treats missing values. -/
inductive SnippetStyle where
  | plain
  | guarded
  deriving DecidableEq, Repr

namespace Snippet

/-! ## Locals -/

/-- A mapped path with the local that holds its value. -/
structure Declaration where
  path : String
  binding : String
  deriving DecidableEq, Repr

/-- The local of a path among declarations. -/
def bindingOf? (declarations : List Declaration) (path : String) : Option String :=
  (declarations.find? (·.path = path)).map (·.binding)

/-- Declarations for the mapped paths that have none yet, after those that are there. -/
def declareFrom (declared : List Declaration) (scope : Scope) : List Mapping → List Declaration
  | [] => declared
  | mapping :: rest =>
    if (bindingOf? declared mapping.path).isSome then declareFrom declared scope rest
    else
      let (binding, scope) := scope.allocate (Script.fieldName mapping.path)
      declareFrom (declared ++ [⟨mapping.path, binding⟩]) scope rest

/-- One declaration for every mapped path, in the order of first use. -/
def declarations (mappings : List Mapping) : List Declaration :=
  declareFrom [] Scope.empty mappings

/-- The line that reads a field into its local. -/
def declarationLine (style : SnippetStyle) (declaration : Declaration) : Code :=
  .line ("const " ++ declaration.binding ++ " = " ++
    Script.access "data" declaration.path (style = .guarded) ++ ";")

/-! ## Formats -/

/-- A mapping as the parts of a template, and the local of its own value. -/
structure Item where
  label : String
  binding : String
  parts : List Part

/-- A format whose first `{value}` is filled. -/
def plainParts (format binding : String) : List Part :=
  match Text.cut? Mapping.plainFormat.toList format.toList with
  | some (before, after) =>
    [.text before, .hole Mapping.plainFormat.toList binding, .text after]
  | none => [.text format.toList]

/-- The local that a brace group of a format refers to. -/
def fillFormat (declarations : List Declaration) (own : String) (inner : List Char) :
    Option String :=
  if inner = "value".toList then some own else bindingOf? declarations (String.ofList inner)

/-- A format whose brace groups are filled where they refer to a value. -/
def guardedParts (declarations : List Declaration) (format own : String) : List Part :=
  Part.split Script.braceGroup? (fillFormat declarations own) format.toList

/-- A mapping ready to be written. -/
def item (style : SnippetStyle) (declarations : List Declaration) (mapping : Mapping) : Item :=
  let binding := (bindingOf? declarations mapping.path).getD ""
  { label := mapping.label
    binding := binding
    parts :=
      match style with
      | .plain => plainParts mapping.effectiveFormat binding
      | .guarded => guardedParts declarations mapping.effectiveFormat binding }

/-- A label as a double-quoted literal. -/
def labelLiteral (label : String) : String := String.ofList (Json.quote label.toList)

/-! ## Guards -/

/-- The condition that no value an item refers to is missing. -/
def guard? (item : Item) : Option String :=
  match Part.expressions item.parts with
  | [] => none
  | bindings => some (" && ".intercalate (bindings.map fun binding => binding ++ " != null"))

/-- A statement that runs only if the values of an item are there. -/
def guardedStatement (item : Item) (statement : String) : Code :=
  match guard? item with
  | some condition => .line ("if (" ++ condition ++ ") " ++ statement)
  | none => .line statement

/-! ## Pieces of replies -/

/-- An item of a text reply as it stands between backticks: label and value. -/
def labelled (template : Template) (item : Item) : String :=
  let label := Script.templateText item.label
  match template with
  | .multiLine => "**" ++ label ++ "**: " ++ Part.templates item.parts
  | _ => label ++ ": " ++ Part.templates item.parts

/-- What stands between the items of a text reply, as it is written in a literal. -/
def separator : Template → String
  | .multiLine => "\\n"
  | _ => ", "

/-- A block that returns an object. -/
def returnBlock (body : List Code) : Code := .block "return \x7b" "\x7d;" body

/-- The start of an embed, up to its fields. -/
def embedHead : List Code := Code.lines ["title: \"API Response\",", "color: 0x5865F2,"]

/-- The end of an embed. -/
def embedTail : List Code := [.line "timestamp: new Date().toISOString()"]

/-- The return of the selected data as a JSON code block. -/
def jsonReturn : List Code :=
  [.blank,
   returnBlock
    [.line "content: \"```json\\n\" + JSON.stringify(selectedData, null, 2) + \"\\n```\""]]

/-- The items, each with whether another one follows. -/
def withFollowing : List Item → List (Item × Bool)
  | [] => []
  | [item] => [(item, false)]
  | item :: rest => (item, true) :: withFollowing rest

/-- A comma if another item follows. -/
def comma (follows : Bool) : String := if follows then "," else ""

/-! ## Replies -/

def plainText (template : Template) (items : List Item) : List Code :=
  [.blank,
   returnBlock
    [.line ("content: `" ++
      (separator template).intercalate (items.map (labelled template)) ++ "`")]]

def plainEmbed (items : List Item) : List Code :=
  let fields := (withFollowing items).map fun (item, follows) =>
    Code.block "\x7b" ("\x7d" ++ comma follows)
      (Code.lines
        ["name: " ++ labelLiteral item.label ++ ",",
         "value: `" ++ Part.templates item.parts ++ "`,",
         "inline: true"])
  [.blank,
   returnBlock
    [.block "embeds: [\x7b" "\x7d]"
      (embedHead ++ [.block "fields: [" "]," fields] ++ embedTail)]]

def plainJson (items : List Item) : List Code :=
  let entries := (withFollowing items).map fun (item, follows) =>
    Code.line (labelLiteral item.label ++ ": " ++ item.binding ++ comma follows)
  [.blank, .block "const selectedData = \x7b" "\x7d;" entries] ++ jsonReturn

def guardedText (template : Template) (noData : String) (items : List Item) : List Code :=
  [.blank, .line "const parts = [];"] ++
  items.map (fun item =>
    guardedStatement item ("parts.push(`" ++ labelled template item ++ "`);")) ++
  [.blank,
   returnBlock
    [.line ("content: parts.length > 0 ? parts.join('" ++ separator template ++ "') : " ++
      Script.stringLiteral noData)]]

def guardedEmbed (items : List Item) : List Code :=
  [.blank, .line "const fields = [];"] ++
  items.map (fun item =>
    guardedStatement item
      ("fields.push(\x7b name: " ++ labelLiteral item.label ++ ", value: `" ++
        Part.templates item.parts ++ "`, inline: true \x7d);")) ++
  [.blank,
   returnBlock
    [.block "embeds: [\x7b" "\x7d]" (embedHead ++ [.line "fields,"] ++ embedTail)]]

def guardedJson (items : List Item) : List Code :=
  [.blank, .line "const selectedData = \x7b\x7d;"] ++
  items.map (fun item =>
    Code.line ("if (" ++ item.binding ++ " != null) selectedData[" ++ labelLiteral item.label ++
      "] = " ++ item.binding ++ ";")) ++
  jsonReturn

/-- The part of a snippet after the locals. -/
def reply (style : SnippetStyle) (template : Template) (locale : Locale) (items : List Item) :
    List Code :=
  match style, template with
  | .plain, .embed => plainEmbed items
  | .plain, .jsonFormatted => plainJson items
  | .plain, template => plainText template items
  | .guarded, .embed => guardedEmbed items
  | .guarded, .jsonFormatted => guardedJson items
  | .guarded, template => guardedText template (Messages.of locale).noData items

/-! ## Whole snippets -/

/-- The line that reads the response. -/
def dataLine : String := "const data = await apiResponse.json();"

/-- The snippet for no mappings: the whole response as JSON. -/
def wholeResponse : List String :=
  ["// API応答を処理してDiscord応答を返す", dataLine, "return \x7b",
   "  content: JSON.stringify(data, null, 2)", "\x7d;"]

/-- The pieces of a snippet for mappings. -/
def code (style : SnippetStyle) (template : Template) (locale : Locale)
    (mappings : List Mapping) : List Code :=
  let declared := declarations mappings
  [.line dataLine] ++ declared.map (declarationLine style) ++
    reply style template locale (mappings.map (item style declared))

end Snippet

/-- The snippet for mappings. It does not end with a line end. -/
def snippet (style : SnippetStyle) (template : Template) (locale : Locale)
    (mappings : List Mapping) : String :=
  if mappings = [] then "\n".intercalate Snippet.wholeResponse
  else
    String.ofList
      (Text.trimEnd (Code.render 0 (Snippet.code style template locale mappings)).toList)

end Botwright.Reply
