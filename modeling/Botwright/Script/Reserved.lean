/-!
Names that a generated local must not take: the words of the language, the globals that generated
code calls, and the names that the generated modules declare.
-/
namespace Botwright.Script

/-- Words that the language keeps for itself. -/
def languageWords : List String :=
  ["arguments", "await", "break", "case", "catch", "class", "const", "continue", "debugger",
   "default", "delete", "do", "else", "enum", "eval", "export", "extends", "false", "finally",
   "for", "function", "if", "implements", "import", "in", "Infinity", "instanceof", "interface",
   "let", "NaN", "new", "null", "package", "private", "protected", "public", "return", "static",
   "super", "switch", "this", "throw", "true", "try", "typeof", "undefined", "var", "void",
   "while", "with", "yield"]

/-- Globals that generated code calls. -/
def runtimeGlobals : List String :=
  ["Array", "Boolean", "Buffer", "Date", "Error", "Headers", "JSON", "Math", "Number", "Object",
   "Promise", "String", "URL", "console", "encodeURIComponent", "fetch", "globalThis", "process"]

/-- Names that the generated modules declare at the top. -/
def moduleNames : List String := ["MAX_CONTENT_LENGTH", "buildUrl", "dispatchCommand", "handlers"]

/-- Names of the locals and parameters that generated functions declare. -/
def localNames : List String :=
  ["apiResponse", "baseUrl", "data", "endpoint", "env", "error", "fields", "headers", "options",
   "parts", "selectedData", "url"]

/-- Every name that no allocated local may have. -/
def reservedNames : List String := languageWords ++ runtimeGlobals ++ moduleNames ++ localNames

def isReserved (name : String) : Bool := reservedNames.contains name

end Botwright.Script
