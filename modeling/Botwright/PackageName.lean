/-!
Package names for bots: words of lower-case ASCII letters and digits joined by single dashes.
-/
namespace Botwright.PackageName

/-- The name of a bot whose own name has no usable character. -/
def fallback : String := "discord-bot"

/-- The greatest length of a package name. -/
def maxLength : Nat := 214

/-- A character that a package name may hold, in lower case. -/
def isUsable (c : Char) : Bool := c.isAlphanum

/-- The usable characters of a text in lower case, with one dash where others stand between two of
them. `begun` says that a usable one came before the text, `pending` that others came after the last
of these. -/
def squeeze (begun pending : Bool) : List Char → List Char
  | [] => []
  | c :: rest =>
    if isUsable c then
      (if pending && begun then ['-'] else []) ++ c.toLower :: squeeze true false rest
    else squeeze begun true rest

/-- A text without the dashes at its end. -/
def trimDashes (text : List Char) : List Char := (text.reverse.dropWhile (· = '-')).reverse

/-- The package name for a bot's name. -/
def ofName (name : String) : String :=
  let cut := trimDashes ((squeeze false false name.toList).take maxLength)
  if cut = [] then fallback else String.ofList cut

example : ofName "  My  Bot! " = "my-bot" := by decide
example : ofName "天気" = "discord-bot" := by decide

end Botwright.PackageName
