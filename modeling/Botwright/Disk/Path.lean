import Botwright.Text.Case
import Botwright.Text.Split

/-!
Paths as text, with slashes between their parts. Empty parts and single dots name nothing.

A path is followed from the current directory, and only inside it. A path from the root of the
file system leads elsewhere, to files that a `FileTree` does not hold.
-/
namespace Botwright.Disk

/-- Whether a part of a path names nothing. -/
def isVoid (part : List Char) : Bool := part = [] || part = ['.']

/-- The parts of a path. -/
def parts (path : String) : List (List Char) := Text.pieces (· = '/') path.toList

/-- Whether a part of a path leads out of the directory before it. -/
def leadsOut (part : List Char) : Bool := part = ['.', '.']

/-- The number of bytes that a name has at most. -/
def maxNameBytes : Nat := 255

/-- The number of bytes that a path has at most. -/
def maxPathBytes : Nat := 4095

/-- Whether a path may be followed from the current directory. One that begins with a slash
starts at the root of the file system and is barred, although a real disk would follow it. -/
def isUsable (path : String) : Bool :=
  path.toList.head? ≠ some '/' && !path.toList.contains '\x00' && path.utf8ByteSize ≤ maxPathBytes

/-- The parts without the empty ones at the end, which slashes there leave. -/
def dropSlashEnd (parts : List (List Char)) : List (List Char) :=
  (parts.reverse.dropWhile List.isEmpty).reverse

/-- A path inside a directory. -/
def join (directory path : String) : String :=
  if directory = "" then path
  else if directory.toList.getLast? = some '/' then directory ++ path
  else directory ++ "/" ++ path

/-- The parts without those at the end that name nothing. A single dot at the very start counts. -/
def dropVoidEnd (parts : List (List Char)) : List (List Char) :=
  match parts with
  | [] => []
  | first :: rest =>
    match (rest.reverse.dropWhile isVoid).reverse with
    | [] => if first = [] then [] else [first]
    | more => first :: more

/-- The text of parts. -/
def ofParts (parts : List (List Char)) : String := String.ofList (Text.join ['/'] parts)

/-- The path without its last name; one name alone has the empty path as its parent. -/
def parent? (path : String) : Option String :=
  match (dropVoidEnd (parts path)).reverse with
  | [] => none
  | _ :: before => some (ofParts (dropVoidEnd before.reverse))

/-- The paths of the directories around a path, from the innermost on. -/
def ancestors (path : String) : List String :=
  let whole := dropVoidEnd (parts path)
  let outer := (List.range (whole.length - 1)).map fun i => whole.take (i + 1)
  ((outer.filter fun part => dropVoidEnd part = part).map ofParts).reverse

/-- The last name of a path. -/
def lastName? (path : String) : Option (List Char) := (dropVoidEnd (parts path)).getLast?

/-- What stands before and after the last dot. -/
def cutLastDot? (name : List Char) : Option (List Char × List Char) :=
  let after := (name.reverse.takeWhile (· ≠ '.')).reverse
  if after.length = name.length then none
  else some (name.take (name.length - after.length - 1), after)

/-- The extension of a path in lower case: what follows the last dot of its last name, unless that
dot is the first character. -/
def extension? (path : String) : Option String := do
  let name ← lastName? path
  if name = ['.', '.'] then none
  let (stem, extension) ← cutLastDot? name
  if stem = [] then none else some (String.ofList (Text.lowerAscii extension))

example : extension? "a/bot.JSON" = some "json" := by decide
example : extension? ".json" = none := by decide
example : extension? "..json" = some "json" := by decide
example : parent? "a/b" = some "a" := by decide
example : parent? "./b" = some "." := by decide
example : parent? "b" = some "" := by decide
example : ancestors "./a//b/../c/." = ["./a//b/..", "./a//b", "./a", "."] := by decide

end Botwright.Disk
