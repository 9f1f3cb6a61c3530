import Botwright.Assoc
import Botwright.Disk.Basic

/-!
Trees of files as values. A place is the list of names that leads to it from the top. A path is
followed part by part, and every part but the last must lead to a directory that is there.

A tree is the one below the current directory, which is its top. Nothing is known of the files
outside, so what leads there is barred: an absolute path, and two dots at the top. On a real disk
such a path may well be written to.
-/
namespace Botwright

/-- What is at a place. -/
inductive FileTree.Entry where
  | directory
  | file (content : ByteArray)

/-- The places of a tree with what is there. The top is the current directory and always there. -/
structure FileTree where
  entries : List (List String × FileTree.Entry)

namespace FileTree

def empty : FileTree := ⟨[]⟩

/-- What is at a place. -/
def at? (tree : FileTree) : List String → Option Entry
  | [] => some .directory
  | place => tree.entries.lookup place

/-- The tree after a place has been given something. -/
def set (tree : FileTree) (place : List String) (entry : Entry) : FileTree :=
  ⟨Assoc.put place entry tree.entries⟩

/-- Giving a place something changes what is at that place and at no other. -/
theorem at?_set (tree : FileTree) {place : List String} (inside : place ≠ []) (entry : Entry)
    (p : List String) :
    (tree.set place entry).at? p = if p = place then some entry else tree.at? p := by
  cases p with
  | nil => simp [at?, inside.symm]
  | cons name names => simp [at?, set, Assoc.lookup_put]

/-- Why a path does not lead to a place, or a directory cannot be made there. -/
inductive Obstacle where
  | missing
  /-- Something is there already. -/
  | present
  /-- A file is on the way, a name is too long, or the path leaves the tree. -/
  | barred
  deriving DecidableEq, Repr

/-- Checks that a place is a directory, from which a path goes on. -/
def enter (tree : FileTree) (place : List String) : Except Obstacle Unit :=
  match tree.at? place with
  | some .directory => .ok ()
  | some (.file _) => .error .barred
  | none => .error .missing

/-- The place that a name leads to, whether or not something is there. -/
def child (place : List String) (name : List Char) : Except Obstacle (List String) :=
  let name := String.ofList name
  if name.utf8ByteSize ≤ Disk.maxNameBytes then .ok (place ++ [name]) else .error .barred

/-- The place that a part of a path leads to from a directory. -/
def step (tree : FileTree) (place : List String) (part : List Char) :
    Except Obstacle (List String) := do
  tree.enter place
  if Disk.isVoid part then return place
  else if Disk.leadsOut part then
    if place = [] then .error .barred else return place.dropLast
  else child place part

/-- The place that parts of a path lead to from the top. -/
def walk (tree : FileTree) (parts : List (List Char)) : Except Obstacle (List String) :=
  parts.foldlM tree.step []

/-- The place that a path leads to. The empty path leads nowhere. -/
def resolve (tree : FileTree) (path : String) : Except Obstacle (List String) :=
  if path = "" then .error .missing
  else if Disk.isUsable path then tree.walk (Disk.parts path)
  else .error .barred

/-- What a path leads to. -/
def find? (tree : FileTree) (path : String) : Option Entry :=
  match tree.resolve path with
  | .ok place => tree.at? place
  | .error _ => none

/-- Whether a path leads to a directory. -/
def hasDirectory (tree : FileTree) (path : String) : Bool :=
  match tree.find? path with
  | some .directory => true
  | _ => false

/-- The bytes of a file. -/
def readFile? (tree : FileTree) (path : String) : Option ByteArray :=
  match tree.find? path with
  | some (.file content) => some content
  | _ => none

/-- The tree in which a file has a content. The directory of the file must be there, and the file
must not be a directory itself. -/
def writeFile? (tree : FileTree) (path : String) (content : ByteArray) : Option FileTree :=
  match tree.resolve path with
  | .error _ => none
  | .ok place =>
    match tree.at? place with
    | some .directory => none
    | _ => some (tree.set place (.file content))

/-- The tree with a new directory at the end of a path. -/
def addDirectory (tree : FileTree) (path : String) : Except Obstacle FileTree := do
  if !Disk.isUsable path then .error .barred
  match (Disk.dropSlashEnd (Disk.parts path)).reverse with
  | [] => .error .missing
  | last :: before =>
    let place ← tree.walk before.reverse
    tree.enter place
    if Disk.isVoid last || Disk.leadsOut last then .error .present
    else
      let place ← child place last
      match tree.at? place with
      | some _ => .error .present
      | none => return tree.set place .directory

/-- Makes the first of some directories, each of which is around the one before it: first it is
tried by itself, then after those around it. What was made stays where a later step fails. The
answer tells whether the directory is there. -/
def addDirectories (tree : FileTree) : List String → Bool × FileTree
  | [] => (true, tree)
  | path :: outer =>
    match tree.addDirectory path with
    | .ok made => (true, made)
    | .error .present => (tree.hasDirectory path, tree)
    | .error .barred => (false, tree)
    | .error .missing =>
      match tree.addDirectories outer with
      | (false, tree) => (false, tree)
      | (true, tree) =>
        match tree.addDirectory path with
        | .ok made => (true, made)
        | .error _ => (tree.hasDirectory path, tree)

/-- Makes a directory and those around it; whether it is there afterwards. -/
def makeDirectories (tree : FileTree) (path : String) : Bool × FileTree :=
  if path = "" then (true, tree) else tree.addDirectories (path :: Disk.ancestors path)

/-- The files of a tree. -/
def files (tree : FileTree) : List (List String × ByteArray) :=
  tree.entries.filterMap fun (place, entry) =>
    match entry with
    | .directory => none
    | .file content => some (place, content)

instance : Disk (StateM FileTree) where
  read? path := fun tree => (tree.readFile? path, tree)
  exists? path := fun tree => ((tree.find? path).isSome, tree)
  makeDirectories path := fun tree => tree.makeDirectories path
  write path content := fun tree =>
    match tree.writeFile? path content with
    | some written => (true, written)
    | none => (false, tree)

end FileTree

end Botwright
