import Botwright.Disk.Path

/-!
Access to files. What the program does with files is written against four operations, so that the
same program runs on a real disk and on a `FileTree`, which is a value.
-/
namespace Botwright

/-- The operations on files below the current directory. -/
class Disk (m : Type → Type) where
  /-- The bytes of a file. -/
  read? : String → m (Option ByteArray)
  /-- Whether there is a file or a directory. -/
  exists? : String → m Bool
  /-- Makes a directory and those around it; whether they are there afterwards. -/
  makeDirectories : String → m Bool
  /-- Gives a file a content; whether that was possible. -/
  write : String → ByteArray → m Bool

end Botwright
