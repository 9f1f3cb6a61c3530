import Botwright.Cli.Run

/-!
The program itself: the command line on the real disk, with random bytes from the system.
-/
namespace Botwright

/-- Whether an action ends without an error. -/
def succeeds (action : IO Unit) : IO Bool := do
  try
    action
    return true
  catch _ => return false

instance : Disk IO where
  read? path := do
    try
      return some (← IO.FS.readBinFile path)
    catch _ => return none
  exists? path := succeeds do
    let _ ← IO.FS.realPath path
  makeDirectories path := succeeds do
    if path ≠ "" then IO.FS.createDirAll path
  write path content := succeeds (IO.FS.writeBinFile path content)

end Botwright

open Botwright in
/-- Runs the command line and gives its exit status. -/
def main (arguments : List String) : IO UInt32 := do
  let start ← IO.monoMsNow
  let bytes ← IO.getRandomBytes 32
  let elapsed : IO Nat := do return (← IO.monoMsNow) - start
  let outcome ← Cli.run arguments (fun i => bytes.get! i) elapsed
  IO.print outcome.output
  match outcome.complaint with
  | some complaint => IO.eprintln complaint
  | none => pure ()
  return outcome.status.toUInt32
