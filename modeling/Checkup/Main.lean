import Checkup.Cli.Command
import Checkup.Snapshot

/-!
# The program

The first line of the input is the snapshot of a machine, and the lines after it are what its user
types. The program runs its command line there, prints what the run printed and ends with the
status of the run.
-/

namespace Checkup

partial def restOf (stream : IO.FS.Stream) (before : String) : IO String := do
  let line ← stream.getLine
  if line.isEmpty then return before else restOf stream (before ++ line)

/-- The status of a run and what it leaves to be said about a fault that is not the user's. -/
def ending : Except Fault Nat → Nat × String
  | .ok status => (status, "")
  | .error fault => (1, fault.described ++ "\n")

end Checkup

def main (arguments : List String) : IO UInt32 := do
  let stream ← IO.getStdin
  let written ← stream.getLine
  let typed ← Checkup.restOf stream ""
  match Checkup.Snapshot.read? written typed with
  | none =>
    IO.eprint "The first line has to be a snapshot.\n"
    return 2
  | some host =>
    let (result, after) := Checkup.Cli.run arguments .usual host
    let (status, complaint) := Checkup.ending result
    IO.print after.output
    IO.eprint (after.errors ++ complaint)
    return status.toUInt32
