import Checkup.Node

/-!
# Launching the linter

The linter is launched by a configured binary, by the project's own installation through a suitable
Node, by a program on the search path, or by a package runner. A launcher that starts Node by itself
gets the directory of the chosen Node in front of its search path, unless that is the Node it finds
anyway.
-/

namespace Checkup.Lint

/-- The words that launch the linter, and the directory to put in front of the search path. -/
structure Command where
  words : List String
  pathDirectory : Option String
  deriving DecidableEq, Repr, Inhabited

namespace Command

/-- The variables for the linter; none where it inherits those of the run. -/
def environment? (command : Command) (inherited : Variables) : Option Variables :=
  command.pathDirectory.map fun directory =>
    let parts := [directory, (inherited.value? "PATH").getD ""].filter (· != "")
    inherited.set "PATH" (String.intercalate ":" parts)

def installed (root : Path) : Path :=
  root / "node_modules" / "oxlint" / "bin" / "oxlint"

/-- The program of a name, on the given search path or on that of the run, unless it is empty. -/
def program? (name : String) (path : Option String) : Run (Option String) := do
  return ((← get).surroundings.program name path).filter (· != "")

/-- The launch through programs on the search path, the package runner next to Node first. -/
def throughSearchPath (node : NodeProgram) : Run (Option Command) := do
  let directory := (Path.ofText node.binary).parent.text
  let pathDirectory := if node.onPath then none else some directory
  if let some binary ← program? "oxlint" none then return some ⟨[binary], pathDirectory⟩
  let runner ← program? "npx" (some directory)
  let runner := runner.or ((← get).surroundings.program "npx" none)
  return runner.map fun npx => ⟨[npx, "--yes", "oxlint"], pathDirectory⟩

/-- How to launch the linter for a project; none where a suitable Node or a launcher is missing. -/
def resolve (root : Path) (binary node : Option String) : Run (Option Command) := do
  match binary.filter (· != "") with
  | some given => return some ⟨[given], none⟩
  | none =>
    let found ← NodeProgram.resolve node
    if ← Run.isFile (installed root) then
      return found.map fun program => ⟨[program.binary, (installed root).text], none⟩
    match found with
    | none => return none
    | some program => throughSearchPath program

end Command

end Checkup.Lint
