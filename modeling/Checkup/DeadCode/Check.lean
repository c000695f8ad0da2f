import Checkup.Check
import Checkup.DeadCode.Report
import Checkup.Lint.Command
import Checkup.Process
import Checkup.Retry

/-!
# The dead-code check

The dead-code tool always runs over the whole project. It is started again a few times when it
fails, since its failures are often passing ones.
-/

namespace Checkup.DeadCode

def checkLabel : String := "dead code"

def installed (root : Path) : Path :=
  root / "node_modules" / ".bin" / "knip"

/-- How to launch the tool: a configured binary, the project's own, or a package runner. -/
def resolveCommand (root : Path) (binary : Option String) : Run (Option (List String)) := do
  match binary.filter (· != "") with
  | some given => return some [given]
  | none =>
    if ← Run.isFile (installed root) then return some [(installed root).text]
    return ((← get).surroundings.program "npx" none).map fun npx => [npx, "--yes", "knip"]

def reportArguments : List String :=
  ["--reporter", "json", "--no-progress", "--no-exit-code"]

structure Patience where
  attempts : Int
  backoff : Number

def usualPatience : Patience :=
  ⟨5, .real 0.5⟩

/-- The policy of a patience: any failure of the check is worth another try. -/
def Patience.policy (patience : Patience) : RetryPolicy where
  attempts := patience.attempts
  backoff := patience.backoff
  retries
    | .check _ => true
    | _ => false

/-- What is wrong when the tool ended badly and printed nothing. -/
def silentDetail (result : CommandResult) : String :=
  let complaint := Text.strip result.errors
  if complaint == "" then "exit code " ++ toString result.status else complaint

def runOnce (arguments : List String) (root : Path) : Run (List Diagnostic) := do
  let result ← CommandResult.runForCheck toolName .deadCode arguments root none
  if Text.strip result.output == "" && result.status != 0 then
    throw (.check ⟨toolName, silentDetail result, false⟩)
  match parseReport result.output with
  | .ok found => return found
  | .error fault => throw fault

/-- How to launch the tool: a fixed command, or the one that is found for the project. -/
def commandFor (fixed : Option (List String)) (context : CheckContext) :
    Run (Option (List String)) :=
  match fixed with
  | some words => pure (some words)
  | none => resolveCommand context.root context.settings.deadCode

def check (fixed : Option (List String)) (patience : Patience) (context : CheckContext) :
    Run (List Diagnostic) := do
  match ← commandFor fixed context with
  | none => throw (.check ⟨toolName, "knip is not installed and npx is unavailable", false⟩)
  | some words =>
    patience.policy.retry Run.wait (runOnce (words ++ reportArguments) context.root)

end Checkup.DeadCode
