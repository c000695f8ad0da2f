import Checkup.Host
import Checkup.Text.Blank

/-!
# Running a tool

A tool is started without a shell and runs to its end, or until its time is over. A run that could
not be made, or took too long, is a fault of the check that wanted it.
-/

namespace Checkup

structure CommandResult where
  status : Int
  output : String
  errors : String
  deriving Repr, DecidableEq

namespace CommandResult

def defaultTimeout : Number := .whole 600

/-- The fault of a tool that took too long; the message needs the tool's name. -/
def timeoutFault (arguments : List String) (timeout : Number) : Fault :=
  match arguments with
  | [] => .shape .noItem
  | tool :: _ =>
    .timeout (tool ++ " timed out after " ++ Decimal.fixed 0 timeout.toFloat ++ "s")

/-- The result of an outcome; a status that is not known counts as minus one. A tool that is given
no time at all never ends in time. -/
def ofOutcome (arguments : List String) (timeout : Number) : Outcome → Except Fault CommandResult
  | .finished status output errors =>
    if 0 < timeout.toFloat then .ok ⟨status.getD (-1), output.lossy, errors.lossy⟩
    else .error (timeoutFault arguments timeout)
  | .hangs => .error (timeoutFault arguments timeout)
  | .refused fault => .error fault

def run (tool : Tool) (arguments : List String) (directory : Path) (timeout : Number)
    (environment : Option Variables) : Run CommandResult := do
  match ofOutcome arguments timeout (← Run.start tool arguments directory environment) with
  | .ok result => return result
  | .error fault => throw fault

/-- Runs a tool for a check: that it could not be run is why the check failed. -/
def runForCheck (name : String) (tool : Tool) (arguments : List String) (directory : Path)
    (environment : Option Variables) : Run CommandResult := do
  match ← Run.attempt (run tool arguments directory defaultTimeout environment) with
  | .ok result => return result
  | .error (.system wording) => throw (.check ⟨name, wording, false⟩)
  | .error (.timeout wording) => throw (.check ⟨name, wording, false⟩)
  | .error fault => throw fault

end CommandResult

end Checkup
