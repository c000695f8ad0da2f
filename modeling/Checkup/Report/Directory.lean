import Checkup.Host
import Checkup.Json.Printer
import Checkup.Report.Group

/-!
# The report directory

A full report is a directory with one summary per rule and a file with all findings. The directory
has a fresh name. A report that cannot be written is noted and does not stop a run.
-/

namespace Checkup.Report

/-- The part of a summary that tells what helps, if anything does. -/
def suggestion (group : Group) : List String :=
  if group.first.help.isTruthy then ["", "Suggestion: " ++ group.first.help.display] else []

/-- The summary of a rule: what it is, what it says, what helps and where it was found. -/
def summary (group : Group) : Except ShapeFault String := do
  let files ← FileLines.ofDiagnostics group.members
  let lines :=
    ["Rule: " ++ group.key,
      "Severity: " ++ group.first.severity.label,
      "Category: " ++ group.first.category.label,
      "Count: " ++ toString group.size,
      "",
      group.first.message] ++
    suggestion group ++ ["", "Files:"] ++ files.map fun entry => "  " ++ entry.text.display
  return String.intercalate "\n" lines ++ "\n"

def flatten (cs : List Char) : List Char :=
  cs.flatMap fun c => if c == '/' then ['-', '-'] else [c]

def summaryName (key : String) : String :=
  String.ofList (flatten key.toList) ++ ".txt"

def findingsName : String := "diagnostics.json"

def findingsText (diagnostics : List Diagnostic) : String :=
  (Json.array (diagnostics.map (·.toJson))).pretty

def directoryName (n : Nat) : String :=
  "react-doctor-00000000-0000-0000-0000-" ++ Decimal.padded 12 n

def fileIn (directory : Path) (name : String) : Path :=
  directory / name

def writeSummaries (directory : Path) : List Group → Run Unit
  | [] => return
  | group :: rest => do
    match summary group with
    | .ok text => Run.writeText (fileIn directory (summaryName group.key)) text
    | .error fault => throw (.shape fault)
    writeSummaries directory rest

def writeInto (directory : Path) (diagnostics : List Diagnostic) : Run Unit := do
  Run.makeDirectory directory
  match Group.ofDiagnostics diagnostics with
  | .ok groups => writeSummaries directory groups
  | .error fault => throw (.shape fault)
  Run.writeText (fileIn directory findingsName) (findingsText diagnostics)

/-- The next fresh directory below a parent, the temporary directory unless one is given. -/
def freshDirectory (parent : Option Path) : Run Path := do
  let host ← get
  set { host with reports := host.reports + 1 }
  return (parent.getD host.temporary) / directoryName (host.reports + 1)

def write (diagnostics : List Diagnostic) (parent : Option Path) : Run (Option Path) := do
  let directory ← freshDirectory parent
  match ← Run.attempt (writeInto directory diagnostics) with
  | .ok () => return some directory
  | .error (.system _) =>
    Run.note (.reportNotWritten directory)
    return none
  | .error fault => throw fault

end Checkup.Report
