import Checkup.Diagnostic
import Checkup.Json.Shape

/-!
# Groups of findings

Reports show the findings of one rule together, in the order in which the rules were first met and
the rules with errors first. A group tells its rule's text by its first finding, and the places by
file and line.
-/

namespace Checkup.Report

structure Group where
  key : String
  first : Diagnostic
  others : List Diagnostic
  deriving Inhabited, Repr

namespace Group

def members (group : Group) : List Diagnostic :=
  group.first :: group.others

def size (group : Group) : Nat :=
  group.members.length

/-- The groups with one more finding: in the group of its rule, or in a new one at the end. -/
def add (d : Diagnostic) : List Group → List Group
  | [] => [⟨d.ruleKey, d, []⟩]
  | group :: rest =>
    if group.key == d.ruleKey then { group with others := group.others ++ [d] } :: rest
    else group :: add d rest

def collect (diagnostics : List Diagnostic) : List Group :=
  diagnostics.foldl (fun groups d => add d groups) []

def rank : Severity → Except ShapeFault Nat
  | .error => .ok 0
  | .warning => .ok 1
  | .other label => .error (.noKey label)

def ofSeverity (severity : Severity) (groups : List Group) : List Group :=
  groups.filter (·.first.severity == severity)

/-- The groups of the findings, those that begin with an error first. -/
def ofDiagnostics (diagnostics : List Diagnostic) : Except ShapeFault (List Group) := do
  let groups := collect diagnostics
  discard <| groups.mapM fun group => rank group.first.severity
  return ofSeverity .error groups ++ ofSeverity .warning groups

end Group

structure FileLines where
  file : Json
  lines : List Int
  deriving Inhabited, Repr

namespace FileLines

/-- The file and its lines as text; a file without lines stands for itself. -/
def text (entry : FileLines) : Json :=
  if entry.lines.isEmpty then entry.file
  else .text (entry.file.display ++ ": " ++ String.intercalate ", " (entry.lines.map toString))

def lineOf (d : Diagnostic) : List Int :=
  if 0 < d.line then [d.line] else []

def add (d : Diagnostic) : List FileLines → List FileLines
  | [] => [⟨d.file, lineOf d⟩]
  | entry :: rest =>
    if Json.sameKey entry.file d.file then { entry with lines := entry.lines ++ lineOf d } :: rest
    else entry :: add d rest

/-- The files with findings, each with its lines, in the order in which they are first met. -/
def ofDiagnostics (diagnostics : List Diagnostic) : Except ShapeFault (List FileLines) :=
  diagnostics.foldlM (fun entries d => do
    discard d.file.asKey
    return add d entries) []

end FileLines

def affectedFiles (diagnostics : List Diagnostic) : Except ShapeFault (List Json) := do
  return (← FileLines.ofDiagnostics diagnostics).map (·.file)

end Checkup.Report
