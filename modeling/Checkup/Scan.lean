import Checkup.Combine
import Checkup.DeadCode.Check
import Checkup.Lint.Check
import Checkup.Score

/-!
# Scanning a project

A scan finds out about the project, runs the two checks side by side, puts their findings together
and scores them. A check that fails leaves a reason and no findings; only a missing manifest, or a
project without React, stops a scan.
-/

namespace Checkup

namespace Number

/-- The difference of two numbers, real as soon as one of them is. -/
def sub : Number → Number → Number
  | whole m, whole n => whole (m - n)
  | a, b => real (a.toFloat - b.toFloat)

def thousandfold : Number → Number
  | whole n => whole (n * 1000)
  | real x => real (x * 1000)

end Number

/-- What the caller of a scan asks for; what is not said is left to the settings. -/
structure ScanOptions where
  lint : Option Bool := none
  deadCode : Option Bool := none
  verbose : Option Bool := none
  scoreOnly : Bool := false
  offline : Bool := false
  paths : List String := []
  manifest : Option Path := none
  deriving Repr, Inhabited

structure ScanPlan where
  lint : Bool
  deadCode : Bool
  verbose : Bool
  scoreOnly : Bool
  offline : Bool
  paths : List String
  deriving Repr, DecidableEq, Inhabited

namespace ScanPlan

/-- The first that is said: by the caller, by the settings, or the default. -/
def pick (option configured : Option Bool) (default : Bool) : Bool :=
  (option.or configured).getD default

def ofOptions (options : ScanOptions) (settings : Option Settings) : ScanPlan where
  lint := pick options.lint (settings.bind (·.lint)) true
  deadCode := pick options.deadCode (settings.bind (·.deadCode)) true
  verbose := pick options.verbose (settings.bind (·.verbose)) false
  scoreOnly := options.scoreOnly
  offline := options.offline
  paths := options.paths

def isLimited (plan : ScanPlan) : Bool :=
  !plan.paths.isEmpty

/-- Whether the check that uses a tool is run; the dead-code tool looks at whole projects only. -/
def wants (plan : ScanPlan) : Tool → Bool
  | .linter => plan.lint
  | .deadCode => plan.deadCode && !plan.isLimited

end ScanPlan

structure CheckOutcome where
  diagnostics : List Diagnostic
  failure : Option String
  deriving Repr, Inhabited

namespace CheckOutcome

/-- What a check came to that ended; whatever fault it ended with is the reason why it has no
findings. -/
def ofResult : Except Fault (List Diagnostic) → CheckOutcome
  | .ok found => ⟨found, none⟩
  | .error (.check failure) => ⟨[], some failure.message⟩
  | .error fault => ⟨[], some fault.described⟩

def reason (label : String) (outcome : CheckOutcome) : List (String × String) :=
  (outcome.failure.map fun why => (label, why)).toList

end CheckOutcome

/-- A check as it ran: what it came to, what it leaves in the log, and how many processes it had to
wait for. -/
structure CheckRun where
  outcome : CheckOutcome
  notice : Option Notice
  waits : Nat
  deriving Repr, Inhabited

namespace CheckRun

def skipped : CheckRun :=
  ⟨⟨[], none⟩, none, 0⟩

def notice? (name : String) : Except Fault (List Diagnostic) → Option Notice
  | .ok _ => none
  | .error (.check _) => some (.checkFailed name)
  | .error _ => some (.checkCrashed name)

def ofResult (name : String) (waits : Nat) (result : Except Fault (List Diagnostic)) : CheckRun :=
  ⟨.ofResult result, notice? name result, waits⟩

def ofCheck (tool : Tool) (name : String) (check : Run (List Diagnostic)) : Run CheckRun := do
  let before := (← get).waited tool
  let result ← Run.attempt check
  return ofResult name ((← get).waited tool - before) result

def ofWanted (wanted : Bool) (tool : Tool) (name : String) (check : Run (List Diagnostic)) :
    Run CheckRun :=
  if wanted then ofCheck tool name check else pure skipped

/-- What two checks leave in the log. They run side by side, and each lets the other go on while it
waits for a process, so the one that waits less often ends first; if both wait equally often it is
the one that was begun first. -/
def notices (first second : CheckRun) : List Notice :=
  let ended := if second.waits < first.waits then [second, first] else [first, second]
  ended.filterMap (·.notice)

end CheckRun

/-- The two checks as a scan runs them. They run side by side; `first` is the tool of the one that
comes to its end before the other one is begun. -/
structure Checks where
  lint : CheckContext → Run (List Diagnostic)
  deadCode : CheckContext → Run (List Diagnostic)
  first : Tool := .linter

namespace Checks

def of (checks : Checks) : Tool → CheckContext → Run (List Diagnostic)
  | .linter => checks.lint
  | .deadCode => checks.deadCode

def toolName : Tool → String
  | .linter => Lint.toolName
  | .deadCode => DeadCode.toolName

def label : Tool → String
  | .linter => Lint.checkLabel
  | .deadCode => DeadCode.checkLabel

def runOne (checks : Checks) (plan : ScanPlan) (context : CheckContext) (tool : Tool) :
    Run CheckRun :=
  CheckRun.ofWanted (plan.wants tool) tool (toolName tool) (checks.of tool context)

/-- Runs the checks that the plan wants; the linter's comes first in the result. -/
def run (checks : Checks) (plan : ScanPlan) (context : CheckContext) :
    Run (CheckRun × CheckRun) :=
  match checks.first with
  | .linter => do
    let lint ← checks.runOne plan context .linter
    let deadCode ← checks.runOne plan context .deadCode
    return (lint, deadCode)
  | .deadCode => do
    let deadCode ← checks.runOne plan context .deadCode
    let lint ← checks.runOne plan context .linter
    return (lint, deadCode)

/-- The checks with fixed commands, or with those that are found for the project. -/
def withCommands (lint deadCode : Option (List String)) : Checks where
  lint := Lint.check lint
  deadCode := DeadCode.check deadCode DeadCode.usualPatience

def usual : Checks :=
  withCommands none none

end Checks

structure Prospect where
  directory : Path
  plan : ScanPlan
  settings : Option Settings
  runtime : RuntimeSettings
  project : Project

namespace Prospect

/-- Finds out about the project in a directory, which has to use React. -/
def find (directory : Path) (options : ScanOptions) (settings : Option Settings)
    (runtime : RuntimeSettings) : Run Prospect := do
  let project ← Project.discover directory options.manifest
  if project.react.any (·.isTruthy) then
    return ⟨directory, .ofOptions options settings, settings, runtime, project⟩
  else throw .noReact

def context (prospect : Prospect) : CheckContext :=
  ⟨prospect.directory, prospect.project, prospect.runtime, componentPaths prospect.plan.paths⟩

end Prospect

structure Examination where
  project : Project
  plan : ScanPlan
  diagnostics : List Diagnostic
  reasons : List (String × String)
  deriving Inhabited, Repr

namespace Examination

/-- Runs the checks of a project and puts their findings together. -/
def ofProspect (prospect : Prospect) (checks : Checks) : Run Examination := do
  let (lint, deadCode) ← checks.run prospect.plan prospect.context
  Run.noteAll (lint.notices deadCode)
  let diagnostics ← combine lint.outcome.diagnostics deadCode.outcome.diagnostics
    prospect.directory prospect.plan.isLimited prospect.settings ReducedMotion.check
  return { project := prospect.project, plan := prospect.plan, diagnostics,
           reasons := lint.outcome.reason (Checks.label .linter) ++
             deadCode.outcome.reason (Checks.label .deadCode) }

def run (directory : Path) (options : ScanOptions) (settings : Option Settings)
    (runtime : RuntimeSettings) (checks : Checks) : Run Examination := do
  ofProspect (← Prospect.find directory options settings runtime) checks

end Examination

structure ScanResult where
  diagnostics : List Diagnostic
  score : Option Score
  reasons : List (String × String)
  project : Option Project
  elapsed : Number
  paths : List String
  deriving Inhabited, Repr

namespace ScanResult

def skipped (result : ScanResult) : List String :=
  result.reasons.map (·.1)

def isComplete (result : ScanResult) : Bool :=
  result.skipped.isEmpty

def errors (result : ScanResult) : Nat :=
  result.diagnostics.countP (·.isError)

def warnings (result : ScanResult) : Nat :=
  result.diagnostics.countP (·.isWarning)

end ScanResult

inductive SettingsSource
  | given (settings : Option Settings)
  | disk

def SettingsSource.settings (source : SettingsSource) (directory : Path) :
    Run (Option Settings) :=
  match source with
  | given settings => pure settings
  | disk => Settings.load directory

def millisecondsSince (started : Number) : Run Number := do
  return ((← Run.now).sub started).thousandfold

def RuntimeSettings.given : Option RuntimeSettings → Run RuntimeSettings
  | some runtime => pure runtime
  | none => ofHost

def Prospect.ofScan (directory : Path) (options : ScanOptions) (runtime : Option RuntimeSettings)
    (source : SettingsSource) : Run Prospect := do
  let runtime ← RuntimeSettings.given runtime
  let directory ← Run.resolve directory
  let settings ← source.settings directory
  find directory options settings runtime

def Prospect.isOffline (prospect : Prospect) : Bool :=
  prospect.plan.offline || prospect.runtime.offline

/-- Scans a project. The score is left out when the scan or the run is offline. -/
def scan (directory : Path) (options : ScanOptions) (runtime : Option RuntimeSettings)
    (checks : Checks) (source : SettingsSource) : Run ScanResult := do
  let started ← Run.now
  let prospect ← Prospect.ofScan directory options runtime source
  let found ← Examination.ofProspect prospect checks
  let elapsed ← millisecondsSince started
  return { diagnostics := found.diagnostics,
           score := if prospect.isOffline then none else some (.ofDiagnostics found.diagnostics),
           reasons := found.reasons, project := some found.project, elapsed,
           paths := found.plan.paths }

structure Diagnosis where
  diagnostics : List Diagnostic
  score : Score
  project : Project
  elapsed : Number
  deriving Inhabited, Repr

structure DiagnosisOptions where
  lint : Option Bool := none
  deadCode : Option Bool := none
  manifest : Option Path := none
  paths : List String := []
  deriving Repr, Inhabited

/-- Diagnoses a project: a scan that always has a score, with the settings of the project. -/
def diagnose (directory : Path) (options : DiagnosisOptions) (checks : Checks) : Run Diagnosis := do
  let started ← Run.now
  let directory ← Run.resolve directory
  let manifest ← Run.resolveGiven options.manifest
  let settings ← Settings.load directory
  let runtime ← RuntimeSettings.ofHost
  let found ← Examination.run directory
    { lint := options.lint, deadCode := options.deadCode, paths := options.paths, manifest }
    settings runtime checks
  let elapsed ← millisecondsSince started
  return { diagnostics := found.diagnostics, score := Score.ofDiagnostics found.diagnostics,
           project := found.project, elapsed }

end Checkup
