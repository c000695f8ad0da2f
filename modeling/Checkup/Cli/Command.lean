import Checkup.Cli.Help
import Checkup.Cli.Scope
import Checkup.Cli.Selection
import Checkup.Console.Sections
import Checkup.Report.Directory
import Checkup.Report.Gate
import Checkup.Report.Share

/-!
# The command

One run of the command line: the projects are chosen, each is scanned and reported in turn, and the
exit status tells whether a gate failed. A fault of the domain ends the run with its message; every
other fault ends it as it is.
-/

namespace Checkup.Cli

/-- Why there is no score: the run was asked to be offline, or it is. -/
def noScoreText (askedOffline : Bool) : String :=
  if askedOffline then "Score not calculated. Remove --offline to calculate score."
  else "You are offline, could not calculate score. Reconnect to calculate."

def sayScore (result : ScanResult) (offline : Bool) : Run Unit :=
  match result.score with
  | some s => Run.say (toString s.score)
  | none => Run.say ("[dim]" ++ noScoreText offline ++ "[/]")

def totalFiles (result : ScanResult) (p : Project) : Int :=
  if result.paths.isEmpty then p.sourceFiles else result.paths.length

def reportFindings (result : ScanResult) (p : Project) (options : Options)
    (runtime : RuntimeSettings) (verbose : Bool) : Run Unit := do
  let estimate ←
    if options.offline || runtime.offline then pure none
    else Estimate.ask result.diagnostics runtime true
  Sections.findings result.diagnostics verbose
  let directory ← Report.write result.diagnostics none
  let link ← Sections.orFail (Report.shareLink result.diagnostics result.score p.name)
  Sections.summary result
    { noScore := noScoreText options.offline, total := totalFiles result p,
      directory := directory.map (·.text), share := some link, estimate }
  Sections.skipped result.skipped result.reasons

def report (result : ScanResult) (p : Project) (options : Options) (hasSettings : Bool)
    (runtime : RuntimeSettings) (verbose : Bool) : Run Unit := do
  let changed := if result.paths.isEmpty then none else some (result.paths.length : Int)
  Sections.project p hasSettings changed
  if result.diagnostics.isEmpty then
    Sections.clean result.skipped result.score (noScoreText options.offline)
  else reportFindings result p options runtime verbose

def scanOptions (options : Options) (paths : List String) : ScanOptions where
  lint := options.lint
  deadCode := options.deadCode
  verbose := if options.verbose then some true else none
  scoreOnly := options.score
  offline := options.offline
  paths := paths

def scanProject (directory : Path) (paths : List String) (options : Options)
    (settings : Option Settings) (runtime : RuntimeSettings) (checks : Checks) :
    Run ScanResult := do
  let asked := scanOptions options paths
  let verbose := (ScanPlan.ofOptions asked settings).verbose
  let result ← scan directory asked (some runtime) checks (.given settings)
  if options.score then sayScore result options.offline
  else match result.project with
    | some p => report result p options settings.isSome runtime verbose
    | none => pure ()
  return result

def gateLevel (options : Options) (settings : Option Settings) : FailOn :=
  (options.failOn.or (settings.bind (·.failOn))).getD .never

def runProject (directory : Path) (options : Options) (runtime : RuntimeSettings)
    (checks : Checks) : Run Bool := do
  let settings ← Settings.load directory
  match ← scopePaths directory (.resolve options.diff settings) options.score with
  | none => return false
  | some paths =>
    if !options.score then Run.say ("[dim]Scanning " ++ directory.text ++ "...[/]\n")
    let result ← scanProject directory paths options settings runtime checks
    if !options.score then Run.sayNothing
    return (gateLevel options settings).fails result.diagnostics

/-- Runs the projects in turn; tells whether the findings of one of them fail the run. -/
def runProjects (options : Options) (runtime : RuntimeSettings) (checks : Checks) :
    List Path → Run Bool
  | [] => return false
  | directory :: rest => do
    let failed ← runProject directory options runtime checks
    return (← runProjects options runtime checks rest) || failed

def isInteractive (options : Options) (runtime : RuntimeSettings) : Bool :=
  !(options.yes || runtime.automated || options.score)

def runBelow (root : Path) (options : Options) (runtime : RuntimeSettings) (checks : Checks) :
    Run Bool := do
  let directories ← selectProjects root options.project (isInteractive options runtime)
  runProjects options runtime checks directories

def status (failed : Bool) : Nat :=
  if failed then 1 else 0

/-- Runs with the options; the exit status is one when a gate fails or the domain has a fault. -/
def runOptions (options : Options) (checks : Checks) : Run Nat := do
  let runtime ← RuntimeSettings.ofHost
  let root ← Run.resolve (Path.ofText options.directory)
  if !(← Run.isDirectory root) then
    Run.say ("[red]✗ Directory not found: " ++ root.text ++ "[/]")
    return 1
  if !options.score then Run.say (programName ++ " v" ++ programVersion ++ "\n")
  match ← Run.attempt (runBelow root options runtime checks) with
  | .ok failed => return status failed
  | .error fault =>
    if fault.isReported then
      Run.say ("[red]✗ " ++ fault.wording ++ "[/]")
      return 1
    else throw fault

/-- Whether a written path ends in a way that only a directory can be reached by. -/
def namesDirectory (written : String) : Bool :=
  match written.toList.reverse with
  | '/' :: _ => true
  | '.' :: '/' :: _ => true
  | _ => false

/-- Whether the directory on the command line is a file; one that cannot be reached is none. -/
def directoryIsFile (words : Words) : Run Bool := do
  let path := Path.ofText words.directory
  match (← get).node path with
  | .ok (.file _) => return !namesDirectory words.directory
  | .error .nulCharacter => throw (AccessFault.nulCharacter.toFault path)
  | _ => return false

def complain (misuse : Misuse) : Run Nat := do
  Run.printError misuse.text
  return 2

def runWords (words : Words) (checks : Checks) : Run Nat := do
  match words.information with
  | some .version =>
    Run.print versionText
    return 0
  | some _ =>
    Run.print helpText
    return 0
  | none =>
    match words.options (← directoryIsFile words) with
    | .error misuse => complain misuse
    | .ok options => runOptions options checks

/-- Runs a command line; an aborted dialogue ends it with a word about that. -/
def run (arguments : List String) (checks : Checks) : Run Nat := do
  match read arguments with
  | .error misuse => complain misuse
  | .ok words =>
    match ← Run.attempt (runWords words checks) with
    | .ok status => return status
    | .error .aborted =>
      Run.printError "Aborted!\n"
      return 1
    | .error fault => throw fault

end Checkup.Cli
