import Checkup.Check
import Checkup.Lint.Batch
import Checkup.Lint.Command
import Checkup.Lint.Report
import Checkup.Process

/-!
# The lint check

The linter runs over the whole project, or over a list of paths in batches, with a configuration
file of its own that is there exactly while it runs. Any batch that fails fails the check.
-/

namespace Checkup.Lint

def checkLabel : String := "lint"

def failure (detail : String) : Fault :=
  .check ⟨toolName, detail, false⟩

def noNodeDetail : String :=
  "no compatible Node.js found (oxlint requires " ++ NodeVersion.requirement ++
    "; try `nvm install " ++ toString NodeVersion.recommendedMajor ++ "`)"

/-- How to launch the linter: a fixed command, or the one that is found for the project. -/
def resolveCommand (fixed : Option (List String)) (context : CheckContext) : Run Command := do
  match fixed with
  | some words => return ⟨words, none⟩
  | none =>
    match ← Command.resolve context.root context.settings.linter context.settings.node with
    | some command => return command
    | none => throw (failure noNodeDetail)

/-- The letters that a letter of the alphabet agrees with when case does not count. -/
def agrees (letter c : Char) : Bool :=
  c.toLower == letter || (letter == 'i' && (c == 'İ' || c == 'ı'))

/-- Whether the text begins with the word when case does not count. -/
def beginsWord : List Char → List Char → Bool
  | [], _ => true
  | _ :: _, [] => false
  | letter :: word, c :: cs => agrees letter c && beginsWord word cs

/-- Whether the word stands somewhere in the text when case does not count. -/
def mentions (word : List Char) : List Char → Bool
  | [] => word.isEmpty
  | c :: cs => beginsWord word (c :: cs) || mentions word cs

def complainsOfBinding (errors : String) : Bool :=
  mentions "native binding".toList errors.toList

/-- What the linter printed; complaints without a report are a failure. -/
def reportOf (result : CommandResult) : Except Fault String :=
  let report := Text.strip result.output
  let complaint := Text.strip result.errors
  if report != "" then .ok report
  else if complaint != "" then .error (.check ⟨toolName, complaint, complainsOfBinding complaint⟩)
  else .ok ""

def lintBatch (arguments : List String) (root : Path) (environment : Option Variables) :
    Run (List Diagnostic) := do
  let result ← CommandResult.runForCheck toolName .linter arguments root environment
  match reportOf result with
  | .error fault => throw fault
  | .ok report =>
    match parseReport report with
    | .ok found => return found
    | .error fault => throw fault

def lintBatches (base : List String) (root : Path) (environment : Option Variables) :
    List (List String) → Run (List Diagnostic)
  | [] => return []
  | batch :: rest => do
    let found ← lintBatch (base ++ batch) root environment
    return found ++ (← lintBatches base root environment rest)

def configurationName (processId : Nat) : String :=
  "react-doctor-oxlintrc-" ++ toString processId ++ ".json"

def configurationFile (host : Host) : Path :=
  host.temporary / configurationName host.processId

def factsOf (context : CheckContext) : Facts :=
  ⟨context.project.framework, context.project.compiler, context.settings.plugin⟩

def baseArguments (command : Command) (configuration : Path) (typeScript : Bool) : List String :=
  command.words ++ ["-c", configuration.text, "--format", "json"] ++
    if typeScript then ["--tsconfig", "./tsconfig.json"] else []

/-- The batches of the paths; the whole project is one batch of its own. -/
def batchesOf (base : List String) (paths : Option (List String)) : List (List String) :=
  match paths with
  | none => [["."]]
  | some paths => Batch.ofPaths base Batch.defaultLimit paths

/-- Writes the configuration file; that it cannot be written is a failure of the check. -/
def writeConfiguration (file : Path) (text : String) : Run Unit := do
  match ← Run.attempt (Run.writeText file text) with
  | .ok _ => return
  | .error (.system wording) => throw (failure ("could not write config: " ++ wording))
  | .error fault => throw fault

/-- Runs a step while a file holds a text; the file is gone afterwards in any case. -/
def withFile {α : Type} (file : Path) (text : String) (step : Run α) : Run α :=
  Run.withLast (do writeConfiguration file text; step) (Run.removeFile file)

def check (fixed : Option (List String)) (context : CheckContext) : Run (List Diagnostic) := do
  if context.paths == some [] then return []
  let command ← resolveCommand fixed context
  let host ← get
  let file := configurationFile host
  let base := baseArguments command file context.project.typeScript
  withFile file (factsOf context).configuration.pretty
    (lintBatches base context.root (command.environment? host.environment)
      (batchesOf base context.paths))

end Checkup.Lint
