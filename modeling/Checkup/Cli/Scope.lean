import Checkup.Git
import Checkup.Settings

/-!
# The scope of a run

A run looks at whole projects, or only at the source files that changed. What changed is found out
against a branch that is named, or against the default one.
-/

namespace Checkup.Cli

inductive DiffRequest
  | everything
  | detected
  | against (branch : String)
  deriving DecidableEq, Repr

namespace DiffRequest

def ofSetting : Option DiffSetting → DiffRequest
  | none | some (.switch false) => everything
  | some (.switch true) | some (.branch "") => detected
  | some (.branch name) => against name

/-- The request of the command line, else that of the settings. An option without a branch takes
the branch of the settings, if they name one. -/
def resolve (option : Option String) (settings : Option Settings) : DiffRequest :=
  let configured := settings.bind (·.diff)
  match option with
  | none => ofSetting configured
  | some "" =>
    match configured with
    | some (.branch name) => ofSetting (some (.branch name))
    | _ => detected
  | some branch => against branch

def branch? : DiffRequest → Option String
  | against branch => some branch
  | _ => none

end DiffRequest

def sayUnless (quiet : Bool) (line : String) : Run Unit :=
  if quiet then pure () else Run.say line

def branchText (branch : Option String) : String :=
  branch.getD "None"

def comparison (changes : Git.Changes) : String :=
  if changes.uncommitted then "[dim]Scanning uncommitted changes.[/]"
  else "[dim]Scanning changes on [cyan]" ++ branchText changes.current ++ "[/] against [cyan]" ++
    branchText changes.base ++ "[/].[/]"

/-- The source files that a run is limited to: an empty list for no limit, and nothing when there is
nothing to look at. -/
def scopePaths (directory : Path) (request : DiffRequest) (quiet : Bool) :
    Run (Option (List String)) := do
  if request == .everything then return some []
  match ← Git.changes? directory request.branch? with
  | none =>
    sayUnless quiet "[dim]No changes detected against a base branch. Running a full scan.[/]\n"
    return some []
  | some changes =>
    let files := Git.sourceFiles changes.files
    sayUnless quiet (comparison changes)
    if files.isEmpty then
      sayUnless quiet "[dim]No changed source files. Nothing to scan.[/]\n"
      return none
    return some files

end Checkup.Cli
