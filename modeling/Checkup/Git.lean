import Checkup.Host
import Checkup.SourceFile
import Checkup.Text.Blank
import Checkup.Text.Lines

/-!
# What git knows

Questions to git about a directory: its files, its branches, what its files contain and what has
changed in it. A question that git cannot answer has no answer; what stops a run is a question that
cannot be put, or an answer that is no text.
-/

namespace Checkup.Git

def output? (directory : Path) (arguments : List String) : Run (Option String) := do
  return (← Run.git directory arguments).output?

/-- Asks git and gives the lines of the output that are not empty. -/
def lines? (directory : Path) (arguments : List String) : Run (Option (List String)) := do
  return (← output? directory arguments).map fun output =>
    (Text.lines output).filter (· != "")

def distinct : List String → List String
  | [] => []
  | s :: rest => s :: (distinct rest).filter (· != s)

def listing : List String :=
  ["ls-files", "--cached", "--others", "--exclude-standard"]

def files? (directory : Path) : Run (Option (List String)) :=
  lines? directory listing

/-- What a search says: that there is something, that there is nothing, or neither. -/
def verdict? : Answer → Option Bool
  | .finished 0 _ => some true
  | .finished 1 _ => some false
  | _ => none

/-- Whether some file matching the path patterns contains the expression. -/
def contains? (directory : Path) (expression : String) (pathPatterns : List String) :
    Run (Option Bool) := do
  return verdict? (← Run.git directory (["grep", "-ql", "-E", expression, "--"] ++ pathPatterns))

def isRepository (directory : Path) : Run Bool := do
  return (← output? directory ["rev-parse", "--is-inside-work-tree"]).any (Text.strip · == "true")

def currentBranch? (directory : Path) : Run (Option String) := do
  return ((← output? directory ["rev-parse", "--abbrev-ref", "HEAD"]).map Text.strip).filter
    fun branch => branch != "" && branch != "HEAD"

def branchExists (directory : Path) (branch : String) : Run Bool := do
  return (← output? directory ["rev-parse", "--verify", "--quiet", branch]).isSome

/-- The branches that are taken for the default one, the first that exists. -/
def defaultBranches : List String := ["main", "master"]

def firstBranch? (directory : Path) : List String → Run (Option String)
  | [] => return none
  | branch :: rest => do
    if ← branchExists directory branch then return some branch
    firstBranch? directory rest

def defaultBranch? (directory : Path) : Run (Option String) :=
  firstBranch? directory defaultBranches

def changed (range : List String) : List String :=
  ["diff", "--name-only", "--relative", "--diff-filter=ACMR"] ++ range

/-- The changed files that are tracked; without a first commit only the index can differ. -/
def trackedChanges (directory : Path) : Run (List String) := do
  match ← lines? directory (changed ["HEAD"]) with
  | some found => return found
  | none => return (← lines? directory (changed ["--cached"])).getD []

/-- The files with changes that are not committed, each once, the new ones last. -/
def uncommitted (directory : Path) : Run (List String) := do
  let tracked ← trackedChanges directory
  let untracked ← lines? directory ["ls-files", "--others", "--exclude-standard"]
  return distinct (tracked ++ untracked.getD [])

/-- The files that changed since the current branch left the base. -/
def changedSince? (directory : Path) (base : String) : Run (Option (List String)) := do
  match ← output? directory ["merge-base", base, "HEAD"] with
  | some output => lines? directory (changed [Text.strip output, "HEAD"])
  | none => return none

structure Changes where
  files : List String
  current : Option String
  base : Option String
  uncommitted : Bool
  deriving Repr, DecidableEq

def changesSince? (directory : Path) (current : Option String) (base : String) :
    Run (Option Changes) := do
  if some base == current then return none
  return (← changedSince? directory base).map fun files => ⟨files, current, some base, false⟩

/-- The base branch: the requested one if it exists, else the default one. -/
def base? (directory : Path) (requested : Option String) : Run (Option String) :=
  match requested with
  | none => defaultBranch? directory
  | some branch => do
    if ← branchExists directory branch then return some branch
    Run.note (.baseBranchMissing branch)
    return none

/-- What has changed: the uncommitted files if there are any, else the files that changed since the
base branch. Without a repository, a base or an answer there is no such scope. -/
def changes? (directory : Path) (requested : Option String) : Run (Option Changes) := do
  if !(← isRepository directory) then return none
  let current ← currentBranch? directory
  let files ← uncommitted directory
  if !files.isEmpty then return some ⟨files, current, none, true⟩
  match ← base? directory (requested.filter (· != "")) with
  | none => return none
  | some base => changesSince? directory current base

def sourceFiles (paths : List String) : List String :=
  paths.filter SourceFile.isSource

end Checkup.Git
