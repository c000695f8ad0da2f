import Checkup.Host
import Checkup.Text.Blank

/-!
# Finding Node

The linter needs a Node of a suitable version. A configured one is taken as it is; otherwise the one
on the search path is taken if it is suitable, and else the newest suitable one under nvm.
-/

namespace Checkup

structure NodeVersion where
  major : Int
  minor : Int
  patch : Int
  deriving DecidableEq, Repr, Inhabited

structure NodeProgram where
  binary : String
  version : String
  onPath : Bool
  deriving DecidableEq, Repr, Inhabited

namespace NodeVersion

def part (piece : Option (List Char)) : Int :=
  match piece with
  | none => 0
  | some cs => ((Decimal.readWhole (String.ofList cs)).toOption).getD 0

def ofText (s : String) : NodeVersion :=
  let pieces := Text.cut '.' ((Text.trim s.toList).dropWhile (· == 'v'))
  ⟨part pieces[0]?, part pieces[1]?, part pieces[2]?⟩

/-- Whether the linter runs on the version: 20.19 or later within 20, 22.12 or later within 22, or
any later one. -/
def isSuitable (v : NodeVersion) : Bool :=
  if v.major == 20 then 19 ≤ v.minor
  else if v.major == 22 then 12 ≤ v.minor
  else 22 < v.major

def notAfter (v w : NodeVersion) : Bool :=
  if v.major != w.major then v.major < w.major
  else if v.minor != w.minor then v.minor < w.minor
  else v.patch ≤ w.patch

def requirement : String := "^20.19.0 || >=22.12.0"

def recommendedMajor : Nat := 24

end NodeVersion

namespace NodeProgram

def reportedVersion? (binary : String) : Run (Option String) := do
  match (← get).nodeSays binary with
  | .ok answer => return (answer.output?.map Text.strip).filter (· != "")
  | .error fault => throw fault

/-- The home directory: what the variable for it says, or else the user's account, without slashes
at its end, and the root directory when that leaves nothing. A tilde in front would lead back to the
variable. -/
def homeDirectory : Run Path := do
  let host ← get
  let home := ((host.environment.value? "HOME").or host.surroundings.accountHome).getD "~"
  let kept := (home.toList.reverse.dropWhile (· == '/')).reverse
  if kept.head? == some '~' then throw (.broken "Could not determine home directory.")
  return if kept.isEmpty then .root else Path.ofText (String.ofList kept)

def directory? (p : Path) : Run (Option Path) := do
  return if ← Run.isDirectory p then some p else none

/-- The directory of nvm: the one that the variables name if it is there, else the usual one. -/
def nvmDirectory? (environment : Variables) : Run (Option Path) := do
  let configured ← match environment.given? "NVM_DIR" with
    | some written => directory? (Path.ofText written)
    | none => pure none
  match configured with
  | some found => return some found
  | none => directory? ((← homeDirectory) / ".nvm")

def versionsDirectory (nvm : Path) : Path :=
  nvm / "versions" / "node"

def newer (best : Option (NodeVersion × String)) (candidate : NodeVersion × String) :
    Option (NodeVersion × String) :=
  match best with
  | none => some candidate
  | some found => if candidate.1.notAfter found.1 then some found else some candidate

/-- The directory name of the newest suitable version, if there is one. -/
def newestSuitable? (names : List String) : Option String :=
  let versions := (names.filter fun name => name.toList.head? == some 'v').map
    fun name => (NodeVersion.ofText name, name)
  ((versions.filter (·.1.isSuitable)).foldl newer none).map (·.2)

def installedNames (nvm : Path) : Run (List String) := do
  let directory := versionsDirectory nvm
  return (← Run.access directory (·.node directory)).entries.map (·.1)

/-- The binary of the newest suitable version under nvm, if that version has one. -/
def nvmBinary? (nvm : Option Path) : Run (Option String) := do
  match nvm with
  | none => return none
  | some directory =>
    if ← Run.isDirectory (versionsDirectory directory) then
      match newestSuitable? (← installedNames directory) with
      | none => return none
      | some name =>
        let versions := versionsDirectory directory
        let binary : Path := ⟨versions.anchor, versions.names ++ [name, "bin", "node"]⟩
        if ← Run.pathExists binary then return some binary.text else return none
    else return none

def configured? (binary : String) : Run (Option NodeProgram) := do
  match ← reportedVersion? binary with
  | some version => return some ⟨binary, version, false⟩
  | none =>
    Run.note (.nodeNotRunnable binary)
    return none

def onSearchPath? : Run (Option NodeProgram) := do
  match ((← get).surroundings.program "node" none).filter (· != "") with
  | none => return none
  | some binary =>
    match ← reportedVersion? binary with
    | some version =>
      if (NodeVersion.ofText version).isSuitable then return some ⟨binary, version, true⟩
      else return none
    | none => return none

def underNvm? : Run (Option NodeProgram) := do
  match ← nvmBinary? (← nvmDirectory? (← get).environment) with
  | none => return none
  | some binary => return (← reportedVersion? binary).map fun version => ⟨binary, version, false⟩

/-- The Node for the linter: the configured one, or the first suitable one that is found. -/
def resolve (configured : Option String) : Run (Option NodeProgram) := do
  match configured.filter (· != "") with
  | some binary => configured? binary
  | none =>
    match ← onSearchPath? with
    | some found => return some found
    | none => underNvm?

end NodeProgram

end Checkup
