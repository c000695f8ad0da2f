import Checkup.Project.Dependencies
import Checkup.Text.Lines

/-!
# Workspaces

A workspace root declares the packages that belong to it by patterns, in a workspace file or in its
manifest. A pattern is a path, or a path with one wildcard that stands for each entry of a
directory; it expands to the directories that have a manifest of their own.
-/

namespace Checkup.Workspace

/-- The workspace file, whose patterns go before those of the manifest. -/
def listFile : String := "pnpm-workspace.yaml"

/-- The other file whose presence makes a directory a workspace root. -/
def rootMarker : String := "nx.json"

def isDeclaredIn (manifest : Manifest) : Bool :=
  match Json.lookup manifest "workspaces" with
  | .array _ => true
  | .object members => (Json.lookup members "packages").isTruthy
  | _ => false

def isRoot (directory : Path) : Run Bool := do
  if ← Run.isFile (directory / listFile) then return true
  if ← Run.isFile (directory / rootMarker) then return true
  if ← Manifest.isIn directory then return isDeclaredIn (← Manifest.readIn directory)
  return false

def firstRoot? : List Path → Run (Option Path)
  | [] => return none
  | directory :: rest => do
    if ← isRoot directory then return some directory
    firstRoot? rest

def enclosingRoot? (directory : Path) : Run (Option Path) :=
  firstRoot? directory.parents

def unquoted (cs : List Char) : List Char :=
  Text.without '\'' (Text.without '"' cs)

/-- The patterns in the lines of a workspace file: the items of the list under `packages:`, up to
the next line that is neither an item, a comment nor blank. -/
def listedIn (inside : Bool) : List (List Char) → List (List Char)
  | [] => []
  | line :: rest =>
    let trimmed := Text.trim line
    if trimmed == "packages:".toList then listedIn true rest
    else if inside then
      match trimmed with
      | '-' :: item => unquoted (Text.trim item) :: listedIn true rest
      | '#' :: _ => listedIn true rest
      | [] => listedIn true rest
      | _ => listedIn false rest
    else listedIn false rest

def listed (text : String) : List String :=
  (listedIn false (Text.linesFrom [] text.toList)).map String.ofList

def listFilePatterns (root : Path) : Run (List String) := do
  if ← Run.isFile (root / listFile) then return listed (← Run.readLossy (root / listFile))
  return []

def textsIn (value : Json) : List String :=
  (value.items?.getD []).filterMap (·.text?)

def declaredIn (manifest : Manifest) : List String :=
  match Json.lookup manifest "workspaces" with
  | .array items => textsIn (.array items)
  | .object members => textsIn (Json.lookup members "packages")
  | _ => []

def patterns (root : Path) (manifest : Manifest) : Run (List String) := do
  let fromFile ← listFilePatterns root
  return if fromFile.isEmpty then declaredIn manifest else fromFile

/-- A pattern: a path, or the path before a wildcard and the path after it. -/
inductive Pattern
  | literal (path : String)
  | wildcard (base suffix : String)
  deriving DecidableEq, Repr

namespace Pattern

def shallow (cs : List Char) : List Char :=
  match cs.reverse with
  | '*' :: '*' :: '/' :: rest => rest.reverse ++ ['/', '*']
  | _ => cs

/-- Reads a pattern: quotes are dropped, and the first star is the wildcard. -/
def ofText (s : String) : Pattern :=
  let clean := shallow (unquoted s.toList)
  match clean.span (· != '*') with
  | (base, _ :: suffix) =>
    wildcard (String.ofList base) (String.ofList (suffix.dropWhile (· == '/')))
  | (path, []) => literal (String.ofList path)

end Pattern

def isPackage (directory : Path) : Run Bool := do
  if ← Run.isDirectory directory then Manifest.isIn directory else return false

def packagesAmong (directories : List Path) : Run (List Path) :=
  directories.filterM isPackage

def expand (root : Path) : Pattern → Run (List Path)
  | .literal path => packagesAmong [root / path]
  | .wildcard base suffix => do
    let directory := root / base
    if ← Run.isDirectory directory then
      packagesAmong <| (← Run.listNames directory).map fun name =>
        let entry : Path := ⟨directory.anchor, directory.names ++ [name]⟩
        if suffix == "" then entry else entry / suffix
    else return []

def directories (root : Path) (pattern : String) : Run (List Path) :=
  expand root (Pattern.ofText pattern)

end Checkup.Workspace
