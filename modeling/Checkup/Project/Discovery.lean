import Checkup.Project.Workspace
import Checkup.Git

/-!
# Project discovery

What a check-up has to know about a project before it starts: the React version and the framework
from its manifest, its workspaces and the workspace root around it, the language, the React
compiler and the number of source files.
-/

namespace Checkup

structure Project where
  root : Path
  name : String
  react : Option Json
  framework : Framework
  typeScript : Bool
  compiler : Bool
  sourceFiles : Nat
  deriving Inhabited, Repr

structure Package where
  name : Json
  directory : Path
  deriving Inhabited, Repr

namespace ReactFacts

def ofPackages (facts : ReactFacts) : List Path → Run ReactFacts
  | [] => return facts
  | directory :: rest => do
    let filled := facts.fillFrom (ofManifest (← Manifest.readIn directory))
    if filled.isComplete then return filled
    ofPackages filled rest

/-- The facts of the packages that the patterns name, in turn, until both are known. -/
def ofPatterns (root : Path) (facts : ReactFacts) : List String → Run ReactFacts
  | [] => return facts
  | pattern :: rest => do
    let found ← ofPackages facts (← Workspace.directories root pattern)
    if found.isComplete then return found
    ofPatterns root found rest

def ofWorkspaces (root : Path) (manifest : Manifest) : Run ReactFacts := do
  ofPatterns root empty (← Workspace.patterns root manifest)

/-- The facts of a manifest in a directory: its own, and then those of its workspaces. -/
def ofOwn (directory : Path) (manifest : Manifest) : Run ReactFacts := do
  let own := ofManifest manifest
  if own.isComplete then return own
  return own.fillFrom (← ofWorkspaces directory manifest)

def ofEnclosingRoot (directory : Path) : Run ReactFacts := do
  match ← Workspace.enclosingRoot? directory with
  | none => return empty
  | some root => if ← Manifest.isIn root then ofOwn root (← Manifest.readIn root) else return empty

/-- The facts about a manifest: its own, those of its workspaces, and, unless its directory is a
workspace root itself, those of the workspace root around it. -/
def resolve (directory : Path) (manifest : Manifest) : Run ReactFacts := do
  let facts ← ofOwn directory manifest
  if facts.isComplete then return facts
  if ← Workspace.isRoot directory then return facts
  return facts.fillFrom (← ofEnclosingRoot directory)

end ReactFacts

namespace Project

def skippedDirectories : List String :=
  ["node_modules", "dist", "build", "coverage"]

/-- Whether source files are counted in a directory of this name. -/
def isVisible (name : String) : Bool :=
  name.toList.head? != some '.' && !skippedDirectories.contains name

/-- The path of an entry as a walk writes it, after the path of its directory and one slash. -/
def entryText (directory name : String) : String :=
  if directory.toList.getLast? == some '/' then directory ++ name else directory ++ "/" ++ name

mutual

/-- The source files at an entry and below it. A directory is passed over where it is not visible,
and where its path is longer than the system allows. -/
def countNode (directory name : String) : Node → Nat
  | .file _ => if SourceFile.isSource name then 1 else 0
  | .directory entries =>
    let path := entryText directory name
    if isVisible name && Text.Utf8.size path ≤ Host.pathLimit then countEntries path entries else 0

/-- The source files among the entries of a directory and below. -/
def countEntries (directory : String) : List (String × Node) → Nat
  | [] => 0
  | (name, node) :: rest => countNode directory name node + countEntries directory rest

end

def countInTree (directory : Path) : Run Nat := do
  match (← get).node directory with
  | .ok node => return countEntries directory.text node.entries
  | .error .nulCharacter => throw (AccessFault.nulCharacter.toFault directory)
  | .error _ => return 0

/-- The number of source files: those that git lists, or those of a walk. -/
def countSourceFiles (directory : Path) : Run Nat := do
  match ← Git.files? directory with
  | some files => return (files.filter SourceFile.isSource).length
  | none => countInTree directory

/-- The configuration files that can switch the React compiler on. -/
def compilerFiles : List String :=
  ["next.config.js", "next.config.mjs", "next.config.ts", "next.config.cjs",
    ".babelrc", ".babelrc.json",
    "babel.config.js", "babel.config.json", "babel.config.cjs", "babel.config.mjs",
    "vite.config.js", "vite.config.ts", "vite.config.mjs", "vite.config.cjs",
    "app.json", "app.config.js", "app.config.ts"]

/-- Whether the text of a configuration file names the React compiler. -/
def mentionsCompiler (text : String) : Bool :=
  Text.contains text "react-compiler" || Text.contains text "reactCompiler"

def anyMentionsCompiler : List Path → Run Bool
  | [] => return false
  | file :: rest => do
    if ← Run.isFile file then
      if mentionsCompiler (← Run.readLossy file) then return true
    anyMentionsCompiler rest

/-- Whether one of the directories has a manifest with the React compiler. -/
def anyDependsOnCompiler : List Path → Run Bool
  | [] => return false
  | directory :: rest => do
    if ← Manifest.isIn directory then
      if (Dependencies.ofManifest (← Manifest.readIn directory)).hasCompiler then return true
    anyDependsOnCompiler rest

/-- Whether the project uses the React compiler, by its manifest, its configuration files or the
manifests of its ancestors. -/
def detectCompiler (directory : Path) (manifest : Manifest) : Run Bool := do
  if (Dependencies.ofManifest manifest).hasCompiler then return true
  if ← anyMentionsCompiler (compilerFiles.map (directory / ·)) then return true
  anyDependsOnCompiler directory.parents

def nameOf (manifest : Manifest) (directory : Path) : String :=
  match Json.lookup manifest "name" with
  | .text name => if name == "" then directory.name else name
  | _ => directory.name

/-- Finds out about the project in a directory whose manifest may lie elsewhere. -/
def discover (directory : Path) (manifestDirectory : Option Path) : Run Project := do
  let manifestIn := manifestDirectory.getD directory
  if !(← Manifest.isIn manifestIn) then throw (.noManifest manifestIn)
  let manifest ← Manifest.readIn manifestIn
  let facts ← ReactFacts.resolve manifestIn manifest
  let typeScript ← Run.pathExists (directory / "tsconfig.json")
  let compiler ← detectCompiler directory manifest
  let sourceFiles ← countSourceFiles directory
  return { root := directory, name := nameOf manifest directory, react := facts.version,
           framework := facts.framework, typeScript, compiler, sourceFiles }

end Project

namespace Package

/-- The package in a directory, under the name that its manifest gives or that of the directory. -/
def ofManifest (manifest : Manifest) (directory : Path) : Package :=
  ⟨(Json.lookup manifest "name").given?.getD (.text directory.name), directory⟩

def reactAmong : List Path → Run (List Package)
  | [] => return []
  | directory :: rest => do
    let manifest ← Manifest.readIn directory
    let others ← reactAmong rest
    if (Dependencies.ofManifest manifest).hasReact then
      return ofManifest manifest directory :: others
    return others

def reactInPatterns (root : Path) : List String → Run (List Package)
  | [] => return []
  | pattern :: rest => do
    let found ← reactAmong (← Workspace.directories root pattern)
    return found ++ (← reactInPatterns root rest)

def inWorkspaces (root : Path) (manifestDirectory : Option Path) : Run (List Package) := do
  let manifestIn := manifestDirectory.getD root
  if !(← Manifest.isIn manifestIn) then return []
  let manifest ← Manifest.readIn manifestIn
  reactInPatterns root (← Workspace.patterns manifestIn manifest)

/-- The package of a directory, if it has a manifest that depends on React. -/
def reactIn? (directory : Path) : Run (Option Package) := do
  if ← Manifest.isIn directory then
    let manifest ← Manifest.readIn directory
    if (Dependencies.ofManifest manifest).hasReact then
      return some (ofManifest manifest directory)
  return none

/-- The packages of the named entries of a directory, without the hidden and the installed ones. -/
def reactInEntries (directory : Path) : List String → Run (List Package)
  | [] => return []
  | name :: rest => do
    let entry : Path := ⟨directory.anchor, directory.names ++ [name]⟩
    let isCandidate ← Run.isDirectory entry
    if !isCandidate || name.toList.head? == some '.' || name == "node_modules" then
      reactInEntries directory rest
    else
      let found ← reactIn? entry
      return found.toList ++ (← reactInEntries directory rest)

/-- The root and its immediate subdirectories, as far as they depend on React. -/
def inSubdirectories (root : Path) (manifestDirectory : Option Path) : Run (List Package) := do
  let searched := manifestDirectory.getD root
  if !(← Run.isDirectory searched) then return []
  let own ← reactIn? root
  return own.toList ++ (← reactInEntries searched (← Run.listNames searched))

end Package

end Checkup
