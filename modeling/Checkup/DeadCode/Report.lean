import Checkup.Lint.Report

/-!
# The dead-code report

The dead-code tool prints a JSON object with unused files and with issues, each about one file. An
issue lists unused exports, unused types and groups of names for one thing. A file is reported as
unused once, whichever way it is listed.
-/

namespace Checkup.DeadCode

def toolName : String := "knip"

inductive Issue
  | unusedFile
  | unusedExport
  | unusedType
  | duplicate
  deriving DecidableEq, Repr

namespace Issue

def rule : Issue → String
  | unusedFile => "files"
  | unusedExport => "exports"
  | unusedType => "types"
  | duplicate => "duplicates"

def message : Issue → String
  | unusedFile => "Unused file"
  | unusedExport => "Unused export"
  | unusedType => "Unused type"
  | duplicate => "Duplicate export"

def help (issue : Issue) (names : String) : String :=
  match issue with
  | unusedFile => "Delete the file or import it from an entry point"
  | unusedExport => "Remove the export of `" ++ names ++ "` or use it elsewhere"
  | unusedType => "Remove the exported type `" ++ names ++ "` or use it elsewhere"
  | duplicate => "`" ++ names ++ "` are exported more than once; keep a single export"

def diagnostic (issue : Issue) (file : Json) (names : String) (line column : Int) : Diagnostic :=
  { file, plugin := toolName, rule := issue.rule, severity := .warning, message := issue.message,
    help := .text (issue.help names), line, column, category := .deadCode }

end Issue

def unusedFile (file : Json) : Diagnostic :=
  Issue.unusedFile.diagnostic file "" 0 0

def nameIn (members : List (String × Json)) : Json :=
  (Json.lookup? members "name").getD (.text "")

def position (members : List (String × Json)) : Except ShapeFault (Int × Int) := do
  let line ← (Json.lookup members "line").asCount
  let column ← (Json.lookup members "col").asCount
  return (line, column)

def symbols (issue : Issue) (file : Json) : List Json → Except ShapeFault (List Diagnostic)
  | [] => return []
  | .object members :: rest => do
    let (line, column) ← position members
    let found := issue.diagnostic file (nameIn members).display line column
    return found :: (← symbols issue file rest)
  | _ :: rest => symbols issue file rest

def joinedNames (place : Nat) : List Json → Except ShapeFault (List String)
  | [] => return []
  | .object members :: rest =>
    match nameIn members with
    | .text name => return name :: (← joinedNames (place + 1) rest)
    | other => throw (.itemNotText place other.kindName)
  | _ :: rest => joinedNames place rest

def duplicate (file : Json) (group : List Json) : Except ShapeFault Diagnostic := do
  let names ← joinedNames 0 group
  let (line, column) ← position ((group.head?.bind (·.members?)).getD [])
  return Issue.duplicate.diagnostic file (String.intercalate ", " names) line column

def duplicates (file : Json) : List Json → Except ShapeFault (List Diagnostic)
  | [] => return []
  | .array (first :: others) :: rest => do
    let found ← duplicate file (first :: others)
    return found :: (← duplicates file rest)
  | _ :: rest => duplicates file rest

def listedFiles (seen : List Json) : List Json → List Json
  | [] => []
  | .text name :: rest =>
    if seen.any (Json.sameKey (.text name)) then listedFiles seen rest
    else .text name :: listedFiles (.text name :: seen) rest
  | _ :: rest => listedFiles seen rest

/-- The unused file of an issue, if it lists files and its own is not yet reported. -/
def issueFile (seen : List Json) (issue file : Json) : Except ShapeFault (List Json) := do
  if (← issue.get "files").isTruthy then
    let key ← file.asKey
    return if seen.any (Json.sameKey key) then [] else [key]
  else return []

def issueEntries (issue file : Json) : Except ShapeFault (List Diagnostic) := do
  let exports ← symbols .unusedExport file (← (← issue.get "exports").eachGiven)
  let types ← symbols .unusedType file (← (← issue.get "types").eachGiven)
  let groups ← duplicates file (← (← issue.get "duplicates").eachGiven)
  return exports ++ types ++ groups

/-- The diagnostics of the issues; those without a file are passed over. -/
def issues (seen : List Json) : List Json → Except ShapeFault (List Diagnostic)
  | [] => return []
  | issue :: rest => do
    let file ← issue.get "file"
    if !file.isTruthy then issues seen rest
    else
      let unused ← issueFile seen issue file
      let found ← issueEntries issue file
      return unused.map unusedFile ++ found ++ (← issues (unused ++ seen) rest)

/-- The diagnostics of a report: the listed files, then the issues in their order. -/
def ofReport (report : List (String × Json)) : Except ShapeFault (List Diagnostic) := do
  let files := listedFiles [] (← (Json.lookup report "files").eachGiven)
  let found ← issues files (← (Json.lookup report "issues").eachGiven)
  return files.map unusedFile ++ found

/-- The diagnostics of a printed report; nothing printed is a report without findings. -/
def parseReport (output : String) : Except Fault (List Diagnostic) := do
  let report := Text.strip output
  if report == "" then return []
  match ← readReport toolName report with
  | .object members => (ofReport members).mapError .shape
  | _ => throw (misshapenReport toolName report)

end Checkup.DeadCode
