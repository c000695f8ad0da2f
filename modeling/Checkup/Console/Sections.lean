import Checkup.Console.Words
import Checkup.Estimate
import Checkup.Node
import Checkup.Report.Group
import Checkup.Scan
import Checkup.Text.Lines

/-!
# The sections of the output

What a run prints about a project: what was found out about it, the findings by rule, the summary in
a panel, and the checks that failed. Texts from the project are protected from being read as markup.
-/

namespace Checkup.Sections

open Run (say sayNothing escaped)

def orFail {α : Type} (result : Except ShapeFault α) : Run α :=
  match result with
  | .ok found => pure found
  | .error fault => throw (.shape fault)

def found : String := "[green]✔[/]"

def project (p : Project) (hasSettings : Bool) (changed : Option Int) : Run Unit := do
  let version ← escaped (p.react.getD .null).display
  let language := if p.typeScript then "TypeScript" else "JavaScript"
  let compiler := if p.compiler then "[cyan]Found React Compiler.[/]" else "Not found."
  say (found ++ " Detecting framework. Found [cyan]" ++ p.framework.displayName ++ "[/].")
  say (found ++ " Detecting React version. Found [cyan]React " ++ version ++ "[/].")
  say (found ++ " Detecting language. Found [cyan]" ++ language ++ "[/].")
  say (found ++ " Detecting React Compiler. " ++ compiler)
  match changed with
  | some n => say (found ++ " Scanning [cyan]" ++ toString n ++ "[/] changed source files.")
  | none => say (found ++ " Found [cyan]" ++ toString p.sourceFiles ++ "[/] source files.")
  if hasSettings then say (found ++ " Loaded [cyan]react-doctor config[/].")
  sayNothing

def sayFaint (line : String) : Run Unit := do
  say ("    [dim]" ++ (← escaped line) ++ "[/]")

def sayAllFaint : List String → Run Unit
  | [] => return
  | line :: rest => do
    sayFaint line
    sayAllFaint rest

/-- The lines of what helps, which has to be a text if there is anything. -/
def helpLines (help : Json) : Except ShapeFault (List String) :=
  if !help.isTruthy then .ok []
  else match help with
    | .text s => .ok (Text.lines s)
    | other => .error (.noOperation other.kindName "splitlines")

/-- The places of a group; a file that has no lines there has to be a text. -/
def sayPlaces : List Report.FileLines → Run Unit
  | [] => return
  | entry :: rest => do
    sayFaint (← orFail entry.text.asText)
    sayPlaces rest

def countMark (group : Report.Group) (style : String) : String :=
  if 1 < group.size then " [" ++ style ++ "](" ++ toString group.size ++ ")[/]" else ""

def group (g : Report.Group) (verbose : Bool) : Run Unit := do
  let style := Words.severityStyle g.first.severity
  say ("  [" ++ style ++ "]" ++ Words.severityMark g.first.severity ++ "[/] " ++
    (← escaped g.first.message) ++ countMark g style)
  sayAllFaint (← orFail (helpLines g.first.help))
  if verbose then sayPlaces (← orFail (Report.FileLines.ofDiagnostics g.members))
  sayNothing

def groups (verbose : Bool) : List Report.Group → Run Unit
  | [] => return
  | g :: rest => do
    group g verbose
    groups verbose rest

def findings (diagnostics : List Diagnostic) (verbose : Bool) : Run Unit := do
  groups verbose (← orFail (Report.Group.ofDiagnostics diagnostics))

def brand : String := "React Doctor (www.react.doctor)"

def scoreLines (score : Option Score) (noScore : String) : List String :=
  match score with
  | none => [brand, "", noScore]
  | some s =>
    let (eyes, mouth) := Words.face (Score.health s.score)
    ["┌─────┐", "│ " ++ eyes ++ " │", "│ " ++ mouth ++ " │", "└─────┘", brand, "",
      toString s.score ++ " / " ++ toString Score.perfect ++ "  " ++ s.label, "",
      Words.bar s.score Words.barWidth]

def countPart (mark : String) (n : Nat) (word : String) : String :=
  if n == 0 then "" else mark ++ " " ++ Words.count n word ++ "  "

def filesPart (affected : Nat) (total : Int) : String :=
  if 0 < total then "across " ++ toString affected ++ "/" ++ toString total ++ " files"
  else "across " ++ Words.count affected "file"

def countsLine (result : ScanResult) (total : Int) : Except ShapeFault String := do
  let affected := (← Report.affectedFiles result.diagnostics).length
  let duration ← Words.duration result.elapsed
  return countPart "✗" result.errors "error" ++ countPart "⚠" result.warnings "warning" ++
    filesPart affected total ++ "  in " ++ duration

/-- The line with the estimated score, where fixing the findings would raise it. -/
def estimateLines : Option Estimate → List String
  | none => []
  | some e =>
    if e.score < e.fixedScore then
      ["Estimated score after fixing: " ++ toString e.fixedScore ++ " (" ++ e.fixedLabel ++ ")"]
    else []

structure Extras where
  noScore : String
  total : Int
  directory : Option String
  share : Option String
  estimate : Option Estimate

def summary (result : ScanResult) (extras : Extras) : Run Unit := do
  let counts ← orFail (countsLine result extras.total)
  Run.printPanel
    (scoreLines result.score extras.noScore ++ ["", counts] ++ estimateLines extras.estimate)
  match extras.directory with
  | some directory =>
    say ("\n  [dim]Full diagnostics written to " ++ (← escaped directory) ++ "[/]")
  | none => pure ()
  match extras.share.filter (· != "") with
  | some link => say ("\n  [dim]Share your results:[/] [cyan]" ++ (← escaped link) ++ "[/]")
  | none => pure ()

def skippedLabel (checks : List String) : String :=
  String.intercalate " and " checks

/-- The result without findings, `checks` being those that failed. -/
def clean (checks : List String) (score : Option Score) (noScore : String) : Run Unit := do
  if checks.isEmpty then
    say "[green]✔ No issues found![/]\n"
    if score.isNone then say ("  [dim]" ++ noScore ++ "[/]")
    else Run.printPanel (scoreLines score noScore)
  else
    say ("[yellow]No issues detected, but " ++ skippedLabel checks ++
      " checks failed — results are incomplete.[/]")
    say "\n  [dim]Score not shown — some checks could not complete.[/]"

def reason (check why : String) : Run Unit := do
  if Text.contains (Text.lower why) "native binding" then
    say ("  [dim]" ++ check ++ ": oxlint native binding not found. Upgrade to Node " ++
      NodeVersion.requirement ++ " or run: npx -p oxlint@latest react-doctor@latest[/]")
  else say ("  [dim]" ++ check ++ ": " ++ (← escaped why) ++ "[/]")

def reasons : List (String × String) → Run Unit
  | [] => return
  | (check, why) :: rest => do
    reason check why
    reasons rest

def skipped (checks : List String) (why : List (String × String)) : Run Unit := do
  if !checks.isEmpty then
    say ("\n  [yellow]Note: " ++ skippedLabel checks ++
      " checks failed — score may be incomplete.[/]")
    reasons why

end Checkup.Sections
