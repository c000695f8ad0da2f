import Checkup.Report.Group
import Checkup.Score
import Checkup.Text.Query

/-!
# Sharing a result

The link to a result carries the project's name, its score and the numbers of errors, of other
findings and of affected files. A number of zero is left out.
-/

namespace Checkup.Report

def shareUrl : String := "https://www.react.doctor/share"

def countParameter (name : String) (count : Nat) : List (String × String) :=
  if count == 0 then [] else [(name, toString count)]

def shareParameters (diagnostics : List Diagnostic) (affected : Nat) (score : Option Score)
    (project : String) : List (String × String) :=
  let errors := diagnostics.countP (·.isError)
  [("p", project)] ++ (score.map fun s => ("s", toString s.score)).toList ++
    countParameter "e" errors ++ countParameter "w" (diagnostics.length - errors) ++
    countParameter "f" affected

def shareLink (diagnostics : List Diagnostic) (score : Option Score) (project : String) :
    Except ShapeFault String := do
  let affected := (← affectedFiles diagnostics).length
  return shareUrl ++ "?" ++ Text.Query.ofPairs (shareParameters diagnostics affected score project)

end Checkup.Report
