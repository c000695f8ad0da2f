import Checkup.Decimal.Exact
import Checkup.Diagnostic
import Checkup.Json.Shape
import Checkup.Score

/-!
# Words for numbers

How durations, counts, scores and severities are shown on the console.
-/

namespace Checkup.Words

def rounded (ms : Number) : Except ShapeFault Int :=
  match ms with
  | .whole n => .ok n
  | .real x => (Decimal.round x).mapError .notFinite

/-- A duration: milliseconds below one second, else seconds with one decimal place. -/
def duration (ms : Number) : Except ShapeFault String :=
  if ms.toFloat < 1000.0 then do return toString (← rounded ms) ++ "ms"
  else .ok (Decimal.fixed 1 (ms.toFloat / 1000.0) ++ "s")

def count (n : Int) (word : String) : String :=
  toString n ++ " " ++ word ++ if n == 1 then "" else "s"

def healthStyle : Score.Health → String
  | .good => "green"
  | .fair => "yellow"
  | .poor => "red"

def face : Score.Health → String × String
  | .good => ("◠ ◠", " ▽ ")
  | .fair => ("• •", " ─ ")
  | .poor => ("x x", " ▽ ")

def severityStyle : Severity → String
  | .error => "red"
  | _ => "yellow"

def severityMark : Severity → String
  | .error => "✗"
  | _ => "⚠"

/-- How much of a bar a score fills: the nearest number of cells, a half to the even one. -/
def filledCells (score : Int) (width : Int) : Int :=
  let share := Float.ofInt score / 100.0 * Float.ofInt width
  ((Decimal.round share).toOption).getD 0

def bar (score : Int) (width : Int) : String :=
  let filled := filledCells score width
  String.ofList (List.replicate filled.toNat '█' ++ List.replicate (width - filled).toNat '░')

def barWidth : Int := 50

end Checkup.Words
