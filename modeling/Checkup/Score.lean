import Checkup.Diagnostic
import Checkup.Total

/-!
# The score

A project starts with a hundred points; an error takes one and a half of them, every other finding
three quarters, and nothing goes below zero. The points are counted in quarters, so that they are
exact, and the score rounds them to the nearest whole number, a half upwards.
-/

namespace Checkup

structure Score where
  score : Int
  label : String
  deriving DecidableEq, Repr, Inhabited

namespace Score

def perfect : Nat := 100

def goodThreshold : Int := 75

def fairThreshold : Int := 50

inductive Health
  | good
  | fair
  | poor
  deriving DecidableEq, Repr

def Health.label : Health → String
  | good => "Great"
  | fair => "Needs work"
  | poor => "Critical"

def health (score : Int) : Health :=
  if goodThreshold ≤ score then .good
  else if fairThreshold ≤ score then .fair
  else .poor

def labelOf (score : Int) : String :=
  (health score).label

def penalty (d : Diagnostic) : Nat :=
  if d.isError then 6 else 3

def quarters (diagnostics : List Diagnostic) : Nat :=
  4 * perfect - total penalty diagnostics

def points (diagnostics : List Diagnostic) : Float :=
  Float.ofNat (quarters diagnostics) / 4

/-- Quarters rounded to the nearest whole number, a half upwards. -/
def roundQuarters (n : Nat) : Nat :=
  (n + 2) / 4

def ofDiagnostics (diagnostics : List Diagnostic) : Score :=
  let score := roundQuarters (quarters diagnostics)
  ⟨score, labelOf score⟩

end Score

end Checkup
