import Checkup.Json.Shape
import Checkup.Json.Reader
import Checkup.RuntimeSettings
import Checkup.Score
import Checkup.Text.Encoding

/-!
# The estimated score

The score service is asked what the score would be after the findings are fixed. Its answer is
advice: where it cannot be had or understood there is none. Nothing leaves the machine when the run
is offline.
-/

namespace Checkup

/-- The score as the service sees it now, and after the findings are fixed. -/
structure Estimate where
  score : Int
  label : String
  fixedScore : Int
  fixedLabel : String
  deriving DecidableEq, Repr

namespace Estimate

/-- The score under a name; an answer without one is not understood. A number without end is the
one thing that stops a run. -/
def scoreIn (members : List (String × Json)) (name : String) : Except ShapeFault (Option Int) :=
  match Json.lookup? members name with
  | none => .ok none
  | some value =>
    match value.asWhole with
    | .ok n => .ok (some n)
    | .error (.notFinite .infinite) => .error (.notFinite .infinite)
    | .error _ => .ok none

def labelIn (members : List (String × Json)) (name : String) (score : Int) : String :=
  match (Json.lookup members name).given? with
  | some label => label.display
  | none => Score.labelOf score

def ofJson (payload : Json) : Except ShapeFault (Option Estimate) := do
  match payload with
  | .object members =>
    match ← scoreIn members "score" with
    | none => return none
    | some score =>
      match ← scoreIn members "estimatedScore" with
      | none => return none
      | some fixedScore =>
        return some ⟨score, labelIn members "label" score, fixedScore,
          labelIn members "estimatedLabel" fixedScore⟩
  | _ => return none

def ofBody (body : Content) : Except ShapeFault (Option Estimate) :=
  match Text.Encoding.decode? body.toBytes with
  | none => .ok none
  | some text =>
    match Json.read text with
    | .ok payload => ofJson payload
    | .error _ => .ok none

/-- The estimate in a reply; only a successful response has one. -/
def ofReply : Reply → Except Fault (Option Estimate)
  | .unreachable => .ok none
  | .failed fault => .error (.library fault)
  | .response status body =>
    if 200 ≤ status && status ≤ 299 then (ofBody body).mapError .shape else .ok none

def request (diagnostics : List Diagnostic) : Json :=
  .object [("diagnostics", .array (diagnostics.map (·.toJson)))]

/-- Makes a connection, which the library refuses for some proxies. -/
def connect (settings : RuntimeSettings) : Run Unit := do
  match (← get).surroundings.refusal settings.proxy with
  | none => modify (·.record (.connect settings.fetchTimeout settings.proxy))
  | some fault => throw (.library fault)

/-- Asks the service over a connection of its own or over one that is there. -/
def ask (diagnostics : List Diagnostic) (settings : RuntimeSettings) (ownConnection : Bool) :
    Run (Option Estimate) := do
  if settings.offline then return none
  if ownConnection then connect settings
  modify (·.record (.post settings.scoreUrl (request diagnostics)))
  match ofReply (← get).surroundings.score with
  | .ok estimate => return estimate
  | .error fault => throw fault

end Estimate

end Checkup
