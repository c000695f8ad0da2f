import Checkup.Project.Manifest
import Checkup.Text.Search

/-!
# Settings

What a project sets for its check-ups, in a settings file of its own or under a key of its
manifest. Settings that are malformed are noted and passed over; only a settings file is a reason
to look at the manifest as well.
-/

namespace Checkup

inductive FailOn
  | error
  | warning
  | never
  deriving DecidableEq, Repr, Inhabited

/-- Which changes a run is limited to by default: switched on or off, or those against a branch. -/
inductive DiffSetting
  | switch (on : Bool)
  | branch (name : String)
  deriving DecidableEq, Repr

/-- The settings of a project; what is not set is left to the defaults. -/
structure Settings where
  ignoredRules : List String := []
  ignoredFiles : List String := []
  lint : Option Bool := none
  deadCode : Option Bool := none
  verbose : Option Bool := none
  diff : Option DiffSetting := none
  failOn : Option FailOn := none
  deriving DecidableEq, Repr, Inhabited

namespace FailOn

def all : List FailOn := [error, warning, never]

def name : FailOn → String
  | error => "error"
  | warning => "warning"
  | never => "none"

def ofName? (name : String) : Option FailOn :=
  all.find? (·.name == name)

theorem ofName?_name (level : FailOn) : ofName? level.name = some level := by
  cases level <;> decide

end FailOn

namespace Settings

def onWords : List String := ["1", "on", "t", "true", "y", "yes"]

def offWords : List String := ["0", "off", "f", "false", "n", "no"]

def switchOfInt? : Int → Option Bool
  | 0 => some false
  | 1 => some true
  | _ => none

/-- A switch: a truth value, one or zero, or a word for it in any case. -/
def switch? : Json → Option Bool
  | .bool on => some on
  | .number (.whole n) => switchOfInt? n
  | .number (.real x) => (Decimal.whole? x).bind switchOfInt?
  | .text word =>
    if onWords.contains (Text.lower word) then some true
    else if offWords.contains (Text.lower word) then some false
    else none
  | _ => none

def optional? {α : Type} (read? : Json → Option α) : Json → Option (Option α)
  | .null => some none
  | value => (read? value).map some

/-- A diff setting: a text is the name of a branch, whatever it says. -/
def diff? : Json → Option DiffSetting
  | .text name => some (.branch name)
  | value => (switch? value).map .switch

def failOn? (value : Json) : Option FailOn :=
  value.text?.bind FailOn.ofName?

def texts? (value : Json) : Option (List String) :=
  value.items?.bind fun items => items.mapM (·.text?)

/-- The value under the first of the names that is present, or the default. -/
def field? {α : Type} (members : List (String × Json)) (names : List String)
    (read? : Json → Option α) (default : α) : Option α :=
  match names.findSome? (Json.lookup? members) with
  | some value => read? value
  | none => some default

def ignore? (value : Json) : Option (List String × List String) := do
  let members ← value.members?
  let rules ← field? members ["rules"] texts? []
  let files ← field? members ["files"] texts? []
  return (rules, files)

/-- Reads settings; each has to be of its kind, and names that mean nothing are passed over. -/
def ofJson? (value : Json) : Option Settings := do
  let members ← value.members?
  let (ignoredRules, ignoredFiles) ← field? members ["ignore"] ignore? ([], [])
  let lint ← field? members ["lint"] (optional? switch?) none
  let deadCode ← field? members ["deadCode", "dead_code"] (optional? switch?) none
  let verbose ← field? members ["verbose"] (optional? switch?) none
  let diff ← field? members ["diff"] (optional? diff?) none
  let failOn ← field? members ["failOn", "fail_on"] (optional? failOn?) none
  return { ignoredRules, ignoredFiles, lint, deadCode, verbose, diff, failOn }

def fileName : String := "react-doctor.config.json"

def manifestKey : String := "reactDoctor"

/-- The value in a file; none when it is missing or no JSON. A file that is no text, or holds a
number of too many digits, stops the run. -/
def valueIn (file : Path) : Run (Option Json) := do
  match ← Run.attempt (Run.readText file) with
  | .error (.system _) => return none
  | .error fault => throw fault
  | .ok text =>
    match Json.read text with
    | .ok value => return some value
    | .error .malformed => return none
    | .error (.tooManyDigits count) => throw (.shape (.tooManyDigits count))

def ofFile (file : Path) : Run (Option Settings) := do
  match ← valueIn file with
  | some (.object members) =>
    match ofJson? (.object members) with
    | some settings => return some settings
    | none =>
      Run.note .settingsUnreadable
      return none
  | some _ =>
    Run.note .settingsNotObject
    return none
  | none =>
    Run.note .settingsUnreadable
    return none

/-- The settings under the key of a manifest, if they are usable. -/
def ofManifestFile (file : Path) : Run (Option Settings) := do
  match ← valueIn file with
  | some manifest =>
    match manifest.member? manifestKey with
    | some (.object members) =>
      match ofJson? (.object members) with
      | some settings => return some settings
      | none =>
        Run.note .embeddedSettingsIgnored
        return none
    | _ => return none
  | none =>
    Run.note .embeddedSettingsIgnored
    return none

/-- The settings of a project: those of its settings file, else those in its manifest. -/
def load (root : Path) : Run (Option Settings) := do
  if ← Run.isFile (root / fileName) then
    if let some settings ← ofFile (root / fileName) then return some settings
  if ← Manifest.isIn root then ofManifestFile (Manifest.file root) else return none

end Settings

end Checkup
