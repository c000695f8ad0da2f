import Checkup.Host
import Checkup.Json.Reader

/-!
# Manifests

A package manifest is a JSON object in a file of a fixed name. A manifest that cannot be read, or
that is another kind of value, counts as empty, so that a broken package never stops a check-up.
-/

namespace Checkup

abbrev Manifest := List (String × Json)

namespace Manifest

def fileName : String := "package.json"

def file (directory : Path) : Path :=
  directory / fileName

/-- The members of an object; every other value is an empty manifest. -/
def ofJson (value : Json) : Manifest :=
  value.members?.getD []

def read (file : Path) : Run Manifest := do
  match ← Run.attempt (Run.readText file) with
  | .error (.badValue what) => throw (.badValue what)
  | .error _ =>
    Run.note (.manifestUnreadable file)
    return []
  | .ok text =>
    match Json.read text with
    | .ok value => return ofJson value
    | .error .malformed =>
      Run.note (.manifestUnreadable file)
      return []
    | .error (.tooManyDigits count) => throw (.shape (.tooManyDigits count))

def isIn (directory : Path) : Run Bool :=
  Run.isFile (file directory)

def readIn (directory : Path) : Run Manifest :=
  read (file directory)

end Manifest

end Checkup
