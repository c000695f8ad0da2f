import Checkup.Path
import Checkup.Json.Display
import Checkup.Decimal.Numeral

/-!
# Faults

Everything that can stop a step, by its cause. A fault of the domain has a message of its own. The
others, when they come out of a report that an analyzer printed, are shown by their kind and their
wording.
-/

namespace Checkup

/-- A check that could not do its work: which tool, why, and whether the tool's native part is what
is missing. -/
structure CheckFailure where
  tool : String
  detail : String
  nativeBinding : Bool
  deriving Repr, DecidableEq, Inhabited

/-- The ways in which untyped data fails to be what a step needs. -/
inductive ShapeFault
  /-- the value has no such operation -/
  | noOperation (kindName operation : String)
  /-- the value is searched as text and is none -/
  | notText (kindName : String)
  /-- the value is gone through and has no items -/
  | notIterable (kindName : String)
  /-- the value is indexed and has no items -/
  | notIndexed (kindName : String)
  /-- the value is used as a number and is none -/
  | notNumber (kindName : String)
  /-- the value is used as a key and cannot be one -/
  | notKey (kindName : String)
  /-- the item of a joined list is no text -/
  | itemNotText (position : Nat) (kindName : String)
  /-- a list has no item where one is needed -/
  | noItem
  /-- a table has no such key -/
  | noKey (key : String)
  /-- the text is not a whole number -/
  | notNumeral (text : String)
  /-- the whole number is too long -/
  | tooManyDigits (count : Nat)
  /-- the real number has no whole part -/
  | notFinite (cause : Decimal.NotFinite)
  deriving Repr, DecidableEq

/-- A failure of a library, which has a kind and a wording of its own. -/
structure LibraryFault where
  kind : String
  wording : String
  deriving Repr, DecidableEq, Inhabited

inductive Fault
  /-- the manifest directory has no manifest -/
  | noManifest (directory : Path)
  /-- nothing depends on React -/
  | noReact
  /-- no package has the requested name -/
  | noSuchProject (requested available : String)
  /-- a check failed -/
  | check (failure : CheckFailure)
  /-- data of the wrong shape -/
  | shape (fault : ShapeFault)
  /-- settings of the wrong shape -/
  | settings
  /-- a numeric setting or parameter outside what is allowed -/
  | badValue (what : String)
  /-- bytes that are no text -/
  | undecodable
  /-- the system refused -/
  | system (wording : String)
  /-- a wait took too long -/
  | timeout (wording : String)
  /-- a service of the host broke down -/
  | broken (wording : String)
  /-- a library failed -/
  | library (fault : LibraryFault)
  /-- the user ended the dialogue -/
  | aborted
  deriving Repr, DecidableEq

namespace ShapeFault

def kind : ShapeFault → String
  | noOperation .. => "AttributeError"
  | notText _ | notIterable _ | notIndexed _ | notNumber _ | notKey _ | itemNotText .. =>
    "TypeError"
  | noItem => "IndexError"
  | noKey _ => "KeyError"
  | notNumeral _ | tooManyDigits _ | notFinite .undefined => "ValueError"
  | notFinite .infinite => "OverflowError"

def wording : ShapeFault → String
  | noOperation kindName operation => s!"'{kindName}' object has no attribute '{operation}'"
  | notText kindName => s!"expected string or bytes-like object, got '{kindName}'"
  | notIterable kindName => s!"'{kindName}' object is not iterable"
  | notIndexed kindName => s!"'{kindName}' object is not subscriptable"
  | notNumber kindName =>
    s!"int() argument must be a string, a bytes-like object or a real number, not '{kindName}'"
  | notKey kindName => s!"unhashable type: '{kindName}'"
  | itemNotText position kindName =>
    s!"sequence item {position}: expected str instance, {kindName} found"
  | noItem => "list index out of range"
  | noKey key => key
  | notNumeral text =>
    "invalid literal for int() with base 10: " ++ Text.clip 200 (Json.Display.quoted text)
  | tooManyDigits count =>
    s!"Exceeds the limit ({Decimal.digitLimit} digits) for integer string conversion: " ++
      s!"value has {count} digits; use sys.set_int_max_str_digits() to increase the limit"
  | notFinite .undefined => "cannot convert float NaN to integer"
  | notFinite .infinite => "cannot convert float infinity to integer"

end ShapeFault

namespace CheckFailure

def message (failure : CheckFailure) : String :=
  s!"Failed to run {failure.tool}: {failure.detail}"

end CheckFailure

/-- The beginnings of the system's refusals that have a kind of their own. -/
def refusalKinds : List (String × String) :=
  [("[Errno 2]", "FileNotFoundError"), ("[Errno 17]", "FileExistsError"),
    ("[Errno 20]", "NotADirectoryError"), ("[Errno 21]", "IsADirectoryError")]

def refusalKind (wording : String) : String :=
  ((refusalKinds.find? fun (start, _) => start.toList.isPrefixOf wording.toList).map (·.2)).getD
    "OSError"

namespace Fault

def kind : Fault → String
  | noManifest _ => "NoPackageJsonError"
  | noReact => "NoReactDependencyError"
  | noSuchProject .. => "ProjectNotFoundError"
  | check failure => if failure.nativeBinding then "NativeBindingError" else "AnalyzerError"
  | shape fault => fault.kind
  | settings => "ValidationError"
  | badValue _ => "ValueError"
  | undecodable => "UnicodeDecodeError"
  | system wording => refusalKind wording
  | timeout _ => "TimeoutError"
  | broken _ => "RuntimeError"
  | library fault => fault.kind
  | aborted => "Abort"

def wording : Fault → String
  | noManifest directory => s!"No package.json found in {directory.text}"
  | noReact => "No React dependency found in package.json"
  | noSuchProject requested available =>
    s!"Project \"{requested}\" not found. Available: {available}"
  | check failure => failure.message
  | shape fault => fault.wording
  | settings => "invalid settings"
  | badValue what => what
  | undecodable => "invalid text"
  | system wording | timeout wording | broken wording => wording
  | library fault => fault.wording
  | aborted => ""

/-- What a NUL does in a path, or in the words that a program is started with. -/
def embeddedNul : Fault :=
  badValue "embedded null byte"

/-- Whether the fault is one of the domain, which a run reports by its message alone. -/
def isReported : Fault → Bool
  | noManifest _ | noReact | noSuchProject .. | check _ => true
  | _ => false

def described (fault : Fault) : String :=
  fault.kind ++ ": " ++ fault.wording

end Fault

end Checkup
