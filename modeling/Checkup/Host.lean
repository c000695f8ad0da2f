import Checkup.Console.Device
import Checkup.FileTree

/-!
# The host of a check-up

What a check-up meets on the machine it runs on: a file tree, variables, a clock, a console, and the
answers of the programs and services it asks. A run changes the file tree and the console, and
leaves a record of everything that it asked for, in order. A fault ends a run and keeps the host as
it was then, so what a failed run left behind can be stated.
-/

namespace Checkup

inductive Tool
  | linter
  | deadCode
  deriving DecidableEq, Repr

def Tool.countOne (tool : Tool) (counts : Tool → Nat) : Tool → Nat := fun other =>
  if other = tool then counts tool + 1 else counts other

/-- The answer of a short query to a program; `undecodable` is one whose bytes are no text. -/
inductive Answer
  | finished (status : Int) (output : String)
  | unavailable
  | undecodable
  deriving Repr, DecidableEq

inductive Outcome
  | finished (status : Option Int) (output errors : Content)
  | hangs
  | refused (fault : Fault)
  deriving Repr

def Outcome.isRefused : Outcome → Bool
  | refused _ => true
  | _ => false

/-- The answer of the score service. The service is unreachable too for a request that the library
cannot write, as with a number that is none. A library that gives the request up for another reason,
as for an address that is none, has failed. -/
inductive Reply
  | response (status : Int) (body : Content)
  | unreachable
  | failed (fault : LibraryFault)
  deriving Repr, DecidableEq

abbrev Variables := List (String × String)

/-- A process as it was started, with the files there were at that time. -/
structure Spawn where
  tool : Tool
  arguments : List String
  directory : Path
  environment : Option Variables
  tree : Node

inductive Notice
  | manifestUnreadable (file : Path)
  | settingsUnreadable
  | settingsNotObject
  | embeddedSettingsIgnored
  | nodeNotRunnable (binary : String)
  | baseBranchMissing (branch : String)
  | reportNotWritten (directory : Path)
  | checkFailed (tool : String)
  | checkCrashed (tool : String)
  deriving Repr, DecidableEq

inductive Event
  | git (directory : Path) (arguments : List String)
  | spawn (spawn : Spawn)
  | wait (seconds : Number)
  | connect (timeout : Float) (proxy : Option String)
  | post (url : String) (body : Json)
  | notice (notice : Notice)

/-- The programs, services and libraries around a run, as functions from what they are asked to what
they answer. The `n`-th process of a tool is numbered from zero. -/
structure Surroundings where
  git : Path → List String → Answer
  nodeVersion : String → Answer
  program : String → Option String → Option String
  process : Tool → Nat → List String → Outcome
  score : Reply
  /-- why no connection can be made through a proxy, if none can -/
  refusal : Option String → Option LibraryFault := fun _ => none
  /-- the home directory of the user's account, for want of a variable -/
  accountHome : Option String := none
  console : Console := .plain

structure Host where
  tree : Node
  workingDirectory : Path
  temporary : Path
  processId : Nat
  environment : Variables
  surroundings : Surroundings
  /-- the readings of the clock that are still to come -/
  clock : List Number
  /-- how many reports were named so far -/
  reports : Nat
  /-- how many processes of each tool were started so far -/
  started : Tool → Nat
  /-- how many processes of each tool were waited for so far, those that could not be started
  aside -/
  waited : Tool → Nat
  input : List Char
  output : String
  errors : String
  events : List Event

/-- A step that reads and changes the host and may stop with a fault. -/
abbrev Run (α : Type) := ExceptT Fault (StateM Host) α

namespace Variables

def value? (environment : Variables) (name : String) : Option String :=
  Named.get? name environment

def given? (environment : Variables) (name : String) : Option String :=
  (value? environment name).filter (· != "")

def set (environment : Variables) (name value : String) : Variables :=
  Named.set name value environment

end Variables

namespace Answer

/-- What comes of a query with the words: its answer, unless a word has a NUL in it, which no program
can be given, or the answer is no text. -/
def received (words : List String) (answer : Answer) : Except Fault Answer :=
  if words.any (·.toList.contains '\x00') then .error .embeddedNul
  else match answer with
    | undecodable => .error .undecodable
    | answer => .ok answer

def output? : Answer → Option String
  | finished 0 output => some output
  | _ => none

end Answer

namespace Content

def toBytes : Content → List Nat
  | text value => Text.Utf8.encode value.toList
  | bytes value => value.map (·.toNat)

end Content

namespace AccessFault

def wording (fault : AccessFault) (p : Path) : String :=
  match fault with
  | missing => s!"[Errno 2] No such file or directory: '{p.text}'"
  | notDirectory => s!"[Errno 20] Not a directory: '{p.text}'"
  | isDirectory => s!"[Errno 21] Is a directory: '{p.text}'"
  | nameTooLong => s!"[Errno 36] File name too long: '{p.text}'"
  | occupied => s!"[Errno 17] File exists: '{p.text}'"
  | nulCharacter => Fault.embeddedNul.wording

/-- A refused access as a fault: a path with a NUL is no path at all. -/
def toFault (fault : AccessFault) (p : Path) : Fault :=
  match fault with
  | nulCharacter => .embeddedNul
  | _ => .system (fault.wording p)

end AccessFault

namespace Host

def pathLimit : Nat := 4095

def locate (host : Host) (p : Path) : Except AccessFault (List String) :=
  if p.hasNul then .error .nulCharacter
  else if pathLimit < Text.Utf8.size p.text then .error .nameTooLong
  else host.tree.walk [] (host.workingDirectory.join p).names

def node (host : Host) (p : Path) : Except AccessFault Node := do
  let names ← host.locate p
  match host.tree.at? names with
  | some node => .ok node
  | none =>
    match host.tree.at? names.dropLast with
    | some (.file _) => .error .notDirectory
    | _ => .error .missing

def content (host : Host) (p : Path) : Except AccessFault Content := do
  match ← host.node p with
  | .file content => .ok content
  | .directory _ => .error .isDirectory

def write (host : Host) (p : Path) (content : Content) : Except AccessFault Host := do
  let names ← host.locate p
  match host.tree.at? names with
  | some (.directory _) => .error .isDirectory
  | some (.file _) => .ok { host with tree := Node.put (.file content) host.tree names }
  | none =>
    match host.tree.at? names.dropLast with
    | some (.directory _) => .ok { host with tree := Node.put (.file content) host.tree names }
    | some (.file _) => .error .notDirectory
    | none => .error .missing

/-- The host with a directory made, and its parents where they are missing. -/
def makeDirectory (host : Host) (p : Path) : Except AccessFault Host := do
  if p.hasNul then .error .nulCharacter
  if pathLimit < Text.Utf8.size p.text then .error .nameTooLong
  let tree ← build host.tree [] (host.workingDirectory.join p).names
  return { host with tree }
where
  /-- The tree with the directories made that are missing on the way, the last of which has to be
  missing. -/
  build (tree : Node) (reached : List String) : List String → Except AccessFault Node
    | [] => .error .occupied
    | name :: rest =>
      match tree.at? reached with
      | some (.file _) => .error .notDirectory
      | _ =>
        if name == ".." then build tree reached.dropLast rest
        else if Node.nameLimit < Text.Utf8.size name then .error .nameTooLong
        else
          match tree.at? (reached ++ [name]) with
          | some _ => build tree (reached ++ [name]) rest
          | none =>
            let made := Node.put (.directory []) tree (reached ++ [name])
            if rest.isEmpty then .ok made else build made (reached ++ [name]) rest

/-- The host without the file at a path; a missing file is removed already, and a directory is no
file. -/
def removeFile (host : Host) (p : Path) : Except AccessFault Host :=
  match host.locate p with
  | .ok names =>
    match host.tree.at? names with
    | some (.directory _) => .error .isDirectory
    | some (.file _) => .ok { host with tree := host.tree.remove names }
    | none => .ok host
  | .error .missing => .ok host
  | .error fault => .error fault

def record (host : Host) (event : Event) : Host :=
  { host with events := host.events ++ [event] }

def gitSays (host : Host) (directory : Path) (arguments : List String) : Except Fault Answer :=
  (host.surroundings.git directory arguments).received (directory.names ++ arguments)

def nodeSays (host : Host) (binary : String) : Except Fault Answer :=
  (host.surroundings.nodeVersion binary).received [binary]

end Host

namespace Run

def note (notice : Notice) : Run Unit :=
  modify (·.record (.notice notice))

def noteAll : List Notice → Run Unit
  | [] => return
  | notice :: rest => do
    note notice
    noteAll rest

/-- The step's result or fault as a value; the host goes on as the step left it. -/
def attempt {α : Type} (step : Run α) : Run (Except Fault α) :=
  fun host => match step host with
    | (result, after) => (.ok result, after)

/-- Runs a last step whatever comes of the first one; its fault goes before the first step's
result. -/
def withLast {α : Type} (step : Run α) (last : Run Unit) : Run α :=
  fun host => match step host with
    | (result, after) => match last after with
      | (.ok _, done) => (result, done)
      | (.error fault, done) => (.error fault, done)

def access {α : Type} (p : Path) (look : Host → Except AccessFault α) : Run α := do
  match look (← get) with
  | .ok found => return found
  | .error fault => throw (fault.toFault p)

/-- The node at a path: none where nothing can be there, a fault where a name is too long. -/
def node? (p : Path) : Run (Option Node) := do
  match (← get).node p with
  | .ok node => return some node
  | .error .nameTooLong => throw (AccessFault.nameTooLong.toFault p)
  | .error _ => return none

def isFile (p : Path) : Run Bool := do
  return match ← node? p with
    | some (.file _) => true
    | _ => false

def isDirectory (p : Path) : Run Bool := do
  return match ← node? p with
    | some (.directory _) => true
    | _ => false

def pathExists (p : Path) : Run Bool := do
  return (← node? p).isSome

def content (p : Path) : Run Content :=
  access p (·.content p)

def readText (p : Path) : Run String := do
  match (← content p).text? with
  | some text => return text
  | none => throw .undecodable

def readLossy (p : Path) : Run String := do
  return (← content p).lossy

def listNames (p : Path) : Run (List String) := do
  match ← access p (·.node p) with
  | .directory entries => return (Node.directory entries).listing.map (·.1)
  | .file _ => throw (AccessFault.notDirectory.toFault p)

def writeText (p : Path) (text : String) : Run Unit := do
  set (← access p (·.write p (.text text)))

def makeDirectory (p : Path) : Run Unit := do
  set (← access p (·.makeDirectory p))

def removeFile (p : Path) : Run Unit := do
  set (← access p (·.removeFile p))

def resolve (p : Path) : Run Path := do
  if p.hasNul then throw (AccessFault.nulCharacter.toFault p)
  return Path.resolve (← get).workingDirectory p

def resolveGiven : Option Path → Run (Option Path)
  | none => return none
  | some p => return some (← resolve p)

def now : Run Number := do
  match (← get).clock with
  | [] => return .real 0.0
  | reading :: rest =>
    modify ({ · with clock := rest })
    return reading

def wait (seconds : Number) : Run Unit :=
  modify (·.record (.wait seconds))

def print (text : String) : Run Unit :=
  modify fun host => { host with output := host.output ++ text }

def printError (text : String) : Run Unit :=
  modify fun host => { host with errors := host.errors ++ text }

def say (text : String) : Run Unit := do
  match (← get).surroundings.console.render text with
  | .ok line => print (line ++ "\n")
  | .error fault => throw (.library fault)

def sayNothing : Run Unit :=
  print "\n"

/-- The text as it has to be written in markup to be shown as it is. -/
def escaped (text : String) : Run String := do
  return (← get).surroundings.console.escape text

def printPanel (lines : List String) : Run Unit := do
  print ((← get).surroundings.console.panel lines)

def git (directory : Path) (arguments : List String) : Run Answer := do
  let host ← get
  modify (·.record (.git directory arguments))
  match host.gitSays directory arguments with
  | .ok answer => return answer
  | .error fault => throw fault

def start (tool : Tool) (arguments : List String) (directory : Path)
    (environment : Option Variables) : Run Outcome := do
  let host ← get
  let spawn : Spawn := ⟨tool, arguments, directory, environment, host.tree⟩
  let outcome := host.surroundings.process tool (host.started tool) arguments
  set { host.record (.spawn spawn) with
    started := tool.countOne host.started
    waited := if outcome.isRefused then host.waited else tool.countOne host.waited }
  return outcome

end Run

end Checkup
