import Checkup.Json.Display
import Checkup.Settings
import Checkup.Text.Similarity
import Checkup.Total

/-!
# Command-line options

The words of a command line become options. Options may stand anywhere before a lone `--`; a long
one takes its value after an equals sign or from the next word, and short ones may share a dash. The
branch of a limited scan may be left out. Of an option that is given twice the last one counts.
-/

namespace Checkup.Cli

inductive Flag
  | lint (on : Bool)
  | deadCode (on : Bool)
  | verbose
  | score
  | offline
  | yes
  | version
  | help
  deriving DecidableEq, Repr

inductive Valued
  | diff
  | project
  | failOn
  deriving DecidableEq, Repr

inductive Known
  | flag (flag : Flag)
  | valued (valued : Valued)
  deriving DecidableEq, Repr

def longNames : List (String × Known) :=
  [("--version", .flag .version), ("--lint", .flag (.lint true)),
    ("--no-lint", .flag (.lint false)), ("--dead-code", .flag (.deadCode true)),
    ("--no-dead-code", .flag (.deadCode false)), ("--verbose", .flag .verbose),
    ("--score", .flag .score), ("--offline", .flag .offline), ("--diff", .valued .diff),
    ("--project", .valued .project), ("--fail-on", .valued .failOn), ("--yes", .flag .yes),
    ("--help", .flag .help)]

def shortName? : Char → Option Flag
  | 'y' => some .yes
  | 'h' => some .help
  | _ => none

inductive Misuse
  | unknown (name : String) (close : List String)
  | valueMissing (name : String)
  | valueUnwanted (name : String)
  | noLevel (value : String)
  | directoryIsFile (directory : String)
  | extraWords (words : List String)
  deriving DecidableEq, Repr

structure Words where
  lint : Option Bool := none
  deadCode : Option Bool := none
  verbose : Bool := false
  score : Bool := false
  offline : Bool := false
  yes : Bool := false
  diff : Option String := none
  project : Option String := none
  failOn : Option String := none
  /-- the first of the options that ask for information only -/
  information : Option Flag := none
  positional : List String := []
  deriving Repr, DecidableEq, Inhabited

namespace Words

def setFlag (words : Words) : Flag → Words
  | .lint on => { words with lint := some on }
  | .deadCode on => { words with deadCode := some on }
  | .verbose => { words with verbose := true }
  | .score => { words with score := true }
  | .offline => { words with offline := true }
  | .yes => { words with yes := true }
  | .version => { words with information := words.information.or (some .version) }
  | .help => { words with information := words.information.or (some .help) }

def setValue (words : Words) (value : String) : Valued → Words
  | .diff => { words with diff := some value }
  | .project => { words with project := some value }
  | .failOn => { words with failOn := some value }

def setLetters (words : Words) : List Char → Except Misuse Words
  | [] => .ok words
  | c :: cs =>
    match shortName? c with
    | some flag => setLetters (words.setFlag flag) cs
    | none => .error (.unknown (String.ofList ['-', c]) [])

end Words

/-- Whether a word is an option by its look: a dash and something after it. -/
def looksLikeOption (word : String) : Bool :=
  match word.toList with
  | '-' :: _ :: _ => true
  | _ => false

def splitValue (word : String) : String × Option String :=
  match word.toList.span (· != '=') with
  | (name, _ :: value) => (String.ofList name, some (String.ofList value))
  | (name, []) => (String.ofList name, none)

/-- The value of an option from the words that follow it, and the words after that. The branch of a
limited scan may be left out: it is empty then. -/
def takeValue (name : String) (valued : Valued) (rest : List String) :
    Except Misuse (String × List String) :=
  match rest with
  | [] => if valued == .diff then .ok ("", []) else .error (.valueMissing name)
  | word :: more =>
    if valued == .diff && looksLikeOption word then .ok ("", word :: more) else .ok (word, more)

def readOption (words : Words) (word : String) (rest : List String) :
    Except Misuse (Words × List String) :=
  let (name, attached) := splitValue word
  match Named.get? name longNames with
  | some (.valued valued) => do
    let (value, more) ← takeValue name valued (attached.toList ++ rest)
    return (words.setValue value valued, more)
  | some (.flag flag) =>
    if attached.isSome then .error (.valueUnwanted name) else .ok (words.setFlag flag, rest)
  | none =>
    match word.toList with
    | '-' :: '-' :: _ =>
      .error (.unknown name (Text.Similarity.closest name (longNames.map (·.1))))
    | letters => do return (← words.setLetters (letters.drop 1), rest)

def readWords (words : Words) : Nat → List String → Except Misuse Words
  | 0, _ => .ok words
  | _ + 1, [] => .ok words
  | fuel + 1, word :: rest =>
    if word == "--" then .ok { words with positional := words.positional ++ rest }
    else if looksLikeOption word then do
      let (next, more) ← readOption words word rest
      readWords next fuel more
    else readWords { words with positional := words.positional ++ [word] } fuel rest

/-- Reads a command line. Each step takes a character away at least. -/
def read (arguments : List String) : Except Misuse Words :=
  readWords {} (total (fun word => word.length + 1) arguments + 1) arguments

structure Options where
  directory : String
  lint : Option Bool
  deadCode : Option Bool
  verbose : Bool
  score : Bool
  offline : Bool
  yes : Bool
  diff : Option String
  project : Option String
  failOn : Option FailOn
  deriving Repr, DecidableEq, Inhabited

/-- The level at which findings fail a run, which has to be one of the list. -/
def levelOf : Option String → Except Misuse (Option FailOn)
  | none => .ok none
  | some value =>
    match FailOn.ofName? value with
    | some level => .ok (some level)
    | none => .error (.noLevel value)

/-- The directory that the words name, the current one unless they name another. -/
def Words.directory (words : Words) : String :=
  words.positional.head?.getD "."

/-- The options of the words, `isFile` telling whether the directory is a file. -/
def Words.options (words : Words) (isFile : Bool) : Except Misuse Options := do
  let failOn ← levelOf words.failOn
  let directory := words.directory
  if isFile then throw (.directoryIsFile directory)
  if 1 < words.positional.length then throw (.extraWords (words.positional.drop 1))
  return { directory, failOn, lint := words.lint, deadCode := words.deadCode,
           verbose := words.verbose, score := words.score, offline := words.offline,
           yes := words.yes, diff := words.diff, project := words.project }

end Checkup.Cli
