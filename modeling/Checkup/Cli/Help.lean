import Checkup.Cli.Options

/-!
# Help and misuse

What the command line says about itself: its version, its options, and what is wrong with one.
-/

namespace Checkup.Cli

def programName : String := "react-doctor"

def programVersion : String := "0.1.0"

def versionText : String :=
  programName ++ ", version " ++ programVersion ++ "\n"

def usage : String :=
  "Usage: " ++ programName ++ " [OPTIONS] [DIRECTORY]\n"

def helpText : String :=
  usage ++ "
  Diagnose React codebase health.

Options:
  --version                       Show the version and exit.
  --lint / --no-lint              Run or skip linting
  --dead-code / --no-dead-code    Run or skip dead code detection
  --verbose                       Show file details per rule and debug logs
  --score                         Output only the score
  --offline                       Skip the network and do not calculate the
                                  score
  --diff [BASE]                   Scan only changed files (against BASE, or the
                                  detected default branch)
  --project TEXT                  Workspace project(s) to scan, comma-separated
  --fail-on [error|warning|none]  Exit with status 1 on: error, warning, or none
                                  (default: none)
  -y, --yes                       Skip prompts and scan all projects
  -h, --help                      Show this message and exit.
"

namespace Misuse

def quoted (name : String) : String :=
  Json.Display.quoted name

def quotedNames (names : List String) : String :=
  String.intercalate ", " (names.map quoted)

def suggestion (close : List String) : String :=
  match close.mergeSort (fun a b => a ≤ b) with
  | [] => ""
  | [name] => " Did you mean " ++ quoted name ++ "?"
  | names => " (Did you mean one of: " ++ quotedNames names ++ "?)"

def message : Misuse → String
  | unknown name close => "No such option " ++ quoted name ++ "." ++ suggestion close
  | valueMissing name => "Option " ++ quoted name ++ " requires an argument."
  | valueUnwanted name => "Option " ++ quoted name ++ " does not take a value."
  | noLevel value =>
    "Invalid value for '--fail-on': " ++ quoted value ++ " is not one of " ++
      quotedNames (FailOn.all.map (·.name)) ++ "."
  | directoryIsFile directory =>
    "Invalid value for '[DIRECTORY]': Directory " ++ quoted directory ++ " is a file."
  | extraWords [word] => "Got unexpected extra argument (" ++ word ++ ")"
  | extraWords words => "Got unexpected extra arguments (" ++ String.intercalate " " words ++ ")"

/-- Whether the message comes with a reminder of how a command line looks. -/
def showsUsage : Misuse → Bool
  | valueMissing _ | valueUnwanted _ => false
  | _ => true

def text (misuse : Misuse) : String :=
  (if misuse.showsUsage then usage ++ "Try '" ++ programName ++ " --help' for help.\n\n" else "") ++
    "Error: " ++ misuse.message ++ "\n"

end Misuse

end Checkup.Cli
