import Checkup.Project.Discovery

/-!
# Choosing projects

Which projects a run looks at: those that are asked for by name, all of them, or those that the user
picks from a numbered list.
-/

namespace Checkup.Cli

/-- The packages' names for a message, each of which has to be a text. -/
def availableNames (place : Nat) : List Package → Except ShapeFault (List String)
  | [] => .ok []
  | package :: rest =>
    match package.name with
    | .text name => do return name :: (← availableNames (place + 1) rest)
    | other => .error (.itemNotText place other.kindName)

/-- Whether a package is meant by a name: its own, or that of its directory. -/
def isMeant (name : String) (package : Package) : Bool :=
  package.name.isText name || package.directory.name == name

def directoryOf (packages : List Package) (name : String) : Except Fault Path :=
  match packages.find? (isMeant name) with
  | some package => .ok package.directory
  | none =>
    match availableNames 0 packages with
    | .ok names => .error (.noSuchProject name (String.intercalate ", " names))
    | .error fault => .error (.shape fault)

/-- The names in a list with commas, without blanks around them and without empty ones. -/
def namesIn (list : String) : List String :=
  ((Text.cutText ',' list).map Text.strip).filter (· != "")

def requested (list : String) (packages : List Package) : Except Fault (List Path) :=
  (namesIn list).mapM (directoryOf packages)

def choiceLine (root : Path) (number : Nat) (package : Package) : Except Fault String :=
  let shown := if package.directory == root then some Path.here else root.below? package.directory
  match shown with
  | some place =>
    .ok ("  [cyan]" ++ toString number ++ "[/] " ++ package.name.display ++ " [dim]" ++
      place.text ++ "[/]")
  | none => .error (.badValue (package.directory.text ++ " is not below " ++ root.text))

def sayChoices (root : Path) (number : Nat) : List Package → Run Unit
  | [] => return
  | package :: rest => do
    match choiceLine root number package with
    | .ok line => Run.say line
    | .error fault => throw fault
    sayChoices root (number + 1) rest

/-- The first line of the input and what follows; a line ends at a line feed, a carriage return or
both. -/
def splitLine : List Char → List Char × List Char
  | [] => ([], [])
  | '\n' :: cs => ([], cs)
  | '\r' :: '\n' :: cs => ([], cs)
  | '\r' :: cs => ([], cs)
  | c :: cs =>
    let (line, rest) := splitLine cs
    (c :: line, rest)

/-- The question for projects, with the answer that is taken for none. -/
def question : String := "Projects (comma-separated numbers, or 'all') [all]: "

def ask : Run String := do
  Run.print question
  let host ← get
  if host.input.isEmpty then throw .aborted
  let (line, rest) := splitLine host.input
  set { host with input := rest }
  Run.print (String.ofList line ++ "\n")
  return if line.isEmpty then "all" else String.ofList line

def numbersIn (answer : String) : List Int :=
  let parts := (Text.cutText ',' answer).filter fun part => Text.strip part != ""
  ((parts.mapM fun part => (Decimal.readWhole part).toOption)).getD []

def distinctNumbers : List Int → List Int
  | [] => []
  | n :: rest => n :: (distinctNumbers rest).filter (· != n)

/-- The directories that an answer picks; none when it is no answer. -/
def picked? (packages : List Package) (answer : String) : Option (List Path) :=
  if Text.lower (Text.strip answer) == "all" then some (packages.map (·.directory))
  else
    let numbers := numbersIn answer
    if numbers.isEmpty then none
    else (distinctNumbers numbers).mapM fun n =>
      if 1 ≤ n then packages[n.toNat - 1]?.map (·.directory) else none

def askUntilPicked (packages : List Package) : Nat → Run (List Path)
  | 0 => throw .aborted
  | fuel + 1 => do
    match picked? packages (← ask) with
    | some directories => return directories
    | none =>
      Run.say ("[red]Enter numbers between 1 and " ++ toString packages.length ++ ".[/]")
      askUntilPicked packages fuel

def prompt (packages : List Package) (root : Path) : Run (List Path) := do
  Run.say "[bold]Select projects to scan[/]"
  sayChoices root 1 packages
  askUntilPicked packages ((← get).input.length + 1)

/-- The packages to choose from: the workspaces, or else the directories that use React. -/
def candidates (root : Path) : Run (List Package) := do
  let workspaces ← Package.inWorkspaces root none
  if workspaces.isEmpty then Package.inSubdirectories root none else return workspaces

def selectProjects (root : Path) (list : Option String) (interactive : Bool) : Run (List Path) := do
  let packages ← candidates root
  if packages.isEmpty then return [root]
  match list.filter (· != "") with
  | some names =>
    match requested names packages with
    | .ok directories => return directories
    | .error fault => throw fault
  | none =>
    if packages.length == 1 || !interactive then return packages.map (·.directory)
    else prompt packages root

end Checkup.Cli
