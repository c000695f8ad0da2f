import Checkup.Host
import Checkup.Json.Reader

/-!
# Snapshots

A machine can be written down as a JSON object: the directory to work in, the directory for
temporary files, the variables, and the files by their paths. A file whose content is null stands
for an empty directory. A machine read from such a snapshot has no programs and no network.
-/

namespace Checkup

/-- A machine on which no program can be started and no service is reached. -/
def Surroundings.bare : Surroundings where
  git _ _ := .unavailable
  nodeVersion _ := .unavailable
  program _ _ := none
  process _ _ _ := .refused (.system "[Errno 2] No such file or directory")
  score := .unreachable

namespace Snapshot

def membersOf (members : List (String × Json)) (name : String) : List (String × Json) :=
  ((Json.lookup members name).members?).getD []

/-- A path in the snapshot, the root directory when there is none. -/
def pathOf (members : List (String × Json)) (name : String) : Path :=
  match Json.lookup members name with
  | .text written => Path.resolve .root (Path.ofText written)
  | _ => .root

def environment (members : List (String × Json)) : Variables :=
  (membersOf members "variables").filterMap fun (name, value) => value.text?.map (name, ·)

/-- The tree with a file from the snapshot; a value that is no text makes a directory. -/
def putEntry (start : Path) (tree : Node) (entry : String × Json) : Node :=
  let names := (Path.resolve start (Path.ofText entry.1)).names
  match entry.2, tree.at? names with
  | .text content, _ => Node.put (.file (.text content)) tree names
  | _, none => Node.put (.directory []) tree names
  | _, some _ => tree

def tree (members : List (String × Json)) (start temporary : Path) : Node :=
  (membersOf members "files").foldl (putEntry start)
    (Node.put (.directory []) (Node.put (.directory []) (.directory []) start.names)
      temporary.names)

/-- The machine that a snapshot describes, `input` being what its user types. -/
def host (members : List (String × Json)) (input : String) : Host where
  tree := tree members (pathOf members "directory") (pathOf members "temporary")
  workingDirectory := pathOf members "directory"
  temporary := pathOf members "temporary"
  processId := 1
  environment := environment members
  surroundings := .bare
  clock := []
  reports := 0
  started _ := 0
  waited _ := 0
  input := input.toList
  output := ""
  errors := ""
  events := []

/-- The machine that a written snapshot describes, if it is one. -/
def read? (written input : String) : Option Host :=
  match Json.read written with
  | .ok (.object members) => some (host members input)
  | _ => none

end Snapshot

end Checkup
