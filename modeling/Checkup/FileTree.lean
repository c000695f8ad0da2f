import Checkup.Named
import Checkup.Path
import Checkup.Text.Utf8

/-!
# File trees

The files that a check-up can reach form a tree of directories. A path is looked up name by name:
every name but the last has to be a directory, also before a double dot, and a name has a greatest
length. Looking up, writing and removing are functions on trees.
-/

namespace Checkup

inductive Content
  | text (value : String)
  | bytes (value : List UInt8)
  deriving Repr, Inhabited, DecidableEq

inductive Node
  | file (content : Content)
  | directory (entries : List (String × Node))
  deriving Repr, Inhabited

namespace Content

def text? : Content → Option String
  | text value => some value
  | bytes value => Text.Utf8.decode? value

def lossy : Content → String
  | text value => value
  | bytes value => Text.Utf8.decodeLossy value

end Content

inductive AccessFault
  | missing
  | notDirectory
  | isDirectory
  | nameTooLong
  | occupied
  | nulCharacter
  deriving Repr, DecidableEq

namespace Node

def entries : Node → List (String × Node)
  | directory entries => entries
  | file _ => []

def isDirectory : Node → Bool
  | directory _ => true
  | file _ => false

def child? (node : Node) (name : String) : Option Node :=
  Named.get? name node.entries

def at? (node : Node) : List String → Option Node
  | [] => some node
  | name :: rest => (node.child? name).bind (·.at? rest)

/-- The node with `new` at the names, the directories on the way made where they are missing. -/
def put (new : Node) (node : Node) : List String → Node
  | [] => new
  | name :: rest =>
    match node with
    | file content => file content
    | directory entries =>
      let old := (Named.get? name entries).getD (directory [])
      directory (Named.set name (put new old rest) entries)

def remove (node : Node) : List String → Node
  | [] => node
  | [name] =>
    match node with
    | file content => file content
    | directory entries => directory (Named.erase name entries)
  | name :: rest =>
    match node.child? name with
    | some old => directory (Named.set name (remove old rest) node.entries)
    | none => node

def nameLimit : Nat := 255

/-- The names from the root that a path leads to, without asking for the last one to exist. -/
def walk (root : Node) (reached : List String) : List String → Except AccessFault (List String)
  | [] => .ok reached
  | name :: rest =>
    match root.at? reached with
    | none => .error .missing
    | some (file _) => .error .notDirectory
    | some (directory _) =>
      if name == ".." then walk root reached.dropLast rest
      else if nameLimit < Text.Utf8.size name then .error .nameTooLong
      else walk root (reached ++ [name]) rest

def listing (node : Node) : List (String × Node) :=
  node.entries.mergeSort fun a b => Text.precedes a.1.toList b.1.toList

theorem at?_nil (node : Node) : node.at? [] = some node := rfl

end Node

end Checkup
