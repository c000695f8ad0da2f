import Checkup.Named

/-!
# JSON values

The value type of manifests, settings and analyzer reports. A number remembers whether it was
written as a whole number or as a real one, and an object keeps the order of its members. The
module also fixes when a value counts as given (`isTruthy`) and when two values are the same key
(`sameKey`).
-/

namespace Checkup

/-- A number keeps the form it was written in: `1` is whole, `1.0` is real. -/
inductive Number
  | whole (value : Int)
  | real (value : Float)
  deriving Inhabited, Repr

inductive Json
  | null
  | bool (value : Bool)
  | number (value : Number)
  | text (value : String)
  | array (items : List Json)
  | object (members : List (String × Json))
  deriving Inhabited, Repr

namespace Number

def isTruthy : Number → Bool
  | whole n => n != 0
  | real x => x != 0.0

def toFloat : Number → Float
  | whole n => Float.ofInt n
  | real x => x

end Number

namespace Json

def int (n : Int) : Json :=
  .number (.whole n)

/-- Whether the value counts as given: not null, false, zero or empty. -/
def isTruthy : Json → Bool
  | null => false
  | bool b => b
  | number n => n.isTruthy
  | text s => !s.isEmpty
  | array items => !items.isEmpty
  | object members => !members.isEmpty

def given? (value : Json) : Option Json :=
  if value.isTruthy then some value else none

def kindName : Json → String
  | null => "NoneType"
  | bool _ => "bool"
  | number (.whole _) => "int"
  | number (.real _) => "float"
  | text _ => "str"
  | array _ => "list"
  | object _ => "dict"

def lookup? (members : List (String × Json)) (name : String) : Option Json :=
  Named.get? name members

def lookup (members : List (String × Json)) (name : String) : Json :=
  (lookup? members name).getD null

def member? (value : Json) (name : String) : Option Json :=
  match value with
  | object members => lookup? members name
  | _ => none

def members? : Json → Option (List (String × Json))
  | object members => some members
  | _ => none

def text? : Json → Option String
  | text s => some s
  | _ => none

def items? : Json → Option (List Json)
  | array items => some items
  | _ => none

def isText (value : Json) (s : String) : Bool :=
  value.text? == some s

/-- Sets a member: an old one keeps its place, a new one goes last. -/
def put (members : List (String × Json)) (name : String) (value : Json) : List (String × Json) :=
  Named.set name value members

/-- The members given in turn, a later value replacing an earlier one in its place. -/
def ofMembers (entries : List (String × Json)) : Json :=
  object (entries.foldl (fun members entry => put members entry.1 entry.2) [])

theorem isText_iff {value : Json} {s : String} : value.isText s = true ↔ value = text s := by
  cases value <;> simp [isText, text?]

theorem given?_eq_some_iff {value given : Json} :
    value.given? = some given ↔ value.isTruthy = true ∧ value = given := by
  unfold given?
  split <;> simp_all

end Json

end Checkup
