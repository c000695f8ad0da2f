import Checkup.Fault

/-!
# Untyped data

Reports come as untyped values. The functions here take a value as an object, a sequence or a
number, or say in which way it is none.
-/

namespace Checkup.Json

/-- The member of a value that has to be an object; a missing one is null. -/
def get (value : Json) (name : String) : Except ShapeFault Json :=
  match value with
  | object members => .ok (lookup members name)
  | other => .error (.noOperation other.kindName "get")

/-- The items of a value that has to have some: those of an array, the characters of a text, the
names in an object. -/
def each (value : Json) : Except ShapeFault (List Json) :=
  match value with
  | array items => .ok items
  | text s => .ok (s.toList.map fun c => text (String.ofList [c]))
  | object members => .ok (members.map fun member => text member.1)
  | other => .error (.notIterable other.kindName)

/-- The items of a value that may be missing: a value that is not given has none. -/
def eachGiven (value : Json) : Except ShapeFault (List Json) :=
  if value.isTruthy then value.each else .ok []

def first (value : Json) : Except ShapeFault Json :=
  match value with
  | array items => .ok (items.head?.getD null)
  | text s => .ok (text (Text.clip 1 s))
  | object _ => .error (.noKey "0")
  | other => .error (.notIndexed other.kindName)

def asText (value : Json) : Except ShapeFault String :=
  match value with
  | text s => .ok s
  | other => .error (.notText other.kindName)

/-- The whole number that a value stands for: a number without its fraction, or a numeral. -/
def asWhole (value : Json) : Except ShapeFault Int :=
  match value with
  | number (.whole n) => .ok n
  | number (.real x) => (Decimal.truncate x).mapError .notFinite
  | bool b => .ok (if b then 1 else 0)
  | text s =>
    match Decimal.readWhole s with
    | .ok n => .ok n
    | .error .malformed => .error (.notNumeral s)
    | .error (.tooManyDigits count) => .error (.tooManyDigits count)
  | other => .error (.notNumber other.kindName)

/-- The whole number that a value stands for, zero when it is not given. -/
def asCount (value : Json) : Except ShapeFault Int :=
  if value.isTruthy then value.asWhole else .ok 0

/-- The number that a value is in comparisons: truth values count as one and zero. -/
def numeric? : Json → Option Number
  | number n => some n
  | bool b => some (.whole (if b then 1 else 0))
  | _ => none

/-- Whether two numbers are the same, whatever form they were written in. -/
def sameNumber : Number → Number → Bool
  | .whole m, .whole n => m == n
  | .whole m, .real x | .real x, .whole m => Decimal.whole? x == some m
  | .real x, .real y => x == y || (x.isNaN && y.isNaN)

def sameKey (a b : Json) : Bool :=
  match numeric? a, numeric? b with
  | some m, some n => sameNumber m n
  | none, none =>
    match a, b with
    | text s, text t => s == t
    | null, null => true
    | _, _ => false
  | _, _ => false

def asKey (value : Json) : Except ShapeFault Json :=
  match value with
  | array _ | object _ => .error (.notKey value.kindName)
  | other => .ok other

end Checkup.Json
