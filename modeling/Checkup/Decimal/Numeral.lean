import Checkup.Decimal.Shortest
import Checkup.Text.Digit
import Checkup.Text.Blank

/-!
# Numerals

Whole and real numbers written by people: blanks around them, a sign, digits of any script, and
single underscores between digits. A whole number has at most `digitLimit` digits.
-/

namespace Checkup.Decimal

open Checkup.Text

def digitLimit : Nat := 4300

inductive NumeralFault
  | malformed
  | tooManyDigits (count : Nat)
  deriving Repr, DecidableEq

/-- The blanks around a numeral: the information separators are not among them. -/
def isNumeralBlank (c : Char) : Bool :=
  isBlank c && !(28 ≤ c.toNat && c.toNat ≤ 31)

def trimNumeral (cs : List Char) : List Char :=
  ((cs.dropWhile isNumeralBlank).reverse.dropWhile isNumeralBlank).reverse

def splitSign : List Char → Bool × List Char
  | '-' :: cs => (true, cs)
  | '+' :: cs => (false, cs)
  | cs => (false, cs)

/-- The values of the digits of a run in which single underscores stand only between digits. -/
def digitRun? : List Char → Option (List Nat)
  | [] => none
  | [c] => (digitValue? c).map ([·])
  | c :: '_' :: cs => do
    let d ← digitValue? c
    let ds ← digitRun? cs
    return d :: ds
  | c :: cs => do
    let d ← digitValue? c
    let ds ← digitRun? cs
    return d :: ds

def ofDigits (ds : List Nat) : Nat :=
  ds.foldl (fun n d => 10 * n + d) 0

def readWhole (s : String) : Except NumeralFault Int :=
  let (negative, body) := splitSign (trimNumeral s.toList)
  match digitRun? body with
  | none => .error .malformed
  | some ds =>
    if digitLimit < ds.length then .error (.tooManyDigits ds.length)
    else .ok (signed negative (ofDigits ds))

/-- The digits and the underscores at the start of the text, and the rest. -/
def spanRun (cs : List Char) : List Char × List Char :=
  cs.span fun c => c == '_' || isDigit c

def optionalRun? (cs : List Char) : Option (List Nat) :=
  if cs.isEmpty then some [] else digitRun? cs

/-- The exponent part: `e` or `E`, a sign, digits; nothing is an exponent of zero. -/
def readExponent? : List Char → Option Int
  | [] => some 0
  | c :: cs =>
    if c == 'e' || c == 'E' then
      let (negative, body) := splitSign cs
      (digitRun? body).map fun ds => signed negative (ofDigits ds)
    else none

/-- Reads an unsigned decimal number with an optional fraction and exponent. -/
def readDecimal? (negative : Bool) (cs : List Char) : Option Float := do
  let (units, afterUnits) := spanRun cs
  let (places, rest) :=
    match afterUnits with
    | '.' :: more => spanRun more
    | _ => ([], afterUnits)
  let unitDigits ← optionalRun? units
  let placeDigits ← optionalRun? places
  if unitDigits.isEmpty && placeDigits.isEmpty then none
  let exponent ← readExponent? rest
  return toReal negative (ofDigits (unitDigits ++ placeDigits)) (exponent - placeDigits.length)

/-- Reads a real number; infinity and not-a-number are written as words in any case. -/
def readReal? (s : String) : Option Float :=
  let (negative, body) := splitSign (trimNumeral s.toList)
  let word := String.ofList (body.map Char.toLower)
  if word == "inf" || word == "infinity" then
    some (if negative then -(1.0 / 0.0) else 1.0 / 0.0)
  else if word == "nan" then some (0.0 / 0.0)
  else readDecimal? negative body

end Checkup.Decimal
