import Checkup.Json.Basic
import Checkup.Decimal.Numeral

/-!
# Reading JSON

The reader takes the grammar of JSON with three more number words (`NaN`, `Infinity` and
`-Infinity`), refuses control characters inside texts, lets the last of several members with one
name win in the place of the first, and refuses whole numbers of more than `digitLimit` digits.
Each scanner returns what it read and the text that remains; the first fault in reading order is
the one reported. Arrays and objects may stand in each other to any depth: there is no limit of a
machine here. A surrogate that stands alone is no character, so texts that differ in such ones only
are read as one text.
-/

namespace Checkup.Json

inductive ReadFault
  | malformed
  | tooManyDigits (count : Nat)
  deriving Repr, DecidableEq

namespace Reader

def isSpace (c : Char) : Bool :=
  c == ' ' || c == '\t' || c == '\n' || c == '\r'

def skip (cs : List Char) : List Char :=
  cs.dropWhile isSpace

def hexValue? (c : Char) : Option Nat :=
  if '0' ≤ c && c ≤ '9' then some (c.toNat - 48)
  else if 'a' ≤ c && c ≤ 'f' then some (c.toNat - 87)
  else if 'A' ≤ c && c ≤ 'F' then some (c.toNat - 55)
  else none

def hexFour? (a b c d : Char) : Option Nat := do
  return ((← hexValue? a) * 16 + (← hexValue? b)) * 256 + ((← hexValue? c) * 16 + (← hexValue? d))

def escape? : Char → Option Nat
  | '"' => some 34
  | '\\' => some 92
  | '/' => some 47
  | 'b' => some 8
  | 'f' => some 12
  | 'n' => some 10
  | 'r' => some 13
  | 't' => some 9
  | _ => none

/-- The code units of a text up to its closing quote: characters as code points, and escapes of
four digits as UTF-16 units. -/
def units : List Char → Option (List Nat × List Char)
  | [] => none
  | '"' :: cs => some ([], cs)
  | '\\' :: 'u' :: a :: b :: c :: d :: cs => do
    let unit ← hexFour? a b c d
    let (rest, after) ← units cs
    return (unit :: rest, after)
  | '\\' :: e :: cs => do
    let unit ← escape? e
    let (rest, after) ← units cs
    return (unit :: rest, after)
  | c :: cs =>
    if c.toNat < 32 || c == '\\' then none
    else do
      let (rest, after) ← units cs
      return (c.toNat :: rest, after)

def isHigh (n : Nat) : Bool :=
  0xD800 ≤ n && n < 0xDC00

def isLow (n : Nat) : Bool :=
  0xDC00 ≤ n && n < 0xE000

/-- One unit as a character; a surrogate that stands alone is none, and becomes U+FFFD whichever it
is. -/
def unitChar (n : Nat) : Char :=
  if isHigh n || isLow n then '\uFFFD' else Char.ofNat n

def joinUnits : List Nat → List Char
  | [] => []
  | [n] => [unitChar n]
  | n :: m :: rest =>
    if isHigh n && isLow m then
      Char.ofNat (0x10000 + (n - 0xD800) * 1024 + (m - 0xDC00)) :: joinUnits rest
    else unitChar n :: joinUnits (m :: rest)

def string (cs : List Char) : Except ReadFault (String × List Char) :=
  match units cs with
  | none => .error .malformed
  | some (us, rest) => .ok (String.ofList (joinUnits us), rest)

def isDigit (c : Char) : Bool :=
  '0' ≤ c && c ≤ '9'

/-- The whole part of a number: a zero alone, or digits that do not begin with one. -/
def wholePart : List Char → List Char × List Char
  | '0' :: cs => (['0'], cs)
  | cs => cs.span isDigit

/-- The digits after a decimal point; a point without digits is not part of the number. -/
def fractionPart : List Char → List Char × List Char
  | '.' :: cs =>
    match cs.span isDigit with
    | ([], _) => ([], '.' :: cs)
    | (ds, rest) => (ds, rest)
  | cs => ([], cs)

/-- The exponent after `e` or `E`; a mark without digits is not part of the number. -/
def exponentPart : List Char → Option Int × List Char
  | [] => (none, [])
  | c :: cs =>
    if c == 'e' || c == 'E' then
      let (negative, body) := Decimal.splitSign cs
      match body.span isDigit with
      | ([], _) => (none, c :: cs)
      | (ds, rest) =>
        (some (Decimal.signed negative (Decimal.ofDigits (ds.map (·.toNat - 48)))), rest)
    else (none, c :: cs)

def digitsNumber (ds : List Char) : Nat :=
  Decimal.ofDigits (ds.map (·.toNat - 48))

def number (negative : Bool) (cs : List Char) : Except ReadFault (Json × List Char) :=
  let (whole, afterWhole) := wholePart cs
  if whole.isEmpty then .error .malformed
  else
    let (places, afterPlaces) := fractionPart afterWhole
    let (exponent, rest) := exponentPart afterPlaces
    if places.isEmpty && exponent.isNone then
      if Decimal.digitLimit < whole.length then .error (.tooManyDigits whole.length)
      else .ok (.number (.whole (Decimal.signed negative (digitsNumber whole))), rest)
    else
      let scale : Int := exponent.getD 0 - places.length
      .ok (.number (.real (Decimal.toReal negative (digitsNumber (whole ++ places)) scale)), rest)

def words : List (List Char × Json) :=
  [("null".toList, .null), ("true".toList, .bool true), ("false".toList, .bool false),
    ("NaN".toList, .number (.real (0.0 / 0.0))), ("Infinity".toList, .number (.real (1.0 / 0.0))),
    ("-Infinity".toList, .number (.real (-(1.0 / 0.0))))]

def scalar (cs : List Char) : Except ReadFault (Json × List Char) :=
  match words.find? fun (word, _) => word.isPrefixOf cs with
  | some (word, value) => .ok (value, cs.drop word.length)
  | none =>
    match cs with
    | '-' :: rest => number true rest
    | _ => number false cs

mutual

def value : Nat → List Char → Except ReadFault (Json × List Char)
  | 0, _ => .error .malformed
  | _ + 1, '"' :: cs => do
    let (s, rest) ← string cs
    return (.text s, rest)
  | fuel + 1, '[' :: cs =>
    match skip cs with
    | ']' :: rest => .ok (.array [], rest)
    | rest => do
      let (found, after) ← items fuel rest
      return (.array found, after)
  | fuel + 1, '{' :: cs =>
    match skip cs with
    | '}' :: rest => .ok (.object [], rest)
    | rest => do
      let (found, after) ← members fuel rest
      return (ofMembers found, after)
  | _ + 1, cs => scalar cs

/-- The items of an array that has one, up to its closing bracket. -/
def items : Nat → List Char → Except ReadFault ((List Json) × List Char)
  | 0, _ => .error .malformed
  | fuel + 1, cs => do
    let (item, rest) ← value fuel cs
    match skip rest with
    | ']' :: after => return ([item], after)
    | ',' :: more =>
      let (others, after) ← items fuel (skip more)
      return (item :: others, after)
    | _ => .error .malformed

/-- The members of an object that has one, up to its closing brace. -/
def members : Nat → List Char → Except ReadFault ((List (String × Json)) × List Char)
  | 0, _ => .error .malformed
  | fuel + 1, '"' :: cs => do
    let (name, afterName) ← string cs
    match skip afterName with
    | ':' :: afterColon =>
      let (item, rest) ← value fuel (skip afterColon)
      match skip rest with
      | '}' :: after => return ([(name, item)], after)
      | ',' :: more =>
        let (others, after) ← members fuel (skip more)
        return ((name, item) :: others, after)
      | _ => .error .malformed
    | _ => .error .malformed
  | _ + 1, _ => .error .malformed

end

def document (cs : List Char) : Except ReadFault Json := do
  let (found, rest) ← value (2 * cs.length + 2) (skip cs)
  if (skip rest).isEmpty then return found else .error .malformed

end Reader

def read (s : String) : Except ReadFault Json :=
  Reader.document s.toList

end Checkup.Json
