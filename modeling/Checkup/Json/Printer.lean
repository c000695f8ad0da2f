import Checkup.Json.Basic
import Checkup.Decimal.Shortest

/-!
# Writing JSON

Written JSON is ASCII: every character outside the printable ones is escaped, those beyond the
basic plane as a surrogate pair. Members keep their order. With an indent each item stands on a
line of its own; without one, items are parted by a comma and a blank.
-/

namespace Checkup.Json

namespace Printer

def hexDigits (width n : Nat) : List Char :=
  let digits := Nat.toDigits 16 n
  List.replicate (width - digits.length) '0' ++ digits

def unitEscape (n : Nat) : List Char :=
  '\\' :: 'u' :: hexDigits 4 n

def char (c : Char) : List Char :=
  if c == '"' then ['\\', '"']
  else if c == '\\' then ['\\', '\\']
  else if c == '\n' then ['\\', 'n']
  else if c == '\r' then ['\\', 'r']
  else if c == '\t' then ['\\', 't']
  else if c.toNat == 8 then ['\\', 'b']
  else if c.toNat == 12 then ['\\', 'f']
  else if 32 ≤ c.toNat && c.toNat ≤ 126 then [c]
  else if c.toNat < 0x10000 then unitEscape c.toNat
  else
    let n := c.toNat - 0x10000
    unitEscape (0xD800 + n / 1024) ++ unitEscape (0xDC00 + n % 1024)

def string (s : String) : String :=
  String.ofList ('"' :: s.toList.flatMap char ++ ['"'])

def number : Number → String
  | .whole n => toString n
  | .real x =>
    match Decimal.Exact.ofFloat x with
    | .undefined => "NaN"
    | .infinite negative => if negative then "-Infinity" else "Infinity"
    | .finite .. => Decimal.realText x

/-- What stands between the parts of an array or an object at a depth. -/
structure Layout where
  /-- after the opening bracket -/
  opening : String
  /-- between two parts -/
  between : String
  /-- before the closing bracket -/
  closing : String

def newline (indent depth : Nat) : String :=
  "\n" ++ String.ofList (List.replicate (indent * depth) ' ')

def layout (indent : Option Nat) (depth : Nat) : Layout :=
  match indent with
  | none => ⟨"", ", ", ""⟩
  | some indent =>
    ⟨newline indent (depth + 1), "," ++ newline indent (depth + 1), newline indent depth⟩

def bracketed (l : Layout) (opening closing : String) (parts : List String) : String :=
  if parts.isEmpty then opening ++ closing
  else opening ++ l.opening ++ String.intercalate l.between parts ++ l.closing ++ closing

mutual

def value (indent : Option Nat) (depth : Nat) : Json → String
  | .null => "null"
  | .bool b => if b then "true" else "false"
  | .number n => number n
  | .text s => string s
  | .array found => bracketed (layout indent depth) "[" "]" (items indent (depth + 1) found)
  | .object found =>
    bracketed (layout indent depth) "\x7b" "\x7d" (members indent (depth + 1) found)

def items (indent : Option Nat) (depth : Nat) : List Json → List String
  | [] => []
  | item :: rest => value indent depth item :: items indent depth rest

def members (indent : Option Nat) (depth : Nat) : List (String × Json) → List String
  | [] => []
  | (name, item) :: rest =>
    (string name ++ ": " ++ value indent depth item) :: members indent depth rest

end

end Printer

def compact (value : Json) : String :=
  Printer.value none 0 value

/-- The value with each part on a line of its own, indented by two. -/
def pretty (value : Json) : String :=
  Printer.value (some 2) 0 value

end Checkup.Json
