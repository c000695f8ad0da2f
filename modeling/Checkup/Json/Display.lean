import Checkup.Json.Printer
import Checkup.Text.Printable

/-!
# Values in messages

Where a message shows a value that was expected to be text, a text stands for itself and any other
value is spelled out: `None`, `True`, numbers, and arrays and objects with quoted texts inside.
-/

namespace Checkup.Json

namespace Display

def char (quote c : Char) : List Char :=
  if c == quote || c == '\\' then ['\\', c]
  else if c == '\n' then ['\\', 'n']
  else if c == '\r' then ['\\', 'r']
  else if c == '\t' then ['\\', 't']
  else if Text.isPrintable c then [c]
  else if c.toNat < 0x100 then '\\' :: 'x' :: Printer.hexDigits 2 c.toNat
  else if c.toNat < 0x10000 then '\\' :: 'u' :: Printer.hexDigits 4 c.toNat
  else '\\' :: 'U' :: Printer.hexDigits 8 c.toNat

/-- Single quotes, unless the text has one of them and no double quote. -/
def quoteFor (cs : List Char) : Char :=
  if cs.contains '\'' && !cs.contains '"' then '"' else '\''

def quoted (s : String) : String :=
  let cs := s.toList
  let quote := quoteFor cs
  String.ofList (quote :: cs.flatMap (char quote) ++ [quote])

def number : Number → String
  | .whole n => toString n
  | .real x => Decimal.realText x

mutual

def value : Json → String
  | .null => "None"
  | .bool b => if b then "True" else "False"
  | .number n => number n
  | .text s => quoted s
  | .array found => "[" ++ String.intercalate ", " (items found) ++ "]"
  | .object found => "\x7b" ++ String.intercalate ", " (members found) ++ "\x7d"

def items : List Json → List String
  | [] => []
  | item :: rest => value item :: items rest

def members : List (String × Json) → List String
  | [] => []
  | (name, item) :: rest => (quoted name ++ ": " ++ value item) :: members rest

end

end Display

def display : Json → String
  | .text s => s
  | other => Display.value other

theorem display_text (s : String) : (text s).display = s := rfl

end Checkup.Json
