import Checkup.Text.Utf8

/-!
# Query strings

The query of a link is a list of named values. A blank is written as a plus sign; letters, digits
and four marks stand for themselves; every other character is written byte by byte.
-/

namespace Checkup.Text.Query

def isPlain (c : Char) : Bool :=
  c.isAlphanum || c == '_' || c == '.' || c == '-' || c == '~'

def escape (byte : Nat) : List Char :=
  ['%', (Nat.digitChar (byte / 16)).toUpper, (Nat.digitChar (byte % 16)).toUpper]

def encodeChar (c : Char) : List Char :=
  if c == ' ' then ['+']
  else if isPlain c then [c]
  else (Utf8.encodeChar c).flatMap escape

def encode (s : String) : String :=
  String.ofList (s.toList.flatMap encodeChar)

def ofPairs (pairs : List (String × String)) : String :=
  String.intercalate "&" (pairs.map fun (name, value) => encode name ++ "=" ++ encode value)

end Checkup.Text.Query
