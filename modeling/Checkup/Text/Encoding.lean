import Checkup.Text.Utf8

/-!
# Text encodings

A text that arrives as bytes tells its encoding by a mark at its start, or by where the zeros are
among its first bytes; without either it is UTF-8. Surrogates that stand alone are let through in
every encoding, as U+FFFD, since no character is one.
-/

namespace Checkup.Text.Encoding

inductive Scheme
  | utf8
  | utf16 (bigEndian : Bool)
  | utf32 (bigEndian : Bool)
  deriving DecidableEq, Repr

def detect : List Nat → Scheme × List Nat
  | 0x00 :: 0x00 :: 0xFE :: 0xFF :: rest => (.utf32 true, rest)
  | 0xFF :: 0xFE :: 0x00 :: 0x00 :: rest => (.utf32 false, rest)
  | 0xFE :: 0xFF :: rest => (.utf16 true, rest)
  | 0xFF :: 0xFE :: rest => (.utf16 false, rest)
  | 0xEF :: 0xBB :: 0xBF :: rest => (.utf8, rest)
  | [a, b] =>
    if a == 0 then (.utf16 true, [a, b])
    else if b == 0 then (.utf16 false, [a, b])
    else (.utf8, [a, b])
  | a :: b :: c :: d :: rest =>
    let bytes := a :: b :: c :: d :: rest
    if a == 0 then (if b == 0 then .utf32 true else .utf16 true, bytes)
    else if b == 0 then (if c == 0 && d == 0 then .utf32 false else .utf16 false, bytes)
    else (.utf8, bytes)
  | bytes => (.utf8, bytes)

/-- The numbers that the bytes make two by two; none when one is left over. -/
def pairs? (bigEndian : Bool) : List Nat → Option (List Nat)
  | [] => some []
  | [_] => none
  | a :: b :: rest => do
    let units ← pairs? bigEndian rest
    return (if bigEndian then a * 256 + b else b * 256 + a) :: units

/-- The numbers that the bytes make four by four; none when some are left over. -/
def quads? (bigEndian : Bool) (bytes : List Nat) : Option (List Nat) := do
  let units ← pairs? bigEndian bytes
  pairsOf units
where
  /-- The numbers that the units make two by two. -/
  pairsOf : List Nat → Option (List Nat)
    | [] => some []
    | [_] => none
    | a :: b :: rest => do
      let more ← pairsOf rest
      return (if bigEndian then a * 65536 + b else b * 65536 + a) :: more

def codeChar (n : Nat) : Char :=
  if 0xD800 ≤ n && n < 0xE000 then '\uFFFD' else Char.ofNat n

def joinUnits : List Nat → List Char
  | [] => []
  | [n] => [codeChar n]
  | n :: m :: rest =>
    if 0xD800 ≤ n && n < 0xDC00 && 0xDC00 ≤ m && m < 0xE000 then
      Char.ofNat (0x10000 + (n - 0xD800) * 1024 + (m - 0xDC00)) :: joinUnits rest
    else codeChar n :: joinUnits (m :: rest)

def withoutSurrogates : List Nat → List Nat
  | 0xED :: b :: c :: rest =>
    if 0xA0 ≤ b && b ≤ 0xBF && 0x80 ≤ c && c ≤ 0xBF then
      0xEF :: 0xBF :: 0xBD :: withoutSurrogates rest
    else 0xED :: withoutSurrogates (b :: c :: rest)
  | b :: rest => b :: withoutSurrogates rest
  | [] => []

def decode? (bytes : List Nat) : Option String :=
  match detect bytes with
  | (.utf8, rest) => Utf8.decode? ((withoutSurrogates rest).map UInt8.ofNat)
  | (.utf16 bigEndian, rest) => (pairs? bigEndian rest).map fun us => String.ofList (joinUnits us)
  | (.utf32 bigEndian, rest) => do
    let points ← quads? bigEndian rest
    if points.all (· < 0x110000) then some (String.ofList (points.map codeChar)) else none

end Checkup.Text.Encoding
