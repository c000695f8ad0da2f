/-!
# UTF-8

A decoder that runs one byte at a time. A malformed sequence ends at the first byte that cannot
continue it; that byte is then read afresh. Decoding marks each malformed sequence by `none`, from
which the strict and the forgiving reading follow.
-/

namespace Checkup.Text.Utf8

/-- A sequence that still owes bytes; the next of them lies between `low` and `high`. -/
structure Pending where
  owed : Nat
  low : Nat
  high : Nat
  value : Nat

inductive Lead
  | complete (c : Char)
  | opens (pending : Pending)
  | malformed

/-- The first byte of a character decides its length and the range of the second byte. -/
def lead (b : Nat) : Lead :=
  if b < 0x80 then .complete (Char.ofNat b)
  else if b < 0xC2 then .malformed
  else if b < 0xE0 then .opens ⟨1, 0x80, 0xBF, b - 0xC0⟩
  else if b == 0xE0 then .opens ⟨2, 0xA0, 0xBF, 0⟩
  else if b == 0xED then .opens ⟨2, 0x80, 0x9F, 0xD⟩
  else if b < 0xF0 then .opens ⟨2, 0x80, 0xBF, b - 0xE0⟩
  else if b == 0xF0 then .opens ⟨3, 0x90, 0xBF, 0⟩
  else if b < 0xF4 then .opens ⟨3, 0x80, 0xBF, b - 0xF0⟩
  else if b == 0xF4 then .opens ⟨3, 0x80, 0x8F, 4⟩
  else .malformed

def begin (b : Nat) : List (Option Char) × Option Pending :=
  match lead b with
  | .complete c => ([some c], none)
  | .opens pending => ([], some pending)
  | .malformed => ([none], none)

def step : Option Pending → Nat → List (Option Char) × Option Pending
  | none, b => begin b
  | some p, b =>
    if p.low ≤ b && b ≤ p.high then
      let value := p.value * 64 + (b - 0x80)
      if p.owed ≤ 1 then ([some (Char.ofNat value)], none)
      else ([], some ⟨p.owed - 1, 0x80, 0xBF, value⟩)
    else
      let (yielded, opened) := begin b
      (none :: yielded, opened)

/-- The characters of the bytes, with `none` for each malformed sequence. -/
def decodeFrom (state : Option Pending) : List UInt8 → List (Option Char)
  | [] => if state.isSome then [none] else []
  | b :: bs =>
    let (yielded, next) := step state b.toNat
    yielded ++ decodeFrom next bs

def decode? (bytes : List UInt8) : Option String :=
  ((decodeFrom none bytes).mapM id).map String.ofList

/-- The text of any bytes, each malformed sequence read as U+FFFD. -/
def decodeLossy (bytes : List UInt8) : String :=
  String.ofList ((decodeFrom none bytes).map (·.getD '\uFFFD'))

def encodeChar (c : Char) : List Nat :=
  let n := c.toNat
  if n < 0x80 then [n]
  else if n < 0x800 then [0xC0 + n / 64, 0x80 + n % 64]
  else if n < 0x10000 then [0xE0 + n / 4096, 0x80 + n / 64 % 64, 0x80 + n % 64]
  else [0xF0 + n / 262144, 0x80 + n / 4096 % 64, 0x80 + n / 64 % 64, 0x80 + n % 64]

def encode (cs : List Char) : List Nat :=
  cs.flatMap encodeChar

def size (s : String) : Nat :=
  (encode s.toList).length

end Checkup.Text.Utf8
