/-!
# The exact value of a real number

A double is a sign, a whole mantissa and a power of two. On that form truncation, rounding and
fixed-point text are exact arithmetic on natural numbers.
-/

namespace Checkup.Decimal

/-- A stored real number: `± mantissa · 2 ^ exponent`, an infinity, or not a number. -/
inductive Exact
  | finite (negative : Bool) (mantissa : Nat) (exponent : Int)
  | infinite (negative : Bool)
  | undefined
  deriving Repr

namespace Exact

/-- Reads the sign, the exponent and the fraction out of the stored bits. -/
def ofFloat (x : Float) : Exact :=
  let bits := x.toBits.toNat
  let negative := bits / Nat.pow 2 63 == 1
  let field : Nat := bits / Nat.pow 2 52 % 2048
  let fraction : Nat := bits % Nat.pow 2 52
  if field == 2047 then
    if fraction == 0 then .infinite negative else .undefined
  else if field == 0 then .finite negative fraction (-1074)
  else .finite negative (fraction + Nat.pow 2 52) ((field : Int) - 1075)

end Exact

/-- The fraction `numerator / denominator` of `mantissa · 2 ^ exponent`. -/
def fraction (mantissa : Nat) (exponent : Int) : Nat × Nat :=
  if exponent < 0 then (mantissa, Nat.pow 2 exponent.natAbs)
  else (mantissa * Nat.pow 2 exponent.natAbs, 1)

/-- The whole number nearest to `numerator / denominator`; a half goes to the even neighbour. -/
def roundDiv (numerator denominator : Nat) : Nat :=
  let quotient := numerator / denominator
  let twice := 2 * (numerator % denominator)
  if twice < denominator then quotient
  else if twice > denominator then quotient + 1
  else if quotient % 2 == 0 then quotient else quotient + 1

def signed (negative : Bool) (n : Nat) : Int :=
  if negative then -(n : Int) else n

inductive NotFinite
  | infinite
  | undefined
  deriving Repr, DecidableEq

def truncate (x : Float) : Except NotFinite Int :=
  match Exact.ofFloat x with
  | .finite negative mantissa exponent =>
    let (numerator, denominator) := fraction mantissa exponent
    .ok (signed negative (numerator / denominator))
  | .infinite _ => .error .infinite
  | .undefined => .error .undefined

/-- The nearest whole number; a half goes to the even neighbour. -/
def round (x : Float) : Except NotFinite Int :=
  match Exact.ofFloat x with
  | .finite negative mantissa exponent =>
    let (numerator, denominator) := fraction mantissa exponent
    .ok (signed negative (roundDiv numerator denominator))
  | .infinite _ => .error .infinite
  | .undefined => .error .undefined

def whole? (x : Float) : Option Int :=
  match Exact.ofFloat x with
  | .finite negative mantissa exponent =>
    let (numerator, denominator) := fraction mantissa exponent
    if numerator % denominator == 0 then some (signed negative (numerator / denominator)) else none
  | _ => none

def padded (width : Nat) (n : Nat) : String :=
  let digits := (Nat.repr n).toList
  String.ofList (List.replicate (width - digits.length) '0' ++ digits)

def infinityText (negative : Bool) : String :=
  if negative then "-inf" else "inf"

/-- Fixed-point text; a half goes to the even neighbour, and a negative zero keeps its sign. -/
def fixed (places : Nat) (x : Float) : String :=
  match Exact.ofFloat x with
  | .finite negative mantissa exponent =>
    let (numerator, denominator) := fraction mantissa exponent
    let scaled := roundDiv (numerator * Nat.pow 10 places) denominator
    let sign := if negative then "-" else ""
    let units := toString (scaled / Nat.pow 10 places)
    if places == 0 then sign ++ units
    else sign ++ units ++ "." ++ padded places (scaled % Nat.pow 10 places)
  | .infinite negative => infinityText negative
  | .undefined => "nan"

end Checkup.Decimal
