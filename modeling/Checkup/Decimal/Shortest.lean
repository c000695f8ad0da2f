import Checkup.Decimal.Exact

/-!
# Shortest decimal text

The text of a real number has the fewest digits that read back as the number, and among those the
nearest to it. A double is read back from exactly the decimals between the midpoints to its two
neighbours, the midpoints included when its mantissa is even. For one digit, two digits and so on
the two decimals next to the number are tried against that interval.
-/

namespace Checkup.Decimal

/-- The decimals that read back as one number, over a common denominator. -/
structure Interval where
  low : Nat
  value : Nat
  high : Nat
  denominator : Nat
  closed : Bool

namespace Interval

/-- The interval of `mantissa · 2 ^ exponent`: half a step on each side, a quarter below a power of
two, where the steps change size. -/
def ofMantissa (mantissa : Nat) (exponent : Int) : Interval :=
  let narrow := mantissa == Nat.pow 2 52 && exponent != -1074
  let (scale, denominator) := fraction 1 (exponent - 2)
  { low := (4 * mantissa - if narrow then 1 else 2) * scale
    value := 4 * mantissa * scale
    high := (4 * mantissa + 2) * scale
    denominator
    closed := mantissa % 2 == 0 }

def holds (i : Interval) (numerator denominator : Nat) : Bool :=
  let point := numerator * i.denominator
  let low := i.low * denominator
  let high := i.high * denominator
  if i.closed then low ≤ point && point ≤ high else low < point && point < high

end Interval

/-- How many decimal places come before the first digit of `numerator / denominator`, which is
below one: the least count with `10 ^ count · numerator ≥ denominator`. -/
def leadingPlaces (numerator denominator : Nat) : Nat → Nat
  | 0 => 0
  | fuel + 1 =>
    if denominator ≤ numerator then 0
    else leadingPlaces (numerator * 10) denominator fuel + 1

/-- The exponent `k` with `10 ^ (k - 1) ≤ numerator / denominator < 10 ^ k`. -/
def magnitude (numerator denominator : Nat) : Int :=
  if denominator ≤ numerator then ((Nat.repr (numerator / denominator)).length : Int)
  else 1 - (leadingPlaces numerator denominator 400 : Int)

structure Digits where
  digits : Nat
  exponent : Int
  deriving Repr

/-- The neighbour of the number with the last digit at `exponent`, if one reads back. -/
def Interval.neighbour? (i : Interval) (exponent : Int) : Option Digits :=
  let (up, down) := if exponent < 0 then (Nat.pow 10 exponent.natAbs, 1)
    else (1, Nat.pow 10 exponent.natAbs)
  let below := i.value * up / (i.denominator * down)
  let fits (n : Nat) : Bool := i.holds (n * down) up
  let twice := 2 * (i.value * up % (i.denominator * down))
  let upper := i.denominator * down < twice ||
    (i.denominator * down == twice && below % 2 == 1)
  match fits below, fits (below + 1) with
  | true, true => some ⟨if upper then below + 1 else below, exponent⟩
  | true, false => some ⟨below, exponent⟩
  | false, true => some ⟨below + 1, exponent⟩
  | false, false => none

/-- The first digit count, from the given exponent down, that reads back. -/
def Interval.search (i : Interval) (exponent : Int) : Nat → Digits
  | 0 => ⟨i.value / i.denominator, 0⟩
  | fuel + 1 =>
    match i.neighbour? exponent with
    | some found => found
    | none => i.search (exponent - 1) fuel

def shortest (mantissa : Nat) (exponent : Int) : Digits :=
  let i := Interval.ofMantissa mantissa exponent
  i.search (magnitude i.value i.denominator - 1) 17

/-- The layout of real numbers: positional from `10 ^ (-4)` up to `10 ^ 16`, with `.0` after a
whole number; otherwise an exponent of at least two digits with its sign. -/
def layout (d : Digits) : String :=
  let digits := (Nat.repr d.digits).toList
  let trimmed := (digits.reverse.dropWhile (· == '0')).reverse
  let point : Int := digits.length + d.exponent
  if -4 < point && point ≤ 16 then
    if point ≤ 0 then
      "0." ++ String.ofList (List.replicate point.natAbs '0' ++ trimmed)
    else
      let units := trimmed.take point.toNat
      let zeros := List.replicate (point.toNat - trimmed.length) '0'
      let rest := trimmed.drop point.toNat
      String.ofList (units ++ zeros) ++ "." ++ (if rest.isEmpty then "0" else String.ofList rest)
  else
    let power := point - 1
    let head := trimmed.take 1
    let rest := trimmed.drop 1
    String.ofList head ++ (if rest.isEmpty then "" else "." ++ String.ofList rest) ++ "e" ++
      (if power < 0 then "-" else "+") ++ padded 2 power.natAbs

def realText (x : Float) : String :=
  match Exact.ofFloat x with
  | .finite negative mantissa exponent =>
    let sign := if negative then "-" else ""
    if mantissa == 0 then sign ++ "0.0" else sign ++ layout (shortest mantissa exponent)
  | .infinite negative => infinityText negative
  | .undefined => "nan"

/-- The real number nearest to `mantissa · 10 ^ exponent`, beyond the largest an infinity. -/
def toReal (negative : Bool) (mantissa : Nat) (exponent : Int) : Float :=
  let size : Int := (Nat.repr mantissa).length + exponent
  let x :=
    if mantissa == 0 || size < -400 then 0.0
    else if 400 < size then 1.0 / 0.0
    else Float.ofScientific mantissa (exponent < 0) exponent.natAbs
  if negative then -x else x

end Checkup.Decimal
