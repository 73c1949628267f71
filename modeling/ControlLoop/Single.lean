/-!
# Single precision numbers

An IEEE 754 single precision number is kept as its bits, so that every pattern, the payloads of NaN included, is a
value of its own. What it stands for is the integer `scaled`, in units of the smallest positive number.

It is written with the fewest digits that read back as the same number, and with the nearest to it of those. The search
goes over the decimal grids from the coarsest to the finest: if any point of a grid reads back, then so does one of the
two points beside the number. The digits are laid out without an exponent.
-/

namespace ControlLoop

set_option autoImplicit false

structure Single where
  bits : UInt32
deriving DecidableEq, Repr

namespace Single

def negative (x : Single) : Bool := 2147483648 ≤ x.bits.toNat

def exponentField (x : Single) : Nat := x.bits.toNat / 8388608 % 256

def fraction (x : Single) : Nat := x.bits.toNat % 8388608

def isNaN (x : Single) : Bool := x.exponentField == 255 && x.fraction != 0

def isInfinite (x : Single) : Bool := x.exponentField == 255 && x.fraction == 0

/-- The significand as an integer, with the leading one of a normal number. -/
def significand (x : Single) : Nat :=
  if x.exponentField = 0 then x.fraction else x.fraction + 8388608

/-- The unit of the significand is this power of two, in units of `2 ^ -149`. -/
def shift (x : Single) : Nat := x.exponentField - 1

/-- The magnitude in units of `2 ^ -149`. An infinity counts as `2 ^ 128`, the end of the finite range. -/
def magnitude (x : Single) : Nat := x.significand <<< x.shift

/-- The value in units of `2 ^ -149`. -/
def scaled (x : Single) : Int := if x.negative then -x.magnitude else x.magnitude

/-- Numeric equality: the two zeros are equal and NaN equals nothing. -/
def equals (x y : Single) : Bool := !x.isNaN && !y.isNaN && x.scaled == y.scaled

def zero : Single := ⟨0⟩

/-- The number whose sign, exponent field and significand are given; a significand of `2 ^ 24` carries into the
exponent. -/
def assemble (negative : Bool) (exponent significand : Nat) : Single :=
  ⟨UInt32.ofNat ((if negative then 2147483648 else 0) + exponent * 8388608 + significand - 8388608)⟩

/-! ## Shortest decimal text -/

/-- The decimal `digits * 10 ^ exponent`. -/
structure Decimal where
  digits : Nat
  exponent : Int
deriving DecidableEq, Repr

/-- The magnitudes that round to a number, and the number itself, in units of `10 ^ -45 * 2 ^ -151`. The ends read
back exactly if the significand is even. -/
structure Interval where
  low : Nat
  value : Nat
  high : Nat
  closed : Bool

/-- The gap below a power of two is half of the gap above it. -/
def interval (x : Single) : Interval :=
  let below := if x.fraction = 0 ∧ 1 < x.exponentField then 1 else 2
  { low := (4 * x.significand - below) <<< x.shift * Nat.pow 10 45
    value := (4 * x.significand) <<< x.shift * Nat.pow 10 45
    high := (4 * x.significand + 2) <<< x.shift * Nat.pow 10 45
    closed := x.significand % 2 == 0 }

def Interval.contains (i : Interval) (y : Nat) : Bool :=
  if i.closed then i.low ≤ y && y ≤ i.high else i.low < y && y < i.high

/-- The point beside the value on the grid of multiples of `step` that lies in the interval, as a multiple. Of two
such points the nearer is taken, and in the middle the greater. -/
def Interval.point? (i : Interval) (step : Nat) : Option Nat :=
  let n := i.value / step
  if i.contains (n * step) then
    if i.contains ((n + 1) * step) ∧ (2 * n + 1) * step ≤ 2 * i.value then some (n + 1) else some n
  else if i.contains ((n + 1) * step) then some (n + 1)
  else none

/-- The shortest decimal of a finite positive magnitude. The finest grid, `10 ^ -45`, is finer than the gaps between
the numbers; the exact expansion stands behind it. -/
def decimal (x : Single) : Decimal :=
  let i := x.interval
  let grids := (List.range 84).map fun (k : Nat) => (83 - k, 38 - (k : Int))
  (grids.findSome? fun (power, exponent) =>
    (i.point? (Nat.pow 10 power <<< 151)).map fun n => ⟨n, exponent⟩).getD ⟨x.magnitude * Nat.pow 5 149, -149⟩

/-- Positional notation, with a point only where a fraction follows it. -/
def Decimal.text (d : Decimal) : String :=
  let digits := (Nat.repr d.digits).toList
  if 0 ≤ d.exponent then String.ofList (digits ++ List.replicate d.exponent.toNat '0')
  else
    let places := d.exponent.natAbs
    let padded := List.replicate (places + 1 - digits.length) '0' ++ digits
    let whole := padded.length - places
    String.ofList (padded.take whole ++ '.' :: padded.drop whole)

def text (x : Single) : String :=
  if x.isNaN then "NaN"
  else
    let magnitude := if x.isInfinite then "inf" else if x.magnitude = 0 then "0" else x.decimal.text
    if x.negative then "-" ++ magnitude else magnitude

end Single

end ControlLoop
