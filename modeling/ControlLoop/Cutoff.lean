import ControlLoop.Fixed.Arithmetic

/-!
# Cutoff frequency and smoothing factor

A single pole filter with a cutoff frequency, sampled at a fixed period, has the smoothing factor
`1 - e ^ (-2 π f T)`. The factor sits so near to one at high frequencies that it is worked out in double precision
and rounded only at the end.

The two elementary functions that it takes are accurate also near zero. The order of their operations is part of the
definitions, since each of them rounds.
-/

namespace ControlLoop

set_option autoImplicit false

/-! ## The exponential less one

`expm1 x` is `e ^ x - 1`. The argument is reduced by a multiple of `ln 2`, held in two parts, and the rest goes through
a rational approximation in its square.
-/

namespace Elementary

/-- The leading bits of `ln 2`, few enough that small multiples are exact. -/
def ln2High : Float := Float.ofBits 0x3fe62e42fee00000

/-- What `ln2High` lacks of `ln 2`. -/
def ln2Low : Float := Float.ofBits 0x3dea39ef35793c76

/-- The upper half of the bits: sign, exponent and the first twenty bits of the fraction. -/
def highWord (x : Float) : Nat := (x.toBits >>> 32).toNat

/-- Two to an integer power within the normal range. -/
def powerOfTwo (k : Int) : Float := Float.ofBits (UInt64.ofNat (((1023 + k).toNat) <<< 52))

namespace Expm1

def inverseLn2 : Float := Float.ofBits 0x3ff71547652b82fe

def q1 : Float := Float.ofBits 0xbfa11111111110f4
def q2 : Float := Float.ofBits 0x3f5a01a019fe5585
def q3 : Float := Float.ofBits 0xbf14ce199eaadbb7
def q4 : Float := Float.ofBits 0x3ed0cfca86e65239
def q5 : Float := Float.ofBits 0xbe8afdb76e09c32d

/-- An argument as `k * ln 2 + rest`, with the rounding error of `rest`. -/
structure Reduced where
  k : Int
  rest : Float
  error : Float

/-- The argument itself if it is small, and otherwise its remainder after the nearest multiple of `ln 2`. -/
def reduce (x : Float) : Reduced :=
  let high := highWord x % 0x80000000
  let negative := highWord x ≥ 0x80000000
  let split (k : Int) (hi lo : Float) : Reduced :=
    let rest := hi - lo
    ⟨k, rest, (hi - rest) - lo⟩
  if high ≤ 0x3fd62e42 then ⟨0, x, 0.0⟩
  else if high < 0x3ff0a2b2 then
    if negative then split (-1) (x + ln2High) (-ln2Low) else split 1 (x - ln2High) ln2Low
  else
    let k := (inverseLn2 * x + (if negative then -0.5 else 0.5)).toInt32.toInt
    let t := Float.ofInt k
    split k (x - t * ln2High) (t * ln2Low)

/-- The reduced argument's `expm1`, scaled back by `2 ^ k`. -/
def combine (r : Reduced) : Float :=
  let x := r.rest
  let half := 0.5 * x
  let square := x * half
  let r1 := 1.0 + square * (q1 + square * (q2 + square * (q3 + square * (q4 + square * q5))))
  let t := 3.0 - r1 * half
  let e := square * ((r1 - t) / (6.0 - x * t))
  if r.k = 0 then x - (x * e - square)
  else
    let e := x * (e - r.error) - r.error
    let e := e - square
    if r.k = -1 then 0.5 * (x - e) - 0.5
    else if r.k = 1 then
      if x < -0.25 then -2.0 * (e - (x + 0.5)) else 1.0 + 2.0 * (x - e)
    else if r.k < 0 ∨ 56 < r.k then
      let y := x - e + 1.0
      let y := if r.k = 1024 then y * 2.0 * powerOfTwo 1023 else y * powerOfTwo r.k
      y - 1.0
    else
      let u := powerOfTwo (-r.k)
      if r.k < 20 then (x - e + (1.0 - u)) * powerOfTwo r.k else (x - (e + u) + 1.0) * powerOfTwo r.k

end Expm1

/-- `e ^ x - 1`. Beyond `56 ln 2` below zero it is minus one, beyond the largest exponent infinite, and below
`2 ^ -54` the argument itself. -/
def expm1 (x : Float) : Float :=
  let high := highWord x % 0x80000000
  let negative := highWord x ≥ 0x80000000
  if x.isNaN then x
  else if 0x4043687a ≤ high ∧ negative then -1.0
  else if 0x4043687a ≤ high ∧ x > Float.ofBits 0x40862e42fefa39ef then x * powerOfTwo 1023
  else if high < 0x3c900000 then x
  else Expm1.combine (Expm1.reduce x)

/-! ## The logarithm of one plus a number

`log1p x` is the natural logarithm of `1 + x`. The sum is written as `2 ^ k * (1 + f)` with `1 + f` near one, the
rounding error of the sum is carried along, and `f` goes through an approximation in `f / (2 + f)`.
-/

namespace Log1p

def l1 : Float := Float.ofBits 0x3fe5555555555593
def l2 : Float := Float.ofBits 0x3fd999999997fa04
def l3 : Float := Float.ofBits 0x3fd2492494229359
def l4 : Float := Float.ofBits 0x3fcc71c51d8e78af
def l5 : Float := Float.ofBits 0x3fc7466496cb03de
def l6 : Float := Float.ofBits 0x3fc39a09d078c69f
def l7 : Float := Float.ofBits 0x3fc2f112df3e5244

/-- The sum `1 + x` as `2 ^ k * (1 + f)`, with the relative rounding error of the sum. -/
structure Reduced where
  k : Int
  f : Float
  error : Float

/-- Takes the power of two that leaves a factor between half the square root of two and its double. -/
def reduce (x : Float) : Reduced :=
  let u := 1.0 + x
  let shifted := highWord u + 0x3ff00000 - 0x3fe6a09e
  let k : Int := (shifted / 0x100000 : Nat) - 1023
  let error := if k < 54 then (if 2 ≤ k then 1.0 - (u - x) else x - (u - 1.0)) / u else 0.0
  let high := shifted % 0x100000 + 0x3fe6a09e
  ⟨k, Float.ofBits (UInt64.ofNat (high * 0x100000000 + u.toBits.toNat % 0x100000000)) - 1.0, error⟩

def combine (r : Reduced) : Float :=
  let f := r.f
  let half := 0.5 * f * f
  let s := f / (2.0 + f)
  let z := s * s
  let w := z * z
  let t1 := w * (l2 + w * (l4 + w * l6))
  let t2 := z * (l1 + w * (l3 + w * (l5 + w * l7)))
  let tail := t2 + t1
  let k := Float.ofInt r.k
  s * (half + tail) + (k * ln2Low + r.error) - half + f + k * ln2High

end Log1p

/-- The logarithm of `1 + x`. It is minus infinity at minus one and NaN below. -/
def log1p (x : Float) : Float :=
  let high := highWord x
  let negative := high ≥ 0x80000000
  if 0xbff00000 ≤ high then (if x == -1.0 then x / 0.0 else (x - x) / 0.0)
  else if (high < 0x3fda827a ∨ negative) ∧ high % 0x80000000 < 0x3ca00000 then x
  else if (high < 0x3fda827a ∨ negative) ∧ high ≤ 0xbfd2bec4 then Log1p.combine ⟨0, x, 0.0⟩
  else if 0x7ff00000 ≤ high ∧ ¬ negative then x
  else Log1p.combine (Log1p.reduce x)

end Elementary

/-! ## Factor and frequency -/

namespace Cutoff

def pi : Float := Float.ofBits 0x400921fb54442d18

/-- The smoothing factor of a cutoff in hertz at a period in milliseconds. -/
def factor (hertz : Float) (periodMs : UInt16) : Float :=
  -(Elementary.expm1 (-2.0 * pi * hertz * (periodMs.toNat.toFloat / 1000.0)))

/-- The cutoff in hertz of a smoothing factor, the inverse of `factor`. -/
def frequency (factor : Float) (periodMs : UInt16) : Float :=
  -(Elementary.log1p (-factor)) * 1000.0 / periodMs.toNat.toFloat / (2.0 * pi)

end Cutoff

def Single.toDouble (x : Single) : Float := (Float32.ofBits x.bits).toFloat

def Single.ofDouble (x : Float) : Single := ⟨x.toFloat32.toBits⟩

def Fixed.toDouble (x : Fixed) : Float := Float.ofInt x.raw / 65536.0

def Cutoff.fixedFactor (hertz : Single) (periodMs : UInt16) : Except Fault Fixed :=
  Fixed.ofSingle (Single.ofDouble (factor hertz.toDouble periodMs))

def Cutoff.ofFixedFactor (factor : Fixed) (periodMs : UInt16) : Single :=
  Single.ofDouble (frequency factor.toDouble periodMs)

end ControlLoop
