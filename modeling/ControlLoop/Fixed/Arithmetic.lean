import ControlLoop.Single
import ControlLoop.Word

/-!
# Fixed point numbers

A number with sixteen fractional bits in a signed word of 32 bits: `raw` stands for `raw / 65536`. Sums and
differences wrap around; `addSaturating` and `subSaturating` stop at the ends instead.
-/

namespace ControlLoop

set_option autoImplicit false

@[ext] structure Fixed where
  raw : Int
  lower : -2147483648 ≤ raw
  upper : raw < 2147483648
deriving DecidableEq

namespace Fixed

def fractionBits : Nat := 16

/-- Reduces a raw value modulo `2 ^ 32`. -/
def wrap (n : Int) : Fixed where
  raw := (n + 2147483648) % 4294967296 - 2147483648
  lower := by omega
  upper := by omega

/-- The representable value nearest to a raw value. -/
def saturate (n : Int) : Fixed where
  raw := max (-2147483648) (min n 2147483647)
  lower := by omega
  upper := by omega

theorem raw_wrap {n : Int} (hl : -2147483648 ≤ n) (hu : n < 2147483648) : (wrap n).raw = n := by
  simp only [wrap]
  omega

theorem raw_saturate {n : Int} (hl : -2147483648 ≤ n) (hu : n < 2147483648) : (saturate n).raw = n := by
  simp only [saturate]
  omega

def zero : Fixed := wrap 0

def one : Fixed := wrap 65536

def half : Fixed := wrap 32768

instance : Inhabited Fixed := ⟨zero⟩

instance : LE Fixed := ⟨fun a b => a.raw ≤ b.raw⟩

instance : LT Fixed := ⟨fun a b => a.raw < b.raw⟩

instance (a b : Fixed) : Decidable (a ≤ b) := inferInstanceAs (Decidable (a.raw ≤ b.raw))

instance (a b : Fixed) : Decidable (a < b) := inferInstanceAs (Decidable (a.raw < b.raw))

instance : Min Fixed := minOfLe

instance : Max Fixed := maxOfLe

theorem le_def {a b : Fixed} : a ≤ b ↔ a.raw ≤ b.raw := Iff.rfl

theorem lt_def {a b : Fixed} : a < b ↔ a.raw < b.raw := Iff.rfl

theorem raw_min (a b : Fixed) : (min a b).raw = min a.raw b.raw := by
  show (if a ≤ b then a else b).raw = _
  simp only [le_def]
  split <;> omega

theorem raw_max (a b : Fixed) : (max a b).raw = max a.raw b.raw := by
  show (if a ≤ b then b else a).raw = _
  simp only [le_def]
  split <;> omega

@[simp] theorem raw_zero : zero.raw = 0 := rfl

instance : Add Fixed := ⟨fun a b => wrap (a.raw + b.raw)⟩

instance : Sub Fixed := ⟨fun a b => wrap (a.raw - b.raw)⟩

theorem add_def (a b : Fixed) : a + b = wrap (a.raw + b.raw) := rfl

theorem sub_def (a b : Fixed) : a - b = wrap (a.raw - b.raw) := rfl

def addSaturating (a b : Fixed) : Fixed := saturate (a.raw + b.raw)

def subSaturating (a b : Fixed) : Fixed := saturate (a.raw - b.raw)

def clamp (lo hi x : Fixed) : Fixed := max lo (min x hi)

theorem raw_clamp (lo hi x : Fixed) : (clamp lo hi x).raw = max lo.raw (min x.raw hi.raw) := by
  rw [clamp, raw_max, raw_min]

/-- Drops the fraction, towards zero. -/
def truncate (x : Fixed) : Fixed := wrap (x.raw.tdiv 65536 * 65536)

/-! ## Products and quotients

The full product floors and the full quotient truncates, both exact before that one rounding. The coarse forms give up
the low eight bits of their operands for a calculation in 32 bits.
-/

/-- The integer `i`, modulo `2 ^ 16`. -/
def ofInt (i : Int) : Fixed := wrap (i * 65536)

/-- The nearest integer; a half goes up. The bias of one half is added modulo `2 ^ 32`. -/
def roundHalfUp (x : Fixed) : Int := (x + half).raw / 65536

/-- The product, rounded down. -/
def mul (a b : Fixed) : Fixed := wrap (a.raw * b.raw / 65536)

/-- The quotient, rounded towards zero. -/
def div (a b : Fixed) : Except Fault Fixed :=
  if b.raw = 0 then .error .divideByZero else .ok (wrap ((a.raw * 65536).tdiv b.raw))

/-- The product of the two numbers without their low eight bits. -/
def coarseMul (a b : Fixed) : Fixed := wrap (a.raw / 256 * (b.raw / 256))

/-- The quotient by a divisor without its low eight bits. The dividend keeps 24 bits, and the least of all
dividends over the greatest negative divisor leaves the word. -/
def coarseDiv (a b : Fixed) : Except Fault Fixed :=
  let num := (wrap (a.raw * 256)).raw
  let den := b.raw / 256
  if den = 0 then .error .divideByZero
  else if num = -2147483648 ∧ den = -1 then .error (.overflow .divide)
  else .ok (wrap (num.tdiv den))

/-! ## Single precision

Both conversions round to the nearest number, a tie to the even one. Into fixed point the ends of the range absorb what
lies beyond them, infinities included, and NaN is a fault.
-/

def ofSingle (x : Single) : Except Fault Fixed :=
  if x.isNaN then .error .notANumber else .ok (saturate (Rounding.toEven x.scaled (Nat.pow 2 133)))

/-- A magnitude between `2 ^ k` and `2 ^ (k + 1)` gets a significand in units of `2 ^ (k - 23)`. -/
def toSingle (x : Fixed) : Single :=
  let m := x.raw.natAbs
  if m = 0 then Single.zero
  else
    let k := m.log2
    Single.assemble (x.raw < 0) (k + 111) (Rounding.toEven (m * 8388608) (Nat.pow 2 k)).toNat

end Fixed

end ControlLoop
