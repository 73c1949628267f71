import ControlLoop.Fixed.Arithmetic
import Mathlib.Algebra.Order.Field.Rat

/-!
# Values of fixed point numbers

What a fixed point number stands for, bounds on raw values, and what products and conversions keep of them.
-/

namespace ControlLoop

set_option autoImplicit false

def Fixed.Within (lo hi : Int) (x : Fixed) : Prop := lo ≤ x.raw ∧ x.raw ≤ hi

instance (lo hi : Int) (x : Fixed) : Decidable (x.Within lo hi) := inferInstanceAs (Decidable (_ ∧ _))

/-- A number, not NaN, that is zero or more. -/
def Single.NonNegative (x : Single) : Prop := x.isNaN = false ∧ 0 ≤ x.scaled

instance (x : Single) : Decidable x.NonNegative := inferInstanceAs (Decidable (_ ∧ _))

theorem Rounding.toEven_nonneg {num : Int} (nonneg : 0 ≤ num) (den : Nat) : 0 ≤ toEven num den := by
  have hquotient : 0 ≤ num / (den : Int) := Int.ediv_nonneg nonneg (Int.natCast_nonneg den)
  simp only [toEven]
  split
  · exact hquotient
  · split <;> omega

namespace Fixed

def toRat (x : Fixed) : ℚ := x.raw / 65536

/-- A wrapped number is no further from zero than it was. -/
theorem raw_wrap_between {n : Int} (nonneg : 0 ≤ n) : -n ≤ (wrap n).raw ∧ (wrap n).raw ≤ n := by
  simp only [wrap]
  omega

/-- A difference makes up for what was taken off, wrapped or not. -/
theorem add_difference (a x : Fixed) : a + (x - a) = x := by
  have hlower := x.lower
  have hupper := x.upper
  apply Fixed.ext
  simp only [add_def, sub_def, wrap]
  omega

/-- A product by a factor between zero and one lies between zero and the other factor. -/
theorem scaled_between {d t : Int} (nonneg : 0 ≤ t) (atMostOne : t ≤ 65536) :
    min 0 d ≤ d * t / 65536 ∧ d * t / 65536 ≤ max 0 d := by
  rcases Int.le_total 0 d with hd | hd
  · have hlow : 0 ≤ d * t := Int.mul_nonneg hd nonneg
    have hhigh : d * t ≤ d * 65536 := Int.mul_le_mul_of_nonneg_left atMostOne hd
    omega
  · have hlow : d * 65536 ≤ d * t := Int.mul_le_mul_of_nonpos_left hd atMostOne
    have hhigh : d * t ≤ 0 := Int.mul_nonpos_of_nonpos_of_nonneg hd nonneg
    omega

theorem whole_bounds (x : Fixed) :
    -2147483648 ≤ x.raw.tdiv 65536 * 65536 ∧ x.raw.tdiv 65536 * 65536 < 2147483648 := by
  have hlower := x.lower
  have hupper := x.upper
  rw [Int.tdiv_eq_ediv, Int.sign_eq_one_of_pos (by omega)]
  split <;> omega

theorem raw_truncate (x : Fixed) : x.truncate.raw = x.raw.tdiv 65536 * 65536 :=
  raw_wrap x.whole_bounds.1 x.whole_bounds.2

theorem truncate_mono {x y : Fixed} (h : x ≤ y) : x.truncate ≤ y.truncate := by
  have hquotient : x.raw.tdiv 65536 ≤ y.raw.tdiv 65536 := Int.tdiv_le_tdiv (by decide) h
  rw [le_def, raw_truncate, raw_truncate]
  omega

theorem ofSingle_of_nonNegative {x : Single} (h : x.NonNegative) : ∃ r, ofSingle x = .ok r ∧ 0 ≤ r.raw := by
  obtain ⟨hnumber, hscaled⟩ := h
  have hround := Rounding.toEven_nonneg hscaled (Nat.pow 2 133)
  refine ⟨saturate (Rounding.toEven x.scaled (Nat.pow 2 133)), by simp [ofSingle, hnumber], ?_⟩
  generalize Rounding.toEven x.scaled (Nat.pow 2 133) = n at hround ⊢
  simp only [saturate]
  omega

theorem ofSingle_of_number {x : Single} (number : x.isNaN = false) : ∃ r, ofSingle x = .ok r :=
  ⟨saturate (Rounding.toEven x.scaled (Nat.pow 2 133)), by simp [ofSingle, number]⟩

theorem ofSingle_eq_error_iff {x : Single} {fault : Fault} :
    ofSingle x = .error fault ↔ x.isNaN = true ∧ fault = .notANumber := by
  rw [ofSingle]
  cases x.isNaN <;> simp [eq_comm]

end Fixed

end ControlLoop
