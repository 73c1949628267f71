import ControlLoop.Single
import Mathlib.Algebra.Order.Field.Basic
import Mathlib.Algebra.Order.Field.Rat
import Mathlib.Algebra.Order.Ring.Cast
import Mathlib.Tactic.Ring

/-!
# Single precision numbers and their values

A pattern is its sign, its exponent field and its fraction, and a value other than zero has one pattern only. An
exponent and a full significand make up the number that they say.
-/

namespace ControlLoop.Single

set_option autoImplicit false

variable {x y : Single}

def Finite (x : Single) : Prop := x.exponentField < 255

instance (x : Single) : Decidable x.Finite := inferInstanceAs (Decidable (_ < _))

/-- The value. An infinity counts as `2 ^ 128`, beyond all that is finite. -/
def toRat (x : Single) : ℚ := x.scaled / 2 ^ 149

theorem Finite.isNaN (h : x.Finite) : x.isNaN = false := by
  have hfield : (x.exponentField == 255) = false := beq_eq_false_iff_ne.mpr (Nat.ne_of_lt h)
  rw [Single.isNaN, hfield, Bool.false_and]

theorem toRat_le_iff : x.toRat ≤ y.toRat ↔ x.scaled ≤ y.scaled := by
  rw [toRat, toRat, div_le_div_iff_of_pos_right (by norm_num), Int.cast_le]

theorem fraction_lt (x : Single) : x.fraction < 8388608 := Nat.mod_lt _ (by decide)

theorem toNat_bits (x : Single) :
    x.bits.toNat = (if x.negative then 2147483648 else 0) + x.exponentField * 8388608 + x.fraction := by
  have hbits := x.bits.toNat_lt
  simp only [negative, exponentField, fraction, decide_eq_true_eq]
  split <;> omega

theorem ext_fields (hsign : x.negative = y.negative) (hexponent : x.exponentField = y.exponentField)
    (hfraction : x.fraction = y.fraction) : x = y := by
  have hbits : x.bits.toNat = y.bits.toNat := by rw [toNat_bits, toNat_bits, hsign, hexponent, hfraction]
  cases x
  cases y
  exact congrArg Single.mk (UInt32.toNat_inj.mp hbits)

theorem magnitude_eq (x : Single) : x.magnitude = x.significand * 2 ^ x.shift := Nat.shiftLeft_eq _ _

theorem significand_lt (x : Single) : x.significand < 16777216 := by
  have hfraction := x.fraction_lt
  rw [significand]
  split <;> omega

theorem magnitude_lt (x : Single) : x.magnitude < 2 ^ (24 + x.shift) := by
  rw [magnitude_eq, Nat.pow_add]
  exact Nat.mul_lt_mul_of_pos_right x.significand_lt (Nat.two_pow_pos _)

theorem le_magnitude_of_normal (h : x.exponentField ≠ 0) : 2 ^ (23 + x.shift) ≤ x.magnitude := by
  rw [magnitude_eq, Nat.pow_add, significand, if_neg h]
  exact Nat.mul_le_mul_right _ (Nat.le_add_left _ _)

theorem magnitude_of_subnormal (h : x.exponentField = 0) : x.magnitude = x.fraction := by
  rw [magnitude_eq, significand, shift, if_pos h, h, Nat.zero_sub, Nat.pow_zero, Nat.mul_one]

theorem shift_le_of_magnitude_le (hnormal : x.exponentField ≠ 0) (h : x.magnitude ≤ y.magnitude) :
    x.shift ≤ y.shift := by
  have hpow : 2 ^ (23 + x.shift) < 2 ^ (24 + y.shift) :=
    Nat.lt_of_le_of_lt ((le_magnitude_of_normal hnormal).trans h) y.magnitude_lt
  have hexponent := (Nat.pow_lt_pow_iff_right Nat.one_lt_two).mp hpow
  omega

theorem not_subnormal_of_magnitude_eq (hnormal : x.exponentField ≠ 0) (h : x.magnitude = y.magnitude) :
    y.exponentField ≠ 0 := by
  intro hsubnormal
  have hleast : 2 ^ 23 ≤ 2 ^ (23 + x.shift) := Nat.pow_le_pow_right Nat.two_pos (by omega)
  have hmagnitude := le_magnitude_of_normal hnormal
  rw [h, magnitude_of_subnormal hsubnormal] at hmagnitude
  have hfraction := y.fraction_lt
  omega

theorem fields_of_magnitude_eq (h : x.magnitude = y.magnitude) :
    x.exponentField = y.exponentField ∧ x.fraction = y.fraction := by
  by_cases hnormal : x.exponentField = 0
  · have hnormal' : y.exponentField = 0 := by
      by_contra hne
      exact not_subnormal_of_magnitude_eq hne h.symm hnormal
    rw [magnitude_of_subnormal hnormal, magnitude_of_subnormal hnormal'] at h
    exact ⟨hnormal.trans hnormal'.symm, h⟩
  · have hnormal' := not_subnormal_of_magnitude_eq hnormal h
    have hshift : x.shift = y.shift :=
      Nat.le_antisymm (shift_le_of_magnitude_le hnormal h.le) (shift_le_of_magnitude_le hnormal' h.ge)
    rw [magnitude_eq, magnitude_eq, hshift] at h
    have hsignificand := Nat.eq_of_mul_eq_mul_right (Nat.two_pow_pos _) h
    rw [significand, significand, if_neg hnormal, if_neg hnormal'] at hsignificand
    rw [shift, shift] at hshift
    omega

theorem natAbs_scaled (x : Single) : x.scaled.natAbs = x.magnitude := by
  rw [scaled]
  split <;> omega

theorem abs_toRat (x : Single) : |x.toRat| = x.magnitude / 2 ^ 149 := by
  rw [toRat, abs_div, abs_of_pos (by norm_num : (0 : ℚ) < 2 ^ 149), ← Int.cast_abs, Int.abs_eq_natAbs, natAbs_scaled,
    Int.cast_natCast]

theorem negative_iff (nonzero : x.scaled ≠ 0) : x.negative = true ↔ x.scaled < 0 := by
  rw [scaled] at nonzero ⊢
  split
  · rename_i hnegative
    rw [if_pos hnegative] at nonzero
    exact iff_of_true hnegative (by omega)
  · rename_i hpositive
    exact iff_of_false hpositive (by omega)

/-- Only zero has two patterns. -/
theorem eq_of_scaled_eq (h : x.scaled = y.scaled) (nonzero : x.scaled ≠ 0) : x = y := by
  have hsign : x.negative = y.negative := by
    rw [Bool.eq_iff_iff, negative_iff nonzero, negative_iff (h ▸ nonzero), h]
  have hmagnitude : x.magnitude = y.magnitude := by rw [← natAbs_scaled, ← natAbs_scaled, h]
  obtain ⟨hexponent, hfraction⟩ := fields_of_magnitude_eq hmagnitude
  exact ext_fields hsign hexponent hfraction

section Assemble

variable {negative : Bool} {exponent significand : Nat}

theorem fields_assemble (negative : Bool) (hexponent : exponent ≤ 254) (hlower : 8388608 ≤ significand)
    (hupper : significand < 16777216) :
    (assemble negative exponent significand).negative = negative ∧
    (assemble negative exponent significand).exponentField = exponent ∧
    (assemble negative exponent significand).fraction = significand - 8388608 := by
  have hbits : (assemble negative exponent significand).bits.toNat =
      (if negative then 2147483648 else 0) + exponent * 8388608 + (significand - 8388608) := by
    rw [assemble, UInt32.toNat_ofNat', Nat.mod_eq_of_lt] <;> split <;> omega
  simp only [Single.negative, exponentField, fraction, hbits]
  cases negative with
  | false =>
    simp only [Bool.false_eq_true, if_false]
    exact ⟨decide_eq_false (by omega), by omega, by omega⟩
  | true =>
    simp only [if_true]
    exact ⟨decide_eq_true (by omega), by omega, by omega⟩

theorem assemble_carry (negative : Bool) (exponent : Nat) :
    assemble negative exponent 16777216 = assemble negative (exponent + 1) 8388608 := by
  have hsum (sign : Nat) : sign + exponent * 8388608 + 16777216 - 8388608 =
      sign + (exponent + 1) * 8388608 + 8388608 - 8388608 := by omega
  rw [assemble, assemble, hsum]

theorem scaled_assemble_of_lt (hpositive : 1 ≤ exponent) (hexponent : exponent ≤ 254) (hlower : 8388608 ≤ significand)
    (hupper : significand < 16777216) : (assemble negative exponent significand).scaled =
      if negative then -((significand * 2 ^ (exponent - 1) : Nat) : Int)
      else ((significand * 2 ^ (exponent - 1) : Nat) : Int) := by
  obtain ⟨hsign, hfield, hfraction⟩ := fields_assemble negative hexponent hlower hupper
  rw [scaled, magnitude_eq, Single.significand, shift, hsign, hfield, hfraction, if_neg (Nat.ne_of_gt hpositive),
    Nat.sub_add_cancel hlower]

/-- The significand may round up to `2 ^ 24`. -/
theorem scaled_assemble (hpositive : 1 ≤ exponent) (hexponent : exponent ≤ 253) (hlower : 8388608 ≤ significand)
    (hupper : significand ≤ 16777216) : (assemble negative exponent significand).scaled =
      if negative then -((significand * 2 ^ (exponent - 1) : Nat) : Int)
      else ((significand * 2 ^ (exponent - 1) : Nat) : Int) := by
  rcases Nat.lt_or_eq_of_le hupper with hlt | rfl
  · exact scaled_assemble_of_lt hpositive (Nat.le_succ_of_le hexponent) hlower hlt
  · have hdouble : 8388608 * 2 ^ (exponent + 1 - 1) = 16777216 * 2 ^ (exponent - 1) := by
      obtain ⟨e, rfl⟩ := Nat.exists_eq_add_of_le' hpositive
      rw [Nat.add_sub_cancel, Nat.add_sub_cancel, Nat.pow_succ]
      ring
    rw [assemble_carry, scaled_assemble_of_lt (Nat.le_add_left 1 exponent) (Nat.succ_le_succ hexponent) (Nat.le_refl _)
      (by decide), hdouble]

theorem finite_assemble (hexponent : exponent ≤ 253) (hlower : 8388608 ≤ significand)
    (hupper : significand ≤ 16777216) : (assemble negative exponent significand).Finite := by
  rcases Nat.lt_or_eq_of_le hupper with hlt | rfl
  · rw [Finite, (fields_assemble negative (Nat.le_succ_of_le hexponent) hlower hlt).2.1]
    omega
  · rw [assemble_carry, Finite, (fields_assemble negative (Nat.succ_le_succ hexponent) (Nat.le_refl _) (by decide)).2.1]
    omega

end Assemble

end ControlLoop.Single
