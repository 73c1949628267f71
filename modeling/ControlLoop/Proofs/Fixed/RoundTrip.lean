import ControlLoop.Proofs.Fixed
import ControlLoop.Proofs.Fixed.Significant
import ControlLoop.Proofs.Single
import Mathlib.Tactic.Linarith

/-!
# Round trips through single precision

Near zero every fixed point number is a single precision number, and far from zero the single precision numbers in range
are whole raw values. So of the two roundings of a round trip at most one loses anything. Only above the greatest fixed
point number both do: it goes up to the end of the range and is taken back by the saturation.
-/

namespace ControlLoop.Fixed

set_option autoImplicit false

variable {n : Int} {x y : Single}

/-- The significand that a magnitude between `2 ^ k` and `2 ^ (k + 1)` gets. -/
def significandOf (m : Nat) : Int := Rounding.toEven (m * 8388608) (2 ^ m.log2)

theorem significandOf_bounds {m : Nat} (hm : m ≠ 0) : 8388608 ≤ significandOf m ∧ significandOf m ≤ 16777216 := by
  have hlower : 2 ^ m.log2 ≤ m := Nat.log2_self_le hm
  have hupper : m < 2 ^ (m.log2 + 1) := Nat.lt_log2_self
  rw [Nat.pow_succ] at hupper
  apply Rounding.toEven_between (Nat.two_pow_pos _) <;> omega

theorem toSingle_of_ne_zero {x : Fixed} (h : x.raw.natAbs ≠ 0) : x.toSingle =
    Single.assemble (x.raw < 0) (x.raw.natAbs.log2 + 111) (significandOf x.raw.natAbs).toNat := by
  rw [toSingle, if_neg h]
  rfl

theorem natAbs_raw_le (x : Fixed) : x.raw.natAbs ≤ 2147483648 := by
  have hlower := x.lower
  have hupper := x.upper
  omega

theorem log2_natAbs_le (x : Fixed) : x.raw.natAbs.log2 ≤ 31 :=
  log2_le_of_lt (Nat.lt_of_le_of_lt x.natAbs_raw_le (by decide))

theorem finite_toSingle (x : Fixed) : x.toSingle.Finite := by
  by_cases hzero : x.raw.natAbs = 0
  · rw [toSingle, if_pos hzero]
    decide
  · obtain ⟨hlower, hupper⟩ := significandOf_bounds hzero
    have hlog := x.log2_natAbs_le
    rw [toSingle_of_ne_zero hzero]
    exact Single.finite_assemble (by omega) (by omega) (by omega)

/-- In units of the smallest single precision number a raw unit is `2 ^ 133`. -/
theorem scaled_toSingle (x : Fixed) : x.toSingle.scaled = significant x.raw * 2 ^ 133 := by
  by_cases hzero : x.raw.natAbs = 0
  · rw [toSingle, if_pos hzero, Int.natAbs_eq_zero.mp hzero]
    decide
  · obtain ⟨hlower, hupper⟩ := significandOf_bounds hzero
    have hlog := x.log2_natAbs_le
    have hnonneg : ((significandOf x.raw.natAbs).toNat : Int) = significandOf x.raw.natAbs :=
      Int.toNat_of_nonneg (by omega)
    have hrounded := toEven_significand x.raw.natAbs x.raw.natAbs.log2
    have hmagnitude : ((significandOf x.raw.natAbs).toNat * 2 ^ (x.raw.natAbs.log2 + 111 - 1) : Nat) =
        Rounding.toEven x.raw.natAbs (spacing x.raw) * spacing x.raw * 2 ^ 133 := by
      rw [Int.natCast_mul, hnonneg, Int.natCast_pow]
      exact hrounded
    rw [toSingle_of_ne_zero hzero, Single.scaled_assemble (by omega) (by omega) (by omega) (by omega), hmagnitude,
      significant]
    rcases Int.lt_or_gt_of_ne (Int.natAbs_ne_zero.mp hzero) with hnegative | hpositive
    · rw [if_pos (decide_eq_true hnegative), Int.sign_eq_neg_one_of_neg hnegative]
      ring
    · rw [if_neg (by rw [decide_eq_true_eq]; omega), Int.sign_eq_one_of_pos hpositive]
      ring

theorem natCast_rawUnit : ((2 ^ 133 : Nat) : Int) = 2 ^ 133 := Int.natCast_pow 2 133

theorem ofSingle_of_isNaN_eq_false (number : x.isNaN = false) :
    ofSingle x = .ok (saturate (Rounding.toEven x.scaled (2 ^ 133))) := by
  rw [ofSingle, number]
  rfl

theorem ofSingle_of_scaled (finite : x.Finite) (h : x.scaled = n * 2 ^ 133) : ofSingle x = .ok (saturate n) := by
  rw [ofSingle_of_isNaN_eq_false finite.isNaN, h, ← natCast_rawUnit, Rounding.toEven_mul_self n (Nat.two_pow_pos 133)]

theorem ofSingle_toSingle (x : Fixed) : ofSingle x.toSingle = .ok (saturate (significant x.raw)) :=
  ofSingle_of_scaled x.finite_toSingle x.scaled_toSingle

/-- A number of 24 significant bits in whole raw units comes back as the same pattern. -/
theorem toSingle_saturate (h : x.scaled = n * 2 ^ 133) (hn : n.natAbs ≤ 2147483648) (hexact : significant n = n)
    (nonzero : n ≠ 0) : (saturate n).toSingle = x := by
  have hsame : (saturate n).toSingle.scaled = x.scaled := by
    rw [scaled_toSingle, significant_saturate hn hexact, h]
  apply Single.eq_of_scaled_eq hsame
  rw [hsame, h]
  exact Int.mul_ne_zero nonzero (by decide)

theorem saturate_significant_of_le {v : Fixed} (h : v.raw.natAbs ≤ 16777216) : saturate (significant v.raw) = v := by
  rw [significant_of_le h]
  exact Fixed.ext (raw_saturate v.lower v.upper)

theorem toSingle_saturate_significant (v : Fixed) : (saturate (significant v.raw)).toSingle = v.toSingle := by
  by_cases hsmall : v.raw.natAbs ≤ 16777216
  · rw [saturate_significant_of_le hsmall]
  · have hnear := significant_within v.natAbs_raw_le
    exact toSingle_saturate v.scaled_toSingle (natAbs_significant_le v.natAbs_raw_le) (significant_idem v.raw)
      (by omega)

theorem saturate_significant_within (v : Fixed) :
    -64 ≤ (saturate (significant v.raw)).raw - v.raw ∧ (saturate (significant v.raw)).raw - v.raw ≤ 64 := by
  have hnear := significant_within v.natAbs_raw_le
  have hlower := v.lower
  have hupper := v.upper
  simp only [saturate]
  omega

/-- From 128 on the single precision numbers are whole raw values. -/
theorem whole_of_large (h : 2 ^ 156 ≤ x.magnitude) : ∃ n, x.scaled = n * 2 ^ 133 ∧ significant n = n := by
  have hshift : 133 ≤ x.shift := by
    have hpow : 2 ^ 156 < 2 ^ (24 + x.shift) := Nat.lt_of_le_of_lt h x.magnitude_lt
    have hexponent := (Nat.pow_lt_pow_iff_right Nat.one_lt_two).mp hpow
    omega
  have hmagnitude : x.magnitude = x.significand * 2 ^ (x.shift - 133) * 2 ^ 133 := by
    rw [x.magnitude_eq, Nat.mul_assoc, ← Nat.pow_add, Nat.sub_add_cancel hshift]
  have hsignificand : x.significand ≤ 16777216 := Nat.le_of_lt x.significand_lt
  cases hsign : x.negative with
  | false =>
    refine ⟨(x.significand * 2 ^ (x.shift - 133) : Nat), ?_, ?_⟩
    · rw [Single.scaled, hsign, if_neg Bool.false_ne_true, hmagnitude, Int.natCast_mul, natCast_rawUnit]
    · exact significant_of_representable hsignificand (Int.natAbs_natCast _)
  | true =>
    refine ⟨-(x.significand * 2 ^ (x.shift - 133) : Nat), ?_, ?_⟩
    · rw [Single.scaled, hsign, if_pos rfl, hmagnitude, Int.natCast_mul, Int.neg_mul, natCast_rawUnit]
    · exact significant_of_representable hsignificand (Int.natAbs_neg _)

theorem toSingle_ofSingle_of_large (finite : x.Finite) (hlower : 2 ^ 156 ≤ x.magnitude)
    (hupper : x.magnitude ≤ 2 ^ 164) : ∃ v, ofSingle x = .ok v ∧ v.toSingle = x := by
  obtain ⟨n, hscaled, hexact⟩ := whole_of_large hlower
  have hmagnitude : x.magnitude = n.natAbs * 2 ^ 133 := by
    rw [← x.natAbs_scaled, hscaled, Int.natAbs_mul, ← natCast_rawUnit, Int.natAbs_natCast]
  refine ⟨saturate n, ofSingle_of_scaled finite hscaled, toSingle_saturate hscaled ?_ hexact ?_⟩
  · omega
  · omega

theorem toSingle_ofSingle_of_small (finite : x.Finite) (h : x.magnitude ≤ 2 ^ 156) :
    ∃ v, ofSingle x = .ok v ∧ 2 * v.toSingle.scaled ≤ 2 * x.scaled + 2 ^ 133 ∧
      2 * x.scaled ≤ 2 * v.toSingle.scaled + 2 ^ 133 := by
  have hpos : 0 < 2 ^ 133 := Nat.two_pow_pos 133
  have hscaled : x.scaled.natAbs ≤ 2 ^ 156 := x.natAbs_scaled ▸ h
  obtain ⟨hbelow, habove⟩ := Rounding.toEven_near x.scaled hpos
  rw [natCast_rawUnit] at hbelow habove
  have hsmall : (Rounding.toEven x.scaled (2 ^ 133)).natAbs ≤ 16777216 := by omega
  refine ⟨_, ofSingle_of_isNaN_eq_false finite.isNaN, ?_⟩
  rw [scaled_toSingle, raw_saturate (by omega) (by omega), significant_of_le hsmall]
  exact ⟨hbelow, habove⟩

theorem saturate_mono {n n' : Int} (h : n ≤ n') : saturate n ≤ saturate n' := by
  rw [le_def]
  simp only [saturate]
  omega

theorem ofSingle_mono (hx : x.isNaN = false) (hy : y.isNaN = false) (h : x.toRat ≤ y.toRat) :
    ∃ a b, ofSingle x = .ok a ∧ ofSingle y = .ok b ∧ a ≤ b := by
  have hrounded := Rounding.toEven_mono (Nat.two_pow_pos 133) (Single.toRat_le_iff.mp h)
  exact ⟨_, _, ofSingle_of_isNaN_eq_false hx, ofSingle_of_isNaN_eq_false hy, saturate_mono hrounded⟩

theorem toSingle_ofSingle_near (finite : x.Finite) (h : |x.toRat| ≤ 32768) : ∃ v, ofSingle x = .ok v ∧
    |v.toSingle.toRat - x.toRat| ≤ 1 / 131072 ∧ (128 ≤ |x.toRat| → v.toSingle = x) := by
  have hrange : x.magnitude ≤ 2 ^ 164 := by
    rw [x.abs_toRat, div_le_iff₀ (by norm_num)] at h
    exact_mod_cast h.trans_eq (by norm_num : (32768 : ℚ) * 2 ^ 149 = 2 ^ 164)
  rcases Nat.lt_or_ge x.magnitude (2 ^ 156) with hsmall | hlarge
  · obtain ⟨v, hv, hbelow, habove⟩ := toSingle_ofSingle_of_small finite (Nat.le_of_lt hsmall)
    refine ⟨v, hv, ?_, ?_⟩
    · have hbelow' : 2 * (v.toSingle.scaled : ℚ) ≤ 2 * x.scaled + 2 ^ 133 := by exact_mod_cast hbelow
      have habove' : 2 * (x.scaled : ℚ) ≤ 2 * v.toSingle.scaled + 2 ^ 133 := by exact_mod_cast habove
      rw [Single.toRat, Single.toRat, ← sub_div, abs_div, abs_of_pos (by norm_num : (0 : ℚ) < 2 ^ 149),
        div_le_iff₀ (by norm_num), abs_le]
      constructor <;> linarith
    · intro hlarge
      rw [x.abs_toRat, le_div_iff₀ (by norm_num)] at hlarge
      have hle : 2 ^ 156 ≤ x.magnitude := by
        exact_mod_cast (by norm_num : (2 : ℚ) ^ 156 = 128 * 2 ^ 149).trans_le hlarge
      exact absurd hle (Nat.not_le_of_lt hsmall)
  · obtain ⟨v, hv, hsame⟩ := toSingle_ofSingle_of_large finite hlarge hrange
    refine ⟨v, hv, ?_, fun _ => hsame⟩
    rw [hsame, sub_self, abs_zero]
    norm_num

/-- Out to single precision and back, and in from single precision and back: what a round trip keeps, and that the way
in keeps the order. -/
theorem single_round_trips :
    (∀ v : Fixed, ∃ back, ofSingle v.toSingle = .ok back ∧ back.toSingle = v.toSingle ∧ |back.raw - v.raw| ≤ 64 ∧
      (|v.raw| ≤ 16777216 → back = v) ∧ (v.raw = 2147483647 → back = v)) ∧
    (∀ x : Single, x.Finite → |x.toRat| ≤ 32768 → ∃ v, ofSingle x = .ok v ∧
      |v.toSingle.toRat - x.toRat| ≤ 1 / 131072 ∧ (128 ≤ |x.toRat| → v.toSingle = x)) ∧
    (∀ x y : Single, x.isNaN = false → y.isNaN = false → x.toRat ≤ y.toRat →
      ∃ a b, ofSingle x = .ok a ∧ ofSingle y = .ok b ∧ a ≤ b) := by
  refine ⟨?_, fun x => toSingle_ofSingle_near, fun x y => ofSingle_mono⟩
  intro v
  refine ⟨_, ofSingle_toSingle v, toSingle_saturate_significant v, abs_le.mpr (saturate_significant_within v), ?_, ?_⟩
  · intro hsmall
    rw [Int.abs_eq_natAbs] at hsmall
    exact saturate_significant_of_le (Int.ofNat_le.mp hsmall)
  · intro hend
    rw [hend]
    exact Fixed.ext hend.symm

/-- The two ends of the range, and minus infinity beside the negative number closest to zero. -/
theorem single_round_trips_at_the_ends :
    ((wrap 2147483647).raw = 2147483647 ∧ ofSingle (wrap 2147483647).toSingle = .ok (wrap 2147483647)) ∧
    ((⟨0x47000000⟩ : Single).Finite ∧ 128 ≤ |(⟨0x47000000⟩ : Single).toRat| ∧ |(⟨0x47000000⟩ : Single).toRat| ≤ 32768 ∧
      ∃ v, ofSingle ⟨0x47000000⟩ = .ok v ∧ v.toSingle = ⟨0x47000000⟩) ∧
    ((⟨0xff800000⟩ : Single).isNaN = false ∧ (⟨0x80000001⟩ : Single).isNaN = false ∧
      (⟨0xff800000⟩ : Single).toRat ≤ (⟨0x80000001⟩ : Single).toRat ∧
      ∃ a b, ofSingle ⟨0xff800000⟩ = .ok a ∧ ofSingle ⟨0x80000001⟩ = .ok b ∧ a ≤ b) := by
  obtain ⟨hout, hin, hmono⟩ := single_round_trips
  have hend : (wrap 2147483647).raw = 2147483647 := by decide
  have hfinite : (⟨0x47000000⟩ : Single).Finite := by decide
  have hvalue : |(⟨0x47000000⟩ : Single).toRat| = 32768 := by
    have hmagnitude : (⟨0x47000000⟩ : Single).magnitude = 2 ^ 164 := by decide
    rw [Single.abs_toRat, hmagnitude]
    norm_num
  have hle : (⟨0xff800000⟩ : Single).toRat ≤ (⟨0x80000001⟩ : Single).toRat := Single.toRat_le_iff.mpr (by decide)
  obtain ⟨back, hback, _, _, _, htop⟩ := hout (wrap 2147483647)
  obtain ⟨v, hv, _, hsame⟩ := hin ⟨0x47000000⟩ hfinite hvalue.le
  have hlarge : 128 ≤ |(⟨0x47000000⟩ : Single).toRat| := by
    rw [hvalue]
    norm_num
  refine ⟨⟨hend, ?_⟩, ⟨hfinite, hlarge, hvalue.le, v, hv, hsame hlarge⟩, by decide, by decide, hle, ?_⟩
  · rw [hback, htop hend]
  · exact hmono _ _ (by decide) (by decide) hle

end ControlLoop.Fixed
