import ControlLoop.Fixed.Arithmetic
import ControlLoop.Proofs.Rounding

/-!
# Twenty-four significant bits

A raw value is rounded to the 24 bits of a single precision significand: by a power of two that leaves just these bits,
and not at all where the raw value has no more than 24. What has 24 significant bits is left alone, and nothing in the
range of the format moves by more than 64 raw units.
-/

namespace ControlLoop.Fixed

set_option autoImplicit false

variable {n : Int}

/-- The distance, in raw units, between the single precision numbers beside a raw value; one where they are denser. -/
def spacing (n : Int) : Nat := 2 ^ (n.natAbs.log2 - 23)

/-- The raw value rounded to 24 significant bits. -/
def significant (n : Int) : Int := n.sign * (Rounding.toEven n.natAbs (spacing n) * spacing n)

theorem log2_le_of_lt {m k : Nat} (h : m < 2 ^ (k + 1)) : m.log2 ≤ k := by
  by_cases hzero : m = 0
  · rw [hzero, Nat.log2_zero]
    exact Nat.zero_le k
  · exact Nat.le_of_lt_succ ((Nat.log2_lt hzero).mpr h)

theorem spacing_pos (n : Int) : 0 < spacing n := Nat.two_pow_pos _

theorem spacing_dvd {s j : Nat} (hs : s ≤ 16777216) (h : n.natAbs = s * 2 ^ j) : spacing n ∣ n.natAbs := by
  rcases Nat.lt_or_eq_of_le hs with hlt | rfl
  · have hbelow : n.natAbs < 2 ^ (23 + j + 1) := by
      rw [h, Nat.add_right_comm, Nat.pow_add]
      exact Nat.mul_lt_mul_of_pos_right hlt (Nat.two_pow_pos j)
    have hlog := log2_le_of_lt hbelow
    have hdvd : spacing n ∣ 2 ^ j := Nat.pow_dvd_pow 2 (by omega)
    rw [h]
    exact Nat.dvd_mul_left_of_dvd hdvd s
  · -- A significand of `2 ^ 24` is a power of two, which needs one bit only.
    have hpower : n.natAbs = 2 ^ (24 + j) := by rw [h, Nat.pow_add]
    have hlog : n.natAbs.log2 ≤ 24 + j := log2_le_of_lt (hpower ▸ Nat.pow_lt_pow_right Nat.one_lt_two (by omega))
    rw [hpower]
    exact Nat.pow_dvd_pow 2 (by omega)

theorem significant_of_dvd (h : spacing n ∣ n.natAbs) : significant n = n := by
  obtain ⟨q, hq⟩ := h
  have hexact : Rounding.toEven n.natAbs (spacing n) * spacing n = n.natAbs := by
    rw [hq, Nat.mul_comm, Int.natCast_mul, Rounding.toEven_mul_self _ (spacing_pos n)]
  rw [significant, hexact, Int.sign_mul_natAbs]

theorem significant_of_representable {s j : Nat} (hs : s ≤ 16777216) (h : n.natAbs = s * 2 ^ j) : significant n = n :=
  significant_of_dvd (spacing_dvd hs h)

theorem significant_of_le (h : n.natAbs ≤ 16777216) : significant n = n := by
  apply significant_of_representable (j := 0) h
  rw [Nat.pow_zero, Nat.mul_one]

/-- The 24 bits of a rounded number, in units of the spacing. -/
theorem toEven_spacing_bounds (n : Int) :
    0 ≤ Rounding.toEven n.natAbs (spacing n) ∧ Rounding.toEven n.natAbs (spacing n) ≤ 16777216 := by
  have hlog : n.natAbs < 2 ^ (n.natAbs.log2 + 1) := Nat.lt_log2_self
  have hpow : 2 ^ (n.natAbs.log2 + 1) ≤ 2 ^ (24 + (n.natAbs.log2 - 23)) := Nat.pow_le_pow_right Nat.two_pos (by omega)
  rw [Nat.pow_add 2 24] at hpow
  have hupper : n.natAbs ≤ 16777216 * spacing n := Nat.le_of_lt (Nat.lt_of_lt_of_le hlog hpow)
  apply Rounding.toEven_between (spacing_pos n)
  · rw [Int.zero_mul]
    exact Int.natCast_nonneg _
  · exact Int.ofNat_le.mpr hupper

theorem natAbs_significant (n : Int) :
    ((significant n).natAbs : Int) = Rounding.toEven n.natAbs (spacing n) * spacing n := by
  have hnonneg := Int.mul_nonneg (toEven_spacing_bounds n).1 (Int.natCast_nonneg (spacing n))
  by_cases hzero : n = 0
  · rw [hzero]
    rfl
  · rw [significant, Int.natAbs_mul, Int.natAbs_sign_of_ne_zero hzero, Nat.one_mul]
    omega

theorem significant_idem (n : Int) : significant (significant n) = significant n := by
  have hmagnitude := natAbs_significant n
  obtain ⟨hlower, hupper⟩ := toEven_spacing_bounds n
  obtain ⟨s, hs⟩ := Int.eq_ofNat_of_zero_le hlower
  rw [hs, ← Int.natCast_mul, Int.natCast_inj] at hmagnitude
  exact significant_of_representable (by omega) hmagnitude

theorem significant_near (n : Int) :
    2 * significant n ≤ 2 * n + spacing n ∧ 2 * n ≤ 2 * significant n + spacing n := by
  obtain ⟨hbelow, habove⟩ := Rounding.toEven_near n.natAbs (spacing_pos n)
  rcases Int.lt_trichotomy n 0 with hnegative | rfl | hpositive
  · rw [significant, Int.sign_eq_neg_one_of_neg hnegative, Int.neg_mul, Int.one_mul]
    omega
  · decide
  · rw [significant, Int.sign_eq_one_of_pos hpositive, Int.one_mul]
    omega

theorem spacing_le (h : n.natAbs < 2147483648) : spacing n ≤ 128 := by
  have hlog : n.natAbs.log2 ≤ 30 := log2_le_of_lt h
  have hpow : spacing n ≤ 2 ^ 7 := Nat.pow_le_pow_right Nat.two_pos (by omega)
  exact hpow

theorem significant_of_end (h : n.natAbs = 2147483648) : significant n = n :=
  significant_of_representable (s := 1) (j := 31) (by decide) h

theorem natAbs_significant_le (h : n.natAbs ≤ 2147483648) : (significant n).natAbs ≤ 2147483648 := by
  rcases Nat.lt_or_eq_of_le h with hlt | heq
  · have hmagnitude := natAbs_significant n
    obtain ⟨hlower, hupper⟩ := toEven_spacing_bounds n
    have hspacing : (spacing n : Int) ≤ 128 := Int.ofNat_le.mpr (spacing_le hlt)
    have hproduct := Int.mul_le_mul hupper hspacing (Int.natCast_nonneg _) (by decide)
    omega
  · rw [significant_of_end heq, heq]

theorem significant_within (h : n.natAbs ≤ 2147483648) : -64 ≤ significant n - n ∧ significant n - n ≤ 64 := by
  rcases Nat.lt_or_eq_of_le h with hlt | heq
  · have hnear := significant_near n
    have hspacing : (spacing n : Int) ≤ 128 := Int.ofNat_le.mpr (spacing_le hlt)
    omega
  · rw [significant_of_end heq]
    omega

/-- The greatest fixed point number goes up to where the saturation would take it back from. -/
theorem significant_saturate (h : n.natAbs ≤ 2147483648) (hexact : significant n = n) :
    significant (saturate n).raw = n := by
  by_cases hend : n = 2147483648
  · rw [hend]
    decide
  · rw [raw_saturate (by omega) (by omega), hexact]

/-- It makes no difference whether the significand is rounded or the raw value. -/
theorem toEven_significand (m : Int) (k : Nat) : Rounding.toEven (m * 8388608) (2 ^ k) * 2 ^ (k + 110) =
    Rounding.toEven m (2 ^ (k - 23)) * ((2 ^ (k - 23) : Nat) : Int) * 2 ^ 133 := by
  rcases Nat.le_total k 23 with hle | hge
  · obtain ⟨d, hd⟩ := Nat.exists_eq_add_of_le hle
    have hunit : (8388608 : Int) = 2 ^ d * ((2 ^ k : Nat) : Int) := by
      rw [Int.natCast_pow, Nat.cast_ofNat, ← Int.pow_add, Nat.add_comm d, ← hd]
      rfl
    have hpow : (2 : Int) ^ d * 2 ^ (k + 110) = 2 ^ 133 := by
      rw [← Int.pow_add]
      congr 1
      omega
    rw [hunit, ← Int.mul_assoc, Rounding.toEven_mul_self _ (Nat.two_pow_pos k), Int.mul_assoc, hpow,
      Nat.sub_eq_zero_of_le hle, Nat.pow_zero, Rounding.toEven_one, Int.natCast_one, Int.mul_one]
  · obtain ⟨d, rfl⟩ := Nat.exists_eq_add_of_le hge
    have hunit : 2 ^ (23 + d) = 2 ^ d * 8388608 := by rw [Nat.pow_add, Nat.mul_comm]
    have hsame : Rounding.toEven (m * 8388608) (2 ^ (23 + d)) = Rounding.toEven m (2 ^ d) := by
      rw [hunit]
      exact Rounding.toEven_mul_mul m (2 ^ d) (by decide)
    have hpow : (2 : Int) ^ (23 + d + 110) = 2 ^ d * 2 ^ 133 := by
      rw [← Int.pow_add]
      congr 1
      omega
    rw [hsame, hpow, Nat.add_sub_cancel_left, Int.natCast_pow, Nat.cast_ofNat, Int.mul_assoc]

end ControlLoop.Fixed
