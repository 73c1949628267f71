import ControlLoop.Proofs.Fixed
import Mathlib.Data.Int.ModEq
import Mathlib.Data.Rat.Floor
import Mathlib.Tactic.Linarith
import Mathlib.Tactic.NormNum
import Mathlib.Tactic.Ring

/-!
# Values and whole numbers

A number is a fraction with denominator `65536`, and its raw value settles its order among such fractions and its floor.
The nearest whole number, a half going up, is the floor of the number and a half. In the last half unit of the range the
bias of a half leaves the word, and all these numbers go to the least whole number. A whole number is rounded to itself,
modulo `2 ^ 16`.
-/

namespace ControlLoop.Fixed

set_option autoImplicit false

variable {v w : Fixed} {n : Int}

theorem toRat_lt_iff : v.toRat < n / 65536 ↔ v.raw < n := by
  rw [toRat, div_lt_div_iff_of_pos_right (by norm_num), Int.cast_lt]

theorem le_toRat_iff : n / 65536 ≤ v.toRat ↔ n ≤ v.raw := by
  rw [toRat, div_le_div_iff_of_pos_right (by norm_num), Int.cast_le]

theorem floor_div_unit (n : Int) : ⌊(n : ℚ) / 65536⌋ = n / 65536 := Rat.floor_intCast_div_natCast n 65536

theorem ceil_div_unit (n : Int) : ⌈(n : ℚ) / 65536⌉ = -(-n / 65536) := Rat.ceil_intCast_div_natCast n 65536

/-- The numbers from 32767.5 on. The whole number nearest to them is out of range. -/
def InLastHalf (v : Fixed) : Prop := 65535 / 2 ≤ v.toRat

theorem inLastHalf_iff : v.InLastHalf ↔ 2147450880 ≤ v.raw := by
  have hhalf : (65535 / 2 : ℚ) = (2147450880 : Int) / 65536 := by norm_num
  rw [InLastHalf, hhalf, le_toRat_iff]

theorem roundHalfUp_of_inLastHalf (h : v.InLastHalf) : v.roundHalfUp = -32768 := by
  have hupper := v.upper
  have hhalf : half.raw = 32768 := rfl
  rw [inLastHalf_iff] at h
  simp only [roundHalfUp, add_def, wrap, hhalf]
  omega

theorem roundHalfUp_eq_ediv (h : ¬ v.InLastHalf) : v.roundHalfUp = (v.raw + 32768) / 65536 := by
  have hlower := v.lower
  have hhalf : half.raw = 32768 := rfl
  rw [inLastHalf_iff] at h
  have hbiased : (v + half).raw = v.raw + 32768 := by
    rw [add_def, hhalf]
    apply raw_wrap <;> omega
  rw [roundHalfUp, hbiased]

theorem roundHalfUp_eq_floor (h : ¬ v.InLastHalf) : v.roundHalfUp = ⌊v.toRat + 1 / 2⌋ := by
  have hbiased : v.toRat + 1 / 2 = ((v.raw + 32768 : Int) : ℚ) / 65536 := by
    unfold toRat
    push_cast
    ring
  rw [hbiased, floor_div_unit, roundHalfUp_eq_ediv h]

theorem near_of_eq_floor (h : v.roundHalfUp = ⌊v.toRat + 1 / 2⌋) : |(v.roundHalfUp : ℚ) - v.toRat| ≤ 1 / 2 := by
  have hbelow := Int.floor_le (v.toRat + 1 / 2)
  have habove := Int.lt_floor_add_one (v.toRat + 1 / 2)
  rw [h, abs_le]
  constructor <;> linarith

theorem not_inLastHalf_of_near (h : |(v.roundHalfUp : ℚ) - v.toRat| ≤ 1 / 2) : ¬ v.InLastHalf := by
  intro hlast
  have habove : 65535 / 2 ≤ v.toRat := hlast
  rw [roundHalfUp_of_inLastHalf hlast, abs_le] at h
  push_cast at h
  linarith

theorem roundHalfUp_mono (hle : v ≤ w) (h : ¬ w.InLastHalf) : v.roundHalfUp ≤ w.roundHalfUp := by
  rw [le_def] at hle
  have hleft : ¬ v.InLastHalf := by
    rw [inLastHalf_iff] at h ⊢
    omega
  rw [roundHalfUp_eq_ediv hleft, roundHalfUp_eq_ediv h]
  apply Int.ediv_le_ediv <;> omega

theorem raw_ofInt (i : Int) : (ofInt i).raw = i.bmod 65536 * 65536 := by
  simp only [ofInt, wrap, Int.bmod]
  split <;> omega

theorem not_inLastHalf_ofInt (i : Int) : ¬ (ofInt i).InLastHalf := by
  have hless : i.bmod 65536 < 32768 := Int.bmod_lt (by decide)
  rw [inLastHalf_iff, raw_ofInt]
  omega

theorem roundHalfUp_ofInt (i : Int) : (ofInt i).roundHalfUp = i.bmod 65536 := by
  rw [roundHalfUp_eq_ediv (not_inLastHalf_ofInt i), raw_ofInt]
  omega

/-- The range is rounded half up, and by no more than a half, just below its last half unit, and in order there. All of
the last half unit goes to the least whole number. Every whole number is rounded to the one in range that is the same
modulo `2 ^ 16`, and so to itself where it is in range. -/
theorem rounds_half_up_below_last_half (v w : Fixed) (i : Int) :
    (v.roundHalfUp = ⌊v.toRat + 1 / 2⌋ ↔ ¬ v.InLastHalf) ∧
    (|(v.roundHalfUp : ℚ) - v.toRat| ≤ 1 / 2 ↔ ¬ v.InLastHalf) ∧
    (v ≤ w → ¬ w.InLastHalf → v.roundHalfUp ≤ w.roundHalfUp) ∧
    (v.InLastHalf → v.roundHalfUp = -32768) ∧
    -32768 ≤ (ofInt i).roundHalfUp ∧ (ofInt i).roundHalfUp ≤ 32767 ∧ (ofInt i).roundHalfUp ≡ i [ZMOD 65536] ∧
      (-32768 ≤ i → i ≤ 32767 → (ofInt i).roundHalfUp = i) := by
  have hlower : -32768 ≤ i.bmod 65536 := Int.le_bmod (by decide)
  have hupper : i.bmod 65536 < 32768 := Int.bmod_lt (by decide)
  refine ⟨?_, ?_, roundHalfUp_mono, roundHalfUp_of_inLastHalf, ?_⟩
  · exact ⟨fun h => not_inLastHalf_of_near (near_of_eq_floor h), roundHalfUp_eq_floor⟩
  · exact ⟨not_inLastHalf_of_near, fun h => near_of_eq_floor (roundHalfUp_eq_floor h)⟩
  · rw [roundHalfUp_ofInt]
    refine ⟨hlower, Int.le_of_lt_add_one hupper, Int.bmod_emod, ?_⟩
    intro hleast hgreatest
    apply Int.bmod_eq_of_le <;> omega

/-- A tie below zero, the last number below the last half unit, and the least whole number. -/
theorem rounds_half_up_below_last_half_at_the_ends :
    (wrap (-163840) ≤ wrap 2147450879 ∧ ¬ (wrap 2147450879).InLastHalf ∧
      (wrap (-163840)).roundHalfUp = ⌊(wrap (-163840)).toRat + 1 / 2⌋ ∧
      (wrap (-163840)).roundHalfUp ≤ (wrap 2147450879).roundHalfUp) ∧
    (ofInt (-32768)).roundHalfUp = -32768 ∧
    (wrap 2147450880).InLastHalf ∧ (wrap 2147450880).roundHalfUp = -32768 := by
  obtain ⟨hfloor, _, hmono, _, _, _, _, hself⟩ :=
    rounds_half_up_below_last_half (wrap (-163840)) (wrap 2147450879) (-32768)
  obtain ⟨_, _, _, hlast, _⟩ := rounds_half_up_below_last_half (wrap 2147450880) zero 0
  have hle : wrap (-163840) ≤ wrap 2147450879 := by decide
  have hbelow : ¬ (wrap 2147450879).InLastHalf := by
    rw [inLastHalf_iff]
    decide
  have hbelow' : ¬ (wrap (-163840)).InLastHalf := by
    rw [inLastHalf_iff]
    decide
  have hinside : (wrap 2147450880).InLastHalf := by
    rw [inLastHalf_iff]
    decide
  exact ⟨⟨hle, hbelow, hfloor.mpr hbelow', hmono hle hbelow⟩, hself (by decide) (by decide), hinside, hlast hinside⟩

/-- The number 32767.5 lies a half below 32768, and it goes to the other end of the whole numbers. -/
theorem not_rounded_half_up_throughout :
    (¬ ∀ v : Fixed, v.roundHalfUp = ⌊v.toRat + 1 / 2⌋) ∧
    (¬ ∀ v : Fixed, |(v.roundHalfUp : ℚ) - v.toRat| ≤ 1 / 2) ∧
    ¬ ∀ v w : Fixed, v ≤ w → v.roundHalfUp ≤ w.roundHalfUp := by
  have hrounded : (wrap 2147450880).roundHalfUp = -32768 := by decide
  have hvalue : (wrap 2147450880).toRat = 65535 / 2 := by
    have hraw : (wrap 2147450880).raw = 2147450880 := by decide
    rw [toRat, hraw]
    norm_num
  refine ⟨?_, ?_, ?_⟩
  · intro h
    have hfloor := h (wrap 2147450880)
    rw [hrounded, hvalue] at hfloor
    norm_num at hfloor
  · intro h
    have hnear := h (wrap 2147450880)
    rw [hrounded, hvalue, abs_le] at hnear
    norm_num at hnear
  · intro h
    have hle := h zero (wrap 2147450880) (by decide)
    rw [hrounded] at hle
    exact absurd hle (by decide)

end ControlLoop.Fixed
