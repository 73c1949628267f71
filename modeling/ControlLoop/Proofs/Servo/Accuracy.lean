import ControlLoop.Proofs.Servo.Duty
import Mathlib.Algebra.Order.Field.Basic
import Mathlib.Tactic.Linarith
import Mathlib.Tactic.NormNum
import Mathlib.Tactic.Ring

/-!
# The accuracy of a duty

A duty is rounded three times: the travel down, before it is stretched to microseconds, then the share of the frame
down, and the duty to the nearest. The last rounding costs at most a half, and the other two together less than a tenth.
Every rounding keeps the order, so the duty grows with the angle and with the greatest duty.
-/

namespace ControlLoop

set_option autoImplicit false

theorem Rounding.halfUp_bounds (num : Int) {den : Nat} (positive : 0 < den) :
    2 * den * halfUp num den ≤ 2 * num + den ∧ 2 * num + den < 2 * den * halfUp num den + 2 * den := by
  have hden : (0 : Int) < 2 * den := by omega
  exact ⟨Int.mul_ediv_self_le (Int.ne_of_gt hden), Int.lt_mul_ediv_self_add hden⟩

namespace Servo

variable {angle other : Fixed} {maxDuty more duty : UInt16}

/-- The duty of an angle in degrees before any rounding: the share that its pulse has in the frame of 20 ms. -/
def idealDuty (degrees : ℚ) (maxDuty : UInt16) : ℚ := (500 + (degrees + 90) * 1900 / 180) * maxDuty.toNat / 20000

theorem toRat_clampAngle (angle : Fixed) : (clampAngle angle).toRat = max (-90) (min angle.toRat 90) := by
  have hlow : (-90 : ℚ) = (-5898240) / 65536 := by norm_num
  have hhigh : (90 : ℚ) = 5898240 / 65536 := by norm_num
  rw [Fixed.toRat, Fixed.toRat, raw_clampAngle, hlow, hhigh, min_div_div_right (by norm_num),
    max_div_div_right (by norm_num)]
  push_cast
  rfl

/-- The pulse of an angle before any rounding, in 180th parts of a raw microsecond. -/
def idealWidth (angle : Fixed) : Int := 180 * 32768000 + ((clampAngle angle).raw + 5898240) * 1900

theorem width_near (angle : Fixed) :
    180 * width angle ≤ idealWidth angle ∧ idealWidth angle ≤ 180 * width angle + 340100 := by
  unfold width idealWidth
  omega

theorem idealDuty_eq (angle : Fixed) (maxDuty : UInt16) :
    idealDuty (clampAngle angle).toRat maxDuty * 235929600000 = idealWidth angle * maxDuty.toNat := by
  unfold idealDuty Fixed.toRat idealWidth
  push_cast
  ring

theorem level_rounds (angle : Fixed) (maxDuty : UInt16) :
    131072 * level angle maxDuty ≤ 2 * (width angle * maxDuty.toNat / 20000) + 65536 ∧
    2 * (width angle * maxDuty.toNat / 20000) + 65536 < 131072 * level angle maxDuty + 131072 :=
  Rounding.halfUp_bounds (width angle * maxDuty.toNat / 20000) (by decide)

/-- The errors of all three roundings, on the scale that makes the duty before them an integer. -/
theorem level_near (angle : Fixed) (maxDuty : UInt16) :
    level angle maxDuty * 235929600000 ≤ idealWidth angle * maxDuty.toNat + 117964800000 ∧
    idealWidth angle * maxDuty.toNat < level angle maxDuty * 235929600000 + 140614041600 := by
  have hmax : maxDuty.toNat < 65536 := maxDuty.toNat_lt
  obtain ⟨hwidth, hwidth'⟩ := width_near angle
  have hnonneg : (0 : Int) ≤ maxDuty.toNat := Int.natCast_nonneg _
  have hlow := Int.mul_le_mul_of_nonneg_right hwidth hnonneg
  have hhigh := Int.mul_le_mul_of_nonneg_right hwidth' hnonneg
  have hround := level_rounds angle maxDuty
  rw [Int.mul_assoc] at hlow
  rw [Int.add_mul, Int.mul_assoc] at hhigh
  generalize width angle * maxDuty.toNat = scaled at hlow hhigh hround
  omega

theorem level_le (angle : Fixed) (maxDuty : UInt16) : level angle maxDuty ≤ maxDuty.toNat := by
  have hwidth := (width_bounds angle).2
  have hscaled : width angle * maxDuty.toNat ≤ 157286400 * maxDuty.toNat :=
    Int.mul_le_mul_of_nonneg_right hwidth (Int.natCast_nonneg _)
  have hround := level_rounds angle maxDuty
  omega

theorem level_mono_max (angle : Fixed) (h : maxDuty ≤ more) : level angle maxDuty ≤ level angle more := by
  have hmax : (maxDuty.toNat : Int) ≤ more.toNat := Int.ofNat_le.mpr (UInt16.le_iff_toNat_le.mp h)
  have hwidth : 0 ≤ width angle := Int.le_trans (by decide) (width_bounds angle).1
  have hscaled : width angle * maxDuty.toNat ≤ width angle * more.toNat := Int.mul_le_mul_of_nonneg_left hmax hwidth
  simp only [level, Rounding.halfUp]
  omega

theorem dutyOf_eq_of_clampAngle (h : clampAngle angle = clampAngle other) (maxDuty : UInt16) :
    dutyOf angle maxDuty = dutyOf other maxDuty := by
  rw [dutyOf_eq, dutyOf_eq, ← level_clampAngle angle, h, level_clampAngle]

theorem dutyOf_of_above (h : 90 ≤ angle.toRat) (maxDuty : UInt16) : dutyOf angle maxDuty = dutyOf maxAngle maxDuty := by
  have hraw : 5898240 ≤ angle.raw := by
    unfold Fixed.toRat at h
    have hscaled : (5898240 : ℚ) ≤ angle.raw := by linarith
    exact_mod_cast hscaled
  refine dutyOf_eq_of_clampAngle (Fixed.ext ?_) maxDuty
  rw [raw_clampAngle, raw_clampAngle, raw_maxAngle]
  omega

theorem dutyOf_of_below (h : angle.toRat ≤ -90) (maxDuty : UInt16) : dutyOf angle maxDuty = dutyOf minAngle maxDuty := by
  have hraw : angle.raw ≤ -5898240 := by
    unfold Fixed.toRat at h
    have hscaled : (angle.raw : ℚ) ≤ -5898240 := by linarith
    exact_mod_cast hscaled
  refine dutyOf_eq_of_clampAngle (Fixed.ext ?_) maxDuty
  rw [raw_clampAngle, raw_clampAngle, raw_minAngle]
  omega

/-- A duty that is exact but for the roundings, in order with all other duties, and not cut off by its word. -/
structure Renders (angle : Fixed) (maxDuty duty : UInt16) : Prop where
  whole : ∃ width, pulse angle = .ok width ∧
    (duty.toNat : Int) = Rounding.halfUp (width * maxDuty.toNat / 20000) 65536
  gt_ideal : idealDuty (max (-90) (min angle.toRat 90)) maxDuty - 596 / 1000 < duty.toNat
  le_ideal : duty.toNat ≤ idealDuty (max (-90) (min angle.toRat 90)) maxDuty + 1 / 2
  le_max : duty ≤ maxDuty
  le_of_angle_le : ∀ other later, angle ≤ other → dutyOf other maxDuty = .ok later → duty ≤ later
  le_of_max_le : ∀ more later, maxDuty ≤ more → dutyOf angle more = .ok later → duty ≤ later
  above : 90 ≤ angle.toRat → dutyOf maxAngle maxDuty = .ok duty
  below : angle.toRat ≤ -90 → dutyOf minAngle maxDuty = .ok duty

/-- Every angle has a duty at every greatest duty, without a fault and without the last cap: it is at most a half above
the exact one and less than 0.596 below it, it grows with the angle and with the greatest duty and never exceeds that,
and beyond the travel it is the duty of the nearer end. -/
theorem duty_renders_angle (angle : Fixed) (maxDuty : UInt16) :
    ∃ duty, dutyOf angle maxDuty = .ok duty ∧ Renders angle maxDuty duty := by
  obtain ⟨duty, hduty⟩ : ∃ duty, dutyOf angle maxDuty = .ok duty := ⟨_, dutyOf_eq angle maxDuty⟩
  have hlevel : (duty.toNat : Int) = level angle maxDuty := by
    rw [toNat_of_dutyOf hduty]
    exact Int.toNat_of_nonneg (level_bounds angle maxDuty).1
  have hideal := idealDuty_eq angle maxDuty
  obtain ⟨hle, hgt⟩ := level_near angle maxDuty
  rw [← hlevel] at hle hgt
  have hle' : (duty.toNat : ℚ) * 235929600000 ≤ idealWidth angle * maxDuty.toNat + 117964800000 := by exact_mod_cast hle
  have hgt' : idealWidth angle * maxDuty.toNat < (duty.toNat : ℚ) * 235929600000 + 140614041600 := by exact_mod_cast hgt
  rw [← hideal, toRat_clampAngle] at hle' hgt'
  refine ⟨duty, hduty, ?_⟩
  constructor
  · exact ⟨width angle, pulse_eq angle, hlevel⟩
  · linarith
  · linarith
  · have hmax := level_le angle maxDuty
    rw [UInt16.le_iff_toNat_le]
    omega
  · intro other later hangle hlater
    exact dutyOf_mono hangle hduty hlater
  · intro more later hmax hlater
    have hmono := level_mono_max angle hmax
    rw [UInt16.le_iff_toNat_le, toNat_of_dutyOf hlater]
    omega
  · intro h
    rw [← dutyOf_of_above h, hduty]
  · intro h
    rw [← dutyOf_of_below h, hduty]

end Servo

end ControlLoop
