import ControlLoop.Proofs.Fixed
import ControlLoop.Servo.Drive

/-!
# Duties in order

Every angle has a duty, for every greatest duty of the output: no step on the way leaves its word. The duty grows with
the angle, so the two ends of the travel bound all duties. The duty of the whole degrees is said on raw values: the
fraction is dropped towards zero on both sides of it.
-/

namespace ControlLoop.Servo

set_option autoImplicit false

variable {angle other : Fixed} {maxDuty duty : UInt16}

def InTravel (angle : Fixed) : Prop := minAngle ≤ angle ∧ angle ≤ maxAngle

instance (angle : Fixed) : Decidable (InTravel angle) := inferInstanceAs (Decidable (_ ∧ _))

theorem raw_minAngle : minAngle.raw = -5898240 := rfl

theorem raw_maxAngle : maxAngle.raw = 5898240 := rfl

theorem inTravel_iff : InTravel angle ↔ -5898240 ≤ angle.raw ∧ angle.raw ≤ 5898240 := Iff.rfl

theorem inTravel_zero : InTravel Fixed.zero := by decide

theorem raw_clampAngle (angle : Fixed) : (clampAngle angle).raw = max (-5898240) (min angle.raw 5898240) := by
  rw [clampAngle, Fixed.raw_clamp, raw_minAngle, raw_maxAngle]

theorem inTravel_clampAngle (angle : Fixed) : InTravel (clampAngle angle) := by
  rw [inTravel_iff, raw_clampAngle]
  omega

/-- The width of the pulse in raw microseconds. -/
def width (angle : Fixed) : Int := 32768000 + ((clampAngle angle).raw + 5898240) / 180 * 1900

theorem width_bounds (angle : Fixed) : 32768000 ≤ width angle ∧ width angle ≤ 157286400 := by
  obtain ⟨hlow, hhigh⟩ := inTravel_iff.mp (inTravel_clampAngle angle)
  unfold width
  omega

theorem width_mono (h : angle.raw ≤ other.raw) : width angle ≤ width other := by
  unfold width
  rw [raw_clampAngle, raw_clampAngle]
  omega

theorem pulse_eq (angle : Fixed) : pulse angle = .ok (width angle) := by
  obtain ⟨hlow, hhigh⟩ := inTravel_iff.mp (inTravel_clampAngle angle)
  have htravel : (clampAngle angle).raw - minAngle.raw = (clampAngle angle).raw + 5898240 := by
    rw [raw_minAngle]
    omega
  have hfirst : Word.Holds .bits32 ((clampAngle angle).raw + 5898240) := Word.holds_bits32.mpr (by omega)
  have hsecond : Word.Holds .bits32 (((clampAngle angle).raw + 5898240) / 180 * 1900) :=
    Word.holds_bits32.mpr (by omega)
  have hthird : Word.Holds .bits32 (500 * 65536 + ((clampAngle angle).raw + 5898240) / 180 * 1900) :=
    Word.holds_bits32.mpr (by omega)
  simp only [pulse, htravel, Word.exact_eq_ok hfirst, Word.exact_eq_ok hsecond, Word.exact_eq_ok hthird, bind,
    Except.bind]
  rfl

/-- The duty as an integer, before it is put into its word. -/
def level (angle : Fixed) (maxDuty : UInt16) : Int := Rounding.halfUp (width angle * maxDuty.toNat / 20000) 65536

theorem scaled_bounds (angle : Fixed) (maxDuty : UInt16) :
    0 ≤ width angle * maxDuty.toNat ∧ width angle * maxDuty.toNat ≤ 157286400 * 65535 := by
  obtain ⟨hlow, hhigh⟩ := width_bounds angle
  have hmax : maxDuty.toNat < 65536 := maxDuty.toNat_lt
  exact ⟨Int.mul_nonneg (by omega) (by omega), Int.mul_le_mul hhigh (by omega) (by omega) (by omega)⟩

theorem level_bounds (angle : Fixed) (maxDuty : UInt16) : 0 ≤ level angle maxDuty ∧ level angle maxDuty < 65536 := by
  have hscaled := scaled_bounds angle maxDuty
  simp only [level, Rounding.halfUp]
  omega

theorem level_mono (h : angle.raw ≤ other.raw) (maxDuty : UInt16) : level angle maxDuty ≤ level other maxDuty := by
  have hscaled : width angle * maxDuty.toNat ≤ width other * maxDuty.toNat :=
    Int.mul_le_mul_of_nonneg_right (width_mono h) (by omega)
  simp only [level, Rounding.halfUp]
  omega

theorem dutyOf_eq (angle : Fixed) (maxDuty : UInt16) :
    dutyOf angle maxDuty = .ok (UInt16.ofNat (level angle maxDuty).toNat) := by
  have hscaled := scaled_bounds angle maxDuty
  have hholds : Word.Holds .bits64 (width angle * maxDuty.toNat) := Word.holds_bits64.mpr (by omega)
  have hlevel := level_bounds angle maxDuty
  have hsmall : min (level angle maxDuty).toNat 65535 = (level angle maxDuty).toNat := by omega
  simp only [dutyOf, pulse_eq, Word.exact_eq_ok hholds, bind, Except.bind]
  exact congrArg (fun n => Except.ok (UInt16.ofNat n)) hsmall

theorem toNat_of_dutyOf (h : dutyOf angle maxDuty = .ok duty) : duty.toNat = (level angle maxDuty).toNat := by
  have hlevel := level_bounds angle maxDuty
  rw [dutyOf_eq, Except.ok.injEq] at h
  rw [← h, UInt16.toNat_ofNat']
  exact Nat.mod_eq_of_lt (by omega)

theorem dutyOf_mono {lower upper : UInt16} (h : angle.raw ≤ other.raw) (hlower : dutyOf angle maxDuty = .ok lower)
    (hupper : dutyOf other maxDuty = .ok upper) : lower ≤ upper := by
  rw [UInt16.le_iff_toNat_le, toNat_of_dutyOf hlower, toNat_of_dutyOf hupper]
  have hlevel := level_mono h maxDuty
  omega

theorem level_clampAngle (angle : Fixed) (maxDuty : UInt16) :
    level (clampAngle angle) maxDuty = level angle maxDuty := by
  have hclamp : (clampAngle (clampAngle angle)).raw = (clampAngle angle).raw := by
    rw [raw_clampAngle, raw_clampAngle]
    omega
  simp only [level, width, hclamp]

/-- A duty of the output for some angle within the travel. -/
def InRange (maxDuty duty : UInt16) : Prop :=
  ∃ lowest greatest, dutyOf minAngle maxDuty = .ok lowest ∧ dutyOf maxAngle maxDuty = .ok greatest ∧
    lowest ≤ duty ∧ duty ≤ greatest

theorem inRange_of_dutyOf (h : dutyOf angle maxDuty = .ok duty) : InRange maxDuty duty := by
  obtain ⟨hlow, hhigh⟩ := inTravel_clampAngle angle
  rw [dutyOf_eq, ← level_clampAngle, ← dutyOf_eq] at h
  exact ⟨_, _, dutyOf_eq _ _, dutyOf_eq _ _, dutyOf_mono hlow (dutyOf_eq _ _) h, dutyOf_mono hhigh h (dutyOf_eq _ _)⟩

/-- The duty of an angle without its fraction, which is dropped towards zero. -/
def WholeDuty (angle : Fixed) (maxDuty duty : UInt16) : Prop :=
  ∃ whole : Fixed, whole.raw = angle.raw.tdiv 65536 * 65536 ∧ dutyOf whole maxDuty = .ok duty

theorem wholeDuty_iff : WholeDuty angle maxDuty duty ↔ dutyOf angle.truncate maxDuty = .ok duty := by
  constructor
  · rintro ⟨whole, hwhole, hduty⟩
    have hsame : whole = angle.truncate := Fixed.ext (hwhole.trans angle.raw_truncate.symm)
    rw [← hsame]
    exact hduty
  · intro hduty
    exact ⟨angle.truncate, angle.raw_truncate, hduty⟩

instance : Decidable (WholeDuty angle maxDuty duty) := decidable_of_iff _ wholeDuty_iff.symm

theorem WholeDuty.unique {duty' : UInt16} (h : WholeDuty angle maxDuty duty) (h' : WholeDuty angle maxDuty duty') :
    duty = duty' := by
  rw [wholeDuty_iff] at h h'
  exact Except.ok.inj (h.symm.trans h')

end ControlLoop.Servo
