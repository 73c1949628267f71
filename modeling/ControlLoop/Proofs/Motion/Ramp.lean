import ControlLoop.Motion.Ramp
import ControlLoop.Proofs.Fixed

/-!
# One update of a ramp

An update changes the present value only. While the step of a tick is not negative the present value moves by the step
towards the target and stops there. A step that has wrapped may be negative and lead away from the target, but never by
more than the exact product of rate and tick.
-/

namespace ControlLoop.Ramp

set_option autoImplicit false

variable {r : Ramp} {bound : Int}

/-- The part of the rate per second that falls to one tick. -/
def step (r : Ramp) : Fixed := r.rate.mul r.tick

theorem update_eq (r : Ramp) : r.update = { r with present := r.update.present } := by
  unfold update
  dsimp only
  split
  · rfl
  · split <;> rfl

@[simp] theorem target_update (r : Ramp) : r.update.target = r.target := by rw [update_eq]

@[simp] theorem increase_update (r : Ramp) : r.update.increase = r.increase := by rw [update_eq]

@[simp] theorem decrease_update (r : Ramp) : r.update.decrease = r.decrease := by rw [update_eq]

@[simp] theorem tick_update (r : Ramp) : r.update.tick = r.tick := by rw [update_eq]

theorem present_update_of_lt (h : r.present < r.target) :
    r.update.present = min (r.present.addSaturating r.step) r.target := by
  simp only [update, if_pos h, step]

theorem present_update_of_gt (h : r.target < r.present) :
    r.update.present = max (r.present.subSaturating r.step) r.target := by
  have hlt : ¬ r.present < r.target := fun h' => Int.lt_asymm h h'
  simp only [update, if_neg hlt, if_pos h, step]

theorem update_of_converged (h : r.present = r.target) : r.update = r := by
  have hlt : ¬ r.present < r.target := fun h' => Int.lt_irrefl _ (h ▸ h')
  have hgt : ¬ r.target < r.present := fun h' => Int.lt_irrefl _ (h ▸ h')
  simp only [update, if_neg hlt, if_neg hgt]

theorem rate_cases (r : Ramp) : r.rate = Fixed.zero ∨ r.rate = r.increase ∨ r.rate = r.decrease := by
  unfold rate
  repeat' split
  all_goals simp

theorem rate_within (hincrease : r.increase.Within 0 bound) (hdecrease : r.decrease.Within 0 bound) :
    r.rate.Within 0 bound := by
  rcases r.rate_cases with h | h | h <;> rw [h]
  · exact ⟨Int.le_refl 0, Int.le_trans hincrease.1 hincrease.2⟩
  · exact hincrease
  · exact hdecrease

/-- A tick of at most a second leaves no more of a rate than the rate, so that the product cannot wrap. -/
theorem raw_step (hrate : 0 ≤ r.rate.raw) (htick : r.tick.Within 0 65536) :
    r.step.raw = r.rate.raw * r.tick.raw / 65536 ∧ 0 ≤ r.step.raw := by
  obtain ⟨hlow, hhigh⟩ := Fixed.scaled_between (d := r.rate.raw) htick.1 htick.2
  have hupper := r.rate.upper
  have hstep : r.step.raw = r.rate.raw * r.tick.raw / 65536 := Fixed.raw_wrap (by omega) (by omega)
  omega

theorem step_near (hrate : 0 ≤ r.rate.raw) (htick : 0 ≤ r.tick.raw) :
    -(r.rate.raw * r.tick.raw / 65536) ≤ r.step.raw ∧ r.step.raw ≤ r.rate.raw * r.tick.raw / 65536 :=
  Fixed.raw_wrap_between (Int.ediv_nonneg (Int.mul_nonneg hrate htick) (by omega))

/-- A step that is not negative leads to the target and not past it. -/
theorem raw_present_update (forward : 0 ≤ r.step.raw) :
    r.update.present.raw =
      if r.present.raw ≤ r.target.raw then min (r.present.raw + r.step.raw) r.target.raw
      else max (r.present.raw - r.step.raw) r.target.raw := by
  have hlower := r.present.lower
  have hupper := r.present.upper
  have htarget := r.target.lower
  have htarget' := r.target.upper
  rcases Int.lt_trichotomy r.present.raw r.target.raw with hlt | heq | hgt
  · rw [present_update_of_lt hlt, if_pos (Int.le_of_lt hlt), Fixed.raw_min]
    simp only [Fixed.addSaturating, Fixed.saturate]
    omega
  · rw [update_of_converged (Fixed.ext heq), if_pos (Int.le_of_eq heq)]
    omega
  · rw [present_update_of_gt hgt, if_neg (Int.not_le_of_gt hgt), Fixed.raw_max]
    simp only [Fixed.subSaturating, Fixed.saturate]
    omega

theorem present_update_between (forward : 0 ≤ r.step.raw) :
    min r.present.raw r.target.raw ≤ r.update.present.raw ∧ r.update.present.raw ≤ max r.present.raw r.target.raw := by
  rw [raw_present_update forward]
  split <;> omega

/-- An update of any step, forwards or backwards, moves by no more than the step is far from zero. -/
theorem present_update_near (hstep : -bound ≤ r.step.raw ∧ r.step.raw ≤ bound) :
    -bound ≤ r.update.present.raw - r.present.raw ∧ r.update.present.raw - r.present.raw ≤ bound := by
  -- The sum may saturate and the target may cut it short, and each only brings it nearer.
  have hlower := r.present.lower
  have hupper := r.present.upper
  rcases Int.lt_trichotomy r.present.raw r.target.raw with hlt | heq | hgt
  · rw [present_update_of_lt hlt, Fixed.raw_min]
    simp only [Fixed.addSaturating, Fixed.saturate]
    omega
  · rw [update_of_converged (Fixed.ext heq)]
    omega
  · rw [present_update_of_gt hgt, Fixed.raw_max]
    simp only [Fixed.subSaturating, Fixed.saturate]
    omega

end ControlLoop.Ramp
