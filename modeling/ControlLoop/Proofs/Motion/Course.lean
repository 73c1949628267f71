import ControlLoop.Proofs.Motion.Approach
import Mathlib.Algebra.Order.Floor.Div
import Mathlib.Logic.Function.Iterate

/-!
# The course of a ramp

A ramp that is left alone moves by the same stride at every update: the rate depends on the side of zero of the target
and on the side of the target that the ramp is on, and neither changes under way. So its course is a straight line
that is cut off at the target, and the number of updates up to the arrival is the distance over the stride, rounded up.
-/

namespace ControlLoop.Ramp

set_option autoImplicit false

variable {r : Ramp} {n : Nat}

/-- The raw value that a straight line with this stride has after `n` updates, cut off at the target. -/
def course (r : Ramp) (n : Nat) : Int :=
  if r.present.raw ≤ r.target.raw then min (r.present.raw + n * r.stride) r.target.raw
  else max (r.present.raw - n * r.stride) r.target.raw

def distance (r : Ramp) : Nat := (r.target.raw - r.present.raw).natAbs

/-- The least number of strides that cover the distance. -/
def updatesToGo (r : Ramp) : Nat := r.distance ⌈/⌉ r.stride.toNat

/-- The stride of the next update leads forwards and fits into its word. -/
structure Fits (r : Ramp) : Prop where
  nonneg : 0 ≤ r.stride
  lt : r.stride < 2147483648

theorem Fits.raw_step (h : r.Fits) : r.step.raw = r.stride := raw_step_of_fits h.nonneg h.lt

theorem Fits.raw_present_update (h : r.Fits) :
    r.update.present.raw = if r.present.raw ≤ r.target.raw then min (r.present.raw + r.stride) r.target.raw
      else max (r.present.raw - r.stride) r.target.raw := by
  rw [Ramp.raw_present_update (h.raw_step ▸ h.nonneg), h.raw_step]

/-- The rate depends on no more of the present value than on which side of the target it is. -/
theorem rate_eq_of_same_side {present : Fixed} (hlt : present < r.target ↔ r.present < r.target)
    (hgt : r.target < present ↔ r.target < r.present) : ({ r with present } : Ramp).rate = r.rate := by
  have heq : present = r.target ↔ r.present = r.target := by
    rw [Fixed.lt_def, Fixed.lt_def] at hlt hgt
    rw [Fixed.ext_iff, Fixed.ext_iff]
    omega
  simp only [rate, heq, hlt, hgt]

theorem Fits.rate_update (h : r.Fits) (underway : r.update.present ≠ r.target) : r.update.rate = r.rate := by
  have hmoved := h.raw_present_update
  have hnonneg := h.nonneg
  rw [ne_eq, Fixed.ext_iff] at underway
  rw [update_eq]
  apply rate_eq_of_same_side
  · rw [Fixed.lt_def, Fixed.lt_def]
    split at hmoved <;> omega
  · rw [Fixed.lt_def, Fixed.lt_def]
    split at hmoved <;> omega

theorem Fits.stride_update (h : r.Fits) (underway : r.update.present ≠ r.target) : r.update.stride = r.stride := by
  rw [stride, h.rate_update underway, tick_update, stride]

theorem Fits.next (h : r.Fits) (underway : r.update.present ≠ r.target) : r.update.Fits := by
  constructor <;> rw [h.stride_update underway]
  · exact h.nonneg
  · exact h.lt

@[simp] theorem target_iterate (r : Ramp) (n : Nat) : (update^[n] r).target = r.target := by
  induction n generalizing r with
  | zero => rfl
  | succ n ih => rw [Function.iterate_succ_apply, ih, target_update]

theorem iterate_of_converged (h : r.present = r.target) (n : Nat) : update^[n] r = r :=
  Function.iterate_fixed (update_of_converged h) n

theorem course_of_converged (h : r.present = r.target) (n : Nat) : r.course n = r.target.raw := by
  have hraw := Fixed.ext_iff.mp h
  have hstride : r.stride = 0 := by rw [stride, rate_of_converged h, Fixed.raw_zero, Int.zero_mul, Int.zero_ediv]
  rw [course, hstride, Int.mul_zero]
  split <;> omega

theorem Fits.course_succ (h : r.Fits) (n : Nat) : r.course (n + 1) = r.update.course n := by
  have hmoved := h.raw_present_update
  have hnonneg := h.nonneg
  have hrest : 0 ≤ n * r.stride := Int.mul_nonneg (Int.natCast_nonneg n) h.nonneg
  by_cases harrived : r.update.present = r.target
  · rw [course_of_converged (harrived.trans r.target_update.symm), target_update, course, Int.natCast_succ,
      Int.add_mul, Int.one_mul]
    rw [Fixed.ext_iff] at harrived
    split at hmoved <;> split <;> omega
  · rw [course, course, h.stride_update harrived, target_update, Int.natCast_succ, Int.add_mul, Int.one_mul]
    rw [Fixed.ext_iff] at harrived
    split at hmoved <;> split <;> split <;> omega

theorem Fits.raw_present_iterate (h : r.Fits) (n : Nat) : (update^[n] r).present.raw = r.course n := by
  induction n generalizing r with
  | zero =>
    rw [Function.iterate_zero_apply, course, Int.natCast_zero, Int.zero_mul]
    split <;> omega
  | succ n ih =>
    rw [Function.iterate_succ_apply, h.course_succ]
    by_cases harrived : r.update.present = r.target
    · have hconverged := harrived.trans r.target_update.symm
      rw [iterate_of_converged hconverged, course_of_converged hconverged, hconverged]
    · exact ih (h.next harrived)

theorem Fits.course_mono (h : r.Fits) (hle : r.present ≤ r.target) {m n : Nat} (hmn : m ≤ n) :
    r.course m ≤ r.course n := by
  have hline : m * r.stride ≤ n * r.stride := Int.mul_le_mul_of_nonneg_right (Int.ofNat_le.mpr hmn) h.nonneg
  rw [Fixed.le_def] at hle
  rw [course, course, if_pos hle, if_pos hle]
  omega

theorem Fits.course_anti (h : r.Fits) (hle : r.target ≤ r.present) {m n : Nat} (hmn : m ≤ n) :
    r.course n ≤ r.course m := by
  have hline : m * r.stride ≤ n * r.stride := Int.mul_le_mul_of_nonneg_right (Int.ofNat_le.mpr hmn) h.nonneg
  have hrest : 0 ≤ m * r.stride := Int.mul_nonneg (Int.natCast_nonneg m) h.nonneg
  rw [Fixed.le_def] at hle
  rw [course, course]
  split <;> omega

theorem Fits.rate_iterate (h : r.Fits) (underway : (update^[n] r).present ≠ r.target) :
    (update^[n] r).rate = r.rate := by
  induction n generalizing r with
  | zero => rfl
  | succ n ih =>
    rw [Function.iterate_succ_apply] at underway ⊢
    -- A ramp that had arrived at the first update would still be there.
    have hfirst : r.update.present ≠ r.target := by
      intro harrived
      have hconverged := harrived.trans r.target_update.symm
      rw [iterate_of_converged hconverged] at underway
      exact underway harrived
    rw [ih (h.next hfirst) (r.target_update.symm ▸ underway), h.rate_update hfirst]

theorem isConverged_iterate_iff : (update^[n] r).isConverged = true ↔ (update^[n] r).present = r.target := by
  rw [isConverged, decide_eq_true_iff, target_iterate]

theorem Fits.arrived_iff (h : r.Fits) : (update^[n] r).isConverged = true ↔ r.distance ≤ n * r.stride := by
  have hrest : 0 ≤ n * r.stride := Int.mul_nonneg (Int.natCast_nonneg n) h.nonneg
  rw [isConverged_iterate_iff, Fixed.ext_iff, h.raw_present_iterate, course, distance]
  split <;> omega

theorem Fits.arrived_iff_updatesToGo_le (h : r.Fits) (advances : 1 ≤ r.stride) :
    (update^[n] r).isConverged = true ↔ r.updatesToGo ≤ n := by
  have hstride : (r.stride.toNat : Int) = r.stride := Int.toNat_of_nonneg h.nonneg
  have hpositive : 0 < r.stride.toNat := by omega
  have hcovered : ((r.stride.toNat * n : Nat) : Int) = n * r.stride := by
    rw [Int.natCast_mul, hstride, Int.mul_comm]
  rw [h.arrived_iff, updatesToGo, ceilDiv_le_iff_le_mul hpositive, ← hcovered]
  exact Int.ofNat_le

theorem Fits.arrives_iff (h : r.Fits) :
    (∃ n, (update^[n] r).isConverged = true) ↔ r.present = r.target ∨ 1 ≤ r.stride := by
  constructor
  · rintro ⟨n, harrived⟩
    by_cases hzero : r.stride = 0
    · rw [h.arrived_iff, hzero, Int.mul_zero, distance] at harrived
      exact Or.inl (Fixed.ext (by omega))
    · have hnonneg := h.nonneg
      exact Or.inr (by omega)
  · rintro (hconverged | hadvances)
    · exact ⟨0, decide_eq_true hconverged⟩
    · exact ⟨r.updatesToGo, (h.arrived_iff_updatesToGo_le hadvances).mpr (Nat.le_refl _)⟩

theorem iterate_of_arrived (h : (update^[n] r).present = r.target) {m : Nat} (later : n ≤ m) :
    update^[m] r = update^[n] r := by
  have hconverged := h.trans (r.target_iterate n).symm
  rw [← Nat.sub_add_cancel later, Function.iterate_add_apply, iterate_of_converged hconverged]

/-- A ramp that is left alone goes straight to its target at one rate, arrives after just as many updates as it takes
for the strides to cover the distance, and stays. It never arrives only if the stride is zero and the target is not
where the ramp is. -/
theorem updates_follow_course (r : Ramp) (nonneg : 0 ≤ r.stride) (fits : r.stride < 2147483648) :
    (∀ n, (update^[n] r).present.raw = r.course n) ∧
    (∀ n, (update^[n] r).isConverged = false → (update^[n] r).rate = r.rate) ∧
    (∀ n, (update^[n] r).isConverged = true →
      ∀ m ≥ n, (update^[m] r).rate = Fixed.zero ∧ update^[m] r = update^[n] r) ∧
    ((∃ n, (update^[n] r).isConverged = true) ↔ r.present = r.target ∨ 1 ≤ r.stride) ∧
    (1 ≤ r.stride → ∀ n, (update^[n] r).isConverged = true ↔ r.updatesToGo ≤ n) := by
  have h : r.Fits := ⟨nonneg, fits⟩
  refine ⟨h.raw_present_iterate, ?_, ?_, h.arrives_iff, ?_⟩
  · intro n hunderway
    apply h.rate_iterate
    rw [ne_eq, ← isConverged_iterate_iff, hunderway]
    exact Bool.false_ne_true
  · intro n harrived m hlater
    rw [isConverged_iterate_iff] at harrived
    have hsame := iterate_of_arrived harrived hlater
    rw [hsame]
    exact ⟨rate_of_converged (harrived.trans (r.target_iterate n).symm), rfl⟩
  · intro hadvances n
    exact h.arrived_iff_updatesToGo_le hadvances

/-- From just below zero to the upper end of the format, by the greatest rate in whole units. -/
def leap : Ramp := ⟨Fixed.wrap (-1000), Fixed.wrap 2147483647, Fixed.wrap 2147418112, Fixed.one, Fixed.one, 1000⟩

theorem updates_follow_course_across_zero :
    (0 ≤ leap.stride ∧ leap.stride < 2147483648 ∧ 1 ≤ leap.stride) ∧
    (update^[1] leap).present.raw = 2147417112 ∧ (update^[1] leap).rate = leap.increase ∧
    ∀ n, (update^[n] leap).isConverged = true ↔ 2 ≤ n := by
  have hnonneg : 0 ≤ leap.stride := by decide
  have hfits : leap.stride < 2147483648 := by decide
  have hadvances : 1 ≤ leap.stride := by decide
  obtain ⟨hcourse, hrate, _, _, harrives⟩ := updates_follow_course leap hnonneg hfits
  have htogo : leap.updatesToGo = 2 := by decide
  refine ⟨⟨hnonneg, hfits, hadvances⟩, ?_, ?_, ?_⟩
  · rw [hcourse]
    decide
  · exact hrate 1 (by decide)
  · intro n
    rw [harrives hadvances, htogo]

end ControlLoop.Ramp
