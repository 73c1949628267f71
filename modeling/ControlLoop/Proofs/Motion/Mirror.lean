import ControlLoop.Proofs.Motion.Run
import Mathlib.Data.List.Forall2

/-!
# Ramps on both sides of zero

The two directions of a ramp are alike. A ramp whose present value and target are those of another with the sign
changed stays the image of it, under updates and under changes that are images of each other as well. The least number
of the format has no image and takes no part.
-/

namespace ControlLoop.Ramp

set_option autoImplicit false

variable {r s : Ramp} {tickMs : UInt16} {o o' : Operation} {operations images : List Operation}

/-- The second ramp is the image of the first at zero, with the same rates and the same tick. -/
structure Mirrors (r s : Ramp) : Prop where
  present : s.present.raw = -r.present.raw
  target : s.target.raw = -r.target.raw
  increase : s.increase = r.increase
  decrease : s.decrease = r.decrease
  tick : s.tick = r.tick

inductive Operation.Mirrors : Operation → Operation → Prop where
  | update : Mirrors .update .update
  | setPresent {p q : Fixed} : q.raw = -p.raw → Mirrors (.setPresent p) (.setPresent q)
  | setTarget {p q : Fixed} : q.raw = -p.raw → Mirrors (.setTarget p) (.setTarget q)
  | setIncrease (perSecond : Single) : Mirrors (.setIncrease perSecond) (.setIncrease perSecond)
  | setDecrease (perSecond : Single) : Mirrors (.setDecrease perSecond) (.setDecrease perSecond)

theorem Mirrors.converged_iff (h : Mirrors r s) : s.present = s.target ↔ r.present = r.target := by
  have hpresent := h.present
  have htarget := h.target
  rw [Fixed.ext_iff, Fixed.ext_iff]
  omega

theorem Mirrors.isConverged (h : Mirrors r s) : s.isConverged = r.isConverged := by
  rw [Ramp.isConverged, Ramp.isConverged, decide_eq_decide]
  exact h.converged_iff

theorem Mirrors.rate (h : Mirrors r s) : s.rate = r.rate := by
  have hpresent := h.present
  have htarget := h.target
  have hbelow : s.present < s.target ↔ r.target < r.present := by
    rw [Fixed.lt_def, Fixed.lt_def]
    omega
  have habove : s.target < s.present ↔ r.present < r.target := by
    rw [Fixed.lt_def, Fixed.lt_def]
    omega
  simp only [Ramp.rate, h.converged_iff, hbelow, habove, h.increase, h.decrease]
  -- The side of zero that the target is on decides which half of the rule holds, for the image the other half.
  simp only [Fixed.ext_iff, Fixed.lt_def, Fixed.raw_zero, htarget]
  rcases Int.lt_trichotomy r.target.raw 0 with hnegative | hzero | hpositive
  · have hne : ¬ r.target.raw = 0 := by omega
    have hne' : ¬ -r.target.raw = 0 := by omega
    have hside : ¬ 0 < r.target.raw := by omega
    have hside' : 0 < -r.target.raw := by omega
    simp only [if_neg hne, if_neg hne', if_neg hside, if_pos hside']
  · simp only [hzero, Int.neg_zero, if_true]
  · have hne : ¬ r.target.raw = 0 := by omega
    have hne' : ¬ -r.target.raw = 0 := by omega
    have hside' : ¬ 0 < -r.target.raw := by omega
    simp only [if_neg hne, if_neg hne', if_pos hpositive, if_neg hside']

theorem Mirrors.step (h : Mirrors r s) : s.step = r.step := by rw [Ramp.step, h.rate, h.tick, Ramp.step]

theorem Mirrors.update (h : Mirrors r s) (forward : 0 ≤ r.step.raw) : Mirrors r.update s.update := by
  have hpresent := h.present
  have htarget := h.target
  have hforward : 0 ≤ s.step.raw := h.step ▸ forward
  refine ⟨?_, ?_, ?_, ?_, ?_⟩
  · rw [raw_present_update forward, raw_present_update hforward, h.step]
    split <;> split <;> omega
  · rw [target_update, target_update, h.target]
  · rw [increase_update, increase_update, h.increase]
  · rw [decrease_update, decrease_update, h.decrease]
  · rw [tick_update, tick_update, h.tick]

theorem Mirrors.perform (h : Mirrors r s) (forward : 0 ≤ r.step.raw) (ho : o.Mirrors o') :
    Mirrors (r.perform o) (s.perform o') := by
  cases ho with
  | update => exact h.update forward
  | setPresent himage => exact ⟨himage, h.target, h.increase, h.decrease, h.tick⟩
  | setTarget himage => exact ⟨h.present, himage, h.increase, h.decrease, h.tick⟩
  | setIncrease perSecond =>
    rw [Ramp.perform, Ramp.perform, setIncrease, setIncrease]
    cases Fixed.ofSingle perSecond with
    | error fault => exact h
    | ok rate => exact ⟨h.present, h.target, rfl, h.decrease, h.tick⟩
  | setDecrease perSecond =>
    rw [Ramp.perform, Ramp.perform, setDecrease, setDecrease]
    cases Fixed.ofSingle perSecond with
    | error fault => exact h
    | ok rate => exact ⟨h.present, h.target, h.increase, rfl, h.tick⟩

theorem Geared.step_nonneg (h : r.Geared tickMs) (short : tickMs.toNat ≤ 1000) : 0 ≤ r.step.raw := by
  have htick : r.tick.Within 0 65536 := by
    simp only [Fixed.Within, h.tick]
    omega
  exact (raw_step h.rate_nonneg htick).2

theorem Mirrors.run (h : Mirrors r s) (hgeared : r.Geared tickMs) (short : tickMs.toNat ≤ 1000)
    (himages : List.Forall₂ Operation.Mirrors operations images) (hkeeps : ∀ o ∈ operations, o.KeepsForward) :
    Mirrors (r.run operations) (s.run images) := by
  induction himages generalizing r s with
  | nil => exact h
  | @cons o o' rest rest' ho _ ih =>
    have hfirst := h.perform (hgeared.step_nonneg short) ho
    have hstill := hgeared.perform_of_keepsForward (hkeeps o List.mem_cons_self)
    exact ih hfirst hstill fun later hlater => hkeeps later (List.mem_cons_of_mem o hlater)

/-- A ramp and its image stay images of each other in every run with a tick of at most a second and with rates that
stay zero or more, and they always move at the same rate and arrive at the same time. -/
theorem runs_mirrored (tickMs : UInt16) (short : tickMs.toNat ≤ 1000) (r s : Ramp) (hgeared : r.Geared tickMs)
    (h : Mirrors r s) (operations images : List Operation) (hkeeps : ∀ o ∈ operations, o.KeepsForward)
    (himages : List.Forall₂ Operation.Mirrors operations images) :
    (s.run images).present.raw = -(r.run operations).present.raw ∧
    (s.run images).target.raw = -(r.run operations).target.raw ∧
    (s.run images).rate = (r.run operations).rate ∧
    (s.run images).isConverged = (r.run operations).isConverged := by
  have hend := h.run hgeared short himages hkeeps
  exact ⟨hend.present, hend.target, hend.rate, hend.isConverged⟩

/-- From the upper end of the format to just below zero, with the greatest rate in whole units. -/
def descent : Ramp := ⟨Fixed.wrap 2147483647, Fixed.wrap (-3), Fixed.wrap 2147418112, Fixed.wrap 98304, Fixed.one, 1000⟩

def ascent : Ramp := { descent with present := Fixed.wrap (-2147483647), target := Fixed.wrap 3 }

/-- A rate just below zero counts as zero, and NaN is a fault. -/
def returning (present : Fixed) : List Operation :=
  [.update, .setIncrease ⟨0x80000001⟩, .setDecrease ⟨0x7fc00000⟩, .setPresent present, .setTarget Fixed.zero, .update]

theorem runs_mirrored_from_the_ends :
    ((1000 : UInt16).toNat ≤ 1000 ∧ descent.Geared 1000 ∧ Mirrors descent ascent ∧
      (∀ o ∈ returning (Fixed.wrap (-2147483647)), o.KeepsForward) ∧
      List.Forall₂ Operation.Mirrors (returning (Fixed.wrap (-2147483647))) (returning (Fixed.wrap 2147483647))) ∧
    (ascent.run (returning (Fixed.wrap 2147483647))).present.raw = 2147385343 ∧
    (ascent.run (returning (Fixed.wrap 2147483647))).rate = Fixed.wrap 98304 ∧
    (ascent.run (returning (Fixed.wrap 2147483647))).isConverged = false := by
  have hgeared : descent.Geared 1000 := ⟨by decide, by decide, by decide⟩
  have hmirrors : Mirrors descent ascent := ⟨by decide, by decide, rfl, rfl, rfl⟩
  have hkeeps : ∀ o ∈ returning (Fixed.wrap (-2147483647)), o.KeepsForward := by decide
  have himages : List.Forall₂ Operation.Mirrors (returning (Fixed.wrap (-2147483647)))
      (returning (Fixed.wrap 2147483647)) :=
    .cons .update (.cons (.setIncrease _) (.cons (.setDecrease _) (.cons (.setPresent (by decide))
      (.cons (.setTarget (by decide)) (.cons .update .nil)))))
  obtain ⟨hpresent, _, hrate, hconverged⟩ := runs_mirrored 1000 (by decide) descent ascent hgeared hmirrors
    (returning (Fixed.wrap (-2147483647))) (returning (Fixed.wrap 2147483647)) hkeeps himages
  refine ⟨⟨by decide, hgeared, hmirrors, hkeeps, himages⟩, ?_, ?_, ?_⟩
  · rw [hpresent]
    decide
  · rw [hrate]
    decide
  · rw [hconverged]
    decide

end ControlLoop.Ramp
