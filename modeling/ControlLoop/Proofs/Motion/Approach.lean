import ControlLoop.Proofs.Motion.Run

/-!
# Approaching the target

An update never passes the target. It leads towards the target as long as the product of rate and tick, taken modulo
`2 ^ 32`, is not negative as a signed word. With a tick of more than a second a great rate can make it negative, and
then the ramp leaves for the wrong side, until the end of the format stops it.
-/

namespace ControlLoop.Ramp

set_option autoImplicit false

variable {r : Ramp} {tickMs : UInt16}

/-- The raw distance of one update, before it is put into its word. -/
def stride (r : Ramp) : Int := r.rate.raw * r.tick.raw / 65536

theorem raw_step_eq (r : Ramp) : r.step.raw = (r.stride + 2147483648) % 4294967296 - 2147483648 := rfl

theorem step_nonneg_iff : 0 ≤ r.step.raw ↔ r.stride % 4294967296 < 2147483648 := by
  rw [raw_step_eq]
  omega

theorem raw_step_of_fits (nonneg : 0 ≤ r.stride) (fits : r.stride < 2147483648) : r.step.raw = r.stride := by
  rw [raw_step_eq]
  omega

theorem rate_of_converged (h : r.present = r.target) : r.rate = Fixed.zero := if_pos h

theorem step_of_converged (h : r.present = r.target) : r.step.raw = 0 := by
  rw [raw_step_eq, stride, rate_of_converged h, Fixed.raw_zero, Int.zero_mul]
  rfl

def Approaches (r : Ramp) : Prop :=
  min r.present.raw r.target.raw ≤ r.update.present.raw ∧ r.update.present.raw ≤ max r.present.raw r.target.raw

def KeepsSide (r : Ramp) : Prop :=
  (r.present ≤ r.target → r.update.present ≤ r.target) ∧ (r.target ≤ r.present → r.target ≤ r.update.present)

/-- The present value has nowhere to go but inwards. -/
def AtEnd (r : Ramp) : Prop := r.present.raw = -2147483648 ∨ r.present.raw = 2147483647

instance (r : Ramp) : Decidable r.AtEnd := inferInstanceAs (Decidable (_ ∨ _))

theorem keepsSide (r : Ramp) : r.KeepsSide := by
  unfold KeepsSide
  simp only [Fixed.le_def]
  rcases Int.lt_trichotomy r.present.raw r.target.raw with hlt | heq | hgt
  · rw [present_update_of_lt hlt, Fixed.raw_min]
    omega
  · rw [update_of_converged (Fixed.ext heq)]
    omega
  · rw [present_update_of_gt hgt, Fixed.raw_max]
    omega

/-- A negative step leads away, unless the format ends there. -/
theorem approaches_iff_atEnd (backward : r.step.raw < 0) : r.Approaches ↔ r.AtEnd := by
  have hlower := r.present.lower
  have hupper := r.present.upper
  have htarget := r.target.lower
  have htarget' := r.target.upper
  unfold Approaches AtEnd
  rcases Int.lt_trichotomy r.present.raw r.target.raw with hlt | heq | hgt
  · rw [present_update_of_lt hlt, Fixed.raw_min]
    simp only [Fixed.addSaturating, Fixed.saturate]
    omega
  · have hzero := step_of_converged (Fixed.ext heq)
    omega
  · rw [present_update_of_gt hgt, Fixed.raw_max]
    simp only [Fixed.subSaturating, Fixed.saturate]
    omega

theorem approaches_iff (r : Ramp) : r.Approaches ↔ r.stride % 4294967296 < 2147483648 ∨ r.AtEnd := by
  rw [← step_nonneg_iff]
  rcases Int.lt_or_le r.step.raw 0 with hback | hforward
  · rw [approaches_iff_atEnd hback]
    exact (or_iff_right (Int.not_le_of_gt hback)).symm
  · exact iff_of_true (present_update_between hforward) (Or.inl hforward)

theorem Geared.approaches (h : r.Geared tickMs) (short : tickMs.toNat ≤ 1000) : r.Approaches := by
  have htick : r.tick.Within 0 65536 := by
    simp only [Fixed.Within, h.tick]
    omega
  obtain ⟨_, hforward⟩ := raw_step h.rate_nonneg htick
  exact present_update_between hforward

/-- In a run with rates that are not negative an update leads away from its target just when its step has wrapped to a
negative one, which takes a tick of more than a second. It never passes the target. -/
theorem approaches_unless_wrapped (tickMs : UInt16) (short : tickMs.toNat < 32768) (increase decrease : Single)
    (hincrease : increase.NonNegative) (hdecrease : decrease.NonNegative) :
    ∃ first, (start tickMs increase decrease).value = .ok first ∧
      ∀ operations : List Operation, (∀ o ∈ operations, o.Forward) →
        (first.run operations).KeepsSide ∧
        ((first.run operations).Approaches ↔
          (first.run operations).stride % 4294967296 < 2147483648 ∨ (first.run operations).AtEnd) ∧
        (tickMs.toNat ≤ 1000 → (first.run operations).Approaches) := by
  obtain ⟨up, hup, hupNonneg⟩ := Fixed.ofSingle_of_nonNegative hincrease
  obtain ⟨down, hdown, hdownNonneg⟩ := Fixed.ofSingle_of_nonNegative hdecrease
  refine ⟨_, value_start short hup hdown, ?_⟩
  intro operations hoperations
  have hgeared := (geared_atRest short hupNonneg hdownNonneg).run hoperations
  exact ⟨keepsSide _, approaches_iff _, hgeared.approaches⟩

/-- The greatest rate in whole units, a tick of one and a half seconds, and a target of ten. -/
def hurried : Ramp :=
  { atRest 1500 (Fixed.wrap 2147418112) (Fixed.wrap 2147418112) with target := Fixed.wrap 655360 }

/-- A step of 49150.5 does not fit into its word, and the update leads below zero on the way from zero to ten. -/
theorem leaves_on_wrong_side :
    ¬ ∀ (tickMs : UInt16) (increase decrease : Single) (first : Ramp), tickMs.toNat < 32768 →
      increase.NonNegative → decrease.NonNegative → (start tickMs increase decrease).value = .ok first →
      ∀ present target : Fixed, ({ first with present, target } : Ramp).Approaches := by
  intro h
  have hrate : Fixed.ofSingle ⟨0x46fffe00⟩ = .ok (Fixed.wrap 2147418112) := by decide
  have hstart : (start 1500 ⟨0x46fffe00⟩ ⟨0x46fffe00⟩).value =
      .ok (atRest 1500 (Fixed.wrap 2147418112) (Fixed.wrap 2147418112)) := value_start (by decide) hrate hrate
  have happroaches := h 1500 ⟨0x46fffe00⟩ ⟨0x46fffe00⟩ _ (by decide) (by decide) (by decide) hstart Fixed.zero
    (Fixed.wrap 655360)
  have haway : hurried.update.present.raw = -1073840128 := by decide
  obtain ⟨hlow, _⟩ := happroaches
  change min 0 655360 ≤ hurried.update.present.raw at hlow
  omega

/-- With a tick of two seconds the same rate wraps to a step of exactly minus two. -/
theorem approaches_unless_wrapped_two_seconds :
    ((2000 : UInt16).toNat < 32768 ∧ (⟨0x46fffe00⟩ : Single).NonNegative) ∧
    ∃ first, (start 2000 ⟨0x46fffe00⟩ ⟨0x46fffe00⟩).value = .ok first ∧
      ¬ (first.run [.setTarget (Fixed.wrap 655360)]).Approaches ∧
      (first.run [.setTarget (Fixed.wrap 655360), .setIncrease ⟨0x41a00000⟩]).Approaches := by
  have hnonneg : (⟨0x46fffe00⟩ : Single).NonNegative := by decide
  have hrate : Fixed.ofSingle ⟨0x46fffe00⟩ = .ok (Fixed.wrap 2147418112) := by decide
  obtain ⟨first, hstart, hrun⟩ := approaches_unless_wrapped 2000 (by decide) _ _ hnonneg hnonneg
  have hfirst : first = atRest 2000 (Fixed.wrap 2147418112) (Fixed.wrap 2147418112) := by
    rw [value_start (by decide) hrate hrate, Except.ok.injEq] at hstart
    exact hstart.symm
  obtain ⟨_, hwrapped, _⟩ := hrun [.setTarget (Fixed.wrap 655360)] (by decide)
  obtain ⟨_, hslower, _⟩ := hrun [.setTarget (Fixed.wrap 655360), .setIncrease ⟨0x41a00000⟩] (by decide)
  refine ⟨⟨by decide, hnonneg⟩, first, hstart, ?_, ?_⟩
  · rw [hwrapped, hfirst]
    decide
  · rw [hslower, hfirst]
    decide

end ControlLoop.Ramp
