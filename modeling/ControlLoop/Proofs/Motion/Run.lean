import ControlLoop.Proofs.Motion.Ramp

/-!
# Runs of a ramp

A run is a string of updates and of changes from outside, in any order. A change that is a fault leaves the ramp as it
is. The length of the tick never changes, and rates that are not negative stay so as long as only such rates are set.
-/

namespace ControlLoop.Ramp

set_option autoImplicit false

inductive Operation where
  | update
  | setPresent (present : Fixed)
  | setTarget (target : Fixed)
  | setIncrease (perSecond : Single)
  | setDecrease (perSecond : Single)
deriving DecidableEq

def Operation.rate? : Operation → Option Single
  | .setIncrease perSecond => some perSecond
  | .setDecrease perSecond => some perSecond
  | _ => none

def Operation.Forward (operation : Operation) : Prop := ∀ perSecond ∈ operation.rate?, perSecond.NonNegative

instance (operation : Operation) : Decidable operation.Forward := inferInstanceAs (Decidable (∀ _ ∈ _, _))

/-- No rate that it sets is negative. A fault sets none, and a number just below zero sets zero. -/
def Operation.KeepsForward (operation : Operation) : Prop :=
  ∀ perSecond ∈ operation.rate?, ∀ rate ∈ (Fixed.ofSingle perSecond).toOption, 0 ≤ rate.raw

instance (operation : Operation) : Decidable operation.KeepsForward :=
  inferInstanceAs (Decidable (∀ _ ∈ _, ∀ _ ∈ _, _))

theorem Operation.Forward.keepsForward {operation : Operation} (h : operation.Forward) : operation.KeepsForward := by
  intro perSecond hperSecond rate hrate
  obtain ⟨rate', hrate', hnonneg⟩ := Fixed.ofSingle_of_nonNegative (h perSecond hperSecond)
  rw [hrate'] at hrate
  cases hrate
  exact hnonneg

def perform (r : Ramp) : Operation → Ramp
  | .update => r.update
  | .setPresent present => { r with present }
  | .setTarget target => { r with target }
  | .setIncrease perSecond => (r.setIncrease perSecond).toOption.getD r
  | .setDecrease perSecond => (r.setDecrease perSecond).toOption.getD r

def run (r : Ramp) (operations : List Operation) : Ramp := operations.foldl perform r

variable {r : Ramp} {tickMs : UInt16}

def atRest (tickMs : UInt16) (increase decrease : Fixed) : Ramp where
  present := Fixed.zero
  target := Fixed.zero
  increase
  decrease
  tick := Fixed.wrap (tickMs.toNat * 65536 / 1000)
  tickMs

theorem value_start {increase decrease : Single} {up down : Fixed} (short : tickMs.toNat < 32768)
    (hup : Fixed.ofSingle increase = .ok up) (hdown : Fixed.ofSingle decrease = .ok down) :
    (start tickMs increase decrease).value = .ok (atRest tickMs up down) := by
  have hshort : ¬ 32768 ≤ tickMs.toNat := Nat.not_le_of_lt short
  simp [start, hshort, hup, hdown, bind, Except.bind, pure, Except.pure, atRest]

/-- Rates that are not negative, and a tick of the length in milliseconds. -/
structure Geared (tickMs : UInt16) (r : Ramp) : Prop where
  tick : r.tick.raw = tickMs.toNat * 65536 / 1000
  increase : 0 ≤ r.increase.raw
  decrease : 0 ≤ r.decrease.raw

theorem geared_atRest {up down : Fixed} (short : tickMs.toNat < 32768) (hup : 0 ≤ up.raw) (hdown : 0 ≤ down.raw) :
    (atRest tickMs up down).Geared tickMs :=
  ⟨Fixed.raw_wrap (by omega) (by omega), hup, hdown⟩

theorem Geared.perform_of_keepsForward (h : r.Geared tickMs) {operation : Operation}
    (hkeeps : operation.KeepsForward) : (r.perform operation).Geared tickMs := by
  cases operation with
  | update => exact ⟨r.tick_update ▸ h.tick, r.increase_update ▸ h.increase, r.decrease_update ▸ h.decrease⟩
  | setPresent present => exact ⟨h.tick, h.increase, h.decrease⟩
  | setTarget target => exact ⟨h.tick, h.increase, h.decrease⟩
  | setIncrease perSecond =>
    rw [Ramp.perform, setIncrease]
    cases hrate : Fixed.ofSingle perSecond with
    | error fault => exact h
    | ok rate => exact ⟨h.tick, hkeeps perSecond rfl rate (by rw [hrate]; rfl), h.decrease⟩
  | setDecrease perSecond =>
    rw [Ramp.perform, setDecrease]
    cases hrate : Fixed.ofSingle perSecond with
    | error fault => exact h
    | ok rate => exact ⟨h.tick, h.increase, hkeeps perSecond rfl rate (by rw [hrate]; rfl)⟩

theorem Geared.perform (h : r.Geared tickMs) {operation : Operation} (hforward : operation.Forward) :
    (r.perform operation).Geared tickMs :=
  h.perform_of_keepsForward hforward.keepsForward

theorem Geared.run (h : r.Geared tickMs) {operations : List Operation} (hforward : ∀ o ∈ operations, o.Forward) :
    (r.run operations).Geared tickMs := by
  induction operations generalizing r with
  | nil => exact h
  | cons o rest ih =>
    have hfirst := h.perform (hforward o List.mem_cons_self)
    exact ih hfirst fun later hlater => hforward later (List.mem_cons_of_mem o hlater)

theorem Geared.rate_nonneg (h : r.Geared tickMs) : 0 ≤ r.rate.raw := by
  rcases r.rate_cases with hrate | hrate | hrate <;> rw [hrate]
  · exact Int.le_refl 0
  · exact h.increase
  · exact h.decrease

end ControlLoop.Ramp
