import ControlLoop.Proofs.Filter.Smoothing

/-!
# The two parts of a signal

A low filter and a high filter with one factor and one start have the same low part, whatever is done to both of them
alike. Their answers to an input are the two parts that it is split into, and add up to it again: always modulo
`2 ^ 32`, and as numbers where the difference of the input and its low part is in range.
-/

namespace ControlLoop.FirstOrder

set_option autoImplicit false

variable {f g : FirstOrder} {x : Fixed}

/-- What is done to a filter after its start. -/
inductive Call where
  | step (input : Fixed)
  | reset (value : Fixed)
deriving DecidableEq

def perform (f : FirstOrder) : Call → FirstOrder
  | .step input => f.step input
  | .reset value => f.reset value

def performAll (f : FirstOrder) (calls : List Call) : FirstOrder := calls.foldl perform f

/-- A low filter and a high filter with the same factor and the same low part. -/
structure Splits (f g : FirstOrder) : Prop where
  left : f.pass = .low
  right : g.pass = .high
  factor : f.factor = g.factor
  low : f.low = g.low

theorem splits_start (factor initial : Fixed) : Splits (start .low factor initial) (start .high factor initial) :=
  ⟨rfl, rfl, rfl, rfl⟩

theorem Splits.step (h : Splits f g) (x : Fixed) : Splits (f.step x) (g.step x) := by
  refine ⟨h.left, h.right, h.factor, ?_⟩
  change f.low + (x - f.low).mul f.factor = g.low + (x - g.low).mul g.factor
  rw [h.low, h.factor]

theorem Splits.perform (h : Splits f g) (call : Call) : Splits (f.perform call) (g.perform call) := by
  cases call with
  | step input => exact h.step input
  | reset value => exact ⟨h.left, h.right, h.factor, rfl⟩

theorem Splits.performAll (h : Splits f g) (calls : List Call) : Splits (f.performAll calls) (g.performAll calls) := by
  induction calls generalizing f g with
  | nil => exact h
  | cons call rest ih => exact ih (h.perform call)

/-- The high part is the difference of the input and the low answer. -/
theorem Splits.high_output (h : Splits f g) (x : Fixed) : (g.step x).output = x - (f.step x).output := by
  rw [output_step_of_high h.right, output_step_of_low h.left, (h.step x).low]

theorem Splits.output_add (h : Splits f g) (x : Fixed) : (f.step x).output + (g.step x).output = x := by
  rw [h.high_output]
  exact Fixed.add_difference _ x

theorem Splits.raw_output_add (h : Splits f g) (near : |(f.step x).output.raw - x.raw| < 2147483648) :
    (f.step x).output.raw + (g.step x).output.raw = x.raw := by
  obtain ⟨hbelow, habove⟩ := abs_lt.mp near
  have hdifference : (x - (f.step x).output).raw = x.raw - (f.step x).output.raw := by
    rw [Fixed.sub_def]
    apply Fixed.raw_wrap <;> omega
  rw [h.high_output, hdifference]
  omega

/-- After the same calls a low and a high filter have the same low part, and their answers to the next input add up to
it. The factor may be any number, stable or not. -/
theorem parts_add_up (factor initial : Fixed) (calls : List Call) :
    let low := (start .low factor initial).performAll calls
    let high := (start .high factor initial).performAll calls
    low.low = high.low ∧ ∀ input : Fixed, (low.step input).output + (high.step input).output = input ∧
      (|(low.step input).output.raw - input.raw| < 2147483648 →
        (low.step input).output.raw + (high.step input).output.raw = input.raw) := by
  intro low high
  have h : Splits low high := (splits_start factor initial).performAll calls
  refine ⟨h.low, ?_⟩
  intro input
  exact ⟨h.output_add input, h.raw_output_add⟩

/-- Calls that drive an unstable filter across the whole range. -/
def upheaval : List Call :=
  [.step (Fixed.wrap 2147483647), .reset (Fixed.wrap (-2147483648)), .step (Fixed.wrap 2147483647)]

theorem parts_add_up_despite_wrapping :
    |(((start .low (Fixed.wrap 196608) (Fixed.wrap (-5))).performAll upheaval).step (Fixed.wrap 7)).output.raw - 7| <
      2147483648 ∧
    (((start .low (Fixed.wrap 196608) (Fixed.wrap (-5))).performAll upheaval).step (Fixed.wrap 7)).output.raw +
      (((start .high (Fixed.wrap 196608) (Fixed.wrap (-5))).performAll upheaval).step (Fixed.wrap 7)).output.raw = 7 := by
  obtain ⟨_, hparts⟩ := parts_add_up (Fixed.wrap 196608) (Fixed.wrap (-5)) upheaval
  have hnear : |(((start .low (Fixed.wrap 196608) (Fixed.wrap (-5))).performAll upheaval).step
      (Fixed.wrap 7)).output.raw - 7| < 2147483648 := by decide
  exact ⟨hnear, (hparts (Fixed.wrap 7)).2 hnear⟩

end ControlLoop.FirstOrder
