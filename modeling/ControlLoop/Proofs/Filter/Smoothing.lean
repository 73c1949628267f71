import ControlLoop.Filter.FirstOrder
import ControlLoop.Proofs.Fixed
import Mathlib.Algebra.Order.Field.Rat
import Mathlib.Tactic.FieldSimp
import Mathlib.Tactic.Linarith
import Mathlib.Tactic.Ring

/-!
# Smoothing

The low part of a first order filter stays within any interval that holds its start and its inputs, so that a narrow
interval rules out all wrapping. It follows the exact exponential smoothing of the inputs from below: every step
rounds down by less than one unit, and the contraction of a step pays for it once the distance is the reciprocal of
the smoothing factor.
-/

namespace ControlLoop

set_option autoImplicit false

namespace FirstOrder

def run (f : FirstOrder) (inputs : List Fixed) : FirstOrder := inputs.foldl step f

/-- One step of exact exponential smoothing of raw values by the raw factor `t`. -/
def smooth (t : Int) (y : ℚ) (x : Fixed) : ℚ := y + (x.raw - y) * t / 65536

def smoothed (t : Int) (y : ℚ) (inputs : List Fixed) : ℚ := inputs.foldl (smooth t) y

/-- No operation on the way to the low part wraps; only the product is rounded, downwards. -/
structure Unwrapped (f : FirstOrder) (x : Fixed) : Prop where
  difference : (x - f.low).raw = x.raw - f.low.raw
  product : ((x - f.low).mul f.factor).raw = (x - f.low).raw * f.factor.raw / 65536
  sum : (f.step x).low.raw = f.low.raw + ((x - f.low).mul f.factor).raw

variable {f : FirstOrder} {x : Fixed} {lo hi : Int}

@[simp] theorem factor_step (f : FirstOrder) (x : Fixed) : (f.step x).factor = f.factor := rfl

@[simp] theorem pass_step (f : FirstOrder) (x : Fixed) : (f.step x).pass = f.pass := rfl

theorem output_step_of_low (hpass : f.pass = .low) (x : Fixed) : (f.step x).output = (f.step x).low := by
  simp only [step, hpass]

theorem output_step_of_high (hpass : f.pass = .high) (x : Fixed) : (f.step x).output = x - (f.step x).low := by
  simp only [step, hpass]

@[simp] theorem factor_run (f : FirstOrder) (inputs : List Fixed) : (f.run inputs).factor = f.factor := by
  induction inputs generalizing f with
  | nil => rfl
  | cons x rest ih => exact (ih (f.step x)).trans (factor_step f x)

theorem unwrapped_of_near (nonneg : 0 ≤ f.factor.raw) (atMostOne : f.factor.raw ≤ 65536)
    (above : x.raw - f.low.raw < 2147483648) (below : f.low.raw - x.raw < 2147483648) : f.Unwrapped x := by
  have hx := x.lower
  have hx' := x.upper
  have hl := f.low.lower
  have hl' := f.low.upper
  have hdifference : (x - f.low).raw = x.raw - f.low.raw := Fixed.raw_wrap (by omega) (by omega)
  obtain ⟨hlow, hhigh⟩ := Fixed.scaled_between (d := (x - f.low).raw) nonneg atMostOne
  have hproduct : ((x - f.low).mul f.factor).raw = (x - f.low).raw * f.factor.raw / 65536 :=
    Fixed.raw_wrap (by omega) (by omega)
  exact ⟨hdifference, hproduct, Fixed.raw_wrap (by omega) (by omega)⟩

theorem low_step (h : f.Unwrapped x) :
    (f.step x).low.raw = f.low.raw + (x.raw - f.low.raw) * f.factor.raw / 65536 := by
  rw [h.sum, h.product, h.difference]

/-- The low part moves towards the input and not past it. -/
theorem low_step_between (nonneg : 0 ≤ f.factor.raw) (atMostOne : f.factor.raw ≤ 65536) (h : f.Unwrapped x) :
    min f.low.raw x.raw ≤ (f.step x).low.raw ∧ (f.step x).low.raw ≤ max f.low.raw x.raw := by
  have hbetween := Fixed.scaled_between (d := x.raw - f.low.raw) nonneg atMostOne
  rw [low_step h]
  omega

/-- The factor lies between zero and one, and the low part in an interval too narrow for a difference to wrap. -/
structure Confined (lo hi : Int) (f : FirstOrder) : Prop where
  nonneg : 0 ≤ f.factor.raw
  atMostOne : f.factor.raw ≤ 65536
  narrow : hi - lo < 2147483648
  low : f.low.Within lo hi

theorem Confined.unwrapped (h : f.Confined lo hi) (hx : x.Within lo hi) : f.Unwrapped x := by
  obtain ⟨hlow, hlow'⟩ := h.low
  obtain ⟨hx, hx'⟩ := hx
  have hnarrow := h.narrow
  exact unwrapped_of_near h.nonneg h.atMostOne (by omega) (by omega)

theorem Confined.step (h : f.Confined lo hi) (hx : x.Within lo hi) : (f.step x).Confined lo hi := by
  obtain ⟨hmin, hmax⟩ := low_step_between h.nonneg h.atMostOne (h.unwrapped hx)
  obtain ⟨hlow, hlow'⟩ := h.low
  obtain ⟨hx, hx'⟩ := hx
  exact ⟨h.nonneg, h.atMostOne, h.narrow, by omega, by omega⟩

theorem Confined.run (h : f.Confined lo hi) {inputs : List Fixed} (hinputs : ∀ x ∈ inputs, x.Within lo hi) :
    (f.run inputs).Confined lo hi := by
  induction inputs generalizing f with
  | nil => exact h
  | cons x rest ih =>
    exact ih (h.step (hinputs x List.mem_cons_self)) fun z hz => hinputs z (List.mem_cons_of_mem x hz)

/-- The distance of the exact value from the low part after a step: what the contraction leaves of the old distance,
and the part of a unit that the product has lost. -/
theorem lag_step (h : f.Unwrapped x) (y : ℚ) :
    smooth f.factor.raw y x - (f.step x).low.raw = (y - f.low.raw) * (1 - f.factor.raw / 65536) +
      ((x.raw - f.low.raw) * f.factor.raw % 65536 : Int) / 65536 := by
  have hdiv := Int.mul_ediv_add_emod ((x.raw - f.low.raw) * f.factor.raw) 65536
  have hcast := congrArg (fun n : Int => (n : ℚ)) hdiv
  rw [low_step h, smooth]
  push_cast at hcast ⊢
  linarith

/-- The exact value is at or above the low part, by less than the reciprocal of the factor. -/
def Trails (f : FirstOrder) (y : ℚ) : Prop := 0 ≤ y - f.low.raw ∧ y - f.low.raw < 65536 / f.factor.raw

theorem trails_step (h : f.Confined lo hi) (positive : 1 ≤ f.factor.raw) (hx : x.Within lo hi) {y : ℚ}
    (htrails : f.Trails y) : (f.step x).Trails (smooth f.factor.raw y x) := by
  obtain ⟨hlow, hhigh⟩ := htrails
  have hpositive : (0 : ℚ) < f.factor.raw := by exact_mod_cast positive
  have hcontract : (0 : ℚ) ≤ 1 - f.factor.raw / 65536 := by
    have hone : (f.factor.raw : ℚ) ≤ 65536 := by exact_mod_cast h.atMostOne
    linarith
  have hlost : (0 : ℚ) ≤ ((x.raw - f.low.raw) * f.factor.raw % 65536 : Int) := by
    exact_mod_cast Int.emod_nonneg _ (by omega)
  have hunit : (((x.raw - f.low.raw) * f.factor.raw % 65536 : Int) : ℚ) < 65536 := by
    exact_mod_cast Int.emod_lt_of_pos _ (by omega)
  unfold Trails
  rw [lag_step (h.unwrapped hx), factor_step]
  constructor
  · have hleft := mul_nonneg hlow hcontract
    linarith
  · have hleft := mul_le_mul_of_nonneg_right (le_of_lt hhigh) hcontract
    have hfixed : 65536 / (f.factor.raw : ℚ) * (1 - f.factor.raw / 65536) = 65536 / f.factor.raw - 1 := by
      field_simp
    linarith

theorem trails_run (h : f.Confined lo hi) (positive : 1 ≤ f.factor.raw) {inputs : List Fixed}
    (hinputs : ∀ x ∈ inputs, x.Within lo hi) {y : ℚ} (htrails : f.Trails y) :
    (f.run inputs).Trails (smoothed f.factor.raw y inputs) := by
  induction inputs generalizing f y with
  | nil => exact htrails
  | cons x rest ih =>
    have hx := hinputs x List.mem_cons_self
    have hrest : ∀ z ∈ rest, z.Within lo hi := fun z hz => hinputs z (List.mem_cons_of_mem x hz)
    exact ih (h.step hx) positive hrest (trails_step h positive hx htrails)

theorem trails_self (positive : 1 ≤ f.factor.raw) : f.Trails f.low.raw := by
  have hpositive : (0 : ℚ) < f.factor.raw := by exact_mod_cast positive
  refine ⟨by rw [sub_self], ?_⟩
  rw [sub_self]
  exact div_pos (by norm_num) hpositive

/-- The low part of a run never wraps, and its rounding errors never add up to the reciprocal of the factor. -/
theorem low_tracks_smoothing (f : FirstOrder) (inputs : List Fixed) (lo hi : Int)
    (positive : 1 ≤ f.factor.raw) (atMostOne : f.factor.raw ≤ 65536) (narrow : hi - lo < 2147483648)
    (hstart : f.low.Within lo hi) (hinputs : ∀ x ∈ inputs, x.Within lo hi) :
    (∀ before, before <+: inputs → (f.run before).low.Within lo hi ∧
      0 ≤ smoothed f.factor.raw f.low.raw before - (f.run before).low.raw ∧
      smoothed f.factor.raw f.low.raw before - (f.run before).low.raw < 65536 / f.factor.raw) ∧
    ∀ before x, before ++ [x] <+: inputs → (f.run before).Unwrapped x := by
  have hconfined : f.Confined lo hi := ⟨by omega, atMostOne, narrow, hstart⟩
  have hbefore : ∀ before, before <+: inputs → ∀ z ∈ before, z.Within lo hi :=
    fun before hle z hz => hinputs z (hle.subset hz)
  constructor
  · intro before hle
    have htrails := trails_run hconfined positive (hbefore before hle) (trails_self positive)
    unfold Trails at htrails
    rw [factor_run] at htrails
    exact ⟨(hconfined.run (hbefore before hle)).low, htrails⟩
  · intro before x hle
    have hx : x.Within lo hi := hbefore _ hle x (List.mem_append_right before List.mem_cons_self)
    have hle' : before <+: inputs := (List.prefix_append before [x]).trans hle
    exact (hconfined.run (hbefore before hle')).unwrapped hx

theorem low_tracks_smoothing_full_swing :
    ((1 : Int) ≤ 21845 ∧ (21845 : Int) ≤ 65536 ∧ (2147483644 : Int) - -3 < 2147483648 ∧
      ∀ x ∈ [Fixed.wrap 2147483644, Fixed.wrap (-3)], x.Within (-3) 2147483644) ∧
    0 ≤ smoothed 21845 (-3 : Int) [Fixed.wrap 2147483644, Fixed.wrap (-3)] -
      ((start .high (Fixed.wrap 21845) (Fixed.wrap (-3))).run [Fixed.wrap 2147483644, Fixed.wrap (-3)]).low.raw ∧
    smoothed 21845 (-3 : Int) [Fixed.wrap 2147483644, Fixed.wrap (-3)] -
      ((start .high (Fixed.wrap 21845) (Fixed.wrap (-3))).run [Fixed.wrap 2147483644, Fixed.wrap (-3)]).low.raw <
      65536 / (21845 : Int) :=
  ⟨by decide, ((low_tracks_smoothing (start .high (Fixed.wrap 21845) (Fixed.wrap (-3)))
    [Fixed.wrap 2147483644, Fixed.wrap (-3)] (-3) 2147483644 (by decide) (by decide) (by decide) (by decide)
    (by decide)).1 _ (List.prefix_refl _)).2⟩

end FirstOrder

end ControlLoop
