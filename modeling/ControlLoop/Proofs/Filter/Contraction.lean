import ControlLoop.Proofs.Filter.Smoothing
import Mathlib.Data.List.Forall2

/-!
# Two filters side by side

Two filters with one smoothing factor keep the order of their low parts, as long as their inputs are in that order too.
Under common inputs the gap between the low parts never grows. A gap that the factor still turns into a whole unit
shrinks at every step, so the two starts are forgotten up to the reciprocal of the factor.
-/

namespace ControlLoop.FirstOrder

set_option autoImplicit false

variable {f g : FirstOrder} {x y : Fixed} {lo hi : Int} {xs ys inputs : List Fixed}

/-- The mean of the low part and the input, weighted by the factor and rounded down. -/
theorem low_step_eq_mean (h : f.Unwrapped x) :
    (f.step x).low.raw = (f.low.raw * (65536 - f.factor.raw) + x.raw * f.factor.raw) / 65536 := by
  have hmean : f.low.raw * (65536 - f.factor.raw) + x.raw * f.factor.raw =
      (x.raw - f.low.raw) * f.factor.raw + f.low.raw * 65536 := by ring
  rw [low_step h, hmean, Int.add_mul_ediv_right _ _ (by decide), Int.add_comm]

/-- Two filters with one factor in one narrow interval. -/
structure Paired (lo hi : Int) (f g : FirstOrder) : Prop where
  left : f.Confined lo hi
  right : g.Confined lo hi
  factor : g.factor = f.factor

theorem Paired.symm (h : Paired lo hi f g) : Paired lo hi g f := ⟨h.right, h.left, h.factor.symm⟩

theorem Paired.step (h : Paired lo hi f g) (hx : x.Within lo hi) (hy : y.Within lo hi) :
    Paired lo hi (f.step x) (g.step y) :=
  ⟨h.left.step hx, h.right.step hy, h.factor⟩

theorem Paired.run (h : Paired lo hi f g) (hinputs : ∀ x ∈ inputs, x.Within lo hi) :
    Paired lo hi (f.run inputs) (g.run inputs) := by
  refine ⟨h.left.run hinputs, h.right.run hinputs, ?_⟩
  rw [factor_run, factor_run, h.factor]

theorem Paired.low_step_le (h : Paired lo hi f g) (hx : x.Within lo hi) (hy : y.Within lo hi) (hlow : f.low ≤ g.low)
    (hinput : x ≤ y) : (f.step x).low ≤ (g.step y).low := by
  have hkept : f.low.raw * (65536 - f.factor.raw) ≤ g.low.raw * (65536 - f.factor.raw) :=
    Int.mul_le_mul_of_nonneg_right hlow (Int.sub_nonneg.mpr h.left.atMostOne)
  have htaken : x.raw * f.factor.raw ≤ y.raw * f.factor.raw := Int.mul_le_mul_of_nonneg_right hinput h.left.nonneg
  rw [Fixed.le_def, low_step_eq_mean (h.left.unwrapped hx), low_step_eq_mean (h.right.unwrapped hy), h.factor]
  exact Int.ediv_le_ediv (by decide) (Int.add_le_add hkept htaken)

theorem Paired.low_run_le (h : Paired lo hi f g) (hordered : List.Forall₂ (· ≤ ·) xs ys)
    (hxs : ∀ x ∈ xs, x.Within lo hi) (hys : ∀ y ∈ ys, y.Within lo hi) (hlow : f.low ≤ g.low) :
    (f.run xs).low ≤ (g.run ys).low := by
  induction hordered generalizing f g with
  | nil => exact hlow
  | @cons x y xs ys hinput _ ih =>
    have hx := hxs x List.mem_cons_self
    have hy := hys y List.mem_cons_self
    exact ih (h.step hx hy) (fun z hz => hxs z (List.mem_cons_of_mem x hz))
      (fun z hz => hys z (List.mem_cons_of_mem y hz)) (h.low_step_le hx hy hlow hinput)

/-- The distance between the low parts, in raw units. -/
def gap (f g : FirstOrder) : Nat := (f.low.raw - g.low.raw).natAbs

theorem gap_comm (f g : FirstOrder) : gap f g = gap g f := by
  simp only [gap]
  omega

/-- A gap that the factor turns into less than one unit. -/
def Forgotten (f g : FirstOrder) : Prop := gap f g * f.factor.raw < 65536

instance (f g : FirstOrder) : Decidable (Forgotten f g) := inferInstanceAs (Decidable (_ < _))

/-- What one common input does to the gap. -/
structure Contracts (f g : FirstOrder) (x : Fixed) : Prop where
  le : gap (f.step x) (g.step x) ≤ gap f g
  lt : 65536 ≤ gap f g * f.factor.raw → gap (f.step x) (g.step x) + 1 ≤ gap f g

theorem Paired.contracts_of_le (h : Paired lo hi f g) (hx : x.Within lo hi) (hlow : f.low ≤ g.low) :
    Contracts f g x := by
  -- The lower one has the greater distance to the input, by just the gap.
  have hordered := h.low_step_le hx hx hlow (Int.le_refl x.raw)
  have hgap : (gap f g : Int) = g.low.raw - f.low.raw := by
    rw [Fixed.le_def] at hlow
    simp only [gap]
    omega
  have hdistance : (x.raw - f.low.raw) * f.factor.raw =
      (x.raw - g.low.raw) * f.factor.raw + gap f g * f.factor.raw := by
    rw [hgap]
    ring
  have hnonneg : 0 ≤ (gap f g : Int) * f.factor.raw := Int.mul_nonneg (Int.natCast_nonneg _) h.left.nonneg
  have hleft := low_step (h.left.unwrapped hx)
  have hright := low_step (h.right.unwrapped hx)
  rw [hdistance] at hleft
  rw [h.factor] at hright
  rw [Fixed.le_def] at hordered
  have hgap' : (gap (f.step x) (g.step x) : Int) = (g.step x).low.raw - (f.step x).low.raw := by
    simp only [gap]
    omega
  constructor <;> omega

theorem Paired.contracts (h : Paired lo hi f g) (hx : x.Within lo hi) : Contracts f g x := by
  rcases Int.le_total f.low.raw g.low.raw with hlow | hlow
  · exact h.contracts_of_le hx hlow
  · obtain ⟨hle, hlt⟩ := h.symm.contracts_of_le hx hlow
    rw [gap_comm g, gap_comm (g.step x), h.factor] at hlt
    rw [gap_comm g, gap_comm (g.step x)] at hle
    exact ⟨hle, hlt⟩

theorem Paired.forgotten_step (h : Paired lo hi f g) (hx : x.Within lo hi) (hforgotten : Forgotten f g) :
    Forgotten (f.step x) (g.step x) := by
  have hle : (gap (f.step x) (g.step x) : Int) ≤ gap f g := Int.ofNat_le.mpr (h.contracts hx).le
  exact Int.lt_of_le_of_lt (Int.mul_le_mul_of_nonneg_right hle h.left.nonneg) hforgotten

theorem Paired.forgotten_run (h : Paired lo hi f g) (hinputs : ∀ x ∈ inputs, x.Within lo hi)
    (hforgotten : Forgotten f g) : Forgotten (f.run inputs) (g.run inputs) := by
  induction inputs generalizing f g with
  | nil => exact hforgotten
  | cons x rest ih =>
    have hx := hinputs x List.mem_cons_self
    exact ih (h.step hx hx) (fun z hz => hinputs z (List.mem_cons_of_mem x hz)) (h.forgotten_step hx hforgotten)

theorem Paired.forgotten_of_length (h : Paired lo hi f g) (hinputs : ∀ x ∈ inputs, x.Within lo hi)
    (hlong : gap f g ≤ inputs.length) : Forgotten (f.run inputs) (g.run inputs) := by
  -- As long as the gap is not forgotten every input takes a unit of it away.
  induction inputs generalizing f g with
  | nil =>
    have hzero : gap f g = 0 := Nat.le_zero.mp hlong
    change Forgotten f g
    rw [Forgotten, hzero, Int.natCast_zero, Int.zero_mul]
    decide
  | cons x rest ih =>
    have hx := hinputs x List.mem_cons_self
    have hrest : ∀ z ∈ rest, z.Within lo hi := fun z hz => hinputs z (List.mem_cons_of_mem x hz)
    rcases lt_or_ge (gap f g * f.factor.raw) 65536 with hforgotten | hseen
    · exact h.forgotten_run hinputs hforgotten
    · have hshrinks := (h.contracts hx).lt hseen
      rw [List.length_cons] at hlong
      exact ih (h.step hx hx) hrest (by omega)

/-- The low parts keep their order under ordered inputs. Under common inputs their gap never grows, and after as many
steps as it has units the starts are forgotten for good. -/
theorem order_kept_start_forgotten (f g : FirstOrder) (lo hi : Int) (sameFactor : g.factor = f.factor)
    (nonneg : 0 ≤ f.factor.raw) (atMostOne : f.factor.raw ≤ 65536) (narrow : hi - lo < 2147483648)
    (hf : f.low.Within lo hi) (hg : g.low.Within lo hi) :
    (∀ xs ys, List.Forall₂ (· ≤ ·) xs ys → (∀ x ∈ xs, x.Within lo hi) → (∀ y ∈ ys, y.Within lo hi) →
      f.low ≤ g.low → ∀ n, (f.run (xs.take n)).low ≤ (g.run (ys.take n)).low) ∧
    ∀ inputs, (∀ x ∈ inputs, x.Within lo hi) →
      (∀ before x, before ++ [x] <+: inputs → Contracts (f.run before) (g.run before) x) ∧
      ∀ before, before <+: inputs → gap f g ≤ before.length → Forgotten (f.run before) (g.run before) := by
  have hright : g.Confined lo hi := by
    refine ⟨?_, ?_, narrow, hg⟩ <;> rwa [sameFactor]
  have h : Paired lo hi f g := ⟨⟨nonneg, atMostOne, narrow, hf⟩, hright, sameFactor⟩
  constructor
  · intro xs ys hordered hxs hys hlow n
    exact h.low_run_le (List.forall₂_take n hordered) (fun x hx => hxs x (List.mem_of_mem_take hx))
      (fun y hy => hys y (List.mem_of_mem_take hy)) hlow
  · intro inputs hinputs
    constructor
    · intro before x hle
      have hmem : ∀ z ∈ before ++ [x], z.Within lo hi := fun z hz => hinputs z (hle.subset hz)
      have hbefore := h.run fun z hz => hmem z (List.mem_append_left [x] hz)
      exact hbefore.contracts (hmem x (List.mem_append_right before List.mem_cons_self))
    · intro before hle hlong
      exact h.forgotten_of_length (fun z hz => hinputs z (hle.subset hz)) hlong

/-- Inputs from one end of an interval to the other, as wide as it may be. -/
def swing : List Fixed := [Fixed.wrap 2147483644, Fixed.wrap (-3), Fixed.wrap 2147483644, Fixed.zero]

theorem order_kept_start_forgotten_full_swing :
    ((0 : Int) ≤ 20000 ∧ (20000 : Int) ≤ 65536 ∧ (2147483644 : Int) - -3 < 2147483648 ∧
      (∀ x ∈ swing, x.Within (-3) 2147483644) ∧
      gap (start .low (Fixed.wrap 20000) (Fixed.wrap (-3))) (start .high (Fixed.wrap 20000) (Fixed.wrap 1)) = 4 ∧
      ¬ Forgotten (start .low (Fixed.wrap 20000) (Fixed.wrap (-3))) (start .high (Fixed.wrap 20000) (Fixed.wrap 1))) ∧
    ((start .low (Fixed.wrap 20000) (Fixed.wrap (-3))).run swing).low ≤
      ((start .high (Fixed.wrap 20000) (Fixed.wrap 1)).run swing).low ∧
    Forgotten ((start .low (Fixed.wrap 20000) (Fixed.wrap (-3))).run swing)
      ((start .high (Fixed.wrap 20000) (Fixed.wrap 1)).run swing) := by
  have hswing : ∀ x ∈ swing, x.Within (-3) 2147483644 := by decide
  have hgap : gap (start .low (Fixed.wrap 20000) (Fixed.wrap (-3)))
    (start .high (Fixed.wrap 20000) (Fixed.wrap 1)) = 4 := by decide
  have hsame : List.Forall₂ (· ≤ ·) swing swing := List.forall₂_same.mpr fun x _ => Int.le_refl x.raw
  obtain ⟨hordered, hcommon⟩ := order_kept_start_forgotten (start .low (Fixed.wrap 20000) (Fixed.wrap (-3)))
    (start .high (Fixed.wrap 20000) (Fixed.wrap 1)) (-3) 2147483644 rfl (by decide) (by decide) (by decide) (by decide)
    (by decide)
  refine ⟨⟨by decide, by decide, by decide, hswing, hgap, by decide⟩, ?_, ?_⟩
  · exact hordered swing swing hsame hswing hswing (by decide) 4
  · exact (hcommon swing hswing).2 swing (List.prefix_refl _) (Nat.le_of_eq hgap)

end ControlLoop.FirstOrder
