import ControlLoop.Proofs.Filter.Smoothing
import Mathlib.Data.Nat.Find

/-!
# Settling under a constant input

While the input is held, the low part moves towards it until the factor makes less than a unit of the distance. Products
are rounded downwards, so from above every step takes at least one unit and the low part comes to the input itself.
From below it stalls short of the input, by less than the reciprocal of the factor.
-/

namespace ControlLoop.FirstOrder

set_option autoImplicit false

variable {f : FirstOrder} {x : Fixed} {k n : Nat}

/-- The filter after `n` inputs of `x`. -/
def hold (f : FirstOrder) (x : Fixed) (n : Nat) : FirstOrder := f.run (List.replicate n x)

theorem hold_succ (f : FirstOrder) (x : Fixed) (n : Nat) : f.hold x (n + 1) = (f.step x).hold x n := rfl

theorem hold_add (f : FirstOrder) (x : Fixed) (m n : Nat) : f.hold x (m + n) = (f.hold x m).hold x n := by
  rw [hold, List.replicate_add, run, List.foldl_append]
  rfl

@[simp] theorem factor_hold (f : FirstOrder) (x : Fixed) (n : Nat) : (f.hold x n).factor = f.factor := factor_run f _

@[simp] theorem pass_hold (f : FirstOrder) (x : Fixed) (n : Nat) : (f.hold x n).pass = f.pass := by
  induction n generalizing f with
  | zero => rfl
  | succ n ih => exact (ih (f.step x)).trans (pass_step f x)

def distance (f : FirstOrder) (x : Fixed) : Nat := (x.raw - f.low.raw).natAbs

/-- The low part is not above the input, and the factor makes less than a unit of their distance. -/
def Stalls (f : FirstOrder) (x : Fixed) : Prop := f.low ≤ x ∧ (x.raw - f.low.raw) * f.factor.raw < 65536

instance (f : FirstOrder) (x : Fixed) : Decidable (f.Stalls x) := inferInstanceAs (Decidable (_ ∧ _))

theorem Stalls.congr {g : FirstOrder} (h : f.Stalls x) (hlow : g.low = f.low) (hfactor : g.factor = f.factor) :
    g.Stalls x := by
  rw [Stalls, hlow, hfactor]
  exact h

/-- The factor is positive and at most one, and the input so near that no operation wraps. -/
structure Drawn (f : FirstOrder) (x : Fixed) : Prop where
  positive : 1 ≤ f.factor.raw
  atMostOne : f.factor.raw ≤ 65536
  near : f.distance x < 2147483648

theorem Drawn.unwrapped (h : f.Drawn x) : f.Unwrapped x := by
  have hnear := h.near
  unfold distance at hnear
  exact unwrapped_of_near (Int.le_trans (by decide) h.positive) h.atMostOne (by omega) (by omega)

theorem Drawn.between (h : f.Drawn x) :
    min f.low.raw x.raw ≤ (f.step x).low.raw ∧ (f.step x).low.raw ≤ max f.low.raw x.raw :=
  low_step_between (Int.le_trans (by decide) h.positive) h.atMostOne h.unwrapped

theorem Drawn.step (h : f.Drawn x) : (f.step x).Drawn x := by
  refine ⟨h.positive, h.atMostOne, Nat.lt_of_le_of_lt ?_ h.near⟩
  have hbetween := h.between
  unfold distance
  omega

theorem Drawn.hold (h : f.Drawn x) (n : Nat) : (f.hold x n).Drawn x := by
  induction n generalizing f with
  | zero => exact h
  | succ n ih => exact ih h.step

theorem Drawn.rises (h : f.Drawn x) (hle : f.low ≤ x) : f.low ≤ (f.step x).low ∧ (f.step x).low ≤ x := by
  have hbetween := h.between
  simp only [Fixed.le_def] at hle ⊢
  omega

theorem Drawn.falls (h : f.Drawn x) (hle : x ≤ f.low) : x ≤ (f.step x).low ∧ (f.step x).low ≤ f.low := by
  have hbetween := h.between
  simp only [Fixed.le_def] at hle ⊢
  omega

theorem Drawn.stays_below (h : f.Drawn x) (hle : f.low ≤ x) (n : Nat) : (f.hold x n).low ≤ x := by
  induction n generalizing f with
  | zero => exact hle
  | succ n ih => exact ih h.step (h.rises hle).2

theorem Drawn.stays_above (h : f.Drawn x) (hle : x ≤ f.low) (n : Nat) : x ≤ (f.hold x n).low := by
  induction n generalizing f with
  | zero => exact hle
  | succ n ih => exact ih h.step (h.falls hle).1

theorem Drawn.low_step_eq_iff (h : f.Drawn x) : (f.step x).low = f.low ↔ f.Stalls x := by
  have hstep := low_step h.unwrapped
  rw [Fixed.ext_iff, Stalls, Fixed.le_def]
  rcases Int.lt_or_le x.raw f.low.raw with habove | hbelow
  · have hproduct : (x.raw - f.low.raw) * f.factor.raw < 0 :=
      Int.mul_neg_of_neg_of_pos (by omega) (Int.lt_of_lt_of_le (by decide) h.positive)
    omega
  · have hproduct : 0 ≤ (x.raw - f.low.raw) * f.factor.raw :=
      Int.mul_nonneg (by omega) (Int.le_trans (by decide) h.positive)
    omega

theorem Drawn.distance_step (h : f.Drawn x) (moves : ¬ f.Stalls x) : (f.step x).distance x + 1 ≤ f.distance x := by
  have hbetween := h.between
  rw [← h.low_step_eq_iff, Fixed.ext_iff] at moves
  unfold distance
  omega

theorem Drawn.low_hold_of_stalls (h : f.Drawn x) (hstalls : f.Stalls x) (n : Nat) : (f.hold x n).low = f.low := by
  induction n generalizing f with
  | zero => rfl
  | succ n ih =>
    have hsame := h.low_step_eq_iff.mpr hstalls
    rw [hold_succ, ih h.step (hstalls.congr hsame rfl), hsame]

theorem Drawn.stalls_of_le (h : f.Drawn x) (hlong : f.distance x ≤ n) : (f.hold x n).Stalls x := by
  -- As long as the low part does not stall every step brings it nearer by a unit.
  induction n generalizing f with
  | zero =>
    have hzero : x.raw - f.low.raw = 0 := Int.natAbs_eq_zero.mp (Nat.le_zero.mp hlong)
    refine ⟨by rw [Fixed.le_def]; exact Int.le_of_eq (Int.sub_eq_zero.mp hzero).symm, ?_⟩
    change (x.raw - f.low.raw) * f.factor.raw < 65536
    rw [hzero, Int.zero_mul]
    decide
  | succ n ih =>
    by_cases hstalls : f.Stalls x
    · exact hstalls.congr (h.low_hold_of_stalls hstalls _) (factor_hold f x _)
    · have hnearer := h.distance_step hstalls
      exact ih h.step (by omega)

theorem Drawn.low_hold_eq (h : f.Drawn x) (hstalls : (f.hold x k).Stalls x) (hle : k ≤ n) :
    (f.hold x n).low = (f.hold x k).low := by
  rw [← Nat.add_sub_cancel' hle, hold_add]
  exact (h.hold k).low_hold_of_stalls hstalls _

theorem Drawn.low_hold_of_above (h : f.Drawn x) (habove : x ≤ f.low) (hlong : f.distance x ≤ n) :
    (f.hold x n).low = x := by
  obtain ⟨hle, _⟩ := h.stalls_of_le hlong
  exact Fixed.ext (Int.le_antisymm hle (h.stays_above habove n))

theorem output_hold_of_high (hpass : f.pass = .high) (x : Fixed) (n : Nat) :
    (f.hold x (n + 1)).output = x - (f.hold x (n + 1)).low := by
  have hheld : (f.hold x n).pass = .high := by rw [pass_hold, hpass]
  rw [hold_add]
  exact output_step_of_high hheld x

theorem Drawn.high_settles (h : f.Drawn x) (hpass : f.pass = .high) :
    ∃ rest : Fixed, 0 ≤ rest.raw ∧ rest.raw * f.factor.raw < 65536 ∧ (x ≤ f.low → rest = Fixed.zero) ∧
      ∀ n ≥ f.distance x, (f.hold x (n + 1)).output = rest := by
  have hstalls : (f.hold x (f.distance x)).Stalls x := h.stalls_of_le (Nat.le_refl _)
  have hrest : (x - (f.hold x (f.distance x)).low).raw = x.raw - (f.hold x (f.distance x)).low.raw :=
    (h.hold _).unwrapped.difference
  refine ⟨x - (f.hold x (f.distance x)).low, ?_, ?_, ?_, ?_⟩
  · have hbelow := hstalls.1
    rw [Fixed.le_def] at hbelow
    omega
  · rw [hrest, ← factor_hold f x (f.distance x)]
    exact hstalls.2
  · intro habove
    apply Fixed.ext
    rw [hrest, h.low_hold_of_above habove (Nat.le_refl _), Int.sub_self, Fixed.raw_zero]
  · intro n hlong
    rw [output_hold_of_high hpass, h.low_hold_eq hstalls (Nat.le_succ_of_le hlong)]

/-- A constant input draws the low part towards itself and not past it, and after as many steps as their distance has
units the low part rests: at the input if it came from above, and at the first value at which it stalls if it came from
below. The high part rests at what is left between them. -/
theorem settles (f : FirstOrder) (x : Fixed) (positive : 1 ≤ f.factor.raw) (atMostOne : f.factor.raw ≤ 65536)
    (near : f.distance x < 2147483648) :
    (f.low ≤ x → ∀ n, (f.hold x n).low ≤ (f.hold x (n + 1)).low ∧ (f.hold x (n + 1)).low ≤ x) ∧
    (x ≤ f.low → ∀ n, x ≤ (f.hold x (n + 1)).low ∧ (f.hold x (n + 1)).low ≤ (f.hold x n).low) ∧
    (∃ k ≤ f.distance x, (∀ j < k, ¬ (f.hold x j).Stalls x) ∧ (f.hold x k).Stalls x ∧
      ∀ n ≥ k, (f.hold x n).low = (f.hold x k).low) ∧
    (x ≤ f.low → ∀ n ≥ f.distance x, (f.hold x n).low = x) ∧
    (f.pass = .high → ∃ rest : Fixed, 0 ≤ rest.raw ∧ rest.raw * f.factor.raw < 65536 ∧
      (x ≤ f.low → rest = Fixed.zero) ∧ ∀ n ≥ f.distance x, (f.hold x (n + 1)).output = rest) := by
  have h : f.Drawn x := ⟨positive, atMostOne, near⟩
  have hstep (n : Nat) : f.hold x (n + 1) = (f.hold x n).step x := hold_add f x n 1
  refine ⟨?_, ?_, ?_, fun habove n hlong => h.low_hold_of_above habove hlong, h.high_settles⟩
  · intro hle n
    rw [hstep]
    exact (h.hold n).rises (h.stays_below hle n)
  · intro hle n
    rw [hstep]
    exact (h.hold n).falls (h.stays_above hle n)
  · have hexists : ∃ k, (f.hold x k).Stalls x := ⟨f.distance x, h.stalls_of_le (Nat.le_refl _)⟩
    refine ⟨Nat.find hexists, Nat.find_min' hexists (h.stalls_of_le (Nat.le_refl _)), ?_, Nat.find_spec hexists, ?_⟩
    · exact fun j hj => Nat.find_min hexists hj
    · exact fun n hn => h.low_hold_eq (Nat.find_spec hexists) hn

/-- From below the low part stalls three units short of the input, and from above it comes to it across zero. -/
theorem settles_from_both_sides :
    ((1 : Int) ≤ 20000 ∧ (20000 : Int) ≤ 65536 ∧
      (start .high (Fixed.wrap 20000) (Fixed.wrap (-3))).distance (Fixed.wrap 7) = 10 ∧
      (start .high (Fixed.wrap 20000) (Fixed.wrap 9)).distance (Fixed.wrap (-3)) = 12) ∧
    (∀ n ≥ 10, ((start .high (Fixed.wrap 20000) (Fixed.wrap (-3))).hold (Fixed.wrap 7) (n + 1)).output.raw = 3) ∧
    ∀ n ≥ 12, ((start .high (Fixed.wrap 20000) (Fixed.wrap 9)).hold (Fixed.wrap (-3)) (n + 1)).output.raw = 0 := by
  have hbelow : (start .high (Fixed.wrap 20000) (Fixed.wrap (-3))).distance (Fixed.wrap 7) = 10 := by decide
  have habove : (start .high (Fixed.wrap 20000) (Fixed.wrap 9)).distance (Fixed.wrap (-3)) = 12 := by decide
  obtain ⟨_, _, _, _, hfirst⟩ := settles (start .high (Fixed.wrap 20000) (Fixed.wrap (-3))) (Fixed.wrap 7)
    (by decide) (by decide) (by decide)
  obtain ⟨_, _, _, _, hsecond⟩ := settles (start .high (Fixed.wrap 20000) (Fixed.wrap 9)) (Fixed.wrap (-3))
    (by decide) (by decide) (by decide)
  obtain ⟨rest, _, _, _, houtput⟩ := hfirst rfl
  obtain ⟨rest', _, _, hzero, houtput'⟩ := hsecond rfl
  refine ⟨⟨by decide, by decide, hbelow, habove⟩, ?_, ?_⟩
  · intro n hn
    rw [houtput n (hbelow ▸ hn), ← houtput 10 (Nat.le_of_eq hbelow)]
    decide
  · intro n hn
    rw [houtput' n (habove ▸ hn), hzero (by decide)]
    rfl

end ControlLoop.FirstOrder
