import ControlLoop.Proofs.Filter.Window
import Mathlib.Algebra.Order.BigOperators.Group.List

/-!
# Means in order

The mean of a window grows with its samples, and of a window of equal samples it is just that sample. So a mean lies
between the least and the greatest sample, to whichever side it was rounded, and two averages that are fed in order
answer in order. An average depends on its window alone: what has left the window is forgotten.
-/

namespace ControlLoop

set_option autoImplicit false

namespace Fixed

variable {l k : List Fixed} {n : Nat}

instance : Std.IsLinearOrder Fixed where
  le_refl a := Int.le_refl a.raw
  le_trans _ _ _ hab hbc := Int.le_trans hab hbc
  le_antisymm _ _ hab hba := Fixed.ext (Int.le_antisymm hab hba)
  le_total a b := Int.le_total a.raw b.raw

instance : Std.LawfulOrderMin Fixed where
  min_eq_or a b := ite_eq_or_eq (a ≤ b) a b
  le_min_iff a b c := by
    rw [le_def, raw_min]
    exact Int.le_min

instance : Std.LawfulOrderMax Fixed where
  max_eq_or a b := (ite_eq_or_eq (a ≤ b) b a).symm
  max_le_iff a b c := by
    rw [le_def, raw_max]
    exact Int.max_le

theorem replicate_mono {x y : Fixed} (hxy : x ≤ y) (n : Nat) :
    List.Forall₂ (· ≤ ·) (List.replicate n x) (List.replicate n y) := by
  have hle : ∀ b ∈ List.replicate n y, x ≤ b := by
    intro b hb
    rw [List.eq_of_mem_replicate hb]
    exact hxy
  have hordered := Lists.forall₂_replicate hle
  rwa [List.length_replicate] at hordered

theorem total_mono (h : List.Forall₂ (· ≤ ·) l k) : total l ≤ total k := by
  apply List.Forall₂.sum_le_sum
  rw [List.forall₂_map_left_iff, List.forall₂_map_right_iff]
  exact h

theorem mean_mono (positive : 0 < n) (h : List.Forall₂ (· ≤ ·) l k) : (total l).tdiv n ≤ (total k).tdiv n :=
  Int.tdiv_le_tdiv (Int.natCast_pos.mpr positive) (total_mono h)

theorem mean_replicate (positive : 0 < n) (x : Fixed) : (total (List.replicate n x)).tdiv n = x.raw := by
  have hne : (n : Int) ≠ 0 := Int.natCast_ne_zero.mpr (Nat.ne_of_gt positive)
  rw [total_replicate, Int.mul_tdiv_cancel _ hne]

theorem le_mean (positive : 0 < n) (hlength : l.length = n) {x : Fixed} (hx : ∀ y ∈ l, x ≤ y) :
    x.raw ≤ (total l).tdiv n := by
  have hordered := Lists.forall₂_replicate hx
  rw [hlength] at hordered
  rw [← mean_replicate positive x]
  exact mean_mono positive hordered

theorem mean_le (positive : 0 < n) (hlength : l.length = n) {x : Fixed} (hx : ∀ y ∈ l, y ≤ x) :
    (total l).tdiv n ≤ x.raw := by
  have hordered := (Lists.forall₂_replicate (R := fun a b => b ≤ a) hx).flip
  rw [hlength] at hordered
  rw [← mean_replicate positive x]
  exact mean_mono positive hordered

end Fixed

namespace MovingAverage

variable {n : Nat} {m : MovingAverage n} {x y initial : Fixed} {s s' : List Fixed} {calls others : List Call}

theorem Represents.raw_output (h : m.Represents s) : m.output.raw = (Fixed.total m.samples).tdiv n := by
  rw [h.output, h.sum]

theorem samples_ne_nil (positive : 0 < n) (m : MovingAverage n) : m.samples ≠ [] := by
  apply List.ne_nil_of_length_pos
  rw [length_samples]
  exact positive

theorem Represents.between (positive : 0 < n) (h : m.Represents s) :
    ∃ least greatest, m.samples.min? = some least ∧ m.samples.max? = some greatest ∧
      least ≤ m.output ∧ m.output ≤ greatest := by
  obtain ⟨least, hleast⟩ := Option.isSome_iff_exists.mp (List.isSome_min?_iff.mpr (samples_ne_nil positive m))
  obtain ⟨greatest, hgreatest⟩ := Option.isSome_iff_exists.mp (List.isSome_max?_iff.mpr (samples_ne_nil positive m))
  have hlow := Fixed.le_mean positive m.length_samples (List.min?_eq_some_iff.mp hleast).2
  have hhigh := Fixed.mean_le positive m.length_samples (List.max?_eq_some_iff.mp hgreatest).2
  rw [← h.raw_output] at hlow hhigh
  exact ⟨least, greatest, hleast, hgreatest, hlow, hhigh⟩

/-- Calls of one kind, with their values in order. -/
inductive Call.Le : Call → Call → Prop where
  | step {x y : Fixed} : x ≤ y → Call.Le (.step x) (.step y)
  | reset {x y : Fixed} : x ≤ y → Call.Le (.reset x) (.reset y)

theorem extend_mono {call other : Call} (hstream : List.Forall₂ (· ≤ ·) s s') (hcall : call.Le other) :
    List.Forall₂ (· ≤ ·) (extend n s call) (extend n s' other) := by
  cases hcall with
  | step hxy => exact List.rel_append hstream (.cons hxy .nil)
  | reset hxy => exact Fixed.replicate_mono hxy n

theorem stream_mono (hxy : x ≤ y) (hcalls : List.Forall₂ Call.Le calls others) :
    List.Forall₂ (· ≤ ·) (stream n x calls) (stream n y others) := by
  apply List.rel_foldl _ (Fixed.replicate_mono hxy n) hcalls
  intro s s' hstream call other hcall
  exact extend_mono hstream hcall

theorem foldl_extend_steps (n : Nat) (s samples : List Fixed) :
    (samples.map Call.step).foldl (extend n) s = s ++ samples := by
  induction samples generalizing s with
  | nil => exact (List.append_nil s).symm
  | cons sample rest ih =>
    rw [List.map_cons, List.foldl_cons, extend, ih, List.append_assoc]
    rfl

theorem stream_steps (n : Nat) (initial : Fixed) (calls : List Call) (samples : List Fixed) :
    stream n initial (calls ++ samples.map .step) = stream n initial calls ++ samples := by
  rw [stream, List.foldl_append, foldl_extend_steps, stream]

/-- After a whole window of samples the average represents these, whatever came before. -/
theorem run_steps_represents (positive : 0 < n) (small : n < 4294967296) (initial : Fixed) (calls : List Call)
    {samples : List Fixed} (hlong : n ≤ samples.length) :
    ∃ m, run positive initial (calls ++ samples.map .step) = .ok m ∧ m.Represents samples := by
  obtain ⟨m, hrun, hwindow, hsum, houtput⟩ := run_represents positive small initial (calls ++ samples.map .step)
  rw [stream_steps, Lists.rtake_append_of_le hlong] at hwindow
  exact ⟨m, hrun, hwindow, hsum, houtput⟩

theorem Represents.output_eq_of_replicate (positive : 0 < n) {k : Nat} (hk : n ≤ k)
    (h : m.Represents (List.replicate k x)) : m.output = x := by
  have hwindow : m.samples = List.replicate n x := by
    rw [h.window, List.rtake, List.drop_replicate, List.length_replicate, Nat.sub_sub_self hk]
  apply Fixed.ext
  rw [h.raw_output, hwindow, Fixed.mean_replicate positive]

theorem Represents.eq_of_same {m' : MovingAverage n} (h : m.Represents s) (h' : m'.Represents s) :
    m.output = m'.output ∧ m.sum = m'.sum := by
  have hsamples : m.samples = m'.samples := h.window.trans h'.window.symm
  constructor
  · apply Fixed.ext
    rw [h.raw_output, h'.raw_output, hsamples]
  · rw [h.sum, h'.sum, hsamples]

/-- No run has a fault, and in every state that it reaches the output lies within the window. Two runs that are in order
call by call have outputs in order. After as many common samples as the window holds, two averages agree whatever they
had seen before. -/
theorem outputs_in_range_and_order (positive : 0 < n) (small : n < 4294967296) :
    (∀ (initial : Fixed) (calls : List Call), ∃ m least greatest, run positive initial calls = .ok m ∧
      m.samples.min? = some least ∧ m.samples.max? = some greatest ∧ least ≤ m.output ∧ m.output ≤ greatest) ∧
    (∀ (initial : Fixed) (calls : List Call) (x : Fixed) (k : Nat), n ≤ k →
      ∃ m, run positive initial (calls ++ List.replicate k (.step x)) = .ok m ∧ m.output = x) ∧
    (∀ (x y : Fixed) (calls others : List Call), x ≤ y → List.Forall₂ Call.Le calls others →
      ∃ m m', run positive x calls = .ok m ∧ run positive y others = .ok m' ∧ m.output ≤ m'.output) ∧
    ∀ (x y : Fixed) (calls others : List Call) (samples : List Fixed), n ≤ samples.length →
      ∃ m m', run positive x (calls ++ samples.map .step) = .ok m ∧
        run positive y (others ++ samples.map .step) = .ok m' ∧ m.output = m'.output ∧ m.sum = m'.sum := by
  refine ⟨?_, ?_, ?_, ?_⟩
  · intro initial calls
    obtain ⟨m, hrun, h⟩ := run_represents positive small initial calls
    obtain ⟨least, greatest, hbetween⟩ := h.between positive
    exact ⟨m, least, greatest, hrun, hbetween⟩
  · intro initial calls x k hk
    have hlong : n ≤ (List.replicate k x).length := by
      rw [List.length_replicate]
      exact hk
    obtain ⟨m, hrun, h⟩ := run_steps_represents positive small initial calls hlong
    rw [List.map_replicate] at hrun
    exact ⟨m, hrun, h.output_eq_of_replicate positive hk⟩
  · intro x y calls others hxy hcalls
    obtain ⟨m, hrun, h⟩ := run_represents positive small x calls
    obtain ⟨m', hrun', h'⟩ := run_represents positive small y others
    refine ⟨m, m', hrun, hrun', ?_⟩
    rw [Fixed.le_def, h.raw_output, h'.raw_output, h.window, h'.window]
    exact Fixed.mean_mono positive (Lists.forall₂_rtake (stream_mono hxy hcalls) n)
  · intro x y calls others samples hlong
    obtain ⟨m, hrun, h⟩ := run_steps_represents positive small x calls hlong
    obtain ⟨m', hrun', h'⟩ := run_steps_represents positive small y others hlong
    exact ⟨m, m', hrun, hrun', h.eq_of_same h'⟩

/-- Sums of both signs, which are rounded in opposite directions, and a reset in between. -/
theorem outputs_in_range_and_order_across_zero :
    (0 < 2 ∧ 2 < 4294967296 ∧
      List.Forall₂ Call.Le [.step (Fixed.wrap (-4)), .reset (Fixed.wrap (-3)), .step (Fixed.wrap 0)]
        [.step (Fixed.wrap 3), .reset (Fixed.wrap 1), .step (Fixed.wrap 2)]) ∧
    (∃ m m', run (n := 2) (by decide) (Fixed.wrap (-3))
        [.step (Fixed.wrap (-4)), .reset (Fixed.wrap (-3)), .step (Fixed.wrap 0)] = .ok m ∧
      run (n := 2) (by decide) (Fixed.wrap (-3))
        [.step (Fixed.wrap 3), .reset (Fixed.wrap 1), .step (Fixed.wrap 2)] = .ok m' ∧ m.output ≤ m'.output) ∧
    ∃ m, run (n := 2) (by decide) (Fixed.wrap 7)
        ([.step (Fixed.wrap 9)] ++ List.replicate 2 (.step (Fixed.wrap (-2147483648)))) = .ok m ∧
      m.output = Fixed.wrap (-2147483648) := by
  have hcalls : List.Forall₂ Call.Le [.step (Fixed.wrap (-4)), .reset (Fixed.wrap (-3)), .step (Fixed.wrap 0)]
      [.step (Fixed.wrap 3), .reset (Fixed.wrap 1), .step (Fixed.wrap 2)] :=
    .cons (.step (by decide)) (.cons (.reset (by decide)) (.cons (.step (by decide)) .nil))
  obtain ⟨_, hconstant, hordered, _⟩ := outputs_in_range_and_order (n := 2) (by decide) (by decide)
  refine ⟨⟨by decide, by decide, hcalls⟩, ?_, ?_⟩
  · exact hordered _ _ _ _ (by decide) hcalls
  · exact hconstant _ _ _ 2 (Nat.le_refl 2)

end MovingAverage

end ControlLoop
