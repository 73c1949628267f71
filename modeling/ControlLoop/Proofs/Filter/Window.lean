import ControlLoop.Filter.MovingAverage
import ControlLoop.Proofs.Lists
import Mathlib.Algebra.Ring.Int.Defs

/-!
# Windows of moving averages

The ring of a moving average, read from its oldest sample on, is the end of the stream of all samples, and the sum that
is kept up by differences is the sum over the ring. A sum of fewer than `2 ^ 32` raw values stays far inside 64 bits,
so no run ends in a fault, and a mean of raw values is a raw value again.
-/

namespace ControlLoop

set_option autoImplicit false

def Fixed.total (l : List Fixed) : Int := (l.map Fixed.raw).sum

namespace MovingAverage

variable {n : Nat}

/-- What is done to an average after its start. -/
inductive Call where
  | step (sample : Fixed)
  | reset (value : Fixed)
deriving DecidableEq

def perform (positive : 0 < n) (m : MovingAverage n) : Call → Except Fault (MovingAverage n)
  | .step sample => m.step sample
  | .reset value => (start positive value).value

def run (positive : 0 < n) (initial : Fixed) (calls : List Call) : Except Fault (MovingAverage n) := do
  let m ← (start positive initial).value
  calls.foldlM (perform positive) m

/-- The stream goes on with a sample; a reset begins a new one with a window full of its value. -/
def extend (n : Nat) (stream : List Fixed) : Call → List Fixed
  | .step sample => stream ++ [sample]
  | .reset value => List.replicate n value

/-- The samples that the window was last filled with, and all that came since. -/
def stream (n : Nat) (initial : Fixed) (calls : List Call) : List Fixed :=
  calls.foldl (extend n) (List.replicate n initial)

end MovingAverage

namespace Fixed

@[simp] theorem total_nil : total [] = 0 := rfl

@[simp] theorem total_cons (x : Fixed) (l : List Fixed) : total (x :: l) = x.raw + total l := by
  simp only [total, List.map_cons, List.sum_cons]

@[simp] theorem total_append (l k : List Fixed) : total (l ++ k) = total l + total k := by
  simp only [total, List.map_append, List.sum_append]

theorem total_replicate (n : Nat) (x : Fixed) : total (List.replicate n x) = x.raw * n := by
  induction n with
  | zero => simp only [List.replicate_zero, total_nil, Int.natCast_zero, Int.mul_zero]
  | succ n ih =>
    rw [List.replicate_succ, total_cons, ih, Int.natCast_add, Int.mul_add, Int.add_comm]
    simp only [Int.natCast_one, Int.mul_one]

theorem total_bounds (l : List Fixed) :
    -2147483648 * (l.length : Int) ≤ total l ∧ total l ≤ 2147483647 * (l.length : Int) := by
  induction l with
  | nil => exact ⟨Int.le_refl 0, Int.le_refl 0⟩
  | cons x rest ih =>
    have hlower := x.lower
    have hupper := x.upper
    rw [total_cons, List.length_cons]
    omega

end Fixed

namespace MovingAverage

variable {n : Nat}

theorem length_ring (m : MovingAverage n) : m.ring.toList.length = n := m.ring.length_toList

theorem length_samples (m : MovingAverage n) : m.samples.length = n := by
  have hnext := m.next.isLt
  simp only [samples, List.length_append, List.length_drop, List.length_take, Vector.length_toList]
  omega

/-- A step forgets the oldest sample and takes up the new one. -/
theorem samples_step {m m' : MovingAverage n} {x : Fixed} (h : m.step x = .ok m') :
    m'.samples = m.samples.tail ++ [x] := by
  have hn := m.next.isLt
  have hlen := m.length_ring
  simp only [step, bind, Except.bind] at h
  split at h
  · simp at h
  split at h
  · simp at h
  simp only [pure, Except.pure, Except.ok.injEq] at h
  subst h
  simp only [samples, Vector.toList_set]
  rw [← Lists.rotate_set m.ring.toList m.next (by omega) x]
  rcases Nat.lt_or_ge (m.next + 1) n with hlt | hge
  · rw [Nat.mod_eq_of_lt hlt]
  · have hwrap : m.next.val + 1 = n := by omega
    rw [hwrap, Nat.mod_self, List.drop_zero, List.take_zero, List.append_nil,
      List.drop_of_length_le (by simp only [List.length_set]; omega),
      List.take_of_length_le (by simp only [List.length_set]; omega), List.nil_append]

theorem samples_eq_cons (m : MovingAverage n) : m.samples = m.ring.get m.next :: m.samples.tail := by
  have hn : m.next.val < m.ring.toList.length := by rw [length_ring]; exact m.next.isLt
  have hdrop := List.drop_eq_getElem_cons hn
  rw [samples, hdrop, List.cons_append, List.tail_cons, Vector.getElem_toList]
  rfl

theorem total_samples (m : MovingAverage n) : Fixed.total m.samples = Fixed.total m.ring.toList := by
  rw [samples, Fixed.total_append, Int.add_comm, ← Fixed.total_append, List.take_append_drop]

/-- The state of an average that has seen `stream`: the window is its end, and the sum and the mean are those of the
window. -/
structure Represents (m : MovingAverage n) (stream : List Fixed) : Prop where
  window : m.samples = stream.rtake n
  sum : m.sum = Fixed.total m.samples
  output : m.output.raw = m.sum.tdiv n

theorem raw_mean (positive : 0 < n) {l : List Fixed} (hlength : l.length = n) :
    (Fixed.wrap ((Fixed.total l).tdiv n)).raw = (Fixed.total l).tdiv n := by
  have hn : (0 : Int) < n := by exact_mod_cast positive
  obtain ⟨hlower, hupper⟩ := Fixed.total_bounds l
  rw [hlength] at hlower hupper
  have hlow : (-2147483648 : Int) ≤ (Fixed.total l).tdiv n := Int.le_tdiv_of_mul_le hn hlower
  have hhigh : (Fixed.total l).tdiv n ≤ (2147483647 * (n : Int)).tdiv n := Int.tdiv_le_tdiv hn hupper
  rw [Int.mul_tdiv_cancel _ (by omega)] at hhigh
  exact Fixed.raw_wrap hlow (by omega)

theorem filled_eq (positive : 0 < n) (small : n < 4294967296) (value : Fixed) :
    filled positive value = .ok ⟨Vector.replicate n value, ⟨0, positive⟩, value.raw * n, value⟩ := by
  have hbounds := Fixed.total_bounds (List.replicate n value)
  rw [Fixed.total_replicate, List.length_replicate] at hbounds
  have hholds : Word.Holds .bits64 (value.raw * n) := by
    simp only [Word.Holds, Word.Size.bound]
    omega
  rw [filled, Word.exact_eq_ok hholds]
  rfl

theorem filled_represents (positive : 0 < n) (small : n < 4294967296) (value : Fixed) :
    ∃ m, filled positive value = .ok m ∧ m.Represents (List.replicate n value) := by
  refine ⟨_, filled_eq positive small value, ?_, ?_, ?_⟩
  · simp [samples, List.rtake]
  · rw [total_samples, Vector.toList_replicate, Fixed.total_replicate]
  · exact (Int.mul_tdiv_cancel _ (by omega)).symm

/-- A step of a sum that is exact has no fault, before the new sample comes in as little as after. -/
theorem step_eq (small : n < 4294967296) (m : MovingAverage n) (sample : Fixed)
    (hsum : m.sum = Fixed.total m.samples) :
    ∃ m', m.step sample = .ok m' ∧ m'.sum = Fixed.total (m.samples.tail ++ [sample]) ∧
      m'.output = Fixed.wrap (m'.sum.tdiv n) := by
  have htail : m.samples.tail.length < n := by
    rw [List.length_tail, length_samples]
    have := m.next.isLt
    omega
  have hbounds := Fixed.total_bounds m.samples.tail
  have hlower := sample.lower
  have hupper := sample.upper
  have hrest : m.sum - (m.ring[m.next]).raw = Fixed.total m.samples.tail := by
    have holdest : m.ring[m.next] = m.ring.get m.next := rfl
    rw [hsum, holdest, samples_eq_cons, Fixed.total_cons, List.tail_cons]
    omega
  have hfirst : Word.Holds .bits64 (m.sum - (m.ring[m.next]).raw) := by
    simp only [hrest, Word.Holds, Word.Size.bound]
    omega
  have hsecond : Word.Holds .bits64 (m.sum - (m.ring[m.next]).raw + sample.raw) := by
    simp only [hrest, Word.Holds, Word.Size.bound]
    omega
  let sum := m.sum - (m.ring[m.next]).raw + sample.raw
  let next : Fin n := ⟨(m.next + 1) % n, Nat.mod_lt _ (Nat.zero_lt_of_lt m.next.isLt)⟩
  refine ⟨⟨m.ring.set m.next sample, next, sum, Fixed.wrap (sum.tdiv n)⟩, ?_, ?_, rfl⟩
  · simp only [step, Word.exact_eq_ok hfirst, Word.exact_eq_ok hsecond, bind, Except.bind, pure, Except.pure]
    rfl
  · simp only [sum, hrest, Fixed.total_append, Fixed.total_cons, Fixed.total_nil, Int.add_zero]

theorem step_represents (positive : 0 < n) (small : n < 4294967296) {m : MovingAverage n} {stream : List Fixed}
    (h : m.Represents stream) (sample : Fixed) :
    ∃ m', m.step sample = .ok m' ∧ m'.Represents (stream ++ [sample]) := by
  obtain ⟨m', hstep, hsum, houtput⟩ := step_eq small m sample h.sum
  have hsamples := samples_step hstep
  have hlength : (stream.rtake n).length = n := by rw [← h.window, length_samples]
  rw [← hsamples] at hsum
  refine ⟨m', hstep, ?_, hsum, ?_⟩
  · rw [hsamples, Lists.rtake_concat_of_length sample positive hlength, h.window]
  · rw [houtput, hsum]
    exact raw_mean positive m'.length_samples

theorem perform_represents (positive : 0 < n) (small : n < 4294967296) {m : MovingAverage n} {stream : List Fixed}
    (h : m.Represents stream) (call : Call) :
    ∃ m', perform positive m call = .ok m' ∧ m'.Represents (extend n stream call) := by
  cases call with
  | step sample => exact step_represents positive small h sample
  | reset value => exact filled_represents positive small value

theorem performAll_represents (positive : 0 < n) (small : n < 4294967296) {m : MovingAverage n} {stream : List Fixed}
    (h : m.Represents stream) (calls : List Call) :
    ∃ m', calls.foldlM (perform positive) m = .ok m' ∧ m'.Represents (calls.foldl (extend n) stream) := by
  induction calls generalizing m stream with
  | nil => exact ⟨m, rfl, h⟩
  | cons call rest ih =>
    obtain ⟨next, hnext, hrepresents⟩ := perform_represents positive small h call
    obtain ⟨m', hrest, hm'⟩ := ih hrepresents
    refine ⟨m', ?_, hm'⟩
    rw [List.foldlM_cons, hnext]
    exact hrest

theorem run_represents (positive : 0 < n) (small : n < 4294967296) (initial : Fixed) (calls : List Call) :
    ∃ m, run positive initial calls = .ok m ∧ m.Represents (stream n initial calls) := by
  obtain ⟨first, hfirst, hrepresents⟩ := filled_represents positive small initial
  obtain ⟨m, hrest, hm⟩ := performAll_represents positive small hrepresents calls
  refine ⟨m, ?_, hm⟩
  have hstart : (start positive initial).value = .ok first := hfirst
  rw [run, hstart]
  exact hrest

/-- No run has a fault, so that every sum on the way was exact. The ring holds the end of the stream, its sum is the
sum kept, and the answer is the mean rounded towards zero, with nothing cut off. -/
theorem run_recomputes (positive : 0 < n) (small : n < 4294967296) (initial : Fixed) (calls : List Call) :
    ∃ m, run positive initial calls = .ok m ∧ m.next.val < n ∧
      m.sum = Fixed.total m.ring.toList ∧
      m.ring.toList.drop m.next ++ m.ring.toList.take m.next = (stream n initial calls).rtake n ∧
      m.output.raw = (Fixed.total ((stream n initial calls).rtake n)).tdiv n := by
  obtain ⟨m, hrun, h⟩ := run_represents positive small initial calls
  refine ⟨m, hrun, m.next.isLt, ?_, h.window, ?_⟩
  · rw [h.sum, total_samples]
  · rw [h.output, h.sum, h.window]

theorem run_recomputes_across_reset :
    (0 < 3 ∧ 3 < 4294967296) ∧
    ∃ m, run (n := 3) (by decide) (Fixed.wrap 5)
        [.step (Fixed.wrap 9), .reset (Fixed.wrap (-2147483648)), .step (Fixed.wrap 7)] = .ok m ∧
      m.sum = Fixed.total m.ring.toList ∧ m.output.raw = -1431655763 := by
  refine ⟨by decide, ?_⟩
  obtain ⟨m, hrun, _, hsum, _, houtput⟩ := run_recomputes (n := 3) (by decide) (by decide) (Fixed.wrap 5)
    [.step (Fixed.wrap 9), .reset (Fixed.wrap (-2147483648)), .step (Fixed.wrap 7)]
  exact ⟨m, hrun, hsum, houtput⟩

end MovingAverage

end ControlLoop
