import ControlLoop.Fixed.Arithmetic
import ControlLoop.Journal

/-!
# Moving averages

The mean of the last `n` samples, from a ring of samples and their running sum. A step replaces the oldest sample
and corrects the sum by the difference, so its cost does not depend on the window. The sum is exact in 64 bits.
-/

namespace ControlLoop

set_option autoImplicit false

structure MovingAverage (n : Nat) where
  ring : Vector Fixed n
  /-- The place of the oldest sample. -/
  next : Fin n
  sum : Int
  output : Fixed

namespace MovingAverage

variable {n : Nat}

/-- The samples in the window, the oldest first. -/
def samples (m : MovingAverage n) : List Fixed := m.ring.toList.drop m.next ++ m.ring.toList.take m.next

/-- A window filled with `initial`; it holds at least one sample. -/
def filled (positive : 0 < n) (initial : Fixed) : Except Fault (MovingAverage n) := do
  let sum ← Word.exact .bits64 .multiply (initial.raw * n)
  return ⟨Vector.replicate n initial, ⟨0, positive⟩, sum, initial⟩

def start (positive : 0 < n) (initial : Fixed) : Journal Log.Line (Except Fault (MovingAverage n)) := do
  Journal.write ⟨.debug, s!"Moving average filter: window {n % 4294967296}"⟩
  return filled positive initial

/-- The average after one more sample; its `output` is the new mean, rounded towards zero. -/
def step (m : MovingAverage n) (sample : Fixed) : Except Fault (MovingAverage n) := do
  let rest ← Word.exact .bits64 .subtract (m.sum - (m.ring[m.next]).raw)
  let sum ← Word.exact .bits64 .add (rest + sample.raw)
  return {
    ring := m.ring.set m.next sample
    next := ⟨(m.next + 1) % n, Nat.mod_lt _ (Nat.zero_lt_of_lt m.next.isLt)⟩
    sum
    output := Fixed.wrap (sum.tdiv n) }

end MovingAverage

end ControlLoop
