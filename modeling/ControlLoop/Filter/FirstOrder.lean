import ControlLoop.Cutoff
import ControlLoop.Journal
import ControlLoop.Wire.Format

/-!
# First order filters

A single pole filter in fixed point. At every step the low part moves towards the input by the smoothing factor times
their distance, with all arithmetic modulo `2 ^ 32`. The high part of the signal is what the low part leaves of
the input.
-/

namespace ControlLoop

set_option autoImplicit false

inductive Pass where
  | low
  | high
deriving DecidableEq, Repr

def Pass.format : Wire.Format Pass :=
  (Wire.Format.either Wire.Format.unit Wire.Format.unit).map
    (fun
      | .inl () => .low
      | .inr () => .high)
    (fun
      | .low => .inl ()
      | .high => .inr ())

structure FirstOrder where
  pass : Pass
  factor : Fixed
  low : Fixed
  output : Fixed
deriving DecidableEq

namespace FirstOrder

/-- A filter whose low part starts at `initial`. It has no output before its first step. -/
def start (pass : Pass) (factor initial : Fixed) : FirstOrder := ⟨pass, factor, initial, Fixed.zero⟩

/-- A filter with a cutoff in hertz, stepped once every `periodMs`. -/
def ofCutoff (pass : Pass) (cutoff : Single) (periodMs : UInt16) (initial : Fixed) :
    Journal Log.Line (Except Fault FirstOrder) :=
  match Cutoff.fixedFactor cutoff periodMs with
  | .error fault => pure (.error fault)
  | .ok factor => do
    Journal.write ⟨.debug, s!"First order filter: cutoff {cutoff.text} Hz, period {periodMs.toNat} ms, " ++
      s!"tc {factor.toSingle.text}"⟩
    return .ok (start pass factor initial)

/-- The filter after one input; its `output` is the answer to that input. -/
def step (f : FirstOrder) (input : Fixed) : FirstOrder :=
  let low := f.low + (input - f.low).mul f.factor
  let output := match f.pass with
    | .low => low
    | .high => input - low
  { f with low, output }

def reset (f : FirstOrder) (value : Fixed) : FirstOrder := { f with low := value, output := Fixed.zero }

/-- The cutoff in hertz that the smoothing factor gives at this period. -/
def cutoff (f : FirstOrder) (periodMs : UInt16) : Single := Cutoff.ofFixedFactor f.factor periodMs

end FirstOrder

end ControlLoop
