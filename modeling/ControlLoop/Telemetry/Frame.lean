import ControlLoop.Wire.Format

/-!
# Telemetry

The status records that a device publishes. A record travels in a stuffed frame whose only zero byte is its last.
-/

namespace ControlLoop

set_option autoImplicit false

inductive Telemetry where
  | servo (target present : Fixed) (reached : Bool)
  | filter (input output : Fixed)
deriving DecidableEq

open Wire.Format in
def Telemetry.format : Wire.Format Telemetry :=
  (either (fixed.both (fixed.both bool)) (fixed.both fixed)).map
    (fun
      | .inl (target, present, reached) => .servo target present reached
      | .inr (input, output) => .filter input output)
    (fun
      | .servo target present reached => .inl (target, present, reached)
      | .filter input output => .inr (input, output))

namespace Telemetry

def frame (t : Telemetry) : List UInt8 := Wire.Cobs.frame (format.write t)

/-- Writes a frame into a buffer of `capacity` bytes. -/
def encode (capacity : Nat) (t : Telemetry) : Except Wire.Error (List UInt8) :=
  if t.frame.length ≤ capacity then .ok t.frame else .error .bufferFull

def decode (input : List UInt8) : Except Wire.Error Telemetry := do
  format.decode (← Wire.Cobs.unframe input)

end Telemetry

end ControlLoop
