import ControlLoop.Clock.Timer
import ControlLoop.Motion.Ramp
import ControlLoop.Procedure
import ControlLoop.Settings
import ControlLoop.Telemetry.Frame

/-!
# Servo drives

A drive holds one channel of a pulse width output. It is commanded to a target angle, follows a ramp towards it by
one step in every tick in which it is polled, and writes the duty of the whole degrees that it has reached. What
the drive does to its output is the list of its events; the greatest duty of the output may change at any time, so
it is handed over with each call that writes.

A servo reads its angle from the width of a pulse in a frame of 20 ms: 500 µs at -90 degrees, and 1900 µs more
over the whole travel of 180 degrees. The duty is the share of the frame that the pulse takes, in units of the
greatest duty of the output. The travel per unit and the share are rounded down, the duty to the nearest, and every step
fits into its word.
-/

namespace ControlLoop

set_option autoImplicit false

/-! ## Duty of an angle -/

namespace Servo

def minAngle : Fixed := Fixed.wrap (-90 * 65536)

def maxAngle : Fixed := Fixed.wrap (90 * 65536)

def clampAngle (angle : Fixed) : Fixed := Fixed.clamp minAngle maxAngle angle

/-- The width of the pulse in microseconds, as a raw number with sixteen fractional bits. -/
def pulse (angle : Fixed) : Except Fault Int := do
  let travel ← Word.exact .bits32 .subtract ((clampAngle angle).raw - minAngle.raw)
  let extra ← Word.exact .bits32 .multiply (travel / 180 * 1900)
  Word.exact .bits32 .add (500 * 65536 + extra)

/-- The duty for an angle, with angles beyond the travel at its ends. -/
def dutyOf (angle : Fixed) (maxDuty : UInt16) : Except Fault UInt16 := do
  let width ← pulse angle
  let scaled ← Word.exact .bits64 .multiply (width * maxDuty.toNat)
  let duty := Rounding.halfUp (scaled / 20000) 65536
  return UInt16.ofNat (min duty.toNat 65535)

end Servo

/-! ## Drives -/

structure Servo where
  channel : UInt8
  duty : UInt16
  ramp : Ramp
  trigger : Trigger
deriving DecidableEq

namespace Servo

inductive Event where
  | enable (channel : UInt8)
  | disable (channel : UInt8)
  | setDuty (channel : UInt8) (duty : UInt16)
  | log (line : Log.Line)
deriving DecidableEq, Repr

abbrev Action (α : Type) := Procedure Event Servo Fault α

/-- Enables the channel at duty zero and sets up a ramp at rest. -/
def start (channel : UInt8) (settings : Settings) : Journal Event (Except Fault Servo) := do
  Journal.write (.enable channel)
  Journal.write (.setDuty channel 0)
  let ramp ← (Ramp.start settings.tickMs settings.velocity settings.velocity).mapEvents Event.log
  return ramp.map fun ramp => { channel, duty := 0, ramp, trigger := { period := settings.tickMs.toUInt32 } }

/-- Writes the duty of `angle` at once, past the ramp. -/
def drive (maxDuty : UInt16) (angle : Fixed) : Action UInt16 := do
  let duty ← Procedure.ofExcept (dutyOf angle maxDuty)
  let servo ← Procedure.read
  Procedure.write (.setDuty servo.channel duty)
  Procedure.modify fun s => { s with duty }
  Procedure.write (.log ⟨.trace, s!"Servo angle {angle.toSingle.text} -> duty {duty.toNat}"⟩)
  return duty

def setTarget (angle : Fixed) : Action Unit :=
  Procedure.modify fun s => { s with ramp := { s.ramp with target := clampAngle angle } }

/-- Changes the ramp unless the change is a fault. -/
def adjust (change : Ramp → Except Fault Ramp) : Action Unit := do
  let servo ← Procedure.read
  let ramp ← Procedure.ofExcept (change servo.ramp)
  Procedure.modify fun s => { s with ramp }

/-- Degrees per second from now on, in both directions. -/
def setVelocity (velocity : Single) : Action Unit := do
  adjust fun ramp => ramp.setIncrease velocity
  adjust fun ramp => ramp.setDecrease velocity

/-- A new target and a new velocity; a velocity of zero keeps the present one. -/
def setTargetAt (angle : Fixed) (velocity : Single) : Action Unit := do
  if velocity.equals Single.zero then setTarget angle
  else
    setVelocity velocity
    setTarget angle

/-- Whether `now` is in another tick than the last poll. -/
def tick (now : UInt32) : Action Bool := do
  let servo ← Procedure.read
  let (fired, trigger) := servo.trigger.poll now
  Procedure.modify fun s => { s with trigger }
  return fired

/-- One step of the ramp, if a tick has begun and the target is not reached. Tells whether a duty was written. -/
def poll (maxDuty : UInt16) (now : UInt32) : Action Bool := do
  let fired ← tick now
  let servo ← Procedure.read
  if !fired || servo.ramp.isConverged then return false
  let ramp := servo.ramp.update
  Procedure.modify fun s => { s with ramp }
  let _ ← drive maxDuty ramp.present.truncate
  return true

def telemetry (s : Servo) : Telemetry := .servo s.ramp.target s.ramp.present s.ramp.isConverged

def release (s : Servo) : Journal Event Unit := Journal.write (.disable s.channel)

end Servo

end ControlLoop
