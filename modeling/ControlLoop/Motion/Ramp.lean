import ControlLoop.Fixed.Arithmetic
import ControlLoop.Journal

/-!
# Linear ramps

A ramp moves a present value towards a target, by at most one rate per second times the length of a tick at every
update. One rate holds on the way out from zero and another on the way back to it.
-/

namespace ControlLoop

set_option autoImplicit false

structure Ramp where
  present : Fixed
  target : Fixed
  increase : Fixed
  decrease : Fixed
  tick : Fixed
  tickMs : UInt16
deriving DecidableEq

namespace Ramp

/-- A ramp at rest at zero, with one update every `tickMs` and rates per second. The milliseconds of a tick have to
be a number of the format, before they are divided into seconds. -/
def start (tickMs : UInt16) (increase decrease : Single) : Journal Log.Line (Except Fault Ramp) :=
  if 32768 ≤ tickMs.toNat then pure (.error (.tickTooLong tickMs.toNat))
  else do
    Journal.write ⟨.debug, s!"Linear ramp: tick {tickMs.toNat} ms, increase {increase.text}/s, " ++
      s!"decrease {decrease.text}/s"⟩
    return do
      let increase ← Fixed.ofSingle increase
      let decrease ← Fixed.ofSingle decrease
      return {
        present := Fixed.zero
        target := Fixed.zero
        increase
        decrease
        tick := Fixed.wrap (tickMs.toNat * 65536 / 1000)
        tickMs }

/-- The rate that holds for the next update. A target of zero is always on the way back. -/
def rate (r : Ramp) : Fixed :=
  if r.present = r.target then Fixed.zero
  else if r.target = Fixed.zero then r.decrease
  else if Fixed.zero < r.target then
    if r.present < r.target then r.increase else r.decrease
  else if r.target < r.present then r.increase
  else r.decrease

/-- One tick later. The present value stops at the target. -/
def update (r : Ramp) : Ramp :=
  let step := r.rate.mul r.tick
  if r.present < r.target then { r with present := min (r.present.addSaturating step) r.target }
  else if r.target < r.present then { r with present := max (r.present.subSaturating step) r.target }
  else r

def isConverged (r : Ramp) : Bool := r.present = r.target

def setTargetSingle (r : Ramp) (target : Single) : Except Fault Ramp :=
  (Fixed.ofSingle target).map fun target => { r with target }

def setIncrease (r : Ramp) (perSecond : Single) : Except Fault Ramp :=
  (Fixed.ofSingle perSecond).map fun increase => { r with increase }

def setDecrease (r : Ramp) (perSecond : Single) : Except Fault Ramp :=
  (Fixed.ofSingle perSecond).map fun decrease => { r with decrease }

end Ramp

end ControlLoop
