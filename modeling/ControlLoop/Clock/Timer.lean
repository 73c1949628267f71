/-!
# Timers

A trigger divides the millisecond clock into buckets of one period and fires at the first poll in a bucket other than
the one it saw last. Skipped buckets are not made up for. The readings of a stopwatch are of a millisecond counter that
wraps around; a difference of two readings is right as long as less than one whole turn lies between them. A timer is a
trigger and a stopwatch that know nothing of each other.
-/

namespace ControlLoop

set_option autoImplicit false

structure Trigger where
  period : UInt32
  bucket : UInt32 := 0
deriving DecidableEq, Repr

namespace Trigger

/-- Whether the trigger fires at `now`, and the trigger after the poll. A period of zero never fires. -/
def poll (t : Trigger) (now : UInt32) : Bool × Trigger :=
  if t.period = 0 then (false, t)
  else (now / t.period != t.bucket, { t with bucket := now / t.period })

/-- The bucket seen last keeps its number under the new period. -/
def setPeriod (t : Trigger) (period : UInt32) : Trigger := { t with period }

end Trigger

structure Stopwatch where
  startedAt : UInt32 := 0
  /-- A running stopwatch has not been stopped yet. -/
  stoppedAt : Option UInt32 := some 0
deriving DecidableEq, Repr

namespace Stopwatch

def start (_ : Stopwatch) (now : UInt32) : Stopwatch := ⟨now, none⟩

def stop (w : Stopwatch) (now : UInt32) : Stopwatch := { w with stoppedAt := some now }

def isRunning (w : Stopwatch) : Bool := w.stoppedAt.isNone

/-- The time from the start to the stop, or to `now` if the stopwatch is running. -/
def elapsed (w : Stopwatch) (now : UInt32) : UInt32 := w.stoppedAt.getD now - w.startedAt

end Stopwatch

structure Timer where
  trigger : Trigger
  stopwatch : Stopwatch := {}
deriving DecidableEq, Repr

namespace Timer

def ofPeriod (period : UInt32) : Timer := { trigger := { period } }

def poll (t : Timer) (now : UInt32) : Bool × Timer :=
  let (fired, trigger) := t.trigger.poll now
  (fired, { t with trigger })

def setPeriod (t : Timer) (period : UInt32) : Timer := { t with trigger := t.trigger.setPeriod period }

def start (t : Timer) (now : UInt32) : Timer := { t with stopwatch := t.stopwatch.start now }

def stop (t : Timer) (now : UInt32) : Timer := { t with stopwatch := t.stopwatch.stop now }

end Timer

end ControlLoop
