import ControlLoop.Servo.Drive

/-!
# Runs of a servo

A run is a string of commands in any order. The output may change its greatest duty between any two of them, so a
command comes with the greatest duty of its time. The history of a run keeps every command with its answer, its events
and the drive after it.
-/

namespace ControlLoop.Servo

set_option autoImplicit false

inductive Operation where
  | setAngle (angle : Fixed)
  | setTarget (angle : Fixed)
  | setTargetAt (angle : Fixed) (velocity : Single)
  | setVelocity (velocity : Single)
  | poll (now : UInt32)
deriving DecidableEq

def Operation.velocity? : Operation → Option Single
  | .setTargetAt _ velocity => some velocity
  | .setVelocity velocity => some velocity
  | _ => none

def Operation.pollTime? : Operation → Option UInt32
  | .poll now => some now
  | _ => none

theorem Operation.pollTime?_eq_none {operation : Operation} {velocity : Single}
    (h : operation.velocity? = some velocity) : operation.pollTime? = none := by
  cases operation with
  | poll now => cases h
  | _ => rfl

inductive Answer where
  | done
  | duty (duty : UInt16)
  | moved (wrote : Bool)
deriving DecidableEq

structure Command where
  operation : Operation
  maxDuty : UInt16
deriving DecidableEq

def Command.action (c : Command) : Action Answer :=
  match c.operation with
  | .setAngle angle => do return .duty (← drive c.maxDuty angle)
  | .setTarget angle => do setTarget angle; return .done
  | .setTargetAt angle velocity => do setTargetAt angle velocity; return .done
  | .setVelocity velocity => do setVelocity velocity; return .done
  | .poll now => do return .moved (← poll c.maxDuty now)

structure Entry where
  command : Command
  answer : Except Fault Answer
  events : List Event
  after : Servo

def Command.entry (c : Command) (s : Servo) : Entry :=
  ⟨c, (c.action.run s).value.1, (c.action.run s).events, (c.action.run s).value.2⟩

def run (s : Servo) (commands : List Command) : Servo := commands.foldl (fun s c => (c.entry s).after) s

def history (s : Servo) : List Command → List Entry
  | [] => []
  | c :: rest => c.entry s :: history (c.entry s).after rest

def writes (events : List Event) : List (UInt8 × UInt16) :=
  events.filterMap fun
    | .setDuty channel duty => some (channel, duty)
    | _ => none

def pollTimes (commands : List Command) : List UInt32 := commands.filterMap (·.operation.pollTime?)

variable {s : Servo} {commands more : List Command} {c : Command}

theorem history_cons (s : Servo) (c : Command) (rest : List Command) :
    s.history (c :: rest) = c.entry s :: (c.entry s).after.history rest := rfl

theorem run_cons (s : Servo) (c : Command) (rest : List Command) :
    s.run (c :: rest) = (c.entry s).after.run rest := rfl

theorem run_append : s.run (commands ++ more) = (s.run commands).run more := by
  simp only [run, List.foldl_append]

theorem run_concat : s.run (commands ++ [c]) = (c.entry (s.run commands)).after := by
  rw [run_append]
  rfl

theorem history_concat : s.history (commands ++ [c]) = s.history commands ++ [c.entry (s.run commands)] := by
  induction commands generalizing s with
  | nil => rfl
  | cons first rest ih => exact congrArg (first.entry s :: ·) ih

theorem pollTimes_append : pollTimes (commands ++ more) = pollTimes commands ++ pollTimes more := List.filterMap_append

theorem pollTimes_cons_of_none (h : c.operation.pollTime? = none) : pollTimes (c :: commands) = pollTimes commands :=
  List.filterMap_cons_none h

theorem pollTimes_cons_of_some {now : UInt32} (h : c.operation.pollTime? = some now) :
    pollTimes (c :: commands) = now :: pollTimes commands :=
  List.filterMap_cons_some h

theorem writes_append (events later : List Event) : writes (events ++ later) = writes events ++ writes later :=
  List.filterMap_append

end ControlLoop.Servo
