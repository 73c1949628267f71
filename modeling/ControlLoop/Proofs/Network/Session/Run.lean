import ControlLoop.Network.Session.Publish
import ControlLoop.Network.Session.Reconnect
import ControlLoop.Proofs.Lists
import Mathlib.Data.List.Induction

/-!
# Runs of a session

A run is a string of operations in any order. Between two of them the transport may change on its own, as a dropped
connection does. The history of a run keeps every operation with its answer and its events.
-/

namespace ControlLoop

set_option autoImplicit false

/-- Whether the transport would say that it is connected. -/
def Transport.isUp {τ ε : Type} (T : Transport τ ε) (transport : τ) : Prop := (T.isConnected transport).1 = true

namespace Session

inductive Operation (η : Type) where
  | subscribe (topic : String)
  | healthCheck (now : UInt32)
  | publish (message : Message)
  | publishTelemetry (topic : String) (record : Telemetry) (capacity : Nat)
  | onMessage (handler : η)
  | dispatch (message : Message)

inductive Answer where
  | done
  | connected (up : Bool)
deriving DecidableEq

variable {τ ε η α : Type}

/-- What comes of an operation on a session: its answer, the session after it, and its events. -/
abbrev Outcome (τ ε η α : Type) := Journal (Event ε η) (Except (Error ε) α × Session τ η)

def answering (f : α → Answer) (outcome : Outcome τ ε η α) : Outcome τ ε η Answer :=
  ⟨(outcome.value.1.map f, outcome.value.2), outcome.events⟩

def Operation.perform (T : Transport τ ε) (s : Session τ η) : Operation η → Outcome τ ε η Answer
  | .subscribe topic => answering (fun _ => .done) ((Session.subscribe T topic).run s)
  | .healthCheck now => answering .connected ((Session.healthCheck T now).run s)
  | .publish message => answering (fun _ => .done) ((Session.publish T message).run s)
  | .publishTelemetry topic record capacity =>
    answering (fun _ => .done) ((Session.publishTelemetry T topic record capacity).run s)
  | .onMessage handler => answering (fun _ => .done) ((Session.onMessage handler).run s)
  | .dispatch message => answering (fun _ => .done) ((Session.dispatch message).run s)

structure Entry (ε η : Type) where
  operation : Operation η
  answer : Except (Error ε) Answer
  events : List (Event ε η)

def Operation.entry (T : Transport τ ε) (s : Session τ η) (operation : Operation η) : Entry ε η :=
  ⟨operation, (operation.perform T s).value.1, (operation.perform T s).events⟩

/-- The session `s` is reached from `first` with this history. -/
inductive Reaches (T : Transport τ ε) (drift : τ → τ → Prop) (first : Session τ η) :
    List (Entry ε η) → Session τ η → Prop where
  | start : Reaches T drift first [] first
  | operate {history : List (Entry ε η)} {s : Session τ η} (operation : Operation η) :
      Reaches T drift first history s →
      Reaches T drift first (history ++ [operation.entry T s]) (operation.perform T s).value.2
  | drift {history : List (Entry ε η)} {s : Session τ η} (transport : τ) :
      Reaches T drift first history s → drift s.transport transport →
      Reaches T drift first history { s with transport }

/-- The history and the session after some operations on a transport that does not change on its own. -/
def performAll (T : Transport τ ε) (first : Session τ η) (operations : List (Operation η)) :
    List (Entry ε η) × Session τ η :=
  operations.foldl (fun run operation => (run.1 ++ [operation.entry T run.2], (operation.perform T run.2).value.2))
    ([], first)

theorem reaches_performAll (T : Transport τ ε) (drift : τ → τ → Prop) (first : Session τ η)
    (operations : List (Operation η)) :
    Reaches T drift first (performAll T first operations).1 (performAll T first operations).2 := by
  induction operations using List.reverseRecOn with
  | nil => exact .start
  | append_singleton operations operation ih =>
    rw [performAll, List.foldl_append]
    exact .operate operation ih

def Operation.checkTime? : Operation η → Option UInt32
  | .healthCheck now => some now
  | _ => none

/-- The times of the checks, in the order in which they are made. -/
def checkTimes (history : List (Entry ε η)) : List UInt32 := history.filterMap (·.operation.checkTime?)

/-- A run up to one of its operations is a run. -/
theorem Reaches.before {T : Transport τ ε} {drift : τ → τ → Prop} {first s : Session τ η}
    {history past later : List (Entry ε η)} {entry : Entry ε η} (h : Reaches T drift first history s)
    (hsplit : history = past ++ entry :: later) :
    ∃ s', Reaches T drift first past s' ∧ entry = entry.operation.entry T s' := by
  induction h generalizing later with
  | start => simp at hsplit
  | @operate history s operation hpast ih =>
    rcases Lists.concat_eq_append_cons hsplit with ⟨rfl, rfl, _⟩ | ⟨_, _, hold⟩
    · exact ⟨s, hpast, rfl⟩
    · exact ih hold
  | drift transport _ _ ih => exact ih hsplit

/-- The topics that are remembered after an operation, when `known` were before it. -/
def Operation.remember (known : List String) : Operation η → List String
  | .subscribe topic =>
    if topic ∈ known ∨ 64 < topic.utf8ByteSize ∨ 8 ≤ known.length then known else known ++ [topic]
  | _ => known

end Session

end ControlLoop
