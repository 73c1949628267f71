import ControlLoop.Proofs.Network.Session.Gate
import ControlLoop.Proofs.Network.Session.Subscriptions

/-!
# Attempts by true time

The counter that a session sees wraps around, and the gate holds one of its values. As long as less than a turn of the
counter has passed since the latest attempt, the gate is nevertheless right about the true time that has passed: it
holds back every check up to one interval after a failed attempt, and none after that.
-/

namespace ControlLoop.Session

set_option autoImplicit false

variable {τ ε η : Type} {T : Transport τ ε} {drift : τ → τ → Prop} {first s : Session τ η}
variable {timed : List (Nat × Entry ε η)}

/-- The attempts to connect with their true times and answers. -/
def attempts (timed : List (Nat × Entry ε η)) : List (Nat × Except ε Unit) :=
  timed.flatMap fun stamped => (connects stamped.2.events).map fun reply => (stamped.1, reply)

end ControlLoop.Session
