import ControlLoop.Network.Session.Topics

/-!
# Reconnecting a session

A session is checked at times of a millisecond counter that wraps around. While attempts to connect fail, more than
one interval passes between them; after a success all topics are subscribed to again.
-/

namespace ControlLoop.Session

set_option autoImplicit false

variable {τ ε η : Type}

/-- Whether an attempt at `now` would follow a failed one too soon. -/
def isTooSoon (s : Session τ η) (now : UInt32) : Bool :=
  match s.lastAttempt with
  | some last => now - last ≤ s.settings.reconnectIntervalMs
  | none => false

/-- Subscribes again to a topic that the session remembers. That the transport refuses is only noted. -/
def resubscribe (T : Transport τ ε) (topic : String) : Action τ ε η Unit := do
  match ← call (fun transport => T.subscribe transport topic) (.subscribe topic) with
  | .ok () => return ()
  | .error _ => note .error s!"MQTT resubscribe to {topic} failed"

/-- Connects, and then subscribes to every topic. A topic that the transport refuses does not stop the others. -/
def reconnect (T : Transport τ ε) : Action τ ε η Unit := do
  let s ← Procedure.read
  request (fun transport => T.connect transport s.clientId.text) (.connect s.clientId.text)
  Procedure.forEach (fun topic => resubscribe T topic.text) s.topics

/-- Services the transport if it is connected, and otherwise reconnects it, unless an attempt has failed too short a
time ago. Tells whether the session is connected. -/
def healthCheck (T : Transport τ ε) (now : UInt32) : Action τ ε η Bool := do
  if ← call T.isConnected .query then
    service T
    return true
  let s ← Procedure.read
  if s.isTooSoon now then return false
  Procedure.modify fun s => { s with lastAttempt := some now }
  match ← Procedure.attempt (reconnect T) with
  | .ok () =>
    Procedure.modify fun s => { s with lastAttempt := none }
    note .info "MQTT reconnected"
    return true
  | .error _ =>
    note .error s!"MQTT reconnect failed, next try in {s.settings.reconnectIntervalMs.toNat} ms"
    return false

end ControlLoop.Session
