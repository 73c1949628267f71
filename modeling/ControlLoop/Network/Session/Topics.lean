import ControlLoop.Network.Session.Basic

/-!
# Topics and inbound messages

A session subscribes to a topic and remembers it, so that it can subscribe again. A topic that is too long or one too
many is refused and leaves nothing behind. Every message goes to every handler, in the order of registration. An error
of the transport comes after the messages that it has handed over.
-/

namespace ControlLoop.Session

set_option autoImplicit false

variable {τ ε η : Type}

def maxTopics : Nat := 8

def knows (s : Session τ η) (topic : String) : Bool := s.topics.any (·.text == topic)

/-- Adds a topic to those that the session remembers, unless it is one of them. -/
def remember (topic : String) : Action τ ε η Unit := do
  let s ← Procedure.read
  if s.knows topic then return ()
  match BoundedText.of? 64 topic with
  | none => Procedure.fail .topicTooLong
  | some new =>
    if maxTopics ≤ s.topics.length then Procedure.fail .tooManyTopics
    Procedure.modify fun s => { s with topics := s.topics ++ [new] }
    note .info s!"MQTT added topic {topic}"

/-- Remembers a topic and subscribes to it. It stays remembered if the transport refuses. -/
def subscribe (T : Transport τ ε) (topic : String) : Action τ ε η Unit := do
  note .debug s!"MQTT subscribe {topic}"
  remember topic
  request (fun transport => T.subscribe transport topic) (.subscribe topic)

/-! ## Delivery -/

def maxHandlers : Nat := 4

/-- Registers a handler for all messages from now on. -/
def onMessage (handler : η) : Action τ ε η Unit := do
  let s ← Procedure.read
  if maxHandlers ≤ s.handlers.length then Procedure.fail .tooManyHandlers
  Procedure.modify fun s => { s with handlers := s.handlers ++ [handler] }

/-- Hands a message to every handler, in the order in which they were registered. -/
def dispatch (message : Message) : Action τ ε η Unit := do
  note .trace s!"MQTT message on {message.topic}, {message.payload.length % 4294967296} bytes"
  let s ← Procedure.read
  Procedure.forEach (fun handler => Procedure.write (.deliver handler message)) s.handlers

/-- Lets the transport work, and hands over what has arrived. -/
def service (T : Transport τ ε) : Action τ ε η Unit := do
  let (messages, reply) ← call
    (fun transport => let (messages, reply, transport) := T.poll transport; ((messages, reply), transport))
    (fun answer => .poll answer.1 answer.2)
  Procedure.forEach dispatch messages
  Procedure.ofExcept (reply.mapError .transport)

end ControlLoop.Session
