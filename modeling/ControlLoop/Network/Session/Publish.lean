import ControlLoop.Network.Session.Basic
import ControlLoop.Telemetry.Frame

/-!
# Publishing

A message whose frame does not fit into the buffer of the transport is streamed. Telemetry is published as a frame.
-/

namespace ControlLoop.Session

set_option autoImplicit false

variable {τ ε η : Type}

def frameSize (settings : Settings) (message : Message) : Nat :=
  settings.headerSize.toNat + 2 + message.topic.utf8ByteSize + message.payload.length

/-- Publishes a message, streamed if its frame does not fit into the buffer of the transport. -/
def publish (T : Transport τ ε) (message : Message) : Action τ ε η Unit := do
  let s ← Procedure.read
  let frame := frameSize s.settings message
  let buffer := T.bufferSize s.transport
  if buffer < frame then
    note .warn s!"MQTT message too long. buffer: {buffer % 4294967296}, frame: {frame % 4294967296}"
    request (fun transport => T.publishStreamed transport message) (.publishStreamed message)
  else request (fun transport => T.publish transport message) (.publish message)

/-- Publishes a record as a frame that is built in a buffer of `capacity` bytes. -/
def publishTelemetry (T : Transport τ ε) (topic : String) (record : Telemetry) (capacity : Nat) :
    Action τ ε η Unit := do
  let payload ← Procedure.ofExcept ((record.encode capacity).mapError .encode)
  publish T { topic, payload }

end ControlLoop.Session
