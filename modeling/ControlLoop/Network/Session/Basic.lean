import ControlLoop.Procedure
import ControlLoop.Settings
import ControlLoop.Text.Quoted

/-!
# MQTT sessions

A session remembers its topics and its handlers over all drops of the connection. What it does to its transport and
its handlers is the list of its events. A transport is a state, and every answer may change it.
-/

namespace ControlLoop

set_option autoImplicit false

structure Message where
  topic : String
  payload : List UInt8
deriving DecidableEq, Repr

/-- What a session needs of a transport with states `τ` and errors `ε`. A poll hands over the messages that have
arrived, and may fail after that. -/
structure Transport (τ ε : Type) where
  isConnected : τ → Bool × τ
  connect : τ → String → Except ε Unit × τ
  poll : τ → List Message × Except ε Unit × τ
  subscribe : τ → String → Except ε Unit × τ
  publish : τ → Message → Except ε Unit × τ
  /-- Publishes without holding the whole frame in the buffer. -/
  publishStreamed : τ → Message → Except ε Unit × τ
  /-- The size of the greatest frame for `publish`. -/
  bufferSize : τ → Nat

/-- A session over a transport `τ` with handlers `η`. -/
structure Session (τ η : Type) where
  settings : Session.Settings
  clientId : BoundedText 40
  topics : List (BoundedText 64)
  handlers : List η
  /-- The time of the last attempt to reconnect, if it failed. -/
  lastAttempt : Option UInt32
  transport : τ

namespace Session

inductive Error (ε : Type) where
  | transport (cause : ε)
  | topicTooLong
  | tooManyTopics
  | tooManyHandlers
  | encode (cause : Wire.Error)
deriving DecidableEq, Repr

def Error.message {ε : Type} (quote : ε → String) : Error ε → String
  | .transport cause => s!"transport error: {quote cause}"
  | .topicTooLong => "topic longer than 64 bytes"
  | .tooManyTopics => "more than 8 subscriptions"
  | .tooManyHandlers => "more than 4 message handlers"
  | .encode _ => "telemetry encoding failed"

/-- A call of the transport with its answer, a message for a handler, or a log line. -/
inductive Event (ε η : Type) where
  | query (up : Bool)
  | connect (clientId : String) (reply : Except ε Unit)
  | poll (messages : List Message) (reply : Except ε Unit)
  | subscribe (topic : String) (reply : Except ε Unit)
  | publish (message : Message) (reply : Except ε Unit)
  | publishStreamed (message : Message) (reply : Except ε Unit)
  | deliver (handler : η) (message : Message)
  | log (line : Log.Line)

variable {τ ε η α : Type}

abbrev Action (τ ε η α : Type) := Procedure (Event ε η) (Session τ η) (Error ε) α

def note (level : Log.Level) (text : String) : Action τ ε η Unit := Procedure.write (.log ⟨level, text⟩)

/-- The client id of a device: the name of its family, a dash, and its seed in base sixteen, as far as they fit. -/
def clientIdOf (family : BoundedText 32) (seed : UInt16) : BoundedText 40 :=
  BoundedText.empty.appendAll [family.text, "-", Hex.text seed.toNat]

def start (transport : τ) (settings : Settings) (seed : UInt16) : Journal (Event ε η) (Session τ η) := do
  let clientId := clientIdOf settings.clientFamily seed
  Journal.write (.log ⟨.info, s!"MQTT client id {clientId.text}"⟩)
  return { settings, clientId, topics := [], handlers := [], lastAttempt := none, transport }

/-- A call of the transport, entered as an event together with its answer. -/
def call (ask : τ → α × τ) (event : α → Event ε η) : Action τ ε η α := ⟨fun s =>
  let (answer, transport) := ask s.transport
  ⟨(.ok answer, { s with transport }), [event answer]⟩⟩

/-- A call whose answer may be an error of the transport. -/
def request (ask : τ → Except ε Unit × τ) (event : Except ε Unit → Event ε η) : Action τ ε η Unit := do
  let reply ← call ask event
  Procedure.ofExcept (reply.mapError .transport)

end Session

end ControlLoop
