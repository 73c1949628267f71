import ControlLoop.Proofs.Network.Session.Topics
import ControlLoop.Proofs.Telemetry.Frame

/-!
# Telemetry from record to transport

A record is either refused because its frame does not fit into the buffer that it is built in, and then the transport
is not called, or its frame is handed to the transport in one call. The size of what is sent decides which call that is,
and the answer of the transport is the answer. Sizes are natural numbers here and do not overflow.
-/

namespace ControlLoop.Session

set_option autoImplicit false

variable {τ ε η : Type} {T : Transport τ ε} {s : Session τ η} {topic : String} {record : Telemetry} {capacity : Nat}

/-- The transport is asked once to publish, by the call that the size of the whole frame allows, and its answer is the
answer. Nothing else of the session has changed. -/
structure Publishes (T : Transport τ ε) (message : Message) (s : Session τ η) (outcome : Outcome τ ε η Unit) : Prop where
  streamed : T.bufferSize s.transport <
      s.settings.headerSize.toNat + 2 + message.topic.utf8ByteSize + message.payload.length →
    calls outcome.events = [.publishStreamed message (T.publishStreamed s.transport message).1] ∧
      outcome.value = ((T.publishStreamed s.transport message).1.mapError .transport,
        { s with transport := (T.publishStreamed s.transport message).2 })
  staged : s.settings.headerSize.toNat + 2 + message.topic.utf8ByteSize + message.payload.length ≤
      T.bufferSize s.transport →
    calls outcome.events = [.publish message (T.publish s.transport message).1] ∧
      outcome.value = ((T.publish s.transport message).1.mapError .transport,
        { s with transport := (T.publish s.transport message).2 })

theorem publishes (T : Transport τ ε) (message : Message) (s : Session τ η) :
    Publishes T message s ((publish T message).run s) := by
  constructor
  · intro long
    rw [run_publish_streamed long]
    exact ⟨rfl, rfl⟩
  · intro fits
    rw [run_publish_staged fits]
    exact ⟨rfl, rfl⟩

theorem Publishes.answer {message : Message} {outcome : Outcome τ ε η Unit} (h : Publishes T message s outcome) :
    ∃ reply : Except ε Unit, outcome.value.1 = reply.mapError .transport := by
  by_cases long : T.bufferSize s.transport <
      s.settings.headerSize.toNat + 2 + message.topic.utf8ByteSize + message.payload.length
  · exact ⟨_, congrArg Prod.fst (h.streamed long).2⟩
  · exact ⟨_, congrArg Prod.fst (h.staged (Nat.le_of_not_lt long)).2⟩

theorem mapError_transport_ne_encode (reply : Except ε Unit) (cause : Wire.Error) :
    (reply.mapError .transport : Except (Error ε) Unit) ≠ .error (.encode cause) := by
  intro h
  cases reply with
  | ok => cases h
  | error e => cases h

theorem refused_of_lt (small : capacity < record.frame.length) :
    LeavesNoTrace (.encode .bufferFull) s ((publishTelemetry T topic record capacity).run s) := by
  rw [run_publishTelemetry_of_error (Telemetry.encode_of_lt small)]
  exact ⟨rfl, rfl⟩

theorem publishes_of_le (room : record.frame.length ≤ capacity) :
    Publishes T ⟨topic, record.frame⟩ s ((publishTelemetry T topic record capacity).run s) := by
  rw [run_publishTelemetry_of_ok (Telemetry.encode_of_le room)]
  exact publishes T ⟨topic, record.frame⟩ s

/-- Publishing a record calls the transport once, with a payload that decodes to the record, or not at all, with an error
of the encoding. The latter happens exactly if the buffer is smaller than the frame, and 14 bytes always suffice. -/
theorem record_published_or_refused (T : Transport τ ε) (topic : String) (record : Telemetry) (capacity : Nat)
    (s : Session τ η) :
    (capacity < record.frame.length ∧
        LeavesNoTrace (.encode .bufferFull) s ((publishTelemetry T topic record capacity).run s) ∨
      record.frame.length ≤ capacity ∧ Telemetry.decode record.frame = .ok record ∧
        Publishes T ⟨topic, record.frame⟩ s ((publishTelemetry T topic record capacity).run s)) ∧
    (14 ≤ capacity → ∀ cause, ((publishTelemetry T topic record capacity).run s).value.1 ≠ .error (.encode cause)) := by
  constructor
  · by_cases small : capacity < record.frame.length
    · exact Or.inl ⟨small, refused_of_lt small⟩
    · have room : record.frame.length ≤ capacity := Nat.le_of_not_lt small
      have hdecode := Telemetry.decode_frame record []
      rw [List.append_nil] at hdecode
      exact Or.inr ⟨room, hdecode, publishes_of_le room⟩
  · intro enough cause
    have room : record.frame.length ≤ capacity := Nat.le_trans (Telemetry.length_frame_le record) enough
    have hpublishes : Publishes T ⟨topic, record.frame⟩ s ((publishTelemetry T topic record capacity).run s) :=
      publishes_of_le room
    obtain ⟨reply, hanswer⟩ := hpublishes.answer
    rw [hanswer]
    exact mapError_transport_ne_encode reply cause

end ControlLoop.Session
