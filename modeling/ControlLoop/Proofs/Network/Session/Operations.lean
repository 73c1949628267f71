import ControlLoop.Network.Session.Publish
import ControlLoop.Network.Session.Reconnect

/-!
# Operations of a session

What each operation does to a session and what it leaves in the journal, one equation for each way that it can go.
-/

namespace ControlLoop.Session

set_option autoImplicit false

variable {τ ε η α : Type} {T : Transport τ ε} {s : Session τ η} {topic : String}

theorem run_note (level : Log.Level) (text : String) (s : Session τ η) :
    (note level text : Action τ ε η Unit).run s = ⟨(.ok (), s), [.log ⟨level, text⟩]⟩ := rfl

theorem run_call (ask : τ → α × τ) (event : α → Event ε η) (s : Session τ η) :
    (call ask event).run s =
      ⟨(.ok (ask s.transport).1, { s with transport := (ask s.transport).2 }), [event (ask s.transport).1]⟩ := rfl

theorem run_request (ask : τ → Except ε Unit × τ) (event : Except ε Unit → Event ε η) (s : Session τ η) :
    (request ask event).run s =
      ⟨((ask s.transport).1.mapError .transport, { s with transport := (ask s.transport).2 }),
        [event (ask s.transport).1]⟩ := by
  rw [request, Procedure.run_bind_of_ok (run_call ask event s)]
  cases (ask s.transport).1 <;> rfl

section Topics

theorem of?_eq_some (fits : topic.utf8ByteSize ≤ 64) : BoundedText.of? 64 topic = some ⟨topic, fits⟩ := dif_pos fits

theorem of?_eq_none (long : 64 < topic.utf8ByteSize) : BoundedText.of? 64 topic = none :=
  dif_neg (Nat.not_le_of_lt long)

theorem run_remember_known (known : s.knows topic = true) :
    (remember topic : Action τ ε η Unit).run s = ⟨(.ok (), s), []⟩ := by
  simp [remember, known]

theorem run_remember_tooLong (new : s.knows topic = false) (long : 64 < topic.utf8ByteSize) :
    (remember topic : Action τ ε η Unit).run s = ⟨(.error .topicTooLong, s), []⟩ := by
  simp [remember, new, of?_eq_none long]

theorem run_remember_tooMany (new : s.knows topic = false) (fits : topic.utf8ByteSize ≤ 64)
    (full : maxTopics ≤ s.topics.length) :
    (remember topic : Action τ ε η Unit).run s = ⟨(.error .tooManyTopics, s), []⟩ := by
  simp [remember, new, of?_eq_some fits, full]

theorem run_remember_new (new : s.knows topic = false) (fits : topic.utf8ByteSize ≤ 64)
    (room : s.topics.length < maxTopics) :
    (remember topic : Action τ ε η Unit).run s =
      ⟨(.ok (), { s with topics := s.topics ++ [⟨topic, fits⟩] }), [.log ⟨.info, s!"MQTT added topic {topic}"⟩]⟩ := by
  simp [remember, new, of?_eq_some fits, Nat.not_le_of_lt room, run_note]

theorem run_subscribe_of_ok {s' : Session τ η} {events : List (Event ε η)}
    (h : (remember topic).run s = ⟨(.ok (), s'), events⟩) :
    (subscribe T topic).run s =
      ⟨((T.subscribe s'.transport topic).1.mapError .transport,
          { s' with transport := (T.subscribe s'.transport topic).2 }),
        .log ⟨.debug, s!"MQTT subscribe {topic}"⟩ :: events ++ [.subscribe topic (T.subscribe s'.transport topic).1]⟩ := by
  rw [subscribe, Procedure.run_bind_of_ok (run_note _ _ s), Procedure.run_bind_of_ok h, run_request]
  rfl

theorem run_subscribe_of_error {e : Error ε} (h : (remember topic).run s = ⟨(.error e, s), []⟩) :
    (subscribe T topic).run s = ⟨(.error e, s), [.log ⟨.debug, s!"MQTT subscribe {topic}"⟩]⟩ := by
  rw [subscribe, Procedure.run_bind_of_ok (run_note _ _ s), Procedure.run_bind_of_error h]
  rfl

theorem knows_iff : s.knows topic = true ↔ topic ∈ s.topics.map (·.text) := by
  simp [knows]

theorem knows_eq_false (hnew : topic ∉ s.topics.map (·.text)) : s.knows topic = false :=
  Bool.eq_false_iff.mpr fun known => hnew (knows_iff.mp known)

/-- A topic is passed on to the transport, after some lines for the log. -/
def forwarding (T : Transport τ ε) (topic : String) (s : Session τ η) (lines : List Log.Line) :
    Journal (Event ε η) (Except (Error ε) Unit × Session τ η) :=
  ⟨((T.subscribe s.transport topic).1.mapError .transport, { s with transport := (T.subscribe s.transport topic).2 }),
    lines.map .log ++ [.subscribe topic (T.subscribe s.transport topic).1]⟩

/-- The line that comes before everything else that a subscription does. -/
def subscribing (topic : String) : Log.Line := ⟨.debug, s!"MQTT subscribe {topic}"⟩

theorem run_subscribe_known (known : topic ∈ s.topics.map (·.text)) :
    (subscribe T topic).run s = forwarding T topic s [subscribing topic] := by
  rw [run_subscribe_of_ok (run_remember_known (knows_iff.mpr known))]
  rfl

theorem run_subscribe_tooLong (hnew : topic ∉ s.topics.map (·.text)) (long : 64 < topic.utf8ByteSize) :
    (subscribe T topic).run s = ⟨(.error .topicTooLong, s), [.log (subscribing topic)]⟩ :=
  run_subscribe_of_error (run_remember_tooLong (knows_eq_false hnew) long)

theorem run_subscribe_tooMany (hnew : topic ∉ s.topics.map (·.text)) (fits : topic.utf8ByteSize ≤ 64)
    (full : maxTopics ≤ s.topics.length) :
    (subscribe T topic).run s = ⟨(.error .tooManyTopics, s), [.log (subscribing topic)]⟩ :=
  run_subscribe_of_error (run_remember_tooMany (knows_eq_false hnew) fits full)

theorem run_subscribe_new (hnew : topic ∉ s.topics.map (·.text)) (fits : topic.utf8ByteSize ≤ 64)
    (room : s.topics.length < maxTopics) :
    (subscribe T topic).run s = forwarding T topic { s with topics := s.topics ++ [⟨topic, fits⟩] }
      [subscribing topic, ⟨.info, s!"MQTT added topic {topic}"⟩] := by
  rw [run_subscribe_of_ok (run_remember_new (knows_eq_false hnew) fits room)]
  rfl

/-- A subscription to a known topic is passed on, a new topic is refused and leaves nothing behind, or it is remembered
and passed on. -/
theorem subscribe_cases (T : Transport τ ε) (topic : String) (s : Session τ η) :
    (topic ∈ s.topics.map (·.text) ∧ (subscribe T topic).run s = forwarding T topic s [subscribing topic]) ∨
    (topic ∉ s.topics.map (·.text) ∧ (64 < topic.utf8ByteSize ∨ maxTopics ≤ s.topics.length) ∧
      ∃ e, (e = .topicTooLong ∨ e = .tooManyTopics) ∧
        (subscribe T topic).run s = ⟨(.error e, s), [.log (subscribing topic)]⟩) ∨
    topic ∉ s.topics.map (·.text) ∧ s.topics.length < maxTopics ∧ ∃ fits : topic.utf8ByteSize ≤ 64,
      (subscribe T topic).run s = forwarding T topic { s with topics := s.topics ++ [⟨topic, fits⟩] }
        [subscribing topic, ⟨.info, s!"MQTT added topic {topic}"⟩] := by
  by_cases known : topic ∈ s.topics.map (·.text)
  · exact Or.inl ⟨known, run_subscribe_known known⟩
  · by_cases long : 64 < topic.utf8ByteSize
    · exact Or.inr (Or.inl ⟨known, Or.inl long, _, Or.inl rfl, run_subscribe_tooLong known long⟩)
    · have fits : topic.utf8ByteSize ≤ 64 := Nat.le_of_not_lt long
      by_cases full : maxTopics ≤ s.topics.length
      · exact Or.inr (Or.inl ⟨known, Or.inr full, _, Or.inr rfl, run_subscribe_tooMany known fits full⟩)
      · have room : s.topics.length < maxTopics := Nat.lt_of_not_le full
        exact Or.inr (Or.inr ⟨known, room, fits, run_subscribe_new known fits room⟩)

end Topics

section Delivery

theorem run_onMessage_full (handler : η) (full : maxHandlers ≤ s.handlers.length) :
    (onMessage handler : Action τ ε η Unit).run s = ⟨(.error .tooManyHandlers, s), []⟩ := by
  simp [onMessage, full]

theorem run_onMessage_room (handler : η) (room : s.handlers.length < maxHandlers) :
    (onMessage handler : Action τ ε η Unit).run s =
      ⟨(.ok (), { s with handlers := s.handlers ++ [handler] }), []⟩ := by
  simp [onMessage, Nat.not_le_of_lt room]

/-- What the arrival of a message leaves in the journal. -/
def arrival (handlers : List η) (message : Message) : List (Event ε η) :=
  .log ⟨.trace, s!"MQTT message on {message.topic}, {message.payload.length % 4294967296} bytes"⟩ ::
    handlers.map fun handler => .deliver handler message

theorem run_dispatch (message : Message) (s : Session τ η) :
    (dispatch message : Action τ ε η Unit).run s = ⟨(.ok (), s), arrival s.handlers message⟩ := by
  have hdeliver (handler : η) : (Procedure.write (.deliver handler message) : Action τ ε η Unit).run s =
    ⟨(.ok (), s), [.deliver handler message]⟩ := rfl
  rw [dispatch, Procedure.run_bind_of_ok (run_note _ _ s), Procedure.run_bind_of_ok (Procedure.run_read s),
    Procedure.run_forEach_of_unchanged hdeliver, ← List.map_eq_flatMap]
  rfl

theorem run_service (T : Transport τ ε) (s : Session τ η) :
    (service T).run s =
      ⟨((T.poll s.transport).2.1.mapError .transport, { s with transport := (T.poll s.transport).2.2 }),
        .poll (T.poll s.transport).1 (T.poll s.transport).2.1 ::
          (T.poll s.transport).1.flatMap (arrival s.handlers)⟩ := by
  rw [service, Procedure.run_bind_of_ok (run_call _ _ s)]
  rcases T.poll s.transport with ⟨messages, reply, transport⟩
  rw [Procedure.run_bind_of_ok (Procedure.run_forEach_of_unchanged (fun message => run_dispatch message _) _),
    Procedure.run_ofExcept, List.append_nil]
  rfl

end Delivery

section Publishing

/-- The line that tells of a message too long for the buffer. -/
def tooLong (buffer frame : Nat) : Event ε η :=
  .log ⟨.warn, s!"MQTT message too long. buffer: {buffer % 4294967296}, frame: {frame % 4294967296}"⟩

theorem run_publish_streamed {message : Message} (h : T.bufferSize s.transport < frameSize s.settings message) :
    (publish T message).run s =
      ⟨((T.publishStreamed s.transport message).1.mapError .transport,
          { s with transport := (T.publishStreamed s.transport message).2 }),
        [tooLong (T.bufferSize s.transport) (frameSize s.settings message),
          .publishStreamed message (T.publishStreamed s.transport message).1]⟩ := by
  rw [publish, Procedure.run_bind_of_ok (Procedure.run_read s), Procedure.run_ite, if_pos h,
    Procedure.run_bind_of_ok (run_note _ _ s), run_request]
  rfl

theorem run_publish_staged {message : Message} (h : frameSize s.settings message ≤ T.bufferSize s.transport) :
    (publish T message).run s =
      ⟨((T.publish s.transport message).1.mapError .transport,
          { s with transport := (T.publish s.transport message).2 }),
        [.publish message (T.publish s.transport message).1]⟩ := by
  rw [publish, Procedure.run_bind_of_ok (Procedure.run_read s), Procedure.run_ite, if_neg (Nat.not_lt_of_le h),
    run_request]
  rfl

theorem run_publishTelemetry_of_ok {record : Telemetry} {capacity : Nat} {payload : List UInt8}
    (h : record.encode capacity = .ok payload) :
    (publishTelemetry T topic record capacity).run s = (publish T ⟨topic, payload⟩).run s := by
  have hpayload : (record.encode capacity).mapError (Error.encode (ε := ε)) = .ok payload := by
    rw [h]
    rfl
  rw [publishTelemetry, hpayload, Procedure.run_bind_of_ok (Procedure.run_ofExcept_ok payload s)]
  rfl

theorem run_publishTelemetry_of_error {record : Telemetry} {capacity : Nat} {cause : Wire.Error}
    (h : record.encode capacity = .error cause) :
    (publishTelemetry T topic record capacity).run s = ⟨(.error (.encode cause), s), []⟩ := by
  have hcause : (record.encode capacity).mapError (Error.encode (ε := ε)) = .error (.encode cause) := by
    rw [h]
    rfl
  rw [publishTelemetry, hcause]
  exact Procedure.run_bind_of_error (Procedure.run_ofExcept_error _ s)

end Publishing

section Reconnecting

/-- What subscribing again to a topic leaves in the journal. -/
def resubscription (topic : String) (reply : Except ε Unit) : List (Event ε η) :=
  match reply with
  | .ok () => [.subscribe topic reply]
  | .error _ => [.subscribe topic reply, .log ⟨.error, s!"MQTT resubscribe to {topic} failed"⟩]

theorem run_resubscribe (T : Transport τ ε) (topic : String) (s : Session τ η) :
    (resubscribe T topic).run s =
      ⟨(.ok (), { s with transport := (T.subscribe s.transport topic).2 }),
        resubscription topic (T.subscribe s.transport topic).1⟩ := by
  rw [resubscribe, Procedure.run_bind_of_ok (run_call _ _ s)]
  rcases T.subscribe s.transport topic with ⟨reply, transport⟩
  cases reply <;> rfl

theorem run_resubscribe_all (T : Transport τ ε) (topics : List (BoundedText 64)) (s : Session τ η) :
    ∃ transport replies, replies.length = topics.length ∧
      (Procedure.forEach (fun topic => resubscribe T topic.text) topics).run s =
        ⟨(.ok (), { s with transport }), (List.zipWith resubscription (topics.map (·.text)) replies).flatten⟩ := by
  induction topics generalizing s with
  | nil => exact ⟨s.transport, [], rfl, rfl⟩
  | cons topic rest ih =>
    obtain ⟨transport, replies, hlength, hrest⟩ := ih { s with transport := (T.subscribe s.transport topic.text).2 }
    refine ⟨transport, (T.subscribe s.transport topic.text).1 :: replies, by simp [hlength], ?_⟩
    rw [Procedure.forEach_cons, Procedure.run_bind_of_ok (run_resubscribe T topic.text s), hrest]
    rfl

theorem run_reconnect_of_error {e : ε} {transport : τ}
    (h : T.connect s.transport s.clientId.text = (.error e, transport)) :
    (reconnect T).run s =
      ⟨(.error (.transport e), { s with transport }), [.connect s.clientId.text (.error e)]⟩ := by
  have hrequest := run_request (fun transport => T.connect transport s.clientId.text)
    (.connect s.clientId.text : Except ε Unit → Event ε η) s
  rw [h] at hrequest
  rw [reconnect, Procedure.run_bind_of_ok (Procedure.run_read s), Procedure.run_bind_of_error hrequest]
  rfl

theorem run_reconnect_of_ok {transport : τ} (h : T.connect s.transport s.clientId.text = (.ok (), transport)) :
    ∃ transport replies, replies.length = s.topics.length ∧
      (reconnect T).run s = ⟨(.ok (), { s with transport }), .connect s.clientId.text (.ok ()) ::
        (List.zipWith resubscription (s.topics.map (·.text)) replies).flatten⟩ := by
  have hrequest := run_request (fun transport => T.connect transport s.clientId.text)
    (.connect s.clientId.text : Except ε Unit → Event ε η) s
  rw [h] at hrequest
  obtain ⟨last, replies, hlength, hrest⟩ := run_resubscribe_all T s.topics { s with transport }
  refine ⟨last, replies, hlength, ?_⟩
  rw [reconnect, Procedure.run_bind_of_ok (Procedure.run_read s), Procedure.run_bind_of_ok hrequest, hrest]
  rfl

theorem run_healthCheck_up {now : UInt32} (up : (T.isConnected s.transport).1 = true) :
    (healthCheck T now).run s =
      ⟨(((service T).run { s with transport := (T.isConnected s.transport).2 }).value.1.map fun _ => true,
          ((service T).run { s with transport := (T.isConnected s.transport).2 }).value.2),
        .query true :: ((service T).run { s with transport := (T.isConnected s.transport).2 }).events⟩ := by
  rw [healthCheck, Procedure.run_bind_of_ok (run_call _ _ s), up]
  simp only [if_true, Procedure.run_bind_pure]
  rfl

theorem run_healthCheck_tooSoon {now : UInt32} (down : (T.isConnected s.transport).1 = false)
    (soon : s.isTooSoon now = true) :
    (healthCheck T now).run s =
      ⟨(.ok false, { s with transport := (T.isConnected s.transport).2 }), [.query false]⟩ := by
  have hsoon : isTooSoon { s with transport := (T.isConnected s.transport).2 } now = true := soon
  simp [healthCheck, run_call, down, hsoon]

/-- The session that an attempt at `now` starts from. -/
def attempting (T : Transport τ ε) (s : Session τ η) (now : UInt32) : Session τ η :=
  { s with lastAttempt := some now, transport := (T.isConnected s.transport).2 }

theorem run_healthCheck_attempt {now : UInt32} (down : (T.isConnected s.transport).1 = false)
    (late : s.isTooSoon now = false) :
    (healthCheck T now).run s =
      match (reconnect T).run (attempting T s now) with
      | ⟨(.ok (), s'), events⟩ =>
        ⟨(.ok true, { s' with lastAttempt := none }),
          .query false :: events ++ [.log ⟨.info, "MQTT reconnected"⟩]⟩
      | ⟨(.error _, s'), events⟩ =>
        ⟨(.ok false, s'), .query false :: events ++
          [.log ⟨.error, s!"MQTT reconnect failed, next try in {s.settings.reconnectIntervalMs.toNat} ms"⟩]⟩ := by
  have hlate : isTooSoon { s with transport := (T.isConnected s.transport).2 } now = false := late
  have hattempt : { s with lastAttempt := some now, transport := (T.isConnected s.transport).2 } =
    attempting T s now := rfl
  rcases hreconnect : (reconnect T).run (attempting T s now) with ⟨⟨reply, s'⟩, events⟩
  cases reply <;> simp [healthCheck, run_call, run_note, down, hlate, hattempt, hreconnect]

theorem run_healthCheck_refused {now : UInt32} {e : ε} {transport : τ} (down : (T.isConnected s.transport).1 = false)
    (late : s.isTooSoon now = false)
    (h : T.connect (T.isConnected s.transport).2 s.clientId.text = (.error e, transport)) :
    (healthCheck T now).run s =
      ⟨(.ok false, { s with lastAttempt := some now, transport }),
        [.query false, .connect s.clientId.text (.error e),
          .log ⟨.error, s!"MQTT reconnect failed, next try in {s.settings.reconnectIntervalMs.toNat} ms"⟩]⟩ := by
  rw [run_healthCheck_attempt down late, run_reconnect_of_error (s := attempting T s now) h]
  rfl

theorem run_healthCheck_restored {now : UInt32} {transport : τ} (down : (T.isConnected s.transport).1 = false)
    (late : s.isTooSoon now = false)
    (h : T.connect (T.isConnected s.transport).2 s.clientId.text = (.ok (), transport)) :
    ∃ transport replies, replies.length = s.topics.length ∧
      (healthCheck T now).run s =
        ⟨(.ok true, { s with lastAttempt := none, transport }),
          .query false :: .connect s.clientId.text (.ok ()) ::
            (List.zipWith resubscription (s.topics.map (·.text)) replies).flatten ++
              [.log ⟨.info, "MQTT reconnected"⟩]⟩ := by
  obtain ⟨last, replies, hlength, hrun⟩ := run_reconnect_of_ok (s := attempting T s now) h
  refine ⟨last, replies, hlength, ?_⟩
  rw [run_healthCheck_attempt down late, hrun]
  rfl

/-- A check that attempts to connect is refused, or it restores the subscriptions. -/
theorem healthCheck_cases {now : UInt32} (down : (T.isConnected s.transport).1 = false)
    (late : s.isTooSoon now = false) :
    (∃ e transport, T.connect (T.isConnected s.transport).2 s.clientId.text = (.error e, transport) ∧
      (healthCheck T now).run s =
        ⟨(.ok false, { s with lastAttempt := some now, transport }),
          [.query false, .connect s.clientId.text (.error e),
            .log ⟨.error, s!"MQTT reconnect failed, next try in {s.settings.reconnectIntervalMs.toNat} ms"⟩]⟩) ∨
    ∃ transport replies, replies.length = s.topics.length ∧
      (healthCheck T now).run s =
        ⟨(.ok true, { s with lastAttempt := none, transport }),
          .query false :: .connect s.clientId.text (.ok ()) ::
            (List.zipWith resubscription (s.topics.map (·.text)) replies).flatten ++
              [.log ⟨.info, "MQTT reconnected"⟩]⟩ := by
  rcases hconnect : T.connect (T.isConnected s.transport).2 s.clientId.text with ⟨reply, transport⟩
  cases reply with
  | error e => exact Or.inl ⟨e, transport, rfl, run_healthCheck_refused down late hconnect⟩
  | ok => exact Or.inr (run_healthCheck_restored down late hconnect)

end Reconnecting

end ControlLoop.Session
