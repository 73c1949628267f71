import ControlLoop.Proofs.Network.Session.Gate

/-!
# Delivery to the handlers

What reaches a session is a string of handlers that ask for messages and of messages, some handed over by a poll and some
by a dispatch. Each message goes to the handlers that have asked before it, in their order, and four of them at most are
let in. That is all that the handlers get to see, whatever else the session does in between.
-/

namespace ControlLoop.Session

set_option autoImplicit false

variable {τ ε η : Type} {T : Transport τ ε} {drift : τ → τ → Prop} {first s s' : Session τ η}
variable {events : List (Event ε η)} {history : List (Entry ε η)} {handlers : List η}

def Event.delivery? : Event ε η → Option (η × Message)
  | .deliver handler message => some (handler, message)
  | _ => none

def Event.polled? : Event ε η → Option (List Message)
  | .poll messages _ => some messages
  | _ => none

/-- The calls of handlers, each with its message. -/
def deliveries (events : List (Event ε η)) : List (η × Message) := events.filterMap Event.delivery?

/-- The messages that polls have handed over. -/
def polled (events : List (Event ε η)) : List Message := (events.filterMap Event.polled?).flatten

inductive Inbound (η : Type) where
  | applicant (handler : η)
  | message (message : Message)

def Inbound.applicant? : Inbound η → Option η
  | .applicant handler => some handler
  | .message _ => none

def applicants (inbound : List (Inbound η)) : List η := inbound.filterMap Inbound.applicant?

def Entry.inbound (entry : Entry ε η) : List (Inbound η) :=
  match entry.operation with
  | .onMessage handler => [.applicant handler]
  | .dispatch message => [.message message]
  | _ => (polled entry.events).map .message

def toEach (handlers : List η) (message : Message) : List (η × Message) := handlers.map fun handler => (handler, message)

/-- The handlers with one more, if they were fewer than four. -/
def letIn (handlers : List η) (handler : η) : List η :=
  if handlers.length < 4 then handlers ++ [handler] else handlers

def letInAll (handlers : List η) : List (Inbound η) → List η
  | [] => handlers
  | .applicant handler :: later => letInAll (letIn handlers handler) later
  | .message _ :: later => letInAll handlers later

/-- What the handlers see of what reaches the session. -/
def fanOut (handlers : List η) : List (Inbound η) → List (η × Message)
  | [] => []
  | .applicant handler :: later => fanOut (letIn handlers handler) later
  | .message message :: later => toEach handlers message ++ fanOut handlers later

theorem letInAll_append (handlers : List η) (before after : List (Inbound η)) :
    letInAll handlers (before ++ after) = letInAll (letInAll handlers before) after := by
  induction before generalizing handlers with
  | nil => rfl
  | cons head rest ih =>
    cases head with
    | applicant handler => exact ih (letIn handlers handler)
    | message message => exact ih handlers

theorem fanOut_append (handlers : List η) (before after : List (Inbound η)) :
    fanOut handlers (before ++ after) = fanOut handlers before ++ fanOut (letInAll handlers before) after := by
  induction before generalizing handlers with
  | nil => rfl
  | cons head rest ih =>
    cases head with
    | applicant handler => exact ih (letIn handlers handler)
    | message message =>
      simp only [List.cons_append, fanOut, letInAll, ih, List.append_assoc]

theorem letInAll_messages (handlers : List η) (messages : List Message) :
    letInAll handlers (messages.map .message) = handlers := by
  induction messages with
  | nil => rfl
  | cons message rest ih => exact ih

theorem fanOut_messages (handlers : List η) (messages : List Message) :
    fanOut handlers (messages.map .message) = messages.flatMap (toEach handlers) := by
  induction messages with
  | nil => rfl
  | cons message rest ih => rw [List.map_cons, fanOut, ih, List.flatMap_cons]

theorem deliveries_append (events later : List (Event ε η)) :
    deliveries (events ++ later) = deliveries events ++ deliveries later :=
  List.filterMap_append

theorem deliveries_arrival (handlers : List η) (message : Message) :
    deliveries (arrival handlers message : List (Event ε η)) = toEach handlers message := by
  rw [deliveries, arrival, List.filterMap_cons_none rfl, List.filterMap_map, toEach, ← List.filterMap_eq_map]
  rfl

theorem deliveries_arrivals (handlers : List η) (messages : List Message) :
    deliveries (messages.flatMap (arrival handlers) : List (Event ε η)) = messages.flatMap (toEach handlers) := by
  induction messages with
  | nil => rfl
  | cons message rest ih =>
    rw [List.flatMap_cons, deliveries_append, deliveries_arrival, ih, List.flatMap_cons]

theorem polled_arrivals (handlers : List η) (messages : List Message) :
    polled (messages.flatMap (arrival handlers) : List (Event ε η)) = [] := by
  rw [polled, filterMap_arrivals (fun _ _ => rfl) (fun _ => rfl), List.flatten_nil]

/-- An operation that lets no handler in, and hands over what it has polled. -/
structure Relays (s : Session τ η) (events : List (Event ε η)) (s' : Session τ η) : Prop where
  deliveries : deliveries events = (polled events).flatMap (toEach s.handlers)
  handlers : s'.handlers = s.handlers

theorem relays_subscribe (topic : String) :
    Relays s ((subscribe T topic).run s).events ((subscribe T topic).run s).value.2 := by
  rcases subscribe_cases T topic s with ⟨_, hrun⟩ | ⟨_, _, e, _, hrun⟩ | ⟨_, _, fits, hrun⟩
  · rw [hrun]
    exact ⟨rfl, rfl⟩
  · rw [hrun]
    exact ⟨rfl, rfl⟩
  · rw [hrun]
    exact ⟨rfl, rfl⟩

theorem relays_publish (message : Message) :
    Relays s ((publish T message).run s).events ((publish T message).run s).value.2 := by
  by_cases h : T.bufferSize s.transport < frameSize s.settings message
  · rw [run_publish_streamed h]
    exact ⟨rfl, rfl⟩
  · rw [run_publish_staged (Nat.le_of_not_lt h)]
    exact ⟨rfl, rfl⟩

theorem relays_publishTelemetry (topic : String) (record : Telemetry) (capacity : Nat) :
    Relays s ((publishTelemetry T topic record capacity).run s).events
      ((publishTelemetry T topic record capacity).run s).value.2 := by
  cases h : record.encode capacity with
  | ok payload =>
    rw [run_publishTelemetry_of_ok h]
    exact relays_publish _
  | error cause =>
    rw [run_publishTelemetry_of_error h]
    exact ⟨rfl, rfl⟩

/-- What a check of a connected session polls is what the transport hands over, also if an error comes after it. -/
theorem healthCheck_up (now : UInt32) (up : T.isUp s.transport) :
    polled ((healthCheck T now).run s).events = (T.poll (T.isConnected s.transport).2).1 ∧
      deliveries ((healthCheck T now).run s).events =
        (T.poll (T.isConnected s.transport).2).1.flatMap (toEach s.handlers) ∧
      ((healthCheck T now).run s).value.2.handlers = s.handlers ∧
      ((healthCheck T now).run s).value.1 =
        ((T.poll (T.isConnected s.transport).2).2.1.mapError .transport).map fun _ => true := by
  rw [run_healthCheck_up up, run_service]
  refine ⟨?_, deliveries_arrivals s.handlers _, rfl, rfl⟩
  have hrest := polled_arrivals (ε := ε) s.handlers (T.poll (T.isConnected s.transport).2).1
  exact (congrArg ((T.poll (T.isConnected s.transport).2).1 ++ ·) hrest).trans (List.append_nil _)

theorem healthCheck_down (now : UInt32) (down : ¬ T.isUp s.transport) :
    polled ((healthCheck T now).run s).events = [] ∧ deliveries ((healthCheck T now).run s).events = [] ∧
      ((healthCheck T now).run s).value.2.handlers = s.handlers := by
  rw [Transport.isUp, Bool.not_eq_true] at down
  cases soon : s.isTooSoon now with
  | true =>
    rw [run_healthCheck_tooSoon down soon]
    exact ⟨rfl, rfl, rfl⟩
  | false =>
    rcases healthCheck_cases down soon with ⟨_, _, _, hrun⟩ | ⟨_, replies, _, hrun⟩
    · rw [hrun]
      exact ⟨rfl, rfl, rfl⟩
    · rw [hrun]
      refine ⟨?_, filterMap_resubscriptions (fun _ _ => rfl) (fun _ => rfl) _ replies _, rfl⟩
      exact congrArg List.flatten (filterMap_resubscriptions (fun _ _ => rfl) (fun _ => rfl) _ replies _)

theorem relays_healthCheck (now : UInt32) :
    Relays s ((healthCheck T now).run s).events ((healthCheck T now).run s).value.2 := by
  by_cases up : T.isUp s.transport
  · obtain ⟨hpolled, hdeliveries, hhandlers, _⟩ := healthCheck_up now up
    rw [← hpolled] at hdeliveries
    exact ⟨hdeliveries, hhandlers⟩
  · obtain ⟨hpolled, hdeliveries, hhandlers⟩ := healthCheck_down now up
    constructor
    · rw [hdeliveries, hpolled]
      rfl
    · exact hhandlers

/-- From `s` to `s'` the handlers have seen what has reached the session, and have been joined by those let in. -/
structure Delivers (s : Session τ η) (inbound : List (Inbound η)) (events : List (Event ε η)) (s' : Session τ η) :
    Prop where
  deliveries : deliveries events = fanOut s.handlers inbound
  handlers : s'.handlers = letInAll s.handlers inbound

theorem Relays.delivers (h : Relays s events s') : Delivers s ((polled events).map .message) events s' := by
  constructor
  · rw [fanOut_messages]
    exact h.deliveries
  · rw [letInAll_messages]
    exact h.handlers

theorem delivers_onMessage (handler : η) :
    Delivers s [.applicant handler] ((onMessage handler : Action τ ε η Unit).run s).events
      ((onMessage handler : Action τ ε η Unit).run s).value.2 := by
  by_cases room : s.handlers.length < 4
  · rw [run_onMessage_room handler room]
    exact ⟨rfl, (if_pos room).symm⟩
  · rw [run_onMessage_full handler (Nat.le_of_not_lt room)]
    exact ⟨rfl, (if_neg room).symm⟩

theorem delivers_dispatch (message : Message) :
    Delivers s [.message message] ((dispatch message : Action τ ε η Unit).run s).events
      ((dispatch message : Action τ ε η Unit).run s).value.2 := by
  rw [run_dispatch]
  constructor
  · rw [deliveries_arrival]
    exact (List.append_nil _).symm
  · rfl

theorem delivers_perform (T : Transport τ ε) (s : Session τ η) (operation : Operation η) :
    Delivers s (operation.entry T s).inbound (operation.perform T s).events (operation.perform T s).value.2 := by
  cases operation with
  | subscribe topic => exact (relays_subscribe topic).delivers
  | healthCheck now => exact (relays_healthCheck now).delivers
  | publish message => exact (relays_publish message).delivers
  | publishTelemetry topic record capacity => exact (relays_publishTelemetry topic record capacity).delivers
  | onMessage handler => exact delivers_onMessage handler
  | dispatch message => exact delivers_dispatch message

theorem Delivers.trans {s'' : Session τ η} {inbound inbound' : List (Inbound η)} {later : List (Event ε η)}
    (h : Delivers s inbound events s') (h' : Delivers s' inbound' later s'') :
    Delivers s (inbound ++ inbound') (events ++ later) s'' := by
  constructor
  · rw [deliveries_append, fanOut_append, h.deliveries, h'.deliveries, h.handlers]
  · rw [letInAll_append, ← h.handlers, h'.handlers]

theorem delivers_of_reaches (h : Reaches T drift first history s) :
    Delivers first (history.flatMap Entry.inbound) (history.flatMap Entry.events) s := by
  induction h with
  | start => exact ⟨rfl, rfl⟩
  | operate operation _ ih =>
    rw [List.flatMap_append, List.flatMap_append, List.flatMap_singleton, List.flatMap_singleton]
    exact ih.trans (delivers_perform T _ operation)
  | drift _ _ _ ih => exact ⟨ih.deliveries, ih.handlers⟩

theorem letInAll_eq_take (few : handlers.length ≤ 4) (inbound : List (Inbound η)) :
    letInAll handlers inbound = (handlers ++ applicants inbound).take 4 := by
  induction inbound generalizing handlers with
  | nil => rw [applicants, List.filterMap_nil, List.append_nil, List.take_of_length_le few, letInAll]
  | cons head rest ih =>
    cases head with
    | message message => exact ih few
    | applicant handler =>
      by_cases room : handlers.length < 4
      · have hlet : letIn handlers handler = handlers ++ [handler] := if_pos room
        have hlength : (handlers ++ [handler]).length ≤ 4 := by
          rw [List.length_append, List.length_singleton]
          exact room
        rw [letInAll, hlet, ih hlength, List.append_assoc]
        rfl
      · have hlet : letIn handlers handler = handlers := if_neg room
        have hfull : 4 - handlers.length = 0 := by omega
        rw [letInAll, hlet, ih few, List.take_append, List.take_append, hfull, List.take_zero, List.take_zero]

/-- The handlers of a session are the first four that have asked, so the next one is let in or refused by their number. -/
theorem run_onMessage (handlers_eq : s.handlers = handlers.take 4) (handler : η) :
    (onMessage handler : Action τ ε η Unit).run s =
      if handlers.length < 4 then ⟨(.ok (), { s with handlers := s.handlers ++ [handler] }), []⟩
      else ⟨(.error .tooManyHandlers, s), []⟩ := by
  have hlength : s.handlers.length = min 4 handlers.length := by rw [handlers_eq, List.length_take]
  by_cases room : handlers.length < 4
  · rw [if_pos room]
    exact run_onMessage_room handler (by rw [hlength, maxHandlers]; omega)
  · rw [if_neg room]
    exact run_onMessage_full handler (by rw [hlength, maxHandlers]; omega)

/-- Over a whole run the handlers see every message that polls and dispatches have handed over, in order, each of them
once for each time that it had been let in. An error of a poll takes nothing back, and a fifth handler changes nothing. -/
theorem messages_fanned_out (transport : τ) (settings : Settings) (seed : UInt16)
    (h : Reaches T drift (start transport settings seed : Journal (Event ε η) _).value history s) :
    deliveries (history.flatMap Entry.events) = fanOut [] (history.flatMap Entry.inbound) ∧
    (∀ handler, (onMessage handler : Action τ ε η Unit).run s =
      if (applicants (history.flatMap Entry.inbound)).length < 4 then
        ⟨(.ok (), { s with handlers := s.handlers ++ [handler] }), []⟩
      else ⟨(.error .tooManyHandlers, s), []⟩) ∧
    (∀ now, T.isUp s.transport →
      polled ((healthCheck T now).run s).events = (T.poll (T.isConnected s.transport).2).1 ∧
      deliveries ((healthCheck T now).run s).events =
        (T.poll (T.isConnected s.transport).2).1.flatMap
          (toEach ((applicants (history.flatMap Entry.inbound)).take 4)) ∧
      ((healthCheck T now).run s).value.1 =
        ((T.poll (T.isConnected s.transport).2).2.1.mapError .transport).map fun _ => true) ∧
    ∀ now, ¬ T.isUp s.transport →
      polled ((healthCheck T now).run s).events = [] ∧ deliveries ((healthCheck T now).run s).events = [] := by
  have hrun := delivers_of_reaches h
  have hhandlers : s.handlers = (applicants (history.flatMap Entry.inbound)).take 4 :=
    hrun.handlers.trans (letInAll_eq_take (Nat.zero_le _) _)
  refine ⟨hrun.deliveries, run_onMessage hhandlers, ?_, ?_⟩
  · intro now up
    obtain ⟨hpolled, hdeliveries, _, hanswer⟩ := healthCheck_up now up
    rw [hhandlers] at hdeliveries
    exact ⟨hpolled, hdeliveries, hanswer⟩
  · intro now down
    obtain ⟨hpolled, hdeliveries, _⟩ := healthCheck_down now down
    exact ⟨hpolled, hdeliveries⟩

/-- A transport that drops at every poll, after it has handed over what had arrived. -/
def expiring : Transport (Bool × List Message) String where
  isConnected t := (t.1, t)
  connect t _ := (.ok (), (true, t.2))
  poll t := (t.2, .error "dropped", (false, []))
  subscribe t _ := (.ok (), t)
  publish t _ := (.ok (), t)
  publishStreamed t _ := (.ok (), t)
  bufferSize _ := 32

/-- Two messages are polled for one handler, a third is dispatched to four, and a fifth handler comes too late. -/
def bustle : List (Operation Nat) :=
  [.onMessage 1, .healthCheck 0, .onMessage 2, .onMessage 1, .onMessage 3, .onMessage 4, .dispatch ⟨"c", []⟩]

def mailbox : Bool × List Message := (true, [⟨"a", []⟩, ⟨"b", []⟩])

theorem messages_fanned_out_bustle :
    ∃ history s, Reaches expiring (fun _ _ => False)
        (start mailbox {} 48879 : Journal (Event String Nat) _).value history s ∧
      history.map Entry.operation = bustle ∧
      deliveries (history.flatMap Entry.events) =
        [(1, ⟨"a", []⟩), (1, ⟨"b", []⟩), (1, ⟨"c", []⟩), (2, ⟨"c", []⟩), (1, ⟨"c", []⟩), (3, ⟨"c", []⟩)] ∧
      (onMessage 5 : Action _ String Nat Unit).run s = ⟨(.error .tooManyHandlers, s), []⟩ ∧
      deliveries ((healthCheck expiring 7).run s).events = [] := by
  have h := reaches_performAll expiring (fun _ _ => False)
    (start mailbox {} 48879 : Journal (Event String Nat) _).value bustle
  obtain ⟨hdeliveries, hregister, _, hdown⟩ := messages_fanned_out mailbox {} 48879 h
  exact ⟨_, _, h, rfl, hdeliveries, hregister 5, (hdown 7 Bool.false_ne_true).2⟩

end ControlLoop.Session
