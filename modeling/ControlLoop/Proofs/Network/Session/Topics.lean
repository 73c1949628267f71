import ControlLoop.Proofs.Network.Session.Subscriptions

/-!
# The memory of topics

A session remembers the distinct topics that it accepted, in the order in which they first were, whatever its transport
does. A topic that it refuses to remember leaves no trace, and every other one is passed on once.
-/

namespace ControlLoop.Session

set_option autoImplicit false

variable {τ ε η : Type} {T : Transport τ ε} {drift : τ → τ → Prop} {first s s' : Session τ η}
variable {history : List (Entry ε η)}

/-- The topic of a subscription, unless the session refused to remember it. -/
def Entry.accepted? (entry : Entry ε η) : Option String :=
  match entry.operation, entry.answer with
  | .subscribe topic, .ok _ => some topic
  | .subscribe topic, .error (.transport _) => some topic
  | _, _ => none

def accepted (history : List (Entry ε η)) : List String := history.filterMap Entry.accepted?

/-- What an operation that accepts `topic?` does to the memory. -/
inductive Memorizes (s : Session τ η) (topic? : Option String) (s' : Session τ η) : Prop where
  | nothing (none_accepted : topic? = none) (same : s'.topics = s.topics)
  | known {topic : String} (accepts : topic? = some topic) (mem : topic ∈ s.topics.map (·.text))
      (same : s'.topics = s.topics)
  | new {topic : String} (fits : topic.utf8ByteSize ≤ 64) (accepts : topic? = some topic)
      (not_mem : topic ∉ s.topics.map (·.text)) (room : s.topics.length < maxTopics)
      (grown : s'.topics = s.topics ++ [⟨topic, fits⟩])

theorem accepted?_of_run {topic : String} {s₁ : Session τ η} {lines : List Log.Line}
    (h : (subscribe T topic).run s = forwarding T topic s₁ lines) :
    ((Operation.subscribe topic).entry T s).accepted? = some topic := by
  simp only [Operation.entry, Operation.perform, answering, h, forwarding, Entry.accepted?]
  cases (T.subscribe s₁.transport topic).1 <;> rfl

theorem memorizes_subscribe (T : Transport τ ε) (topic : String) (s : Session τ η) :
    Memorizes s ((Operation.subscribe topic).entry T s).accepted? ((subscribe T topic).run s).value.2 := by
  rcases subscribe_cases T topic s with ⟨hmem, hrun⟩ | ⟨_, _, e, he, hrun⟩ | ⟨hnew, room, fits, hrun⟩
  · exact .known (accepted?_of_run hrun) hmem (by rw [hrun]; rfl)
  · refine .nothing ?_ (by rw [hrun])
    simp only [Operation.entry, Operation.perform, answering, hrun]
    rcases he with rfl | rfl <;> rfl
  · exact .new fits (accepted?_of_run hrun) hnew room (by rw [hrun]; rfl)

theorem topics_publish (message : Message) : ((publish T message).run s).value.2.topics = s.topics := by
  by_cases h : T.bufferSize s.transport < frameSize s.settings message
  · rw [run_publish_streamed h]
  · rw [run_publish_staged (Nat.le_of_not_lt h)]

theorem topics_publishTelemetry (topic : String) (record : Telemetry) (capacity : Nat) :
    ((publishTelemetry T topic record capacity).run s).value.2.topics = s.topics := by
  cases h : record.encode capacity with
  | ok payload =>
    rw [run_publishTelemetry_of_ok h]
    exact topics_publish _
  | error cause => rw [run_publishTelemetry_of_error h]

theorem topics_onMessage (handler : η) :
    ((onMessage handler : Action τ ε η Unit).run s).value.2.topics = s.topics := by
  by_cases full : maxHandlers ≤ s.handlers.length
  · rw [run_onMessage_full handler full]
  · rw [run_onMessage_room handler (Nat.lt_of_not_le full)]

theorem topics_healthCheck (now : UInt32) : ((healthCheck T now).run s).value.2.topics = s.topics := by
  cases up : (T.isConnected s.transport).1 with
  | true => rw [run_healthCheck_up up, run_service]
  | false =>
    cases soon : s.isTooSoon now with
    | true => rw [run_healthCheck_tooSoon up soon]
    | false =>
      rcases healthCheck_cases up soon with ⟨_, _, _, hrun⟩ | ⟨_, _, _, hrun⟩
      · rw [hrun]
      · rw [hrun]

theorem memorizes_perform (T : Transport τ ε) (s : Session τ η) (operation : Operation η) :
    Memorizes s (operation.entry T s).accepted? (operation.perform T s).value.2 := by
  cases operation with
  | subscribe topic => exact memorizes_subscribe T topic s
  | healthCheck now => exact .nothing rfl (topics_healthCheck now)
  | publish message => exact .nothing rfl (topics_publish message)
  | publishTelemetry topic record capacity => exact .nothing rfl (topics_publishTelemetry topic record capacity)
  | onMessage handler => exact .nothing rfl (topics_onMessage handler)
  | dispatch message => exact .nothing rfl (by rw [Operation.perform, run_dispatch]; rfl)

theorem Memorizes.isPrefix {topic? : Option String} (h : Memorizes s topic? s') : s.topics <+: s'.topics := by
  cases h with
  | nothing _ same => exact same ▸ List.prefix_rfl
  | known _ _ same => exact same ▸ List.prefix_rfl
  | new _ _ _ _ grown =>
    rw [grown]
    exact List.prefix_append _ _

/-- The topics of a session after a run. -/
structure Remembers (history : List (Entry ε η)) (s : Session τ η) : Prop where
  nodup : (s.topics.map (·.text)).Nodup
  room : s.topics.length ≤ maxTopics
  topics : s.topics.map (·.text) = (accepted history).eraseDups

theorem accepted_concat (history : List (Entry ε η)) (entry : Entry ε η) :
    accepted (history ++ [entry]) = accepted history ++ entry.accepted?.toList := by
  rw [accepted, List.filterMap_append, accepted]
  cases h : entry.accepted? <;> simp [h]

theorem remembers_concat {entry : Entry ε η} (h : Remembers history s) (hstep : Memorizes s entry.accepted? s') :
    Remembers (history ++ [entry]) s' := by
  have hmem {topic : String} : topic ∈ s.topics.map (·.text) ↔ topic ∈ accepted history := by
    rw [h.topics, List.mem_eraseDups]
  cases hstep with
  | nothing none_accepted same =>
    refine ⟨by rw [same]; exact h.nodup, by rw [same]; exact h.room, ?_⟩
    rw [same, accepted_concat, none_accepted, Option.toList_none, List.append_nil]
    exact h.topics
  | known accepts mem same =>
    refine ⟨by rw [same]; exact h.nodup, by rw [same]; exact h.room, ?_⟩
    rw [same, accepted_concat, accepts, Option.toList_some, Lists.eraseDups_concat_of_mem (hmem.mp mem)]
    exact h.topics
  | @new topic fits accepts not_mem room grown =>
    have htexts : s'.topics.map (·.text) = s.topics.map (·.text) ++ [topic] := by
      rw [grown, List.map_append, List.map_singleton]
    constructor
    · rw [htexts, List.nodup_append]
      refine ⟨h.nodup, by simp, fun old hold last hlast heq => not_mem ?_⟩
      rwa [← List.mem_singleton.mp hlast, ← heq]
    · rw [grown, List.length_append, List.length_singleton]
      exact room
    · rw [htexts, accepted_concat, accepts, Option.toList_some,
        Lists.eraseDups_concat_of_not_mem fun hold => not_mem (hmem.mpr hold), h.topics]

theorem remembers_of_reaches (hfirst : first.topics = []) (h : Reaches T drift first history s) :
    Remembers history s := by
  induction h with
  | start =>
    constructor
    · rw [hfirst]
      exact List.nodup_nil
    · rw [hfirst]
      exact Nat.zero_le _
    · rw [hfirst]
      rfl
  | operate operation _ ih => exact remembers_concat ih (memorizes_perform T _ operation)
  | drift _ _ _ ih => exact ⟨ih.nodup, ih.room, ih.topics⟩

/-- The transport is asked once to subscribe, and its answer is the answer. -/
def PassedOn (T : Transport τ ε) (topic : String) (s : Session τ η) (outcome : Outcome τ ε η Unit) : Prop :=
  calls outcome.events = [.subscribe topic (T.subscribe s.transport topic).1] ∧
    outcome.value = ((T.subscribe s.transport topic).1.mapError .transport,
      { s with transport := (T.subscribe s.transport topic).2 })

/-- The session is as it was, and the transport was not called. -/
def LeavesNoTrace (e : Error ε) (s : Session τ η) (outcome : Outcome τ ε η Unit) : Prop :=
  calls outcome.events = [] ∧ outcome.value = (.error e, s)

structure Subscribes (T : Transport τ ε) (topic : String) (s : Session τ η) (outcome : Outcome τ ε η Unit) :
    Prop where
  known : topic ∈ s.topics.map (·.text) → PassedOn T topic s outcome
  tooLong : topic ∉ s.topics.map (·.text) → 64 < topic.utf8ByteSize → LeavesNoTrace .topicTooLong s outcome
  tooMany : topic ∉ s.topics.map (·.text) → topic.utf8ByteSize ≤ 64 → s.topics.length = 8 →
    LeavesNoTrace .tooManyTopics s outcome
  new : topic ∉ s.topics.map (·.text) → (fits : topic.utf8ByteSize ≤ 64) → s.topics.length < 8 →
    PassedOn T topic { s with topics := s.topics ++ [⟨topic, fits⟩] } outcome

theorem calls_forwarding (T : Transport τ ε) (topic : String) (s : Session τ η) (lines : List Log.Line) :
    calls (forwarding T topic s lines).events = [.subscribe topic (T.subscribe s.transport topic).1] := by
  have hlines : (lines.map Event.log : List (Event ε η)).filter Event.isCall = [] := by
    rw [List.filter_eq_nil_iff]
    intro event hevent
    obtain ⟨line, _, rfl⟩ := List.mem_map.mp hevent
    exact Bool.false_ne_true
  rw [forwarding, calls, List.filter_append, hlines]
  rfl

theorem subscribes (T : Transport τ ε) (topic : String) (s : Session τ η) :
    Subscribes T topic s ((subscribe T topic).run s) where
  known hmem := by
    rw [run_subscribe_known hmem]
    exact ⟨calls_forwarding T topic s _, rfl⟩
  tooLong hnew long := by
    rw [run_subscribe_tooLong hnew long]
    exact ⟨rfl, rfl⟩
  tooMany hnew fits full := by
    rw [run_subscribe_tooMany hnew fits (Nat.le_of_eq full.symm)]
    exact ⟨rfl, rfl⟩
  new hnew fits room := by
    rw [run_subscribe_new hnew fits room]
    exact ⟨calls_forwarding T topic _ _, rfl⟩

/-- The memory of a session is exactly the distinct topics that it accepted, and only ever grows at its end. A
subscription that is refused leaves no trace, and any other one is passed on. -/
theorem memory_eq_accepted (transport : τ) (settings : Settings) (seed : UInt16)
    (h : Reaches T drift (start transport settings seed : Journal (Event ε η) _).value history s) :
    (s.topics.map (·.text)).Nodup ∧ s.topics.length ≤ 8 ∧ (∀ topic ∈ s.topics, topic.text.utf8ByteSize ≤ 64) ∧
    s.topics.map (·.text) = (accepted history).eraseDups ∧
    (∀ operation : Operation η, s.topics <+: (operation.perform T s).value.2.topics) ∧
    ∀ topic, Subscribes T topic s ((subscribe T topic).run s) := by
  have hmemory := remembers_of_reaches rfl h
  refine ⟨hmemory.nodup, hmemory.room, fun topic _ => topic.fits, hmemory.topics, ?_, ?_⟩
  · intro operation
    exact (memorizes_perform T s operation).isPrefix
  · intro topic
    exact subscribes T topic s

/-- More topics than a session can remember, two of them twice. -/
def crowd : List (Operation Unit) := ["a", "b", "c", "b", "d", "e", "f", "g", "h", "i", "a"].map .subscribe

theorem memory_eq_accepted_crowd :
    ∃ history s, Reaches flaky (fun _ up => up = false) (start false {} 48879 : Journal (Event String Unit) _).value
        history s ∧
      history.map Entry.operation = crowd ∧
      accepted history = ["a", "b", "c", "b", "d", "e", "f", "g", "h", "a"] ∧
      s.topics.map (·.text) = ["a", "b", "c", "d", "e", "f", "g", "h"] ∧
      s.topics.map (·.text) = (accepted history).eraseDups ∧
      LeavesNoTrace .tooManyTopics s ((subscribe flaky "i").run s) ∧
      PassedOn flaky "c" s ((subscribe flaky "c").run s) := by
  have h := reaches_performAll flaky (fun _ up => up = false)
    (start false {} 48879 : Journal (Event String Unit) (Session Bool Unit)).value crowd
  have hmemory : (performAll flaky (start false {} 48879 : Journal (Event String Unit) (Session Bool Unit)).value
    crowd).2.topics.map (·.text) = ["a", "b", "c", "d", "e", "f", "g", "h"] := rfl
  obtain ⟨_, _, _, htopics, _, hsubscribes⟩ := memory_eq_accepted false {} 48879 h
  refine ⟨_, _, h, rfl, rfl, hmemory, htopics, (hsubscribes "i").tooMany ?_ (by decide) rfl,
    (hsubscribes "c").known ?_⟩
  · rw [hmemory]
    decide
  · rw [hmemory]
    decide

end ControlLoop.Session
