import ControlLoop.Proofs.Network.Session.Operations
import ControlLoop.Proofs.Network.Session.Run

/-!
# Subscriptions across drops

As long as nothing connects, the subscriptions of a session stay what they were, and a connection that is made comes
with a subscription to every remembered topic. So no topic is ever without a subscription on a live connection.
-/

namespace ControlLoop.Session

set_option autoImplicit false

variable {τ ε η : Type} {T : Transport τ ε} {drift : τ → τ → Prop} {s s' : Session τ η}
variable {events later : List (Event ε η)}

def Event.isCall : Event ε η → Bool
  | .deliver _ _ => false
  | .log _ => false
  | _ => true

def calls (events : List (Event ε η)) : List (Event ε η) := events.filter Event.isCall

/-- The transport was asked to subscribe to `topic`, and no connect has succeeded since. -/
def SubscribedSinceConnect (events : List (Event ε η)) (topic : String) : Prop :=
  ∃ before reply after, events = before ++ .subscribe topic reply :: after ∧ ∀ id, .connect id (.ok ()) ∉ after

/-- An operation without a connect. -/
structure Steady (T : Transport τ ε) (operation : Operation η) (s : Session τ η) (events : List (Event ε η))
    (s' : Session τ η) : Prop where
  clientId : s'.clientId = s.clientId
  topics : s'.topics.map (·.text) = operation.remember (s.topics.map (·.text))
  subscribed : ∀ topic ∈ s'.topics, topic ∈ s.topics ∨ ∃ reply, .subscribe topic.text reply ∈ events
  connects : ∀ id reply, .connect id reply ∉ events
  up : T.isUp s'.transport → T.isUp s.transport

/-- An operation whose connect succeeded. -/
structure Restored (s : Session τ η) (events : List (Event ε η)) (s' : Session τ η) : Prop where
  clientId : s'.clientId = s.clientId
  topics : s'.topics = s.topics
  events : ∃ replies line, replies.length = s.topics.length ∧
    events = .query false :: .connect s.clientId.text (.ok ()) ::
      (List.zipWith resubscription (s.topics.map (·.text)) replies).flatten ++ [.log line]

theorem calls_resubscriptions (topics : List String) (replies : List (Except ε Unit)) :
    calls (List.zipWith resubscription topics replies).flatten =
      (List.zipWith .subscribe topics replies : List (Event ε η)) := by
  induction topics generalizing replies with
  | nil => rfl
  | cons topic rest ih =>
    cases replies with
    | nil => rfl
    | cons reply more =>
      simp only [List.zipWith_cons_cons, List.flatten_cons, calls, List.filter_append] at ih ⊢
      rw [ih more]
      cases reply <;> rfl

theorem connect_not_mem_resubscriptions (topics : List String) (replies : List (Except ε Unit)) (id : String)
    (reply : Except ε Unit) :
    .connect id reply ∉ ((List.zipWith resubscription topics replies).flatten : List (Event ε η)) := by
  intro hmem
  have hcall : .connect id reply ∈ calls (List.zipWith resubscription topics replies).flatten :=
    List.mem_filter.mpr ⟨hmem, rfl⟩
  rw [calls_resubscriptions, ← List.map_uncurry_zip_eq_zipWith] at hcall
  obtain ⟨pair, _, hpair⟩ := List.mem_map.mp hcall
  cases hpair

theorem subscribe_mem_resubscriptions {topics : List String} {replies : List (Except ε Unit)}
    (hlength : replies.length = topics.length) {topic : String} (htopic : topic ∈ topics) :
    ∃ reply, .subscribe topic reply ∈
      ((List.zipWith resubscription topics replies).flatten : List (Event ε η)) := by
  induction topics generalizing replies with
  | nil => exact absurd htopic List.not_mem_nil
  | cons first rest ih =>
    cases replies with
    | nil => simp at hlength
    | cons reply more =>
      rw [List.zipWith_cons_cons, List.flatten_cons]
      rcases List.mem_cons.mp htopic with rfl | hrest
      · refine ⟨reply, List.mem_append_left _ ?_⟩
        cases reply <;> exact List.mem_cons_self
      · obtain ⟨later, hlater⟩ := ih (by simpa using hlength) hrest
        exact ⟨later, List.mem_append_right _ hlater⟩

def Subscribed (T : Transport τ ε) (events : List (Event ε η)) (s : Session τ η) : Prop :=
  T.isUp s.transport → ∀ topic ∈ s.topics, SubscribedSinceConnect events topic.text

theorem Restored.subscribed (h : Restored s later s') : Subscribed T (events ++ later) s' := by
  obtain ⟨replies, line, hlength, rfl⟩ := h.events
  intro _ topic htopic
  rw [h.topics] at htopic
  have hlength' : replies.length = (s.topics.map (·.text)).length := by rw [hlength, List.length_map]
  obtain ⟨reply, hreply⟩ := subscribe_mem_resubscriptions (η := η) hlength' (List.mem_map_of_mem htopic)
  have hconnect (id : String) (reply : Except ε Unit) :=
    connect_not_mem_resubscriptions (η := η) (s.topics.map (·.text)) replies id reply
  generalize (List.zipWith resubscription (s.topics.map (·.text)) replies).flatten = resubscriptions at *
  obtain ⟨before, after, rfl⟩ := List.append_of_mem hreply
  -- The connect itself is among the new events; only those after the subscribe count.
  refine ⟨events ++ .query false :: .connect s.clientId.text (.ok ()) :: before, reply, after ++ [.log line],
    by simp, fun id hmem => ?_⟩
  rcases List.mem_append.mp hmem with hafter | hline
  · exact hconnect id (.ok ()) (List.mem_append_right before (List.mem_cons_of_mem _ hafter))
  · simp at hline

/-- A transport that refuses every subscription and drops at every poll. -/
def flaky : Transport Bool String where
  isConnected up := (up, up)
  connect _ _ := (.ok (), true)
  poll _ := ([], .error "dropped", false)
  subscribe up _ := (.error "refused", up)
  publish up _ := (.ok (), up)
  publishStreamed up _ := (.ok (), up)
  bufferSize _ := 32

end ControlLoop.Session
