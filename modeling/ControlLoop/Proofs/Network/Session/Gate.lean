import ControlLoop.Proofs.Network.Session.Operations
import ControlLoop.Proofs.Network.Session.Run
import Mathlib.Order.Basic

/-!
# The gate of a session

A failed attempt to connect closes the gate for one interval, a successful one opens it, and nothing else moves it. So
more than an interval lies between a failed attempt and the next one. A connect that is answered without an error opens
the gate even if the link stays down after it; then the next check attempts again, however soon it comes.
-/

namespace ControlLoop.Session

set_option autoImplicit false

variable {τ ε η : Type} {T : Transport τ ε} {drift : τ → τ → Prop} {first s s' : Session τ η}
variable {events : List (Event ε η)} {history : List (Entry ε η)}

def Event.connect? : Event ε η → Option (Except ε Unit)
  | .connect _ reply => some reply
  | _ => none

def Event.query? : Event ε η → Option Bool
  | .query up => some up
  | _ => none

def connects (events : List (Event ε η)) : List (Except ε Unit) := events.filterMap Event.connect?

def queries (events : List (Event ε η)) : List Bool := events.filterMap Event.query?

def gateAfter (now : UInt32) : Except ε Unit → Option UInt32
  | .ok () => none
  | .error _ => some now

/-- An operation that does not attempt to connect, because it is no check, or because the link is up, or because it
comes too soon. -/
structure Calm (s : Session τ η) (operation : Operation η) (events : List (Event ε η)) (s' : Session τ η) : Prop where
  settings : s'.settings = s.settings
  lastAttempt : s'.lastAttempt = s.lastAttempt
  connects : connects events = []
  queries : ∀ now, operation = .healthCheck now →
    queries events = [true] ∨ queries events = [false] ∧ s.isTooSoon now = true

/-- A check at `now` that attempts to connect and gets `reply`. -/
structure Attempts (s : Session τ η) (now : UInt32) (reply : Except ε Unit) (events : List (Event ε η))
    (s' : Session τ η) : Prop where
  settings : s'.settings = s.settings
  late : s.isTooSoon now = false
  lastAttempt : s'.lastAttempt = gateAfter now reply
  connects : connects events = [reply]
  queries : queries events = [false]

section Observations

variable {β : Type} {observe : Event ε η → Option β}

theorem filterMap_arrivals (hdeliver : ∀ handler message, observe (.deliver handler message) = none)
    (hlog : ∀ line, observe (.log line) = none) (handlers : List η) (messages : List Message) :
    (messages.flatMap (arrival handlers)).filterMap observe = [] := by
  rw [List.filterMap_eq_nil_iff]
  intro event hevent
  obtain ⟨message, _, hmem⟩ := List.mem_flatMap.mp hevent
  simp only [arrival, List.mem_cons, List.mem_map] at hmem
  rcases hmem with rfl | ⟨handler, _, rfl⟩
  · exact hlog _
  · exact hdeliver handler message

theorem filterMap_resubscriptions (hsubscribe : ∀ topic reply, observe (.subscribe topic reply) = none)
    (hlog : ∀ line, observe (.log line) = none) (topics : List String) (replies : List (Except ε Unit))
    (line : Log.Line) :
    ((List.zipWith resubscription topics replies).flatten ++ [Event.log line]).filterMap observe = [] := by
  induction topics generalizing replies with
  | nil => simp [hlog]
  | cons topic rest ih =>
    cases replies with
    | nil => simp [hlog]
    | cons reply more =>
      rw [List.zipWith_cons_cons, List.flatten_cons, List.append_assoc, List.filterMap_append, ih, List.append_nil]
      cases reply <;> simp [resubscription, hsubscribe, hlog]

end Observations

theorem calm_of_not_check {operation : Operation η} (hsettings : s'.settings = s.settings)
    (hlast : s'.lastAttempt = s.lastAttempt) (hconnects : connects events = [])
    (hoperation : ∀ now, operation ≠ .healthCheck now) : Calm s operation events s' :=
  ⟨hsettings, hlast, hconnects, fun now hnow => absurd hnow (hoperation now)⟩

theorem calm_subscribe (topic : String) :
    Calm s (.subscribe topic) ((subscribe T topic).run s).events ((subscribe T topic).run s).value.2 := by
  rcases subscribe_cases T topic s with ⟨_, hrun⟩ | ⟨_, _, e, _, hrun⟩ | ⟨_, _, fits, hrun⟩
  · rw [hrun]
    exact calm_of_not_check rfl rfl rfl nofun
  · rw [hrun]
    exact calm_of_not_check rfl rfl rfl nofun
  · rw [hrun]
    exact calm_of_not_check rfl rfl rfl nofun

theorem calm_publish (message : Message) {operation : Operation η} (hoperation : ∀ now, operation ≠ .healthCheck now) :
    Calm s operation ((publish T message).run s).events ((publish T message).run s).value.2 := by
  by_cases h : T.bufferSize s.transport < frameSize s.settings message
  · rw [run_publish_streamed h]
    exact calm_of_not_check rfl rfl rfl hoperation
  · rw [run_publish_staged (Nat.le_of_not_lt h)]
    exact calm_of_not_check rfl rfl rfl hoperation

theorem calm_publishTelemetry (topic : String) (record : Telemetry) (capacity : Nat) :
    Calm s (.publishTelemetry topic record capacity) ((publishTelemetry T topic record capacity).run s).events
      ((publishTelemetry T topic record capacity).run s).value.2 := by
  cases h : record.encode capacity with
  | ok payload =>
    rw [run_publishTelemetry_of_ok h]
    exact calm_publish _ nofun
  | error cause =>
    rw [run_publishTelemetry_of_error h]
    exact calm_of_not_check rfl rfl rfl nofun

theorem calm_onMessage (handler : η) :
    Calm s (.onMessage handler) ((onMessage handler : Action τ ε η Unit).run s).events
      ((onMessage handler : Action τ ε η Unit).run s).value.2 := by
  by_cases full : maxHandlers ≤ s.handlers.length
  · rw [run_onMessage_full handler full]
    exact calm_of_not_check rfl rfl rfl nofun
  · rw [run_onMessage_room handler (Nat.lt_of_not_le full)]
    exact calm_of_not_check rfl rfl rfl nofun

theorem calm_dispatch (message : Message) :
    Calm s (.dispatch message) ((dispatch message : Action τ ε η Unit).run s).events
      ((dispatch message : Action τ ε η Unit).run s).value.2 := by
  rw [run_dispatch]
  have harrival : connects ([message].flatMap (arrival s.handlers) : List (Event ε η)) = [] :=
    filterMap_arrivals (fun _ _ => rfl) (fun _ => rfl) s.handlers [message]
  rw [List.flatMap_singleton] at harrival
  exact calm_of_not_check rfl rfl harrival nofun

theorem calm_healthCheck_up (now : UInt32) (up : (T.isConnected s.transport).1 = true) :
    Calm s (.healthCheck now) ((healthCheck T now).run s).events ((healthCheck T now).run s).value.2 := by
  rw [run_healthCheck_up up, run_service]
  refine ⟨rfl, rfl, filterMap_arrivals (fun _ _ => rfl) (fun _ => rfl) _ _, fun _ _ => Or.inl ?_⟩
  exact congrArg (true :: ·) (filterMap_arrivals (fun _ _ => rfl) (fun _ => rfl) _ _)

theorem calm_healthCheck_tooSoon (now : UInt32) (down : (T.isConnected s.transport).1 = false)
    (soon : s.isTooSoon now = true) :
    Calm s (.healthCheck now) ((healthCheck T now).run s).events ((healthCheck T now).run s).value.2 := by
  rw [run_healthCheck_tooSoon down soon]
  refine ⟨rfl, rfl, rfl, fun later hlater => Or.inr ⟨rfl, ?_⟩⟩
  cases hlater
  exact soon

theorem attempts_healthCheck (now : UInt32) (down : (T.isConnected s.transport).1 = false)
    (late : s.isTooSoon now = false) :
    ∃ reply, Attempts s now reply ((healthCheck T now).run s).events ((healthCheck T now).run s).value.2 := by
  rcases healthCheck_cases down late with ⟨e, transport, _, hrun⟩ | ⟨transport, replies, _, hrun⟩
  · rw [hrun]
    exact ⟨.error e, rfl, late, rfl, rfl, rfl⟩
  · rw [hrun]
    refine ⟨.ok (), rfl, late, rfl, ?_, ?_⟩
    · exact congrArg (Except.ok () :: ·) (filterMap_resubscriptions (fun _ _ => rfl) (fun _ => rfl) _ replies _)
    · exact congrArg (false :: ·) (filterMap_resubscriptions (fun _ _ => rfl) (fun _ => rfl) _ replies _)

theorem gate_cases (T : Transport τ ε) (s : Session τ η) (operation : Operation η) :
    Calm s operation (operation.perform T s).events (operation.perform T s).value.2 ∨
      ∃ now reply, operation = .healthCheck now ∧
        Attempts s now reply (operation.perform T s).events (operation.perform T s).value.2 := by
  cases operation with
  | subscribe topic => exact Or.inl (calm_subscribe topic)
  | publish message => exact Or.inl (calm_publish message nofun)
  | publishTelemetry topic record capacity => exact Or.inl (calm_publishTelemetry topic record capacity)
  | onMessage handler => exact Or.inl (calm_onMessage handler)
  | dispatch message => exact Or.inl (calm_dispatch message)
  | healthCheck now =>
    cases up : (T.isConnected s.transport).1 with
    | true => exact Or.inl (calm_healthCheck_up now up)
    | false =>
      cases soon : s.isTooSoon now with
      | true => exact Or.inl (calm_healthCheck_tooSoon now up soon)
      | false =>
        obtain ⟨reply, h⟩ := attempts_healthCheck (T := T) (s := s) now up soon
        exact Or.inr ⟨now, reply, rfl, h⟩

theorem settings_of_reaches (h : Reaches T drift first history s) : s.settings = first.settings := by
  induction h with
  | start => rfl
  | operate operation _ ih =>
    rcases gate_cases T _ operation with hcalm | ⟨_, _, _, hattempt⟩
    · exact hcalm.settings.trans ih
    · exact hattempt.settings.trans ih
  | drift _ _ _ ih => exact ih

theorem lastAttempt_of_reaches (h : Reaches T drift first history s) {before between : List (Entry ε η)}
    {e : Entry ε η} {now : UInt32} {reply : Except ε Unit} (hsplit : history = before ++ e :: between)
    (hcheck : e.operation = .healthCheck now) (hattempt : connects e.events = [reply])
    (hbetween : ∀ later ∈ between, connects later.events = []) : s.lastAttempt = gateAfter now reply := by
  -- The newest entry is the attempt itself, or it is not an attempt and leaves the gate alone.
  induction h generalizing between with
  | start => simp at hsplit
  | @operate _ s operation _ ih =>
    rcases Lists.concat_eq_append_cons hsplit with ⟨rfl, rfl, _⟩ | ⟨init, rfl, hold⟩
    · rcases gate_cases T _ operation with hcalm | ⟨now', reply', rfl, hattempts⟩
      · exact absurd (hattempt.symm.trans hcalm.connects) (List.cons_ne_nil _ _)
      · cases hcheck
        obtain rfl := List.head_eq_of_cons_eq (hattempts.connects.symm.trans hattempt)
        exact hattempts.lastAttempt
    · have hnone := hbetween (operation.entry T s) (by simp)
      rcases gate_cases T _ operation with hcalm | ⟨_, _, _, hattempts⟩
      · exact hcalm.lastAttempt.trans (ih hold fun later hlater => hbetween later (by simp [hlater]))
      · exact absurd (hattempts.connects.symm.trans hnone) (List.cons_ne_nil _ _)
  | drift _ _ _ ih => exact ih hsplit hbetween

theorem lt_of_not_tooSoon {now last : UInt32} (hlast : s.lastAttempt = some last) (hle : last ≤ now)
    (late : s.isTooSoon now = false) : last.toNat + s.settings.reconnectIntervalMs.toNat < now.toNat := by
  simp only [isTooSoon, hlast, decide_eq_false_iff_not, UInt32.le_iff_toNat_le] at late
  rw [UInt32.toNat_sub_of_le _ _ hle] at late
  omega

/-- Two attempts in a run with no other between them. -/
structure Successive (history : List (Entry ε η)) (e₁ : Entry ε η) (between : List (Entry ε η)) (e₂ : Entry ε η) :
    Prop where
  split : ∃ before after, history = before ++ e₁ :: (between ++ e₂ :: after)
  first : connects e₁.events ≠ []
  second : connects e₂.events ≠ []
  between : ∀ e ∈ between, connects e.events = []

/-- More than `interval` lies between successive attempts if the link was not seen up from the first to the second. -/
def Spaced (interval : UInt32) (history : List (Entry ε η)) : Prop :=
  ∀ e₁ between e₂ t₁ t₂, Successive history e₁ between e₂ → e₁.operation = .healthCheck t₁ →
    e₂.operation = .healthCheck t₂ → (∀ e ∈ between ++ [e₂], true ∉ queries e.events) →
    t₁.toNat + interval.toNat < t₂.toNat

theorem checkTimes_le (hsorted : (checkTimes history).Pairwise (· ≤ ·)) {before between after : List (Entry ε η)}
    {e₁ e₂ : Entry ε η} {t₁ t₂ : UInt32} (hsplit : history = before ++ e₁ :: (between ++ e₂ :: after))
    (h₁ : e₁.operation = .healthCheck t₁) (h₂ : e₂.operation = .healthCheck t₂) : t₁ ≤ t₂ := by
  have hsub : [e₁, e₂].Sublist history := by
    rw [hsplit]
    refine List.sublist_append_of_sublist_right (List.Sublist.cons_cons _ ?_)
    exact List.sublist_append_of_sublist_right (List.Sublist.cons_cons _ (List.nil_sublist _))
  have htimes : checkTimes [e₁, e₂] = [t₁, t₂] := by simp [checkTimes, Operation.checkTime?, h₁, h₂]
  have hpair := hsorted.sublist (htimes ▸ hsub.filterMap _ : [t₁, t₂].Sublist (checkTimes history))
  simpa using hpair

theorem attempts_of_entry {e : Entry ε η} (he : e = e.operation.entry T s) (hattempt : connects e.events ≠ [])
    {now : UInt32} (hcheck : e.operation = .healthCheck now) :
    s.isTooSoon now = false ∧ ∃ reply, connects e.events = [reply] := by
  rcases gate_cases T s e.operation with hcalm | ⟨now', reply, hcheck', hattempts⟩
  · rw [he] at hattempt
    exact absurd hcalm.connects hattempt
  · rw [hcheck'] at hcheck
    cases hcheck
    rw [he]
    exact ⟨hattempts.late, reply, hattempts.connects⟩

/-- After a connect that gave no error no check comes before the next attempt, unless it finds the link up. -/
theorem no_check_of_ok (h : Reaches T drift first history s) {before between after : List (Entry ε η)}
    {e₁ : Entry ε η} {t₁ : UInt32} (hsplit : history = before ++ e₁ :: (between ++ after))
    (h₁ : e₁.operation = .healthCheck t₁) (hok : connects e₁.events = [.ok ()])
    (hbetween : ∀ e ∈ between, connects e.events = []) (hdown : ∀ e ∈ between, true ∉ queries e.events) :
    ∀ e ∈ between, ∀ now, e.operation ≠ .healthCheck now := by
  intro e he now hcheck
  obtain ⟨earlier, later, rfl⟩ := List.append_of_mem he
  have hsplit' : history = (before ++ e₁ :: earlier) ++ e :: (later ++ after) := by
    rw [hsplit]
    simp
  obtain ⟨s', hreaches, hentry⟩ := h.before hsplit'
  -- The gate is open, so a check that finds the link down would attempt to connect, which `between` rules out.
  have hopen : s'.lastAttempt = none :=
    lastAttempt_of_reaches hreaches rfl h₁ hok fun x hx => hbetween x (List.mem_append_left _ hx)
  rcases gate_cases T s' e.operation with hcalm | ⟨_, _, _, hattempts⟩
  · rcases hcalm.queries now hcheck with hup | ⟨_, hsoon⟩
    · refine hdown e he ?_
      rw [hentry]
      exact hup ▸ List.mem_singleton.mpr rfl
    · simp [isTooSoon, hopen] at hsoon
  · have hnone := hbetween e he
    rw [hentry] at hnone
    exact absurd (hattempts.connects.symm.trans hnone) (List.cons_ne_nil _ _)

/-- If the first of two successive attempts failed, more than the interval lies between them, whatever the transport
does. If it gave no error, and the link was not seen up since, the second is made by the very next check. -/
theorem attempts_spaced_after_failure (h : Reaches T drift first history s)
    (hsorted : (checkTimes history).Pairwise (· ≤ ·)) {e₁ e₂ : Entry ε η} {between : List (Entry ε η)}
    (hsuccessive : Successive history e₁ between e₂) {t₁ t₂ : UInt32} (h₁ : e₁.operation = .healthCheck t₁)
    (h₂ : e₂.operation = .healthCheck t₂) :
    (∃ cause, connects e₁.events = [.error cause] ∧
      t₁.toNat + first.settings.reconnectIntervalMs.toNat < t₂.toNat) ∨
    (connects e₁.events = [.ok ()] ∧
      ((∀ e ∈ between, true ∉ queries e.events) → ∀ e ∈ between, ∀ now, e.operation ≠ .healthCheck now)) := by
  obtain ⟨⟨before, after, hsplit⟩, hfirst, hsecond, hbetween⟩ := hsuccessive
  obtain ⟨s₁, _, hentry₁⟩ := h.before hsplit
  obtain ⟨_, reply, hreply⟩ := attempts_of_entry hentry₁ hfirst h₁
  cases reply with
  | ok => exact Or.inr ⟨hreply, no_check_of_ok h hsplit h₁ hreply hbetween⟩
  | error cause =>
    refine Or.inl ⟨cause, hreply, ?_⟩
    have hsplit₂ : history = (before ++ e₁ :: between) ++ e₂ :: after := by
      rw [hsplit]
      simp
    obtain ⟨s₂, hreaches, hentry₂⟩ := h.before hsplit₂
    have hclosed := lastAttempt_of_reaches hreaches rfl h₁ hreply hbetween
    have hlate := (attempts_of_entry hentry₂ hsecond h₂).1
    rw [← settings_of_reaches hreaches]
    exact lt_of_not_tooSoon hclosed (checkTimes_le hsorted hsplit h₁ h₂) hlate

/-- A transport that is never connected and answers each connect with `reply`. -/
def unreachable (reply : Except String Unit) : Transport Unit String where
  isConnected t := (false, t)
  connect t _ := (reply, t)
  poll t := ([], .ok (), t)
  subscribe t _ := (.ok (), t)
  publish t _ := (.ok (), t)
  publishStreamed t _ := (.ok (), t)
  bufferSize _ := 32

/-- A session over such a transport after checks at the given times, with an interval of five seconds. -/
def stranded (reply : Except String Unit) (times : List UInt32) : Session Unit Unit :=
  times.foldl (fun s now => ((Operation.healthCheck now).perform (unreachable reply) s).value.2)
    (start () {} 48879 : Journal (Event String Unit) _).value

def strandedCheck (reply : Except String Unit) (times : List UInt32) (now : UInt32) : Entry String Unit :=
  (Operation.healthCheck now).entry (unreachable reply) (stranded reply times)

theorem attempts_spaced_after_failure_refused :
    ∃ history s,
      Reaches (unreachable (.error "refused")) (fun _ _ => False) (stranded (.error "refused") []) history s ∧
      (checkTimes history).Pairwise (· ≤ ·) ∧
      ∃ e₁ between e₂, Successive history e₁ between e₂ ∧ e₁.operation = .healthCheck 100 ∧
        between.map Entry.operation = [.healthCheck 5100] ∧ e₂.operation = .healthCheck 5101 ∧
        ∃ cause, connects e₁.events = [.error cause] ∧
          (100 : UInt32).toNat + (stranded (.error "refused") []).settings.reconnectIntervalMs.toNat <
            (5101 : UInt32).toNat := by
  have h : Reaches (unreachable (.error "refused")) (fun _ _ => False) (stranded (.error "refused") [])
      [strandedCheck (.error "refused") [] 100, strandedCheck (.error "refused") [100] 5100,
        strandedCheck (.error "refused") [100, 5100] 5101] (stranded (.error "refused") [100, 5100, 5101]) :=
    .operate (.healthCheck 5101) (.operate (.healthCheck 5100) (.operate (.healthCheck 100) .start))
  have hfirst : connects (strandedCheck (.error "refused") [] 100).events = [.error "refused"] := rfl
  have hbetween : connects (strandedCheck (.error "refused") [100] 5100).events = [] := rfl
  have hsecond : connects (strandedCheck (.error "refused") [100, 5100] 5101).events = [.error "refused"] := rfl
  have hsorted : [(100 : UInt32), 5100, 5101].Pairwise (· ≤ ·) := by decide
  have hsuccessive : Successive _ _ _ _ :=
    ⟨⟨[], [], rfl⟩, hfirst ▸ List.cons_ne_nil _ _, hsecond ▸ List.cons_ne_nil _ _,
      List.forall_mem_singleton.mpr hbetween⟩
  refine ⟨_, _, h, hsorted, _, _, _, hsuccessive, rfl, rfl, rfl, ?_⟩
  rcases attempts_spaced_after_failure h hsorted hsuccessive rfl rfl with hspaced | ⟨hok, _⟩
  · exact hspaced
  · cases hfirst.symm.trans hok

/-- If each connect gives no error but the link stays down, attempts follow one another without any pause. -/
theorem not_spaced_while_down :
    ∃ history s, Reaches (unreachable (.ok ())) (fun _ _ => False) (stranded (.ok ()) []) history s ∧
      history.map Entry.operation = [.healthCheck 0, .healthCheck 10] ∧
      ¬ Spaced (stranded (.ok ()) []).settings.reconnectIntervalMs history := by
  have h : Reaches (unreachable (.ok ())) (fun _ _ => False) (stranded (.ok ()) [])
      [strandedCheck (.ok ()) [] 0, strandedCheck (.ok ()) [0] 10] (stranded (.ok ()) [0, 10]) :=
    .operate (.healthCheck 10) (.operate (.healthCheck 0) .start)
  have hfirst : connects (strandedCheck (.ok ()) [] 0).events = [.ok ()] := rfl
  have hsecond : connects (strandedCheck (.ok ()) [0] 10).events = [.ok ()] := rfl
  have hdown : queries (strandedCheck (.ok ()) [0] 10).events = [false] := rfl
  have hsuccessive : Successive _ _ _ _ :=
    ⟨⟨[], [], rfl⟩, hfirst ▸ List.cons_ne_nil _ _, hsecond ▸ List.cons_ne_nil _ _,
      fun _ he => absurd he List.not_mem_nil⟩
  refine ⟨_, _, h, rfl, fun hspaced => ?_⟩
  have hlt := hspaced _ _ _ 0 10 hsuccessive rfl rfl (List.forall_mem_singleton.mpr (by rw [hdown]; decide))
  exact absurd hlt (by decide)

end ControlLoop.Session
