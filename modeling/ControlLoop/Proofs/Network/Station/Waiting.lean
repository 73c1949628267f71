import ControlLoop.Proofs.Network.Station.Attempt

/-!
# Waiting for a link

An attempt whose request the radio has accepted goes on in rounds of one pause and one query. The first query that finds
the link up ends it; otherwise it ends with the first round whose pauses cover the timeout. So it gives up neither too
early nor more than a round too late, and never right after a pause.
-/

namespace ControlLoop.Station

set_option autoImplicit false

variable {ρ ε : Type} {R : Radio ρ ε} {settings : Settings} {radio after : ρ} {interval n : Nat}

theorem rounds_lt (settings : Settings) :
    settings.rounds * settings.interval < settings.timeoutMs.toNat + settings.interval := by
  have hpos := interval_pos settings
  have hle : settings.rounds * settings.interval ≤ settings.timeoutMs.toNat + (settings.interval - 1) :=
    Nat.div_mul_le_self _ _
  omega

/-- Rounds of one pause and one query, with the answers that the radio gives. -/
def polling (R : Radio ρ ε) (interval : Nat) (radio : ρ) (n : Nat) : List (Event ε) :=
  (List.range n).flatMap fun m => [.wait interval, .query (answer R radio m)]

theorem polling_succ (R : Radio ρ ε) (interval : Nat) (radio : ρ) (n : Nat) :
    polling R interval radio (n + 1) =
      polling R interval radio n ++ [.wait interval, .query (answer R radio n)] := by
  rw [polling, List.range_succ, List.flatMap_append, List.flatMap_singleton, polling]

theorem polling_of_down (down : ∀ m < n, answer R radio m = false) :
    polling R interval radio n = downRounds interval n := by
  induction n with
  | zero => rfl
  | succ n ih =>
    have hlast : answer R radio n = false := down n (Nat.lt_succ_self n)
    have hfirst : ∀ m < n, answer R radio m = false := fun m hm => down m (Nat.lt_succ_of_lt hm)
    rw [polling_succ, hlast, ih hfirst, downRounds, downRounds, List.replicate_succ', List.flatten_concat]

def Event.isPause : Event ε → Bool
  | .wait _ => true
  | _ => false

def Event.isQuery : Event ε → Bool
  | .query _ => true
  | _ => false

def pauses (events : List (Event ε)) : Nat := events.countP Event.isPause

def queries (events : List (Event ε)) : Nat := events.countP Event.isQuery

theorem countP_polling {p : Event ε → Bool}
    (hp : ∀ up, [Event.wait interval, .query up].countP p = 1) (n : Nat) :
    (polling R interval radio n).countP p = n := by
  induction n with
  | zero => rfl
  | succ n ih => rw [polling_succ, List.countP_append, ih, hp]

theorem countP_deeds {p : Event ε → Bool} (hp : ∀ event, p event = true → event.isLog = false)
    (events : List (Event ε)) : (deeds events).countP p = events.countP p := by
  rw [deeds, List.countP_filter]
  refine List.countP_congr fun event _ => ?_
  rw [Bool.and_eq_true]
  apply and_iff_left_of_imp
  intro h
  rw [hp event h]
  rfl

theorem not_isLog_of_isPause (event : Event ε) (h : event.isPause = true) : event.isLog = false := by
  cases event with
  | wait ms => rfl
  | _ => cases h

theorem not_isLog_of_isQuery (event : Event ε) (h : event.isQuery = true) : event.isLog = false := by
  cases event with
  | query up => rfl
  | _ => cases h

theorem paused_polling (R : Radio ρ ε) (interval : Nat) (radio : ρ) (n : Nat) :
    paused (polling R interval radio n) = n * interval := by
  induction n with
  | zero => exact (Nat.zero_mul interval).symm
  | succ n ih =>
    rw [polling_succ, paused_append, ih, Nat.add_one_mul]
    rfl

theorem deeds_polling (R : Radio ρ ε) (interval : Nat) (radio : ρ) (n : Nat) :
    deeds (polling R interval radio n) = polling R interval radio n := by
  induction n with
  | zero => rfl
  | succ n ih =>
    rw [polling_succ, deeds_append, ih]
    rfl

theorem deeds_accepted (settings : Settings) (events : List (Event ε)) :
    deeds (connecting settings :: requested settings (.ok ()) :: events) =
      requested settings (.ok ()) :: deeds events := rfl

/-- After the request there are this many rounds and no more deeds. -/
structure InRounds (R : Radio ρ ε) (settings : Settings) (radio : ρ) (n : Nat) (events : List (Event ε)) : Prop where
  deeds : deeds events = requested settings (.ok ()) :: polling R settings.interval radio n
  pauses : pauses events = n
  queries : queries events = n

theorem inRounds_of_deeds {events : List (Event ε)}
    (h : deeds events = requested settings (.ok ()) :: polling R settings.interval radio n) :
    InRounds R settings radio n events := by
  refine ⟨h, ?_, ?_⟩
  · rw [pauses, ← countP_deeds not_isLog_of_isPause, h]
    exact countP_polling (fun _ => rfl) n
  · rw [queries, ← countP_deeds not_isLog_of_isQuery, h]
    exact countP_polling (fun _ => rfl) n

theorem inRounds_polling (R : Radio ρ ε) (settings : Settings) (radio : ρ) (n : Nat) :
    InRounds R settings radio n
      (connecting settings :: requested settings (.ok ()) :: polling R settings.interval radio n) := by
  apply inRounds_of_deeds
  rw [deeds_accepted, deeds_polling]

theorem run_connect_linked (accepted : request R settings radio = (.ok (), after)) (early : n < settings.rounds)
    (down : ∀ m < n, answer R after m = false) (up : answer R after n = true) :
    (connect R settings).run radio = ⟨(.ok (), afterQueries R after (n + 1)),
      connecting settings :: requested settings (.ok ()) :: polling R settings.interval after (n + 1) ++
        [connected (min ((n + 1) * settings.interval) 65535)]⟩ := by
  rw [run_connect_accepted accepted, run_await_linked early down up, polling_succ, polling_of_down down, up]
  simp

theorem run_connect_timedOut (accepted : request R settings radio = (.ok (), after))
    (down : ∀ m < settings.rounds, answer R after m = false) :
    (connect R settings).run radio =
      ⟨(.error (.timeout (min (settings.rounds * settings.interval) 65535)), afterQueries R after settings.rounds),
        connecting settings :: requested settings (.ok ()) :: polling R settings.interval after settings.rounds⟩ := by
  rw [run_connect_accepted accepted, run_await_timedOut down, polling_of_down down]

/-- To give up an attempt needs all its rounds, and it ends with a query unless there are none. -/
theorem Attempt.patient {outcome : Journal (Event ε) (Except (Error ε) Unit × ρ)} {ms : Nat}
    (h : Attempt R settings radio outcome) (gaveUp : outcome.value.1 = .error (.timeout ms)) :
    settings.timeoutMs.toNat ≤ paused outcome.events ∧
    paused outcome.events < settings.timeoutMs.toNat + settings.interval ∧
    (0 < pauses outcome.events → (deeds outcome.events).getLast? = some (.query false)) := by
  cases h with
  | refused _ => cases gaveUp
  | linked _ _ _ _ => cases gaveUp
  | @timedOut after _ hdown =>
    rw [← polling_of_down hdown]
    have hrounds := inRounds_polling R settings after settings.rounds
    rw [paused_accepted, paused_polling, hrounds.pauses, hrounds.deeds]
    refine ⟨timeout_le_rounds settings, rounds_lt settings, ?_⟩
    intro hpositive
    obtain ⟨n, hn⟩ := Nat.exists_eq_succ_of_ne_zero (Nat.ne_of_gt hpositive)
    have hlast : answer R after n = false := hdown n (hn ▸ Nat.lt_succ_self n)
    rw [hn, polling_succ, hlast, ← List.cons_append, List.getLast?_append]
    rfl

/-- What comes of an attempt, by the reply to its request and the answers to its queries, the first of which has the
number zero. -/
structure Waits (R : Radio ρ ε) (settings : Settings) (radio : ρ)
    (outcome : Journal (Event ε) (Except (Error ε) Unit × ρ)) : Prop where
  links : links outcome.events = [requested settings (request R settings radio).1]
  refused : ∀ cause, (request R settings radio).1 = .error cause →
    outcome.value.1 = .error (.radio cause) ∧ pauses outcome.events = 0 ∧ queries outcome.events = 0
  linked : (request R settings radio).1 = .ok () → ∀ n < settings.rounds,
    (∀ m < n, answer R (request R settings radio).2 m = false) → answer R (request R settings radio).2 n = true →
      outcome.value.1 = .ok () ∧ InRounds R settings (request R settings radio).2 (n + 1) outcome.events
  timedOut : (request R settings radio).1 = .ok () →
    (∀ n < settings.rounds, answer R (request R settings radio).2 n = false) →
      outcome.value.1 = .error (.timeout (min (settings.rounds * settings.interval) 65535)) ∧
      InRounds R settings (request R settings radio).2 settings.rounds outcome.events
  patient : ∀ ms, outcome.value.1 = .error (.timeout ms) →
    settings.timeoutMs.toNat ≤ paused outcome.events ∧
    paused outcome.events < settings.timeoutMs.toNat + settings.interval ∧
    (0 < pauses outcome.events → (deeds outcome.events).getLast? = some (.query false))

/-- An attempt asks the radio once, and neither pauses nor queries if that is refused. Otherwise it goes on in rounds
until the first query that finds the link up, or until the pauses cover the timeout. -/
theorem connect_waits_in_rounds (R : Radio ρ ε) (settings : Settings) (radio : ρ) :
    Waits R settings radio ((connect R settings).run radio) where
  links := (attempt R settings radio).links
  refused cause hrefused := by
    have hrequest : request R settings radio = (.error cause, (request R settings radio).2) := Prod.ext hrefused rfl
    rw [run_connect_refused hrequest]
    exact ⟨rfl, rfl, rfl⟩
  linked haccepted n hearly hdown hup := by
    have hrequest : request R settings radio = (.ok (), (request R settings radio).2) := Prod.ext haccepted rfl
    rw [run_connect_linked hrequest hearly hdown hup]
    refine ⟨rfl, inRounds_of_deeds ?_⟩
    rw [deeds_append, deeds_accepted, deeds_polling]
    exact List.append_nil _
  timedOut haccepted hdown := by
    have hrequest : request R settings radio = (.ok (), (request R settings radio).2) := Prod.ext haccepted rfl
    rw [run_connect_timedOut hrequest hdown]
    exact ⟨rfl, inRounds_polling R settings _ settings.rounds⟩
  patient ms gaveUp := (attempt R settings radio).patient gaveUp

end ControlLoop.Station
