import ControlLoop.Network.Station.Basic
import Mathlib.Data.Nat.Find

/-!
# One attempt

An attempt asks the radio to associate, and then lets rounds of one pause and one query pass until a query finds the
link up. There are just as many rounds as it takes for their pauses to cover the timeout. So an attempt can go in three
ways, and which one it takes is decided by the answers of the radio alone.
-/

namespace ControlLoop.Station

set_option autoImplicit false

variable {ρ ε : Type} {R : Radio ρ ε} {settings : Settings} {radio : ρ}

/-- The pause of a round, at least one millisecond. -/
def Settings.interval (settings : Settings) : Nat := max settings.pollIntervalMs.toNat 1

/-- The least number of pauses that cover the timeout. -/
def Settings.rounds (settings : Settings) : Nat :=
  (settings.timeoutMs.toNat + (settings.interval - 1)) / settings.interval

theorem interval_pos (settings : Settings) : 0 < settings.interval :=
  Nat.lt_of_lt_of_le Nat.one_pos (Nat.le_max_right _ _)

theorem lt_rounds_iff {n : Nat} : n < settings.rounds ↔ n * settings.interval < settings.timeoutMs.toNat := by
  have hpos := interval_pos settings
  rw [Settings.rounds, Nat.lt_iff_add_one_le, Nat.le_div_iff_mul_le hpos, Nat.add_mul]
  omega

theorem timeout_le_rounds (settings : Settings) :
    settings.timeoutMs.toNat ≤ settings.rounds * settings.interval :=
  Nat.le_of_not_lt fun h => Nat.lt_irrefl _ (lt_rounds_iff.mpr h)

/-- The radio after some queries in a row. -/
def afterQueries (R : Radio ρ ε) (radio : ρ) : Nat → ρ
  | 0 => radio
  | n + 1 => afterQueries R (R.isUp radio).2 n

/-- The answer to the query with this number, counted from zero. -/
def answer (R : Radio ρ ε) (radio : ρ) (n : Nat) : Bool := (R.isUp (afterQueries R radio n)).1

/-- Rounds that find the link down. -/
def downRounds (interval n : Nat) : List (Event ε) := (List.replicate n [.wait interval, .query false]).flatten

theorem downRounds_succ (interval n : Nat) :
    (downRounds interval (n + 1) : List (Event ε)) = .wait interval :: .query false :: downRounds interval n := rfl

/-- The line that tells of a link after this many milliseconds. -/
def connected (total : Nat) : Event ε := .log ⟨.info, s!"WiFi connected after {total} ms"⟩

section Await

variable {interval : Nat} {positive : 0 < interval} {timeout : UInt16} {waited : Nat} {events : List (Event ε)}

theorem awaitFrom_of_le (elapsed : timeout.toNat ≤ waited) :
    awaitFrom R interval positive timeout waited radio events =
      ⟨(.error (.timeout waited), radio), events.reverse⟩ := by
  rw [awaitFrom, if_pos elapsed]

theorem awaitFrom_of_up (early : waited < timeout.toNat) (up : (R.isUp radio).1 = true) :
    awaitFrom R interval positive timeout waited radio events =
      ⟨(.ok (), (R.isUp radio).2),
        events.reverse ++ [.wait interval, .query true, connected (min (waited + interval) 65535)]⟩ := by
  rw [awaitFrom, if_neg (Nat.not_le_of_lt early)]
  simp [up, connected]

theorem awaitFrom_of_down (early : waited < timeout.toNat) (down : (R.isUp radio).1 = false) :
    awaitFrom R interval positive timeout waited radio events =
      awaitFrom R interval positive timeout (min (waited + interval) 65535) (R.isUp radio).2
        (.query false :: .wait interval :: events) := by
  rw [awaitFrom, if_neg (Nat.not_le_of_lt early)]
  simp [down]

theorem awaitFrom_linked {n : Nat} (early : waited + n * interval < timeout.toNat)
    (down : ∀ m < n, answer R radio m = false) (up : answer R radio n = true) :
    awaitFrom R interval positive timeout waited radio events =
      ⟨(.ok (), afterQueries R radio (n + 1)), events.reverse ++ downRounds interval n ++
        [.wait interval, .query true, connected (min (waited + (n + 1) * interval) 65535)]⟩ := by
  have hword : timeout.toNat < 65536 := timeout.toNat_lt
  induction n generalizing waited radio events with
  | zero =>
    have hfirst : (R.isUp radio).1 = true := up
    rw [awaitFrom_of_up (by omega) hfirst]
    simp [downRounds, afterQueries]
  | succ n ih =>
    have hfirst : (R.isUp radio).1 = false := down 0 (Nat.succ_pos n)
    have hsum := Nat.add_one_mul n interval
    have hsum' := Nat.add_one_mul (n + 1) interval
    have htotal : min (min (waited + interval) 65535 + (n + 1) * interval) 65535 =
        min (waited + (n + 1 + 1) * interval) 65535 := by omega
    rw [awaitFrom_of_down (by omega) hfirst,
      ih (by omega) (fun m hm => down (m + 1) (Nat.succ_lt_succ hm)) up, htotal, downRounds_succ]
    simp [afterQueries]

/-- The sum of the pauses is capped, but the cap is no less than any timeout. -/
theorem awaitFrom_timedOut {n : Nat} (capped : waited ≤ 65535) (elapsed : timeout.toNat ≤ waited + n * interval)
    (early : ∀ m < n, waited + m * interval < timeout.toNat) (down : ∀ m < n, answer R radio m = false) :
    awaitFrom R interval positive timeout waited radio events =
      ⟨(.error (.timeout (min (waited + n * interval) 65535)), afterQueries R radio n),
        events.reverse ++ downRounds interval n⟩ := by
  have hword : timeout.toNat < 65536 := timeout.toNat_lt
  induction n generalizing waited radio events with
  | zero =>
    rw [awaitFrom_of_le (by omega)]
    simp [downRounds, afterQueries, capped]
  | succ n ih =>
    have hfirst : (R.isUp radio).1 = false := down 0 (Nat.succ_pos n)
    have hbegun : waited < timeout.toNat := by simpa using early 0 (Nat.succ_pos n)
    have hsum := Nat.add_one_mul n interval
    have htotal : min (min (waited + interval) 65535 + n * interval) 65535 =
        min (waited + (n + 1) * interval) 65535 := by omega
    have hearly : ∀ m < n, min (waited + interval) 65535 + m * interval < timeout.toNat := by
      intro m hm
      have hnext := early (m + 1) (Nat.succ_lt_succ hm)
      rw [Nat.add_one_mul] at hnext
      omega
    rw [awaitFrom_of_down hbegun hfirst, ih (Nat.min_le_right _ _) (by omega) hearly
      (fun m hm => down (m + 1) (Nat.succ_lt_succ hm)), htotal, downRounds_succ]
    simp [afterQueries]

end Await

theorem run_await (R : Radio ρ ε) (settings : Settings) (radio : ρ) :
    (await R settings).run radio =
      awaitFrom R settings.interval (interval_pos settings) settings.timeoutMs 0 radio [] := rfl

theorem run_await_linked {n : Nat} (early : n < settings.rounds) (down : ∀ m < n, answer R radio m = false)
    (up : answer R radio n = true) :
    (await R settings).run radio =
      ⟨(.ok (), afterQueries R radio (n + 1)), downRounds settings.interval n ++
        [.wait settings.interval, .query true, connected (min ((n + 1) * settings.interval) 65535)]⟩ := by
  have hearly : 0 + n * settings.interval < settings.timeoutMs.toNat := by
    rw [Nat.zero_add]
    exact lt_rounds_iff.mp early
  rw [run_await, awaitFrom_linked hearly down up, Nat.zero_add, List.reverse_nil, List.nil_append]

theorem run_await_timedOut (down : ∀ m < settings.rounds, answer R radio m = false) :
    (await R settings).run radio =
      ⟨(.error (.timeout (min (settings.rounds * settings.interval) 65535)), afterQueries R radio settings.rounds),
        downRounds settings.interval settings.rounds⟩ := by
  have hover : settings.timeoutMs.toNat ≤ 0 + settings.rounds * settings.interval := by
    rw [Nat.zero_add]
    exact timeout_le_rounds settings
  have hearly : ∀ m < settings.rounds, 0 + m * settings.interval < settings.timeoutMs.toNat := by
    intro m hm
    rw [Nat.zero_add]
    exact lt_rounds_iff.mp hm
  rw [run_await, awaitFrom_timedOut (Nat.zero_le _) hover hearly down, Nat.zero_add, List.reverse_nil,
    List.nil_append]

/-- The line that comes before everything else that an attempt does. -/
def connecting (settings : Settings) : Event ε := .log ⟨.info, s!"WiFi connecting to {settings.ssid.text}"⟩

/-- The answer of the radio when it is asked for the network of the settings, and the radio after it. -/
def request (R : Radio ρ ε) (settings : Settings) (radio : ρ) : Except ε Unit × ρ :=
  R.associate radio settings.ssid.text settings.password.text

def requested (settings : Settings) (reply : Except ε Unit) : Event ε :=
  .associate settings.ssid.text settings.password.text reply

/-- All that an attempt can come to. -/
inductive Attempt (R : Radio ρ ε) (settings : Settings) (radio : ρ) :
    Journal (Event ε) (Except (Error ε) Unit × ρ) → Prop where
  | refused {cause : ε} {after : ρ} : request R settings radio = (.error cause, after) →
      Attempt R settings radio ⟨(.error (.radio cause), after),
        [connecting settings, requested settings (.error cause)]⟩
  | linked {after : ρ} {n : Nat} : request R settings radio = (.ok (), after) → n < settings.rounds →
      (∀ m < n, answer R after m = false) → answer R after n = true →
      Attempt R settings radio ⟨(.ok (), afterQueries R after (n + 1)),
        connecting settings :: requested settings (.ok ()) :: downRounds settings.interval n ++
          [.wait settings.interval, .query true, connected (min ((n + 1) * settings.interval) 65535)]⟩
  | timedOut {after : ρ} : request R settings radio = (.ok (), after) →
      (∀ m < settings.rounds, answer R after m = false) →
      Attempt R settings radio ⟨(.error (.timeout (min (settings.rounds * settings.interval) 65535)),
          afterQueries R after settings.rounds),
        connecting settings :: requested settings (.ok ()) :: downRounds settings.interval settings.rounds⟩

theorem run_note (level : Log.Level) (text : String) (radio : ρ) :
    (note level text : Action ρ ε Unit).run radio = ⟨(.ok (), radio), [.log ⟨level, text⟩]⟩ := rfl

theorem run_associate {reply : Except ε Unit} {after : ρ} (h : request R settings radio = (reply, after)) :
    (associate R settings).run radio = ⟨(reply.mapError .radio, after), [requested settings reply]⟩ := by
  unfold request at h
  simp [associate, h, requested]

theorem run_connect_refused {cause : ε} {after : ρ} (h : request R settings radio = (.error cause, after)) :
    (connect R settings).run radio =
      ⟨(.error (.radio cause), after), [connecting settings, requested settings (.error cause)]⟩ := by
  rw [connect, Procedure.run_bind_of_ok (run_note _ _ radio), Procedure.run_bind_of_error (run_associate h)]
  rfl

theorem run_connect_accepted {after : ρ} (h : request R settings radio = (.ok (), after)) :
    (connect R settings).run radio =
      ⟨((await R settings).run after).value,
        connecting settings :: requested settings (.ok ()) :: ((await R settings).run after).events⟩ := by
  rw [connect, Procedure.run_bind_of_ok (run_note _ _ radio), Procedure.run_bind_of_ok (run_associate h)]
  rfl

theorem attempt (R : Radio ρ ε) (settings : Settings) (radio : ρ) :
    Attempt R settings radio ((connect R settings).run radio) := by
  classical
  rcases h : request R settings radio with ⟨reply, after⟩
  cases reply with
  | error cause =>
    rw [run_connect_refused h]
    exact .refused h
  | ok =>
    rw [run_connect_accepted h]
    by_cases hup : ∃ n, n < settings.rounds ∧ answer R after n = true
    · -- The first query that finds the link up ends the attempt.
      obtain ⟨hearly, hfound⟩ := Nat.find_spec hup
      have hdown : ∀ m < Nat.find hup, answer R after m = false := by
        intro m hm
        have hnot := Nat.find_min hup hm
        exact Bool.eq_false_iff.mpr fun hm' => hnot ⟨Nat.lt_trans hm hearly, hm'⟩
      rw [run_await_linked hearly hdown hfound]
      exact .linked h hearly hdown hfound
    · have hdown : ∀ m < settings.rounds, answer R after m = false :=
        fun m hm => Bool.eq_false_iff.mpr fun hm' => hup ⟨m, hm, hm'⟩
      rw [run_await_timedOut hdown]
      exact .timedOut h hdown

/-- The radio accepts the request, and a query before the timeout finds the link up. -/
def ComesUp (R : Radio ρ ε) (settings : Settings) (radio : ρ) : Prop :=
  (request R settings radio).1 = .ok () ∧ ∃ n < settings.rounds, answer R (request R settings radio).2 n = true

variable {outcome : Journal (Event ε) (Except (Error ε) Unit × ρ)}

theorem Attempt.ok_iff (h : Attempt R settings radio outcome) :
    outcome.value.1 = .ok () ↔ ComesUp R settings radio := by
  cases h with
  | refused hrefused => simp [ComesUp, hrefused]
  | linked haccepted hearly _ hup =>
    rw [ComesUp, haccepted]
    exact iff_of_true rfl ⟨rfl, _, hearly, hup⟩
  | timedOut haccepted hdown =>
    rw [ComesUp, haccepted]
    refine iff_of_false nofun ?_
    rintro ⟨_, n, hn, hup⟩
    rw [hdown n hn] at hup
    exact Bool.false_ne_true hup

section Events

def Event.isLog : Event ε → Bool
  | .log _ => true
  | _ => false

def Event.isAssociation : Event ε → Bool
  | .associate _ _ _ => true
  | _ => false

def Event.isDrop : Event ε → Bool
  | .drop => true
  | _ => false

def Event.pause : Event ε → Nat
  | .wait ms => ms
  | _ => 0

/-- What is done to the radio, with the pauses in between. -/
def deeds (events : List (Event ε)) : List (Event ε) := events.filter fun event => !event.isLog

/-- The requests to associate and the drops among them. -/
def links (events : List (Event ε)) : List (Event ε) := events.filter fun event => event.isAssociation || event.isDrop

def associations (events : List (Event ε)) : Nat := events.countP Event.isAssociation

def drops (events : List (Event ε)) : Nat := events.countP Event.isDrop

/-- The total of the pauses. -/
def paused : List (Event ε) → Nat
  | [] => 0
  | event :: rest => event.pause + paused rest

theorem deeds_append (events more : List (Event ε)) : deeds (events ++ more) = deeds events ++ deeds more :=
  List.filter_append _ _

theorem links_append (events more : List (Event ε)) : links (events ++ more) = links events ++ links more :=
  List.filter_append _ _

theorem associations_append (events more : List (Event ε)) :
    associations (events ++ more) = associations events + associations more := List.countP_append

theorem drops_append (events more : List (Event ε)) : drops (events ++ more) = drops events + drops more :=
  List.countP_append

theorem paused_append (events more : List (Event ε)) : paused (events ++ more) = paused events + paused more := by
  induction events with
  | nil => exact (Nat.zero_add (paused more)).symm
  | cons event rest ih => rw [List.cons_append, paused, paused, ih, Nat.add_assoc]

theorem associations_links (events : List (Event ε)) : associations (links events) = associations events := by
  rw [associations, links, List.countP_filter, associations]
  refine List.countP_congr fun event _ => ?_
  rw [Bool.and_eq_true, Bool.or_eq_true]
  exact and_iff_left_of_imp Or.inl

theorem drops_links (events : List (Event ε)) : drops (links events) = drops events := by
  rw [drops, links, List.countP_filter, drops]
  refine List.countP_congr fun event _ => ?_
  rw [Bool.and_eq_true, Bool.or_eq_true]
  exact and_iff_left_of_imp Or.inr

theorem links_downRounds (interval n : Nat) : links (downRounds interval n : List (Event ε)) = [] := by
  induction n with
  | zero => rfl
  | succ n ih => rw [downRounds_succ]; exact ih

theorem paused_downRounds (interval n : Nat) : paused (downRounds interval n : List (Event ε)) = n * interval := by
  induction n with
  | zero => exact (Nat.zero_mul interval).symm
  | succ n ih =>
    have hround : paused (.wait interval :: .query false :: downRounds interval n : List (Event ε)) =
        interval + (0 + paused (downRounds interval n : List (Event ε))) := rfl
    rw [downRounds_succ, hround, ih, Nat.add_one_mul, Nat.zero_add, Nat.add_comm]

/-- An attempt asks once to associate and drops nothing. -/
theorem Attempt.links (h : Attempt R settings radio outcome) :
    links outcome.events = [requested settings (request R settings radio).1] := by
  cases h with
  | refused hrefused =>
    rw [hrefused]
    rfl
  | linked haccepted _ _ _ =>
    rw [haccepted, links_append]
    exact congrArg (requested settings (.ok ()) :: · ++ []) (links_downRounds settings.interval _)
  | timedOut haccepted _ =>
    rw [haccepted]
    exact congrArg (requested settings (.ok ()) :: ·) (links_downRounds settings.interval _)

theorem Attempt.associations (h : Attempt R settings radio outcome) : associations outcome.events = 1 := by
  rw [← associations_links, h.links]
  rfl

theorem Attempt.drops (h : Attempt R settings radio outcome) : drops outcome.events = 0 := by
  rw [← drops_links, h.links]
  rfl

theorem paused_accepted (settings : Settings) (events : List (Event ε)) :
    paused (connecting settings :: requested settings (.ok ()) :: events) = paused events := by
  simp [paused, connecting, requested, Event.pause]

theorem Attempt.paused_le (h : Attempt R settings radio outcome) :
    paused outcome.events ≤ settings.rounds * settings.interval := by
  cases h with
  | refused _ => exact Nat.zero_le _
  | @linked _ n _ hearly _ _ =>
    have hlast (total : Nat) : paused [.wait settings.interval, .query true, (connected total : Event ε)] =
      settings.interval := rfl
    rw [paused_append, paused_accepted, paused_downRounds, hlast, ← Nat.add_one_mul]
    exact Nat.mul_le_mul_right _ hearly
  | timedOut _ _ =>
    rw [paused_accepted, paused_downRounds]

theorem Attempt.getLast?_deeds (h : Attempt R settings radio outcome) (ok : outcome.value.1 = .ok ()) :
    (deeds outcome.events).getLast? = some (.query true) := by
  cases h with
  | refused _ => cases ok
  | linked _ _ _ _ =>
    rw [deeds_append, List.getLast?_append]
    rfl
  | timedOut _ _ => cases ok

end Events

end ControlLoop.Station
