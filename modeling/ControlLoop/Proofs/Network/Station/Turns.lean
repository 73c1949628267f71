import ControlLoop.Proofs.Network.Station.Attempt

/-!
# Attempts in turn

To begin, a station attempts to connect again and again, and drops the link after every attempt that fails. Each attempt
starts from the radio that the drop before it has left. The first one that succeeds is the last one of all.
-/

namespace ControlLoop.Station

set_option autoImplicit false

variable {ρ ε : Type} {R : Radio ρ ε} {settings : Settings} {radio : ρ}

/-- The radio before the attempt with this number, counted from zero, when all earlier ones have failed. -/
def beforeAttempt (R : Radio ρ ε) (settings : Settings) (radio : ρ) : Nat → ρ
  | 0 => radio
  | n + 1 => R.drop ((connect R settings).run (beforeAttempt R settings radio n)).value.2

def attemptAt (R : Radio ρ ε) (settings : Settings) (radio : ρ) (n : Nat) :
    Journal (Event ε) (Except (Error ε) Unit × ρ) :=
  (connect R settings).run (beforeAttempt R settings radio n)

def Succeeds (R : Radio ρ ε) (settings : Settings) (radio : ρ) (n : Nat) : Prop :=
  ComesUp R settings (beforeAttempt R settings radio n)

/-- What an attempt that fails and the drop after it leave in the journal. -/
def failure (R : Radio ρ ε) (settings : Settings) (radio : ρ) (n : Nat) : List (Event ε) :=
  (attemptAt R settings radio n).events ++
    [.log ⟨.error, s!"WiFi attempt {n + 1} failed"⟩, .drop, .log ⟨.info, "WiFi disconnected"⟩]

def failures (R : Radio ρ ε) (settings : Settings) (radio : ρ) (n : Nat) : List (Event ε) :=
  (List.range n).flatMap (failure R settings radio)

theorem failures_succ (R : Radio ρ ε) (settings : Settings) (radio : ρ) (n : Nat) :
    failures R settings radio (n + 1) = failures R settings radio n ++ failure R settings radio n := by
  rw [failures, List.range_succ, List.flatMap_append, List.flatMap_singleton, failures]

theorem run_disconnect (R : Radio ρ ε) (radio : ρ) :
    (disconnect R : Action ρ ε Unit).run radio =
      ⟨(.ok (), R.drop radio), [.drop, .log ⟨.info, "WiFi disconnected"⟩]⟩ := rfl

theorem attemptAt_ok_iff {n : Nat} :
    (attemptAt R settings radio n).value.1 = .ok () ↔ Succeeds R settings radio n :=
  (attempt R settings _).ok_iff

theorem run_attempts_of_succeeds {n left number : Nat} (h : Succeeds R settings radio n) :
    (attempts R settings (left + 1) number).run (beforeAttempt R settings radio n) =
      attemptAt R settings radio n := by
  have hok := attemptAt_ok_iff.mpr h
  rcases hattempt : attemptAt R settings radio n with ⟨⟨reply, after⟩, events⟩
  rw [hattempt] at hok
  cases hok
  rw [attemptAt] at hattempt
  simp [attempts, hattempt]

theorem run_attempts_of_fails {n left : Nat} (h : ¬ Succeeds R settings radio n) :
    (attempts R settings (left + 1) (n + 1)).run (beforeAttempt R settings radio n) =
      ⟨((attempts R settings left (n + 2)).run (beforeAttempt R settings radio (n + 1))).value,
        failure R settings radio n ++
          ((attempts R settings left (n + 2)).run (beforeAttempt R settings radio (n + 1))).events⟩ := by
  rcases hattempt : attemptAt R settings radio n with ⟨⟨reply, after⟩, events⟩
  have hafter : R.drop after = beforeAttempt R settings radio (n + 1) := by
    rw [beforeAttempt, ← attemptAt, hattempt]
  cases reply with
  | ok => exact absurd (attemptAt_ok_iff.mp (by rw [hattempt])) h
  | error cause =>
    rw [failure, hattempt]
    rw [attemptAt] at hattempt
    simp [attempts, hattempt, run_note, run_disconnect, hafter]

/-- The attempts that are left after some have failed. -/
theorem run_attempts_after {n : Nat} (left : Nat) (h : ∀ m < n, ¬ Succeeds R settings radio m) :
    (attempts R settings (left + n) 1).run radio =
      ⟨((attempts R settings left (n + 1)).run (beforeAttempt R settings radio n)).value,
        failures R settings radio n ++
          ((attempts R settings left (n + 1)).run (beforeAttempt R settings radio n)).events⟩ := by
  induction n generalizing left with
  | zero => rfl
  | succ n ih =>
    have hleft : left + (n + 1) = left + 1 + n := by omega
    rw [hleft, ih (left + 1) fun m hm => h m (Nat.lt_succ_of_lt hm), run_attempts_of_fails (h n (Nat.lt_succ_self n)),
      failures_succ, List.append_assoc]

/-- The attempt with this number is the first that succeeds. -/
def IsFirstSuccess (R : Radio ρ ε) (settings : Settings) (radio : ρ) (n : Nat) : Prop :=
  Succeeds R settings radio n ∧ ∀ m < n, ¬ Succeeds R settings radio m

theorem run_begin_of_isFirstSuccess {n : Nat} (early : n < settings.maxAttempts.toNat)
    (h : IsFirstSuccess R settings radio n) :
    (begin R settings).run radio =
      ⟨(attemptAt R settings radio n).value,
        failures R settings radio n ++ (attemptAt R settings radio n).events⟩ := by
  obtain ⟨left, hleft⟩ := Nat.exists_eq_add_of_lt early
  have hcount : settings.maxAttempts.toNat = left + 1 + n := by omega
  rw [begin, hcount, run_attempts_after _ h.2, run_attempts_of_succeeds h.1]

theorem run_begin_exhausted (h : ∀ n < settings.maxAttempts.toNat, ¬ Succeeds R settings radio n) :
    (begin R settings).run radio =
      ⟨(.error (.retriesExhausted settings.maxAttempts.toNat),
          beforeAttempt R settings radio settings.maxAttempts.toNat),
        failures R settings radio settings.maxAttempts.toNat⟩ := by
  have hnone := run_attempts_after 0 h
  rw [Nat.zero_add] at hnone
  rw [begin, hnone]
  simp [attempts]

/-- The first success among the attempts settles what comes of beginning, or all of them fail. -/
theorem begin_cases (R : Radio ρ ε) (settings : Settings) (radio : ρ) :
    (∃ n < settings.maxAttempts.toNat, IsFirstSuccess R settings radio n ∧
      (begin R settings).run radio =
        ⟨(attemptAt R settings radio n).value,
          failures R settings radio n ++ (attemptAt R settings radio n).events⟩) ∨
    (∀ n < settings.maxAttempts.toNat, ¬ Succeeds R settings radio n) ∧
      (begin R settings).run radio =
        ⟨(.error (.retriesExhausted settings.maxAttempts.toNat),
            beforeAttempt R settings radio settings.maxAttempts.toNat),
          failures R settings radio settings.maxAttempts.toNat⟩ := by
  classical
  by_cases hsome : ∃ n, n < settings.maxAttempts.toNat ∧ Succeeds R settings radio n
  · obtain ⟨hearly, hsucceeds⟩ := Nat.find_spec hsome
    have hfirst : IsFirstSuccess R settings radio (Nat.find hsome) :=
      ⟨hsucceeds, fun m hm hm' => Nat.find_min hsome hm ⟨Nat.lt_trans hm hearly, hm'⟩⟩
    exact Or.inl ⟨Nat.find hsome, hearly, hfirst, run_begin_of_isFirstSuccess hearly hfirst⟩
  · have hnone : ∀ n < settings.maxAttempts.toNat, ¬ Succeeds R settings radio n :=
      fun n hn hsucceeds => hsome ⟨n, hn, hsucceeds⟩
    exact Or.inr ⟨hnone, run_begin_exhausted hnone⟩

theorem associations_failures (R : Radio ρ ε) (settings : Settings) (radio : ρ) (n : Nat) :
    associations (failures R settings radio n) = n := by
  induction n with
  | zero => rfl
  | succ n ih =>
    have hattempt := (attempt R settings (beforeAttempt R settings radio n)).associations
    rw [failures_succ, associations_append, ih, failure, associations_append, attemptAt, hattempt]
    rfl

theorem drops_failures (R : Radio ρ ε) (settings : Settings) (radio : ρ) (n : Nat) :
    drops (failures R settings radio n) = n := by
  induction n with
  | zero => rfl
  | succ n ih =>
    have hattempt := (attempt R settings (beforeAttempt R settings radio n)).drops
    rw [failures_succ, drops_append, ih, failure, drops_append, attemptAt, hattempt]
    rfl

theorem paused_failures_le (R : Radio ρ ε) (settings : Settings) (radio : ρ) (n : Nat) :
    paused (failures R settings radio n) ≤ n * (settings.rounds * settings.interval) := by
  induction n with
  | zero => exact Nat.zero_le _
  | succ n ih =>
    have hattempt := (attempt R settings (beforeAttempt R settings radio n)).paused_le
    have hfailure : paused (failure R settings radio n) = paused (attemptAt R settings radio n).events := by
      rw [failure, paused_append]
      rfl
    rw [failures_succ, paused_append, hfailure, Nat.add_one_mul]
    exact Nat.add_le_add ih hattempt

/-- The deeds of attempts that fail, each followed by a drop. -/
def failedDeeds (R : Radio ρ ε) (settings : Settings) (radio : ρ) (n : Nat) : List (Event ε) :=
  (List.range n).flatMap fun m => deeds (attemptAt R settings radio m).events ++ [.drop]

theorem deeds_failures (R : Radio ρ ε) (settings : Settings) (radio : ρ) (n : Nat) :
    deeds (failures R settings radio n) = failedDeeds R settings radio n := by
  have hfailure (m : Nat) : deeds (failure R settings radio m) =
    deeds (attemptAt R settings radio m).events ++ [.drop] := deeds_append _ _
  rw [failures, deeds, List.filter_flatMap, failedDeeds]
  exact congrArg (fun deeds => (List.range n).flatMap deeds) (funext hfailure)

/-- What comes of beginning, by the attempts that succeed. -/
structure TriesInTurn (R : Radio ρ ε) (settings : Settings) (radio : ρ)
    (outcome : Journal (Event ε) (Except (Error ε) Unit × ρ)) : Prop where
  attempted : ∀ n, Attempt R settings (beforeAttempt R settings radio n) (attemptAt R settings radio n)
  ok_iff : outcome.value.1 = .ok () ↔ ∃ n < settings.maxAttempts.toNat, Succeeds R settings radio n
  succeeded : ∀ n < settings.maxAttempts.toNat, IsFirstSuccess R settings radio n →
    deeds outcome.events = failedDeeds R settings radio n ++ deeds (attemptAt R settings radio n).events ∧
      associations outcome.events = n + 1 ∧ drops outcome.events = n ∧
      (deeds outcome.events).getLast? = some (.query true)
  exhausted : (∀ n < settings.maxAttempts.toNat, ¬ Succeeds R settings radio n) →
    outcome.value.1 = .error (.retriesExhausted settings.maxAttempts.toNat) ∧
      deeds outcome.events = failedDeeds R settings radio settings.maxAttempts.toNat ∧
      associations outcome.events = settings.maxAttempts.toNat ∧ drops outcome.events = settings.maxAttempts.toNat ∧
      (deeds outcome.events).getLast? = if settings.maxAttempts.toNat = 0 then none else some .drop
  paused_le : paused outcome.events ≤ settings.maxAttempts.toNat * (settings.rounds * settings.interval)

theorem getLast?_failedDeeds (R : Radio ρ ε) (settings : Settings) (radio : ρ) (n : Nat) :
    (failedDeeds R settings radio n).getLast? = if n = 0 then none else some .drop := by
  cases n with
  | zero => rfl
  | succ n =>
    rw [failedDeeds, List.range_succ, List.flatMap_append, List.flatMap_singleton, ← List.append_assoc,
      List.getLast?_concat, if_neg (Nat.succ_ne_zero n)]

theorem begin_ok_iff (R : Radio ρ ε) (settings : Settings) (radio : ρ) :
    ((begin R settings).run radio).value.1 = .ok () ↔
      ∃ n < settings.maxAttempts.toNat, Succeeds R settings radio n := by
  rcases begin_cases R settings radio with ⟨n, hn, hfirst, hrun⟩ | ⟨hnone, hrun⟩
  · rw [hrun]
    exact iff_of_true (attemptAt_ok_iff.mpr hfirst.1) ⟨n, hn, hfirst.1⟩
  · rw [hrun]
    exact iff_of_false nofun fun ⟨n, hn, hsucceeds⟩ => hnone n hn hsucceeds

theorem paused_begin_le (R : Radio ρ ε) (settings : Settings) (radio : ρ) :
    paused ((begin R settings).run radio).events ≤
      settings.maxAttempts.toNat * (settings.rounds * settings.interval) := by
  rcases begin_cases R settings radio with ⟨n, hn, _, hrun⟩ | ⟨_, hrun⟩
  · have hfailed := paused_failures_le R settings radio n
    have hlast := (attempt R settings (beforeAttempt R settings radio n)).paused_le
    rw [hrun, paused_append]
    calc
      paused (failures R settings radio n) + paused (attemptAt R settings radio n).events
        ≤ n * (settings.rounds * settings.interval) + settings.rounds * settings.interval :=
          Nat.add_le_add hfailed hlast
      _ = (n + 1) * (settings.rounds * settings.interval) := (Nat.add_one_mul _ _).symm
      _ ≤ settings.maxAttempts.toNat * (settings.rounds * settings.interval) := Nat.mul_le_mul_right _ hn
  · rw [hrun]
    exact paused_failures_le R settings radio _

/-- A station that begins attempts to connect until the first success, with a drop after every failure before it, or
gives up after the last of its attempts. Its pauses are bounded either way. -/
theorem begin_tries_in_turn (R : Radio ρ ε) (settings : Settings) (radio : ρ) :
    TriesInTurn R settings radio ((begin R settings).run radio) where
  attempted n := attempt R settings (beforeAttempt R settings radio n)
  ok_iff := begin_ok_iff R settings radio
  succeeded n hn hfirst := by
    have hattempt := attempt R settings (beforeAttempt R settings radio n)
    rw [run_begin_of_isFirstSuccess hn hfirst, deeds_append, deeds_failures]
    refine ⟨rfl, ?_, ?_, ?_⟩
    · rw [associations_append, associations_failures, attemptAt, hattempt.associations]
    · rw [drops_append, drops_failures, attemptAt, hattempt.drops, Nat.add_zero]
    · rw [List.getLast?_append, attemptAt, hattempt.getLast?_deeds (attemptAt_ok_iff.mpr hfirst.1)]
      rfl
  exhausted hnone := by
    rw [run_begin_exhausted hnone, deeds_failures]
    exact ⟨rfl, rfl, associations_failures _ _ _ _, drops_failures _ _ _ _, getLast?_failedDeeds _ _ _ _⟩
  paused_le := paused_begin_le R settings radio

end ControlLoop.Station
