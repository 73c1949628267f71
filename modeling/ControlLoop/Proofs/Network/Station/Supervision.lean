import ControlLoop.Proofs.Network.Station.Turns
import Mathlib.Data.List.Chain

/-!
# Supervision of a link

A station that is at work begins at most once and then checks its link again and again. An attempt of the beginning is
followed by a drop unless it succeeds, and an attempt of a check comes right after a drop. So no radio is ever asked to
associate twice without a drop in between, however its link comes and goes.
-/

namespace ControlLoop.Station

set_option autoImplicit false

variable {ρ ε : Type} {R : Radio ρ ε} {settings : Settings} {radio : ρ} {events : List (Event ε)}

/-- The attempt of a check that finds the link down. -/
def reattempt (R : Radio ρ ε) (settings : Settings) (radio : ρ) : Journal (Event ε) (Except (Error ε) Unit × ρ) :=
  (connect R settings).run (R.drop (R.isUp radio).2)

/-- The answer of the query that ends such a check, and the radio after it. -/
def lastQuery (R : Radio ρ ε) (settings : Settings) (radio : ρ) : Bool × ρ :=
  R.isUp (reattempt R settings radio).value.2

/-- The line that tells of an attempt that has failed. -/
def complaint : Except (Error ε) Unit → List (Event ε)
  | .ok () => []
  | .error _ => [.log ⟨.error, "WiFi reconnect failed"⟩]

theorem run_isUp (R : Radio ρ ε) (radio : ρ) :
    (isUp R : Action ρ ε Bool).run radio = ⟨(.ok (R.isUp radio).1, (R.isUp radio).2), [.query (R.isUp radio).1]⟩ := rfl

theorem run_healthCheck_up (up : (R.isUp radio).1 = true) :
    (healthCheck R settings).run radio = ⟨(.ok true, (R.isUp radio).2), [.query true]⟩ := by
  rw [healthCheck, Procedure.run_bind_of_ok (run_isUp R radio), up]
  rfl

theorem run_healthCheck_down (down : (R.isUp radio).1 = false) :
    (healthCheck R settings).run radio =
      ⟨(.ok (lastQuery R settings radio).1, (lastQuery R settings radio).2),
        [.query false, .drop, .log ⟨.info, "WiFi disconnected"⟩] ++ (reattempt R settings radio).events ++
          complaint (reattempt R settings radio).value.1 ++ [.query (lastQuery R settings radio).1]⟩ := by
  rcases hattempt : reattempt R settings radio with ⟨⟨reply, after⟩, events⟩
  have hlast : R.isUp after = lastQuery R settings radio := by rw [lastQuery, hattempt]
  rw [reattempt] at hattempt
  rw [healthCheck, Procedure.run_bind_of_ok (run_isUp R radio), down]
  cases reply <;> simp [run_disconnect, run_note, run_isUp, hattempt, hlast, complaint]

theorem links_healthCheck_down (down : (R.isUp radio).1 = false) :
    links ((healthCheck R settings).run radio).events =
      [.drop, requested settings (request R settings (R.drop (R.isUp radio).2)).1] := by
  have hcomplaint : links (complaint (reattempt R settings radio).value.1) = [] := by
    cases (reattempt R settings radio).value.1 <;> rfl
  rw [run_healthCheck_down down, links_append, links_append, links_append, hcomplaint, reattempt,
    (attempt R settings _).links]
  rfl

theorem deeds_healthCheck_down (down : (R.isUp radio).1 = false) :
    deeds ((healthCheck R settings).run radio).events =
      .query false :: .drop :: deeds (reattempt R settings radio).events ++
        [.query (lastQuery R settings radio).1] := by
  have hcomplaint : deeds (complaint (reattempt R settings radio).value.1) = [] := by
    cases (reattempt R settings radio).value.1 <;> rfl
  rw [run_healthCheck_down down, deeds_append, deeds_append, deeds_append, hcomplaint, List.append_nil]
  rfl

/-- Of any two neighbours among the requests and drops one is a drop. -/
def Alternates (events : List (Event ε)) : Prop :=
  (links events).IsChain fun earlier later => earlier.isDrop = true ∨ later.isDrop = true

/-- No request has been made since the latest drop. -/
def Dropped (events : List (Event ε)) : Prop := ∀ latest ∈ (links events).getLast?, latest.isDrop = true

theorem links_failure (R : Radio ρ ε) (settings : Settings) (radio : ρ) (n : Nat) :
    links (failure R settings radio n) =
      [requested settings (request R settings (beforeAttempt R settings radio n)).1, .drop] := by
  rw [failure, links_append, attemptAt, (attempt R settings _).links]
  rfl

theorem alternates_failures (R : Radio ρ ε) (settings : Settings) (radio : ρ) (n : Nat) :
    Alternates (failures R settings radio n) ∧ Dropped (failures R settings radio n) := by
  unfold Alternates Dropped
  induction n with
  | zero => exact ⟨.nil, fun latest hlatest => nomatch hlatest⟩
  | succ n ih =>
    obtain ⟨halternates, hdropped⟩ := ih
    rw [failures_succ, links_append, links_failure]
    constructor
    · exact halternates.append (List.isChain_pair.mpr (Or.inr rfl)) fun earlier hearlier _ _ =>
        Or.inl (hdropped earlier hearlier)
    · rw [List.getLast?_append]
      rintro latest hlatest
      cases hlatest
      rfl

theorem alternates_begin (R : Radio ρ ε) (settings : Settings) (radio : ρ) :
    Alternates ((begin R settings).run radio).events := by
  rcases begin_cases R settings radio with ⟨n, _, _, hrun⟩ | ⟨_, hrun⟩
  · obtain ⟨halternates, hdropped⟩ := alternates_failures R settings radio n
    rw [hrun]
    unfold Alternates
    rw [links_append, attemptAt, (attempt R settings _).links]
    exact halternates.append (.singleton _) fun earlier hearlier _ _ => Or.inl (hdropped earlier hearlier)
  · rw [hrun]
    exact (alternates_failures R settings radio _).1

theorem Alternates.healthCheck (h : Alternates events) (R : Radio ρ ε) (settings : Settings) (radio : ρ) :
    Alternates (events ++ ((healthCheck R settings).run radio).events) := by
  unfold Alternates
  rw [links_append]
  cases hlink : (R.isUp radio).1 with
  | true =>
    rw [run_healthCheck_up hlink]
    exact (List.append_nil (links events)).symm ▸ h
  | false =>
    -- The drop comes first, whatever the link was left by.
    rw [links_healthCheck_down hlink]
    refine List.IsChain.append h (List.isChain_pair.mpr (Or.inl rfl)) ?_
    rintro earlier _ later hlater
    cases hlater
    exact Or.inr rfl

theorem eq_drop_of_isDrop {event : Event ε} (h : event.isDrop = true) : event = .drop := by
  cases event with
  | drop => rfl
  | _ => cases h

theorem not_isDrop_of_isAssociation {event : Event ε} (h : event.isAssociation = true) : ¬ event.isDrop = true := by
  cases event with
  | associate ssid password reply => exact Bool.false_ne_true
  | _ => cases h

/-- Any two requests to associate have a drop in between. -/
def DropsBetween (events : List (Event ε)) : Prop :=
  ∀ before first between second after, events = before ++ first :: (between ++ second :: after) →
    first.isAssociation = true → second.isAssociation = true → .drop ∈ between

theorem links_cons_of_isAssociation {event : Event ε} (h : event.isAssociation = true) (rest : List (Event ε)) :
    links (event :: rest) = event :: links rest := by
  rw [links, List.filter_cons_of_pos (by rw [h, Bool.true_or]), links]

theorem Alternates.dropsBetween (h : Alternates events) : DropsBetween events := by
  rintro before first between second after rfl hfirst hsecond
  unfold Alternates at h
  rw [links_append, links_cons_of_isAssociation hfirst, links_append, links_cons_of_isAssociation hsecond] at h
  have hchain := h.right_of_append
  -- The first of the links in between is no request, because a request has just been made.
  cases hlinks : links between with
  | nil =>
    rw [hlinks, List.nil_append, List.isChain_cons_cons] at hchain
    rcases hchain.1 with hdrop | hdrop
    · exact absurd hdrop (not_isDrop_of_isAssociation hfirst)
    · exact absurd hdrop (not_isDrop_of_isAssociation hsecond)
  | cons next rest =>
    have hmem : next ∈ between := List.mem_of_mem_filter (hlinks ▸ List.mem_cons_self : next ∈ links between)
    rw [hlinks, List.cons_append, List.isChain_cons_cons] at hchain
    rcases hchain.1 with hdrop | hdrop
    · exact absurd hdrop (not_isDrop_of_isAssociation hfirst)
    · exact eq_drop_of_isDrop hdrop ▸ hmem

/-- The events of a station that may begin and then checks its link, and the radio after them. -/
def supervise (R : Radio ρ ε) (settings : Settings) (begins : Bool) (radio : ρ) : (checks : Nat) → Journal (Event ε) ρ
  | 0 => if begins then ⟨((begin R settings).run radio).value.2, ((begin R settings).run radio).events⟩ else pure radio
  | checks + 1 => do
    let radio ← supervise R settings begins radio checks
    ⟨((healthCheck R settings).run radio).value.2, ((healthCheck R settings).run radio).events⟩

theorem alternates_supervise (R : Radio ρ ε) (settings : Settings) (begins : Bool) (radio : ρ) (checks : Nat) :
    Alternates (supervise R settings begins radio checks).events := by
  induction checks with
  | zero =>
    cases begins with
    | true => exact alternates_begin R settings radio
    | false => exact List.IsChain.nil
  | succ checks ih => exact ih.healthCheck R settings _

/-- A station never asks twice to associate without a drop in between. A check of a link that is up is one query. A
check of a link that is down is a drop, one attempt and one more query, whose answer it gives whatever came of the
attempt. -/
theorem link_dropped_between_associations (R : Radio ρ ε) (settings : Settings) :
    (∀ begins radio checks, DropsBetween (supervise R settings begins radio checks).events) ∧
    (∀ radio, (R.isUp radio).1 = true →
      (healthCheck R settings).run radio = ⟨(.ok true, (R.isUp radio).2), [.query true]⟩) ∧
    ∀ radio, (R.isUp radio).1 = false →
      Attempt R settings (R.drop (R.isUp radio).2) (reattempt R settings radio) ∧
      deeds ((healthCheck R settings).run radio).events =
        .query false :: .drop :: deeds (reattempt R settings radio).events ++
          [.query (lastQuery R settings radio).1] ∧
      drops ((healthCheck R settings).run radio).events = 1 ∧
      associations ((healthCheck R settings).run radio).events = 1 ∧
      ((healthCheck R settings).run radio).value =
        (.ok (lastQuery R settings radio).1, (lastQuery R settings radio).2) := by
  refine ⟨?_, ?_, ?_⟩
  · intro begins radio checks
    exact (alternates_supervise R settings begins radio checks).dropsBetween
  · intro radio up
    exact run_healthCheck_up up
  · intro radio down
    refine ⟨attempt R settings _, deeds_healthCheck_down down, ?_, ?_, ?_⟩
    · rw [← drops_links, links_healthCheck_down down]
      rfl
    · rw [← associations_links, links_healthCheck_down down]
      rfl
    · rw [run_healthCheck_down down]

end ControlLoop.Station
