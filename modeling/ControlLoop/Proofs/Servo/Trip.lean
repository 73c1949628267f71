import ControlLoop.Proofs.Clock.Trigger
import ControlLoop.Proofs.Motion.Course
import ControlLoop.Proofs.Servo.Arrival

/-!
# Trips

A drive that is only polled makes one update of its ramp at each firing of its trigger, since an update at the target
changes nothing. So the course of the ramp is the course of the drive, and the firings count its steps. Up to the
arrival every firing poll writes the duty of the angle that it leads to, and after it no poll writes anything.
-/

namespace ControlLoop.Servo

set_option autoImplicit false

variable {s first : Servo} {e : Entry} {settings : Settings} {maxDuty : UInt16} {now : UInt32} {times : List UInt32}

/-- Polls at these times, with one greatest duty throughout. -/
def polls (maxDuty : UInt16) (times : List UInt32) : List Command := times.map fun now => ⟨.poll now, maxDuty⟩

/-- A state that some run of a drive with these settings comes to. -/
def Reachable (settings : Settings) (s : Servo) : Prop :=
  ∃ channel first commands, (start channel settings).value = .ok first ∧ s = first.run commands

/-- One rate in both directions, and a tick of the length in milliseconds. -/
structure Uniform (settings : Settings) (s : Servo) : Prop where
  rates : s.ramp.decrease = s.ramp.increase
  tick : s.ramp.tick = Fixed.wrap (settings.tickMs.toNat * 65536 / 1000)

theorem Effect.uniform (he : Effect s e) (h : s.Uniform settings) : e.after.Uniform settings := by
  cases he with
  | drive _ => exact ⟨h.rates, h.tick⟩
  | retarget _ _ => exact ⟨h.rates, h.tick⟩
  | retargetOnly _ _ => exact ⟨h.rates, h.tick⟩
  | setRate _ _ => exact ⟨rfl, h.tick⟩
  | retargetAtRate _ _ _ => exact ⟨rfl, h.tick⟩
  | refuse _ _ => exact h
  | idle _ _ => exact ⟨h.rates, h.tick⟩
  | move _ _ _ =>
    refine ⟨?_, ?_⟩
    · rw [ramp_advanced, Ramp.decrease_update, Ramp.increase_update]
      exact h.rates
    · rw [ramp_advanced, Ramp.tick_update]
      exact h.tick

theorem Uniform.run (h : s.Uniform settings) (commands : List Command) : (s.run commands).Uniform settings := by
  induction commands generalizing s with
  | nil => exact h
  | cons c rest ih => exact ih ((effect c s).uniform h)

theorem Reachable.uniform (h : Reachable settings s) : s.Uniform settings := by
  obtain ⟨channel, first, commands, hstart, rfl⟩ := h
  obtain ⟨rate, rfl⟩ := eq_atRest_of_start hstart
  have hfirst : (atRest channel settings rate).Uniform settings := ⟨rfl, rfl⟩
  exact hfirst.run commands

theorem Uniform.rate_eq (h : s.Uniform settings) (underway : s.ramp.present ≠ s.ramp.target) :
    s.ramp.rate = s.ramp.increase := by
  unfold Ramp.rate
  rw [if_neg underway, h.rates]
  simp only [ite_self]

theorem entry_poll_idle (h : (s.trigger.poll now).1 = false ∨ s.ramp.isConverged = true) (maxDuty : UInt16) :
    Command.entry ⟨.poll now, maxDuty⟩ s = ⟨⟨.poll now, maxDuty⟩, .ok (.moved false), [], s.seeing now⟩ :=
  entry_eq rfl (run_poll_idle h)

theorem entry_poll_move {duty : UInt16} (hfired : (s.trigger.poll now).1 = true)
    (hunderway : s.ramp.isConverged = false) (hduty : dutyOf s.ramp.update.present.truncate maxDuty = .ok duty) :
    Command.entry ⟨.poll now, maxDuty⟩ s = ⟨⟨.poll now, maxDuty⟩, .ok (.moved true),
      [.setDuty s.channel duty, driven s.ramp.update.present.truncate duty], (s.seeing now).advanced duty⟩ :=
  entry_eq rfl (run_poll_move hfired hunderway hduty)

theorem trigger_entry_poll (now : UInt32) (maxDuty : UInt16) (s : Servo) :
    (Command.entry ⟨.poll now, maxDuty⟩ s).after.trigger = (s.trigger.poll now).2 := by
  by_cases hidle : (s.trigger.poll now).1 = false ∨ s.ramp.isConverged = true
  · rw [entry_poll_idle hidle]
    rfl
  · obtain ⟨hfired, hunderway⟩ := not_or.mp hidle
    rw [entry_poll_move (Bool.not_eq_false _ ▸ hfired) (Bool.not_eq_true _ ▸ hunderway) (dutyOf_eq _ _)]
    rfl

theorem ramp_entry_poll (now : UInt32) (maxDuty : UInt16) (s : Servo) :
    (Command.entry ⟨.poll now, maxDuty⟩ s).after.ramp = Ramp.update^[(s.trigger.poll now).1.toNat] s.ramp := by
  cases hfired : (s.trigger.poll now).1 with
  | false =>
    rw [entry_poll_idle (Or.inl hfired)]
    rfl
  | true =>
    cases hconverged : s.ramp.isConverged with
    | false =>
      rw [entry_poll_move hfired hconverged (dutyOf_eq _ _)]
      rfl
    | true =>
      rw [entry_poll_idle (Or.inr hconverged)]
      exact (Ramp.update_of_converged (of_decide_eq_true hconverged)).symm

theorem trigger_run_polls (s : Servo) (maxDuty : UInt16) (times : List UInt32) :
    (s.run (polls maxDuty times)).trigger = s.trigger.afterPolls times := by
  induction times generalizing s with
  | nil => rfl
  | cons now rest ih => exact (ih _).trans (congrArg (Trigger.afterPolls · rest) (trigger_entry_poll now maxDuty s))

theorem ramp_run_polls (s : Servo) (maxDuty : UInt16) (times : List UInt32) :
    (s.run (polls maxDuty times)).ramp = Ramp.update^[s.trigger.firings times] s.ramp := by
  induction times generalizing s with
  | nil => rfl
  | cons now rest ih =>
    rw [Trigger.firings, Function.iterate_add_apply, ← trigger_entry_poll now maxDuty s,
      ← ramp_entry_poll now maxDuty s]
    exact ih _

theorem ramp_update_run_polls (s : Servo) (maxDuty : UInt16) (times : List UInt32) :
    (s.run (polls maxDuty times)).ramp.update = Ramp.update^[s.trigger.firings times + 1] s.ramp := by
  rw [ramp_run_polls, Function.iterate_succ_apply']

/-- A poll that fires before the drive has made all the updates that lead to its target. -/
def Due (s : Servo) (earlier : List UInt32) (now : UInt32) : Prop :=
  ((s.trigger.afterPolls earlier).poll now).1 = true ∧ s.trigger.firings earlier < s.ramp.updatesToGo

/-- The poll leads to this raw angle, and writes the duty of its whole degrees on the channel. -/
structure Entry.Moves (e : Entry) (channel : UInt8) (angle : Int) : Prop where
  answer : e.answer = .ok (.moved true)
  present : e.after.ramp.present.raw = angle
  written : writes e.events = [(channel, e.after.duty)]
  shown : Shown e.command.maxDuty e.after

structure Entry.Rests (e : Entry) : Prop where
  answer : e.answer = .ok (.moved false)
  silent : e.events = []

/-- The duty of the angle after some more updates of the ramp. -/
def dutyAt (s : Servo) (maxDuty : UInt16) (n : Nat) : UInt16 :=
  UInt16.ofNat (level (Ramp.update^[n] s.ramp).present.truncate maxDuty).toNat

theorem dutyOf_eq_dutyAt (s : Servo) (maxDuty : UInt16) (n : Nat) :
    dutyOf (Ramp.update^[n] s.ramp).present.truncate maxDuty = .ok (s.dutyAt maxDuty n) :=
  dutyOf_eq _ _

theorem wholeDuty_dutyAt (s : Servo) (maxDuty : UInt16) (n : Nat) :
    WholeDuty (Ramp.update^[n] s.ramp).present maxDuty (s.dutyAt maxDuty n) :=
  wholeDuty_iff.mpr (dutyOf_eq_dutyAt s maxDuty n)

section Trip

variable (fits : s.ramp.Fits) (advances : 1 ≤ s.ramp.stride)
include fits advances

theorem entry_of_due (h : s.Due times now) (maxDuty : UInt16) :
    Command.entry ⟨.poll now, maxDuty⟩ (s.run (polls maxDuty times)) =
      ⟨⟨.poll now, maxDuty⟩, .ok (.moved true),
        [.setDuty s.channel (s.dutyAt maxDuty (s.trigger.firings times + 1)),
          driven (Ramp.update^[s.trigger.firings times + 1] s.ramp).present.truncate
            (s.dutyAt maxDuty (s.trigger.firings times + 1))],
        ((s.run (polls maxDuty times)).seeing now).advanced (s.dutyAt maxDuty (s.trigger.firings times + 1))⟩ := by
  have hfired : ((s.run (polls maxDuty times)).trigger.poll now).1 = true := by
    rw [trigger_run_polls]
    exact h.1
  have hunderway : (s.run (polls maxDuty times)).ramp.isConverged = false := by
    rw [ramp_run_polls, ← Bool.not_eq_true, fits.arrived_iff_updatesToGo_le advances]
    exact Nat.not_le_of_lt h.2
  have hduty := dutyOf_eq_dutyAt s maxDuty (s.trigger.firings times + 1)
  rw [← ramp_update_run_polls] at hduty ⊢
  rw [entry_poll_move hfired hunderway hduty, channel_run]

theorem entry_of_not_due (h : ¬ s.Due times now) (maxDuty : UInt16) :
    Command.entry ⟨.poll now, maxDuty⟩ (s.run (polls maxDuty times)) =
      ⟨⟨.poll now, maxDuty⟩, .ok (.moved false), [], (s.run (polls maxDuty times)).seeing now⟩ := by
  apply entry_poll_idle
  rw [trigger_run_polls, ramp_run_polls, fits.arrived_iff_updatesToGo_le advances]
  rw [Due, not_and_or, Bool.not_eq_true, Nat.not_lt] at h
  exact h

theorem moves_of_due (h : s.Due times now) (maxDuty : UInt16) :
    (Command.entry ⟨.poll now, maxDuty⟩ (s.run (polls maxDuty times))).Moves s.channel
      (s.ramp.course (s.trigger.firings times + 1)) := by
  rw [entry_of_due fits advances h]
  refine ⟨rfl, ?_, rfl, ?_⟩
  · rw [ramp_advanced, ramp_seeing, ramp_update_run_polls, fits.raw_present_iterate]
  · rw [Shown, ramp_advanced, ramp_seeing, ramp_update_run_polls]
    exact wholeDuty_dutyAt s maxDuty _

theorem writes_history_polls (maxDuty : UInt16) (times : List UInt32) :
    writes ((s.history (polls maxDuty times)).flatMap Entry.events) =
      (List.range (min (s.trigger.firings times) s.ramp.updatesToGo)).map
        fun n => (s.channel, s.dutyAt maxDuty (n + 1)) := by
  induction times using List.reverseRecOn with
  | nil => rw [Trigger.firings, Nat.zero_min]; rfl
  | append_singleton earlier now ih =>
    have hpolls : polls maxDuty (earlier ++ [now]) = polls maxDuty earlier ++ [⟨.poll now, maxDuty⟩] :=
      List.map_append
    have hfirings : s.trigger.firings (earlier ++ [now]) =
        s.trigger.firings earlier + ((s.trigger.afterPolls earlier).poll now).1.toNat := by
      rw [Trigger.firings_append, Trigger.firings, Trigger.firings, Nat.zero_add]
    rw [hpolls, history_concat, List.flatMap_append, List.flatMap_singleton, writes_append, ih, hfirings]
    by_cases hdue : s.Due earlier now
    · have hfired := hdue.1
      have hbefore := hdue.2
      have hsucc : min (s.trigger.firings earlier + true.toNat) s.ramp.updatesToGo = s.trigger.firings earlier + 1 :=
        Nat.min_eq_left hbefore
      rw [entry_of_due fits advances hdue, hfired, hsucc, Nat.min_eq_left (Nat.le_of_lt hbefore), List.range_succ,
        List.map_append]
      rfl
    · have hsame : min (s.trigger.firings earlier + ((s.trigger.afterPolls earlier).poll now).1.toNat)
          s.ramp.updatesToGo = min (s.trigger.firings earlier) s.ramp.updatesToGo := by
        rw [Due, not_and_or, Bool.not_eq_true, Nat.not_lt] at hdue
        rcases hdue with hquiet | harrived
        · rw [hquiet]
          rfl
        · omega
      rw [entry_of_not_due fits advances hdue, hsame]
      exact List.append_nil _

end Trip

theorem dutyAt_le_of_course_le (fits : s.ramp.Fits) (maxDuty : UInt16) {m n : Nat}
    (hcourse : s.ramp.course m ≤ s.ramp.course n) : s.dutyAt maxDuty m ≤ s.dutyAt maxDuty n := by
  rw [← fits.raw_present_iterate, ← fits.raw_present_iterate] at hcourse
  exact dutyOf_mono (Fixed.truncate_mono hcourse) (dutyOf_eq_dutyAt s maxDuty m) (dutyOf_eq_dutyAt s maxDuty n)

theorem steady_run_polls (s : Servo) (maxDuty : UInt16) (times : List UInt32) :
    Steady maxDuty s (s.run (polls maxDuty times)) := by
  apply steady_run
  · intro d hd
    obtain ⟨now, _, rfl⟩ := List.mem_map.mp hd
    rfl
  · intro e he
    refine not_diverts_of_mem_history ?_ he
    intro d hd
    obtain ⟨now, _, rfl⟩ := List.mem_map.mp hd
    exact ⟨rfl, rfl⟩

theorem arrived_run_polls (fits : s.ramp.Fits) (advances : 1 ≤ s.ramp.stride)
    (underway : s.ramp.present ≠ s.ramp.target) (maxDuty : UInt16)
    (hfirings : s.ramp.updatesToGo ≤ s.trigger.firings times) :
    (s.run (polls maxDuty times)).ramp.present = s.ramp.target ∧
      WholeDuty s.ramp.target maxDuty (s.run (polls maxDuty times)).duty := by
  have harrived : (s.run (polls maxDuty times)).ramp.present = s.ramp.target := by
    rw [ramp_run_polls, ← Ramp.isConverged_iterate_iff, fits.arrived_iff_updatesToGo_le advances]
    exact hfirings
  refine ⟨harrived, ?_⟩
  -- The drive has moved, so it shows where it is.
  rcases (steady_run_polls s maxDuty times).output with ⟨hpresent, _⟩ | ⟨_, hshown⟩
  · exact absurd (hpresent.symm.trans harrived) underway
  · rw [Shown, harrived] at hshown
    exact hshown

theorem Uniform.fits (h : s.Uniform settings) (short : settings.tickMs.toNat ≤ 1000)
    (advances : 1 ≤ s.ramp.stride) : s.ramp.Fits := by
  have htick : s.ramp.tick.raw = settings.tickMs.toNat * 65536 / 1000 := by
    rw [h.tick]
    exact Fixed.raw_wrap (by omega) (by omega)
  refine ⟨Int.le_trans (by decide) advances, ?_⟩
  obtain ⟨_, hhigh⟩ := Fixed.scaled_between (d := s.ramp.rate.raw) (t := s.ramp.tick.raw) (by omega) (by omega)
  have hupper := s.ramp.rate.upper
  unfold Ramp.stride at advances ⊢
  omega

/-- A drive that is under way and only polled makes one step of its ramp at each poll that fires, at whatever times it
is polled, and writes the duty of the angle that the step leads to. The duties it writes are in order. After as many
firings as the distance has strides it is at its target and shows it, and no further poll writes anything. -/
theorem trip_runs_to_its_end (short : settings.tickMs.toNat ≤ 1000) (reachable : Reachable settings s)
    (underway : s.ramp.present ≠ s.ramp.target)
    (advances : 1 ≤ s.ramp.increase.raw * s.ramp.tick.raw / 65536) (maxDuty : UInt16) :
    s.ramp.decrease = s.ramp.increase ∧ s.ramp.stride = s.ramp.increase.raw * s.ramp.tick.raw / 65536 ∧
    (∀ earlier now, s.Due earlier now →
      (Command.entry ⟨.poll now, maxDuty⟩ (s.run (polls maxDuty earlier))).Moves s.channel
        (s.ramp.course (s.trigger.firings earlier + 1))) ∧
    (∀ earlier now, ¬ s.Due earlier now →
      (Command.entry ⟨.poll now, maxDuty⟩ (s.run (polls maxDuty earlier))).Rests) ∧
    (∃ duty : Nat → UInt16,
      (∀ n, WholeDuty (Ramp.update^[n] s.ramp).present maxDuty (duty n)) ∧
      (∀ times, writes ((s.history (polls maxDuty times)).flatMap Entry.events) =
        (List.range (min (s.trigger.firings times) s.ramp.updatesToGo)).map fun n => (s.channel, duty (n + 1))) ∧
      (s.ramp.present ≤ s.ramp.target → ∀ m n, m ≤ n → duty m ≤ duty n) ∧
      (s.ramp.target ≤ s.ramp.present → ∀ m n, m ≤ n → duty n ≤ duty m)) ∧
    ∀ times, s.ramp.updatesToGo ≤ s.trigger.firings times →
      (s.run (polls maxDuty times)).ramp.present = s.ramp.target ∧
        WholeDuty s.ramp.target maxDuty (s.run (polls maxDuty times)).duty := by
  have huniform := reachable.uniform
  have hstride : s.ramp.stride = s.ramp.increase.raw * s.ramp.tick.raw / 65536 := by
    rw [Ramp.stride, huniform.rate_eq underway]
  rw [← hstride] at advances
  have hfits := huniform.fits short advances
  refine ⟨huniform.rates, hstride, ?_, ?_, ?_, ?_⟩
  · intro earlier now hdue
    exact moves_of_due hfits advances hdue maxDuty
  · intro earlier now hdue
    rw [entry_of_not_due hfits advances hdue]
    exact ⟨rfl, rfl⟩
  · refine ⟨s.dutyAt maxDuty, wholeDuty_dutyAt s maxDuty, writes_history_polls hfits advances maxDuty, ?_, ?_⟩
    · intro hle m n hmn
      exact dutyAt_le_of_course_le hfits maxDuty (hfits.course_mono hle hmn)
    · intro hle m n hmn
      exact dutyAt_le_of_course_le hfits maxDuty (hfits.course_anti hle hmn)
  · intro times hfirings
    exact arrived_run_polls hfits advances underway maxDuty hfirings

/-- A drive at -40.5 degrees, on its way to 30 degrees by 27 degrees in a tick. -/
def inbound : Servo :=
  (atRest 3 ⟨1000, ⟨0x42220000⟩⟩ (Fixed.wrap 2654208)).run
    [⟨.setTarget (Fixed.wrap (-170 * 65536)), 9⟩, ⟨.poll 1000, 9⟩,
      ⟨.setTargetAt (Fixed.wrap (30 * 65536)) ⟨0x41d80000⟩, 9⟩]

/-- Polls that are early, late and too many, the fifth of them at a time before the fourth. -/
def erratic : List UInt32 := [1999, 2000, 2999, 6000, 5000, 9000]

/-- Two whole steps and a third one that is cut short, at a poll for which the clock has gone back. The first two lead
to -13.5 and 13.5 degrees, and write the duties of 13 degrees on either side: those of the halves would be 4284 and
5218. -/
theorem trip_runs_to_its_end_erratic :
    ((⟨1000, ⟨0x42220000⟩⟩ : Settings).tickMs.toNat ≤ 1000 ∧ Reachable ⟨1000, ⟨0x42220000⟩⟩ inbound ∧
      inbound.ramp.present ≠ inbound.ramp.target ∧
      1 ≤ inbound.ramp.increase.raw * inbound.ramp.tick.raw / 65536) ∧
    inbound.trigger.firings erratic = 4 ∧
    (Command.entry ⟨.poll 2000, 65535⟩ (inbound.run (polls 65535 [1999]))).Moves 3 (-884736) ∧
    (Command.entry ⟨.poll 6000, 65535⟩ (inbound.run (polls 65535 [1999, 2000, 2999]))).Moves 3 884736 ∧
    writes ((inbound.history (polls 65535 erratic)).flatMap Entry.events) = [(3, 4302), (3, 5201), (3, 5789)] ∧
    (inbound.run (polls 65535 erratic)).ramp.present = Fixed.wrap (30 * 65536) := by
  have hrate : Fixed.ofSingle ⟨0x42220000⟩ = .ok (Fixed.wrap 2654208) := by decide
  have hstart : (start 3 ⟨1000, ⟨0x42220000⟩⟩).value = .ok (atRest 3 ⟨1000, ⟨0x42220000⟩⟩ (Fixed.wrap 2654208)) :=
    value_start 3 (by decide) hrate
  have hreachable : Reachable ⟨1000, ⟨0x42220000⟩⟩ inbound := ⟨3, _, _, hstart, rfl⟩
  have hunderway : inbound.ramp.present ≠ inbound.ramp.target := by decide
  have hadvances : 1 ≤ inbound.ramp.increase.raw * inbound.ramp.tick.raw / 65536 := by decide
  have hfirings : inbound.trigger.firings erratic = 4 := by decide
  have htogo : inbound.ramp.updatesToGo = 3 := by decide
  obtain ⟨_, _, hmoves, _, ⟨duty, hduty, hwrites, _⟩, harrives⟩ :=
    trip_runs_to_its_end (by decide) hreachable hunderway hadvances 65535
  have hcourse : inbound.ramp.course (inbound.trigger.firings [1999] + 1) = -884736 := by decide
  have hcourse' : inbound.ramp.course (inbound.trigger.firings [1999, 2000, 2999] + 1) = 884736 := by decide
  have hfirst : duty 1 = 4302 := (hduty 1).unique (by decide)
  have hsecond : duty 2 = 5201 := (hduty 2).unique (by decide)
  have hthird : duty 3 = 5789 := (hduty 3).unique (by decide)
  obtain ⟨harrived, _⟩ := harrives erratic (by rw [htogo, hfirings]; decide)
  refine ⟨⟨by decide, hreachable, hunderway, hadvances⟩, hfirings, ?_, ?_, ?_, ?_⟩
  · rw [← hcourse]
    exact hmoves [1999] 2000 ⟨by decide, by decide⟩
  · rw [← hcourse']
    exact hmoves [1999, 2000, 2999] 6000 ⟨by decide, by decide⟩
  · rw [hwrites, hfirings, htogo, ← hfirst, ← hsecond, ← hthird]
    rfl
  · rw [harrived]
    decide

end ControlLoop.Servo
