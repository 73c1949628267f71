import ControlLoop.Proofs.Servo.Speed
import ControlLoop.Proofs.Servo.Traceless
import Mathlib.Data.List.Induction

/-!
# Polls more often than needed

A poll uses up its tick, whether or not it finds the ramp at its target. So a further poll in the same tick does
nothing, even if a command with a new target has come in between, and a drive may be polled as often as one likes.
-/

namespace ControlLoop.Servo

set_option autoImplicit false

variable {s first : Servo} {e : Entry} {c : Command} {commands : List Command} {slots : List Slot}
variable {tickMs : Nat} {now : UInt32} {maxDuty : UInt16}

/-- The number of the tick of the latest poll, and of the first tick before any poll. -/
def latestTick (tickMs : Nat) (commands : List Command) : Nat :=
  match (pollTimes commands).getLast? with
  | some now => now.toNat / tickMs
  | none => 0

theorem latestTick_concat_of_none (h : c.operation.pollTime? = none) :
    latestTick tickMs (commands ++ [c]) = latestTick tickMs commands := by
  rw [latestTick, pollTimes_append, pollTimes_cons_of_none h]
  simp [pollTimes, latestTick]

theorem latestTick_concat_of_some (h : c.operation.pollTime? = some now) :
    latestTick tickMs (commands ++ [c]) = now.toNat / tickMs := by
  rw [latestTick, pollTimes_append, pollTimes_cons_of_some h]
  simp [pollTimes]

theorem Effect.period (he : Effect s e) : e.after.trigger.period = s.trigger.period := by
  cases he with
  | idle _ _ => exact Trigger.period_poll _ _
  | move _ _ _ => exact Trigger.period_poll _ _
  | _ => rfl

theorem period_run (s : Servo) (commands : List Command) : (s.run commands).trigger.period = s.trigger.period := by
  induction commands generalizing s with
  | nil => rfl
  | cons c rest ih => exact (ih _).trans (effect c s).period

theorem tickNumber_run (positive : 0 < s.trigger.period) (hstart : s.tickNumber = 0) (commands : List Command) :
    (s.run commands).tickNumber = latestTick s.trigger.period.toNat commands := by
  -- The induction is on the last command, since only a poll changes which tick the drive is in.
  induction commands using List.reverseRecOn with
  | nil => exact hstart
  | append_singleton rest c ih =>
    have he := effect c (s.run rest)
    have hperiod := period_run s rest
    rw [run_concat]
    cases htime : c.operation.pollTime? with
    | none => rw [he.tickNumber_eq htime, ih, latestTick_concat_of_none htime]
    | some now => rw [he.tickNumber_poll (hperiod ▸ positive) now htime, hperiod, latestTick_concat_of_some htime]

theorem entry_poll_same_tick
    (h : s.trigger.period = 0 ∨ now.toNat / s.trigger.period.toNat = s.tickNumber) (maxDuty : UInt16) :
    Command.entry ⟨.poll now, maxDuty⟩ s = ⟨⟨.poll now, maxDuty⟩, .ok (.moved false), [], s⟩ := by
  have hpoll := Trigger.poll_of_same_bucket h
  have hseeing : s.seeing now = s := by rw [seeing, hpoll]
  have hidle : (s.trigger.poll now).1 = false ∨ s.ramp.isConverged = true := Or.inl (by rw [hpoll])
  rw [entry_eq rfl (run_poll_idle hidle), hseeing]
  rfl

/-- A poll in the tick of the poll before it. Without ticks that is any poll. -/
def SameTick (tickMs : Nat) (before : List Command) (operation : Operation) : Prop :=
  ∃ now ∈ operation.pollTime?, tickMs = 0 ∨ now.toNat / tickMs = latestTick tickMs before

instance (tickMs : Nat) (before : List Command) (operation : Operation) :
    Decidable (SameTick tickMs before operation) :=
  inferInstanceAs (Decidable (∃ _ ∈ _, _))

/-- Nothing was put in but polls in the tick of the poll before them, which may itself have been put in. -/
def OnlyExtraPolls (tickMs : Nat) (slots : List Slot) : Prop :=
  ∀ (i : Nat) (h : i < slots.length), slots[i].inserted = true →
    SameTick tickMs (commandsOf (slots.take i)) slots[i].command.operation

instance (tickMs : Nat) (slots : List Slot) : Decidable (OnlyExtraPolls tickMs slots) :=
  inferInstanceAs (Decidable (∀ i, ∀ _ : i < slots.length, _))

theorem OnlyExtraPolls.sameTick {slot : Slot} {before after : List Slot}
    (h : OnlyExtraPolls tickMs (before ++ slot :: after)) (hinserted : slot.inserted = true) :
    SameTick tickMs (commandsOf before) slot.command.operation := by
  have hslot := h before.length (by simp)
  simp only [List.getElem_append_right (Nat.le_refl _), Nat.sub_self, List.getElem_cons_zero,
    List.take_left] at hslot
  exact hslot hinserted

theorem entry_of_sameTick {channel : UInt8} {settings : Settings} {rate : Fixed}
    (h : SameTick settings.tickMs.toNat commands c.operation) :
    c.entry ((atRest channel settings rate).run commands) =
      ⟨c, .ok (.moved false), [], (atRest channel settings rate).run commands⟩ := by
  obtain ⟨operation, maxDuty⟩ := c
  obtain ⟨now, hnow, htick⟩ := h
  cases operation with
  | poll time =>
    cases hnow
    have hperiod : ((atRest channel settings rate).run commands).trigger.period = settings.tickMs.toUInt32 :=
      period_run _ commands
    have hlength : settings.tickMs.toUInt32.toNat = settings.tickMs.toNat := UInt16.toNat_toUInt32 _
    apply entry_poll_same_tick
    rw [hperiod, hlength]
    by_cases hzero : settings.tickMs.toNat = 0
    · exact Or.inl (UInt32.toNat_inj.mp (hlength.trans hzero))
    · have hpositive : 0 < settings.tickMs.toUInt32 :=
        UInt32.lt_iff_toNat_lt.mpr (hlength ▸ Nat.pos_of_ne_zero hzero)
      have hnumber := tickNumber_run (s := atRest channel settings rate) hpositive rfl commands
      rw [htick.resolve_left hzero, hnumber, ← hlength]
      exact Or.inr rfl
  | _ => cases hnow

/-- Polls that were put into a run, each in the tick of the poll before it, tell that nothing has moved and write
nothing, and the run cannot be told from the one without them. -/
theorem extra_polls_unnoticed (channel : UInt8) (settings : Settings) (short : settings.tickMs.toNat < 32768)
    (number : settings.velocity.isNaN = false) (slots : List Slot)
    (hextra : OnlyExtraPolls settings.tickMs.toNat slots) :
    ∃ first, (start channel settings).value = .ok first ∧
      (∀ p ∈ first.timeline slots, p.1.inserted = true → p.2.answer = .ok (.moved false) ∧ p.2.events = []) ∧
      Unnoticed first slots := by
  obtain ⟨rate, hstart⟩ := exists_start channel short number
  refine ⟨_, hstart, ?_, ?_⟩
  · intro p hp hinserted
    obtain ⟨before, after, rfl, hentry⟩ := mem_timeline hp
    rw [hentry, entry_of_sameTick (hextra.sameTick hinserted)]
    exact ⟨rfl, rfl⟩
  · apply unnoticed_of_traceless
    rintro before slot after rfl hinserted
    rw [Traceless, entry_of_sameTick (hextra.sameTick hinserted)]
    exact ⟨rfl, rfl⟩

/-- The first poll is early, the second uses up its tick, and the third finds a new target but no new tick. -/
def hasty : List Slot :=
  [⟨⟨.poll 7, 1024⟩, true⟩, ⟨⟨.poll 15, 1024⟩, false⟩, ⟨⟨.setTarget (Fixed.wrap 655360), 1024⟩, false⟩,
    ⟨⟨.poll 19, 1024⟩, true⟩, ⟨⟨.poll 20, 1024⟩, false⟩]

theorem extra_polls_unnoticed_mid_tick :
    (({} : Settings).tickMs.toNat < 32768 ∧ ({} : Settings).velocity.isNaN = false ∧
      OnlyExtraPolls ({} : Settings).tickMs.toNat hasty) ∧
    ∃ first, (start 2 {}).value = .ok first ∧
      (first.run (commandsOf (hasty.take 3))).ramp.isConverged = false ∧
      (first.history (original hasty)).map Entry.answer =
        [.ok (.moved false), .ok .done, .ok (.moved true)] ∧
      Unnoticed first hasty := by
  have hextra : OnlyExtraPolls ({} : Settings).tickMs.toNat hasty := by decide
  refine ⟨⟨by decide, by decide, hextra⟩, ?_⟩
  obtain ⟨first, hstart, _, hunnoticed⟩ := extra_polls_unnoticed 2 {} (by decide) (by decide) hasty hextra
  have hrate : Fixed.ofSingle ({} : Settings).velocity = .ok (Fixed.wrap 5898240) := by decide
  have hfirst := eq_atRest (by decide) hrate hstart
  refine ⟨first, hstart, ?_, ?_, hunnoticed⟩
  · rw [hfirst]
    decide
  · rw [hfirst]
    decide

end ControlLoop.Servo
