import ControlLoop.Proofs.Lists
import ControlLoop.Proofs.Motion.Ramp
import ControlLoop.Proofs.Servo.Operations
import Mathlib.Data.List.Induction

/-!
# Within the travel

Targets are clamped, and with a tick of at most a second and rates that are not negative the ramp stays between two
angles of the travel. So every duty that is written belongs to an angle of the travel, and a poll writes the duty of
the angle that it leaves the drive at.
-/

namespace ControlLoop.Servo

set_option autoImplicit false

variable {s : Servo} {e : Entry} {channel : UInt8} {opening : List Event} {past : List Entry}

def Operation.Forward (operation : Operation) : Prop := ∀ velocity ∈ operation.velocity?, velocity.NonNegative

instance (operation : Operation) : Decidable operation.Forward := inferInstanceAs (Decidable (∀ _ ∈ _, _))

structure Confined (channel : UInt8) (s : Servo) : Prop where
  channel : s.channel = channel
  tick : s.ramp.tick.Within 0 65536
  rates : s.ramp.increase = s.ramp.decrease
  forward : 0 ≤ s.ramp.increase.raw
  target : InTravel s.ramp.target
  present : InTravel s.ramp.present

theorem Confined.retarget (h : Confined channel s) (angle : Fixed) : Confined channel (s.retarget angle) :=
  ⟨h.channel, h.tick, h.rates, h.forward, inTravel_clampAngle angle, h.present⟩

theorem Confined.atRate (h : Confined channel s) {rate : Fixed} (nonneg : 0 ≤ rate.raw) :
    Confined channel (s.atRate rate) :=
  ⟨h.channel, h.tick, rfl, nonneg, h.target, h.present⟩

theorem Confined.seeing (h : Confined channel s) (now : UInt32) : Confined channel (s.seeing now) :=
  ⟨h.channel, h.tick, h.rates, h.forward, h.target, h.present⟩

theorem Confined.advanced (h : Confined channel s) (duty : UInt16) : Confined channel (s.advanced duty) := by
  -- The rate of the ramp is one of its two rates or zero, so its step leads forwards.
  have hincrease : s.ramp.increase.Within 0 s.ramp.increase.raw := ⟨h.forward, Int.le_refl _⟩
  have hrate := Ramp.rate_within hincrease (h.rates ▸ hincrease)
  obtain ⟨_, hstep⟩ := Ramp.raw_step hrate.1 h.tick
  obtain ⟨hlow, hhigh⟩ := Ramp.present_update_between hstep
  have htarget := inTravel_iff.mp h.target
  have hpresent := inTravel_iff.mp h.present
  refine ⟨h.channel, ?_, ?_, ?_, ?_, ?_⟩
  · rw [ramp_advanced, Ramp.tick_update]
    exact h.tick
  · rw [ramp_advanced, Ramp.increase_update, Ramp.decrease_update]
    exact h.rates
  · rw [ramp_advanced, Ramp.increase_update]
    exact h.forward
  · rw [ramp_advanced, Ramp.target_update]
    exact h.target
  · rw [ramp_advanced, inTravel_iff]
    omega

theorem nonneg_of_ofSingle {velocity : Single} {rate : Fixed} (hvelocity : velocity.NonNegative)
    (hrate : Fixed.ofSingle velocity = .ok rate) : 0 ≤ rate.raw := by
  obtain ⟨rate', hrate', hnonneg⟩ := Fixed.ofSingle_of_nonNegative hvelocity
  rw [hrate, Except.ok.injEq] at hrate'
  exact hrate' ▸ hnonneg

theorem Effect.confined (he : Effect s e) (hforward : e.command.operation.Forward) (h : Confined channel s) :
    Confined channel e.after := by
  cases he with
  | drive _ => exact ⟨h.channel, h.tick, h.rates, h.forward, h.target, h.present⟩
  | retarget angle _ => exact h.retarget angle
  | retargetOnly _ _ => exact h.retarget _
  | setRate _ hrate => exact h.atRate (nonneg_of_ofSingle (hforward _ rfl) hrate)
  | retargetAtRate _ _ hrate => exact (h.atRate (nonneg_of_ofSingle (hforward _ rfl) hrate)).retarget _
  | refuse _ _ => exact h
  | idle _ _ => exact h.seeing _
  | move _ _ _ => exact (h.seeing _).advanced _

theorem confined_atRest {settings : Settings} {rate : Fixed} (short : settings.tickMs.toNat ≤ 1000)
    (nonneg : 0 ≤ rate.raw) : Confined channel (atRest channel settings rate) where
  channel := rfl
  tick := by
    have htick := raw_tick_atRest channel rate (Nat.lt_of_le_of_lt short (by decide))
    simp only [Fixed.Within, htick]
    omega
  rates := rfl
  forward := nonneg
  target := inTravel_zero
  present := inTravel_zero

theorem writes_start (channel : UInt8) (settings : Settings) :
    writes (start channel settings).events = [(channel, 0)] := by
  have hlines (lines : List Log.Line) : writes (lines.map Event.log) = [] := by
    rw [writes, List.filterMap_map, List.filterMap_eq_nil_iff]
    exact fun _ _ => rfl
  have hevents : (start channel settings).events = .enable channel :: .setDuty channel 0 ::
      (Ramp.start settings.tickMs settings.velocity settings.velocity).events.map Event.log := by
    simp [start, Journal.write, Journal.mapEvents]
  rw [hevents]
  exact congrArg ((channel, 0) :: ·) (hlines _)

/-- A command either writes nothing and moves nothing, or it writes the duty of some angle, which is the angle reached
if the command is a poll. -/
theorem Effect.writes (he : Effect s e) :
    (writes e.events = [] ∧ e.after.duty = s.duty ∧ e.after.ramp.present = s.ramp.present) ∨
      ∃ angle, writes e.events = [(s.channel, e.after.duty)] ∧ dutyOf angle e.command.maxDuty = .ok e.after.duty ∧
        ∀ now ∈ e.command.operation.pollTime?, angle = e.after.ramp.present.truncate := by
  cases he with
  | drive hduty =>
    refine Or.inr ⟨_, rfl, hduty, fun now hnow => ?_⟩
    cases hnow
  | retarget _ _ => exact Or.inl ⟨rfl, rfl, rfl⟩
  | retargetOnly _ _ => exact Or.inl ⟨rfl, rfl, rfl⟩
  | setRate _ _ => exact Or.inl ⟨rfl, rfl, rfl⟩
  | retargetAtRate _ _ _ => exact Or.inl ⟨rfl, rfl, rfl⟩
  | refuse _ _ => exact Or.inl ⟨rfl, rfl, rfl⟩
  | idle _ _ => exact Or.inl ⟨rfl, rfl, rfl⟩
  | move _ _ hduty => exact Or.inr ⟨_, rfl, hduty, fun _ _ => rfl⟩

/-- A command that is answered, writes on its own channel and within the range of its time, and if it is a poll
tells whether it has written. -/
structure Entry.Orderly (channel : UInt8) (e : Entry) : Prop where
  answered : ∃ answer, e.answer = .ok answer
  written : ∀ write ∈ writes e.events, write.1 = channel ∧ InRange e.command.maxDuty write.2
  polled : ∀ now ∈ e.command.operation.pollTime?,
    e.answer = .ok (.moved true) ∧ (writes e.events).length = 1 ∨ e.answer = .ok (.moved false) ∧ writes e.events = []

theorem Effect.answered (he : Effect s e) (hforward : e.command.operation.Forward) :
    ∃ answer, e.answer = .ok answer := by
  cases he with
  | refuse hvelocity hnan =>
    obtain ⟨hnumber, _⟩ := hforward _ hvelocity
    rw [hnan] at hnumber
    exact Bool.noConfusion hnumber
  | _ => exact ⟨_, rfl⟩

theorem Effect.polled (he : Effect s e) : ∀ now ∈ e.command.operation.pollTime?,
    e.answer = .ok (.moved true) ∧ (Servo.writes e.events).length = 1 ∨
      e.answer = .ok (.moved false) ∧ Servo.writes e.events = [] := by
  intro now hnow
  cases he with
  | idle _ _ => exact Or.inr ⟨rfl, rfl⟩
  | move _ _ _ => exact Or.inl ⟨rfl, rfl⟩
  | refuse hvelocity _ =>
    rw [Operation.pollTime?_eq_none hvelocity] at hnow
    cases hnow
  | _ => cases hnow

theorem Effect.orderly (he : Effect s e) (hforward : e.command.operation.Forward) (hchannel : s.channel = channel) :
    e.Orderly channel where
  answered := he.answered hforward
  written write hwrite := by
    rcases he.writes with ⟨hnone, _⟩ | ⟨angle, hone, hduty, _⟩
    · rw [hnone] at hwrite
      cases hwrite
    · rw [hone, List.mem_singleton] at hwrite
      rw [hwrite]
      exact ⟨hchannel, inRange_of_dutyOf hduty⟩
  polled := he.polled

/-- The output has the duty of the whole degrees of the present angle. -/
def Shown (maxDuty : UInt16) (s : Servo) : Prop := WholeDuty s.ramp.present maxDuty s.duty

/-- `e` is a poll and the last of the commands that have written. -/
structure IsLastWrite (e : Entry) (past : List Entry) : Prop where
  isPoll : e.command.operation.pollTime?.isSome
  writes : writes e.events ≠ []
  last : ∃ before after, past = before ++ e :: after ∧ ∀ later ∈ after, Servo.writes later.events = []

theorem isLastWrite_history (rest : List Command) (c : Command) (hpoll : c.operation.pollTime?.isSome)
    (hwrites : writes (c.entry (s.run rest)).events ≠ []) :
    IsLastWrite (c.entry (s.run rest)) (s.history (rest ++ [c])) := by
  refine ⟨hpoll, hwrites, s.history rest, [], history_concat, ?_⟩
  intro later hlater
  exact absurd hlater List.not_mem_nil

structure Follows (channel : UInt8) (opening : List Event) (past : List Entry) (s : Servo) : Prop where
  confined : Confined channel s
  orderly : ∀ e ∈ past, e.Orderly channel
  duty : (writes (opening ++ past.flatMap Entry.events)).getLast? = some (channel, s.duty)
  shown : ∀ e, IsLastWrite e past → Shown e.command.maxDuty s

theorem Effect.duty_concat (he : Effect s e)
    (h : (Servo.writes (opening ++ past.flatMap Entry.events)).getLast? = some (s.channel, s.duty)) :
    (Servo.writes (opening ++ (past ++ [e]).flatMap Entry.events)).getLast? = some (s.channel, e.after.duty) := by
  rw [List.flatMap_append, List.flatMap_singleton, ← List.append_assoc, writes_append]
  rcases he.writes with ⟨hnone, hduty, _⟩ | ⟨_, hone, _⟩
  · rw [hnone, List.append_nil, hduty]
    exact h
  · rw [hone, List.getLast?_concat]

/-- What a poll has written last is still what the present angle calls for. -/
theorem Effect.shown_concat (he : Effect s e)
    (h : ∀ earlier, IsLastWrite earlier past → Shown earlier.command.maxDuty s) {wrote : Entry}
    (hwrote : IsLastWrite wrote (past ++ [e])) : Shown wrote.command.maxDuty e.after := by
  obtain ⟨hpoll, hwrites, before, after, hpast, hlater⟩ := hwrote
  rcases Lists.concat_eq_append_cons hpast with ⟨rfl, rfl, _⟩ | ⟨init, rfl, hold⟩
  · -- The new command is the one that has written.
    rcases he.writes with ⟨hnone, _⟩ | ⟨angle, _, hduty, hangle⟩
    · exact absurd hnone hwrites
    · obtain ⟨now, hnow⟩ := Option.isSome_iff_exists.mp hpoll
      rw [Shown, wholeDuty_iff, ← hangle now hnow]
      exact hduty
  · -- The new command has written nothing, and so it has moved nothing either.
    have hnone : Servo.writes e.events = [] := hlater e (by simp)
    have hinit : ∀ later ∈ init, Servo.writes later.events = [] := fun later hmem => hlater later (by simp [hmem])
    rcases he.writes with ⟨_, hduty, hpresent⟩ | ⟨_, hone, _⟩
    · rw [Shown, hduty, hpresent]
      exact h wrote ⟨hpoll, hwrites, before, init, hold, hinit⟩
    · rw [hnone] at hone
      cases hone

theorem Follows.concat (h : Follows channel opening past s) (he : Effect s e)
    (hforward : e.command.operation.Forward) : Follows channel opening (past ++ [e]) e.after := by
  obtain rfl := h.confined.channel
  refine ⟨he.confined hforward h.confined, fun entry hentry => ?_, he.duty_concat h.duty,
    fun _ => he.shown_concat h.shown⟩
  rcases List.mem_append.mp hentry with hold | hnew
  · exact h.orderly entry hold
  · rw [List.mem_singleton.mp hnew]
    exact he.orderly hforward rfl

theorem follows_history {first : Servo} (h : Follows channel opening [] first) {commands : List Command}
    (hcommands : ∀ c ∈ commands, c.operation.Forward) :
    Follows channel opening (first.history commands) (first.run commands) := by
  induction commands using List.reverseRecOn with
  | nil => exact h
  | append_singleton rest c ih =>
    rw [history_concat, run_concat]
    have hrest := ih fun d hd => hcommands d (List.mem_append_left _ hd)
    exact hrest.concat (effect c _) (hcommands c (by simp))

/-- With ticks of at most a second and velocities that are not negative, a drive starts and all its commands succeed. -/
theorem run_within_travel (channel : UInt8) (settings : Settings) (short : settings.tickMs.toNat ≤ 1000)
    (forward : settings.velocity.NonNegative) (commands : List Command)
    (hcommands : ∀ c ∈ commands, c.operation.Forward) :
    writes (start channel settings).events = [(channel, 0)] ∧
    ∃ first, (start channel settings).value = .ok first ∧
      InTravel (first.run commands).ramp.target ∧ InTravel (first.run commands).ramp.present ∧
      (first.run commands).ramp.increase = (first.run commands).ramp.decrease ∧
      (writes ((start channel settings).events ++ (first.history commands).flatMap Entry.events)).getLast? =
        some (channel, (first.run commands).duty) ∧
      (∀ e ∈ first.history commands, e.Orderly channel) ∧
      ∀ e, IsLastWrite e (first.history commands) →
        WholeDuty (first.run commands).ramp.present e.command.maxDuty (first.run commands).duty := by
  obtain ⟨rate, hrate, hnonneg⟩ := Fixed.ofSingle_of_nonNegative forward
  have hfirst := value_start channel (Nat.lt_of_le_of_lt short (by decide)) hrate
  have hopening := writes_start channel settings
  have hstart : Follows channel (start channel settings).events [] (atRest channel settings rate) := by
    refine ⟨confined_atRest short hnonneg, fun e he => absurd he List.not_mem_nil, ?_, fun e he => ?_⟩
    · rw [List.flatMap_nil, List.append_nil, hopening]
      rfl
    · obtain ⟨before, after, hpast, _⟩ := he.last
      simp at hpast
  have h := follows_history hstart hcommands
  exact ⟨hopening, _, hfirst, h.confined.target, h.confined.present, h.confined.rates, h.duty, h.orderly, h.shown⟩

/-- Two targets beyond the travel, the second while the drive is on its way to the first, and a clock that goes back.
The first poll leaves the drive at 0.9 degrees, the second one at -0.9. -/
def reversal : List Command :=
  [⟨.setTarget (Fixed.wrap (170 * 65536)), 1024⟩, ⟨.poll 4294967295, 1024⟩,
    ⟨.setTargetAt (Fixed.wrap (-170 * 65536)) ⟨0x43340000⟩, 9⟩, ⟨.setAngle (Fixed.wrap 65536), 9⟩, ⟨.poll 0, 65535⟩]

/-- Both polls write a duty of zero degrees: 75 of 1024 and 4720 of 65535 would be those of the angles as they are. -/
theorem run_within_travel_reversal :
    (({} : Settings).tickMs.toNat ≤ 1000 ∧ ({} : Settings).velocity.NonNegative ∧
      ∀ c ∈ reversal, c.operation.Forward) ∧
    ∃ first, (start 3 {}).value = .ok first ∧ (first.run (reversal.take 2)).ramp.present.raw = 58950 ∧
      (writes ((start 3 {}).events ++ (first.history (reversal.take 2)).flatMap Entry.events)).getLast? =
        some (3, 74) ∧
      (first.run reversal).ramp.present.raw = -58950 ∧
      (writes ((start 3 {}).events ++ (first.history reversal).flatMap Entry.events)).getLast? = some (3, 4751) := by
  have hrate : Fixed.ofSingle ({} : Settings).velocity = .ok (Fixed.wrap 5898240) := by decide
  have hforward : ∀ c ∈ reversal, c.operation.Forward := by decide
  have hforward' : ∀ c ∈ reversal.take 2, c.operation.Forward := by decide
  obtain ⟨_, first, hfirst, _, _, _, hwritten, _, hshown⟩ :=
    run_within_travel 3 {} (by decide) (by decide) reversal hforward
  obtain ⟨_, first', hfirst', _, _, _, hwritten', _, hshown'⟩ :=
    run_within_travel 3 {} (by decide) (by decide) (reversal.take 2) hforward'
  obtain rfl := eq_atRest (by decide) hrate hfirst
  obtain rfl := eq_atRest (by decide) hrate hfirst'
  have hduty : ((atRest 3 {} (Fixed.wrap 5898240)).run reversal).duty = 4751 :=
    (hshown _ (isLastWrite_history (reversal.take 4) ⟨.poll 0, 65535⟩ rfl (by decide))).unique (by decide)
  have hduty' : ((atRest 3 {} (Fixed.wrap 5898240)).run (reversal.take 2)).duty = 74 :=
    (hshown' _ (isLastWrite_history (reversal.take 1) ⟨.poll 4294967295, 1024⟩ rfl (by decide))).unique (by decide)
  rw [hduty] at hwritten
  rw [hduty'] at hwritten'
  exact ⟨⟨by decide, by decide, hforward⟩, _, hfirst, by decide, hwritten', by decide, hwritten⟩

end ControlLoop.Servo
