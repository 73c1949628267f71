import ControlLoop.Proofs.Servo.Duty
import ControlLoop.Proofs.Servo.Run

/-!
# Operations of a servo

What each command does to a drive and what it leaves in the journal, one equation for each way that it can go. The only
command that fails is one that hands over NaN for a velocity, and it fails before it has done anything.
-/

namespace ControlLoop.Servo

set_option autoImplicit false

variable {s : Servo} {angle rate : Fixed} {velocity : Single} {maxDuty duty : UInt16} {now : UInt32}

def retarget (s : Servo) (angle : Fixed) : Servo := { s with ramp := { s.ramp with target := clampAngle angle } }

def atRate (s : Servo) (rate : Fixed) : Servo := { s with ramp := { s.ramp with increase := rate, decrease := rate } }

def seeing (s : Servo) (now : UInt32) : Servo := { s with trigger := (s.trigger.poll now).2 }

def advanced (s : Servo) (duty : UInt16) : Servo := { s with ramp := s.ramp.update, duty }

@[simp] theorem ramp_seeing (s : Servo) (now : UInt32) : (s.seeing now).ramp = s.ramp := rfl

@[simp] theorem ramp_advanced (s : Servo) (duty : UInt16) : (s.advanced duty).ramp = s.ramp.update := rfl

/-- A drive that has not moved yet. -/
def atRest (channel : UInt8) (settings : Settings) (rate : Fixed) : Servo where
  channel
  duty := 0
  ramp :=
    { present := Fixed.zero, target := Fixed.zero, increase := rate, decrease := rate
      tick := Fixed.wrap (settings.tickMs.toNat * 65536 / 1000), tickMs := settings.tickMs }
  trigger := { period := settings.tickMs.toUInt32 }

theorem raw_tick_atRest {settings : Settings} (channel : UInt8) (rate : Fixed) (short : settings.tickMs.toNat < 32768) :
    (atRest channel settings rate).ramp.tick.raw = settings.tickMs.toNat * 65536 / 1000 :=
  Fixed.raw_wrap (by omega) (by omega)

/-- The line that tells of a duty. -/
def driven (angle : Fixed) (duty : UInt16) : Event :=
  .log ⟨.trace, s!"Servo angle {angle.toSingle.text} -> duty {duty.toNat}"⟩

theorem value_start {settings : Settings} (channel : UInt8) (short : settings.tickMs.toNat < 32768)
    (h : Fixed.ofSingle settings.velocity = .ok rate) :
    (start channel settings).value = .ok (atRest channel settings rate) := by
  have hshort : ¬ 32768 ≤ settings.tickMs.toNat := Nat.not_le_of_lt short
  simp [start, Ramp.start, hshort, h, Journal.mapEvents, bind, Except.bind, pure, Except.pure, Except.map, atRest]

theorem value_start_of_error {settings : Settings} {fault : Fault} (channel : UInt8)
    (short : settings.tickMs.toNat < 32768) (h : Fixed.ofSingle settings.velocity = .error fault) :
    (start channel settings).value = .error fault := by
  have hshort : ¬ 32768 ≤ settings.tickMs.toNat := Nat.not_le_of_lt short
  simp [start, Ramp.start, hshort, h, Journal.mapEvents, bind, Except.bind, pure, Except.map]

theorem exists_start {settings : Settings} (channel : UInt8) (short : settings.tickMs.toNat < 32768)
    (number : settings.velocity.isNaN = false) :
    ∃ rate, (start channel settings).value = .ok (atRest channel settings rate) := by
  obtain ⟨rate, hrate⟩ := Fixed.ofSingle_of_number number
  exact ⟨rate, value_start channel short hrate⟩

theorem eq_atRest {channel : UInt8} {settings : Settings} {first : Servo} (short : settings.tickMs.toNat < 32768)
    (h : Fixed.ofSingle settings.velocity = .ok rate) (hstart : (start channel settings).value = .ok first) :
    first = atRest channel settings rate := by
  rw [value_start channel short h, Except.ok.injEq] at hstart
  exact hstart.symm

theorem rate_of_start {channel : UInt8} {settings : Settings} {first : Servo} (short : settings.tickMs.toNat < 32768)
    (hstart : (start channel settings).value = .ok first) :
    ∃ rate, Fixed.ofSingle settings.velocity = .ok rate ∧ first = atRest channel settings rate := by
  cases hrate : Fixed.ofSingle settings.velocity with
  | error fault =>
    rw [value_start_of_error channel short hrate] at hstart
    cases hstart
  | ok rate => exact ⟨rate, rfl, eq_atRest short hrate hstart⟩

theorem run_drive (h : dutyOf angle maxDuty = .ok duty) :
    (drive maxDuty angle).run s = ⟨(.ok duty, { s with duty }), [.setDuty s.channel duty, driven angle duty]⟩ := by
  simp [drive, h, driven]

theorem run_setTarget (angle : Fixed) (s : Servo) : (setTarget angle).run s = ⟨(.ok (), s.retarget angle), []⟩ := rfl

theorem run_setVelocity_of_ok (h : Fixed.ofSingle velocity = .ok rate) :
    (setVelocity velocity).run s = ⟨(.ok (), s.atRate rate), []⟩ := by
  simp [setVelocity, adjust, Ramp.setIncrease, Ramp.setDecrease, h, Except.map, atRate]

theorem run_setVelocity_of_error {fault : Fault} (h : Fixed.ofSingle velocity = .error fault) :
    (setVelocity velocity).run s = ⟨(.error fault, s), []⟩ := by
  simp [setVelocity, adjust, Ramp.setIncrease, h, Except.map]

theorem run_setTargetAt_zero (h : velocity.equals Single.zero = true) :
    (setTargetAt angle velocity).run s = ⟨(.ok (), s.retarget angle), []⟩ := by
  rw [setTargetAt, if_pos h, run_setTarget]

theorem run_setTargetAt_of_ok (hne : velocity.equals Single.zero = false) (h : Fixed.ofSingle velocity = .ok rate) :
    (setTargetAt angle velocity).run s = ⟨(.ok (), (s.atRate rate).retarget angle), []⟩ := by
  rw [setTargetAt, hne, if_neg Bool.false_ne_true, Procedure.run_bind_of_ok (run_setVelocity_of_ok h), run_setTarget]
  rfl

theorem run_setTargetAt_of_error {fault : Fault} (hne : velocity.equals Single.zero = false)
    (h : Fixed.ofSingle velocity = .error fault) :
    (setTargetAt angle velocity).run s = ⟨(.error fault, s), []⟩ := by
  rw [setTargetAt, hne, if_neg Bool.false_ne_true, Procedure.run_bind_of_error (run_setVelocity_of_error h)]

theorem run_tick (now : UInt32) (s : Servo) :
    (tick now).run s = ⟨(.ok (s.trigger.poll now).1, s.seeing now), []⟩ := rfl

theorem run_poll_idle (h : (s.trigger.poll now).1 = false ∨ s.ramp.isConverged = true) :
    (poll maxDuty now).run s = ⟨(.ok false, s.seeing now), []⟩ := by
  rw [poll, Procedure.run_bind_of_ok (run_tick now s), Procedure.run_bind_of_ok (Procedure.run_read _)]
  simp [h]

theorem run_poll_move (hfired : (s.trigger.poll now).1 = true) (hunderway : s.ramp.isConverged = false)
    (hduty : dutyOf s.ramp.update.present.truncate maxDuty = .ok duty) :
    (poll maxDuty now).run s = ⟨(.ok true, (s.seeing now).advanced duty),
      [.setDuty s.channel duty, driven s.ramp.update.present.truncate duty]⟩ := by
  have hdrive (s' : Servo) := run_drive (s := s') hduty
  rw [poll, Procedure.run_bind_of_ok (run_tick now s), Procedure.run_bind_of_ok (Procedure.run_read _)]
  simp [seeing, advanced, hfired, hunderway, hdrive]

/-- All that a command can do to the drive `s`. -/
inductive Effect (s : Servo) : Entry → Prop where
  | drive {angle : Fixed} {maxDuty duty : UInt16} : dutyOf angle maxDuty = .ok duty →
      Effect s ⟨⟨.setAngle angle, maxDuty⟩, .ok (.duty duty), [.setDuty s.channel duty, driven angle duty],
        { s with duty }⟩
  | retarget (angle : Fixed) (maxDuty : UInt16) :
      Effect s ⟨⟨.setTarget angle, maxDuty⟩, .ok .done, [], s.retarget angle⟩
  | retargetOnly {angle : Fixed} {velocity : Single} (maxDuty : UInt16) : velocity.equals Single.zero = true →
      Effect s ⟨⟨.setTargetAt angle velocity, maxDuty⟩, .ok .done, [], s.retarget angle⟩
  | setRate {velocity : Single} {rate : Fixed} (maxDuty : UInt16) : Fixed.ofSingle velocity = .ok rate →
      Effect s ⟨⟨.setVelocity velocity, maxDuty⟩, .ok .done, [], s.atRate rate⟩
  | retargetAtRate {angle : Fixed} {velocity : Single} {rate : Fixed} (maxDuty : UInt16) :
      velocity.equals Single.zero = false → Fixed.ofSingle velocity = .ok rate →
      Effect s ⟨⟨.setTargetAt angle velocity, maxDuty⟩, .ok .done, [], (s.atRate rate).retarget angle⟩
  | refuse {c : Command} {velocity : Single} : c.operation.velocity? = some velocity → velocity.isNaN = true →
      Effect s ⟨c, .error .notANumber, [], s⟩
  | idle {now : UInt32} (maxDuty : UInt16) : (s.trigger.poll now).1 = false ∨ s.ramp.isConverged = true →
      Effect s ⟨⟨.poll now, maxDuty⟩, .ok (.moved false), [], s.seeing now⟩
  | move {now : UInt32} {maxDuty duty : UInt16} : (s.trigger.poll now).1 = true → s.ramp.isConverged = false →
      dutyOf s.ramp.update.present.truncate maxDuty = .ok duty →
      Effect s ⟨⟨.poll now, maxDuty⟩, .ok (.moved true),
        [.setDuty s.channel duty, driven s.ramp.update.present.truncate duty], (s.seeing now).advanced duty⟩

theorem entry_eq {α : Type} {c : Command} {p : Action α} {f : α → Answer} {reply : Except Fault α} {s' : Servo}
    {events : List Event} (haction : c.action = p >>= fun a => pure (f a)) (h : p.run s = ⟨(reply, s'), events⟩) :
    c.entry s = ⟨c, reply.map f, events, s'⟩ := by
  rw [Command.entry, haction, Procedure.run_bind_pure, h]

theorem effect_poll (now : UInt32) (maxDuty : UInt16) (s : Servo) :
    Effect s (Command.entry ⟨.poll now, maxDuty⟩ s) := by
  by_cases hidle : (s.trigger.poll now).1 = false ∨ s.ramp.isConverged = true
  · rw [entry_eq rfl (run_poll_idle hidle)]
    exact .idle maxDuty hidle
  · obtain ⟨hfired, hunderway⟩ := not_or.mp hidle
    rw [Bool.not_eq_false] at hfired
    rw [Bool.not_eq_true] at hunderway
    have hduty := dutyOf_eq s.ramp.update.present.truncate maxDuty
    rw [entry_eq rfl (run_poll_move hfired hunderway hduty)]
    exact .move hfired hunderway hduty

theorem effect_setVelocity (velocity : Single) (maxDuty : UInt16) (s : Servo) :
    Effect s (Command.entry ⟨.setVelocity velocity, maxDuty⟩ s) := by
  cases hrate : Fixed.ofSingle velocity with
  | ok rate =>
    rw [entry_eq rfl (run_setVelocity_of_ok hrate)]
    exact .setRate maxDuty hrate
  | error fault =>
    obtain ⟨hnan, rfl⟩ := Fixed.ofSingle_eq_error_iff.mp hrate
    rw [entry_eq rfl (run_setVelocity_of_error hrate)]
    exact .refuse rfl hnan

theorem effect_setTargetAt (angle : Fixed) (velocity : Single) (maxDuty : UInt16) (s : Servo) :
    Effect s (Command.entry ⟨.setTargetAt angle velocity, maxDuty⟩ s) := by
  cases hzero : velocity.equals Single.zero with
  | true =>
    rw [entry_eq rfl (run_setTargetAt_zero hzero)]
    exact .retargetOnly maxDuty hzero
  | false =>
    cases hrate : Fixed.ofSingle velocity with
    | ok rate =>
      rw [entry_eq rfl (run_setTargetAt_of_ok hzero hrate)]
      exact .retargetAtRate maxDuty hzero hrate
    | error fault =>
      obtain ⟨hnan, rfl⟩ := Fixed.ofSingle_eq_error_iff.mp hrate
      rw [entry_eq rfl (run_setTargetAt_of_error hzero hrate)]
      exact .refuse rfl hnan

theorem effect (c : Command) (s : Servo) : Effect s (c.entry s) := by
  obtain ⟨operation, maxDuty⟩ := c
  cases operation with
  | setAngle angle =>
    have hduty := dutyOf_eq angle maxDuty
    rw [entry_eq rfl (run_drive hduty)]
    exact .drive hduty
  | setTarget angle =>
    rw [entry_eq rfl (run_setTarget angle s)]
    exact .retarget angle maxDuty
  | setTargetAt angle velocity => exact effect_setTargetAt angle velocity maxDuty s
  | setVelocity velocity => exact effect_setVelocity velocity maxDuty s
  | poll now => exact effect_poll now maxDuty s

end ControlLoop.Servo
