import ControlLoop.Proofs.Clock.Trigger
import ControlLoop.Proofs.Motion.Ramp
import ControlLoop.Proofs.Servo.Operations
import Mathlib.Algebra.Order.Field.Basic
import Mathlib.Tactic.Linarith

/-!
# The speed of a servo

Only a poll in a new tick moves a drive, and by no more than the greatest rate times the length of a tick: both
roundings are downwards, and a product that has wrapped is smaller than the exact one. So the ticks that have begun
between two polls bound the distance between them, whatever is commanded in the meantime.
-/

namespace ControlLoop

set_option autoImplicit false

/-- As a rate the velocity is not negative and at most `limit`. A velocity that is no rate is refused. -/
def Single.UpTo (limit : ℚ) (velocity : Single) : Prop :=
  ∀ rate, Fixed.ofSingle velocity = .ok rate → 0 ≤ rate.raw ∧ rate.toRat ≤ limit

namespace Ramp

variable {r : Ramp} {limit : ℚ} {tickMs : Nat}

structure Limited (limit : ℚ) (tickMs : Nat) (r : Ramp) : Prop where
  tick : 0 ≤ r.tick.raw ∧ r.tick.raw * 1000 ≤ tickMs * 65536
  increase : 0 ≤ r.increase.raw ∧ r.increase.toRat ≤ limit
  decrease : 0 ≤ r.decrease.raw ∧ r.decrease.toRat ≤ limit

theorem Limited.limit_nonneg (h : r.Limited limit tickMs) : 0 ≤ limit := by
  have hraw : (0 : ℚ) ≤ r.increase.raw := by exact_mod_cast h.increase.1
  have hle := h.increase.2
  unfold Fixed.toRat at hle
  linarith

theorem Limited.rate (h : r.Limited limit tickMs) : 0 ≤ r.rate.raw ∧ r.rate.toRat ≤ limit := by
  rcases r.rate_cases with hrate | hrate | hrate <;> rw [hrate]
  · refine ⟨Int.le_refl 0, ?_⟩
    simpa [Fixed.toRat] using h.limit_nonneg
  · exact h.increase
  · exact h.decrease

theorem Limited.update (h : r.Limited limit tickMs) : r.update.Limited limit tickMs :=
  ⟨r.tick_update ▸ h.tick, r.increase_update ▸ h.increase, r.decrease_update ▸ h.decrease⟩

theorem Limited.product (h : r.Limited limit tickMs) :
    r.rate.raw * r.tick.raw / 65536 * 1000 ≤ r.rate.raw * tickMs := by
  -- The length of the tick and its product with the rate are both rounded downwards.
  have hfloor : r.rate.raw * r.tick.raw / 65536 * 65536 ≤ r.rate.raw * r.tick.raw := Int.ediv_mul_le _ (by omega)
  have hscaled : r.rate.raw * (r.tick.raw * 1000) ≤ r.rate.raw * (tickMs * 65536) :=
    Int.mul_le_mul_of_nonneg_left h.tick.2 h.rate.1
  rw [← Int.mul_assoc, ← Int.mul_assoc] at hscaled
  omega

theorem Limited.distance (h : r.Limited limit tickMs) :
    |r.update.present.toRat - r.present.toRat| ≤ limit * tickMs / 1000 := by
  obtain ⟨hlow, hhigh⟩ := present_update_near (step_near h.rate.1 h.tick.1)
  generalize hn : r.rate.raw * r.tick.raw / 65536 = n at hlow hhigh
  have hproduct : (n : ℚ) * 1000 ≤ r.rate.raw * tickMs := by
    rw [← hn]
    exact_mod_cast h.product
  have hraw : |(r.update.present.raw : ℚ) - r.present.raw| ≤ n := by
    rw [abs_le]
    exact ⟨by exact_mod_cast hlow, by exact_mod_cast hhigh⟩
  have hlimit : (r.rate.raw : ℚ) * tickMs ≤ limit * 65536 * tickMs := by
    have hrate := h.rate.2
    unfold Fixed.toRat at hrate
    exact mul_le_mul_of_nonneg_right (by linarith) (Nat.cast_nonneg tickMs)
  calc
    |r.update.present.toRat - r.present.toRat| = |(r.update.present.raw : ℚ) - r.present.raw| / 65536 := by
      rw [Fixed.toRat, Fixed.toRat, ← sub_div, abs_div]
      norm_num
    _ ≤ n / 65536 := by gcongr
    _ ≤ limit * tickMs / 1000 := by linarith

end Ramp

namespace Servo

variable {s : Servo} {e : Entry} {limit : ℚ} {tickMs : Nat} {commands : List Command}

/-- A velocity that is handed over is up to `limit`. -/
def Operation.UpTo (limit : ℚ) (operation : Operation) : Prop :=
  ∀ velocity ∈ operation.velocity?, velocity.UpTo limit

structure Limited (limit : ℚ) (tickMs : Nat) (s : Servo) : Prop where
  period : s.trigger.period.toNat = tickMs
  ramp : s.ramp.Limited limit tickMs

theorem Limited.retarget (h : s.Limited limit tickMs) (angle : Fixed) : (s.retarget angle).Limited limit tickMs :=
  ⟨h.period, h.ramp.tick, h.ramp.increase, h.ramp.decrease⟩

theorem Limited.atRate (h : s.Limited limit tickMs) {rate : Fixed} (hrate : 0 ≤ rate.raw ∧ rate.toRat ≤ limit) :
    (s.atRate rate).Limited limit tickMs :=
  ⟨h.period, h.ramp.tick, hrate, hrate⟩

theorem Limited.seeing (h : s.Limited limit tickMs) (now : UInt32) : (s.seeing now).Limited limit tickMs :=
  ⟨(congrArg UInt32.toNat (Trigger.period_poll s.trigger now)).trans h.period, h.ramp⟩

theorem Effect.limited (he : Effect s e) (hupTo : e.command.operation.UpTo limit) (h : s.Limited limit tickMs) :
    e.after.Limited limit tickMs := by
  cases he with
  | drive _ => exact ⟨h.period, h.ramp⟩
  | retarget angle _ => exact h.retarget angle
  | retargetOnly _ _ => exact h.retarget _
  | setRate _ hrate => exact h.atRate (hupTo _ rfl _ hrate)
  | retargetAtRate _ _ hrate => exact (h.atRate (hupTo _ rfl _ hrate)).retarget _
  | refuse _ _ => exact h
  | idle _ _ => exact h.seeing _
  | move _ _ _ => exact ⟨(h.seeing _).period, h.ramp.update⟩

theorem Limited.run (h : s.Limited limit tickMs) (hcommands : ∀ c ∈ commands, c.operation.UpTo limit) :
    (s.run commands).Limited limit tickMs := by
  induction commands generalizing s with
  | nil => exact h
  | cons c rest ih =>
    have hrest : ∀ d ∈ rest, d.operation.UpTo limit := fun d hd => hcommands d (List.mem_cons_of_mem c hd)
    exact ih ((effect c s).limited (hcommands c List.mem_cons_self) h) hrest

def tickNumber (s : Servo) : Nat := s.trigger.bucket.toNat

theorem Effect.tickNumber_poll (he : Effect s e) (positive : 0 < s.trigger.period) :
    ∀ now ∈ e.command.operation.pollTime?, e.after.tickNumber = now.toNat / s.trigger.period.toNat := by
  intro now hnow
  have hbucket := Trigger.toNat_bucket_poll (t := s.trigger) (Ne.symm (UInt32.ne_of_lt positive)) now
  cases he with
  | idle _ _ =>
    cases hnow
    exact hbucket
  | move _ _ _ =>
    cases hnow
    exact hbucket
  | refuse hvelocity _ =>
    rw [Operation.pollTime?_eq_none hvelocity] at hnow
    cases hnow
  | _ => cases hnow

theorem Effect.tickNumber_eq (he : Effect s e) (hnone : e.command.operation.pollTime? = none) :
    e.after.tickNumber = s.tickNumber := by
  cases he with
  | idle _ _ => cases hnone
  | move _ _ _ => cases hnone
  | _ => rfl

/-- A command that moves the drive has brought it into a new tick. -/
theorem Effect.moved (he : Effect s e) (positive : 0 < s.trigger.period) :
    e.after.ramp.present = s.ramp.present ∨
      e.after.ramp.present = s.ramp.update.present ∧ e.after.tickNumber ≠ s.tickNumber := by
  cases he with
  | move hfired _ _ =>
    have hbucket := (Trigger.fires_iff (Ne.symm (UInt32.ne_of_lt positive)) _).mp hfired
    have hnumber := Trigger.toNat_bucket_poll (t := s.trigger) (Ne.symm (UInt32.ne_of_lt positive))
    exact Or.inr ⟨rfl, fun hsame => hbucket ((hnumber _).symm.trans hsame)⟩
  | _ => exact Or.inl rfl

/-- The distance between two drives in a run is at most what the ticks that have begun in between allow. -/
def Near (limit : ℚ) (tickMs : Nat) (s s' : Servo) : Prop :=
  s.tickNumber ≤ s'.tickNumber ∧
    |s'.ramp.present.toRat - s.ramp.present.toRat| ≤ (s'.tickNumber - s.tickNumber : ℚ) * (limit * tickMs / 1000)

theorem Near.trans {s₁ s₂ s₃ : Servo} (h : Near limit tickMs s₁ s₂) (h' : Near limit tickMs s₂ s₃) :
    Near limit tickMs s₁ s₃ := by
  obtain ⟨hle, hdistance⟩ := h
  obtain ⟨hle', hdistance'⟩ := h'
  refine ⟨hle.trans hle', (abs_sub_le _ s₂.ramp.present.toRat _).trans ?_⟩
  linarith

theorem Effect.near (he : Effect s e) (h : s.Limited limit tickMs) (positive : 0 < s.trigger.period)
    (hle : s.tickNumber ≤ e.after.tickNumber) : Near limit tickMs s e.after := by
  have hlimit := h.ramp.limit_nonneg
  have hstep : 0 ≤ limit * tickMs / 1000 := by positivity
  have hnumber : (s.tickNumber : ℚ) ≤ e.after.tickNumber := by exact_mod_cast hle
  refine ⟨hle, ?_⟩
  -- At rest nothing has to be paid for, and a move is paid for by the tick that it came in.
  rcases he.moved positive with hsame | ⟨hupdate, hnew⟩
  · rw [hsame, sub_self, abs_zero]
    exact mul_nonneg (by linarith) hstep
  · have hone : (1 : ℚ) ≤ e.after.tickNumber - s.tickNumber := by
      have hlt : s.tickNumber + 1 ≤ e.after.tickNumber := Nat.lt_of_le_of_ne hle (Ne.symm hnew)
      have hcast : ((s.tickNumber + 1 : Nat) : ℚ) ≤ e.after.tickNumber := by exact_mod_cast hlt
      push_cast at hcast
      linarith
    rw [hupdate]
    exact h.ramp.distance.trans (le_mul_of_one_le_left hstep hone)

theorem near_run (h : s.Limited limit tickMs) (positive : 0 < tickMs)
    (hcommands : ∀ c ∈ commands, c.operation.UpTo limit) (hsorted : (pollTimes commands).Pairwise (· ≤ ·))
    (hlater : ∀ now ∈ pollTimes commands, s.tickNumber ≤ now.toNat / tickMs) :
    Near limit tickMs s (s.run commands) := by
  -- The induction is on the first command: what comes later in the run is polled in no earlier tick.
  induction commands generalizing s with
  | nil => exact ⟨Nat.le_refl _, by simp [run]⟩
  | cons c rest ih =>
    have he := effect c s
    have hperiod : 0 < s.trigger.period := UInt32.lt_iff_toNat_lt.mpr (h.period ▸ positive)
    have hnext := he.limited (hcommands c List.mem_cons_self) h
    have hrest : ∀ d ∈ rest, d.operation.UpTo limit := fun d hd => hcommands d (List.mem_cons_of_mem c hd)
    cases htime : c.operation.pollTime? with
    | none =>
      have hnumber := he.tickNumber_eq htime
      rw [pollTimes_cons_of_none htime] at hsorted hlater
      exact (he.near h hperiod (Nat.le_of_eq hnumber.symm)).trans (ih hnext hrest hsorted (hnumber ▸ hlater))
    | some now =>
      have hnumber := he.tickNumber_poll hperiod now htime
      rw [h.period] at hnumber
      rw [pollTimes_cons_of_some htime] at hsorted hlater
      obtain ⟨hfirst, hsorted⟩ := List.pairwise_cons.mp hsorted
      have hle : s.tickNumber ≤ (c.entry s).after.tickNumber := hnumber ▸ hlater now List.mem_cons_self
      have hlater' : ∀ later ∈ pollTimes rest, (c.entry s).after.tickNumber ≤ later.toNat / tickMs := by
        intro later hmem
        rw [hnumber]
        exact Nat.div_le_div_right (UInt32.le_iff_toNat_le.mp (hfirst later hmem))
      exact (he.near h hperiod hle).trans (ih hnext hrest hsorted hlater')

theorem tickNumber_run_poll (h : s.Limited limit tickMs) (positive : 0 < tickMs)
    (hcommands : ∀ c ∈ commands, c.operation.UpTo limit) (now : UInt32) (maxDuty : UInt16) :
    (s.run (commands ++ [⟨.poll now, maxDuty⟩])).tickNumber = now.toNat / tickMs := by
  have hperiod := (h.run hcommands).period
  have hpositive : 0 < (s.run commands).trigger.period := UInt32.lt_iff_toNat_lt.mpr (hperiod ▸ positive)
  have hnumber := (effect ⟨.poll now, maxDuty⟩ (s.run commands)).tickNumber_poll hpositive now rfl
  rw [run_concat, hnumber, hperiod]

theorem limited_of_start {channel : UInt8} {settings : Settings} {first : Servo}
    (short : settings.tickMs.toNat < 32768) (hvelocity : settings.velocity.UpTo limit)
    (hstart : (start channel settings).value = .ok first) :
    first.Limited limit settings.tickMs.toNat := by
  obtain ⟨rate, hrate, rfl⟩ := rate_of_start short hstart
  have htick := raw_tick_atRest channel rate short
  refine ⟨UInt16.toNat_toUInt32 _, ⟨?_, hvelocity rate hrate, hvelocity rate hrate⟩⟩
  rw [htick]
  omega

/-- Between two polls a drive moves by no more than the limit times the length of the ticks that have begun. -/
theorem speed_limited (channel : UInt8) (settings : Settings) (positive : 1 ≤ settings.tickMs.toNat)
    (short : settings.tickMs.toNat ≤ 32767) (limit : ℚ) (hvelocity : settings.velocity.UpTo limit) {first : Servo}
    (hstart : (start channel settings).value = .ok first) (before between : List Command) (t₁ t₂ : UInt32)
    (m₁ m₂ : UInt16)
    (hcommands : ∀ c ∈ before ++ ⟨.poll t₁, m₁⟩ :: (between ++ [⟨.poll t₂, m₂⟩]), c.operation.UpTo limit)
    (hsorted : (pollTimes (before ++ ⟨.poll t₁, m₁⟩ :: (between ++ [⟨.poll t₂, m₂⟩]))).Pairwise (· ≤ ·)) :
    |(first.run (before ++ ⟨.poll t₁, m₁⟩ :: (between ++ [⟨.poll t₂, m₂⟩]))).ramp.present.toRat -
        (first.run (before ++ [⟨.poll t₁, m₁⟩])).ramp.present.toRat| ≤
      ((t₂.toNat / settings.tickMs.toNat : Nat) - (t₁.toNat / settings.tickMs.toNat : Nat) : ℚ) *
        (limit * settings.tickMs.toNat / 1000) := by
  have h := limited_of_start (by omega) hvelocity hstart
  have hbefore : ∀ c ∈ before, c.operation.UpTo limit := fun c hc => hcommands c (List.mem_append_left _ hc)
  rw [List.append_cons] at hcommands hsorted ⊢
  have hfirst : ∀ c ∈ before ++ [⟨.poll t₁, m₁⟩], c.operation.UpTo limit :=
    fun c hc => hcommands c (List.mem_append_left _ hc)
  have hrest : ∀ c ∈ between ++ [⟨.poll t₂, m₂⟩], c.operation.UpTo limit :=
    fun c hc => hcommands c (List.mem_append_right _ hc)
  have hmiddle : ∀ c ∈ between, c.operation.UpTo limit := fun c hc => hrest c (List.mem_append_left _ hc)
  have hnumber₁ := tickNumber_run_poll h positive hbefore t₁ m₁
  have hnumber₂ := tickNumber_run_poll (h.run hfirst) positive hmiddle t₂ m₂
  rw [pollTimes_append, List.pairwise_append] at hsorted
  obtain ⟨_, hsorted, hacross⟩ := hsorted
  have hpolled : t₁ ∈ pollTimes (before ++ [⟨.poll t₁, m₁⟩]) := by
    rw [pollTimes_append]
    exact List.mem_append_right _ List.mem_cons_self
  have hlater : ∀ now ∈ pollTimes (between ++ [⟨.poll t₂, m₂⟩]),
      (first.run (before ++ [⟨.poll t₁, m₁⟩])).tickNumber ≤ now.toNat / settings.tickMs.toNat := by
    intro now hnow
    rw [hnumber₁]
    exact Nat.div_le_div_right (UInt32.le_iff_toNat_le.mp (hacross t₁ hpolled now hnow))
  obtain ⟨_, hdistance⟩ := near_run (h.run hfirst) positive hrest hsorted hlater
  rw [hnumber₁, hnumber₂] at hdistance
  rw [run_append]
  exact hdistance

/-- A step of 49150.5 degrees does not fit into its word: the drive leaves for the wrong side. -/
theorem speed_limited_despite_wrapping :
    (⟨0x46fffe00⟩ : Single).UpTo 32767 ∧
    ∃ first, (start 0 ⟨1500, ⟨0x46fffe00⟩⟩).value = .ok first ∧
      (first.run [⟨.setTarget (Fixed.wrap 655360), 1024⟩, ⟨.poll 1600, 1024⟩]).ramp.present.raw = -1073840128 ∧
      |(first.run [⟨.setTarget (Fixed.wrap 655360), 1024⟩, ⟨.poll 1600, 1024⟩, ⟨.setAngle Fixed.zero, 1024⟩,
            ⟨.poll 4499, 9⟩]).ramp.present.toRat -
          (first.run [⟨.setTarget (Fixed.wrap 655360), 1024⟩, ⟨.poll 1600, 1024⟩]).ramp.present.toRat| ≤
        ((4499 / 1500 : Nat) - (1600 / 1500 : Nat) : ℚ) * (32767 * (1500 : Nat) / 1000) := by
  have hrate : Fixed.ofSingle ⟨0x46fffe00⟩ = .ok (Fixed.wrap 2147418112) := by decide
  have hvelocity : (⟨0x46fffe00⟩ : Single).UpTo 32767 := by
    intro rate h
    rw [hrate, Except.ok.injEq] at h
    subst h
    refine ⟨by decide, ?_⟩
    have hraw : (Fixed.wrap 2147418112).raw = 2147418112 := by decide
    norm_num [Fixed.toRat, hraw]
  have hstart : (start 0 ⟨1500, ⟨0x46fffe00⟩⟩).value = .ok (atRest 0 ⟨1500, ⟨0x46fffe00⟩⟩ (Fixed.wrap 2147418112)) :=
    value_start 0 (by decide) hrate
  refine ⟨hvelocity, _, hstart, by decide, ?_⟩
  refine speed_limited 0 ⟨1500, ⟨0x46fffe00⟩⟩ (by decide) (by decide) 32767 hvelocity hstart
    [⟨.setTarget (Fixed.wrap 655360), 1024⟩] [⟨.setAngle Fixed.zero, 1024⟩] 1600 4499 1024 9 ?_ (by decide)
  intro c hc
  simp at hc
  rcases hc with rfl | rfl | rfl | rfl <;> exact fun _ hnone => nomatch hnone

end Servo

end ControlLoop
