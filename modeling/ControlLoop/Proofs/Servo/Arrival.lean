import ControlLoop.Proofs.Servo.Travel

/-!
# The output at the target

A drive whose ramp has reached its target need not show it: a drive that starts is at its target at duty zero, and a
drive that is sent past the ramp stays at its target too. But a ramp that has to move for its target writes the duty of
every angle that it comes to. So the output is wrong about a target that has been reached only if the ramp was there
before and the output was wrong already.
-/

namespace ControlLoop.Servo

set_option autoImplicit false

variable {first s : Servo} {e : Entry} {angle : Fixed} {maxDuty : UInt16} {before after commands : List Command}
variable {c : Command} {opening : List Event}

def Operation.target? : Operation → Option Fixed
  | .setTarget angle => some angle
  | .setTargetAt angle _ => some angle
  | _ => none

def Operation.angle? : Operation → Option Fixed
  | .setAngle angle => some angle
  | _ => none

/-- A command of the target `angle` that has not been refused. -/
def Entry.Targets (e : Entry) (angle : Fixed) : Prop :=
  e.command.operation.target? = some angle ∧ e.answer = .ok .done

/-- A new target, or an angle that is written past the ramp. -/
def Entry.Diverts (e : Entry) : Prop :=
  (∃ angle, e.Targets angle) ∨ ∃ angle, e.command.operation.angle? = some angle

theorem command_mem_of_mem_history (h : e ∈ s.history commands) : e.command ∈ commands := by
  induction commands generalizing s with
  | nil => exact absurd h List.not_mem_nil
  | cons c rest ih =>
    rcases List.mem_cons.mp h with rfl | hrest
    · exact List.mem_cons_self
    · exact List.mem_cons_of_mem c (ih hrest)

/-- Nothing is diverted by polls and by new velocities. -/
theorem not_diverts_of_mem_history
    (hcommands : ∀ d ∈ commands, d.operation.target? = none ∧ d.operation.angle? = none)
    (h : e ∈ s.history commands) : ¬ e.Diverts := by
  obtain ⟨htarget, hangle⟩ := hcommands e.command (command_mem_of_mem_history h)
  rintro (⟨angle, hnew, _⟩ | ⟨angle, hnew⟩)
  · exact Option.some_ne_none angle (hnew.symm.trans htarget)
  · exact Option.some_ne_none angle (hnew.symm.trans hangle)

theorem Effect.targets (he : Effect s e) (h : e.Targets angle) :
    e.after.ramp.target = clampAngle angle ∧ e.after.ramp.present = s.ramp.present ∧ e.after.duty = s.duty := by
  obtain ⟨htarget, hanswer⟩ := h
  cases he with
  | retarget _ _ =>
    cases htarget
    exact ⟨rfl, rfl, rfl⟩
  | retargetOnly _ _ =>
    cases htarget
    exact ⟨rfl, rfl, rfl⟩
  | retargetAtRate _ _ _ =>
    cases htarget
    exact ⟨rfl, rfl, rfl⟩
  | refuse _ _ => cases hanswer
  | _ => cases htarget

/-- From `s` to `s'` the target has stayed, and so have the angle and the output, unless a ramp that was under way has
moved and shows where it has come to. -/
structure Steady (maxDuty : UInt16) (s s' : Servo) : Prop where
  target : s'.ramp.target = s.ramp.target
  output : s'.ramp.present = s.ramp.present ∧ s'.duty = s.duty ∨
    s.ramp.present ≠ s.ramp.target ∧ Shown maxDuty s'

theorem Steady.refl (maxDuty : UInt16) (s : Servo) : Steady maxDuty s s := ⟨rfl, Or.inl ⟨rfl, rfl⟩⟩

theorem Steady.trans {s' s'' : Servo} (h : Steady maxDuty s s') (h' : Steady maxDuty s' s'') :
    Steady maxDuty s s'' := by
  refine ⟨h'.target.trans h.target, ?_⟩
  rcases h.output with ⟨hpresent, hduty⟩ | ⟨hunderway, hshown⟩
  · rcases h'.output with ⟨hpresent', hduty'⟩ | ⟨hunderway', hshown'⟩
    · exact Or.inl ⟨hpresent'.trans hpresent, hduty'.trans hduty⟩
    · rw [hpresent, h.target] at hunderway'
      exact Or.inr ⟨hunderway', hshown'⟩
  · refine Or.inr ⟨hunderway, ?_⟩
    rcases h'.output with ⟨hpresent', hduty'⟩ | ⟨_, hshown'⟩
    · rw [Shown, hpresent', hduty']
      exact hshown
    · exact hshown'

theorem Effect.steady (he : Effect s e) (hconstant : e.command.maxDuty = maxDuty) (h : ¬ e.Diverts) :
    Steady maxDuty s e.after := by
  cases he with
  | drive _ => exact absurd (Or.inr ⟨_, rfl⟩) h
  | retarget _ _ => exact absurd (Or.inl ⟨_, rfl, rfl⟩) h
  | retargetOnly _ _ => exact absurd (Or.inl ⟨_, rfl, rfl⟩) h
  | setRate _ _ => exact ⟨rfl, Or.inl ⟨rfl, rfl⟩⟩
  | retargetAtRate _ _ _ => exact absurd (Or.inl ⟨_, rfl, rfl⟩) h
  | refuse _ _ => exact Steady.refl maxDuty s
  | idle _ _ => exact ⟨rfl, Or.inl ⟨rfl, rfl⟩⟩
  | move _ hunderway hduty =>
    subst hconstant
    refine ⟨Ramp.target_update _, Or.inr ⟨?_, wholeDuty_iff.mpr hduty⟩⟩
    simpa [Ramp.isConverged] using hunderway

theorem steady_run (hconstant : ∀ d ∈ commands, d.maxDuty = maxDuty) (h : ∀ e ∈ s.history commands, ¬ e.Diverts) :
    Steady maxDuty s (s.run commands) := by
  induction commands generalizing s with
  | nil => exact Steady.refl maxDuty s
  | cons c rest ih =>
    have hfirst := (effect c s).steady (hconstant c List.mem_cons_self) (h _ List.mem_cons_self)
    have hrest := ih (fun d hd => hconstant d (List.mem_cons_of_mem c hd)) fun e he => h e (List.mem_cons_of_mem _ he)
    exact hfirst.trans hrest

theorem Effect.channel (he : Effect s e) : e.after.channel = s.channel := by
  cases he <;> rfl

theorem channel_run (s : Servo) (commands : List Command) : (s.run commands).channel = s.channel := by
  induction commands generalizing s with
  | nil => rfl
  | cons c rest ih => exact (ih _).trans (effect c s).channel

theorem getLast?_writes_history (h : (writes opening).getLast? = some (first.channel, first.duty))
    (commands : List Command) :
    (writes (opening ++ (first.history commands).flatMap Entry.events)).getLast? =
      some (first.channel, (first.run commands).duty) := by
  induction commands using List.reverseRecOn with
  | nil =>
    rw [history, List.flatMap_nil, List.append_nil]
    exact h
  | append_singleton rest c ih =>
    rw [← channel_run first rest] at ih ⊢
    rw [history_concat, run_concat]
    exact (effect c (first.run rest)).duty_concat ih

theorem shown_history (commands : List Command) (h : IsLastWrite e (first.history commands)) :
    Shown e.command.maxDuty (first.run commands) := by
  induction commands using List.reverseRecOn generalizing e with
  | nil =>
    obtain ⟨before, after, hpast, _⟩ := h.last
    simp [history] at hpast
  | append_singleton rest c ih =>
    rw [history_concat] at h
    rw [run_concat]
    exact (effect c (first.run rest)).shown_concat (fun _ hearlier => ih hearlier) h

theorem eq_atRest_of_start {channel : UInt8} {settings : Settings}
    (h : (start channel settings).value = .ok first) : ∃ rate, first = atRest channel settings rate := by
  by_cases hlong : 32768 ≤ settings.tickMs.toNat
  · simp [start, Ramp.start, hlong, Journal.mapEvents, bind, Except.map, pure] at h
  · obtain ⟨rate, _, hfirst⟩ := rate_of_start (Nat.lt_of_not_le hlong) h
    exact ⟨rate, hfirst⟩

/-- The greatest duty stays as it is, the command `c` is the last to set a target, and after it everything is left to
the ramp. -/
structure LastTarget (first : Servo) (maxDuty : UInt16) (before : List Command) (c : Command) (after : List Command)
    (angle : Fixed) : Prop where
  constant : ∀ d ∈ before ++ c :: after, d.maxDuty = maxDuty
  targets : (c.entry (first.run before)).Targets angle
  last : ∀ e ∈ (c.entry (first.run before)).after.history after, ¬ e.Diverts

theorem shown_of_isLastWrite (hconstant : ∀ d ∈ commands, d.maxDuty = maxDuty)
    (h : IsLastWrite e (first.history commands)) : Shown maxDuty (first.run commands) := by
  obtain ⟨past, later, hpast, _⟩ := h.last
  have hentry : e ∈ first.history commands := by
    rw [hpast]
    exact List.mem_append_right past List.mem_cons_self
  rw [← hconstant e.command (command_mem_of_mem_history hentry)]
  exact shown_history commands h

/-- Either the ramp was at the target when it was set and the output has not changed since, or the ramp has come to the
target and shows it. -/
theorem LastTarget.settled (h : LastTarget first maxDuty before c after angle)
    (reached : (first.run (before ++ c :: after)).ramp.isConverged = true) :
    (first.run (before ++ c :: after)).ramp.present = clampAngle angle ∧
      ((first.run before).ramp.present = clampAngle angle ∧
          (first.run (before ++ c :: after)).duty = (first.run before).duty ∨
        (first.run before).ramp.present ≠ clampAngle angle ∧ Shown maxDuty (first.run (before ++ c :: after))) := by
  have hrun : first.run (before ++ c :: after) = (c.entry (first.run before)).after.run after := run_append
  obtain ⟨htarget, hpresent, hduty⟩ := (effect c (first.run before)).targets h.targets
  obtain ⟨htarget', hcases⟩ := steady_run
    (fun d hd => h.constant d (List.mem_append_right before (List.mem_cons_of_mem c hd))) h.last
  have harrived : (first.run (before ++ c :: after)).ramp.present = clampAngle angle := by
    rw [hrun] at reached ⊢
    rw [← htarget, ← htarget']
    exact of_decide_eq_true reached
  rw [← hrun, hpresent, htarget, hduty, harrived] at hcases
  exact ⟨harrived, hcases.imp_left fun hsame => ⟨hsame.1.symm, hsame.2⟩⟩

theorem LastTarget.shows_iff (h : LastTarget first maxDuty before c after angle)
    (reached : (first.run (before ++ c :: after)).ramp.isConverged = true) :
    WholeDuty (clampAngle angle) maxDuty (first.run (before ++ c :: after)).duty ↔
      (first.run before).ramp.present ≠ clampAngle angle ∨ Shown maxDuty (first.run before) := by
  obtain ⟨harrived, ⟨hpresent, hduty⟩ | ⟨hunderway, hshown⟩⟩ := h.settled reached
  · rw [hduty, Shown, hpresent]
    exact (or_iff_right (not_not_intro rfl)).symm
  · rw [Shown, harrived] at hshown
    exact iff_of_true hshown (Or.inl hunderway)

theorem LastTarget.duty_eq (h : LastTarget first maxDuty before c after angle)
    (reached : (first.run (before ++ c :: after)).ramp.isConverged = true)
    (there : (first.run before).ramp.present = clampAngle angle) :
    (first.run (before ++ c :: after)).duty = (first.run before).duty := by
  obtain ⟨_, ⟨_, hduty⟩ | ⟨hunderway, _⟩⟩ := h.settled reached
  · exact hduty
  · exact absurd there hunderway

/-- A drive that has reached its last target shows it, unless the ramp was there when the target was set and the output
did not show that angle then: the output stays as it is then. After the write of a poll the output always shows it. -/
theorem output_at_target (channel : UInt8) (settings : Settings) (first : Servo)
    (hstart : (start channel settings).value = .ok first) (maxDuty : UInt16) (before : List Command) (c : Command)
    (after : List Command) (angle : Fixed) (h : LastTarget first maxDuty before c after angle)
    (reached : (first.run (before ++ c :: after)).ramp.isConverged = true) :
    (writes ((start channel settings).events ++
        (first.history (before ++ c :: after)).flatMap Entry.events)).getLast? =
      some (channel, (first.run (before ++ c :: after)).duty) ∧
    (WholeDuty (clampAngle angle) maxDuty (first.run (before ++ c :: after)).duty ↔
      (first.run before).ramp.present ≠ clampAngle angle ∨ Shown maxDuty (first.run before)) ∧
    ((first.run before).ramp.present = clampAngle angle →
      (first.run (before ++ c :: after)).duty = (first.run before).duty) ∧
    ((∃ e, IsLastWrite e (first.history before)) → Shown maxDuty (first.run before)) := by
  refine ⟨?_, h.shows_iff reached, h.duty_eq reached, ?_⟩
  · obtain ⟨rate, rfl⟩ := eq_atRest_of_start hstart
    refine getLast?_writes_history ?_ _
    rw [writes_start]
    rfl
  · rintro ⟨e, he⟩
    exact shown_of_isLastWrite (fun d hd => h.constant d (List.mem_append_left _ hd)) he

/-- A drive that is sent to where it starts from is there at once, and its output stays at duty zero. -/
theorem reached_without_output :
    (∃ rate, Fixed.ofSingle ({} : Settings).velocity = .ok rate ∧ 0 < rate.raw) ∧
    ∃ first, (start 0 {}).value = .ok first ∧
      LastTarget first 1024 [] ⟨.setTarget Fixed.zero, 1024⟩ [⟨.poll 10, 1024⟩] Fixed.zero ∧
      ((first.run [⟨.setTarget Fixed.zero, 1024⟩]).trigger.poll 10).1 = true ∧
      (first.run [⟨.setTarget Fixed.zero, 1024⟩, ⟨.poll 10, 1024⟩]).ramp.isConverged = true ∧
      (writes ((start 0 {}).events ++ (first.history [⟨.setTarget Fixed.zero, 1024⟩, ⟨.poll 10, 1024⟩]).flatMap
        Entry.events)).getLast? = some (0, 0) ∧
      WholeDuty (clampAngle Fixed.zero) 1024 74 := by
  have hrate : Fixed.ofSingle ({} : Settings).velocity = .ok (Fixed.wrap 5898240) := by decide
  refine ⟨⟨_, hrate, by decide⟩, atRest 0 {} (Fixed.wrap 5898240), value_start 0 (by decide) hrate, ?_⟩
  have hlast : LastTarget (atRest 0 {} (Fixed.wrap 5898240)) 1024 [] ⟨.setTarget Fixed.zero, 1024⟩
      [⟨.poll 10, 1024⟩] Fixed.zero :=
    ⟨by decide, ⟨rfl, rfl⟩, fun _ he => not_diverts_of_mem_history (by decide) he⟩
  exact ⟨hlast, by decide, by decide, by decide, by decide⟩

/-- A write past the ramp, and then a target of 10.9 degrees, which the ramp comes to. -/
def detour : List Command :=
  [⟨.setAngle (Fixed.wrap 2949120), 65535⟩, ⟨.setTarget (Fixed.wrap 714310), 65535⟩, ⟨.poll 1000, 65535⟩]

/-- A velocity that lets the ramp come back to -10.9 degrees in one tick, between a poll that is early and one that is
due. -/
def approach : List Command := [⟨.poll 1999, 65535⟩, ⟨.setVelocity ⟨0x41f00000⟩, 65535⟩, ⟨.poll 2005, 65535⟩]

/-- The duties of ten degrees on both sides: 5128 and 4374 would be those of 10.9 degrees. -/
theorem output_at_target_after_detour :
    ∃ first, (start 3 ⟨1000, ⟨0x42b40000⟩⟩).value = .ok first ∧
      LastTarget first 65535 detour ⟨.setTarget (Fixed.wrap (-714310)), 65535⟩ approach (Fixed.wrap (-714310)) ∧
      (first.run detour).ramp.present.raw = 714310 ∧ (first.run detour).duty = 5097 ∧
      (writes ((start 3 ⟨1000, ⟨0x42b40000⟩⟩).events ++ (first.history (detour ++
        ⟨.setTarget (Fixed.wrap (-714310)), 65535⟩ :: approach)).flatMap Entry.events)).getLast? = some (3, 4405) := by
  have hrate : Fixed.ofSingle ⟨0x42b40000⟩ = .ok (Fixed.wrap 5898240) := by decide
  have hstart : (start 3 ⟨1000, ⟨0x42b40000⟩⟩).value = .ok (atRest 3 ⟨1000, ⟨0x42b40000⟩⟩ (Fixed.wrap 5898240)) :=
    value_start 3 (by decide) hrate
  have hlast : LastTarget (atRest 3 ⟨1000, ⟨0x42b40000⟩⟩ (Fixed.wrap 5898240)) 65535 detour
      ⟨.setTarget (Fixed.wrap (-714310)), 65535⟩ approach (Fixed.wrap (-714310)) :=
    ⟨by decide, ⟨rfl, rfl⟩, fun _ he => not_diverts_of_mem_history (by decide) he⟩
  obtain ⟨hwritten, hshows, _, hshown⟩ := output_at_target 3 _ _ hstart _ _ _ _ _ hlast (by decide)
  have hpolled := isLastWrite_history (s := atRest 3 ⟨1000, ⟨0x42b40000⟩⟩ (Fixed.wrap 5898240)) (detour.take 2)
    ⟨.poll 1000, 65535⟩ rfl (by decide)
  have hduty : ((atRest 3 ⟨1000, ⟨0x42b40000⟩⟩ (Fixed.wrap 5898240)).run detour).duty = 5097 :=
    (hshown ⟨_, hpolled⟩).unique (by decide)
  have hduty' := (hshows.mpr (Or.inl (by decide))).unique (show WholeDuty _ 65535 4405 by decide)
  rw [hduty'] at hwritten
  exact ⟨_, hstart, hlast, by decide, hduty, hwritten⟩

end ControlLoop.Servo
