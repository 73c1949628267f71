import ControlLoop.Proofs.Servo.Run

/-!
# Commands without a trace

A run with further commands put into it is a string of slots, each marked by whether its command was put in. A command
that writes nothing and leaves the drive as it is cannot be told from one that was never given: whatever is commanded
before or after it, the run goes as it would go without it.
-/

namespace ControlLoop.Servo

set_option autoImplicit false

structure Slot where
  command : Command
  inserted : Bool

def commandsOf (slots : List Slot) : List Command := slots.map Slot.command

/-- The commands of the run before anything was put into it. -/
def original (slots : List Slot) : List Command := commandsOf (slots.filter fun slot => !slot.inserted)

/-- Each slot with the entry that its command makes in the history. -/
def timeline (s : Servo) (slots : List Slot) : List (Slot × Entry) := slots.zip (s.history (commandsOf slots))

/-- The run without the commands that were put in has the same entries, the same events and the same end. -/
structure Unnoticed (s : Servo) (slots : List Slot) : Prop where
  entries : ((s.timeline slots).filter fun p => !p.1.inserted).map Prod.snd = s.history (original slots)
  events : (s.history (commandsOf slots)).flatMap Entry.events = (s.history (original slots)).flatMap Entry.events
  run : s.run (commandsOf slots) = s.run (original slots)

/-- At the drive `s` the command writes nothing and changes nothing. -/
def Traceless (s : Servo) (c : Command) : Prop := (c.entry s).events = [] ∧ (c.entry s).after = s

variable {s : Servo} {slot : Slot} {slots before after : List Slot} {p : Slot × Entry}

@[simp] theorem commandsOf_cons (slot : Slot) (slots : List Slot) :
    commandsOf (slot :: slots) = slot.command :: commandsOf slots := rfl

theorem original_cons_of_inserted (h : slot.inserted = true) : original (slot :: slots) = original slots := by
  rw [original, List.filter_cons_of_neg (by simp [h]), original]

theorem original_cons_of_kept (h : slot.inserted = false) :
    original (slot :: slots) = slot.command :: original slots := by
  rw [original, List.filter_cons_of_pos (by simp [h]), original, commandsOf_cons]

theorem timeline_cons (s : Servo) (slot : Slot) (slots : List Slot) :
    s.timeline (slot :: slots) = (slot, slot.command.entry s) :: (slot.command.entry s).after.timeline slots := rfl

theorem mem_timeline (h : p ∈ s.timeline slots) :
    ∃ before after, slots = before ++ p.1 :: after ∧ p.2 = p.1.command.entry (s.run (commandsOf before)) := by
  induction slots generalizing s with
  | nil => exact absurd h List.not_mem_nil
  | cons slot rest ih =>
    rw [timeline_cons] at h
    rcases List.mem_cons.mp h with rfl | hrest
    · exact ⟨[], rest, rfl, rfl⟩
    · obtain ⟨before, after, rfl, hentry⟩ := ih hrest
      exact ⟨slot :: before, after, rfl, hentry⟩

theorem Unnoticed.nil (s : Servo) : Unnoticed s [] := ⟨rfl, rfl, rfl⟩

theorem Unnoticed.cons_inserted (hinserted : slot.inserted = true) (htraceless : s.Traceless slot.command)
    (h : Unnoticed s slots) : Unnoticed s (slot :: slots) := by
  obtain ⟨hevents, hafter⟩ := htraceless
  constructor
  · rw [timeline_cons, List.filter_cons_of_neg (by simp [hinserted]), original_cons_of_inserted hinserted, hafter]
    exact h.entries
  · rw [commandsOf_cons, history_cons, List.flatMap_cons, original_cons_of_inserted hinserted, hevents, hafter]
    exact h.events
  · rw [commandsOf_cons, run_cons, original_cons_of_inserted hinserted, hafter]
    exact h.run

theorem Unnoticed.cons_kept (hkept : slot.inserted = false) (h : Unnoticed (slot.command.entry s).after slots) :
    Unnoticed s (slot :: slots) := by
  constructor
  · rw [timeline_cons, List.filter_cons_of_pos (by simp [hkept]), List.map_cons, original_cons_of_kept hkept,
      history_cons, h.entries]
  · rw [commandsOf_cons, history_cons, List.flatMap_cons, original_cons_of_kept hkept, history_cons,
      List.flatMap_cons, h.events]
  · rw [commandsOf_cons, run_cons, original_cons_of_kept hkept, run_cons, h.run]

theorem unnoticed_of_traceless
    (h : ∀ before slot after, slots = before ++ slot :: after → slot.inserted = true →
      (s.run (commandsOf before)).Traceless slot.command) : Unnoticed s slots := by
  -- The induction is on the first slot: if it was put in, both runs go on from the same drive.
  induction slots generalizing s with
  | nil => exact Unnoticed.nil s
  | cons slot rest ih =>
    cases hslot : slot.inserted with
    | true =>
      have htraceless : s.Traceless slot.command := h [] slot rest rfl hslot
      apply Unnoticed.cons_inserted hslot htraceless
      apply ih
      intro before later after hrest
      have hlater := h (slot :: before) later after (congrArg (slot :: ·) hrest)
      rw [commandsOf_cons, run_cons, htraceless.2] at hlater
      exact hlater
    | false =>
      apply Unnoticed.cons_kept hslot
      apply ih
      intro before later after hrest
      exact h (slot :: before) later after (congrArg (slot :: ·) hrest)

end ControlLoop.Servo
