import ControlLoop.Proofs.Clock.Trigger
import ControlLoop.Proofs.Lists

/-!
# A change of the period

A trigger remembers nothing of its past but the bucket that it saw last, and every poll replaces that by the bucket of
its own time. So after one poll under a new period the past is gone: no later answer tells the timer from one that has
had this period all along. A poll under a period of zero leaves no trace at all.
-/

namespace ControlLoop

set_option autoImplicit false

namespace Trigger

variable {t u : Trigger}

def answers (t : Trigger) : List UInt32 → List Bool
  | [] => []
  | now :: rest => (t.poll now).1 :: answers (t.poll now).2 rest

theorem poll_forgets (hperiod : t.period = u.period) (hne : u.period ≠ 0) (now : UInt32) :
    (t.poll now).2 = (u.poll now).2 := by
  have hne' : t.period ≠ 0 := by
    rw [hperiod]
    exact hne
  rw [poll, if_neg hne', poll, if_neg hne, hperiod]

theorem tail_answers (hperiod : t.period = u.period) (hne : u.period ≠ 0) (times : List UInt32) :
    (t.answers times).tail = (u.answers times).tail := by
  cases times with
  | nil => rfl
  | cons now rest => exact congrArg (fun later => answers later rest) (poll_forgets hperiod hne now)

end Trigger

namespace Timer

/-- What is done to a timer after its start. -/
inductive Operation where
  | poll (now : UInt32)
  | setPeriod (period : UInt32)
  | start (now : UInt32)
  | stop (now : UInt32)
deriving DecidableEq

def Operation.pollTime? : Operation → Option UInt32
  | .poll now => some now
  | _ => none

def Operation.period? : Operation → Option UInt32
  | .setPeriod period => some period
  | _ => none

def perform (t : Timer) : Operation → Timer
  | .poll now => (t.poll now).2
  | .setPeriod period => t.setPeriod period
  | .start now => t.start now
  | .stop now => t.stop now

def run (t : Timer) (operations : List Operation) : Timer := operations.foldl perform t

/-- An operation of a run with the timer that it found. -/
structure Entry where
  before : Timer
  operation : Operation
deriving DecidableEq

def Entry.answer? (e : Entry) : Option Bool := e.operation.pollTime?.map fun now => (e.before.poll now).1

/-- A poll that found the period at zero. -/
def Entry.isIdlePoll (e : Entry) : Bool := e.operation.pollTime?.isSome && e.before.trigger.period == 0

def history (t : Timer) : List Operation → List Entry
  | [] => []
  | operation :: rest => ⟨t, operation⟩ :: history (t.perform operation) rest

def answers (t : Timer) (operations : List Operation) : List Bool := (t.history operations).filterMap Entry.answer?

def pollTimes (operations : List Operation) : List UInt32 := operations.filterMap Operation.pollTime?

variable {t u : Timer} {operation : Operation} {operations others : List Operation}

theorem history_cons (t : Timer) (operation : Operation) (rest : List Operation) :
    t.history (operation :: rest) = ⟨t, operation⟩ :: (t.perform operation).history rest := rfl

theorem run_cons (t : Timer) (operation : Operation) (rest : List Operation) :
    t.run (operation :: rest) = (t.perform operation).run rest := rfl

theorem period_perform (h : operation.period? = none) : (t.perform operation).trigger.period = t.trigger.period := by
  cases operation with
  | poll now => exact Trigger.period_poll t.trigger now
  | setPeriod period => cases h
  | start now => rfl
  | stop now => rfl

theorem period_run (h : ∀ operation ∈ operations, operation.period? = none) :
    (t.run operations).trigger.period = t.trigger.period := by
  induction operations generalizing t with
  | nil => rfl
  | cons operation rest ih =>
    obtain ⟨hfirst, hrest⟩ := List.forall_mem_cons.mp h
    rw [run_cons, ih hrest, period_perform hfirst]

/-- A stopwatch has no say in the answers. -/
theorem answers_eq (h : ∀ operation ∈ operations, operation.period? = none) :
    t.answers operations = t.trigger.answers (pollTimes operations) := by
  induction operations generalizing t with
  | nil => rfl
  | cons operation rest ih =>
    obtain ⟨hfirst, hrest⟩ := List.forall_mem_cons.mp h
    cases operation with
    | poll now => exact congrArg ((t.poll now).1 :: ·) (ih hrest)
    | setPeriod period => cases hfirst
    | start now => exact ih hrest
    | stop now => exact ih hrest

theorem tail_answers (hperiod : t.trigger.period = u.trigger.period) (hne : u.trigger.period ≠ 0)
    (hkept : ∀ operation ∈ operations, operation.period? = none) (hkept' : ∀ operation ∈ others, operation.period? = none)
    (hsame : pollTimes operations = pollTimes others) :
    (t.answers operations).tail = (u.answers others).tail := by
  rw [answers_eq hkept, answers_eq hkept', hsame]
  exact Trigger.tail_answers hperiod hne (pollTimes others)

section IdlePolls

/-- The operations of a run without the polls that found the period at zero. -/
def attended (t : Timer) (operations : List Operation) : List Operation :=
  ((t.history operations).filter fun e => !e.isIdlePoll).map Entry.operation

/-- The polls that find the period at zero do nothing, and the run without them is the same run: all that is left of
it finds the timer that it has found before. -/
structure IdlePollsUnnoticed (t : Timer) (operations : List Operation) : Prop where
  silent : ∀ e ∈ t.history operations, e.isIdlePoll = true →
    e.answer? = some false ∧ e.before.perform e.operation = e.before
  history : t.history (t.attended operations) = (t.history operations).filter fun e => !e.isIdlePoll
  run : t.run (t.attended operations) = t.run operations

theorem poll_of_idle (h : t.trigger.period = 0) (now : UInt32) : t.poll now = (false, t) := by
  rw [poll, Trigger.poll_of_same_bucket (Or.inl h)]

theorem silent_of_isIdlePoll {e : Entry} (h : e.isIdlePoll = true) :
    e.answer? = some false ∧ e.before.perform e.operation = e.before := by
  obtain ⟨before, operation⟩ := e
  cases operation with
  | poll now =>
    have hzero : before.trigger.period = 0 := eq_of_beq h
    have hpoll := poll_of_idle hzero now
    exact ⟨congrArg (fun reply : Bool × Timer => some reply.1) hpoll, congrArg Prod.snd hpoll⟩
  | _ => cases h

theorem attended_cons_of_idle (h : Entry.isIdlePoll ⟨t, operation⟩ = true) :
    t.attended (operation :: operations) = t.attended operations := by
  have hafter : t.perform operation = t := (silent_of_isIdlePoll h).2
  rw [attended, history_cons, List.filter_cons_of_neg (by simp [h]), hafter, attended]

theorem attended_cons_of_not_idle (h : Entry.isIdlePoll ⟨t, operation⟩ = false) :
    t.attended (operation :: operations) = operation :: (t.perform operation).attended operations := by
  rw [attended, history_cons, List.filter_cons_of_pos (by simp [h]), List.map_cons, attended]

theorem idlePollsUnnoticed (t : Timer) (operations : List Operation) : IdlePollsUnnoticed t operations := by
  -- An idle poll leaves the timer to the rest of the run as it was.
  induction operations generalizing t with
  | nil => exact ⟨fun e he => absurd he List.not_mem_nil, rfl, rfl⟩
  | cons operation rest ih =>
    obtain ⟨_, hhistory, hrun⟩ := ih (t.perform operation)
    cases hidle : Entry.isIdlePoll ⟨t, operation⟩ with
    | true =>
      have hafter : t.perform operation = t := (silent_of_isIdlePoll hidle).2
      rw [hafter] at hhistory hrun
      refine ⟨fun e _ he => silent_of_isIdlePoll he, ?_, ?_⟩
      · rw [attended_cons_of_idle hidle, history_cons, List.filter_cons_of_neg (by simp [hidle]), hafter, hhistory]
      · rw [attended_cons_of_idle hidle, run_cons, hafter, hrun]
    | false =>
      refine ⟨fun e _ he => silent_of_isIdlePoll he, ?_, ?_⟩
      · rw [attended_cons_of_not_idle hidle, history_cons, history_cons, List.filter_cons_of_pos (by simp [hidle]),
          hhistory]
      · rw [attended_cons_of_not_idle hidle, run_cons, run_cons, hrun]

end IdlePolls

/-- Whatever a timer has gone through, one poll after a change of its period it gives the answers of any timer that has
had this period all along, so that the two fire equally often but for one time. What it went through may hold any
number of polls under a period of zero: none of them ever counts. -/
theorem period_change_costs_one_firing {period : UInt32} (positive : 0 < period) (first : UInt32)
    (past own : List Operation) (steady : ∀ operation ∈ own, operation.period? = none)
    (operations others : List Operation) (kept : ∀ operation ∈ operations, operation.period? = none)
    (keptByOther : ∀ operation ∈ others, operation.period? = none) (same : pollTimes operations = pollTimes others) :
    let changed := ((ofPeriod first).run past).setPeriod period
    let settled := (ofPeriod period).run own
    (changed.answers operations).tail = (settled.answers others).tail ∧
    (changed.answers operations).count true ≤ (settled.answers others).count true + 1 ∧
    (settled.answers others).count true ≤ (changed.answers operations).count true + 1 ∧
    IdlePollsUnnoticed (ofPeriod first) past := by
  intro changed settled
  have hsettled : settled.trigger.period = period := period_run steady
  have hne : settled.trigger.period ≠ 0 := by
    rw [hsettled]
    exact (UInt32.ne_of_lt positive).symm
  have htail : (changed.answers operations).tail = (settled.answers others).tail :=
    tail_answers hsettled.symm hne kept keptByOther same
  refine ⟨htail, ?_, ?_, idlePollsUnnoticed (ofPeriod first) past⟩
  · exact Lists.count_le_of_tail_eq true htail
  · exact Lists.count_le_of_tail_eq true htail.symm

/-- Bucket 3 under a period of 10, and polls under none. -/
def slowedDown : List Operation := [.poll 30, .setPeriod 0, .poll 47, .start 50, .poll 4294967295]

def watchedPolls : List Operation := [.poll 35, .stop 60, .poll 99, .poll 100]

def barePolls : List Operation := [.poll 35, .poll 99, .poll 100]

/-- Bucket 3 is taken for one of the period of 100, so that the poll at 35 fires. -/
theorem period_change_costs_one_firing_slowed_down :
    (0 < (100 : UInt32) ∧ (∀ operation ∈ [Operation.poll 5], operation.period? = none) ∧
      (∀ operation ∈ watchedPolls, operation.period? = none) ∧ (∀ operation ∈ barePolls, operation.period? = none) ∧
      pollTimes watchedPolls = pollTimes barePolls) ∧
    (((ofPeriod 10).run slowedDown).setPeriod 100).answers watchedPolls = [true, false, true] ∧
    ((ofPeriod 100).run [.poll 5]).answers barePolls = [false, false, true] ∧
    ((((ofPeriod 10).run slowedDown).setPeriod 100).answers watchedPolls).tail =
      (((ofPeriod 100).run [.poll 5]).answers barePolls).tail ∧
    (ofPeriod 10).attended slowedDown = [.poll 30, .setPeriod 0, .start 50] ∧
    (ofPeriod 10).run ((ofPeriod 10).attended slowedDown) = (ofPeriod 10).run slowedDown := by
  have hpositive : 0 < (100 : UInt32) := by decide
  have hsteady : ∀ operation ∈ [Operation.poll 5], operation.period? = none := by decide
  have hwatched : ∀ operation ∈ watchedPolls, operation.period? = none := by decide
  have hbare : ∀ operation ∈ barePolls, operation.period? = none := by decide
  obtain ⟨htail, _, _, hidle⟩ := period_change_costs_one_firing hpositive 10 slowedDown [.poll 5] hsteady watchedPolls
    barePolls hwatched hbare rfl
  exact ⟨⟨hpositive, hsteady, hwatched, hbare, rfl⟩, rfl, rfl, htail, rfl, hidle.run⟩

end Timer

end ControlLoop
