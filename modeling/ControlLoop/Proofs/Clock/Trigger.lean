import ControlLoop.Clock.Timer
import Mathlib.Order.Monotone.Basic

/-!
# Crossing bucket boundaries

A trigger sees true time modulo `2 ^ 32`. Its buckets begin anew with every turn of the clock, so the last bucket of a
turn may be cut short. The number of the bucket tells two times apart exactly if a boundary lies between them, as long
as they are at most one turn less one period apart: within one turn it grows with the time, and past the end of a turn
it has become smaller.
-/

namespace ControlLoop

set_option autoImplicit false

namespace Trigger

variable {t : Trigger}

@[simp] theorem period_poll (t : Trigger) (now : UInt32) : (t.poll now).2.period = t.period := by
  unfold poll
  split <;> rfl

theorem toNat_bucket_poll (h : t.period ≠ 0) (now : UInt32) :
    (t.poll now).2.bucket.toNat = now.toNat / t.period.toNat := by
  rw [poll, if_neg h, UInt32.toNat_div]

theorem fires_iff (h : t.period ≠ 0) (now : UInt32) :
    (t.poll now).1 = true ↔ now.toNat / t.period.toNat ≠ t.bucket.toNat := by
  rw [poll, if_neg h, bne_iff_ne, ne_eq, ← UInt32.toNat_inj, UInt32.toNat_div]

/-- In the bucket that it saw last a trigger neither fires nor changes, and without a period it never does. -/
theorem poll_of_same_bucket {now : UInt32} (h : t.period = 0 ∨ now.toNat / t.period.toNat = t.bucket.toNat) :
    t.poll now = (false, t) := by
  by_cases hzero : t.period = 0
  · rw [poll, if_pos hzero]
  · have hbucket : now / t.period = t.bucket := by
      rw [← UInt32.toNat_inj, UInt32.toNat_div]
      exact h.resolve_left hzero
    rw [poll, if_neg hzero, hbucket, bne_self_eq_false]

def afterPolls (t : Trigger) (times : List UInt32) : Trigger := times.foldl (fun t now => (t.poll now).2) t

/-- The number of polls at these times that it fires at. -/
def firings (t : Trigger) : List UInt32 → Nat
  | [] => 0
  | now :: rest => firings (t.poll now).2 rest + (t.poll now).1.toNat

theorem firings_append (t : Trigger) (earlier later : List UInt32) :
    t.firings (earlier ++ later) = t.firings earlier + (t.afterPolls earlier).firings later := by
  induction earlier generalizing t with
  | nil => exact (Nat.zero_add _).symm
  | cons now rest ih =>
    rw [List.cons_append, firings, ih, firings, Nat.add_right_comm]
    rfl

/-- A time at which a bucket begins: a number of turns of the clock, and of periods within the turn. -/
def IsBoundary (period time : Nat) : Prop :=
  ∃ turns buckets, buckets * period < 4294967296 ∧ time = turns * 4294967296 + buckets * period

def Crosses (period a b : Nat) : Prop := ∃ time, IsBoundary period time ∧ a < time ∧ time ≤ b

variable {period a b c : Nat}

theorem Crosses.mono (h : Crosses period b c) (hle : a ≤ b) : Crosses period a c := by
  obtain ⟨time, hboundary, hlt, hle'⟩ := h
  exact ⟨time, hboundary, Nat.lt_of_le_of_lt hle hlt, hle'⟩

theorem crosses_of_turn (h : a / 4294967296 < b / 4294967296) : Crosses period a b := by
  refine ⟨b / 4294967296 * 4294967296, ⟨b / 4294967296, 0, by omega, by omega⟩, ?_, ?_⟩ <;> omega

theorem bucket_lt_of_turn (positive : 0 < period) (h : a / 4294967296 < b / 4294967296)
    (near : b + period ≤ a + 4294967296) : b % 4294967296 / period < a % 4294967296 / period := by
  have hstep : b % 4294967296 + period ≤ a % 4294967296 := by omega
  calc
    b % 4294967296 / period < b % 4294967296 / period + 1 := Nat.lt_succ_self _
    _ = (b % 4294967296 + period) / period := (Nat.add_div_right _ positive).symm
    _ ≤ a % 4294967296 / period := Nat.div_le_div_right hstep

theorem crosses_iff_of_same_turn (positive : 0 < period) (hle : a ≤ b) (same : a / 4294967296 = b / 4294967296) :
    Crosses period a b ↔ a % 4294967296 / period ≠ b % 4294967296 / period := by
  have hquotient : a % 4294967296 / period ≤ b % 4294967296 / period := Nat.div_le_div_right (by omega)
  constructor
  · rintro ⟨time, ⟨turns, buckets, hturn, rfl⟩, hlt, hle'⟩
    have hafter : a % 4294967296 < buckets * period := by omega
    have hbefore : buckets * period ≤ b % 4294967296 := by omega
    have hlow := (Nat.div_lt_iff_lt_mul positive).mpr hafter
    have hhigh := (Nat.le_div_iff_mul_le positive).mpr hbefore
    omega
  · intro hne
    let buckets := b % 4294967296 / period
    have hbefore : buckets * period ≤ b % 4294967296 := Nat.div_mul_le_self _ _
    have hafter : a % 4294967296 < buckets * period :=
      (Nat.div_lt_iff_lt_mul positive).mp (Nat.lt_of_le_of_ne hquotient hne)
    refine ⟨b / 4294967296 * 4294967296 + buckets * period, ⟨_, buckets, by omega, rfl⟩, ?_, ?_⟩ <;> omega

theorem crosses_iff (positive : 0 < period) (hle : a ≤ b) (near : b + period ≤ a + 4294967296) :
    Crosses period a b ↔ a % 4294967296 / period ≠ b % 4294967296 / period := by
  -- The bucket numbers begin anew with each turn, so they grow with the time within one turn only.
  by_cases same : a / 4294967296 = b / 4294967296
  · exact crosses_iff_of_same_turn positive hle same
  have hturn : a / 4294967296 < b / 4294967296 := by omega
  have hlt := bucket_lt_of_turn positive hturn near
  exact iff_of_true (crosses_of_turn hturn) (by omega)

end Trigger

namespace Timer

/-- The timer after the first `n` of its polls, at the true times `T 1`, `T 2` and so on. -/
def after (t : Timer) (T : Nat → Nat) : Nat → Timer
  | 0 => t
  | n + 1 => ((t.after T n).poll (UInt32.ofNat (T (n + 1)))).2

def firesAfter (t : Timer) (T : Nat → Nat) (n : Nat) : Bool :=
  ((t.after T n).poll (UInt32.ofNat (T (n + 1)))).1

variable {period : UInt32} {T : Nat → Nat}

@[simp] theorem period_after (t : Timer) (T : Nat → Nat) (n : Nat) :
    (t.after T n).trigger.period = t.trigger.period := by
  induction n with
  | zero => rfl
  | succ n ih => exact (Trigger.period_poll _ _).trans ih

theorem period_after_ne_zero (positive : 0 < period) (T : Nat → Nat) (n : Nat) :
    ((ofPeriod period).after T n).trigger.period ≠ 0 := by
  rw [period_after]
  exact Ne.symm (UInt32.ne_of_lt positive)

theorem toNat_bucket_after (positive : 0 < period) (hzero : T 0 = 0) (n : Nat) :
    ((ofPeriod period).after T n).trigger.bucket.toNat = T n % 4294967296 / period.toNat := by
  cases n with
  | zero => simp [after, ofPeriod, hzero]
  | succ n =>
    have hbucket := Trigger.toNat_bucket_poll (period_after_ne_zero positive T n) (UInt32.ofNat (T (n + 1)))
    rw [period_after, UInt32.toNat_ofNat'] at hbucket
    exact hbucket

theorem firesAfter_iff (positive : 0 < period) (hzero : T 0 = 0) (n : Nat) :
    (ofPeriod period).firesAfter T n = true ↔
      T n % 4294967296 / period.toNat ≠ T (n + 1) % 4294967296 / period.toNat := by
  have hfires := Trigger.fires_iff (period_after_ne_zero positive T n) (UInt32.ofNat (T (n + 1)))
  rw [period_after, UInt32.toNat_ofNat', toNat_bucket_after positive hzero] at hfires
  exact hfires.trans ne_comm

theorem firesAfter_iff_crosses (positive : 0 < period) (hzero : T 0 = 0) (hfirst : T 1 < 4294967296)
    (hsorted : ∀ n, T n ≤ T (n + 1)) (hgap : ∀ n ≥ 1, T (n + 1) - T n ≤ 4294967296 - period.toNat) (n : Nat) :
    (ofPeriod period).firesAfter T n = true ↔ Trigger.Crosses period.toNat (T n) (T (n + 1)) := by
  have hpositive : 0 < period.toNat := positive
  have hperiod : period.toNat < 4294967296 := period.toNat_lt
  rw [firesAfter_iff positive hzero]
  cases n with
  | zero =>
    -- The first poll has no bound on its gap, but it comes within the first turn.
    have hturn : T 0 / 4294967296 = T 1 / 4294967296 := by omega
    exact (Trigger.crosses_iff_of_same_turn hpositive (hsorted 0) hturn).symm
  | succ n =>
    have hle := hsorted (n + 1)
    have hnear := hgap (n + 1) (by omega)
    exact (Trigger.crosses_iff hpositive hle (by omega)).symm

/-- A timer fires at a poll exactly if a bucket has begun since the poll before. So of all polls in one bucket only the
first can fire, and the end of a turn of the clock is never missed. -/
theorem fires_on_crossings (positive : 0 < period) (hzero : T 0 = 0) (hfirst : T 1 < 4294967296)
    (hsorted : ∀ n, T n ≤ T (n + 1)) (hgap : ∀ n ≥ 1, T (n + 1) - T n ≤ 4294967296 - period.toNat) :
    (∀ n, (ofPeriod period).firesAfter T n = true ↔ Trigger.Crosses period.toNat (T n) (T (n + 1))) ∧
    (∀ m n, m ≤ n → ¬ Trigger.Crosses period.toNat (T m) (T (n + 1)) → (ofPeriod period).firesAfter T n = false) ∧
    ∀ n, T n / 4294967296 < T (n + 1) / 4294967296 → (ofPeriod period).firesAfter T n = true := by
  have hfires := firesAfter_iff_crosses positive hzero hfirst hsorted hgap
  refine ⟨hfires, fun m n hle hsame => ?_, fun n hturn => (hfires n).mpr (Trigger.crosses_of_turn hturn)⟩
  have hmono : T m ≤ T n := monotone_nat_of_le_succ hsorted hle
  rw [← Bool.not_eq_true, hfires n]
  exact fun hcrosses => hsame (hcrosses.mono hmono)

/-- Ten divides no turn of the clock: the last bucket of the turn has six milliseconds. -/
def aroundTheTurn : Nat → Nat
  | 0 => 0
  | 1 => 4294967295
  | 2 => 4294967297
  | _ => 8589934582

theorem fires_on_crossings_around_the_turn :
    (0 < (10 : UInt32) ∧ aroundTheTurn 0 = 0 ∧ aroundTheTurn 1 < 4294967296 ∧
      (∀ n, aroundTheTurn n ≤ aroundTheTurn (n + 1)) ∧
      ∀ n ≥ 1, aroundTheTurn (n + 1) - aroundTheTurn n ≤ 4294967296 - (10 : UInt32).toNat) ∧
    (ofPeriod 10).firesAfter aroundTheTurn 1 = true ∧ (ofPeriod 10).firesAfter aroundTheTurn 3 = false := by
  have hsorted : ∀ n, aroundTheTurn n ≤ aroundTheTurn (n + 1)
    | 0 | 1 | 2 => by decide
    | _ + 3 => Nat.le_refl _
  have hgap : ∀ n ≥ 1, aroundTheTurn (n + 1) - aroundTheTurn n ≤ 4294967296 - (10 : UInt32).toNat
    | 1, _ | 2, _ => by decide
    | n + 3, _ => by simp [aroundTheTurn]
  have hpositive : 0 < (10 : UInt32) := by decide
  obtain ⟨hfires, _, hturn⟩ := fires_on_crossings hpositive rfl (by decide) hsorted hgap
  refine ⟨⟨hpositive, rfl, by decide, hsorted, hgap⟩, hturn 1 (by decide), ?_⟩
  rw [← Bool.not_eq_true, hfires 3]
  rintro ⟨time, _, hlt, hle⟩
  exact Nat.lt_irrefl _ (Nat.lt_of_lt_of_le hlt hle)

end Timer

end ControlLoop
