import ControlLoop.Proofs.Servo.Operations
import ControlLoop.Proofs.Servo.Traceless

/-!
# Faults of a servo

The only command that a drive cannot carry out is one that hands over NaN for a velocity. It fails before the first of
the two rates is set, so it changes nothing. Everything else has an answer in every state, also where huge or negative
rates have driven the ramp to the ends of its format: sums saturate there, and the other results fit into their words.
-/

namespace ControlLoop

set_option autoImplicit false

theorem Single.equals_of_isNaN {x : Single} (h : x.isNaN = true) (y : Single) : x.equals y = false := by
  simp [Single.equals, h]

theorem Fixed.isNaN_of_ofSingle {x : Single} {r : Fixed} (h : ofSingle x = .ok r) : x.isNaN = false := by
  rw [← Bool.not_eq_true]
  intro hnan
  rw [ofSingle_eq_error_iff.mpr ⟨hnan, rfl⟩] at h
  cases h

theorem Fixed.holds_product (a b : Fixed) : Word.Holds .bits64 (a.raw * b.raw) := by
  have ha : a.raw.natAbs ≤ 2147483648 := by
    have hlower := a.lower
    have hupper := a.upper
    omega
  have hb : b.raw.natAbs ≤ 2147483648 := by
    have hlower := b.lower
    have hupper := b.upper
    omega
  have hproduct : (a.raw * b.raw).natAbs ≤ 2147483648 * 2147483648 := by
    rw [Int.natAbs_mul]
    exact Nat.mul_le_mul ha hb
  exact Word.holds_bits64.mpr (by omega)

theorem Fixed.holds_whole (x : Fixed) : Word.Holds .bits32 (x.raw.tdiv 65536 * 65536) :=
  Word.holds_bits32.mpr x.whole_bounds

namespace Servo

variable {s : Servo} {e : Entry} {c : Command} {fault : Fault}

theorem holds_level (angle : Fixed) (maxDuty : UInt16) : Word.Holds .bits64 (level angle maxDuty * 65536) := by
  have hlevel := level_bounds angle maxDuty
  exact Word.holds_bits64.mpr (by omega)

def Operation.HandsNaN (operation : Operation) : Prop := ∃ velocity ∈ operation.velocity?, velocity.isNaN = true

instance (operation : Operation) : Decidable operation.HandsNaN := inferInstanceAs (Decidable (∃ _ ∈ _, _))

theorem Effect.handsNaN (he : Effect s e) (h : e.answer = .error fault) : e.command.operation.HandsNaN := by
  cases he with
  | refuse hvelocity hnan => exact ⟨_, hvelocity, hnan⟩
  | _ => cases h

theorem Effect.refused (he : Effect s e) (h : e.command.operation.HandsNaN) :
    e = ⟨e.command, .error .notANumber, [], s⟩ := by
  obtain ⟨velocity, hvelocity, hnan⟩ := h
  cases he with
  | refuse _ _ => rfl
  | retargetOnly _ hzero =>
    cases hvelocity
    rw [Single.equals_of_isNaN hnan] at hzero
    cases hzero
  | setRate _ hrate =>
    cases hvelocity
    rw [Fixed.isNaN_of_ofSingle hrate] at hnan
    cases hnan
  | retargetAtRate _ _ hrate =>
    cases hvelocity
    rw [Fixed.isNaN_of_ofSingle hrate] at hnan
    cases hnan
  | _ => cases hvelocity

theorem entry_of_handsNaN (h : c.operation.HandsNaN) (s : Servo) : c.entry s = ⟨c, .error .notANumber, [], s⟩ :=
  (effect c s).refused h

theorem fault_iff (c : Command) (s : Servo) :
    (∃ fault, (c.entry s).answer = .error fault) ↔ c.operation.HandsNaN := by
  constructor
  · rintro ⟨fault, hfault⟩
    exact (effect c s).handsNaN hfault
  · intro hnan
    exact ⟨.notANumber, congrArg Entry.answer (entry_of_handsNaN hnan s)⟩

theorem traceless_of_handsNaN (h : c.operation.HandsNaN) (s : Servo) : s.Traceless c := by
  rw [Traceless, entry_of_handsNaN h s]
  exact ⟨rfl, rfl⟩

/-- The results that an update and the duty after it have no check for. -/
structure Fits (s : Servo) (maxDuty : UInt16) : Prop where
  product : Word.Holds .bits64 (s.ramp.rate.raw * s.ramp.tick.raw)
  whole : Word.Holds .bits32 (s.ramp.update.present.raw.tdiv 65536 * 65536)
  rounded (angle : Fixed) : Word.Holds .bits64 (level angle maxDuty * 65536)

theorem fits (s : Servo) (maxDuty : UInt16) : s.Fits maxDuty where
  product := Fixed.holds_product _ _
  whole := Fixed.holds_whole _
  rounded angle := holds_level angle maxDuty

/-- A command fails if and only if it hands over NaN for a velocity, whatever has been commanded before. It leaves the
drive and its output as they are, so that a run goes on as it would without the commands that have failed. -/
theorem faults_only_on_nan (channel : UInt8) (settings : Settings) (short : settings.tickMs.toNat < 32768)
    (number : settings.velocity.isNaN = false) :
    ∃ first, (start channel settings).value = .ok first ∧
      (∀ (commands : List Command) (c : Command),
        ((∃ fault, (c.entry (first.run commands)).answer = .error fault) ↔ c.operation.HandsNaN) ∧
        (c.operation.HandsNaN → c.entry (first.run commands) = ⟨c, .error .notANumber, [], first.run commands⟩) ∧
        (first.run commands).Fits c.maxDuty) ∧
      ∀ slots : List Slot, (∀ slot ∈ slots, slot.inserted = true → slot.command.operation.HandsNaN) →
        Unnoticed first slots := by
  obtain ⟨rate, hstart⟩ := exists_start channel short number
  refine ⟨_, hstart, ?_, ?_⟩
  · intro commands c
    exact ⟨fault_iff c _, fun hnan => entry_of_handsNaN hnan _, fits _ c.maxDuty⟩
  · intro slots hslots
    apply unnoticed_of_traceless
    rintro before slot after rfl hinserted
    exact traceless_of_handsNaN (hslots slot (List.mem_append_right before List.mem_cons_self) hinserted) _

/-- The greatest rate backwards, in one step to the lower end of the format. -/
def overboard : List Command := [⟨.setTarget maxAngle, 65535⟩, ⟨.poll 1000, 65535⟩]

theorem faults_only_on_nan_overboard :
    ((⟨1000, ⟨0xc7000000⟩⟩ : Settings).tickMs.toNat < 32768 ∧
      (⟨1000, ⟨0xc7000000⟩⟩ : Settings).velocity.isNaN = false) ∧
    ∃ first, (start 1 ⟨1000, ⟨0xc7000000⟩⟩).value = .ok first ∧
      (first.run overboard).ramp.present.raw = -2147483648 ∧
      (Command.entry ⟨.setTargetAt Fixed.zero ⟨0x7fc00000⟩, 65535⟩ (first.run overboard)).after =
        first.run overboard ∧
      ¬ ∃ fault, (Command.entry ⟨.poll 2000, 65535⟩ (first.run overboard)).answer = .error fault := by
  have hshort : (⟨1000, ⟨0xc7000000⟩⟩ : Settings).tickMs.toNat < 32768 := by decide
  have hnumber : (⟨1000, ⟨0xc7000000⟩⟩ : Settings).velocity.isNaN = false := by decide
  obtain ⟨first, hstart, hcommands, _⟩ := faults_only_on_nan 1 _ hshort hnumber
  have hrate : Fixed.ofSingle ⟨0xc7000000⟩ = .ok (Fixed.wrap (-2147483648)) := by decide
  have hfirst := eq_atRest hshort hrate hstart
  obtain ⟨_, hrefused, _⟩ := hcommands overboard ⟨.setTargetAt Fixed.zero ⟨0x7fc00000⟩, 65535⟩
  obtain ⟨hanswered, _, _⟩ := hcommands overboard ⟨.poll 2000, 65535⟩
  refine ⟨⟨hshort, hnumber⟩, first, hstart, ?_, ?_, ?_⟩
  · rw [hfirst]
    decide
  · rw [hrefused (by decide)]
  · rw [hanswered]
    decide

end Servo

end ControlLoop
