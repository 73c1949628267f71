import ControlLoop.Filter.FirstOrder
import ControlLoop.Settings
import ControlLoop.Proofs.Wire.Text

/-!
# Settings on the wire

The settings of a station, of a servo and of a session, and the pass band of a filter, can be stored and loaded: every
value is read back, a buffer or an input that is too short is an error of its own, and what was loaded fits where what
it was loaded from did.
-/

namespace ControlLoop

set_option autoImplicit false

namespace Wire.Format

variable {α : Type}

/-- What storing with `encode` and loading with `decode` comes to. -/
structure Dependable (f : Format α) : Prop where
  decode_write_append : ∀ a rest, f.decode (f.write a ++ rest) = .ok a
  encode_eq_ok_iff : ∀ a capacity data, f.encode capacity a = .ok data ↔
    data = f.write a ∧ (f.write a).length ≤ capacity
  encode_eq_error_iff : ∀ a capacity e, f.encode capacity a = .error e ↔
    e = .bufferFull ∧ capacity < (f.write a).length
  decode_take_write : ∀ a k, k < (f.write a).length → f.decode ((f.write a).take k) = .error .unexpectedEnd
  decode_canonical : ∀ data a, f.decode data = .ok a →
    (f.write a).length ≤ data.length ∧ f.decode (f.write a) = .ok a

theorem decode_eq_ok {f : Format α} {data : List UInt8} {a : α} :
    f.decode data = .ok a ↔ ∃ rest, f.read data = .ok (a, rest) := by
  unfold decode
  cases f.read data with
  | error e => simp [Except.map]
  | ok pair =>
    rcases pair with ⟨b, rest⟩
    simp [Except.map]

theorem Lawful.dependable {f : Format α} (hf : f.Lawful) : f.Dependable where
  decode_write_append a rest := decode_eq_ok.mpr ⟨rest, hf.readsBack a trivial rest⟩
  encode_eq_ok_iff a capacity data := by
    unfold encode
    split
    next hfits => simp [hfits, eq_comm]
    next hfits => simp [hfits]
  encode_eq_error_iff a capacity e := by
    unfold encode
    split
    next hfits => simp [Nat.not_lt_of_le hfits]
    next hfits => simp [Nat.lt_of_not_le hfits, eq_comm]
  decode_take_write a k hk := by
    rw [decode, hf.cutShort a trivial k hk]
    rfl
  decode_canonical data a h := by
    obtain ⟨rest, hread⟩ := decode_eq_ok.mp h
    have hlength := hf.length_of_read hread
    exact ⟨by omega, decode_of_readsBack (hf.readsBack a trivial)⟩

end Wire.Format

open Wire

theorem Station.Settings.lawful_format : Station.Settings.format.Lawful := by
  apply Format.lawful_map (Format.lawful_both (Format.lawful_text (by decide))
    (Format.lawful_both (Format.lawful_text (by decide)) (Format.lawful_both Format.lawful_uint16
      (Format.lawful_both Format.lawful_uint16 Format.lawful_byte))))
  · exact fun _ => trivial
  · exact fun _ => rfl
  · exact fun _ _ => rfl

theorem Servo.Settings.lawful_format : Servo.Settings.format.Lawful := by
  apply Format.lawful_map (Format.lawful_both Format.lawful_uint16 Format.lawful_single)
  · exact fun _ => trivial
  · exact fun _ => rfl
  · exact fun _ _ => rfl

theorem Session.Settings.lawful_format : Session.Settings.format.Lawful := by
  apply Format.lawful_map (Format.lawful_both Format.lawful_uint32
    (Format.lawful_both (Format.lawful_text (by decide)) Format.lawful_uint64))
  · exact fun _ => trivial
  · exact fun _ => rfl
  · exact fun _ _ => rfl

theorem Pass.lawful_format : Pass.format.Lawful := by
  apply Format.lawful_map (Format.lawful_either Format.lawful_unit Format.lawful_unit)
  · exact fun _ => trivial
  · intro pass
    cases pass <;> rfl
  · intro index _
    cases index <;> rfl

/-- All settings can be stored and loaded, and the texts of what is loaded fit their capacities. -/
theorem settings_dependable :
    (Station.Settings.format.Dependable ∧ ∀ data s, Station.Settings.format.decode data = .ok s →
      s.ssid.text.utf8ByteSize ≤ 32 ∧ s.password.text.utf8ByteSize ≤ 64) ∧
    Servo.Settings.format.Dependable ∧
    (Session.Settings.format.Dependable ∧ ∀ data s, Session.Settings.format.decode data = .ok s →
      s.clientFamily.text.utf8ByteSize ≤ 32) ∧
    Pass.format.Dependable := by
  refine ⟨⟨Station.Settings.lawful_format.dependable, ?_⟩, Servo.Settings.lawful_format.dependable,
    ⟨Session.Settings.lawful_format.dependable, ?_⟩, Pass.lawful_format.dependable⟩
  · intro data s _
    exact ⟨s.ssid.fits, s.password.fits⟩
  · intro data s _
    exact s.clientFamily.fits

end ControlLoop
