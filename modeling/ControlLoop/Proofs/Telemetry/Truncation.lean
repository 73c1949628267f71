import ControlLoop.Proofs.Telemetry.Frame
import ControlLoop.Proofs.Wire.Lawful

/-!
# Truncated telemetry frames

A frame that lost its end never decodes to a record: either the stuffing is seen to be broken, or what comes out of it
is the beginning of a record, and the record then ends too soon. Only the terminating zero may be missing.
-/

namespace ControlLoop.Telemetry

set_option autoImplicit false

open Wire

theorem lawful_format : format.Lawful := by
  apply Format.lawful_map (Format.lawful_either
    (Format.lawful_both Format.lawful_fixed (Format.lawful_both Format.lawful_fixed Format.lawful_bool))
    (Format.lawful_both Format.lawful_fixed Format.lawful_fixed))
  · intro t
    trivial
  · intro t
    cases t <;> rfl
  · intro x _
    cases x <;> rfl

/-- Nothing is decoded, and the error tells of a broken or an incomplete frame. -/
def Rejected (input : List UInt8) : Prop :=
  decode input = .error .badEncoding ∨ decode input = .error .unexpectedEnd

theorem decode_body {body : List UInt8} (hne : body ≠ []) (hzero : 0 ∉ body) (rest : List UInt8) :
    decode (body ++ 0 :: rest) = decode body := by
  rw [decode, decode, Cobs.unframe_body rest hzero, Cobs.unframe_of_zero_not_mem hne hzero]

theorem decode_take_write (t : Telemetry) {k : Nat} (hk : k < (format.write t).length) :
    format.decode ((format.write t).take k) = .error .unexpectedEnd := by
  rw [Format.decode, lawful_format.cutShort t trivial k hk]
  rfl

theorem take_stuff_ne_nil (data : List UInt8) {k : Nat} (hpos : 0 < k) : (Cobs.stuff data).take k ≠ [] := by
  intro hnil
  rcases List.take_eq_nil_iff.mp hnil with hzero | hstuff
  · omega
  · exact Cobs.stuff_ne_nil data hstuff

theorem zero_not_mem_take_stuff (data : List UInt8) (k : Nat) : 0 ∉ (Cobs.stuff data).take k := by
  intro hmem
  exact Cobs.zero_not_mem_stuff data (List.mem_of_mem_take hmem)

theorem rejected_take_stuff (t : Telemetry) {k : Nat} (hpos : 0 < k)
    (hk : k < (Cobs.stuff (format.write t)).length) : Rejected ((Cobs.stuff (format.write t)).take k) := by
  have hlength : ([] : List UInt8).length + (format.write t).length ≤ 253 := by
    have hwrite := length_write_format_le t
    rw [List.length_nil]
    omega
  rw [Rejected, decode, Cobs.unframe_of_zero_not_mem (take_stuff_ne_nil _ hpos) (zero_not_mem_take_stuff _ k),
    Cobs.stuff]
  rcases Cobs.unstuff_take_stuffFrom hlength hpos hk with hbroken | ⟨j, hj, hbegin⟩
  · rw [hbroken]
    exact Or.inl rfl
  · rw [hbegin]
    exact Or.inr (decode_take_write t hj)

/-- Without any byte of its body a frame is no frame, or an empty one. -/
theorem rejected_nil (rest : List UInt8) : Rejected [] ∧ Rejected (0 :: rest) := by
  constructor
  · exact Or.inl rfl
  · have hbody : Cobs.unframe (0 :: rest) = Cobs.unstuff [] := Cobs.unframe_body rest List.not_mem_nil
    rw [Rejected, decode, hbody, Cobs.unstuff]
    exact Or.inr rfl

theorem rejected_take_frame (t : Telemetry) {k : Nat} (hk : k + 2 ≤ t.frame.length) (rest : List UInt8) :
    Rejected (t.frame.take k) ∧ Rejected (t.frame.take k ++ 0 :: rest) := by
  rw [frame, Cobs.frame, List.length_append, List.length_singleton] at hk
  have htake : t.frame.take k = (Cobs.stuff (format.write t)).take k :=
    List.take_append_of_le_length (by omega)
  rw [htake]
  by_cases hzero : k = 0
  · subst hzero
    exact rejected_nil rest
  · have hpos : 0 < k := Nat.pos_of_ne_zero hzero
    have hcut := rejected_take_stuff t hpos (by omega)
    refine ⟨hcut, ?_⟩
    rw [Rejected, decode_body (take_stuff_ne_nil _ hpos) (zero_not_mem_take_stuff _ k)]
    exact hcut

theorem decode_take_pred_frame (t : Telemetry) : decode (t.frame.take (t.frame.length - 1)) = .ok t := by
  have htake : t.frame.take (t.frame.length - 1) = Cobs.stuff (format.write t) := by
    rw [frame, Cobs.frame, List.length_append, List.length_singleton, Nat.add_sub_cancel, List.take_left]
  have hframe := decode_frame t []
  rw [List.append_nil, frame, Cobs.frame,
    decode_body (Cobs.stuff_ne_nil _) (Cobs.zero_not_mem_stuff _)] at hframe
  rw [htake, hframe]

/-- A frame that lost more than its last byte is rejected, alone as well as before another zero; without its last byte it
still decodes to its record; and nothing but the bytes before the first zero matters. -/
theorem truncated_frames_rejected :
    (∀ t : Telemetry,
      (∀ capacity, t.frame.length ≤ capacity → t.encode capacity = .ok t.frame) ∧
      (∀ k, k + 2 ≤ t.frame.length → ∀ rest, Rejected (t.frame.take k) ∧ Rejected (t.frame.take k ++ 0 :: rest)) ∧
      decode (t.frame.take (t.frame.length - 1)) = .ok t) ∧
    ∀ body rest : List UInt8, body ≠ [] → 0 ∉ body → decode body = decode (body ++ 0 :: rest) := by
  constructor
  · intro t
    exact ⟨fun _ => encode_of_le, fun _ hk rest => rejected_take_frame t hk rest, decode_take_pred_frame t⟩
  · intro body rest hne hzero
    exact (decode_body hne hzero rest).symm

end ControlLoop.Telemetry
