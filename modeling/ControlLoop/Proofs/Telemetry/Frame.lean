import ControlLoop.Proofs.Wire.Cobs
import ControlLoop.Proofs.Wire.Format
import ControlLoop.Telemetry.Frame

/-!
# Telemetry over frames

Every record has a frame of at most 14 bytes that decodes to it, and a string of frames is the records one after the
other.
-/

namespace ControlLoop.Telemetry

set_option autoImplicit false

open Wire

theorem readsBack_format (t : Telemetry) : format.ReadsBack t := by
  cases t with
  | servo target present reached =>
    apply Format.readsBack_map _ rfl
    apply Format.readsBack_inl
    exact Format.readsBack_both (Format.readsBack_fixed target)
      (Format.readsBack_both (Format.readsBack_fixed present) (Format.readsBack_bool reached))
  | filter input output =>
    apply Format.readsBack_map _ rfl
    apply Format.readsBack_inr
    exact Format.readsBack_both (Format.readsBack_fixed input) (Format.readsBack_fixed output)

theorem length_write_format_le (t : Telemetry) : (format.write t).length ≤ 12 := by
  cases t with
  | servo target present reached =>
    have htarget := Format.length_write_fixed_le target
    have hpresent := Format.length_write_fixed_le present
    have hwrite : format.write (.servo target present reached) =
      Varint.write 0 ++ (Format.fixed.write target ++ (Format.fixed.write present ++ Format.bool.write reached)) := rfl
    have hbool : (Format.bool.write reached).length = 1 := rfl
    rw [hwrite, Varint.write_of_lt (by decide)]
    simp only [List.length_append, List.length_singleton]
    omega
  | filter input output =>
    have hinput := Format.length_write_fixed_le input
    have houtput := Format.length_write_fixed_le output
    have hwrite : format.write (.filter input output) =
      Varint.write 1 ++ (Format.fixed.write input ++ Format.fixed.write output) := rfl
    rw [hwrite, Varint.write_of_lt (by decide)]
    simp only [List.length_append, List.length_singleton]
    omega

theorem length_frame_le (t : Telemetry) : t.frame.length ≤ 14 := by
  have hwrite := length_write_format_le t
  have hframe := Cobs.length_frame_le (format.write t)
  rw [frame]
  omega

theorem encode_of_le {t : Telemetry} {capacity : Nat} (h : t.frame.length ≤ capacity) :
    t.encode capacity = .ok t.frame := if_pos h

theorem encode_of_lt {t : Telemetry} {capacity : Nat} (h : capacity < t.frame.length) :
    t.encode capacity = .error .bufferFull := if_neg (Nat.not_le_of_lt h)

theorem decode_frame (t : Telemetry) (rest : List UInt8) : decode (t.frame ++ rest) = .ok t := by
  rw [decode, frame, Cobs.unframe_frame]
  exact Format.decode_of_readsBack (readsBack_format t)

theorem cut_frames (ts : List Telemetry) : Cobs.cut (ts.flatMap frame) = ts.map frame := by
  induction ts with
  | nil => rfl
  | cons t rest ih => rw [List.flatMap_cons, frame, Cobs.cut_frame, ih, List.map_cons, frame]

theorem map_decode_frames (ts : List Telemetry) : (ts.map frame).map decode = ts.map .ok := by
  rw [List.map_map]
  apply List.map_congr_left
  intro t _
  have hframe := decode_frame t []
  rwa [List.append_nil] at hframe

/-- Frames carry records through a buffer and through a stream: each of them fits 14 bytes, shows its end by its only
zero and decodes to its record whatever follows, and a stream cut after its zeros gives all records back in order. -/
theorem frames_round_trip :
    (∀ t : Telemetry, t.frame.length ≤ 14 ∧
      (∀ capacity, t.frame.length ≤ capacity → t.encode capacity = .ok t.frame) ∧
      (∀ capacity, capacity < t.frame.length → t.encode capacity = .error .bufferFull) ∧
      t.frame.count 0 = 1 ∧ t.frame.getLast? = some 0 ∧
      ∀ rest, decode (t.frame ++ rest) = .ok t) ∧
    ∀ ts : List Telemetry, (Cobs.cut (ts.flatMap frame)).map decode = ts.map .ok := by
  constructor
  · intro t
    exact ⟨length_frame_le t, fun _ => encode_of_le, fun _ => encode_of_lt, Cobs.count_zero_frame _,
      Cobs.getLast?_frame _, decode_frame t⟩
  · intro ts
    rw [cut_frames, map_decode_frames]

end ControlLoop.Telemetry
