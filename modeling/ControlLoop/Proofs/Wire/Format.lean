import ControlLoop.Proofs.Wire.Varint
import ControlLoop.Wire.Format

/-!
# Reading back what was written

A format reads a value back if its reader takes exactly the written bytes from the front of any input. Records and
choices read back what their parts do, so that this is proved once for each way to build a format.
-/

namespace ControlLoop.Wire.Format

set_option autoImplicit false

variable {α β : Type}

/-- Whatever follows, the reader gives the value back and leaves what follows. -/
def ReadsBack (f : Format α) (a : α) : Prop := ∀ rest, f.read (f.write a ++ rest) = .ok (a, rest)

theorem readsBack_map {f : Format α} {decode : α → β} {encode : β → α} {b : β} (hf : f.ReadsBack (encode b))
    (hb : decode (encode b) = b) : (f.map decode encode).ReadsBack b := by
  intro rest
  simp only [map, hf rest, bind, Except.bind, pure, Except.pure, hb]

theorem readsBack_both {f : Format α} {g : Format β} {p : α × β} (hf : f.ReadsBack p.1) (hg : g.ReadsBack p.2) :
    (f.both g).ReadsBack p := by
  intro rest
  simp only [both, List.append_assoc, hf _, hg rest, bind, Except.bind, pure, Except.pure]

theorem readsBack_inl {f : Format α} (g : Format β) {a : α} (hf : f.ReadsBack a) :
    (f.either g).ReadsBack (.inl a) := by
  intro rest
  simp only [either, List.append_assoc, Varint.read_write_word32 (show 0 < 4294967296 by decide), hf rest, bind,
    Except.bind, pure, Except.pure]

theorem readsBack_inr (f : Format α) {g : Format β} {b : β} (hg : g.ReadsBack b) :
    (f.either g).ReadsBack (.inr b) := by
  intro rest
  simp only [either, List.append_assoc, Varint.read_write_word32 (show 1 < 4294967296 by decide), hg rest, bind,
    Except.bind, pure, Except.pure]

theorem readsBack_bool (b : Bool) : bool.ReadsBack b := by
  intro rest
  cases b <;> rfl

theorem readsBack_word32 {n : Nat} (h : n < 4294967296) : (varint Varint.word32).ReadsBack n :=
  Varint.read_write_word32 h

theorem unzigzag_zigzag (n : Int) : unzigzag (zigzag n) = n := by
  unfold unzigzag zigzag
  by_cases hn : 0 ≤ n
  · rw [if_pos hn, if_pos (by omega)]
    omega
  · rw [if_neg hn, if_neg (by omega)]
    omega

theorem zigzag_raw_lt (x : Fixed) : zigzag x.raw < 4294967296 := by
  have hlower := x.lower
  have hupper := x.upper
  unfold zigzag
  split <;> omega

theorem wrap_unzigzag_zigzag (x : Fixed) : Fixed.wrap (unzigzag (zigzag x.raw)) = x := by
  ext
  rw [unzigzag_zigzag]
  exact Fixed.raw_wrap x.lower x.upper

theorem readsBack_fixed (x : Fixed) : fixed.ReadsBack x :=
  readsBack_map (readsBack_word32 (zigzag_raw_lt x)) (wrap_unzigzag_zigzag x)

theorem length_write_fixed_le (x : Fixed) : (fixed.write x).length ≤ 5 :=
  Varint.length_write_word32 (zigzag_raw_lt x)

theorem decode_of_readsBack {f : Format α} {a : α} (hf : f.ReadsBack a) : f.decode (f.write a) = .ok a := by
  have hread := hf []
  rw [List.append_nil] at hread
  rw [decode, hread]
  rfl

end ControlLoop.Wire.Format
