import ControlLoop.Proofs.Wire.Lawful
import ControlLoop.Wire.Text

/-!
# Reading texts

What is read as a text is the UTF-8 of that text, and it fits the capacity. So a text is written again as the bytes it
was read from, and only its size may have been written longer than it need be.
-/

namespace ControlLoop

set_option autoImplicit false

theorem BoundedText.of?_text {capacity : Nat} (t : BoundedText capacity) : of? capacity t.text = some t :=
  dif_pos t.fits

theorem BoundedText.text_of_of? {capacity : Nat} {s : String} {t : BoundedText capacity}
    (h : of? capacity s = some t) : t.text = s := by
  unfold of? at h
  split at h
  next =>
    cases h
    rfl
  next => cases h

namespace Wire.Format

theorem fromUTF8?_toUTF8 (s : String) : String.fromUTF8? ⟨s.toUTF8.data.toList.toArray⟩ = some s := by
  rw [Array.toArray_toList]
  exact dif_pos s.isValidUTF8

theorem toUTF8_of_fromUTF8? {bs : List UInt8} {s : String} (h : String.fromUTF8? ⟨bs.toArray⟩ = some s) :
    s.toUTF8.data.toList = bs := by
  unfold String.fromUTF8? at h
  split at h
  next =>
    cases h
    rfl
  next => cases h

theorem length_toUTF8 (s : String) : s.toUTF8.data.toList.length = s.utf8ByteSize := Array.length_toList

section Bytes

variable {input rest bs : List UInt8}

theorem lawfulOn_size : (varint Varint.word64).LawfulOn (· < 18446744073709551616) :=
  lawfulOn_varint (w := Varint.word64) (by decide) (by decide)

theorem read_bytes_eq_ok (h : bytes.read input = .ok (bs, rest)) :
    Varint.read Varint.word64 input = .ok (bs.length, bs ++ rest) := by
  obtain ⟨⟨n, middle⟩, hsize, hrest⟩ := bind_eq_ok.mp h
  simp only at hrest
  split at hrest
  next => cases hrest
  next hle =>
    cases hrest
    rw [List.length_take_of_le (Nat.le_of_not_lt hle), List.take_append_drop]
    exact hsize

theorem lawfulOn_bytes : bytes.LawfulOn (·.length < 18446744073709551616) where
  readsBack bs hbs rest := by
    have hsize : Varint.read Varint.word64 (Varint.write bs.length ++ (bs ++ rest)) = .ok (bs.length, bs ++ rest) :=
      lawfulOn_size.readsBack bs.length hbs (bs ++ rest)
    simp only [bytes, List.append_assoc, hsize, bind, Except.bind]
    rw [if_neg (by simp), List.take_left, List.drop_left]
  cutShort bs hbs k hk := by
    simp only [bytes, List.length_append] at hk ⊢
    by_cases hshort : k < (Varint.write bs.length).length
    · have hcut : Varint.read Varint.word64 ((Varint.write bs.length).take k) = .error .unexpectedEnd :=
        lawfulOn_size.cutShort bs.length hbs k hshort
      rw [List.take_append_of_le_length (Nat.le_of_lt hshort), hcut]
      rfl
    · obtain ⟨i, rfl⟩ := Nat.exists_eq_add_of_le (Nat.le_of_not_lt hshort)
      have hsize : Varint.read Varint.word64 (Varint.write bs.length ++ bs.take i) = .ok (bs.length, bs.take i) :=
        lawfulOn_size.readsBack bs.length hbs (bs.take i)
      have hmissing : (bs.take i).length < bs.length := by
        rw [List.length_take]
        omega
      rw [List.take_length_add_append, hsize]
      simp only [bind, Except.bind, if_pos hmissing]
  valid_of_read h := lawfulOn_size.valid_of_read (read_bytes_eq_ok h)
  length_of_read h := by
    have hlength := lawfulOn_size.length_of_read (read_bytes_eq_ok h)
    simp only [varint, bytes, List.length_append] at hlength ⊢
    omega

end Bytes

theorem read_text_eq_ok {capacity : Nat} {input rest : List UInt8} {t : BoundedText capacity}
    (h : (text capacity).read input = .ok (t, rest)) : bytes.read input = .ok (t.text.toUTF8.data.toList, rest) := by
  obtain ⟨⟨bs, last⟩, hbytes, hrest⟩ := bind_eq_ok.mp h
  simp only at hrest
  split at hrest
  next => cases hrest
  next s hs =>
    split at hrest
    next => cases hrest
    next ht =>
      cases hrest
      rw [BoundedText.text_of_of? ht, toUTF8_of_fromUTF8? hs]
      exact hbytes

theorem lawful_text {capacity : Nat} (hcapacity : capacity < 18446744073709551616) : (text capacity).Lawful where
  readsBack t _ rest := by
    have hlength := Nat.lt_of_le_of_lt t.fits hcapacity
    rw [← length_toUTF8] at hlength
    simp only [text, lawfulOn_bytes.readsBack _ hlength rest, bind, Except.bind, fromUTF8?_toUTF8,
      BoundedText.of?_text]
  cutShort t _ k hk := by
    have hlength := Nat.lt_of_le_of_lt t.fits hcapacity
    rw [← length_toUTF8] at hlength
    have hcut := lawfulOn_bytes.cutShort _ hlength k hk
    simp only [text, hcut, bind, Except.bind]
  valid_of_read _ := trivial
  length_of_read h := lawfulOn_bytes.length_of_read (read_text_eq_ok h)

end Wire.Format

end ControlLoop
