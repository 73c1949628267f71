import ControlLoop.Proofs.Wire.Format

/-!
# Lawful formats

A lawful format gives its values back, notices when the end of a value is missing, and accepts nothing that is shorter
than what it would write itself. All ways to build a format keep these laws.
-/

namespace ControlLoop.Wire

set_option autoImplicit false

/-- The numbers that fit a width are those below its bound. -/
def Varint.Width.bound (w : Varint.Width) : Nat := (w.last + 1) * 128 ^ (w.groups - 1)

namespace Format

variable {α β : Type}

/-- If the end of what was written is missing, the reader comes to the end of its input. -/
def CutShort (f : Format α) (a : α) : Prop :=
  ∀ k, k < (f.write a).length → f.read ((f.write a).take k) = .error .unexpectedEnd

/-- The laws of a format whose reader gives the values in `valid`. -/
structure LawfulOn (valid : α → Prop) (f : Format α) : Prop where
  readsBack : ∀ a, valid a → f.ReadsBack a
  cutShort : ∀ a, valid a → f.CutShort a
  valid_of_read : ∀ {input rest : List UInt8} {a : α}, f.read input = .ok (a, rest) → valid a
  length_of_read : ∀ {input rest : List UInt8} {a : α}, f.read input = .ok (a, rest) →
    (f.write a).length + rest.length ≤ input.length

def Lawful (f : Format α) : Prop := f.LawfulOn fun _ => True

section Combinators

variable {f : Format α} {g : Format β} {input rest : List UInt8}

theorem bind_eq_ok {ε : Type} {x : Except ε α} {k : α → Except ε β} {b : β} :
    x >>= k = .ok b ↔ ∃ a, x = .ok a ∧ k a = .ok b := by
  cases x <;> simp [bind, Except.bind]

theorem read_map_eq_ok {decode : α → β} {encode : β → α} {b : β} :
    (f.map decode encode).read input = .ok (b, rest) ↔ ∃ a, f.read input = .ok (a, rest) ∧ decode a = b := by
  simp [map, bind_eq_ok, pure, Except.pure]

theorem read_both_eq_ok {p : α × β} :
    (f.both g).read input = .ok (p, rest) ↔
      ∃ middle, f.read input = .ok (p.1, middle) ∧ g.read middle = .ok (p.2, rest) := by
  constructor
  · intro h
    obtain ⟨⟨a, middle⟩, ha, hrest⟩ := bind_eq_ok.mp h
    obtain ⟨⟨b, last⟩, hb, hp⟩ := bind_eq_ok.mp hrest
    cases hp
    exact ⟨middle, ha, hb⟩
  · rintro ⟨middle, ha, hb⟩
    simp only [both, ha, hb, bind, Except.bind, pure, Except.pure]

theorem lawful_map {valid : α → Prop} {decode : α → β} {encode : β → α} (hf : f.LawfulOn valid)
    (hvalid : ∀ b, valid (encode b)) (hdecode : ∀ b, decode (encode b) = b)
    (hencode : ∀ a, valid a → encode (decode a) = a) : (f.map decode encode).Lawful where
  readsBack b _ := readsBack_map (hf.readsBack _ (hvalid b)) (hdecode b)
  cutShort b _ k hk := by
    have hcut := hf.cutShort _ (hvalid b) k hk
    simp only [map, hcut, bind, Except.bind]
  valid_of_read _ := trivial
  length_of_read h := by
    obtain ⟨a, ha, rfl⟩ := read_map_eq_ok.mp h
    simp only [map]
    rw [hencode a (hf.valid_of_read ha)]
    exact hf.length_of_read ha

theorem lawful_both (hf : f.Lawful) (hg : g.Lawful) : (f.both g).Lawful where
  readsBack p _ := readsBack_both (hf.readsBack p.1 trivial) (hg.readsBack p.2 trivial)
  cutShort p _ k hk := by
    -- The end is missing from the first part, or the first part is whole and the end is missing from the second.
    simp only [both, List.length_append] at hk ⊢
    by_cases hfirst : k < (f.write p.1).length
    · rw [List.take_append_of_le_length (Nat.le_of_lt hfirst), hf.cutShort p.1 trivial k hfirst]
      rfl
    · obtain ⟨i, rfl⟩ := Nat.exists_eq_add_of_le (Nat.le_of_not_lt hfirst)
      have hcut := hg.cutShort p.2 trivial i (by omega)
      rw [List.take_length_add_append, hf.readsBack p.1 trivial]
      simp only [bind, Except.bind, hcut]
  valid_of_read _ := trivial
  length_of_read h := by
    obtain ⟨middle, ha, hb⟩ := read_both_eq_ok.mp h
    have hfirst := hf.length_of_read ha
    have hsecond := hg.length_of_read hb
    simp only [both, List.length_append]
    omega

theorem write_inl (a : α) : (f.either g).write (.inl a) = 0 :: f.write a := by
  simp only [either, Varint.write_of_lt (show 0 < 128 by decide), List.singleton_append]
  rfl

theorem write_inr (b : β) : (f.either g).write (.inr b) = 1 :: g.write b := by
  simp only [either, Varint.write_of_lt (show 1 < 128 by decide), List.singleton_append]
  rfl

theorem read_zero_cons (input : List UInt8) :
    (f.either g).read (0 :: input) = f.read input >>= fun p => .ok (.inl p.1, p.2) := rfl

theorem read_one_cons (input : List UInt8) :
    (f.either g).read (1 :: input) = g.read input >>= fun p => .ok (.inr p.1, p.2) := rfl

theorem cases_of_read_either {x : α ⊕ β} (h : (f.either g).read input = .ok (x, rest)) :
    ∃ middle,
      (∃ a, x = .inl a ∧ Varint.read Varint.word32 input = .ok (0, middle) ∧ f.read middle = .ok (a, rest)) ∨
      ∃ b, x = .inr b ∧ Varint.read Varint.word32 input = .ok (1, middle) ∧ g.read middle = .ok (b, rest) := by
  obtain ⟨⟨index, middle⟩, hindex, hrest⟩ := bind_eq_ok.mp h
  refine ⟨middle, ?_⟩
  rcases index with _ | _ | index
  · obtain ⟨⟨a, last⟩, ha, hx⟩ := bind_eq_ok.mp hrest
    cases hx
    exact Or.inl ⟨a, rfl, hindex, ha⟩
  · obtain ⟨⟨b, last⟩, hb, hx⟩ := bind_eq_ok.mp hrest
    cases hx
    exact Or.inr ⟨b, rfl, hindex, hb⟩
  · cases hrest

theorem length_of_read_word {w : Varint.Width} {n : Nat} (hgroups : 0 < w.groups)
    (h : Varint.read w input = .ok (n, rest)) :
    n < w.bound ∧ (Varint.write n).length + rest.length ≤ input.length := by
  obtain ⟨groups, hw⟩ := Nat.exists_eq_add_one.mpr hgroups
  rw [Varint.read, hw] at h
  have hbound := Varint.bound_of_readGroups h
  rw [Varint.Width.bound, hw]
  exact hbound

theorem lawfulOn_varint {w : Varint.Width} (hgroups : 0 < w.groups) (hlast : w.last < 128) :
    (varint w).LawfulOn (· < w.bound) := by
  obtain ⟨groups, hw⟩ := Nat.exists_eq_add_one.mpr hgroups
  constructor
  · intro n hn rest
    rw [Varint.Width.bound, hw] at hn
    simp only [varint, Varint.read, hw]
    exact Varint.readGroups_write hlast hn rest
  · intro n hn k hk
    rw [Varint.Width.bound, hw] at hn
    simp only [varint, Varint.read, hw]
    exact Varint.readGroups_take_write hlast hn hk
  · intro input rest n h
    exact (length_of_read_word hgroups h).1
  · intro input rest n h
    exact (length_of_read_word hgroups h).2

theorem lawful_either (hf : f.Lawful) (hg : g.Lawful) : (f.either g).Lawful where
  readsBack x _ := by
    cases x with
    | inl a => exact readsBack_inl g (hf.readsBack a trivial)
    | inr b => exact readsBack_inr f (hg.readsBack b trivial)
  cutShort x _ k hk := by
    -- The number of the choice is one byte, so what is missing besides it is the end of the chosen part.
    cases x with
    | inl a =>
      rw [write_inl, List.length_cons] at hk
      rw [write_inl]
      cases k with
      | zero => rfl
      | succ k =>
        have hcut := hf.cutShort a trivial k (Nat.lt_of_succ_lt_succ hk)
        rw [List.take_succ_cons, read_zero_cons, hcut]
        rfl
    | inr b =>
      rw [write_inr, List.length_cons] at hk
      rw [write_inr]
      cases k with
      | zero => rfl
      | succ k =>
        have hcut := hg.cutShort b trivial k (Nat.lt_of_succ_lt_succ hk)
        rw [List.take_succ_cons, read_one_cons, hcut]
        rfl
  valid_of_read _ := trivial
  length_of_read h := by
    obtain ⟨middle, ⟨a, rfl, hindex, ha⟩ | ⟨b, rfl, hindex, hb⟩⟩ := cases_of_read_either h
    · have hfirst := (length_of_read_word (by decide) hindex).2
      have hsecond := hf.length_of_read ha
      simp only [either, List.length_append]
      omega
    · have hfirst := (length_of_read_word (by decide) hindex).2
      have hsecond := hg.length_of_read hb
      simp only [either, List.length_append]
      omega

end Combinators

section Basic

theorem lawful_unit : unit.Lawful where
  readsBack _ _ _ := rfl
  cutShort _ _ _ hk := absurd hk (Nat.not_lt_zero _)
  valid_of_read _ := trivial
  length_of_read h := by
    cases h
    exact Nat.le_of_eq (Nat.zero_add _)

theorem lawful_byte : byte.Lawful where
  readsBack _ _ _ := rfl
  cutShort b _ k hk := by
    obtain rfl : k = 0 := Nat.lt_one_iff.mp hk
    rfl
  valid_of_read _ := trivial
  length_of_read {input} _ _ h := by
    cases input with
    | nil => cases h
    | cons b tail =>
      cases h
      exact Nat.le_of_eq (Nat.add_comm _ _)

theorem lawful_bool : bool.Lawful where
  readsBack b _ := readsBack_bool b
  cutShort b _ k hk := by
    obtain rfl : k = 0 := Nat.lt_one_iff.mp hk
    rfl
  valid_of_read _ := trivial
  length_of_read {input} _ _ h := by
    cases input with
    | nil => cases h
    | cons b tail =>
      simp only [bool] at h
      split at h
      next =>
        cases h
        exact Nat.le_of_eq (Nat.add_comm _ _)
      next =>
        split at h
        next =>
          cases h
          exact Nat.le_of_eq (Nat.add_comm _ _)
        next => cases h

theorem lawful_uint16 : uint16.Lawful := by
  apply lawful_map (lawfulOn_varint (w := Varint.word16) (by decide) (by decide))
  · exact UInt16.toNat_lt
  · exact fun x => UInt16.ofNat_toNat
  · exact fun n hn => UInt16.toNat_ofNat_of_lt' hn

theorem lawful_uint32 : uint32.Lawful := by
  apply lawful_map (lawfulOn_varint (w := Varint.word32) (by decide) (by decide))
  · exact UInt32.toNat_lt
  · exact fun x => UInt32.ofNat_toNat
  · exact fun n hn => UInt32.toNat_ofNat_of_lt' hn

theorem lawful_uint64 : uint64.Lawful := by
  apply lawful_map (lawfulOn_varint (w := Varint.word64) (by decide) (by decide))
  · exact UInt64.toNat_lt
  · exact fun x => UInt64.ofNat_toNat
  · exact fun n hn => UInt64.toNat_ofNat_of_lt' hn

theorem lawful_single : single.Lawful := by
  apply lawful_map (lawful_both lawful_byte (lawful_both lawful_byte (lawful_both lawful_byte lawful_byte)))
  · exact fun _ => trivial
  · intro x
    have hbits := x.bits.toNat_lt
    apply congrArg Single.mk
    apply UInt32.toNat_inj.mp
    simp only [UInt32.toNat_ofNat', UInt8.toNat_ofNat']
    omega
  · rintro ⟨a, b, c, d⟩ _
    have ha := a.toNat_lt
    have hb := b.toNat_lt
    have hc := c.toNat_lt
    have hd := d.toNat_lt
    simp only [Prod.mk.injEq, ← UInt8.toNat_inj, UInt32.toNat_ofNat', UInt8.toNat_ofNat']
    omega

theorem zigzag_unzigzag (n : Nat) : zigzag (unzigzag n) = n := by
  unfold zigzag unzigzag
  by_cases heven : n % 2 = 0
  · rw [if_pos heven, if_pos (by omega)]
    omega
  · rw [if_neg heven, if_neg (by omega)]
    omega

theorem lawful_fixed : fixed.Lawful := by
  apply lawful_map (lawfulOn_varint (w := Varint.word32) (by decide) (by decide))
  · exact zigzag_raw_lt
  · exact wrap_unzigzag_zigzag
  · intro n hn
    have hbound : n < 4294967296 := hn
    have hraw : (Fixed.wrap (unzigzag n)).raw = unzigzag n := by
      unfold unzigzag
      split <;> apply Fixed.raw_wrap <;> omega
    rw [hraw, zigzag_unzigzag]

end Basic

end Format

end ControlLoop.Wire
