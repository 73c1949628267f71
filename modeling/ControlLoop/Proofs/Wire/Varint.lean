import ControlLoop.Wire.Bytes
import Mathlib.Algebra.Group.Nat.Defs

/-!
# Reading integers of variable length

A number below the bound of a width takes at most as many groups as the width has, and the reader of that width takes
it back from the front of any input. If a group is missing, the reader comes to the end of the input. What a reader
accepts is below the bound, and padding apart it is what the number is written as.
-/

namespace ControlLoop.Wire.Varint

set_option autoImplicit false

theorem write_of_lt {n : Nat} (h : n < 128) : write n = [UInt8.ofNat n] := by
  rw [write, if_pos h]

theorem write_of_le {n : Nat} (h : 128 ≤ n) : write n = UInt8.ofNat (n % 128 + 128) :: write (n / 128) := by
  rw [write, if_neg (by omega)]

theorem toNat_last {n : Nat} (h : n < 128) : (UInt8.ofNat n).toNat = n := by
  rw [UInt8.toNat_ofNat']
  omega

theorem toNat_group (n : Nat) : (UInt8.ofNat (n % 128 + 128)).toNat = n % 128 + 128 := by
  rw [UInt8.toNat_ofNat']
  omega

theorem div_lt_bound {last groups n : Nat} (h : n < (last + 1) * 128 ^ (groups + 1)) :
    n / 128 < (last + 1) * 128 ^ groups := by
  rw [Nat.pow_succ, ← Nat.mul_assoc] at h
  exact Nat.div_lt_of_lt_mul (by rwa [Nat.mul_comm])

theorem length_write_le {last groups n : Nat} (hlast : last < 128) (h : n < (last + 1) * 128 ^ groups) :
    (write n).length ≤ groups + 1 := by
  induction groups generalizing n with
  | zero =>
    rw [write_of_lt (by omega)]
    exact Nat.le_refl 1
  | succ groups ih =>
    by_cases hsmall : n < 128
    · rw [write_of_lt hsmall]
      exact Nat.succ_le_succ (Nat.zero_le _)
    · rw [write_of_le (by omega), List.length_cons]
      have hrest := ih (div_lt_bound h)
      omega

theorem readGroups_write {last groups n : Nat} (hlast : last < 128) (h : n < (last + 1) * 128 ^ groups)
    (rest : List UInt8) : readGroups last (groups + 1) (write n ++ rest) = .ok (n, rest) := by
  induction groups generalizing n with
  | zero =>
    have hn : n ≤ last := by omega
    rw [write_of_lt (by omega), List.singleton_append, readGroups, toNat_last (by omega), if_pos (by omega),
      if_neg (by omega)]
  | succ groups ih =>
    by_cases hsmall : n < 128
    · rw [write_of_lt hsmall, List.singleton_append, readGroups, toNat_last hsmall, if_pos hsmall, if_neg (by omega)]
    · have hrest := ih (div_lt_bound h)
      have hsum : n % 128 + 128 - 128 + 128 * (n / 128) = n := by omega
      rw [write_of_le (by omega), List.cons_append, readGroups, toNat_group, if_neg (by omega), hrest]
      simp only [bind, Except.bind, pure, Except.pure, hsum]

theorem readGroups_take_write {last groups n k : Nat} (hlast : last < 128) (h : n < (last + 1) * 128 ^ groups)
    (hk : k < (write n).length) : readGroups last (groups + 1) ((write n).take k) = .error .unexpectedEnd := by
  induction groups generalizing n k with
  | zero =>
    rw [write_of_lt (by omega), List.length_singleton] at hk
    obtain rfl : k = 0 := by omega
    rfl
  | succ groups ih =>
    cases k with
    | zero => rfl
    | succ k =>
      by_cases hsmall : n < 128
      · rw [write_of_lt hsmall, List.length_singleton] at hk
        omega
      · have hgroups : 128 ≤ n := by omega
        rw [write_of_le hgroups, List.length_cons] at hk
        have hrest := ih (div_lt_bound h) (by omega : k < (write (n / 128)).length)
        rw [write_of_le hgroups, List.take_succ_cons, readGroups, toNat_group, if_neg (by omega), hrest]
        rfl

theorem length_write_group_le {low : Nat} (n : Nat) (hlow : low < 128) :
    (write (low + 128 * n)).length ≤ (write n).length + 1 := by
  by_cases hsmall : low + 128 * n < 128
  · rw [write_of_lt hsmall, List.length_singleton]
    exact Nat.le_add_left _ _
  · have hquotient : (low + 128 * n) / 128 = n := by omega
    apply Nat.le_of_eq
    rw [write_of_le (by omega), hquotient, List.length_cons]

/-- What a reader can accept: a last group, or a group and then a number in the groups after it. -/
theorem readGroups_cases {last groups n : Nat} {input rest : List UInt8}
    (h : readGroups last (groups + 1) input = .ok (n, rest)) :
    ∃ b tail, input = b :: tail ∧
      ((b.toNat < 128 ∧ (groups = 0 → b.toNat ≤ last) ∧ n = b.toNat ∧ rest = tail) ∨
        ∃ m, readGroups last groups tail = .ok (m, rest) ∧ n = b.toNat - 128 + 128 * m) := by
  cases input with
  | nil => cases h
  | cons b tail =>
    refine ⟨b, tail, rfl, ?_⟩
    rw [readGroups] at h
    split at h
    next hsmall =>
      split at h
      next => cases h
      next hlast =>
        cases h
        exact Or.inl ⟨hsmall, fun hzero => Nat.le_of_not_lt fun hlt => hlast ⟨hzero, hlt⟩, rfl, rfl⟩
    next =>
      cases hread : readGroups last groups tail with
      | error e =>
        rw [hread] at h
        cases h
      | ok pair =>
        rw [hread] at h
        cases h
        exact Or.inr ⟨pair.1, rfl, rfl⟩

theorem bound_of_readGroups {last groups n : Nat} {input rest : List UInt8}
    (h : readGroups last (groups + 1) input = .ok (n, rest)) :
    n < (last + 1) * 128 ^ groups ∧ (write n).length + rest.length ≤ input.length := by
  induction groups generalizing input n with
  | zero =>
    obtain ⟨b, tail, rfl, ⟨hsmall, hle, rfl, rfl⟩ | ⟨m, hread, rfl⟩⟩ := readGroups_cases h
    · have hlast := hle rfl
      rw [write_of_lt hsmall, List.length_singleton, List.length_cons]
      constructor <;> omega
    · cases hread
  | succ groups ih =>
    obtain ⟨b, tail, rfl, ⟨hsmall, _, rfl, rfl⟩ | ⟨m, hread, rfl⟩⟩ := readGroups_cases h
    · rw [write_of_lt hsmall, List.length_singleton, List.length_cons]
      have hpower : 1 ≤ (last + 1) * 128 ^ groups := Nat.mul_pos (Nat.succ_pos _) (Nat.pow_pos (by decide))
      rw [Nat.pow_succ, ← Nat.mul_assoc]
      constructor <;> omega
    · obtain ⟨hbound, hlength⟩ := ih hread
      have hbyte := b.toNat_lt
      have hwrite := length_write_group_le m (show b.toNat - 128 < 128 by omega)
      rw [Nat.pow_succ, ← Nat.mul_assoc, List.length_cons]
      constructor <;> omega

theorem read_write_word32 {n : Nat} (h : n < 4294967296) (rest : List UInt8) :
    read word32 (write n ++ rest) = .ok (n, rest) :=
  readGroups_write (by decide) h rest

theorem length_write_word32 {n : Nat} (h : n < 4294967296) : (write n).length ≤ 5 :=
  @length_write_le 15 4 n (by decide) h

end ControlLoop.Wire.Varint
