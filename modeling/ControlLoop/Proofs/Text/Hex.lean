import ControlLoop.Text.Quoted
import Mathlib.Algebra.Ring.Nat

/-!
# Numerals in base sixteen

The digits of a number are lower case, read back as the number, and begin with a zero only if they are a single zero.
-/

namespace ControlLoop.Hex

set_option autoImplicit false

variable {n k : Nat} {digits : List Char}

/-- The digits by their values. -/
def alphabet : List Char := ['0', '1', '2', '3', '4', '5', '6', '7', '8', '9', 'a', 'b', 'c', 'd', 'e', 'f']

/-- The number that a list of digits stands for, the most significant digit first. -/
def value (digits : List Char) : Nat := digits.foldl (fun n c => 16 * n + alphabet.idxOf c) 0

/-- The one way to write `n` in base sixteen, in lower case and without leading zeros. -/
structure Numeral (n : Nat) (digits : List Char) : Prop where
  lowerCase : ∀ c ∈ digits, c ∈ alphabet
  value : value digits = n
  noLeadingZero : digits = ['0'] ∨ ∃ first rest, digits = first :: rest ∧ first ≠ '0'

theorem digitChar_mem_alphabet (h : n < 16) : Nat.digitChar n ∈ alphabet := by
  decide +revert

theorem idxOf_digitChar (h : n < 16) : alphabet.idxOf (Nat.digitChar n) = n := by
  decide +revert

theorem digitChar_ne_zero (h : n < 16) (hpos : 0 < n) : Nat.digitChar n ≠ '0' := by
  decide +revert

theorem digits_of_lt (h : n < 16) : Hex.digits n = [Nat.digitChar n] := by rw [Hex.digits, if_pos h]

theorem digits_of_le (h : 16 ≤ n) : Hex.digits n = Hex.digits (n / 16) ++ [Nat.digitChar (n % 16)] := by
  rw [Hex.digits, if_neg (Nat.not_lt_of_le h)]

theorem value_concat (digits : List Char) (c : Char) :
    value (digits ++ [c]) = 16 * value digits + alphabet.idxOf c := by
  rw [value, List.foldl_append, value]
  rfl

theorem numeral_digits (n : Nat) : Numeral n (Hex.digits n) := by
  induction n using Hex.digits.induct with
  | case1 n hlt =>
    rw [digits_of_lt hlt]
    refine ⟨?_, ?_, ?_⟩
    · intro c hc
      rw [List.mem_singleton.mp hc]
      exact digitChar_mem_alphabet hlt
    · rw [← List.nil_append [Nat.digitChar n], value_concat, idxOf_digitChar hlt]
      exact Nat.zero_add n
    · rcases Nat.eq_zero_or_pos n with rfl | hpos
      · exact Or.inl rfl
      · exact Or.inr ⟨_, [], rfl, digitChar_ne_zero hlt hpos⟩
  | case2 n hge ih =>
    have hrest : n % 16 < 16 := Nat.mod_lt n (by decide)
    rw [digits_of_le (Nat.le_of_not_lt hge)]
    refine ⟨?_, ?_, ?_⟩
    · intro c hc
      rcases List.mem_append.mp hc with hc | hc
      · exact ih.lowerCase c hc
      · rw [List.mem_singleton.mp hc]
        exact digitChar_mem_alphabet hrest
    · rw [value_concat, ih.value, idxOf_digitChar hrest, Nat.div_add_mod]
    · -- A number of two digits or more has more than zero sixteens.
      rcases ih.noLeadingZero with hzero | ⟨first, rest, hdigits, hfirst⟩
      · have hvalue := ih.value
        rw [hzero] at hvalue
        have hquotient : 0 = n / 16 := hvalue
        omega
      · exact Or.inr ⟨first, rest ++ [Nat.digitChar (n % 16)], by rw [hdigits, List.cons_append], hfirst⟩

theorem length_digits_le (hk : 0 < k) (h : n < 16 ^ k) : (Hex.digits n).length ≤ k := by
  induction k generalizing n with
  | zero => exact absurd hk (Nat.lt_irrefl 0)
  | succ k ih =>
    rcases Nat.lt_or_ge n 16 with hlt | hge
    · rw [digits_of_lt hlt]
      exact hk
    · rw [digits_of_le hge, List.length_append]
      rcases Nat.eq_zero_or_pos k with rfl | hpos
      · exact absurd h (Nat.not_lt_of_le hge)
      · rw [Nat.pow_succ] at h
        exact Nat.succ_le_succ (ih hpos (Nat.div_lt_of_lt_mul (Nat.mul_comm _ _ ▸ h)))

theorem Numeral.dash_not_mem (h : Numeral n digits) : '-' ∉ digits := by
  intro hdash
  exact absurd (h.lowerCase '-' hdash) (by decide)

theorem utf8Size_of_mem_alphabet {c : Char} (h : c ∈ alphabet) : c.utf8Size = 1 := by
  have hall : alphabet.all (fun c => c.utf8Size == 1) = true := rfl
  exact beq_iff_eq.mp (List.all_eq_true.mp hall c h)

theorem Numeral.size (h : Numeral n digits) : (String.ofList digits).utf8ByteSize = digits.length := by
  have hlower := h.lowerCase
  clear h
  induction digits with
  | nil => rfl
  | cons c rest ih =>
    have hc := utf8Size_of_mem_alphabet (hlower c List.mem_cons_self)
    rw [String.ofList_cons, String.utf8ByteSize_append, String.utf8ByteSize_singleton, hc,
      ih fun d hd => hlower d (List.mem_cons_of_mem c hd), List.length_cons, Nat.add_comm]

end ControlLoop.Hex
