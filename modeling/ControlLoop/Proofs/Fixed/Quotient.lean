import ControlLoop.Proofs.Fixed.Whole

/-!
# Quotients multiplied back

A quotient times its divisor is the dividend less the remainder of the division, and the product rounds down to whole
units. The remainder has the sign of the dividend. So a dividend that is not negative comes back from below, and a
negative one from above; it comes back unchanged where the remainder is less than a unit.
-/

namespace ControlLoop.Fixed

set_option autoImplicit false

variable {a b q : Fixed}

/-- What the division of `a` by `b` leaves over. One raw unit of the dividend has `65536` of its units. -/
def remainder (a b : Fixed) : Int := (a.raw * 65536).tmod b.raw

theorem div_eq_error_iff {fault : Fault} : div a b = .error fault ↔ b.raw = 0 ∧ fault = .divideByZero := by
  unfold div
  constructor
  · intro h
    split at h
    · next hzero => exact ⟨hzero, (Except.error.inj h).symm⟩
    · cases h
  · rintro ⟨hzero, rfl⟩
    exact if_pos hzero

theorem div_eq_ok (divisor : b.raw ≠ 0) (fits : Word.Holds .bits32 ((a.raw * 65536).tdiv b.raw)) :
    ∃ q, div a b = .ok q ∧ q.raw = (a.raw * 65536).tdiv b.raw := by
  obtain ⟨hlower, hupper⟩ := Word.holds_bits32.mp fits
  exact ⟨_, if_neg divisor, raw_wrap hlower hupper⟩

theorem natAbs_remainder_lt (a : Fixed) (divisor : b.raw ≠ 0) : (remainder a b).natAbs < b.raw.natAbs := by
  unfold remainder
  rw [Int.natAbs_tmod]
  exact Nat.mod_lt _ (Int.natAbs_pos.mpr divisor)

theorem remainder_nonneg (b : Fixed) (h : 0 ≤ a.raw) : 0 ≤ remainder a b := by
  apply Int.tmod_nonneg
  omega

theorem remainder_nonpos (b : Fixed) (h : a.raw ≤ 0) : remainder a b ≤ 0 := by
  have hneg : 0 ≤ (-(a.raw * 65536)).tmod b.raw := by
    apply Int.tmod_nonneg
    omega
  rw [Int.neg_tmod] at hneg
  exact Int.neg_nonneg.mp hneg

/-- The product is in range because the dividend was, so it is rounded but never wrapped. -/
theorem raw_mul_quotient (divisor : b.raw ≠ 0) (hq : q.raw = (a.raw * 65536).tdiv b.raw) :
    (mul q b).raw = a.raw + -remainder a b / 65536 := by
  have hproduct : q.raw * b.raw = -remainder a b + a.raw * 65536 := by
    rw [hq, Int.tdiv_mul_self, remainder]
    omega
  have hdown : q.raw * b.raw / 65536 = a.raw + -remainder a b / 65536 := by
    rw [hproduct, Int.add_mul_ediv_right _ _ (by decide), Int.add_comm]
  have hsmall := natAbs_remainder_lt a divisor
  have hlower := a.lower
  have hupper := a.upper
  have hlower' := b.lower
  have hupper' := b.upper
  rw [← hdown]
  -- The remainder takes the product towards zero, and by 32768 units at most, so it cannot pass an end of the range.
  apply raw_wrap <;> rw [hdown]
  · rcases Int.le_total 0 a.raw with hnonneg | hnonpos
    · omega
    · have hsign := remainder_nonpos b hnonpos
      omega
  · rcases Int.le_total 0 a.raw with hnonneg | hnonpos
    · have hsign := remainder_nonneg b hnonneg
      omega
    · omega

theorem mul_quotient_of_nonneg (divisor : b.raw ≠ 0) (hq : q.raw = (a.raw * 65536).tdiv b.raw) (h : 0 ≤ a.raw) :
    a.raw - ⌈((|b.raw| - 1 : Int) : ℚ) / 65536⌉ ≤ (mul q b).raw ∧ (mul q b).raw ≤ a.raw := by
  have hsign := remainder_nonneg b h
  have hsmall := natAbs_remainder_lt a divisor
  rw [ceil_div_unit, Int.abs_eq_natAbs, raw_mul_quotient divisor hq]
  omega

theorem mul_quotient_of_neg (divisor : b.raw ≠ 0) (hq : q.raw = (a.raw * 65536).tdiv b.raw) (h : a.raw < 0) :
    a.raw ≤ (mul q b).raw ∧ (mul q b).raw ≤ a.raw + ⌊((|b.raw| - 1 : Int) : ℚ) / 65536⌋ := by
  have hsign := remainder_nonpos b (Int.le_of_lt h)
  have hsmall := natAbs_remainder_lt a divisor
  rw [floor_div_unit, Int.abs_eq_natAbs, raw_mul_quotient divisor hq]
  omega

/-- By a divisor of one at most the remainder is less than a unit. -/
theorem mul_quotient_of_small (divisor : b.raw ≠ 0) (hq : q.raw = (a.raw * 65536).tdiv b.raw)
    (small : |b.raw| ≤ 65536) : (a.raw < 0 → mul q b = a) ∧ (0 ≤ a.raw → a.raw - 1 ≤ (mul q b).raw) := by
  have hback := raw_mul_quotient divisor hq
  have hless := natAbs_remainder_lt a divisor
  rw [Int.abs_eq_natAbs] at small
  constructor
  · intro hneg
    have hsign := remainder_nonpos b (Int.le_of_lt hneg)
    apply Fixed.ext
    omega
  · intro hnonneg
    have hsign := remainder_nonneg b hnonneg
    omega

/-- Only a divisor of zero has no quotient. A quotient that fits its word, multiplied back, returns to the dividend from
the side of zero: the loss is what the remainder can make in whole units, rounded up for a dividend that is not negative
and rounded down for a negative one. -/
theorem quotient_multiplied_back (a b : Fixed) :
    (∀ fault, div a b = .error fault ↔ b.raw = 0 ∧ fault = .divideByZero) ∧
    (b.raw ≠ 0 → Word.Holds .bits32 ((a.raw * 65536).tdiv b.raw) → ∃ q, div a b = .ok q ∧
      (0 ≤ a.raw → a.raw - ⌈((|b.raw| - 1 : Int) : ℚ) / 65536⌉ ≤ (mul q b).raw ∧ (mul q b).raw ≤ a.raw) ∧
      (a.raw < 0 → a.raw ≤ (mul q b).raw ∧ (mul q b).raw ≤ a.raw + ⌊((|b.raw| - 1 : Int) : ℚ) / 65536⌋) ∧
      (|b.raw| ≤ 65536 → (a.raw < 0 → mul q b = a) ∧ (0 ≤ a.raw → a.raw - 1 ≤ (mul q b).raw))) := by
  refine ⟨fun fault => div_eq_error_iff, ?_⟩
  intro hdivisor hfits
  obtain ⟨q, hdiv, hq⟩ := div_eq_ok hdivisor hfits
  refine ⟨q, hdiv, ?_, ?_, ?_⟩
  · exact mul_quotient_of_nonneg hdivisor hq
  · exact mul_quotient_of_neg hdivisor hq
  · exact mul_quotient_of_small hdivisor hq

/-- Two units are lost on either side of zero, none by a small divisor, and the quotient that does not fit is no fault. -/
theorem quotient_multiplied_back_on_both_sides :
    ((wrap (-131073)).raw ≠ 0 ∧ Word.Holds .bits32 (((wrap 131075).raw * 65536).tdiv (wrap (-131073)).raw) ∧
      ∃ q, div (wrap 131075) (wrap (-131073)) = .ok q ∧ 131073 ≤ (mul q (wrap (-131073))).raw) ∧
    (Word.Holds .bits32 (((wrap (-131075)).raw * 65536).tdiv (wrap (-131073)).raw) ∧
      ∃ q, div (wrap (-131075)) (wrap (-131073)) = .ok q ∧ (mul q (wrap (-131073))).raw ≤ -131073) ∧
    ((wrap 3).raw ≠ 0 ∧ Word.Holds .bits32 (((wrap (-1)).raw * 65536).tdiv (wrap 3).raw) ∧ |(wrap 3).raw| ≤ 65536 ∧
      ∃ q, div (wrap (-1)) (wrap 3) = .ok q ∧ mul q (wrap 3) = wrap (-1)) ∧
    ∀ fault, div (wrap (-2147483648)) (wrap (-1)) ≠ .error fault := by
  have hdivisor : (wrap (-131073)).raw ≠ 0 := by decide
  have hfits : Word.Holds .bits32 (((wrap 131075).raw * 65536).tdiv (wrap (-131073)).raw) := by decide
  have hfits' : Word.Holds .bits32 (((wrap (-131075)).raw * 65536).tdiv (wrap (-131073)).raw) := by decide
  have hfits'' : Word.Holds .bits32 (((wrap (-1)).raw * 65536).tdiv (wrap 3).raw) := by decide
  obtain ⟨q, hq, hbelow, _, _⟩ := (quotient_multiplied_back (wrap 131075) (wrap (-131073))).2 hdivisor hfits
  obtain ⟨q', hq', _, habove, _⟩ := (quotient_multiplied_back (wrap (-131075)) (wrap (-131073))).2 hdivisor hfits'
  obtain ⟨q'', hq'', _, _, hsmall⟩ := (quotient_multiplied_back (wrap (-1)) (wrap 3)).2 (by decide) hfits''
  obtain ⟨hfault, _⟩ := quotient_multiplied_back (wrap (-2147483648)) (wrap (-1))
  refine ⟨⟨hdivisor, hfits, q, hq, ?_⟩, ⟨hfits', q', hq', ?_⟩, ⟨by decide, hfits'', by decide, q'', hq'', ?_⟩, ?_⟩
  · have hloss := (hbelow (by decide)).1
    rw [ceil_div_unit] at hloss
    exact hloss
  · have hloss := (habove (by decide)).2
    rw [floor_div_unit] at hloss
    exact hloss
  · exact (hsmall (by decide)).1 (by decide)
  · intro fault h
    exact absurd ((hfault fault).mp h).1 (by decide)

end ControlLoop.Fixed
