import ControlLoop.Proofs.Fixed.Whole
import Mathlib.Tactic.Ring

/-!
# What the coarse forms lose

A coarse product is the full product of the two numbers without their low eight bits, and a coarse quotient is the full
quotient by the divisor without them. For numbers that are not negative the coarse product is low by less than one
unit for each step of 256 in either factor.

The low bits of the divisor are taken off downwards. So a small divisor that is not negative becomes zero and is
refused, while a negative one becomes minus one step: it gives a quotient, unless that leaves the word.
-/

namespace ControlLoop

set_option autoImplicit false

/-- Only the least number by minus one has a quotient outside its word. -/
theorem Word.holds_tdiv {size : Size} {n d : Int} (h : Holds size n) (divisor : d ≠ 0)
    (beside : ¬ (n = -size.bound ∧ d = -1)) : Holds size (n.tdiv d) := by
  obtain ⟨hlower, hupper⟩ := h
  by_cases hone : d = 1
  · rw [hone, Int.tdiv_one]
    exact ⟨hlower, hupper⟩
  by_cases hminus : d = -1
  · rw [hminus, Int.tdiv_neg, Int.tdiv_one]
    constructor <;> omega
  · have hhalf : (n.tdiv d).natAbs ≤ n.natAbs / 2 := by
      rw [Int.natAbs_tdiv]
      exact Nat.div_le_div_left (by omega) (by decide)
    constructor <;> omega

namespace Fixed

variable {a b : Fixed}

/-- The number without its low eight bits. -/
def coarsen (x : Fixed) : Fixed where
  raw := x.raw / 256 * 256
  lower := by
    have hlower := x.lower
    omega
  upper := by
    have hupper := x.upper
    omega

theorem raw_coarsen (x : Fixed) : x.coarsen.raw = x.raw / 256 * 256 := rfl

theorem coarseMul_eq_mul_coarsen (a b : Fixed) : coarseMul a b = mul a.coarsen b.coarsen := by
  have hproduct : a.raw / 256 * 256 * (b.raw / 256 * 256) = a.raw / 256 * (b.raw / 256) * 65536 := by ring
  rw [mul, raw_coarsen, raw_coarsen, hproduct, Int.mul_ediv_cancel _ (by decide), coarseMul]

theorem coarse_product_bounds {m n : Int} (hm : 0 ≤ m) (hn : 0 ≤ n) :
    m / 256 * (n / 256) ≤ m * n / 65536 ∧ m * n / 65536 ≤ m / 256 * (n / 256) + m / 256 + n / 256 := by
  have hquotient : 0 ≤ m / 256 := Int.ediv_nonneg hm (by decide)
  have hquotient' : 0 ≤ n / 256 := Int.ediv_nonneg hn (by decide)
  have hrest : 0 ≤ m % 256 ∧ m % 256 ≤ 255 := by omega
  have hrest' : 0 ≤ n % 256 ∧ n % 256 ≤ 255 := by omega
  have hexpanded : m * n = m / 256 * (n / 256) * 65536 +
      (m / 256 * (n % 256) + m % 256 * (n / 256)) * 256 + m % 256 * (n % 256) := by
    conv_lhs => rw [← Int.ediv_mul_add_emod m 256, ← Int.ediv_mul_add_emod n 256]
    ring
  have hleft : 0 ≤ m / 256 * (n % 256) := Int.mul_nonneg hquotient hrest'.1
  have hleft' : m / 256 * (n % 256) ≤ m / 256 * 255 := Int.mul_le_mul_of_nonneg_left hrest'.2 hquotient
  have hright : 0 ≤ m % 256 * (n / 256) := Int.mul_nonneg hrest.1 hquotient'
  have hright' : m % 256 * (n / 256) ≤ 255 * (n / 256) := Int.mul_le_mul_of_nonneg_right hrest.2 hquotient'
  have hlow : 0 ≤ m % 256 * (n % 256) := Int.mul_nonneg hrest.1 hrest'.1
  have hlow' : m % 256 * (n % 256) ≤ 255 * 255 := Int.mul_le_mul hrest.2 hrest'.2 hrest'.1 (by decide)
  omega

theorem coarseMul_near (hleft : 0 ≤ a.raw) (hright : 0 ≤ b.raw) (fits : Word.Holds .bits32 (a.raw * b.raw / 65536)) :
    (coarseMul a b).raw ≤ (mul a b).raw ∧ (mul a b).raw ≤ (coarseMul a b).raw + a.raw / 256 + b.raw / 256 := by
  obtain ⟨hbelow, habove⟩ := coarse_product_bounds hleft hright
  have hnonneg : 0 ≤ a.raw / 256 * (b.raw / 256) :=
    Int.mul_nonneg (Int.ediv_nonneg hleft (by decide)) (Int.ediv_nonneg hright (by decide))
  rw [Word.holds_bits32] at fits
  have hfull : (mul a b).raw = a.raw * b.raw / 65536 := raw_wrap fits.1 fits.2
  have hcoarse : (coarseMul a b).raw = a.raw / 256 * (b.raw / 256) := raw_wrap (by omega) (by omega)
  rw [hfull, hcoarse]
  exact ⟨hbelow, habove⟩

theorem div_coarsen (a : Fixed) (divisor : b.raw / 256 ≠ 0) :
    div a b.coarsen = .ok (wrap ((a.raw * 256).tdiv (b.raw / 256))) := by
  have hdivisor : b.coarsen.raw ≠ 0 := by
    rw [raw_coarsen]
    omega
  have hdividend : a.raw * 65536 = a.raw * 256 * 256 := by ring
  rw [div, if_neg hdivisor, raw_coarsen, hdividend, Int.mul_tdiv_mul_of_pos_left _ _ (by decide)]

/-- A dividend between -128 and 128 keeps all its bits. -/
theorem coarseDiv_of_narrow (hlower : -8388608 ≤ a.raw) (hupper : a.raw < 8388608) (divisor : b.raw / 256 ≠ 0) :
    coarseDiv a b = if a.raw = -8388608 ∧ b.raw / 256 = -1 then .error (.overflow .divide)
      else .ok (wrap ((a.raw * 256).tdiv (b.raw / 256))) := by
  have hdividend : (wrap (a.raw * 256)).raw = a.raw * 256 := raw_wrap (by omega) (by omega)
  have hleast : a.raw * 256 = -2147483648 ↔ a.raw = -8388608 := by omega
  simp only [coarseDiv, hdividend, if_neg divisor, hleast]

/-- The coarse product is the product of the coarsened numbers, wrapped or not, and the coarse quotient is the quotient
by the coarsened divisor. Only the least dividend by the greatest negative divisor has no coarse quotient. -/
theorem coarse_forms_lose_low_bits (a b : Fixed) :
    coarseMul a b = mul a.coarsen b.coarsen ∧
    (0 ≤ a.raw → 0 ≤ b.raw → Word.Holds .bits32 (a.raw * b.raw / 65536) →
      (coarseMul a b).raw ≤ (mul a b).raw ∧ (mul a b).raw ≤ (coarseMul a b).raw + a.raw / 256 + b.raw / 256) ∧
    (-8388608 ≤ a.raw → a.raw < 8388608 → b.raw / 256 ≠ 0 →
      if a.raw = -8388608 ∧ -256 ≤ b.raw ∧ b.raw ≤ -1 then
        coarseDiv a b = .error (.overflow .divide) ∧ div a b.coarsen = .ok (wrap (-2147483648))
      else ∃ quotient, coarseDiv a b = .ok quotient ∧ div a b.coarsen = .ok quotient) := by
  refine ⟨coarseMul_eq_mul_coarsen a b, coarseMul_near, ?_⟩
  intro hlower hupper hdivisor
  rw [coarseDiv_of_narrow hlower hupper hdivisor, div_coarsen a hdivisor]
  by_cases hcorner : a.raw = -8388608 ∧ -256 ≤ b.raw ∧ b.raw ≤ -1
  · have hgreatest : b.raw / 256 = -1 := by omega
    rw [if_pos hcorner, if_pos ⟨hcorner.1, hgreatest⟩, hcorner.1, hgreatest]
    exact ⟨rfl, rfl⟩
  · have hbeside : ¬ (a.raw = -8388608 ∧ b.raw / 256 = -1) := by omega
    rw [if_neg hcorner, if_neg hbeside]
    exact ⟨_, rfl, rfl⟩

theorem coarse_forms_lose_low_bits_at_the_corner :
    (0 ≤ (wrap 11862271).raw ∧ Word.Holds .bits32 ((wrap 11862271).raw * (wrap 11862271).raw / 65536) ∧
      (mul (wrap 11862271) (wrap 11862271)).raw ≤ (coarseMul (wrap 11862271) (wrap 11862271)).raw + 92672) ∧
    (-8388608 ≤ (wrap (-8388608)).raw ∧ (wrap (-8388608)).raw < 8388608 ∧ (wrap (-1)).raw / 256 ≠ 0 ∧
      coarseDiv (wrap (-8388608)) (wrap (-1)) = .error (.overflow .divide)) ∧
    ∃ quotient, coarseDiv (wrap (-8388608)) (wrap (-257)) = .ok quotient ∧
      div (wrap (-8388608)) (wrap (-512)) = .ok quotient := by
  obtain ⟨_, hproduct, _⟩ := coarse_forms_lose_low_bits (wrap 11862271) (wrap 11862271)
  obtain ⟨_, _, hcorner⟩ := coarse_forms_lose_low_bits (wrap (-8388608)) (wrap (-1))
  obtain ⟨_, _, hbeside⟩ := coarse_forms_lose_low_bits (wrap (-8388608)) (wrap (-257))
  have hnonneg : 0 ≤ (wrap 11862271).raw := by decide
  have hfits : Word.Holds .bits32 ((wrap 11862271).raw * (wrap 11862271).raw / 65536) := by decide
  refine ⟨⟨hnonneg, hfits, (hproduct hnonneg hnonneg hfits).2⟩, ⟨by decide, by decide, by decide, ?_⟩, ?_⟩
  · exact (hcorner (by decide) (by decide) (by decide)).1
  · exact hbeside (by decide) (by decide) (by decide)

/-- The divisor is not negative and less than 1/256: without its low eight bits it is zero. -/
def Vanishes (b : Fixed) : Prop := 0 ≤ b.toRat ∧ b.toRat < 1 / 256

/-- The dividend is 128 modulo 256, the least of the 24 bits that it keeps, and the divisor is negative and -1/256 at
least: without its low eight bits it is minus one step. -/
def Outgrows (a b : Fixed) : Prop := a.raw % 16777216 = 8388608 ∧ -1 / 256 ≤ b.toRat ∧ b.toRat < 0

theorem vanishes_iff : b.Vanishes ↔ b.raw / 256 = 0 := by
  have hzero : (0 : ℚ) = (0 : Int) / 65536 := by norm_num
  have hstep : (1 / 256 : ℚ) = (256 : Int) / 65536 := by norm_num
  rw [Vanishes, hzero, hstep, le_toRat_iff, toRat_lt_iff]
  omega

theorem outgrows_iff : Outgrows a b ↔ (wrap (a.raw * 256)).raw = -2147483648 ∧ b.raw / 256 = -1 := by
  have hzero : (0 : ℚ) = (0 : Int) / 65536 := by norm_num
  have hstep : (-1 / 256 : ℚ) = (-256 : Int) / 65536 := by norm_num
  rw [Outgrows, hzero, hstep, le_toRat_iff, toRat_lt_iff]
  simp only [wrap]
  omega

theorem Vanishes.not_outgrows (h : b.Vanishes) : ¬ Outgrows a b := by
  rw [vanishes_iff] at h
  rw [outgrows_iff]
  omega

theorem coarseDiv_of_vanishes (h : b.Vanishes) : coarseDiv a b = .error .divideByZero := by
  unfold coarseDiv
  exact if_pos (vanishes_iff.mp h)

theorem coarseDiv_of_outgrows (h : Outgrows a b) : coarseDiv a b = .error (.overflow .divide) := by
  obtain ⟨hdividend, hdivisor⟩ := outgrows_iff.mp h
  have hnonzero : b.raw / 256 ≠ 0 := by omega
  simp only [coarseDiv, if_neg hnonzero]
  exact if_pos ⟨hdividend, hdivisor⟩

/-- The quotient is in range, so it is not wrapped. -/
theorem coarseDiv_of_fits (divisor : ¬ b.Vanishes) (beside : ¬ Outgrows a b) :
    ∃ q, coarseDiv a b = .ok q ∧ q.raw = (wrap (a.raw * 256)).raw.tdiv (b.raw / 256) := by
  rw [vanishes_iff] at divisor
  rw [outgrows_iff] at beside
  have hdividend : Word.Holds .bits32 (wrap (a.raw * 256)).raw := ⟨(wrap _).lower, (wrap _).upper⟩
  obtain ⟨hlower, hupper⟩ := Word.holds_tdiv hdividend divisor beside
  refine ⟨wrap ((wrap (a.raw * 256)).raw.tdiv (b.raw / 256)), ?_, raw_wrap hlower hupper⟩
  simp only [coarseDiv, if_neg divisor, if_neg beside]

theorem coarseDiv_cases (a b : Fixed) :
    (b.Vanishes ∧ ¬ Outgrows a b ∧ coarseDiv a b = .error .divideByZero) ∨
    (¬ b.Vanishes ∧ Outgrows a b ∧ coarseDiv a b = .error (.overflow .divide)) ∨
    (¬ b.Vanishes ∧ ¬ Outgrows a b ∧
      ∃ q, coarseDiv a b = .ok q ∧ q.raw = (wrap (a.raw * 256)).raw.tdiv (b.raw / 256)) := by
  by_cases hvanishes : b.Vanishes
  · exact Or.inl ⟨hvanishes, hvanishes.not_outgrows, coarseDiv_of_vanishes hvanishes⟩
  by_cases houtgrows : Outgrows a b
  · exact Or.inr (Or.inl ⟨hvanishes, houtgrows, coarseDiv_of_outgrows houtgrows⟩)
  · exact Or.inr (Or.inr ⟨hvanishes, houtgrows, coarseDiv_of_fits hvanishes houtgrows⟩)

theorem coarseDiv_fault_iff : (∃ fault, coarseDiv a b = .error fault) ↔ b.Vanishes ∨ Outgrows a b := by
  rcases coarseDiv_cases a b with ⟨hvanishes, _, h⟩ | ⟨_, houtgrows, h⟩ | ⟨hvanishes, houtgrows, q, h, _⟩
  · exact ⟨fun _ => Or.inl hvanishes, fun _ => ⟨_, h⟩⟩
  · exact ⟨fun _ => Or.inr houtgrows, fun _ => ⟨_, h⟩⟩
  · rw [h]
    simp [hvanishes, houtgrows]

/-- The size of the divisor decides away from the small negative divisors. -/
theorem coarseDiv_fault_iff_of_away (away : 0 ≤ b.toRat ∨ b.toRat < -1 / 256) :
    (∃ fault, coarseDiv a b = .error fault) ↔ |b.toRat| < 1 / 256 := by
  rw [coarseDiv_fault_iff, Vanishes, Outgrows, abs_lt]
  constructor
  · rintro (⟨hnonneg, hsmall⟩ | ⟨_, hleast, hneg⟩)
    · constructor <;> linarith
    · rcases away with hnonneg | hbelow <;> linarith
  · rintro ⟨hleast, hsmall⟩
    rcases away with hnonneg | hbelow
    · exact Or.inl ⟨hnonneg, hsmall⟩
    · linarith

/-- The coarse quotient is refused for a divisor that vanishes and for a quotient that outgrows its word, each with its
own fault, and in no other case. So the size of the divisor decides, unless the divisor is negative and -1/256 at
least. -/
theorem coarseDiv_outcomes (a b : Fixed) :
    (coarseDiv a b = .error .divideByZero ↔ b.Vanishes) ∧
    (coarseDiv a b = .error (.overflow .divide) ↔ Outgrows a b) ∧
    ((∃ q, coarseDiv a b = .ok q ∧ q.raw = (wrap (a.raw * 256)).raw.tdiv (b.raw / 256)) ↔
      ¬ b.Vanishes ∧ ¬ Outgrows a b) ∧
    (0 ≤ b.toRat ∨ b.toRat < -1 / 256 → ((∃ fault, coarseDiv a b = .error fault) ↔ |b.toRat| < 1 / 256)) := by
  rcases coarseDiv_cases a b with ⟨hvanishes, houtgrows, h⟩ | ⟨hvanishes, houtgrows, h⟩ |
    ⟨hvanishes, houtgrows, q, h, hraw⟩
  · refine ⟨?_, ?_, ?_, coarseDiv_fault_iff_of_away⟩ <;> simp [h, hvanishes, houtgrows]
  · refine ⟨?_, ?_, ?_, coarseDiv_fault_iff_of_away⟩ <;> simp [h, hvanishes, houtgrows]
  · refine ⟨?_, ?_, ?_, coarseDiv_fault_iff_of_away⟩ <;> simp [h, hvanishes, houtgrows, hraw]

/-- The greatest divisor that vanishes, and the next negative one beyond those that the size does not decide for. -/
theorem coarseDiv_outcomes_at_the_edges :
    (0 ≤ (wrap 255).toRat ∧ ∃ fault, coarseDiv (wrap 65536) (wrap 255) = .error fault) ∧
    ((wrap (-257)).toRat < -1 / 256 ∧ ¬ ∃ fault, coarseDiv (wrap (-8388608)) (wrap (-257)) = .error fault) := by
  have hright : (wrap 255).toRat = 255 / 65536 := rfl
  have hleft : (wrap (-257)).toRat = -257 / 65536 := rfl
  have hnonneg : 0 ≤ (wrap 255).toRat := by
    rw [hright]
    norm_num
  have hbelow : (wrap (-257)).toRat < -1 / 256 := by
    rw [hleft]
    norm_num
  obtain ⟨_, _, _, hrefused⟩ := coarseDiv_outcomes (wrap 65536) (wrap 255)
  obtain ⟨_, _, _, hallowed⟩ := coarseDiv_outcomes (wrap (-8388608)) (wrap (-257))
  refine ⟨⟨hnonneg, (hrefused (Or.inl hnonneg)).mpr ?_⟩, hbelow, ?_⟩
  · rw [hright, abs_lt]
    norm_num
  · rw [hallowed (Or.inr hbelow), hleft, abs_lt]
    norm_num

/-- The size of the divisor does not decide: a divisor of -1/65536 gives a quotient, and one of -1/256 is refused. -/
theorem not_refused_by_size :
    (¬ ∀ a b : Fixed, |b.toRat| < 1 / 256 → ∃ fault, coarseDiv a b = .error fault) ∧
    ¬ ∀ a b : Fixed, 1 / 256 ≤ |b.toRat| → ∃ q, coarseDiv a b = .ok q := by
  constructor
  · intro h
    have hsmall : |(wrap (-1)).toRat| < 1 / 256 := by
      have hraw : (wrap (-1)).raw = -1 := by decide
      rw [toRat, hraw, abs_lt]
      norm_num
    obtain ⟨fault, hfault⟩ := h (wrap 65536) (wrap (-1)) hsmall
    have hquotient : coarseDiv (wrap 65536) (wrap (-1)) = .ok (wrap (-16777216)) := by rfl
    rw [hquotient] at hfault
    cases hfault
  · intro h
    have hlarge : 1 / 256 ≤ |(wrap (-256)).toRat| := by
      have hraw : (wrap (-256)).raw = -256 := by decide
      rw [toRat, hraw, le_abs]
      norm_num
    obtain ⟨q, hq⟩ := h (wrap (-8388608)) (wrap (-256)) hlarge
    have hrefused : coarseDiv (wrap (-8388608)) (wrap (-256)) = .error (.overflow .divide) := by rfl
    rw [hrefused] at hq
    cases hq

end Fixed

end ControlLoop
