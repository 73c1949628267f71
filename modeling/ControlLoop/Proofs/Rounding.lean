import ControlLoop.Word
import Mathlib.Tactic.Ring

/-!
# The nearest integer

Rounding to the nearest integer, a half to the even one, goes up or down by no more than a half. It leaves whole numbers
alone and keeps the order, and it depends on the quotient only.
-/

namespace ControlLoop.Rounding

set_option autoImplicit false

variable {num num' : Int} {den : Nat}

/-- The quotient goes down if the rest is a half at most, and up if it is a half at least. -/
theorem toEven_cases (num : Int) (den : Nat) :
    (toEven num den = num / den ∧ 2 * (num % den) ≤ den) ∨
      (toEven num den = num / den + 1 ∧ den ≤ 2 * (num % den)) := by
  simp only [toEven]
  split
  · omega
  · split <;> omega

theorem toEven_near (num : Int) (positive : 0 < den) :
    2 * (toEven num den * den) ≤ 2 * num + den ∧ 2 * num ≤ 2 * (toEven num den * den) + den := by
  have hdivided : num / den * den + num % den = num := Int.ediv_mul_add_emod num den
  have hrest : 0 ≤ num % den := Int.emod_nonneg num (by omega)
  have hrest' : num % den < den := Int.emod_lt_of_pos num (by omega)
  rcases toEven_cases num den with ⟨heq, hhalf⟩ | ⟨heq, hhalf⟩
  · rw [heq]
    omega
  · rw [heq, Int.add_mul, Int.one_mul]
    omega

theorem toEven_mul_self (n : Int) (positive : 0 < den) : toEven (n * den) den = n := by
  have hrest : n * den % den = 0 := Int.mul_emod_left n den
  have hquotient : n * den / den = n := Int.mul_ediv_cancel n (by omega)
  rcases toEven_cases (n * den) den with ⟨heq, _⟩ | ⟨_, hhalf⟩
  · rw [heq, hquotient]
  · omega

theorem toEven_one (n : Int) : toEven n 1 = n := by
  have hself : toEven (n * (1 : Nat)) 1 = n := toEven_mul_self n Nat.one_pos
  rwa [Int.natCast_one, Int.mul_one] at hself

theorem toEven_mono (positive : 0 < den) (h : num ≤ num') : toEven num den ≤ toEven num' den := by
  have hquotient : num / den ≤ num' / den := Int.ediv_le_ediv (by omega) h
  rcases toEven_cases num den with ⟨hdown, _⟩ | ⟨hup, hhalf⟩
  · rcases toEven_cases num' den with ⟨hdown', _⟩ | ⟨hup', _⟩ <;> omega
  · rcases toEven_cases num' den with ⟨hdown', hhalf'⟩ | ⟨hup', _⟩
    · -- The smaller one goes up alone, so if it has the same quotient it has the same rest, and is the same number.
      rcases Int.lt_or_eq_of_le hquotient with hlt | heq
      · omega
      · have hdivided : num / den * den + num % den = num := Int.ediv_mul_add_emod num den
        have hdivided' : num' / den * den + num' % den = num' := Int.ediv_mul_add_emod num' den
        rw [← heq] at hdivided'
        have hsame : num = num' := by omega
        rw [hsame]
    · omega

theorem toEven_between {lo hi : Int} (positive : 0 < den) (hlower : lo * den ≤ num) (hupper : num ≤ hi * den) :
    lo ≤ toEven num den ∧ toEven num den ≤ hi := by
  have hleft := toEven_mono positive hlower
  have hright := toEven_mono positive hupper
  rw [toEven_mul_self _ positive] at hleft hright
  exact ⟨hleft, hright⟩

theorem toEven_mul_mul (num : Int) (den : Nat) {factor : Nat} (positive : 0 < factor) :
    toEven (num * factor) (den * factor) = toEven num den := by
  have hfactor : (0 : Int) < factor := by omega
  have hquotient : num * factor / (den * factor) = num / den := Int.mul_ediv_mul_of_pos_left num den hfactor
  have hrest : num * factor % (den * factor) = num % den * factor := by
    rw [Int.mul_comm num, Int.mul_comm (den : Int), Int.mul_emod_mul_of_pos _ _ hfactor, Int.mul_comm]
  have hdouble : 2 * (num % den * factor) = 2 * (num % den) * factor := by ring
  have hbelow : 2 * (num % den) * factor < den * factor ↔ 2 * (num % den) < den := Int.mul_lt_mul_right hfactor
  have habove : den * factor < 2 * (num % den) * factor ↔ (den : Int) < 2 * (num % den) :=
    Int.mul_lt_mul_right hfactor
  simp only [toEven, Int.natCast_mul, hquotient, hrest, hdouble, hbelow, habove]

end ControlLoop.Rounding
