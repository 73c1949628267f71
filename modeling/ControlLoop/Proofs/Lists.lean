import Mathlib.Data.List.DropRight
import Mathlib.Data.List.Forall2

/-!
# Lists

What the proofs need of lists of any kind: a list that grows at its end, the cut at a separator, a list that is read
from a seam in its middle, and the last elements of a list.
-/

namespace ControlLoop.Lists

set_option autoImplicit false

variable {α : Type} {R : α → α → Prop} {l k : List α} {a : α} {n : Nat}

/-- An entry of a list that has grown is its newest one, or an entry of the list before that. -/
theorem concat_eq_append_cons {past before after : List α} {newest entry : α}
    (h : past ++ [newest] = before ++ entry :: after) :
    (past = before ∧ newest = entry ∧ after = []) ∨
      ∃ init, after = init ++ [newest] ∧ past = before ++ entry :: init := by
  rcases List.eq_nil_or_concat after with rfl | ⟨init, last, rfl⟩
  · obtain ⟨hpast, hnewest⟩ := List.append_inj' h rfl
    exact Or.inl ⟨hpast, List.head_eq_of_cons_eq hnewest, rfl⟩
  · rw [List.concat_eq_append, ← List.cons_append, ← List.append_assoc] at h
    obtain ⟨hpast, hnewest⟩ := List.append_inj' h rfl
    obtain rfl := List.head_eq_of_cons_eq hnewest
    exact Or.inr ⟨init, List.concat_eq_append, hpast⟩

theorem eraseDups_concat_of_mem [BEq α] [LawfulBEq α] (h : a ∈ l) : (l ++ [a]).eraseDups = l.eraseDups := by
  simp [List.eraseDups_append, List.removeAll, h]

theorem eraseDups_concat_of_not_mem [BEq α] [LawfulBEq α] (h : a ∉ l) :
    (l ++ [a]).eraseDups = l.eraseDups ++ [a] := by
  simp [List.eraseDups_append, List.eraseDups_cons, List.removeAll, h]

theorem count_le_of_tail_eq [BEq α] (a : α) (h : l.tail = k.tail) : l.count a ≤ k.count a + 1 := by
  have htail : l.tail.count a ≤ k.count a := by
    rw [h]
    exact (List.tail_sublist k).count_le a
  cases l with
  | nil => exact Nat.zero_le _
  | cons b rest =>
    rw [List.tail_cons] at htail
    rw [List.count_cons]
    split <;> omega

/-- Two ways to cut a list at the last separator are the same. -/
theorem append_cons_inj_of_not_mem {separator : α} {xs ys zs ws : List α} (hzs : separator ∉ zs)
    (hws : separator ∉ ws) (h : xs ++ separator :: zs = ys ++ separator :: ws) : xs = ys ∧ zs = ws := by
  rcases List.append_eq_append_iff.mp h with ⟨as, hys, hzs'⟩ | ⟨as, hxs, hws'⟩
  · cases as with
    | nil => exact ⟨(hys.trans (List.append_nil xs)).symm, List.tail_eq_of_cons_eq hzs'⟩
    | cons a as =>
      have hmem : separator ∈ zs := by
        rw [List.tail_eq_of_cons_eq hzs']
        exact List.mem_append_right as List.mem_cons_self
      exact absurd hmem hzs
  · cases as with
    | nil => exact ⟨hxs.trans (List.append_nil ys), (List.tail_eq_of_cons_eq hws').symm⟩
    | cons a as =>
      have hmem : separator ∈ ws := by
        rw [List.tail_eq_of_cons_eq hws']
        exact List.mem_append_right as List.mem_cons_self
      exact absurd hmem hws

/-- Writing at the seam and moving the seam on. -/
theorem rotate_set (l : List α) (i : Nat) (h : i < l.length) (x : α) :
    (l.set i x).drop (i + 1) ++ (l.set i x).take (i + 1) = (l.drop i ++ l.take i).tail ++ [x] := by
  have hset : l.set i x = l.take i ++ x :: l.drop (i + 1) := by
    rw [List.set_eq_take_append_cons_drop, if_pos h]
  have hlen : (l.take i).length = i := by rw [List.length_take]; omega
  have hdrop : l.drop i = l[i] :: l.drop (i + 1) := List.drop_eq_getElem_cons h
  have hone : i + 1 - i = 1 := by omega
  rw [hdrop, hset, List.drop_append, List.take_append, hlen, hone, List.drop_of_length_le (by omega),
    List.take_of_length_le (by omega)]
  simp only [List.nil_append, List.drop_succ_cons, List.drop_zero, List.take_succ_cons, List.take_zero,
    List.cons_append, List.tail_cons, List.append_assoc]

theorem rtake_concat_of_length (x : α) (positive : 0 < n) (hlength : (l.rtake n).length = n) :
    (l ++ [x]).rtake n = (l.rtake n).tail ++ [x] := by
  obtain ⟨k, rfl⟩ : ∃ k, n = k + 1 := ⟨n - 1, by omega⟩
  simp only [List.rtake, List.length_drop] at hlength
  rw [List.rtake_concat_succ, List.rtake, List.rtake, List.tail_drop]
  congr 2
  omega

theorem rtake_append_of_le (h : n ≤ k.length) : (l ++ k).rtake n = k.rtake n := by
  have hdrop : (l ++ k).length - n - l.length = k.length - n := by
    rw [List.length_append]
    omega
  have hshort : l.length ≤ (l ++ k).length - n := by
    rw [List.length_append]
    omega
  rw [List.rtake, List.drop_append, List.drop_of_length_le hshort, hdrop, List.nil_append, List.rtake]

theorem forall₂_rtake (h : List.Forall₂ R l k) (n : Nat) : List.Forall₂ R (l.rtake n) (k.rtake n) := by
  rw [List.rtake, List.rtake, h.length_eq]
  exact List.forall₂_drop _ h

theorem forall₂_replicate (h : ∀ b ∈ l, R a b) : List.Forall₂ R (List.replicate l.length a) l := by
  induction l with
  | nil => exact .nil
  | cons b rest ih => exact .cons (h b List.mem_cons_self) (ih fun c hc => h c (List.mem_cons_of_mem b hc))

end ControlLoop.Lists
