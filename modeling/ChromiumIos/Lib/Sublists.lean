import Mathlib.Algebra.GroupWithZero.Nat
import Mathlib.Data.List.Count
import Mathlib.Data.List.Nodup
import Mathlib.Algebra.BigOperators.Group.List.Basic

/-!
# Counting the members of a sublist

The elements of a list `l` that are in a sublist `s` of it, with what is in `l`
more than once counted as often.

- `countP_mem_eq_sum`: the count is a sum over `s`.
- `length_le_countP_mem`: it is no less than the length of `s`.
- `countP_mem_eq_length_iff`: it is the length of `s` if and only if `l` has each
  element of `s` once.
-/

namespace Lib

universe u

variable {α : Type u} [DecidableEq α] {s l : List α}

theorem sum_map_eq_count (s : List α) (b : α) :
    (s.map fun a => if b = a then 1 else 0).sum = s.count b := by
  induction s with
  | nil => rfl
  | cons a s ih =>
    rw [List.map_cons, List.sum_cons, ih, List.count_cons, Nat.add_comm]
    by_cases h : b = a
    · simp [h]
    · simp [h, Ne.symm h]

theorem countP_mem_eq_sum (hs : s.Nodup) (l : List α) :
    l.countP (· ∈ s) = (s.map fun a => l.count a).sum := by
  induction l with
  | nil => simp
  | cons b l ih =>
    have hone : (s.map fun a => if b = a then 1 else 0).sum = if b ∈ s then 1 else 0 := by
      rw [sum_map_eq_count]
      by_cases hb : b ∈ s
      · rw [if_pos hb, List.count_eq_one_of_mem hs hb]
      · rw [if_neg hb, List.count_eq_zero_of_not_mem hb]
    simp only [List.countP_cons, List.count_cons, beq_iff_eq, decide_eq_true_eq, List.sum_map_add,
      ih, hone]

omit [DecidableEq α] in
/-- Numbers that are positive add up to their number if and only if all are one. -/
theorem sum_eq_length_iff {f : α → Nat} (hf : ∀ a ∈ s, 1 ≤ f a) :
    s.length ≤ (s.map f).sum ∧ ((s.map f).sum = s.length ↔ ∀ a ∈ s, f a = 1) := by
  induction s with
  | nil => simp
  | cons a s ih =>
    obtain ⟨ha, hs⟩ := List.forall_mem_cons.1 hf
    obtain ⟨hle, hiff⟩ := ih hs
    rw [List.map_cons, List.sum_cons, List.length_cons, List.forall_mem_cons, ← hiff]
    constructor
    · omega
    · omega

theorem length_le_countP_mem (hs : s.Nodup) (hsub : s.Sublist l) :
    s.length ≤ l.countP (· ∈ s) := by
  rw [countP_mem_eq_sum hs]
  exact (sum_eq_length_iff fun a ha => List.count_pos_iff.2 (hsub.subset ha)).1

theorem countP_mem_eq_length_iff (hs : s.Nodup) (hsub : s.Sublist l) :
    l.countP (· ∈ s) = s.length ↔ ∀ a ∈ s, l.count a = 1 := by
  rw [countP_mem_eq_sum hs]
  exact (sum_eq_length_iff fun a ha => List.count_pos_iff.2 (hsub.subset ha)).2

end Lib
