import Mathlib.Data.List.Basic
import Mathlib.Order.Bounds.Basic
import Mathlib.Order.MinMax

/-!
# Levenshtein distance

How many insertions, deletions and substitutions of single items it takes to turn
one list into another.

- `Alignment`: how two lists correspond from left to right, with its cost.
- `levenshtein`: the distance by recursion on both lists.
- `levenshtein_isLeast`: it is the least cost of an alignment.
- `levenshtein_reverse`: the lists may be read from either end.
-/

namespace Lib

open List

universe u

variable {α : Type u}

/-- `xs` becomes `ys` by `n` insertions, deletions and substitutions. -/
inductive Alignment : List α → List α → Nat → Prop
  | nil : Alignment [] [] 0
  | keep (a : α) {xs ys : List α} {n : Nat} :
      Alignment xs ys n → Alignment (a :: xs) (a :: ys) n
  | substitute (a b : α) {xs ys : List α} {n : Nat} :
      Alignment xs ys n → Alignment (a :: xs) (b :: ys) (n + 1)
  | delete (a : α) {xs ys : List α} {n : Nat} :
      Alignment xs ys n → Alignment (a :: xs) ys (n + 1)
  | insert (b : α) {xs ys : List α} {n : Nat} :
      Alignment xs ys n → Alignment xs (b :: ys) (n + 1)

namespace Alignment

theorem symm {xs ys : List α} {n : Nat} (h : Alignment xs ys n) : Alignment ys xs n := by
  induction h with
  | nil => exact .nil
  | keep a _ ih => exact .keep a ih
  | substitute a b _ ih => exact .substitute b a ih
  | delete a _ ih => exact .insert a ih
  | insert b _ ih => exact .delete b ih

theorem append {xs ys xs' ys' : List α} {n n' : Nat} (h : Alignment xs ys n)
    (h' : Alignment xs' ys' n') : Alignment (xs ++ xs') (ys ++ ys') (n + n') := by
  induction h with
  | nil =>
    rw [Nat.zero_add]
    exact h'
  | keep a _ ih => exact .keep a ih
  | substitute a b _ ih =>
    rw [Nat.add_right_comm]
    exact .substitute a b ih
  | delete a _ ih =>
    rw [Nat.add_right_comm]
    exact .delete a ih
  | insert b _ ih =>
    rw [Nat.add_right_comm]
    exact .insert b ih

theorem reverse {xs ys : List α} {n : Nat} (h : Alignment xs ys n) :
    Alignment xs.reverse ys.reverse n := by
  induction h with
  | nil => exact .nil
  | keep a _ ih =>
    rw [reverse_cons, reverse_cons]
    exact ih.append (.keep a .nil)
  | substitute a b _ ih =>
    rw [reverse_cons, reverse_cons]
    exact ih.append (.substitute a b .nil)
  | @delete a xs ys n _ ih =>
    rw [reverse_cons, ← append_nil ys.reverse]
    exact ih.append (.delete a .nil)
  | @insert b xs ys n _ ih =>
    rw [reverse_cons, ← append_nil xs.reverse]
    exact ih.append (.insert b .nil)

/-- Without the first item the cost grows by at most one. -/
theorem tail_left {a : α} {xs ys : List α} {n : Nat} (h : Alignment (a :: xs) ys n) :
    ∃ m ≤ n + 1, Alignment xs ys m := by
  generalize hxs : a :: xs = xs' at h
  induction h with
  | nil => cases hxs
  | @keep b _ _ n h _ =>
    cases hxs
    exact ⟨n + 1, Nat.le_refl _, .insert a h⟩
  | @substitute _ b _ _ n h _ =>
    cases hxs
    exact ⟨n + 1, Nat.le_succ _, .insert b h⟩
  | @delete _ _ _ n h _ =>
    cases hxs
    exact ⟨n, by omega, h⟩
  | insert b _ ih =>
    obtain ⟨m, hm, h⟩ := ih hxs
    exact ⟨m + 1, by omega, .insert b h⟩

theorem tail_right {b : α} {xs ys : List α} {n : Nat} (h : Alignment xs (b :: ys) n) :
    ∃ m ≤ n + 1, Alignment xs ys m := by
  obtain ⟨m, hm, h'⟩ := h.symm.tail_left
  exact ⟨m, hm, h'.symm⟩

theorem deleteAll (xs : List α) : Alignment xs [] xs.length := by
  induction xs with
  | nil => exact .nil
  | cons a xs ih => exact .delete a ih

/-- Deletions alone make up for a difference in length. -/
theorem length_le {xs ys : List α} {n : Nat} (h : Alignment xs ys n) :
    xs.length ≤ ys.length + n := by
  induction h with
  | nil => exact Nat.le_refl 0
  | keep | substitute | delete | insert =>
    simp only [length_cons]
    omega

end Alignment

variable [DecidableEq α]

/-- The Levenshtein distance. -/
def levenshtein : List α → List α → Nat
  | [], ys => ys.length
  | x :: xs, [] => (x :: xs).length
  | x :: xs, y :: ys =>
    if x = y then levenshtein xs ys
    else
      1 + min (levenshtein xs (y :: ys)) (min (levenshtein (x :: xs) ys) (levenshtein xs ys))
termination_by xs ys => xs.length + ys.length

@[simp] theorem levenshtein_nil_left (ys : List α) : levenshtein [] ys = ys.length := by
  rw [levenshtein]

@[simp] theorem levenshtein_nil_right (xs : List α) : levenshtein xs [] = xs.length := by
  cases xs with
  | nil => rw [levenshtein]
  | cons x xs => rw [levenshtein]

theorem levenshtein_cons (x y : α) (xs ys : List α) :
    levenshtein (x :: xs) (y :: ys) =
      if x = y then levenshtein xs ys
      else
        1 + min (levenshtein xs (y :: ys))
          (min (levenshtein (x :: xs) ys) (levenshtein xs ys)) := by
  rw [levenshtein]

theorem alignment_levenshtein (xs ys : List α) : Alignment xs ys (levenshtein xs ys) := by
  induction xs, ys using levenshtein.induct with
  | case1 ys =>
    rw [levenshtein_nil_left]
    exact (Alignment.deleteAll ys).symm
  | case2 x xs =>
    rw [levenshtein_nil_right]
    exact .deleteAll _
  | case3 xs y ys ih =>
    rw [levenshtein_cons, if_pos rfl]
    exact .keep y ih
  | case4 x xs y ys hne ihDelete ihInsert ihSubstitute =>
    rw [levenshtein_cons, if_neg hne, Nat.add_comm]
    rcases min_choice (levenshtein xs (y :: ys))
      (min (levenshtein (x :: xs) ys) (levenshtein xs ys)) with h | h
    · rw [h]
      exact .delete x ihDelete
    · rw [h]
      rcases min_choice (levenshtein (x :: xs) ys) (levenshtein xs ys) with h' | h'
      · rw [h']
        exact .insert y ihInsert
      · rw [h']
        exact .substitute x y ihSubstitute

/-- The induction is on the length of both lists. Where two equal items are not
aligned with each other, leaving both out costs no more. -/
theorem levenshtein_le {xs ys : List α} {n : Nat} (h : Alignment xs ys n) :
    levenshtein xs ys ≤ n := by
  induction hsize : xs.length + ys.length using Nat.strong_induction_on generalizing xs ys n with
  | _ size ih =>
    subst hsize
    cases h with
    | nil => simp
    | @keep a xs ys n h =>
      rw [levenshtein_cons, if_pos rfl]
      exact ih _ (by simp only [length_cons]; omega) h rfl
    | @substitute a b xs ys n h =>
      have hle := ih _ (by simp only [length_cons]; omega) h rfl
      rw [levenshtein_cons]
      split
      · exact Nat.le_succ_of_le hle
      · omega
    | @delete a xs ys n h =>
      cases ys with
      | nil =>
        have hlength := h.length_le
        simp only [levenshtein_nil_right, length_cons, length_nil] at hlength ⊢
        omega
      | cons b ys =>
        rw [levenshtein_cons]
        split
        -- the heads are equal: the head of `ys` can be left out as well
        · obtain ⟨m, hm, h'⟩ := h.tail_right
          exact (ih _ (by simp only [length_cons]; omega) h' rfl).trans hm
        · have hle := ih _ (by simp only [length_cons]; omega) h rfl
          omega
    | @insert b xs ys n h =>
      cases xs with
      | nil =>
        have hlength := h.symm.length_le
        simp only [levenshtein_nil_left, length_cons, length_nil] at hlength ⊢
        omega
      | cons a xs =>
        rw [levenshtein_cons]
        split
        -- the heads are equal: the head of `xs` can be left out as well
        · obtain ⟨m, hm, h'⟩ := h.tail_left
          exact (ih _ (by simp only [length_cons]; omega) h' rfl).trans hm
        · have hle := ih _ (by simp only [length_cons]; omega) h rfl
          omega

/-- The distance is the least number of operations that align two lists. -/
theorem levenshtein_isLeast (xs ys : List α) :
    IsLeast {n | Alignment xs ys n} (levenshtein xs ys) :=
  ⟨alignment_levenshtein xs ys, fun _ h => levenshtein_le h⟩

theorem levenshtein_reverse (xs ys : List α) :
    levenshtein xs.reverse ys.reverse = levenshtein xs ys := by
  have hleast := levenshtein_isLeast xs ys
  have hreverse := levenshtein_isLeast xs.reverse ys.reverse
  refine Nat.le_antisymm (hreverse.2 hleast.1.reverse) (hleast.2 ?_)
  have halign := hreverse.1.reverse
  rw [reverse_reverse, reverse_reverse] at halign
  exact halign

end Lib
