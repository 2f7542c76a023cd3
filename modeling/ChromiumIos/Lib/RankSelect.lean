import Mathlib.Data.List.Basic

/-!
# Rank and selection

Among the elements of a list that meet a condition, the rank of a position is how many come before
it, and a rank selects a position.

- `rank`, `select`: the two.
- `select_eq_some_iff`: `select` is the inverse of `rank` on the positions that meet the condition.
-/

namespace Lib

universe u

variable {α : Type u} (p : α → Bool)

/-- How many of the elements before a position meet the condition. -/
def rank (l : List α) (i : Nat) : Nat := (l.take i).countP p

/-- The position of the element of rank `k`; the list begins at `base`. -/
def select : List α → (k base : Nat) → Option Nat
  | [], _, _ => none
  | a :: l, k, base =>
    if p a then
      match k with
      | 0 => some base
      | k + 1 => select l k (base + 1)
    else select l k (base + 1)

variable {p}

theorem rank_cons_succ (a : α) (l : List α) (i : Nat) :
    rank p (a :: l) (i + 1) = rank p l i + if p a then 1 else 0 := by
  rw [rank, List.take_succ_cons, List.countP_cons, rank]

theorem select_cons_of_neg {a : α} (ha : p a = false) (l : List α) (k base : Nat) :
    select p (a :: l) k base = select p l k (base + 1) := by
  cases k <;> simp [select, ha]

theorem select_cons_zero {a : α} (ha : p a = true) (l : List α) (base : Nat) :
    select p (a :: l) 0 base = some base := by
  simp [select, ha]

theorem select_cons_succ {a : α} (ha : p a = true) (l : List α) (k base : Nat) :
    select p (a :: l) (k + 1) base = select p l k (base + 1) := by
  simp [select, ha]

theorem select_eq_some_iff {l : List α} {k base i : Nat} :
    select p l k base = some i ↔
      ∃ j, i = base + j ∧ (∃ a, l[j]? = some a ∧ p a = true) ∧ rank p l j = k := by
  induction l generalizing k base with
  | nil => simp [select]
  | cons a l ih =>
    have hlater : ∀ k' : Nat, select p l k' (base + 1) = some i ↔
        ∃ j, i = base + (j + 1) ∧ (∃ b, l[j]? = some b ∧ p b = true) ∧ rank p l j = k' := by
      intro k'
      rw [ih]
      simp only [Nat.add_assoc, Nat.add_comm 1]
    cases ha : p a with
    | false =>
      rw [select_cons_of_neg ha, hlater]
      constructor
      · rintro ⟨j, hi, hb, hrank⟩
        exact ⟨j + 1, hi, hb, by rw [rank_cons_succ, hrank, ha]; rfl⟩
      · rintro ⟨j, hi, ⟨b, hb, hpb⟩, hrank⟩
        cases j with
        | zero =>
          obtain rfl := Option.some.inj hb
          rw [ha] at hpb
          cases hpb
        | succ j =>
          rw [rank_cons_succ, ha] at hrank
          exact ⟨j, hi, ⟨b, hb, hpb⟩, hrank⟩
    | true =>
      cases k with
      | zero =>
        rw [select_cons_zero ha]
        constructor
        · intro hi
          exact ⟨0, (Option.some.inj hi).symm, ⟨a, rfl, ha⟩, rfl⟩
        · rintro ⟨j, hi, -, hrank⟩
          cases j with
          | zero => rw [hi, Nat.add_zero]
          | succ j => simp [rank_cons_succ, ha] at hrank
      | succ k =>
        rw [select_cons_succ ha, hlater]
        constructor
        · rintro ⟨j, hi, hb, hrank⟩
          exact ⟨j + 1, hi, hb, by rw [rank_cons_succ, hrank, ha]; rfl⟩
        · rintro ⟨j, hi, hb, hrank⟩
          cases j with
          | zero => cases hrank
          | succ j =>
            rw [rank_cons_succ, ha] at hrank
            exact ⟨j, hi, hb, Nat.succ.inj hrank⟩

end Lib
