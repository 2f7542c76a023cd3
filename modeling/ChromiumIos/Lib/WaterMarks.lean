import Mathlib.Order.SuccPred.Basic

/-!
# Water marks

Values are made distinct as they come: a value between the marks is in a run of duplicates, and the
one after the high mark is used in its place.

- `smooth`, `smoothAll`: the value to use, for one value and for a sequence.
- `pairwise_smoothAll`: what is used for a sequence that does not go down goes up, until there is no
  value after it.
- `forall₂_smoothAll`, `getElem?_smoothAll`: it is not below what it stands for, and is the same
  where that is above all that was used before.
-/

namespace Lib

open List

universe u

/-- The first and the last value of a run. -/
structure WaterMarks (α : Type u) where
  low : α
  high : α
deriving DecidableEq, Repr

namespace WaterMarks

variable {α : Type u} [LinearOrder α] [SuccOrder α]

/-- The value to use for `t`, and the marks then. -/
def smooth (m : WaterMarks α) (t : α) : α × WaterMarks α :=
  if m.low ≤ t ∧ t ≤ m.high then (Order.succ m.high, { m with high := Order.succ m.high })
  else (t, ⟨t, t⟩)

/-- The values to use for `ts`, one after the other. -/
def smoothAll (m : WaterMarks α) : List α → List α
  | [] => []
  | t :: ts => (m.smooth t).1 :: (m.smooth t).2.smoothAll ts

/-- The second value is above the first, unless there is none above it. -/
def Rises (a b : α) : Prop := a < b ∨ IsMax a ∧ a = b

omit [SuccOrder α] in
theorem Rises.le {a b : α} (h : Rises a b) : a ≤ b := by
  rcases h with h | ⟨-, rfl⟩
  · exact h.le
  · exact le_refl a

omit [SuccOrder α] in
theorem Rises.trans {a b c : α} (hab : Rises a b) (hbc : Rises b c) : Rises a c := by
  rcases hab with hab | ⟨-, rfl⟩
  · exact .inl (hab.trans_le hbc.le)
  · exact hbc

theorem rises_succ (a : α) : Rises a (Order.succ a) := by
  by_cases hmax : IsMax a
  · exact .inr ⟨hmax, hmax.eq_of_le (Order.le_succ a)⟩
  · exact .inl (Order.lt_succ_of_not_isMax hmax)

variable {m : WaterMarks α} {t : α}

/-! ## One value -/

theorem smooth_of_le (hlow : m.low ≤ t) (hhigh : t ≤ m.high) :
    m.smooth t = (Order.succ m.high, ⟨m.low, Order.succ m.high⟩) :=
  if_pos ⟨hlow, hhigh⟩

theorem smooth_of_lt (h : m.high < t) : m.smooth t = (t, ⟨t, t⟩) :=
  if_neg fun hbetween => not_lt_of_ge hbetween.2 h

theorem le_smooth (m : WaterMarks α) (t : α) : t ≤ (m.smooth t).1 := by
  rw [smooth]
  split
  · next h => exact h.2.trans (Order.le_succ m.high)
  · exact le_refl t

/-- The value that is used is the high mark then. -/
theorem high_smooth (m : WaterMarks α) (t : α) : (m.smooth t).2.high = (m.smooth t).1 := by
  rw [smooth]
  split <;> rfl

theorem low_smooth_le (m : WaterMarks α) (t : α) : (m.smooth t).2.low ≤ t := by
  rw [smooth]
  split
  · next h => exact h.1
  · exact le_refl t

/-- Above the low mark, the value that is used rises from the high mark. -/
theorem rises_smooth (hlow : m.low ≤ t) : Rises m.high (m.smooth t).1 := by
  rcases le_or_gt t m.high with hhigh | hhigh
  · rw [smooth_of_le hlow hhigh]
    exact rises_succ m.high
  · rw [smooth_of_lt hhigh]
    exact .inl hhigh

/-! ## A sequence that does not go down -/

/-- The marks tell runs apart only for what comes at or above the low one. -/
theorem rises_smoothAll {ts : List α} (hts : ts.Pairwise (· ≤ ·)) (hlow : ∀ t ∈ ts, m.low ≤ t) :
    (∀ o ∈ m.smoothAll ts, Rises m.high o) ∧ (m.smoothAll ts).Pairwise Rises := by
  induction ts generalizing m with
  | nil => exact ⟨nofun, .nil⟩
  | cons t ts ih =>
    obtain ⟨ht, hts⟩ := pairwise_cons.1 hts
    have hfirst : Rises m.high (m.smooth t).1 := rises_smooth (hlow t mem_cons_self)
    obtain ⟨hrises, hpairwise⟩ :=
      ih hts (m := (m.smooth t).2) fun t' ht' => (low_smooth_le m t).trans (ht t' ht')
    rw [high_smooth] at hrises
    refine ⟨?_, pairwise_cons.2 ⟨hrises, hpairwise⟩⟩
    rw [smoothAll, forall_mem_cons]
    exact ⟨hfirst, fun o ho => hfirst.trans (hrises o ho)⟩

theorem pairwise_smoothAll {ts : List α} (hts : ts.Pairwise (· ≤ ·)) (m : WaterMarks α) :
    (m.smoothAll ts).Pairwise Rises := by
  cases ts with
  | nil => exact .nil
  | cons t ts =>
    obtain ⟨ht, hts⟩ := pairwise_cons.1 hts
    have hrest := rises_smoothAll hts (m := (m.smooth t).2) fun t' ht' =>
      (low_smooth_le m t).trans (ht t' ht')
    rw [high_smooth] at hrest
    exact pairwise_cons.2 hrest

/-- This takes any sequence. -/
theorem forall₂_smoothAll (m : WaterMarks α) (ts : List α) :
    Forall₂ (· ≤ ·) ts (m.smoothAll ts) := by
  induction ts generalizing m with
  | nil => exact .nil
  | cons t ts ih => exact .cons (le_smooth m t) (ih _)

/-- After the first value, the last one that was used is the high mark. -/
theorem getElem?_smoothAll (m : WaterMarks α) {ts : List α} {i : Nat} {t : α}
    (ht : ts[i]? = some t) (hfirst : i = 0 → (m.smooth t).1 = t)
    (habove : ∀ o ∈ (m.smoothAll ts).take i, o < t) : (m.smoothAll ts)[i]? = some t := by
  induction ts generalizing m i with
  | nil => cases ht
  | cons t' ts ih =>
    cases i with
    | zero =>
      obtain rfl : t' = t := Option.some.inj ht
      exact congrArg some (hfirst rfl)
    | succ i =>
      rw [smoothAll, take_succ_cons, forall_mem_cons] at habove
      refine ih (m.smooth t').2 ht (fun _ => ?_) habove.2
      rw [smooth_of_lt]
      exact (high_smooth m t').trans_lt habove.1

end WaterMarks

end Lib
