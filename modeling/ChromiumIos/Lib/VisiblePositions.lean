import Mathlib.Data.List.InsertIdx
import Mathlib.Data.List.Nodup

/-!
# Positions among the visible elements

Some elements of a list are hidden. A position among the visible ones and a position
in the list are translated into each other by a scan that skips the hidden ones.

- `visibleIdx p l k`: where the visible element number `k` is, or where it would be
  inserted.
- `visibleRank p l i`: the number of the element at `i`, if that is visible.
- `getElem?_visibleIdx`, `filter_insertIdx_visibleIdx`, `filter_eraseIdx_visibleIdx`:
  reading, inserting and erasing by the number of a visible element.
- `visibleRank_eq_some_iff`: the two translations are inverse.
- `foldl_visibleRank`: a loop that skips the hidden elements.
- `filter_insertIdx`: inserting at a position of the list.
- `filter_key_ne`, `map_update_key`: elements that are found by a key instead.
-/

namespace Lib

open List Nat

universe u

variable {α : Type u} {p : α → Bool}

/-- The position of the visible element number `k`, as far behind the end as there are
visible elements missing. -/
def visibleIdx (p : α → Bool) : List α → Nat → Nat
  | [], k => k
  | x :: l, k =>
    match p x, k with
    | true, 0 => 0
    | true, k + 1 => visibleIdx p l k + 1
    | false, k => visibleIdx p l k + 1

/-- The number of the element at a position among the visible ones. -/
def visibleRank (p : α → Bool) : List α → Nat → Option Nat
  | [], _ => none
  | x :: _, 0 => if p x then some 0 else none
  | x :: l, i + 1 => (visibleRank p l i).map fun k => if p x then k + 1 else k

theorem visibleIdx_cons_hidden {x : α} (hx : p x = false) (l : List α) (k : Nat) :
    visibleIdx p (x :: l) k = visibleIdx p l k + 1 := by
  simp [visibleIdx, hx]

theorem visibleIdx_cons_zero {x : α} (hx : p x = true) (l : List α) :
    visibleIdx p (x :: l) 0 = 0 := by
  simp [visibleIdx, hx]

theorem visibleIdx_cons_succ {x : α} (hx : p x = true) (l : List α) (k : Nat) :
    visibleIdx p (x :: l) (k + 1) = visibleIdx p l k + 1 := by
  simp [visibleIdx, hx]

theorem getElem?_visibleIdx (l : List α) (k : Nat) :
    l[visibleIdx p l k]? = (l.filter p)[k]? := by
  induction l generalizing k with
  | nil => rfl
  | cons x l ih =>
    cases hx : p x with
    | false =>
      rw [visibleIdx_cons_hidden hx, filter_cons_of_neg (by simp [hx])]
      exact ih k
    | true =>
      rw [filter_cons_of_pos hx]
      cases k with
      | zero =>
        rw [visibleIdx_cons_zero hx]
        rfl
      | succ k =>
        rw [visibleIdx_cons_succ hx]
        exact ih k

theorem visibleIdx_map {β : Type*} (f : β → α) (l : List β) (k : Nat) :
    visibleIdx p (l.map f) k = visibleIdx (fun x => p (f x)) l k := by
  induction l generalizing k with
  | nil => rfl
  | cons x l ih =>
    cases hx : p (f x) with
    | false =>
      rw [map_cons, visibleIdx_cons_hidden hx,
        visibleIdx_cons_hidden (p := fun x => p (f x)) hx, ih]
    | true =>
      cases k with
      | zero =>
        rw [map_cons, visibleIdx_cons_zero hx,
          visibleIdx_cons_zero (p := fun x => p (f x)) hx]
      | succ k =>
        rw [map_cons, visibleIdx_cons_succ hx,
          visibleIdx_cons_succ (p := fun x => p (f x)) hx, ih]

theorem visibleIdx_le {l : List α} {k : Nat} (hk : k ≤ (l.filter p).length) :
    visibleIdx p l k ≤ l.length := by
  induction l generalizing k with
  | nil => exact hk
  | cons x l ih =>
    cases hx : p x with
    | false =>
      rw [filter_cons_of_neg (by simp [hx])] at hk
      rw [visibleIdx_cons_hidden hx]
      exact succ_le_succ (ih hk)
    | true =>
      rw [filter_cons_of_pos hx, length_cons] at hk
      cases k with
      | zero =>
        rw [visibleIdx_cons_zero hx]
        exact zero_le _
      | succ k =>
        rw [visibleIdx_cons_succ hx]
        exact succ_le_succ (ih (le_of_succ_le_succ hk))

/-- Inserting a visible element by its number. -/
theorem filter_insertIdx_visibleIdx {x : α} (hx : p x = true) {l : List α} {k : Nat}
    (hk : k ≤ (l.filter p).length) :
    (l.insertIdx (visibleIdx p l k) x).filter p = (l.filter p).insertIdx k x := by
  induction l generalizing k with
  | nil =>
    obtain rfl : k = 0 := le_zero.1 hk
    exact filter_cons_of_pos hx
  | cons y l ih =>
    cases hy : p y with
    | false =>
      rw [filter_cons_of_neg (by simp [hy])] at hk
      rw [visibleIdx_cons_hidden hy, insertIdx_succ_cons,
        filter_cons_of_neg (by simp [hy]), filter_cons_of_neg (by simp [hy])]
      exact ih hk
    | true =>
      rw [filter_cons_of_pos hy, length_cons] at hk
      cases k with
      | zero =>
        rw [visibleIdx_cons_zero hy, insertIdx_zero, filter_cons_of_pos hx,
          insertIdx_zero]
      | succ k =>
        rw [visibleIdx_cons_succ hy, insertIdx_succ_cons, filter_cons_of_pos hy,
          filter_cons_of_pos hy, insertIdx_succ_cons, ih (le_of_succ_le_succ hk)]

/-- Erasing a visible element by its number. -/
theorem filter_eraseIdx_visibleIdx (l : List α) (k : Nat) :
    (l.eraseIdx (visibleIdx p l k)).filter p = (l.filter p).eraseIdx k := by
  induction l generalizing k with
  | nil => rfl
  | cons x l ih =>
    cases hx : p x with
    | false =>
      rw [visibleIdx_cons_hidden hx, eraseIdx_cons_succ,
        filter_cons_of_neg (by simp [hx]), filter_cons_of_neg (by simp [hx])]
      exact ih k
    | true =>
      rw [filter_cons_of_pos hx]
      cases k with
      | zero =>
        rw [visibleIdx_cons_zero hx]
        rfl
      | succ k =>
        rw [visibleIdx_cons_succ hx, eraseIdx_cons_succ, filter_cons_of_pos hx,
          eraseIdx_cons_succ, ih]

/-- A position is that of the visible element of its number. -/
theorem visibleRank_eq_some_iff {l : List α} {i k : Nat} :
    visibleRank p l i = some k ↔ k < (l.filter p).length ∧ visibleIdx p l k = i := by
  induction l generalizing i k with
  | nil => exact iff_of_false (fun h => nomatch h) fun h => not_lt_zero k h.1
  | cons x l ih =>
    cases hx : p x with
    | false =>
      rw [visibleIdx_cons_hidden hx, filter_cons_of_neg (by simp [hx])]
      cases i with
      | zero => simp [visibleRank, hx]
      | succ i => simp [visibleRank, hx, ih]
    | true =>
      rw [filter_cons_of_pos hx, length_cons]
      cases i with
      | zero =>
        cases k with
        | zero => simp [visibleRank, hx, visibleIdx_cons_zero]
        | succ k => simp [visibleRank, hx, visibleIdx_cons_succ]
      | succ i =>
        cases k with
        | zero => simp [visibleRank, hx, visibleIdx_cons_zero]
        | succ k => simp [visibleRank, hx, visibleIdx_cons_succ, ih]

/-- A visible element has a number. -/
theorem exists_visibleRank {l : List α} {i : Nat} {x : α} (hi : l[i]? = some x) (hx : p x = true) :
    ∃ k, visibleRank p l i = some k := by
  induction l generalizing i with
  | nil => cases hi
  | cons y l ih =>
    cases i with
    | zero =>
      obtain rfl : y = x := Option.some.inj hi
      exact ⟨0, if_pos hx⟩
    | succ i =>
      obtain ⟨k, hk⟩ := ih hi
      exact ⟨if p y then k + 1 else k, by rw [visibleRank, hk, Option.map_some]⟩

theorem filterMap_visibleRank_zipIdx (l : List α) (n m : Nat) :
    (l.zipIdx n).filterMap (fun entry => (visibleRank p l (entry.2 - n)).map fun k =>
      (entry.1, m + k)) = (l.filter p).zipIdx m := by
  induction l generalizing n m with
  | nil => rfl
  | cons x l ih =>
    -- The positions of the rest are counted from the head on.
    have hrest : (l.zipIdx (n + 1)).filterMap (fun entry =>
        (visibleRank p (x :: l) (entry.2 - n)).map fun k => (entry.1, m + k)) =
          (l.filter p).zipIdx (if p x then m + 1 else m) := by
      rw [← ih (n + 1)]
      refine filterMap_congr fun entry hentry => ?_
      obtain ⟨hle, -⟩ := mem_zipIdx hentry
      rw [show entry.2 - n = entry.2 - (n + 1) + 1 by omega, visibleRank, Option.map_map]
      refine congrArg (Option.map · _) (funext fun k => ?_)
      cases p x
      · rfl
      · exact congrArg (Prod.mk _) (by simp only [if_true]; omega)
    rw [zipIdx_cons, filterMap_cons, hrest, Nat.sub_self, visibleRank]
    cases hx : p x <;> simp [hx]

/-- A loop over all elements that asks for the number of each is one over the visible ones. -/
theorem foldl_visibleRank {β : Type*} (f : β → α × Nat → β) (l : List α) (b : β) :
    l.zipIdx.foldl (fun b entry =>
      ((visibleRank p l entry.2).map fun k => f b (entry.1, k)).getD b) b =
        (l.filter p).zipIdx.foldl f b := by
  have h := filterMap_visibleRank_zipIdx (p := p) l 0 0
  simp only [Nat.sub_zero, Nat.zero_add] at h
  rw [← h, foldl_filterMap]
  refine congrArg (fun g => l.zipIdx.foldl g b) (funext fun b => funext fun entry => ?_)
  cases visibleRank p l entry.2 <;> rfl

/-- Inserting a visible element at a position of the list. -/
theorem filter_insertIdx {x : α} (hx : p x = true) {l : List α} {i : Nat} (hi : i ≤ l.length) :
    (l.insertIdx i x).filter p = (l.filter p).insertIdx ((l.take i).countP p) x := by
  induction l generalizing i with
  | nil =>
    obtain rfl : i = 0 := le_zero.1 hi
    exact filter_cons_of_pos hx
  | cons y l ih =>
    cases i with
    | zero => exact filter_cons_of_pos hx
    | succ i =>
      rw [insertIdx_succ_cons, take_succ_cons, countP_cons]
      have hrest := ih (le_of_succ_le_succ hi)
      cases hy : p y with
      | false =>
        rw [filter_cons_of_neg (by simp [hy]), filter_cons_of_neg (by simp [hy]), hrest]
        rfl
      | true =>
        rw [filter_cons_of_pos hy, filter_cons_of_pos hy, hrest]
        rfl

/-- An element that is not in the list shows where it was inserted. -/
theorem insertIdx_inj {x : α} {l : List α} (hx : x ∉ l) {i j : Nat} (hi : i ≤ l.length)
    (hj : j ≤ l.length) : l.insertIdx i x = l.insertIdx j x ↔ i = j := by
  constructor
  · induction l generalizing i j with
    | nil =>
      intro _
      exact (le_zero.1 hi).trans (le_zero.1 hj).symm
    | cons y l ih =>
      have hne : x ≠ y := fun h => hx (h ▸ mem_cons_self)
      intro h
      cases i with
      | zero =>
        cases j with
        | zero => rfl
        | succ j => exact absurd (List.cons.inj h).1 hne
      | succ i =>
        cases j with
        | zero => exact absurd (List.cons.inj h).1.symm hne
        | succ j =>
          have hrest := (List.cons.inj h).2
          rw [ih (fun hmem => hx (mem_cons_of_mem y hmem)) (le_of_succ_le_succ hi)
            (le_of_succ_le_succ hj) hrest]
  · rintro rfl
    rfl

/-- In a list of distinct elements an element that is erased is gone. -/
theorem notMem_eraseIdx {l : List α} (hnodup : l.Nodup) {i : Nat} {x : α} (hi : l[i]? = some x) :
    x ∉ l.eraseIdx i := by
  intro hx
  obtain ⟨j, hne, hj⟩ := mem_eraseIdx_iff_getElem?.1 hx
  have hlt : j < l.length := (List.getElem?_eq_some_iff.1 hj).1
  exact hne ((getElem?_inj hlt hnodup).1 (hj.trans hi.symm))

/-! ## Elements with a key of their own -/

section Key

variable {β γ : Type*} [DecidableEq β] {key : α → β}

/-- Removing the elements of a key is erasing the one that has it. -/
theorem filter_key_ne {l : List α} (hnodup : (l.map key).Nodup) {i : Nat} {x : α}
    (hi : l[i]? = some x) : (l.filter fun y => key y ≠ key x) = l.eraseIdx i := by
  induction l generalizing i with
  | nil => cases hi
  | cons y l ih =>
    obtain ⟨hy, hl⟩ := nodup_cons.1 hnodup
    cases i with
    | zero =>
      obtain rfl : y = x := Option.some.inj hi
      rw [filter_cons_of_neg (by simp), eraseIdx_cons_zero]
      refine filter_eq_self.2 fun z hz => ?_
      have hne : key z ≠ key y := fun h => hy (h ▸ mem_map_of_mem hz)
      simp [hne]
    | succ i =>
      have hx : x ∈ l := mem_of_getElem? hi
      have hne : key y ≠ key x := fun h => hy (h ▸ mem_map_of_mem hx)
      rw [filter_cons_of_pos (by simp [hne]), ih hl hi, eraseIdx_cons_succ]

/-- Updating the elements of a key is setting the one that has it. -/
theorem map_update_key {l : List α} (hnodup : (l.map key).Nodup) {i : Nat} {x : α}
    (hi : l[i]? = some x) (f : α → γ) (new : γ) :
    (l.map fun y => if key y = key x then new else f y) = (l.map f).set i new := by
  induction l generalizing i with
  | nil => cases hi
  | cons y l ih =>
    obtain ⟨hy, hl⟩ := nodup_cons.1 hnodup
    cases i with
    | zero =>
      obtain rfl : y = x := Option.some.inj hi
      rw [map_cons, map_cons, if_pos rfl, set_cons_zero]
      refine congrArg (new :: ·) (map_congr_left fun z hz => ?_)
      have hne : key z ≠ key y := fun h => hy (h ▸ mem_map_of_mem hz)
      exact if_neg hne
    | succ i =>
      have hx : x ∈ l := mem_of_getElem? hi
      have hne : key y ≠ key x := fun h => hy (h ▸ mem_map_of_mem hx)
      rw [map_cons, map_cons, if_neg hne, ih hl hi, set_cons_succ]

end Key

end Lib
