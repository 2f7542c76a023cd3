import Mathlib.Data.List.Basic
import Mathlib.Data.List.InsertIdx

/-!
# Removing and inserting by position

Items of a list are removed and inserted at their positions one after the other,
each while the position is there.

- `removeAt_findIdxs`: removing the items at descending positions filters them.
- `weave`: the items of one list, with those of another in the places that are
  free.
- `insertAt_findIdxs`: inserting items at ascending positions weaves them in.
- `weave_eq_self_iff`: when the result is the list the items come from.
- `pick`: the items at the positions that meet a predicate.
-/

namespace Lib

open List

universe u

variable {α : Type u}

/-- Removes the item at a position that is there. -/
def removeAt (l : List α) (i : Nat) : Option (List α) :=
  if i < l.length then some (l.eraseIdx i) else none

/-- Inserts an item at a position of the list or at its end. -/
def insertAt (l : List α) (i : Nat) (a : α) : Option (List α) :=
  if i ≤ l.length then some (l.insertIdx i a) else none

theorem removeAt_length (l l' : List α) (a : α) :
    removeAt (l ++ a :: l') l.length = some (l ++ l') := by
  rw [removeAt, if_pos (by simp), eraseIdx_append_of_length_le (Nat.le_refl _),
    Nat.sub_self, eraseIdx_cons_zero]

theorem insertAt_length (l l' : List α) (a : α) :
    insertAt (l ++ l') l.length a = some (l ++ a :: l') := by
  rw [insertAt, if_pos (by simp)]
  induction l with
  | nil => rfl
  | cons b l ih =>
    exact congrArg (fun l => some (b :: l)) (Option.some.inj ih)

/-- Removing from the last position to the first leaves what is not to be removed. -/
theorem removeAt_findIdxs (p : α → Bool) (before l : List α) :
    (l.findIdxs p before.length).reverse.foldlM removeAt (before ++ l) =
      some (before ++ l.filter fun a => !p a) := by
  rw [foldlM_reverse]
  induction l generalizing before with
  | nil => simp
  | cons a l ih =>
    have hrest := ih (before ++ [a])
    rw [length_append, length_singleton, append_assoc, append_assoc] at hrest
    rw [findIdxs_cons]
    by_cases ha : p a = true
    · rw [if_pos ha, foldrM_cons, filter_cons_of_neg (by simp [ha])]
      exact (congrArg (Option.bind · _) hrest).trans (removeAt_length ..)
    · rw [if_neg ha, filter_cons_of_pos (by simp [ha])]
      exact hrest

/-! ## Weaving -/

/-- The items of the first list that `p` holds of, at their positions, and in the
other places those of the second list in turn. -/
def weave (p : α → Bool) : List α → List α → List α
  | [], _ => []
  | a :: l, others =>
    if p a then a :: weave p l others
    else others.take 1 ++ weave p l others.tail

variable {p : α → Bool}

/-- Inserting from the first position to the last weaves the items in. -/
theorem insertAt_findIdxs {item : Nat → Option α} (before l others : List α)
    (hitem : ∀ k, item (before.length + k) = l[k]?)
    (hothers : others.length = l.countP fun a => !p a) :
    (l.findIdxs p before.length).foldlM (fun l' i => (item i).bind (insertAt l' i))
        (before ++ others) =
      some (before ++ weave p l others) := by
  induction l generalizing before others with
  | nil =>
    rw [countP_nil, length_eq_zero_iff] at hothers
    rw [hothers]
    rfl
  | cons a l ih =>
    have hrest : ∀ (b : α) (k : Nat), item ((before ++ [b]).length + k) = l[k]? := by
      intro b k
      rw [length_append, length_singleton, Nat.add_assoc, Nat.add_comm 1, hitem,
        getElem?_cons_succ]
    rw [findIdxs_cons, weave]
    by_cases ha : p a = true
    · rw [countP_cons_of_neg (by simp [ha])] at hothers
      have hlater := ih (before ++ [a]) others (hrest a) hothers
      rw [length_append, length_singleton, append_assoc, append_assoc]
        at hlater
      have hhere : item before.length = some a := hitem 0
      rw [if_pos ha, if_pos ha, foldlM_cons, hhere, Option.bind_some, insertAt_length]
      exact hlater
    · rw [countP_cons_of_pos (by simp [ha])] at hothers
      rw [if_neg ha, if_neg ha]
      match others with
      | [] => cases hothers
      | b :: others =>
        have hlater := ih (before ++ [b]) others (hrest b) (Nat.succ.inj hothers)
        rw [length_append, length_singleton, append_assoc, append_assoc]
          at hlater
        exact hlater

section

variable {l others : List α} (hothers : others.length = l.countP fun a => !p a)
include hothers

theorem length_weave : (weave p l others).length = l.length := by
  induction l generalizing others with
  | nil => rfl
  | cons a l ih =>
    rw [weave]
    by_cases ha : p a = true
    · rw [countP_cons_of_neg (by simp [ha])] at hothers
      rw [if_pos ha, length_cons, length_cons, ih hothers]
    · rw [countP_cons_of_pos (by simp [ha])] at hothers
      rw [if_neg ha]
      match others with
      | [] => cases hothers
      | b :: others => exact congrArg Nat.succ (ih (Nat.succ.inj hothers))

/-- The items that `p` holds of are where they were. -/
theorem getElem?_weave {i : Nat} {a : α} (hat : l[i]? = some a) (ha : p a = true) :
    (weave p l others)[i]? = some a := by
  induction l generalizing others i with
  | nil => cases hat
  | cons b l ih =>
    rw [weave]
    by_cases hb : p b = true
    · rw [countP_cons_of_neg (by simp [hb])] at hothers
      rw [if_pos hb]
      cases i with
      | zero => exact hat
      | succ i => exact ih hothers hat
    · rw [countP_cons_of_pos (by simp [hb])] at hothers
      rw [if_neg hb]
      match others with
      | [] => cases hothers
      | c :: others =>
        cases i with
        | zero =>
          cases hat
          exact absurd ha hb
        | succ i => exact ih (Nat.succ.inj hothers) hat

/-- The others are there in their order. -/
theorem filter_weave
    (hnot : ∀ a ∈ others, p a = false) : (weave p l others).filter (fun a => !p a) = others := by
  induction l generalizing others with
  | nil =>
    rw [countP_nil, length_eq_zero_iff] at hothers
    rw [hothers]
    rfl
  | cons a l ih =>
    rw [weave]
    by_cases ha : p a = true
    · rw [countP_cons_of_neg (by simp [ha])] at hothers
      rw [if_pos ha, filter_cons_of_neg (by simp [ha])]
      exact ih hothers hnot
    · rw [countP_cons_of_pos (by simp [ha])] at hothers
      rw [if_neg ha]
      match others with
      | [] => cases hothers
      | b :: others =>
        obtain ⟨hb, hrest⟩ := forall_mem_cons.1 hnot
        show List.filter _ (b :: weave p l others) = b :: others
        rw [filter_cons_of_pos (by simp [hb]), ih (Nat.succ.inj hothers) hrest]

end

theorem weave_filter (l : List α) : weave p l (l.filter fun a => !p a) = l := by
  induction l with
  | nil => rfl
  | cons a l ih =>
    rw [weave]
    by_cases ha : p a = true
    · rw [if_pos ha, filter_cons_of_neg (by simp [ha]), ih]
    · rw [if_neg ha, filter_cons_of_pos (by simp [ha])]
      exact congrArg (a :: ·) ih

/-- Weaving in the others gives the list back if and only if they are what it has in
their places. -/
theorem weave_eq_self_iff {l others : List α} (hothers : others.length = l.countP fun a => !p a)
    (hnot : ∀ a ∈ others, p a = false) :
    weave p l others = l ↔ others = l.filter fun a => !p a := by
  constructor
  · intro h
    rw [← filter_weave hothers hnot, h]
  · rintro rfl
    exact weave_filter l

/-! ## Picking by position -/

/-- The items at the positions that meet `p`, counted from `d` on. -/
def pick (p : Nat → Bool) (l : List α) (d : Nat) : List α :=
  ((l.zipIdx d).filter fun entry => p entry.2).map Prod.fst

section Pick

variable {p : Nat → Bool}

theorem pick_cons (a : α) (l : List α) (d : Nat) :
    pick p (a :: l) d = if p d then a :: pick p l (d + 1) else pick p l (d + 1) := by
  rw [pick, zipIdx_cons, filter_cons]
  split <;> rfl

theorem pick_eq_filter {q : α → Bool} {l : List α} {d : Nat}
    (h : ∀ i a, l[i]? = some a → p (d + i) = q a) : pick p l d = l.filter q := by
  induction l generalizing d with
  | nil => rfl
  | cons a l ih =>
    have hrest : ∀ i b, l[i]? = some b → p (d + 1 + i) = q b := by
      intro i b hb
      rw [show d + 1 + i = d + (i + 1) by omega]
      exact h (i + 1) b hb
    rw [pick_cons, ih hrest, filter_cons, show p d = q a from h 0 a rfl]

theorem pick_eq_filterMap (l : List α) (d : Nat) :
    pick p l d = ((List.range' d l.length).filter p).filterMap fun i => l[i - d]? := by
  induction l generalizing d with
  | nil => rfl
  | cons a l ih =>
    rw [pick_cons, ih, length_cons, range'_succ, filter_cons]
    have hrest : ((List.range' (d + 1) l.length).filter p).filterMap (fun i => l[i - (d + 1)]?) =
        ((List.range' (d + 1) l.length).filter p).filterMap fun i => (a :: l)[i - d]? := by
      refine filterMap_congr fun i hi => ?_
      have hlow := (mem_range'_1.1 (mem_filter.1 hi).1).1
      rw [show i - d = (i - (d + 1)) + 1 by omega, getElem?_cons_succ]
    split
    · rw [filterMap_cons_some (by rw [Nat.sub_self]; rfl), hrest]
    · exact hrest

/-- All positions, in their order. -/
theorem filterMap_getElem?_range (l : List α) :
    (List.range l.length).filterMap (fun i => l[i]?) = l := by
  have hall : pick (fun _ => true) l 0 = l.filter fun _ => true := pick_eq_filter fun _ _ _ => rfl
  rw [pick_eq_filterMap, filter_true, filter_true, ← range_eq_range'] at hall
  exact hall

end Pick

end Lib
