import Mathlib.Data.List.InsertIdx

/-!
# Binary search in a sorted list

The list is searched with a function that compares its elements with what is
searched for: `.lt` for those that come before it.

- `insertionIndex`: where the elements that come before end.
- `firstEqual?`: the position of an element that is the same.
- `FollowsOrder`: the comparison agrees with the order the list is sorted by.
- `insertionIndex_append`, `firstEqual?_eq_none_iff`: what the searches give in a
  sorted list; `pairwise_insertIdx_insertionIndex` keeps it sorted.
-/

namespace Lib

open List

universe u

variable {α : Type u} (compare : α → Ordering)

/-- The search between two positions, with `fuel` steps left. -/
def searchBetween (l : List α) : (fuel lo hi : Nat) → Nat
  | 0, lo, _ => lo
  | fuel + 1, lo, hi =>
    if lo < hi then
      match l[(lo + hi) / 2]? with
      | none => lo
      | some a =>
        if compare a = .lt then searchBetween l fuel ((lo + hi) / 2 + 1) hi
        else searchBetween l fuel lo ((lo + hi) / 2)
    else lo

def insertionIndex (l : List α) : Nat := searchBetween compare l l.length 0 l.length

def firstEqual? (l : List α) : Option Nat :=
  match l[insertionIndex compare l]? with
  | none => none
  | some a => if compare a = .eq then some (insertionIndex compare l) else none

/-- What comes before an element that does not come after is before, too. -/
def FollowsOrder (r : α → α → Prop) : Prop :=
  ∀ a b, r a b → compare b ≠ .gt → compare a = .lt

variable {compare} {r : α → α → Prop}

/-- The search ends where the elements that come before do. -/
theorem searchBetween_append {before after : List α} (hbefore : ∀ a ∈ before, compare a = .lt)
    (hafter : ∀ a ∈ after, compare a ≠ .lt) {fuel lo hi : Nat} (hlo : lo ≤ before.length)
    (hhi : before.length ≤ hi) (hlength : hi ≤ (before ++ after).length) (hfuel : hi - lo ≤ fuel) :
    searchBetween compare (before ++ after) fuel lo hi = before.length := by
  induction fuel generalizing lo hi with
  | zero =>
    rw [searchBetween]
    omega
  | succ fuel ih =>
    rw [searchBetween]
    by_cases hlt : lo < hi
    · rw [if_pos hlt]
      by_cases hmid : (lo + hi) / 2 < before.length
      · rw [getElem?_append_left hmid, getElem?_eq_getElem hmid]
        dsimp only
        rw [if_pos (hbefore _ (getElem_mem hmid))]
        exact ih (by omega) hhi hlength (by omega)
      · have hin : (lo + hi) / 2 - before.length < after.length := by
          rw [length_append] at hlength
          omega
        rw [getElem?_append_right (by omega), getElem?_eq_getElem hin]
        dsimp only
        rw [if_neg (hafter _ (getElem_mem hin))]
        exact ih hlo (by omega) (by omega) (by omega)
    · rw [if_neg hlt]
      omega

theorem insertionIndex_append {before after : List α} (hbefore : ∀ a ∈ before, compare a = .lt)
    (hafter : ∀ a ∈ after, compare a ≠ .lt) :
    insertionIndex compare (before ++ after) = before.length :=
  searchBetween_append hbefore hafter (Nat.zero_le _) (by rw [length_append]; omega)
    (Nat.le_refl _) (Nat.le_refl _)

theorem insertIdx_length_append (before after : List α) (a : α) :
    (before ++ after).insertIdx before.length a = before ++ a :: after := by
  induction before with
  | nil => rfl
  | cons b before ih => exact congrArg (b :: ·) ih

section Sorted

variable {l : List α} {a : α}

section

variable (hfollows : FollowsOrder compare r) (hl : l.Pairwise r)
include hfollows hl

/-- A sorted list is what comes before and then the rest. -/
theorem exists_split : ∃ before after, l = before ++ after ∧ (∀ a ∈ before, compare a = .lt) ∧
      ∀ a ∈ after, compare a ≠ .lt := by
  induction l with
  | nil => exact ⟨[], [], rfl, by simp, by simp⟩
  | cons b l ih =>
    obtain ⟨hb, hl⟩ := pairwise_cons.1 hl
    by_cases hlt : compare b = .lt
    · obtain ⟨before, after, rfl, hbefore, hafter⟩ := ih hl
      exact ⟨b :: before, after, rfl, forall_mem_cons.2 ⟨hlt, hbefore⟩, hafter⟩
    · refine ⟨[], b :: l, rfl, by simp, forall_mem_cons.2 ⟨hlt, fun a ha hless => ?_⟩⟩
      exact hlt (hfollows b a (hb a ha) (by rw [hless]; nofun))

theorem insertionIndex_le : insertionIndex compare l ≤ l.length := by
  obtain ⟨before, after, rfl, hbefore, hafter⟩ := exists_split hfollows hl
  rw [insertionIndex_append hbefore hafter, length_append]
  omega

/-- An element that is the same is the first that does not come before. -/
theorem firstEqual?_eq_none_iff : firstEqual? compare l = none ↔ ∀ a ∈ l, compare a ≠ .eq := by
  obtain ⟨before, after, rfl, hbefore, hafter⟩ := exists_split hfollows hl
  rw [firstEqual?, insertionIndex_append hbefore hafter,
    getElem?_append_right (Nat.le_refl _), Nat.sub_self]
  have hnotBefore : ∀ a ∈ before, compare a ≠ .eq := by
    intro a ha heq
    rw [hbefore a ha] at heq
    cases heq
  cases after with
  | nil => simpa using hnotBefore
  | cons b after =>
    have hpair := (pairwise_append.1 hl).2.1
    rw [getElem?_cons_zero]
    constructor
    · intro hnone a ha heq
      have hb : compare b ≠ .eq := by
        intro hb
        simp [hb] at hnone
      rcases mem_append.1 ha with ha | ha
      · exact hnotBefore a ha heq
      · rcases mem_cons.1 ha with rfl | hmem
        · exact hb heq
        · exact hafter b mem_cons_self
            (hfollows b a ((pairwise_cons.1 hpair).1 a hmem) (by rw [heq]; nofun))
    · intro hnone
      exact if_neg (hnone b (mem_append_right before mem_cons_self))

/-- What is inserted where the search says keeps the list sorted. -/
theorem pairwise_insertIdx_insertionIndex
    (hless : ∀ b ∈ l, compare b = .lt → r b a) (hnot : ∀ b ∈ l, compare b ≠ .lt → r a b) :
    (l.insertIdx (insertionIndex compare l) a).Pairwise r := by
  obtain ⟨before, after, rfl, hbefore, hafter⟩ := exists_split hfollows hl
  obtain ⟨hpairBefore, hpairAfter, hcross⟩ := pairwise_append.1 hl
  rw [insertionIndex_append hbefore hafter, insertIdx_length_append, pairwise_append,
    pairwise_cons]
  refine ⟨hpairBefore, ⟨fun b hb => hnot b (mem_append_right before hb) (hafter b hb),
    hpairAfter⟩, fun b hb c hc => ?_⟩
  rcases mem_cons.1 hc with rfl | hc
  · exact hless b (mem_append_left after hb) (hbefore b hb)
  · exact hcross b hb c hc

end

end Sorted

end Lib
