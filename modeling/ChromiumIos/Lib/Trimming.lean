import Mathlib.Data.List.DropRight

/-!
# Trimming a text and splitting it

- `trim`: the text without the elements at its ends that meet a predicate.
- `Surrounded`: what is between such elements meets a condition.
- `forall_mem_trim_iff`: a condition on the elements that are left is one on the whole text.
- `splitOn_map`: what treats the parts between separators one by one keeps the parts.
-/

namespace Lib

open List

universe u

variable {α : Type u}

section Trim

variable {p : α → Bool}

/-- The text without the elements at both ends that meet `p`. -/
def trim (p : α → Bool) (s : List α) : List α := (s.dropWhile p).rdropWhile p

/-- The text is one that meets `P`, with elements that meet `p` around it. -/
def Surrounded (p : α → Bool) (P : List α → Prop) (s : List α) : Prop :=
  ∃ before core after, s = before ++ (core ++ after) ∧ (∀ x ∈ before, p x = true) ∧
    (∀ x ∈ after, p x = true) ∧ P core

theorem dropWhile_append_all {s after : List α} (hafter : ∀ x ∈ after, p x = true) :
    ∃ rest, (∀ x ∈ rest, p x = true) ∧ (s ++ after).dropWhile p = s.dropWhile p ++ rest := by
  rw [dropWhile_append]
  split
  · next hempty =>
    refine ⟨[], by simp, ?_⟩
    rw [List.isEmpty_iff.1 hempty]
    exact dropWhile_eq_nil_iff.2 hafter
  · exact ⟨after, hafter, rfl⟩

/-- What is cut off does not matter. -/
theorem trim_surround {before after : List α} (hbefore : ∀ x ∈ before, p x = true)
    (hafter : ∀ x ∈ after, p x = true) (core : List α) :
    trim p (before ++ (core ++ after)) = trim p core := by
  obtain ⟨rest, hrest, hdrop⟩ := dropWhile_append_all (s := core) hafter
  rw [trim, dropWhile_append_of_pos hbefore, hdrop, rdropWhile, reverse_append,
    dropWhile_append_of_pos (by simpa using hrest), ← rdropWhile, trim]

theorem eq_trim_surrounded (p : α → Bool) (s : List α) :
    s = s.takeWhile p ++ (trim p s ++ (s.dropWhile p).rtakeWhile p) := by
  rw [trim, rdropWhile_append_rtakeWhile, takeWhile_append_dropWhile]

theorem surrounded_trim {P : List α → Prop} {s : List α} (h : P (trim p s)) : Surrounded p P s :=
  ⟨_, _, _, eq_trim_surrounded p s, fun _ => mem_takeWhile_imp,
    fun _ => mem_rtakeWhile_imp, h⟩

theorem trim_subset (p : α → Bool) (s : List α) : trim p s ⊆ s :=
  ((List.rdropWhile_prefix p _).sublist.trans (dropWhile_sublist p)).subset

theorem forall_mem_trim_iff {Q : α → Prop} {s : List α} :
    (∀ x ∈ trim p s, Q x) ↔ Surrounded p (fun core => ∀ x ∈ core, Q x) s := by
  constructor
  · exact fun h => surrounded_trim h
  · rintro ⟨before, core, after, rfl, hbefore, hafter, hcore⟩ x hx
    rw [trim_surround hbefore hafter] at hx
    exact hcore x (trim_subset p core hx)

/-- Nothing is left to cut off. -/
theorem trim_trim (p : α → Bool) (s : List α) : trim p (trim p s) = trim p s := by
  have hbefore : ∀ x ∈ s.takeWhile p, p x = true := fun _ => mem_takeWhile_imp
  have hafter : ∀ x ∈ (s.dropWhile p).rtakeWhile p, p x = true := fun _ => mem_rtakeWhile_imp
  have h := trim_surround hbefore hafter (trim p s)
  rwa [← eq_trim_surrounded p s, eq_comm] at h

end Trim

section Split

variable [DecidableEq α]

theorem notMem_of_mem_splitOn {x : α} {s part : List α} (hpart : part ∈ s.splitOn x) :
    x ∉ part := by
  induction hn : s.length using Nat.strong_induction_on generalizing s with
  | _ n ih =>
    subst hn
    by_cases hx : x ∈ s
    · obtain ⟨first, rest, rfl, hfirst⟩ := eq_append_cons_of_mem hx
      rw [splitOn_append_cons_self_of_not_mem hfirst, mem_cons] at hpart
      rcases hpart with rfl | hpart
      · exact hfirst
      · exact ih _ (by simp; omega) hpart rfl
    · rw [splitOn_eq_singleton hx, mem_singleton] at hpart
      exact hpart ▸ hx

/-- A function that keeps the separators where they are. -/
theorem splitOn_map {x : α} {f : List α → List α}
    (happend : ∀ s t, f (s ++ x :: t) = f s ++ x :: f t) (hmem : ∀ s, x ∉ s → x ∉ f s)
    (s : List α) : (f s).splitOn x = (s.splitOn x).map f := by
  induction hn : s.length using Nat.strong_induction_on generalizing s with
  | _ n ih =>
    subst hn
    by_cases hx : x ∈ s
    · obtain ⟨first, rest, rfl, hfirst⟩ := eq_append_cons_of_mem hx
      rw [happend, splitOn_append_cons_self_of_not_mem (hmem first hfirst),
        splitOn_append_cons_self_of_not_mem hfirst, ih _ (by simp; omega) rest rfl,
        map_cons]
    · rw [splitOn_eq_singleton hx, splitOn_eq_singleton (hmem s hx), map_singleton]

end Split

end Lib
