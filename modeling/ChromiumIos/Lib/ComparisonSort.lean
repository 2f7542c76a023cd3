import Mathlib.Data.List.Basic
import Mathlib.Order.Lattice

/-!
# Sorting by a comparison with effects

A sorting routine that learns about its input only by comparing two elements, as
the tree of the comparisons it may make. The comparison may change a state, so
the order in which the routine compares matters.

- `ComparisonSort.run`: the routine, with a comparison that has effects.
- `Sorts`: whatever the answers, the routine compares elements of a list and ends
  with a permutation of it.
- `SortsByKey`: when the answers compare keys, it ends in the order of the keys.
- `run_perm`, `run_invariant`: what this says of a run.
- `run_eq_of_answers`: a run whose answers turn out to be those of a comparison
  without effects is the run with that comparison.
- `insertion`: insertion sort is such a routine.
-/

namespace Lib

universe u v w

/-- What a sorting routine does next: end, or compare two elements. -/
inductive ComparisonSort (α : Type u)
  | done (result : List α)
  | compare (a b : α) (next : Ordering → ComparisonSort α)

namespace ComparisonSort

variable {α : Type u} {σ : Type v}

/-- Runs the routine with a comparison that may change the state. -/
def run (cmp : σ → α → α → Ordering × σ) : ComparisonSort α → σ → List α × σ
  | .done result, s => (result, s)
  | .compare a b next, s => (next (cmp s a b).1).run cmp (cmp s a b).2

/-- The routine compares elements of `l`, and ends with a permutation of it. -/
def Sorts (l : List α) : ComparisonSort α → Prop
  | .done result => result.Perm l
  | .compare a b next => a ∈ l ∧ b ∈ l ∧ ∀ answer, Sorts l (next answer)

/-- The routine with the comparison of keys. -/
def runByKey {κ : Type w} [LinearOrder κ] (key : α → κ) (sort : ComparisonSort α) : List α :=
  (sort.run (fun _ a b => (Ord.compare (key a) (key b), ())) ()).1

/-- Whatever the keys, the routine ends in their order. -/
def SortsByKey (sort : ComparisonSort α) : Prop :=
  ∀ (κ : Type w) [LinearOrder κ] (key : α → κ),
    (sort.runByKey key).Pairwise fun a b => key a ≤ key b

variable {cmp : σ → α → α → Ordering × σ}

theorem run_perm {l : List α} {sort : ComparisonSort α} (h : sort.Sorts l) (s : σ) :
    (sort.run cmp s).1.Perm l := by
  induction sort generalizing s with
  | done result => exact h
  | compare a b next ih => exact ih _ (h.2.2 _) _

/-- What the comparisons of elements preserve, the routine preserves. -/
theorem run_invariant {l : List α} {I : σ → Prop}
    (hcmp : ∀ s, ∀ a ∈ l, ∀ b ∈ l, I s → I (cmp s a b).2)
    {sort : ComparisonSort α} (h : sort.Sorts l) {s : σ} (hs : I s) : I (sort.run cmp s).2 := by
  induction sort generalizing s with
  | done result => exact hs
  | compare a b next ih => exact ih _ (h.2.2 _) (hcmp s a h.1 b h.2.1 hs)

/-- Let `A` hold of a state only if it held of those before, and let it tell the
answers: from a run that ends in `A`, all its answers are known. -/
theorem run_eq_of_answers {κ : Type w} [LinearOrder κ] {key : α → κ} {A : σ → Prop}
    (hcmp : ∀ s a b, A (cmp s a b).2 → A s ∧ (cmp s a b).1 = Ord.compare (key a) (key b))
    (sort : ComparisonSort α) {s : σ} (h : A (sort.run cmp s).2) :
    A s ∧ (sort.run cmp s).1 = sort.runByKey key := by
  induction sort generalizing s with
  | done result => exact ⟨h, rfl⟩
  | compare a b next ih =>
    obtain ⟨hnext, hresult⟩ := ih _ h
    obtain ⟨hs, hanswer⟩ := hcmp s a b hnext
    refine ⟨hs, ?_⟩
    show ((next (cmp s a b).1).run cmp (cmp s a b).2).1 = (next _).runByKey key
    rw [hresult, hanswer]

/-! ## Insertion sort -/

/-- Inserts `x` in a sorted list, and goes on with the result. -/
def insertInto (x : α) : List α → (List α → ComparisonSort α) → ComparisonSort α
  | [], rest => rest [x]
  | y :: l, rest => .compare x y fun answer =>
    if answer = .gt then insertInto x l fun l' => rest (y :: l') else rest (x :: y :: l)

/-- Sorts a list by insertion, and goes on with the result. -/
def insertionInto : List α → (List α → ComparisonSort α) → ComparisonSort α
  | [], rest => rest []
  | x :: l, rest => insertionInto l fun l' => insertInto x l' rest

def insertion (l : List α) : ComparisonSort α := insertionInto l .done

theorem insertInto_sorts {x : α} {l l₀ : List α} {rest : List α → ComparisonSort α}
    (hl : x :: l ⊆ l₀) (h : ∀ l', l'.Perm (x :: l) → (rest l').Sorts l₀) :
    (insertInto x l rest).Sorts l₀ := by
  induction l generalizing rest with
  | nil => exact h [x] (.refl _)
  | cons y l ih =>
    have hswap : y :: x :: l ⊆ l₀ := fun z hz => hl ((List.Perm.swap x y l).subset hz)
    refine ⟨hl List.mem_cons_self, hswap List.mem_cons_self, fun answer => ?_⟩
    show (if answer = .gt then _ else _ : ComparisonSort α).Sorts l₀
    split
    · exact ih (List.cons_subset.1 hswap).2
        fun l' hl' => h _ ((hl'.cons y).trans (.swap x y l))
    · exact h _ (.refl _)

theorem insertionInto_sorts {l l₀ : List α} {rest : List α → ComparisonSort α}
    (hl : l ⊆ l₀) (h : ∀ l', l'.Perm l → (rest l').Sorts l₀) :
    (insertionInto l rest).Sorts l₀ := by
  induction l generalizing rest with
  | nil => exact h [] (.refl _)
  | cons x l ih =>
    refine ih (List.cons_subset.1 hl).2 fun l' hl' => ?_
    have hperm := hl'.cons x
    exact insertInto_sorts (fun z hz => hl (hperm.subset hz)) fun l'' hl'' =>
      h l'' (hl''.trans hperm)

theorem insertion_sorts (l : List α) : (insertion l).Sorts l :=
  insertionInto_sorts (List.Subset.refl l) fun _ hperm => hperm

section ByKey

variable {κ : Type w} [LinearOrder κ] {key : α → κ}

theorem insertInto_runByKey {x : α} {l : List α} (hl : l.Pairwise fun a b => key a ≤ key b)
    (rest : List α → ComparisonSort α) :
    ∃ l', l'.Perm (x :: l) ∧ (l'.Pairwise fun a b => key a ≤ key b) ∧
      (insertInto x l rest).runByKey key = (rest l').runByKey key := by
  induction hl generalizing rest with
  | nil => exact ⟨[x], .refl _, List.pairwise_singleton _ _, rfl⟩
  | @cons y l hy hl ih =>
    rw [insertInto]
    show ∃ l', _ ∧ _ ∧ (if Ord.compare (key x) (key y) = .gt then _ else _ :
      ComparisonSort α).runByKey key = _
    by_cases hgt : Ord.compare (key x) (key y) = .gt
    · rw [if_pos hgt]
      obtain ⟨l', hperm, hsorted, hrun⟩ := ih fun l' => rest (y :: l')
      refine ⟨y :: l', (hperm.cons y).trans (.swap x y l), .cons (fun z hz => ?_) hsorted, hrun⟩
      rcases List.mem_cons.1 (hperm.subset hz) with rfl | hmem
      · exact (compare_gt_iff_gt.1 hgt).le
      · exact hy z hmem
    · rw [if_neg hgt]
      have hle : key x ≤ key y := not_lt.1 fun hlt => hgt (compare_gt_iff_gt.2 hlt)
      refine ⟨x :: y :: l, .refl _, .cons (fun z hz => ?_) (.cons hy hl), rfl⟩
      rcases List.mem_cons.1 hz with rfl | hmem
      · exact hle
      · exact hle.trans (hy z hmem)

theorem insertionInto_runByKey (l : List α) (rest : List α → ComparisonSort α) :
    ∃ l', l'.Perm l ∧ (l'.Pairwise fun a b => key a ≤ key b) ∧
      (insertionInto l rest).runByKey key = (rest l').runByKey key := by
  induction l generalizing rest with
  | nil => exact ⟨[], .refl _, .nil, rfl⟩
  | cons x l ih =>
    obtain ⟨l', hperm, hsorted, hrun⟩ := ih fun l' => insertInto x l' rest
    obtain ⟨l'', hperm', hsorted', hrun'⟩ := insertInto_runByKey hsorted rest
    exact ⟨l'', hperm'.trans (hperm.cons x), hsorted', hrun.trans hrun'⟩

end ByKey

theorem insertion_sortsByKey (l : List α) : (insertion l).SortsByKey := by
  intro κ _ key
  obtain ⟨l', -, hsorted, hrun⟩ : ∃ l' : List α, l'.Perm l ∧
      (l'.Pairwise fun a b => key a ≤ key b) ∧
        (insertionInto l .done).runByKey key = (done l').runByKey key :=
    insertionInto_runByKey l .done
  rw [insertion, hrun]
  exact hsorted

end ComparisonSort

end Lib
