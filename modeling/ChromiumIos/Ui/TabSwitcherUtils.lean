import ChromiumIos.Lib.EditDistance
import ChromiumIos.Lib.EditScript

/-!
# Minimal replacements in the tab switcher

`TabSwitcherMinimalReplacementOperations` of `tab_switcher_utils.mm`: a matrix of
costs is filled, and the operations are read off it from its last entry back to
the first. Items are only compared; costs are integers without a bound.

- `filled_costMatrix`: the equations that the entries of the matrix satisfy.
- `Filled.eq_levenshtein`: an entry is the distance of two prefixes.
- `backtrackLoop_spec`: what the loop reads off the matrix.
- `replacement_operations_minimal`: the operations turn one list into the other,
  and there are as few as possible.
-/

namespace ChromiumIos

open Lib List Nat

inductive BacktrackOperation
  | nothing
  | substitution
  | deletion
  | insertion
deriving DecidableEq, Repr

/-- The costs by initial index, then final index. -/
abbrev CostMatrix := Nat → Nat → Int

def CostMatrix.set (m : CostMatrix) (initialIndex finalIndex : Nat) (cost : Int) : CostMatrix :=
  fun i j => if i = initialIndex ∧ j = finalIndex then cost else m i j

/-- `BacktrackOperationInCostMatrix`. -/
def backtrackOperationInCostMatrix (m : CostMatrix) (finalIndex initialIndex : Nat) :
    BacktrackOperation :=
  if finalIndex = 0 then .deletion
  else if initialIndex = 0 then .insertion
  else
    let currentCost := m initialIndex finalIndex
    if m initialIndex (finalIndex - 1) + 1 = currentCost then .insertion
    else if m (initialIndex - 1) finalIndex + 1 = currentCost then .deletion
    else if m (initialIndex - 1) (finalIndex - 1) = currentCost then .nothing
    else .substitution

variable {α : Type} [DecidableEq α]

/-- The body of the inner loop of step 1. -/
def fillCell (initial final : List α) (initialIndex : Nat) (m : CostMatrix) (finalIndex : Nat) :
    CostMatrix :=
  if initial[initialIndex - 1]? = final[finalIndex - 1]? then
    m.set initialIndex finalIndex (m (initialIndex - 1) (finalIndex - 1))
  else
    let costAfterSubstitution := m (initialIndex - 1) (finalIndex - 1) + 1
    let costAfterInsertion := m initialIndex (finalIndex - 1) + 1
    let costAfterDeletion := m (initialIndex - 1) finalIndex + 1
    m.set initialIndex finalIndex
      (min (min costAfterDeletion costAfterInsertion) costAfterSubstitution)

/-- The body of the outer loop of step 1. -/
def fillRow (initial final : List α) (m : CostMatrix) (initialIndex : Nat) : CostMatrix :=
  (List.range final.length).foldl (fun m k => fillCell initial final initialIndex m (k + 1)) m

/-- The first column and the first row. -/
def initialCosts (initial final : List α) : CostMatrix :=
  let m := (List.range initial.length).foldl (fun (m : CostMatrix) k => m.set (k + 1) 0 (k + 1))
    fun _ _ => 0
  (List.range final.length).foldl (fun (m : CostMatrix) k => m.set 0 (k + 1) (k + 1)) m

/-- Step 1: the cost matrix. -/
def costMatrix (initial final : List α) : CostMatrix :=
  (List.range initial.length).foldl (fun m k => fillRow initial final m (k + 1))
    (initialCosts initial final)

/-- The variables of step 2, with the operations in the order they are pushed. -/
structure Backtrack where
  initialIndex : Nat
  finalIndex : Nat
  operations : EditScript
deriving DecidableEq, Repr

/-- The body of the loop of step 2. A substitution and a deletion are relative to
the initial list, an insertion to the final one. -/
def backtrackStep (m : CostMatrix) (b : Backtrack) : Backtrack :=
  match backtrackOperationInCostMatrix m b.finalIndex b.initialIndex with
  | .substitution =>
    { finalIndex := b.finalIndex - 1
      initialIndex := b.initialIndex - 1
      operations := { b.operations with
        substitutions := b.operations.substitutions ++ [b.initialIndex - 1] } }
  | .deletion =>
    { b with
      initialIndex := b.initialIndex - 1
      operations := { b.operations with
        deletions := b.operations.deletions ++ [b.initialIndex - 1] } }
  | .insertion =>
    { b with
      finalIndex := b.finalIndex - 1
      operations := { b.operations with
        insertions := b.operations.insertions ++ [b.finalIndex - 1] } }
  | .nothing =>
    { b with
      finalIndex := b.finalIndex - 1
      initialIndex := b.initialIndex - 1 }

/-- The loop of step 2, for a number of rounds. -/
def backtrackLoop (m : CostMatrix) : Nat → Backtrack → Option Backtrack
  | 0, b => if b.initialIndex ≠ 0 ∨ b.finalIndex ≠ 0 then none else some b
  | rounds + 1, b =>
    if b.initialIndex ≠ 0 ∨ b.finalIndex ≠ 0 then backtrackLoop m rounds (backtrackStep m b)
    else some b

/-- The operations in ascending order. -/
def reversed (s : EditScript) : EditScript :=
  ⟨s.substitutions.reverse, s.deletions.reverse, s.insertions.reverse⟩

/-- `TabSwitcherMinimalReplacementOperations`, with as many rounds of the loop of
step 2 as there are items; none is a loop that goes on. -/
def tabSwitcherMinimalReplacementOperations (initial final : List α) : Option EditScript :=
  (backtrackLoop (costMatrix initial final) (initial.length + final.length)
    ⟨initial.length, final.length, ⟨[], [], []⟩⟩).map fun b => reversed b.operations

/-! ## The cost matrix -/

/-- What a loop over the indexes below `n` establishes. -/
theorem foldl_range_invariant {σ : Type} {I : Nat → σ → Prop} {n : Nat} {f : σ → Nat → σ} {s : σ}
    (hs : I 0 s) (hstep : ∀ k t, k < n → I k t → I (k + 1) (f t k)) :
    I n ((List.range n).foldl f s) := by
  induction n with
  | zero => exact hs
  | succ n ih =>
    rw [range_succ, foldl_append, foldl_cons, foldl_nil]
    exact hstep n _ (lt_succ_self n) (ih fun k t hk => hstep k t (lt_succ_of_lt hk))

/-- The equation of an entry behind the first row and column. -/
def Cell (initial final : List α) (m : CostMatrix) (i j : Nat) : Prop :=
  m (i + 1) (j + 1) =
    if initial[i]? = final[j]? then m i j
    else min (min (m i (j + 1) + 1) (m (i + 1) j + 1)) (m i j + 1)

/-- The first rows are filled. -/
structure Filled (initial final : List α) (rows : Nat) (m : CostMatrix) : Prop where
  column : ∀ i ≤ initial.length, m i 0 = i
  row : ∀ j ≤ final.length, m 0 j = j
  cell : ∀ i < rows, ∀ j < final.length, Cell initial final m i j

variable {initial final : List α} {m : CostMatrix}

theorem CostMatrix.set_same (m : CostMatrix) (i j : Nat) (cost : Int) : m.set i j cost i j = cost :=
  if_pos ⟨rfl, rfl⟩

theorem CostMatrix.set_other (m : CostMatrix) {i j i' j' : Nat} (cost : Int) (h : i' ≠ i ∨ j' ≠ j) :
    m.set i j cost i' j' = m i' j' :=
  if_neg fun heq => h.elim (fun hi => hi heq.1) fun hj => hj heq.2

theorem filled_initialCosts (initial final : List α) :
    Filled initial final 0 (initialCosts initial final) := by
  -- the first loop fills the column, the second one the row
  have hcolumn : ∀ i ≤ initial.length, (List.range initial.length).foldl
      (fun (m : CostMatrix) k => m.set (k + 1) 0 (k + 1)) (fun _ _ => 0) i 0 = i := by
    refine foldl_range_invariant (I := fun n (m : CostMatrix) => ∀ i ≤ n, m i 0 = i) ?_ ?_
    · intro i hi
      rw [le_zero.1 hi]
      rfl
    · intro k m _ hm i hi
      by_cases heq : i = k + 1
      · subst heq
        exact CostMatrix.set_same m _ _ _
      · rw [CostMatrix.set_other m _ (.inl heq)]
        exact hm i (by omega)
  have hboth : (∀ i ≤ initial.length, initialCosts initial final i 0 = i) ∧
      ∀ j ≤ final.length, initialCosts initial final 0 j = j := by
    refine foldl_range_invariant (I := fun n (m : CostMatrix) =>
      (∀ i ≤ initial.length, m i 0 = i) ∧ ∀ j ≤ n, m 0 j = j) ?_ ?_
    · refine ⟨hcolumn, fun j hj => ?_⟩
      rw [le_zero.1 hj]
      exact hcolumn 0 (zero_le _)
    · rintro k m _ ⟨hm, hrow⟩
      refine ⟨fun i hi => ?_, fun j hj => ?_⟩
      · rw [CostMatrix.set_other m _ (.inr (succ_ne_zero k).symm)]
        exact hm i hi
      · by_cases heq : j = k + 1
        · subst heq
          exact CostMatrix.set_same m _ _ _
        · rw [CostMatrix.set_other m _ (.inr heq)]
          exact hrow j (by omega)
  exact ⟨hboth.1, hboth.2, fun i hi => absurd hi (not_lt_zero i)⟩

/-- The inner loop writes one entry, which satisfies its equation. -/
theorem fillCell_spec (initial final : List α) (m : CostMatrix) (i j : Nat) :
    (∀ i' j', i' ≠ i + 1 ∨ j' ≠ j + 1 →
      fillCell initial final (i + 1) m (j + 1) i' j' = m i' j') ∧
    Cell initial final (fillCell initial final (i + 1) m (j + 1)) i j := by
  have hset : fillCell initial final (i + 1) m (j + 1) = m.set (i + 1) (j + 1)
      (if initial[i]? = final[j]? then m i j
        else min (min (m i (j + 1) + 1) (m (i + 1) j + 1)) (m i j + 1)) := by
    rw [fillCell]
    simp only [Nat.add_sub_cancel]
    split
    · rfl
    · rfl
  have hother : ∀ i' j', i' ≠ i + 1 ∨ j' ≠ j + 1 →
      fillCell initial final (i + 1) m (j + 1) i' j' = m i' j' := by
    intro i' j' h
    rw [hset]
    exact CostMatrix.set_other m _ h
  refine ⟨hother, ?_⟩
  rw [Cell, hother i j (by omega), hother i (j + 1) (by omega), hother (i + 1) j (by omega), hset]
  exact CostMatrix.set_same m _ _ _

theorem Filled.fillRow {rows : Nat} (h : Filled initial final rows m) :
    Filled initial final (rows + 1) (fillRow initial final m (rows + 1)) := by
  -- the inner loop writes the row from left to right, and nothing else
  have hrow : (∀ i j, i ≠ rows + 1 ∨ j = 0 →
        ChromiumIos.fillRow initial final m (rows + 1) i j = m i j) ∧
      ∀ j < final.length,
        Cell initial final (ChromiumIos.fillRow initial final m (rows + 1)) rows j := by
    refine foldl_range_invariant (I := fun n (m' : CostMatrix) =>
      (∀ i j, i ≠ rows + 1 ∨ j = 0 → m' i j = m i j) ∧ ∀ j < n, Cell initial final m' rows j) ?_ ?_
    · exact ⟨fun _ _ _ => rfl, fun j hj => absurd hj (not_lt_zero j)⟩
    · rintro k m' _ ⟨hsame, hcells⟩
      obtain ⟨hother, hcell⟩ := fillCell_spec initial final m' rows k
      refine ⟨fun i j hij => ?_, fun j hj => ?_⟩
      · rw [hother i j (by omega)]
        exact hsame i j hij
      · by_cases heq : j = k
        · subst heq
          exact hcell
        · have hj' := hcells j (by omega)
          rw [Cell] at hj' ⊢
          rw [hother rows j (by omega), hother rows (j + 1) (by omega),
            hother (rows + 1) j (by omega), hother (rows + 1) (j + 1) (by omega)]
          exact hj'
  obtain ⟨hsame, hcells⟩ := hrow
  refine ⟨fun i hi => ?_, fun j hj => ?_, fun i hi j hj => ?_⟩
  · rw [hsame i 0 (.inr rfl)]
    exact h.column i hi
  · rw [hsame 0 j (by omega)]
    exact h.row j hj
  · by_cases heq : i = rows
    · subst heq
      exact hcells j hj
    · have hi' := h.cell i (by omega) j hj
      rw [Cell] at hi' ⊢
      rw [hsame i j (by omega), hsame i (j + 1) (by omega), hsame (i + 1) j (by omega),
        hsame (i + 1) (j + 1) (by omega)]
      exact hi'

theorem filled_costMatrix (initial final : List α) :
    Filled initial final initial.length (costMatrix initial final) :=
  foldl_range_invariant (I := fun n m => Filled initial final n m)
    (filled_initialCosts initial final) fun _ _ _ h => h.fillRow

/-- An entry is the distance of the items before it, which are read from the end. -/
theorem Filled.eq_levenshtein (h : Filled initial final initial.length m) {i j : Nat}
    (hi : i ≤ initial.length) (hj : j ≤ final.length) :
    m i j = levenshtein (initial.take i).reverse (final.take j).reverse := by
  induction i generalizing j with
  | zero => simp [h.row j hj, hj]
  | succ i ih =>
    induction j with
    | zero => simp [h.column (i + 1) hi, hi]
    | succ j ihj =>
      have hcell := h.cell i hi j hj
      rw [Cell, ih (by omega) (by omega), ih (by omega) hj, ihj (by omega),
        getElem?_eq_getElem hi, getElem?_eq_getElem hj] at hcell
      rw [hcell, take_succ_eq_append_getElem hi, take_succ_eq_append_getElem hj,
        reverse_append, reverse_append]
      simp only [reverse_singleton, singleton_append, levenshtein_cons, Option.some.injEq]
      split
      · rfl
      · push_cast
        omega

/-! ## Backtracking -/

/-- One round: the operation explains the cost of the entry that is left. -/
theorem Filled.backtrackStep_spec (h : Filled initial final initial.length m) {b : Backtrack}
    (hi : b.initialIndex ≤ initial.length) (hj : b.finalIndex ≤ final.length)
    (hne : b.initialIndex ≠ 0 ∨ b.finalIndex ≠ 0) :
    (∃ j, b.finalIndex = j + 1 ∧ m b.initialIndex (j + 1) = m b.initialIndex j + 1 ∧
      backtrackStep m b = ⟨b.initialIndex, j,
        { b.operations with insertions := b.operations.insertions ++ [j] }⟩) ∨
    (∃ i, b.initialIndex = i + 1 ∧ m (i + 1) b.finalIndex = m i b.finalIndex + 1 ∧
      backtrackStep m b = ⟨i, b.finalIndex,
        { b.operations with deletions := b.operations.deletions ++ [i] }⟩) ∨
    (∃ i j, b.initialIndex = i + 1 ∧ b.finalIndex = j + 1 ∧ initial[i]? = final[j]? ∧
      m (i + 1) (j + 1) = m i j ∧ backtrackStep m b = ⟨i, j, b.operations⟩) ∨
    ∃ i j, b.initialIndex = i + 1 ∧ b.finalIndex = j + 1 ∧ m (i + 1) (j + 1) = m i j + 1 ∧
      backtrackStep m b = ⟨i, j,
        { b.operations with substitutions := b.operations.substitutions ++ [i] }⟩ := by
  obtain ⟨initialIndex, finalIndex, operations⟩ := b
  simp only at hi hj hne ⊢
  cases finalIndex with
  | zero =>
    obtain ⟨i, rfl⟩ := exists_eq_succ_of_ne_zero (hne.resolve_right fun hzero => hzero rfl)
    refine .inr (.inl ⟨i, rfl, ?_, rfl⟩)
    rw [h.column (i + 1) hi, h.column i (by omega)]
    rfl
  | succ j =>
    cases initialIndex with
    | zero =>
      refine .inl ⟨j, rfl, ?_, rfl⟩
      rw [h.row (j + 1) hj, h.row j (by omega)]
      rfl
    | succ i =>
      have hcell := h.cell i hi j hj
      rw [Cell] at hcell
      by_cases hinsertion : m (i + 1) j + 1 = m (i + 1) (j + 1)
      · refine .inl ⟨j, rfl, hinsertion.symm, ?_⟩
        simp [backtrackStep, backtrackOperationInCostMatrix, hinsertion]
      by_cases hdeletion : m i (j + 1) + 1 = m (i + 1) (j + 1)
      · refine .inr (.inl ⟨i, rfl, hdeletion.symm, ?_⟩)
        simp [backtrackStep, backtrackOperationInCostMatrix, hinsertion, hdeletion]
      by_cases hnothing : m i j = m (i + 1) (j + 1)
      · refine .inr (.inr (.inl ⟨i, j, rfl, rfl, ?_, hnothing.symm, ?_⟩))
        · -- different items would cost an operation
          by_contra hdiffer
          rw [if_neg hdiffer] at hcell
          omega
        · simp [backtrackStep, backtrackOperationInCostMatrix, hinsertion, hdeletion, hnothing]
      · refine .inr (.inr (.inr ⟨i, j, rfl, rfl, ?_, ?_⟩))
        · split at hcell
          · exact absurd hcell.symm hnothing
          · omega
        · simp [backtrackStep, backtrackOperationInCostMatrix, hinsertion, hdeletion, hnothing]

/-- The operations in the order they are pushed, after those of `operations`. -/
def pushed (operations s : EditScript) : EditScript :=
  ⟨operations.substitutions ++ s.substitutions.reverse,
    operations.deletions ++ s.deletions.reverse, operations.insertions ++ s.insertions.reverse⟩

/-- What one round adds: a script for the items that are left after it is extended to
one for those that were left before. -/
theorem Filled.extend_backtrackStep (h : Filled initial final initial.length m) {b : Backtrack}
    (hi : b.initialIndex ≤ initial.length) (hj : b.finalIndex ≤ final.length)
    (hne : b.initialIndex ≠ 0 ∨ b.finalIndex ≠ 0) :
    (backtrackStep m b).initialIndex ≤ initial.length ∧
      (backtrackStep m b).finalIndex ≤ final.length ∧
      (backtrackStep m b).initialIndex + (backtrackStep m b).finalIndex <
        b.initialIndex + b.finalIndex ∧
      ∀ s : EditScript, s.Turns initial final (backtrackStep m b).initialIndex
          (backtrackStep m b).finalIndex →
        (s.cost : Int) = m (backtrackStep m b).initialIndex (backtrackStep m b).finalIndex →
        ∃ t : EditScript, t.Turns initial final b.initialIndex b.finalIndex ∧
          (t.cost : Int) = m b.initialIndex b.finalIndex ∧
          pushed (backtrackStep m b).operations s = pushed b.operations t := by
  obtain ⟨initialIndex, finalIndex, operations⟩ := b
  simp only at hi hj hne
  rcases h.backtrackStep_spec (b := ⟨initialIndex, finalIndex, operations⟩) hi hj hne with
    ⟨j, rfl, hcost, hstep⟩ | ⟨i, rfl, hcost, hstep⟩ | ⟨i, j, rfl, rfl, heq, hcost, hstep⟩ |
    ⟨i, j, rfl, rfl, hcost, hstep⟩
  · rw [hstep]
    refine ⟨hi, le_of_succ_le hj, lt_succ_self _, ?_⟩
    intro s hturns hs
    refine ⟨_, .insert hj hturns, ?_, by simp [pushed]⟩
    rw [hcost, ← hs]
    simp only [EditScript.cost, length_append, length_singleton]
    omega
  · rw [hstep]
    refine ⟨le_of_succ_le hi, hj, by simp only; omega, ?_⟩
    intro s hturns hs
    refine ⟨_, .delete hi hturns, ?_, by simp [pushed]⟩
    rw [hcost, ← hs]
    simp only [EditScript.cost, length_append, length_singleton]
    omega
  · rw [hstep]
    refine ⟨le_of_succ_le hi, le_of_succ_le hj, by simp only; omega, ?_⟩
    intro s hturns hs
    rw [getElem?_eq_getElem hi, getElem?_eq_getElem hj, Option.some.injEq] at heq
    exact ⟨s, .keep hi hj heq hturns, by rw [hcost, ← hs], rfl⟩
  · rw [hstep]
    refine ⟨le_of_succ_le hi, le_of_succ_le hj, by simp only; omega, ?_⟩
    intro s hturns hs
    refine ⟨_, .substitute hi hj hturns, ?_, by simp [pushed]⟩
    rw [hcost, ← hs]
    simp only [EditScript.cost, length_append, length_singleton]
    omega

/-- **Loop of step 2**: within as many rounds as there are items left it ends, and
what it pushes is a script for them that costs what the matrix says. -/
theorem Filled.backtrackLoop_spec (h : Filled initial final initial.length m) (rounds : Nat)
    (b : Backtrack) (hi : b.initialIndex ≤ initial.length) (hj : b.finalIndex ≤ final.length)
    (hrounds : b.initialIndex + b.finalIndex ≤ rounds) :
    ∃ s : EditScript, s.Turns initial final b.initialIndex b.finalIndex ∧
      (s.cost : Int) = m b.initialIndex b.finalIndex ∧
      backtrackLoop m rounds b = some ⟨0, 0, pushed b.operations s⟩ := by
  have hdone : ∀ b : Backtrack, ¬ (b.initialIndex ≠ 0 ∨ b.finalIndex ≠ 0) →
      ∃ s : EditScript, s.Turns initial final b.initialIndex b.finalIndex ∧
        (s.cost : Int) = m b.initialIndex b.finalIndex ∧
        b = ⟨0, 0, pushed b.operations s⟩ := by
    rintro ⟨initialIndex, finalIndex, operations⟩ hzero
    obtain ⟨rfl, rfl⟩ : initialIndex = 0 ∧ finalIndex = 0 := by
      simp only at hzero
      omega
    refine ⟨⟨[], [], []⟩, .nil, (h.column 0 (zero_le _)).symm, ?_⟩
    simp [pushed]
  induction rounds generalizing b with
  | zero =>
    have hzero : ¬ (b.initialIndex ≠ 0 ∨ b.finalIndex ≠ 0) := by omega
    obtain ⟨s, hturns, hcost, hb⟩ := hdone b hzero
    refine ⟨s, hturns, hcost, ?_⟩
    rw [backtrackLoop, if_neg hzero, ← hb]
  | succ rounds ih =>
    rw [backtrackLoop]
    split
    · next hne =>
      obtain ⟨hi', hj', hless, hextend⟩ := h.extend_backtrackStep hi hj hne
      obtain ⟨s, hturns, hcost, hloop⟩ := ih (backtrackStep m b) hi' hj' (by omega)
      obtain ⟨t, hturns', hcost', hpushed⟩ := hextend s hturns hcost
      exact ⟨t, hturns', hcost', hloop.trans (by rw [hpushed])⟩
    · next hzero =>
      obtain ⟨s, hturns, hcost, hb⟩ := hdone b hzero
      exact ⟨s, hturns, hcost, congrArg some hb⟩

/-- **Minimal replacement**: the function returns, with ascending operations; when
its deletions and then its insertions are made, what comes out has the length of
the final list and agrees with it except where an item is to be substituted; and
there are as many operations as the distance of the two lists. -/
theorem replacement_operations_minimal (initial final : List α) :
    ∃ operations, tabSwitcherMinimalReplacementOperations initial final = some operations ∧
      operations.Ascending ∧ (operations.replay initial final).length = final.length ∧
      EditScript.Agrees final operations.substitutions (operations.replay initial final) ∧
      operations.cost = levenshtein initial final := by
  have hfilled := filled_costMatrix initial final
  obtain ⟨s, hturns, hcost, hloop⟩ := hfilled.backtrackLoop_spec
    (initial.length + final.length) ⟨initial.length, final.length, ⟨[], [], []⟩⟩
    (le_refl _) (le_refl _) (le_refl _)
  obtain ⟨hlength, hagrees⟩ := hturns.replay
  refine ⟨s, ?_, hturns.ascending, hlength, hagrees, ?_⟩
  · rw [tabSwitcherMinimalReplacementOperations, hloop]
    simp [pushed, reversed]
  · simp only at hcost
    rw [hfilled.eq_levenshtein (le_refl _) (le_refl _), take_length, take_length,
      levenshtein_reverse] at hcost
    exact Int.ofNat.inj hcost

example : tabSwitcherMinimalReplacementOperations [0, 1] [1, 2] = some ⟨[], [0], [1]⟩ := by decide

/-- A substitution is relative to the initial list: here it is about the second
item, which ends up as the third. -/
theorem substitution_relative_to_initial :
    ∃ operations, tabSwitcherMinimalReplacementOperations [1, 5] [0, 1, 6] = some operations ∧
      (operations.replay [1, 5] [0, 1, 6]).map (·.2) = [0, 1, 5] ∧
      2 ∉ operations.substitutions ∧
      ((operations.replay [1, 5] [0, 1, 6]).map (·.2))[2]? ≠ ([0, 1, 6] : List Nat)[2]? := by
  refine ⟨⟨[1], [], [0]⟩, ?_, ?_, ?_, ?_⟩
  · decide
  · decide
  · decide
  · decide

end ChromiumIos
