import ChromiumIos.Lib.Walk
import ChromiumIos.Navigation.NavigationManagerImpl

/-!
# Offsets and the back and forward lists

`GetIndexForOffset` walks the history step by step; `backwardItems` and
`forwardItems` list it. Both skip redirects, each in its own way.

- Going back they agree (`backward_offsets_agree`): both stop at the items that
  no redirect follows.
- Going forward they do not. A *chain* is an item with the redirects that
  follow it. The list shows where a chain begins, an offset leads to where it
  ends; and when the forward history begins with a redirect, that redirect begins
  a chain for the offsets but is not in the list (`forward_offsets_agree`).
- The way back and forward again ends where a chain ends (`back_then_forward`).
-/

namespace ChromiumIos

open Lib List Option

namespace CRWSessionController

/-- A session whose last committed index is a position, with as many items as
an `int` can count. -/
structure ValidHistory (s : CRWSessionController) : Prop where
  last : Cursor s.items.length s.lastCommittedItemIndex
  count : s.items.length ≤ intMax

instance (s : CRWSessionController) : Decidable s.ValidHistory :=
  decidable_of_iff (Cursor s.items.length s.lastCommittedItemIndex ∧ s.items.length ≤ intMax)
    ⟨fun ⟨hlast, hcount⟩ => ⟨hlast, hcount⟩, fun ⟨hlast, hcount⟩ => ⟨hlast, hcount⟩⟩

section

variable {s : CRWSessionController}

theorem getItemCount_eq (h : s.ValidHistory) : s.getItemCount = s.items.length :=
  wrapInt_of_index (by omega) h.count

theorem getLastCommittedItemIndex_eq (h : s.ValidHistory) :
    s.getLastCommittedItemIndex = s.lastCommittedItemIndex := by
  obtain ⟨hlow, hhigh⟩ := h.last
  have hcount := h.count
  rw [getLastCommittedItemIndex, getItemCount_eq h]
  split
  · omega
  · exact wrapInt_of_index hlow (by omega)

theorem isRedirectItemAtIndex_natCast (index : Nat) :
    s.isRedirectItemAtIndex index = s.isRedirectTransitionForItemAtIndex index := by
  rw [isRedirectItemAtIndex, nth?_natCast]
  rfl

end

/-! ## Going back -/

section Back

variable (s : CRWSessionController)

/-- The item one step back from `index`: the one before the first item, from
`index` downwards, that is not a redirect. -/
def back : (index : Nat) → Option Nat
  | 0 => none
  | index + 1 => if s.isRedirectTransitionForItemAtIndex (index + 1) then back index else some index

/-- `backwardItems` lists the steps back. -/
theorem isTrail_back (index : Nat) : IsTrail s.back index (s.backwardItemsLoop index) := by
  induction index with
  | zero => exact rfl
  | succ index ih =>
    rw [backwardItemsLoop]
    by_cases hredirect : s.isRedirectTransitionForItemAtIndex (index + 1) = true
    · -- a step from a redirect is a step from the item before it
      have hback : s.back (index + 1) = s.back index := by rw [back, if_pos hredirect]
      rw [if_pos hredirect]
      cases hloop : s.backwardItemsLoop index with
      | nil =>
        rw [hloop] at ih
        exact hback.trans ih
      | cons previous rest =>
        rw [hloop] at ih
        exact ⟨hback.trans ih.1, ih.2⟩
    · rw [if_neg hredirect]
      exact ⟨by rw [back, if_neg hredirect], ih⟩

/-- The inner loop stops one item after the step back, or at the first item. -/
theorem skipRedirectsBack_of_some {index previous : Nat} (h : s.back index = some previous) :
    (s.skipRedirectsBack index : Int) - 1 = previous := by
  induction index with
  | zero => cases h
  | succ index ih =>
    rw [back] at h
    rw [skipRedirectsBack, isRedirectItemAtIndex_natCast]
    by_cases hredirect : s.isRedirectTransitionForItemAtIndex (index + 1) = true
    · rw [if_pos hredirect] at h ⊢
      exact ih h
    · rw [if_neg hredirect] at h ⊢
      obtain rfl : index = previous := some.inj h
      omega

theorem skipRedirectsBack_of_none {index : Nat} (h : s.back index = none) :
    s.skipRedirectsBack index = 0 := by
  induction index with
  | zero => rfl
  | succ index ih =>
    rw [back] at h
    rw [skipRedirectsBack, isRedirectItemAtIndex_natCast]
    by_cases hredirect : s.isRedirectTransitionForItemAtIndex (index + 1) = true
    · rw [if_pos hredirect] at h ⊢
      exact ih h
    · rw [if_neg hredirect] at h
      cases h

/-- Where the loop of going back leads, when the steps that are left count as
positions before the first item. -/
def backResult (steps : Nat) (result : Int) : Int :=
  (s.goBackLoop steps result).1 - (s.goBackLoop steps result).2

theorem backResult_of_nonpos (steps : Nat) {result : Int} (h : result ≤ 0) :
    s.backResult steps result = result - steps := by
  rw [backResult]
  cases steps with
  | zero => rfl
  | succ steps => rw [goBackLoop, if_neg (by omega)]

theorem backResult_succ (steps index : Nat) :
    s.backResult (steps + 1) (index + 1 : Nat) =
      s.backResult steps (s.skipRedirectsBack (index + 1) - 1) := by
  rw [backResult, goBackLoop, if_pos (by omega)]
  rfl

/-- The loop takes the steps back while there are any. -/
theorem backResult_of_some {steps index target : Nat}
    (h : Lib.steps s.back steps index = some target) : s.backResult steps index = target := by
  induction steps generalizing index with
  | zero =>
    obtain rfl : index = target := some.inj h
    exact Int.sub_zero _
  | succ steps ih =>
    obtain ⟨previous, hback, hrest⟩ := bind_eq_some_iff.1 h
    cases index with
    | zero => cases hback
    | succ index =>
      rw [backResult_succ, s.skipRedirectsBack_of_some hback]
      exact ih hrest

/-- Then it leaves the history. -/
theorem backResult_of_none {steps index : Nat} (h : Lib.steps s.back steps index = none) :
    -1 - (steps : Int) ≤ s.backResult steps index ∧ s.backResult steps index < 0 := by
  induction steps generalizing index with
  | zero => cases h
  | succ steps ih =>
    cases index with
    | zero =>
      rw [Int.natCast_zero, s.backResult_of_nonpos (steps + 1) (Int.le_refl 0)]
      omega
    | succ index =>
      rw [backResult_succ]
      cases hback : s.back (index + 1) with
      | none =>
        rw [s.skipRedirectsBack_of_none hback, s.backResult_of_nonpos steps (by decide)]
        omega
      | some previous =>
        rw [Lib.steps, hback] at h
        have := ih h
        rw [s.skipRedirectsBack_of_some hback]
        omega

end Back

variable {s : CRWSessionController}

/-- The steps a negative offset stands for: a transient item counts as one. -/
def backSteps (s : CRWSessionController) (k : Nat) : Nat :=
  if s.transientItem.isSome then k - 1 else k

theorem getIndexForOffset_neg (h : s.ValidHistory) (hpending : s.pendingItemIndex = -1) {k : Nat}
    (hk : 1 ≤ k) :
    s.getIndexForOffset (-(k : Int)) =
      let result := wrapInt (s.backResult (s.backSteps k) s.lastCommittedItemIndex)
      if result > s.items.length then intMin else result := by
  have hsteps : (-(if s.transientItem.isSome ∧ s.pendingItemIndex = -1 then -(k : Int) + 1
      else -(k : Int))).toNat = s.backSteps k := by
    rw [backSteps]
    by_cases htransient : s.transientItem.isSome = true
    · rw [if_pos ⟨htransient, hpending⟩, if_pos htransient]
      omega
    · rw [if_neg fun h => htransient h.1, if_neg htransient]
      omega
  rw [getIndexForOffset, getLastCommittedItemIndex_eq h, getItemCount_eq h, if_pos hpending,
    if_pos (by omega)]
  simp only [hsteps]
  rfl

/-- The k-th entry of the back list is as many steps back. -/
theorem steps_back_eq (s : CRWSessionController) {last : Nat}
    (hlast : s.lastCommittedItemIndex = last) {k : Nat} (hk : 1 ≤ k) :
    steps s.back (s.backSteps k) last = s.backwardItems[k - 1]? := by
  have hcommitted : s.lastCommittedItemIndex > -1 := by omega
  rw [(s.isTrail_back last).steps_eq, backSteps, backwardItems, if_pos hcommitted, hlast]
  by_cases htransient : s.transientItem.isSome = true
  · simp only [if_pos htransient]
    rfl
  · simp only [if_neg htransient]
    obtain ⟨j, rfl⟩ : ∃ j, k = j + 1 := ⟨k - 1, by omega⟩
    rfl

theorem back_lt {index previous : Nat} (h : s.back index = some previous) : previous < index := by
  induction index with
  | zero => cases h
  | succ index ih =>
    rw [back] at h
    split at h
    · exact Nat.lt_succ_of_lt (ih h)
    · obtain rfl : index = previous := some.inj h
      exact Nat.lt_succ_self index

theorem steps_back_le {k index target : Nat} (h : steps s.back k index = some target) :
    target ≤ index := by
  induction k generalizing index with
  | zero => exact Nat.le_of_eq (some.inj h).symm
  | succ k ih =>
    obtain ⟨previous, hback, hrest⟩ := bind_eq_some_iff.1 h
    exact Nat.le_trans (ih hrest) (Nat.le_of_lt (back_lt hback))

/-- A negative offset leads to the entry of the back list, or out of the
history. -/
theorem getIndexForOffset_back (h : s.ValidHistory) (hpending : s.pendingItemIndex = -1) {k : Nat}
    (hk : 1 ≤ k) (hmax : intMin ≤ -(k : Int)) :
    (∀ index : Nat, s.backwardItems[k - 1]? = some index →
      s.getIndexForOffset (-(k : Int)) = index ∧ index < s.items.length) ∧
    (s.backwardItems[k - 1]? = none → s.getIndexForOffset (-(k : Int)) < 0 ∨
      s.items.length ≤ s.getIndexForOffset (-(k : Int))) := by
  have hsteps : s.backSteps k ≤ k := by
    rw [backSteps]
    split <;> omega
  have hcount := h.count
  obtain ⟨hlow, hhigh⟩ := h.last
  rw [getIndexForOffset_neg h hpending hk]
  simp only
  have hneg : ∀ result : Int, -1 - (s.backSteps k : Int) ≤ result → result < 0 →
      (if wrapInt result > s.items.length then intMin else wrapInt result) < 0 ∨
        s.items.length ≤ if wrapInt result > s.items.length then intMin else wrapInt result := by
    intro result hge hlt
    rcases Int.lt_or_le result intMin with hoverflow | hfits
    · -- the one result below `INT_MIN` wraps around to `INT_MAX`
      obtain rfl : result = intMin - 1 := by omega
      rw [show wrapInt (intMin - 1) = intMax by decide]
      split
      · exact .inl (by decide)
      · exact .inr hcount
    · have hwrap : wrapInt result = result := by
        refine wrapInt_eq (by omega) ?_
        unfold intMax
        omega
      rw [hwrap, if_neg (by omega)]
      exact .inl hlt
  rcases Int.lt_or_le s.lastCommittedItemIndex 0 with hnone | hsome
  · -- nothing is committed
    have hback : s.backwardItems = [] := if_neg (by omega)
    rw [hback]
    refine ⟨nofun, fun _ => ?_⟩
    rw [s.backResult_of_nonpos _ (by omega)]
    exact hneg _ (by omega) (by omega)
  · obtain ⟨last, hlast⟩ := Int.eq_ofNat_of_zero_le hsome
    rw [← s.steps_back_eq hlast hk, hlast]
    constructor
    · intro index hindex
      have hle := steps_back_le hindex
      have hwrap : wrapInt (index : Int) = index := wrapInt_of_index (by omega) (by omega)
      rw [s.backResult_of_some hindex, hwrap, if_neg (by omega)]
      exact ⟨rfl, by omega⟩
    · intro hindex
      obtain ⟨hge, hlt⟩ := s.backResult_of_none hindex
      exact hneg _ hge hlt

/-- **Backward agreement**: the offset `-k` is available exactly when the back
list has a `k`-th entry, and it leads to that entry. -/
theorem backward_offsets_agree (h : s.ValidHistory) (hpending : s.pendingItemIndex = -1) {k : Int}
    (hk : 1 ≤ k) (hmax : intMin ≤ -k) :
    (s.canGoToOffset (-k) ↔ k ≤ s.backwardItems.length) ∧
      (s.canGoToOffset (-k) → ∃ index : Nat, s.getIndexForOffset (-k) = index ∧
        s.backwardItems[(k - 1).toNat]? = some index ∧ index < s.items.length) := by
  obtain ⟨n, rfl⟩ := Int.eq_ofNat_of_zero_le (by omega : 0 ≤ k)
  obtain ⟨hsome, hnone⟩ := getIndexForOffset_back h hpending (by omega : 1 ≤ n) hmax
  have hn : ((n : Int) - 1).toNat = n - 1 := by omega
  rw [canGoToOffset, getItemCount_eq h, hn]
  cases hentry : s.backwardItems[n - 1]? with
  | none =>
    have hlen := List.getElem?_eq_none_iff.1 hentry
    have hout := hnone hentry
    exact ⟨⟨fun hgo => by omega, fun hle => by omega⟩, fun hgo => by omega⟩
  | some index =>
    obtain ⟨hlen, -⟩ := List.getElem?_eq_some_iff.1 hentry
    obtain ⟨hindex, hlt⟩ := hsome index hentry
    rw [hindex]
    exact ⟨⟨fun _ => by omega, fun _ => ⟨by omega, by omega⟩⟩,
      fun _ => ⟨index, rfl, rfl, hlt⟩⟩

/-! ## Going forward -/

section Forward

/-- The inner loop stops before the first item that is not a redirect. -/
theorem skipRedirectsForward_eq (rest : List NavigationItemImpl) (index : Nat) :
    skipRedirectsForward rest ((index : Int) - 1) =
      (((forwardItemsLoop rest index).headD (index + rest.length) : Nat) : Int) - 1 := by
  induction rest generalizing index with
  | nil => rfl
  | cons item rest ih =>
    rw [skipRedirectsForward, forwardItemsLoop]
    by_cases hredirect : item.transitionType.isRedirect = true
    · rw [if_pos hredirect, if_pos hredirect]
      have hrest := ih (index + 1)
      rw [show ((index + 1 : Nat) : Int) - 1 = (index : Int) - 1 + 1 by omega] at hrest
      rw [hrest, length_cons, Nat.add_right_comm, Nat.add_assoc]
    · rw [if_neg hredirect, if_neg hredirect]
      rfl

variable {rest : List NavigationItemImpl}

/-- The head of the listed positions is the first item that is not a redirect,
and the rest is listed from there. -/
theorem forwardItemsLoop_cons {index first : Nat}
    {others : List Nat} (h : forwardItemsLoop rest index = first :: others) :
    ∃ j, first = index + j ∧ j < rest.length ∧
      (∀ i < j, rest[i]?.any (·.transitionType.isRedirect)) ∧
      ¬ rest[j]?.any (·.transitionType.isRedirect) ∧
      others = forwardItemsLoop (rest.drop (j + 1)) (first + 1) := by
  induction rest generalizing index with
  | nil => cases h
  | cons item rest ih =>
    rw [forwardItemsLoop] at h
    by_cases hredirect : item.transitionType.isRedirect = true
    · rw [if_pos hredirect] at h
      obtain ⟨j, hfirst, hj, hbefore, hat, hothers⟩ := ih h
      refine ⟨j + 1, by omega, Nat.succ_lt_succ hj, fun i hi => ?_, hat, hothers⟩
      cases i with
      | zero => exact hredirect
      | succ i => exact hbefore i (Nat.lt_of_succ_lt_succ hi)
    · rw [if_neg hredirect] at h
      obtain ⟨rfl, rfl⟩ := List.cons.inj h
      exact ⟨0, rfl, Nat.succ_pos _, fun i hi => absurd hi (Nat.not_lt_zero i), hredirect, rfl⟩

/-- Nothing is listed when all items are redirects. -/
theorem forwardItemsLoop_nil {index : Nat} (h : forwardItemsLoop rest index = []) :
    ∀ i < rest.length, rest[i]?.any (·.transitionType.isRedirect) := by
  induction rest generalizing index with
  | nil => exact fun i hi => absurd hi (Nat.not_lt_zero i)
  | cons item rest ih =>
    rw [forwardItemsLoop] at h
    by_cases hredirect : item.transitionType.isRedirect = true
    · rw [if_pos hredirect] at h
      intro i hi
      cases i with
      | zero => exact hredirect
      | succ i => exact ih h i (Nat.lt_of_succ_lt_succ hi)
    · rw [if_neg hredirect] at h
      cases h

/-- The listed positions are positions of the items. -/
theorem mem_forwardItemsLoop {index i : Nat}
    (h : i ∈ forwardItemsLoop rest index) : index ≤ i ∧ i < index + rest.length := by
  induction rest generalizing index with
  | nil => cases h
  | cons item rest ih =>
    rw [length_cons]
    rw [forwardItemsLoop] at h
    split at h
    · have := ih h
      omega
    · rcases mem_cons.1 h with rfl | hrest
      · omega
      · have := ih hrest
        omega

variable (s : CRWSessionController)

/-- The position after the chain that begins at `start`: that of the next item
that is not a redirect, or the end. -/
def forward (start : Nat) : Option Nat :=
  if start < s.items.length then
    some ((forwardItemsLoop (s.items.drop (start + 1)) (start + 1)).headD s.items.length)
  else none

/-- `stop` is the last item of the chain that begins at `start`. -/
structure IsChain (start stop : Nat) : Prop where
  le : start ≤ stop
  lt : stop < s.items.length
  redirects : ∀ i, start < i → i ≤ stop → s.isRedirectTransitionForItemAtIndex i
  last : stop + 1 < s.items.length → ¬ s.isRedirectTransitionForItemAtIndex (stop + 1)

theorem any_drop (start i : Nat) :
    (s.items.drop start)[i]?.any (·.transitionType.isRedirect) =
      s.isRedirectTransitionForItemAtIndex (start + i) := by
  rw [getElem?_drop]
  rfl

variable {s}

/-- The item before the position after a chain is its last one. -/
theorem isChain_forward {start next : Nat} (h : s.forward start = some next) :
    ∃ stop, next = stop + 1 ∧ s.IsChain start stop := by
  rw [forward] at h
  split at h
  · next hstart =>
    have hlen : (s.items.drop (start + 1)).length = s.items.length - (start + 1) :=
      length_drop
    cases hloop : forwardItemsLoop (s.items.drop (start + 1)) (start + 1) with
    | nil =>
      rw [hloop] at h
      obtain rfl : s.items.length = next := some.inj h
      have hall := forwardItemsLoop_nil hloop
      refine ⟨s.items.length - 1, by omega, by omega, by omega, fun i hi hi' => ?_, by omega⟩
      have := hall (i - (start + 1)) (by omega)
      rwa [any_drop, show start + 1 + (i - (start + 1)) = i by omega] at this
    | cons first others =>
      rw [hloop] at h
      obtain rfl : first = next := some.inj h
      obtain ⟨j, rfl, hj, hbefore, hat, -⟩ := forwardItemsLoop_cons hloop
      refine ⟨start + j, by omega, by omega, by omega, fun i hi hi' => ?_, fun _ => ?_⟩
      · have := hbefore (i - (start + 1)) (by omega)
        rwa [any_drop, show start + 1 + (i - (start + 1)) = i by omega] at this
      · rwa [any_drop, show start + 1 + j = start + j + 1 by omega] at hat
  · cases h

/-- The positions after the chains are where the following chains begin, and
the end. -/
theorem isTrail_forward {start : Nat} (h : start < s.items.length) :
    IsTrail s.forward start
      (forwardItemsLoop (s.items.drop (start + 1)) (start + 1) ++ [s.items.length]) := by
  have hend : s.forward s.items.length = none := if_neg (Nat.lt_irrefl _)
  generalize hloop : forwardItemsLoop (s.items.drop (start + 1)) (start + 1) = starts
  induction starts generalizing start with
  | nil =>
    refine ⟨?_, hend⟩
    rw [forward, if_pos h, hloop]
    rfl
  | cons first others ih =>
    refine ⟨?_, ?_⟩
    · rw [forward, if_pos h, hloop]
      rfl
    · obtain ⟨j, rfl, hj, -, -, hothers⟩ := forwardItemsLoop_cons hloop
      rw [length_drop] at hj
      refine ih (by omega) ?_
      rw [hothers, drop_drop]
      congr 2

variable (s)

/-- Where the loop of going forward leads, when the steps that are left count as
positions behind the last item. -/
def forwardResult (steps : Nat) (result : Int) : Int :=
  (s.goForwardLoop steps result).1 + (s.goForwardLoop steps result).2

variable {s}

theorem forwardResult_succ (h : s.ValidHistory) {steps start next : Nat}
    (hnext : s.forward start = some next) :
    s.forwardResult (steps + 1) ((start : Int) - 1) = s.forwardResult steps ((next : Int) - 1) := by
  rw [forward] at hnext
  split at hnext
  · next hstart =>
    obtain rfl := some.inj hnext
    have hlen : start + 1 + (s.items.drop (start + 1)).length = s.items.length := by
      rw [length_drop]
      omega
    rw [forwardResult, goForwardLoop, getItemCount_eq h, if_pos (by omega),
      show ((start : Int) - 1 + 2).toNat = start + 1 by omega,
      show (start : Int) - 1 + 1 = ((start + 1 : Nat) : Int) - 1 by omega,
      skipRedirectsForward_eq, hlen]
    rfl
  · cases hnext

/-- Behind the last item the loop only counts. -/
theorem forwardResult_of_end (h : s.ValidHistory) (steps : Nat) :
    s.forwardResult steps ((s.items.length : Int) - 1) = s.items.length - 1 + steps := by
  cases steps with
  | zero => rfl
  | succ steps =>
    have hdrop : s.items.drop ((s.items.length : Int) - 1 + 2).toNat = [] :=
      drop_eq_nil_iff.2 (by omega)
    rw [forwardResult, goForwardLoop, getItemCount_eq h, if_pos (by omega), hdrop]
    show (s.goForwardLoop steps ((s.items.length : Int) - 1 + 1)).1 +
      (s.goForwardLoop steps ((s.items.length : Int) - 1 + 1)).2 = _
    rw [show (s.items.length : Int) - 1 + 1 = s.items.length by omega]
    cases steps with
    | zero =>
      show (s.items.length : Int) + 0 = _
      omega
    | succ steps =>
      rw [goForwardLoop, getItemCount_eq h, if_neg (Int.lt_irrefl _)]
      show (s.items.length : Int) + ((steps + 1 : Nat) : Int) = _
      omega

theorem forward_le {start next : Nat} (h : s.forward start = some next) :
    next ≤ s.items.length := by
  obtain ⟨stop, rfl, hchain⟩ := isChain_forward h
  exact hchain.lt

/-- The loop takes the steps forward while there are any. -/
theorem forwardResult_of_some (h : s.ValidHistory) {steps start target : Nat}
    (htarget : Lib.steps s.forward steps start = some target) :
    s.forwardResult steps ((start : Int) - 1) = target - 1 := by
  induction steps generalizing start with
  | zero =>
    obtain rfl : start = target := some.inj htarget
    exact Int.add_zero _
  | succ steps ih =>
    obtain ⟨next, hnext, hrest⟩ := bind_eq_some_iff.1 htarget
    rw [forwardResult_succ h hnext]
    exact ih hrest

/-- Then it leaves the history. -/
theorem forwardResult_of_none (h : s.ValidHistory) {steps start : Nat}
    (hstart : start ≤ s.items.length) (hnone : Lib.steps s.forward steps start = none) :
    s.items.length ≤ s.forwardResult steps ((start : Int) - 1) ∧
      s.forwardResult steps ((start : Int) - 1) ≤ s.items.length + steps := by
  induction steps generalizing start with
  | zero => cases hnone
  | succ steps ih =>
    cases hnext : s.forward start with
    | none =>
      have hend : start = s.items.length := by
        rw [forward] at hnext
        split at hnext
        · cases hnext
        · omega
      rw [hend, forwardResult_of_end h]
      omega
    | some next =>
      rw [Lib.steps, hnext] at hnone
      have := ih (forward_le hnext) hnone
      rw [forwardResult_succ h hnext]
      omega

end Forward

variable {s : CRWSessionController}

theorem getIndexForOffset_pos (h : s.ValidHistory) (hpending : s.pendingItemIndex = -1) {k : Nat}
    (hk : 1 ≤ k) :
    s.getIndexForOffset k =
      let result := wrapInt (s.forwardResult k s.lastCommittedItemIndex)
      if result < 0 then intMax else result := by
  rw [getIndexForOffset, getLastCommittedItemIndex_eq h, if_pos hpending, if_neg (by omega),
    if_pos (by omega)]
  rfl

/-- Where the chains of the forward history begin: at the items of the forward
list, and at a redirect right after the last committed item. -/
def chainStarts (s : CRWSessionController) : List Nat :=
  let first := (s.lastCommittedItemIndex + 1).toNat
  if s.isRedirectTransitionForItemAtIndex first then first :: s.forwardItems else s.forwardItems

/-- The chains begin at the first forward item and at each later one that is
not a redirect. -/
theorem chainStarts_eq {s : CRWSessionController} {first : Nat}
    (hfirst : s.lastCommittedItemIndex = (first : Int) - 1) :
    s.chainStarts =
      if first < s.items.length then
        first :: forwardItemsLoop (s.items.drop (first + 1)) (first + 1)
      else [] := by
  have hnat : (s.lastCommittedItemIndex + 1).toNat = first := by omega
  rw [chainStarts, forwardItems, hnat]
  by_cases hlt : first < s.items.length
  · have hdrop : s.items.drop first = s.items[first] :: s.items.drop (first + 1) :=
      drop_eq_getElem_cons hlt
    have hredirect : s.isRedirectTransitionForItemAtIndex first =
        s.items[first].transitionType.isRedirect := by
      rw [isRedirectTransitionForItemAtIndex, getElem?_eq_getElem hlt]
      rfl
    rw [if_pos hlt, hdrop, forwardItemsLoop, hredirect]
    split <;> rfl
  · have hnone : s.items[first]? = none := List.getElem?_eq_none_iff.2 (by omega)
    have hredirect : ¬ s.isRedirectTransitionForItemAtIndex first = true := by
      rw [isRedirectTransitionForItemAtIndex, hnone]
      exact Bool.false_ne_true
    rw [if_neg hlt, if_neg hredirect, drop_eq_nil_iff.2 (by omega)]
    rfl

/-- The `k`-th step forward ends the `k`-th chain. -/
theorem steps_forward_eq {first : Nat} (hfirst : s.lastCommittedItemIndex = (first : Int) - 1)
    (hle : first ≤ s.items.length) {k : Nat} (hk : 1 ≤ k) :
    steps s.forward k first = s.chainStarts[k - 1]?.bind s.forward := by
  have hend : s.forward s.items.length = none := if_neg (Nat.lt_irrefl _)
  obtain ⟨j, rfl⟩ : ∃ j, k = j + 1 := ⟨k - 1, by omega⟩
  rw [steps_succ, Nat.add_sub_cancel, chainStarts_eq hfirst]
  by_cases hlt : first < s.items.length
  · rw [(isTrail_forward hlt).steps_eq, if_pos hlt, ← cons_append, getElem?_append]
    split
    · rfl
    · next hout =>
      rw [List.getElem?_eq_none_iff.2 (Nat.le_of_not_lt hout)]
      rcases Nat.eq_zero_or_pos
        (j - (first :: forwardItemsLoop (s.items.drop (first + 1)) (first + 1)).length) with h0 | hpos
      · rw [h0]
        exact hend
      · rw [List.getElem?_eq_none_iff.2 (by rw [length_singleton]; exact hpos)]
  · have heq : first = s.items.length := Nat.le_antisymm hle (Nat.le_of_not_lt hlt)
    have htrail : IsTrail s.forward first [] := heq ▸ hend
    rw [if_neg hlt, htrail.steps_eq]
    cases j with
    | zero => exact heq ▸ hend
    | succ j => rfl

/-- A positive offset leads to the end of a chain of the forward history, or out
of the history. -/
theorem getIndexForOffset_forward (h : s.ValidHistory) (hpending : s.pendingItemIndex = -1)
    {k : Nat} (hk : 1 ≤ k) (hmax : (k : Int) ≤ intMax) :
    (∀ start : Nat, s.chainStarts[k - 1]? = some start →
      ∃ stop : Nat, s.getIndexForOffset k = stop ∧ s.IsChain start stop) ∧
    (s.chainStarts[k - 1]? = none → s.items.length ≤ s.getIndexForOffset k) := by
  have hcount := h.count
  obtain ⟨hlow, hhigh⟩ := h.last
  obtain ⟨first, hfirst⟩ : ∃ first : Nat, s.lastCommittedItemIndex = (first : Int) - 1 :=
    ⟨(s.lastCommittedItemIndex + 1).toNat, by omega⟩
  have hle : first ≤ s.items.length := by omega
  have hsteps := steps_forward_eq hfirst hle hk
  rw [getIndexForOffset_pos h hpending hk, hfirst]
  simp only
  constructor
  · intro start hstart
    rw [hstart, bind_some] at hsteps
    have hlt : start < s.items.length := by
      have hmem := mem_of_getElem? hstart
      rw [chainStarts_eq hfirst] at hmem
      split at hmem
      · rcases mem_cons.1 hmem with rfl | hrest
        · assumption
        · have := (mem_forwardItemsLoop hrest).2
          rw [length_drop] at this
          omega
      · cases hmem
    obtain ⟨next, hnext⟩ : ∃ next, s.forward start = some next := ⟨_, if_pos hlt⟩
    obtain ⟨stop, rfl, hchain⟩ := isChain_forward hnext
    have hstop := hchain.lt
    have hwrap : wrapInt (stop : Int) = stop := wrapInt_of_index (by omega) (by omega)
    rw [forwardResult_of_some h (hsteps.trans hnext),
      show ((stop + 1 : Nat) : Int) - 1 = stop by omega, hwrap, if_neg (by omega)]
    exact ⟨stop, rfl, hchain⟩
  · intro hnone
    rw [hnone, bind_none] at hsteps
    obtain ⟨hge, hub⟩ := forwardResult_of_none h hle hsteps
    generalize s.forwardResult k ((first : Int) - 1) = result at hge hub
    -- a sum that overflows is negative, and becomes the largest `int`
    rcases Int.lt_or_le intMax result with hover | hfits
    · rw [if_pos (wrapInt_neg hover (by omega))]
      exact hcount
    · have hwrap : wrapInt result = result := wrapInt_of_index (by omega) hfits
      rw [hwrap, if_neg (by omega)]
      exact hge

/-- **Forward offsets**: the offset `k` is available exactly when the forward
history has a `k`-th chain, and it leads to the end of that chain. The chains
begin at the items of the forward list, and at a redirect right after the last
committed item. Without forward redirects the offsets and the list agree. -/
theorem forward_offsets_agree (h : s.ValidHistory) (hpending : s.pendingItemIndex = -1) {k : Int}
    (hk : 1 ≤ k) (hmax : k ≤ intMax) :
    (s.canGoToOffset k ↔ k ≤ s.chainStarts.length) ∧
      (s.canGoToOffset k → ∃ start stop : Nat, s.chainStarts[(k - 1).toNat]? = some start ∧
        s.getIndexForOffset k = stop ∧ s.IsChain start stop) ∧
      ((∀ i : Nat, s.lastCommittedItemIndex < i → ¬ s.isRedirectTransitionForItemAtIndex i) →
        (s.canGoToOffset k ↔ k ≤ s.forwardItems.length) ∧
          (s.canGoToOffset k → ∃ index : Nat, s.getIndexForOffset k = index ∧
            s.forwardItems[(k - 1).toNat]? = some index)) := by
  obtain ⟨n, rfl⟩ := Int.eq_ofNat_of_zero_le (by omega : 0 ≤ k)
  obtain ⟨hsome, hnone⟩ := getIndexForOffset_forward h hpending (by omega : 1 ≤ n) hmax
  have hn : ((n : Int) - 1).toNat = n - 1 := by omega
  have hgo : s.canGoToOffset n ↔ (n : Int) ≤ s.chainStarts.length := by
    rw [canGoToOffset, getItemCount_eq h]
    cases hstart : s.chainStarts[n - 1]? with
    | none =>
      have hlen := List.getElem?_eq_none_iff.1 hstart
      have hge := hnone hstart
      exact ⟨fun hgo => by omega, fun hle => by omega⟩
    | some start =>
      obtain ⟨hlen, -⟩ := List.getElem?_eq_some_iff.1 hstart
      obtain ⟨stop, hstop, hchain⟩ := hsome start hstart
      have hlt := hchain.lt
      rw [hstop]
      exact ⟨fun _ => by omega, fun _ => ⟨by omega, by omega⟩⟩
  have hlands : s.canGoToOffset n → ∃ start stop : Nat, s.chainStarts[n - 1]? = some start ∧
      s.getIndexForOffset n = stop ∧ s.IsChain start stop := by
    intro hcan
    have hlen := hgo.1 hcan
    have hstart : s.chainStarts[n - 1]? = some s.chainStarts[n - 1] :=
      getElem?_eq_getElem (by omega)
    obtain ⟨stop, hstop, hchain⟩ := hsome _ hstart
    exact ⟨_, stop, hstart, hstop, hchain⟩
  rw [hn]
  refine ⟨hgo, hlands, fun hplain => ?_⟩
  -- no redirect: the chains are single items, listed as they are
  have hstarts : s.chainStarts = s.forwardItems := by
    rw [chainStarts]
    exact if_neg (hplain _ (by omega))
  rw [hstarts] at hgo hlands
  refine ⟨hgo, fun hcan => ?_⟩
  obtain ⟨start, stop, hstart, hstop, hchain⟩ := hlands hcan
  have hfirst := (mem_forwardItemsLoop (mem_of_getElem? hstart)).1
  have heq : stop = start := by
    by_contra hne
    have hle := hchain.le
    exact hplain (start + 1) (by omega) (hchain.redirects (start + 1) (by omega) (by omega))
  exact ⟨start, heq ▸ hstop, hstart⟩

/-- A session of items with the given transitions. -/
def ofTransitions (transitions : List PageTransition) (last : Int)
    (transientItem : Option NavigationItemImpl) : CRWSessionController :=
  { initWithBrowserState with
    items := transitions.map fun transition => { NavigationItemImpl.new 1 with
      transitionType := transition }
    lastCommittedItemIndex := last
    ownedTransientItem := transientItem }

/-- Two steps back from a transient item, over a redirect. -/
theorem backward_offsets_agree_transient :
    let s := ofTransitions [.link, .link, .clientRedirect, .link] 3 (some (.new 2))
    s.backwardItems = [3, 2, 0] ∧ (s.canGoToOffset (-3) ↔ (3 : Int) ≤ s.backwardItems.length) ∧
      ∃ index : Nat, s.getIndexForOffset (-3) = index ∧ s.backwardItems[2]? = some index := by
  intro s
  have hvalid : s.ValidHistory := by decide
  obtain ⟨hcan, hlands⟩ := backward_offsets_agree (s := s) (k := 3) hvalid rfl (by decide) (by decide)
  obtain ⟨index, hindex, hentry, -⟩ := hlands (by decide)
  exact ⟨by decide, hcan, index, hindex, hentry⟩

/-- A step forward onto an item that redirects. -/
theorem forward_offsets_agree_redirect :
    let s := ofTransitions [.link, .link, .clientRedirect, .link] 0 none
    s.forwardItems = [1, 3] ∧ (s.canGoToOffset 1 ↔ (1 : Int) ≤ s.chainStarts.length) ∧
      ∃ start stop : Nat, s.chainStarts[0]? = some start ∧ s.getIndexForOffset 1 = stop ∧
        s.IsChain start stop := by
  intro s
  have hvalid : s.ValidHistory := by decide
  obtain ⟨hcan, hlands, -⟩ :=
    forward_offsets_agree (s := s) (k := 1) hvalid rfl (by decide) (by decide)
  obtain ⟨start, stop, hstart, hstop, hchain⟩ := hlands (by decide)
  exact ⟨by decide, hcan, start, stop, hstart, hstop, hchain⟩

/-- The forward list and the offsets differ at an item that redirects, where the
offset leads to the redirect's target; and when the forward history begins with
a redirect there is one offset more. -/
theorem forward_offsets_disagree :
    let s := ofTransitions [.link, .link, .clientRedirect] 0 none
    let t := ofTransitions [.link, .clientRedirect, .link] 0 none
    (s.ValidHistory ∧ s.pendingItemIndex = -1 ∧ s.forwardItems = [1] ∧ s.canGoToOffset 1 ∧
        s.getIndexForOffset 1 = 2) ∧
      t.ValidHistory ∧ t.pendingItemIndex = -1 ∧ t.forwardItems = [2] ∧ t.canGoToOffset 2 ∧
        t.getIndexForOffset 1 = 1 := by
  decide

/-! ## Back and forward again -/

section Return

variable {s : CRWSessionController}

theorem forward_of_isChain {start stop : Nat} (h : s.IsChain start stop) :
    s.forward start = some (stop + 1) := by
  have hle := h.le
  have hlt := h.lt
  obtain ⟨next, hnext⟩ : ∃ next, s.forward start = some next := ⟨_, if_pos (by omega)⟩
  obtain ⟨other, rfl, hother⟩ := isChain_forward hnext
  have hle' := hother.le
  have hlt' := hother.lt
  rcases Nat.lt_trichotomy other stop with hless | rfl | hmore
  · exact absurd (h.redirects (other + 1) (by omega) hless) (hother.last (by omega))
  · exact hnext
  · exact absurd (hother.redirects (stop + 1) (by omega) hmore) (h.last (by omega))

/-- A step back leads to the item before the chain. -/
theorem isChain_back {index previous stop : Nat} (hback : s.back index = some previous)
    (h : s.IsChain index stop) :
    s.IsChain previous previous ∧ s.IsChain (previous + 1) stop := by
  induction index with
  | zero => cases hback
  | succ index ih =>
    have hle := h.le
    have hlt := h.lt
    rw [back] at hback
    by_cases hredirect : s.isRedirectTransitionForItemAtIndex (index + 1) = true
    · rw [if_pos hredirect] at hback
      refine ih hback ⟨by omega, hlt, fun i hi hi' => ?_, h.last⟩
      obtain rfl | hi := Nat.eq_or_lt_of_le hi
      · exact hredirect
      · exact h.redirects i hi hi'
    · rw [if_neg hredirect] at hback
      obtain rfl := some.inj hback
      exact ⟨⟨Nat.le_refl _, by omega, fun i hi hi' => by omega, fun _ => hredirect⟩, h⟩

theorem steps_forward_of_back {k index target stop : Nat}
    (hback : steps s.back (k + 1) index = some target) (h : s.IsChain index stop) :
    steps s.forward (k + 1) (target + 1) = some (stop + 1) := by
  induction k generalizing index stop with
  | zero =>
    obtain ⟨previous, hprevious, htarget⟩ := bind_eq_some_iff.1 hback
    obtain rfl : previous = target := some.inj htarget
    rw [steps, forward_of_isChain (isChain_back hprevious h).2]
    rfl
  | succ k ih =>
    obtain ⟨previous, hprevious, hrest⟩ := bind_eq_some_iff.1 hback
    obtain ⟨hend, hchain⟩ := isChain_back hprevious h
    rw [steps_succ, ih hrest hend]
    exact forward_of_isChain hchain

theorem goToItemAtIndex_back {index last : Nat} (hlast : s.lastCommittedItemIndex = last)
    (hlt : index < last) (hin : last < s.items.length) (hpending : s.pendingItemIndex = -1)
    (discard : Bool) :
    let t := s.goToItemAtIndex index discard
    t.items = s.items ∧ t.lastCommittedItemIndex = index ∧ t.pendingItemIndex = -1 := by
  rw [goToItemAtIndex, if_neg (by omega), if_neg (by omega)]
  cases discard with
  | false => exact ⟨rfl, rfl, hpending⟩
  | true =>
    rw [if_pos rfl, if_pos (by omega)]
    exact ⟨rfl, rfl, rfl⟩

/-- After `k` steps back, `k` steps forward lead to the last of the redirects that follow the item
where the way began. -/
theorem back_then_forward (h : s.ValidHistory) (hpending : s.pendingItemIndex = -1)
    (htransient : s.transientItem = none) {k : Nat} (hk : 1 ≤ k) (hmax : (k : Int) ≤ intMax)
    (hcan : s.canGoToOffset (-(k : Int))) (discard : Bool) :
    let t := s.goToItemAtIndex (s.getIndexForOffset (-(k : Int))) discard
    t.canGoToOffset k ∧ ∃ last stop : Nat, s.lastCommittedItemIndex = last ∧
      s.IsChain last stop ∧ t.getIndexForOffset k = stop := by
  obtain ⟨hsome, hnone⟩ :=
    getIndexForOffset_back h hpending hk (by unfold intMin intMax at *; omega)
  cases hentry : s.backwardItems[k - 1]? with
  | none =>
    obtain ⟨hlow, hhigh⟩ := hcan
    rw [getItemCount_eq h] at hhigh
    exact absurd (hnone hentry) (by omega)
  | some index =>
    obtain ⟨last, hlast⟩ : ∃ last : Nat, s.lastCommittedItemIndex = last := by
      refine Int.eq_ofNat_of_zero_le (Int.not_lt.1 fun hneg => ?_)
      rw [backwardItems, if_neg (by omega)] at hentry
      cases hentry
    have hsteps := s.steps_back_eq hlast hk
    rw [backSteps, htransient, hentry] at hsteps
    obtain ⟨k, rfl⟩ : ∃ j, k = j + 1 := ⟨k - 1, by omega⟩
    have hlt : index < last := by
      obtain ⟨previous, hprevious, hrest⟩ := bind_eq_some_iff.1 hsteps
      exact Nat.lt_of_le_of_lt (steps_back_le hrest) (back_lt hprevious)
    have hcount := h.count
    have hin : last < s.items.length := by
      have := h.last.2
      omega
    obtain ⟨next, hnext⟩ : ∃ next, s.forward last = some next := ⟨_, if_pos hin⟩
    obtain ⟨stop, -, hchain⟩ := isChain_forward hnext
    have hstop := hchain.lt
    rw [(hsome index hentry).1]
    intro t
    obtain ⟨hitems, hlast', hpending'⟩ : t.items = s.items ∧ t.lastCommittedItemIndex = index ∧
        t.pendingItemIndex = -1 := goToItemAtIndex_back hlast hlt hin hpending discard
    clear_value t
    have hvalid : t.ValidHistory :=
      ⟨by rw [hitems, hlast']; exact ⟨by omega, by omega⟩, hitems ▸ hcount⟩
    have hforward : steps t.forward (k + 1) (index + 1) = some (stop + 1) := by
      have hsame : t.forward = s.forward := funext fun start => by rw [forward, forward, hitems]
      exact hsame ▸ steps_forward_of_back hsteps hchain
    have hwrap : wrapInt (stop : Int) = stop := wrapInt_of_index (by omega) (by omega)
    have hresult : t.getIndexForOffset (k + 1 : Nat) = stop := by
      have hsteps := forwardResult_of_some hvalid hforward
      rw [Int.natCast_succ, Int.add_sub_cancel, Int.natCast_succ, Int.add_sub_cancel] at hsteps
      rw [getIndexForOffset_pos hvalid hpending' hk, hlast', hsteps, hwrap]
      exact if_neg (Int.not_lt.2 (Int.natCast_nonneg stop))
    refine ⟨?_, last, stop, hlast, hchain, hresult⟩
    rw [canGoToOffset, hresult, getItemCount_eq hvalid, hitems]
    exact ⟨Int.natCast_nonneg stop, Int.ofNat_lt.2 hstop⟩

/-- Two steps back over a redirect, and forward again to where it led. -/
theorem back_then_forward_redirect :
    let s := ofTransitions [.link, .link, .clientRedirect, .link, .clientRedirect] 3 none
    let t := s.goToItemAtIndex (s.getIndexForOffset (-2)) true
    t.lastCommittedItemIndex = 0 ∧ t.canGoToOffset 2 ∧ t.getIndexForOffset 2 = 4 := by
  intro s t
  have hreturn := back_then_forward (s := s) (k := 2) (by decide) rfl rfl (by decide) (by decide)
    (by decide) true
  exact ⟨by decide, hreturn.1, by decide⟩

end Return

end CRWSessionController

end ChromiumIos
