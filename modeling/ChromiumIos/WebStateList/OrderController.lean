import ChromiumIos.Ui.PageTransition
import ChromiumIos.WebStateList.List

/-!
# `WebStateListOrderController`

`web_state_list_order_controller.mm`: where a new `WebState` goes, and which
one becomes active when the active one is removed.

`determineNewActiveIndex_cases` is the one fact about the removal heuristic the
invariants need: which indices it can return, measured in the list *after* the
removal.
-/

namespace ChromiumIos

open Lib

namespace WebStateList

variable {W : Type} [DecidableEq W]

/-- `DetermineInsertionIndex`. -/
def determineInsertionIndex (l : WebStateList W) (lastCommittedItemIndex : W → Int)
    (transition : PageTransition) (opener : Option W) : Int :=
  match opener with
  | none => l.count
  | some opener =>
    if !transition.coreTypeIs .link then l.count
    else
      let openerIndex := l.getIndexOfWebState opener
      let listChildIndex :=
        l.getIndexOfLastWebStateOpenedBy lastCommittedItemIndex (some opener) openerIndex true
      let referenceIndex :=
        if listChildIndex ≠ kInvalidIndex then listChildIndex else openerIndex
      referenceIndex + 1

/-- `GetValidIndex`. The source takes the minimum of `0` and `index - 1`. -/
def getValidIndex (index removingIndex : Int) : Int :=
  if removingIndex < index then min 0 (index - 1) else index

/-- `DetermineNewActiveIndex`. -/
def determineNewActiveIndex (l : WebStateList W) (removingIndex : Int) : Int :=
  -- `use_group` is false, so no navigation index is read
  let nextOpenedBy (opener : Option W) : Int :=
    l.getIndexOfNextWebStateOpenedBy (fun _ => -1) opener removingIndex false
  let childIndex := nextOpenedBy (l.getWebStateAt removingIndex)
  if childIndex ≠ kInvalidIndex then getValidIndex childIndex removingIndex
  else
    match (l.getOpenerOfWebStateAt removingIndex).opener with
    | some opener =>
      let siblingIndex := nextOpenedBy (some opener)
      if siblingIndex ≠ kInvalidIndex then getValidIndex siblingIndex removingIndex
      else getValidIndex (l.getIndexOfWebState opener) removingIndex
    | none =>
      if l.count = 1 then kInvalidIndex
      else if removingIndex ≥ l.count - 1 then removingIndex - 1
      else removingIndex

/-- Shifting an index after the removed one lands on the first position. -/
theorem getValidIndex_of_lt {index removingIndex : Int} (h0 : 0 ≤ removingIndex)
    (h : removingIndex < index) : getValidIndex index removingIndex = 0 := by
  rw [getValidIndex, if_pos h]
  omega

/-- What `DetermineNewActiveIndex` returns, when the openers of the list are
members: no index when the list becomes empty, an index of the shorter list, or
the removed index itself when the last `WebState` is its own opener. -/
theorem determineNewActiveIndex_cases {l : WebStateList W} {removingIndex : Int}
    (hin : l.ContainsIndex removingIndex)
    (hopener : ∀ opener, (l.getOpenerOfWebStateAt removingIndex).opener = some opener →
      opener ∈ l.webStates) :
    (l.count = 1 ∧ l.determineNewActiveIndex removingIndex = kInvalidIndex) ∨
      InRange (l.wrappers.length - 1) (l.determineNewActiveIndex removingIndex) ∨
      (l.determineNewActiveIndex removingIndex = removingIndex ∧
        removingIndex = l.count - 1 ∧
        (l.getOpenerOfWebStateAt removingIndex).opener = l.getWebStateAt removingIndex) := by
  obtain ⟨r, hr, rfl⟩ := hin.exists_nat
  -- an index found after the removed one becomes the first position
  have hfound : ∀ opener : Option W,
      l.getIndexOfNextWebStateOpenedBy (fun _ => -1) opener r false ≠ kInvalidIndex →
      InRange (l.wrappers.length - 1) (getValidIndex
        (l.getIndexOfNextWebStateOpenedBy (fun _ => -1) opener r false) r) := by
    intro opener hne
    rcases l.getIndexOfNthWebStateOpenedBy_range (fun _ => -1) opener r false 1 with h | h
    · exact absurd h hne
    · rw [getIndexOfNextWebStateOpenedBy, getValidIndex_of_lt (by omega) h.1]
      rw [count] at h
      exact ⟨by omega, by omega⟩
  rw [determineNewActiveIndex]
  simp only
  split
  · next hchild => exact .inr (.inl (hfound _ hchild))
  · cases hop : (l.getOpenerOfWebStateAt (r : Int)).opener with
    | some opener =>
      simp only
      split
      · next hsibling => exact .inr (.inl (hfound _ hsibling))
      · obtain ⟨hidx, hat⟩ := getIndexOfWebState_spec (hopener opener hop)
        obtain ⟨k, hk, hkeq⟩ := hidx.exists_nat
        rw [hkeq] at hat ⊢
        rcases Nat.lt_trichotomy r k with hlt | heq | hgt
        · rw [getValidIndex_of_lt (by omega) (by omega)]
          exact .inr (.inl ⟨by omega, by omega⟩)
        · subst heq
          rw [getValidIndex, if_neg (by omega), count]
          by_cases hlast : r = l.wrappers.length - 1
          · exact .inr (.inr ⟨rfl, by omega, hat.symm⟩)
          · exact .inr (.inl ⟨by omega, by omega⟩)
        · rw [getValidIndex, if_neg (by omega)]
          exact .inr (.inl ⟨by omega, by omega⟩)
    | none =>
      have hcount : l.count = l.wrappers.length := rfl
      by_cases hone : l.count = 1
      · exact .inl ⟨hone, if_pos hone⟩
      · simp only [if_neg hone]
        refine .inr (.inl ?_)
        by_cases hlast : (r : Int) ≥ l.count - 1
        · rw [if_pos hlast]
          exact ⟨by omega, by omega⟩
        · rw [if_neg hlast]
          exact ⟨by omega, by omega⟩

end WebStateList

end ChromiumIos
