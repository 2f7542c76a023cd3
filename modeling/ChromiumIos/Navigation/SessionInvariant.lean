import ChromiumIos.Navigation.SessionController
import ChromiumIos.Navigation.Skeleton

/-!
# The session controller refines its skeleton

`CRWSessionController.skeleton` forgets everything about an item but its unique
ID. Each method of the session controller acts on the skeleton as one
`Skeleton.Action` (`Process.skeleton_call`), so what is proved of skeletons
holds of sessions; the first such fact is the index invariant
(`session_index_invariant`).
-/

namespace ChromiumIos

open Lib List

namespace CRWSessionController

/-- The committed items, the indices and the pending new item, by unique ID. -/
def skeleton (s : CRWSessionController) : Skeleton Int where
  entries := s.items.map (·.uniqueId)
  last := s.lastCommittedItemIndex
  previous := s.previousItemIndex
  pending := s.pendingItemIndex
  owned := s.ownedPendingItem.map (·.uniqueId)

/-- The session index invariant. -/
structure Valid (s : CRWSessionController) : Prop where
  last : Cursor s.items.length s.lastCommittedItemIndex
  last_eq : s.lastCommittedItemIndex = -1 ↔ s.items = []
  previous : Cursor s.items.length s.previousItemIndex
  pending : Cursor s.items.length s.pendingItemIndex

theorem valid_iff_skeleton {s : CRWSessionController} : s.Valid ↔ s.skeleton.Valid := by
  have hlen : s.skeleton.entries.length = s.items.length := length_map _
  have hnil : s.skeleton.entries = [] ↔ s.items = [] := map_eq_nil_iff
  constructor
  · rintro ⟨hlast, hlast_eq, hprevious, hpending⟩
    exact ⟨hlen ▸ hlast, hlast_eq.trans hnil.symm, hlen ▸ hprevious, hlen ▸ hpending⟩
  · rintro ⟨hlast, hlast_eq, hprevious, hpending⟩
    exact ⟨hlen ▸ hlast, hlast_eq.trans hnil, hlen ▸ hprevious, hlen ▸ hpending⟩

instance (s : CRWSessionController) : Decidable s.Valid :=
  decidable_of_iff (Cursor s.items.length s.lastCommittedItemIndex ∧
      (s.lastCommittedItemIndex = -1 ↔ s.items = []) ∧
      Cursor s.items.length s.previousItemIndex ∧ Cursor s.items.length s.pendingItemIndex)
    ⟨fun ⟨hlast, hlast_eq, hprevious, hpending⟩ => ⟨hlast, hlast_eq, hprevious, hpending⟩,
      fun ⟨hlast, hlast_eq, hprevious, hpending⟩ => ⟨hlast, hlast_eq, hprevious, hpending⟩⟩

/-! ## Reading through the skeleton -/

variable (s : CRWSessionController)

theorem pendingItem_map : s.pendingItem.map (·.uniqueId) = s.skeleton.pendingEntry := by
  rw [pendingItem, Skeleton.pendingEntry]
  show _ = if s.pendingItemIndex = -1 then _ else _
  split
  · rfl
  · exact (nth?_map _ _ _).symm

theorem pendingItem_isSome : s.pendingItem.isSome = s.skeleton.pendingEntry.isSome := by
  rw [← pendingItem_map, Option.isSome_map]

theorem lastCommittedItem_eq : s.lastCommittedItem = nth? s.items s.lastCommittedItemIndex := by
  rw [lastCommittedItem]
  split
  · next h => rw [h, nth?_neg_one]
  · rfl

/-! ## Methods that leave the skeleton alone -/

section Frame

variable (s : CRWSessionController)

@[simp] theorem skeleton_onNavigationItemCommitted (env : Environment) :
    (s.onNavigationItemCommitted env).skeleton = s.skeleton := rfl

theorem skeleton_setPendingItemIndex (index : Int) :
    (s.setPendingItemIndex index).skeleton = s.skeleton.act (.setPending index) := rfl

theorem skeleton_setLastCommittedItemIndex (index : Int) :
    (s.setLastCommittedItemIndex index).skeleton = { s.skeleton with last := index } := by
  rw [setLastCommittedItemIndex]
  split
  · rfl
  · next h =>
    rw [← Classical.not_not.1 h]
    rfl

variable {s} {f : NavigationItemImpl → NavigationItemImpl}

/-- Overwriting an item without changing its unique ID. -/
theorem skeleton_modifyItemAt (hf : ∀ item, (f item).uniqueId = item.uniqueId) (index : Int) :
    (s.modifyItemAt index f).skeleton = s.skeleton := by
  have hids : (s.items.modify index.toNat f).map (·.uniqueId) = s.items.map (·.uniqueId) := by
    refine ext_getElem? fun i => ?_
    rw [getElem?_map, getElem?_map, getElem?_modify]
    cases s.items[i]? with
    | none => rfl
    | some item =>
      by_cases hi : index.toNat = i
      · simp [hi, hf]
      · simp [hi]
  exact congrArg (fun entries => { s.skeleton with entries }) hids

theorem skeleton_modifyPendingItem (hf : ∀ item, (f item).uniqueId = item.uniqueId) :
    (s.modifyPendingItem f).skeleton = s.skeleton := by
  rw [modifyPendingItem]
  split
  · have howned : (s.ownedPendingItem.map f).map (·.uniqueId) =
        s.ownedPendingItem.map (·.uniqueId) := by
      cases s.ownedPendingItem with
      | none => rfl
      | some item => exact congrArg some (hf item)
    exact congrArg (fun owned => { s.skeleton with owned }) howned
  · exact skeleton_modifyItemAt hf _

theorem skeleton_modifyCurrentItem (hf : ∀ item, (f item).uniqueId = item.uniqueId) :
    (s.modifyCurrentItem f).skeleton = s.skeleton := by
  rw [modifyCurrentItem]
  split
  · rfl
  · split
    · exact skeleton_modifyPendingItem hf
    · split
      · rfl
      · exact skeleton_modifyItemAt hf _

end Frame

/-- The ID that the next item gets. -/
def nextId (p : Process) : Int := NavigationItemImpl.getUniqueIDInConstructor p.uniqueIdCounter

theorem uniqueIdCounter_itemWithURL (env : Environment) (p : Process) (url : GURL)
    (referrer : Referrer) (transition : PageTransition)
    (initiationType : NavigationInitiationType) :
    (itemWithURL env p url referrer transition initiationType).uniqueIdCounter = nextId p := rfl

variable (s : CRWSessionController)

theorem skeleton_updatePendingItem (url : GURL) :
    (s.updatePendingItem url).skeleton = s.skeleton := by
  rw [updatePendingItem]
  split
  · rfl
  · split
    · exact skeleton_modifyPendingItem fun _ => rfl
    · rfl

theorem skeleton_updateCurrentItem (url : GURL)
    (stateObject : Option String16) : (s.updateCurrentItem url stateObject).skeleton = s.skeleton := by
  rw [updateCurrentItem]
  split
  · exact skeleton_modifyCurrentItem fun _ => rfl
  · exact skeleton_modifyCurrentItem fun _ => rfl

variable (env : Environment)

theorem skeleton_addTransientItem (p : Process) (url : GURL) (now : Time) :
    (addTransientItem env p url now).session.skeleton = p.session.skeleton := rfl

/-! ## Methods that act on it -/

theorem skeleton_discardNonCommittedItems :
    s.discardNonCommittedItems.skeleton = s.skeleton.discard := rfl

theorem skeleton_addPendingItem (p : Process) (url : GURL)
    (referrer : Referrer) (transition : PageTransition)
    (initiationType : NavigationInitiationType)
    (userAgentOverrideOption : UserAgentOverrideOption) :
    (addPendingItem env p url referrer transition initiationType
        userAgentOverrideOption).session.skeleton =
      p.session.skeleton.act (.addPending
        (if (p.session.discardTransientItem.setPendingItemIndex (-1)).shouldCreatePendingItem url
            transition userAgentOverrideOption then some (nextId p)
          else none)) := by
  rw [addPendingItem]
  split <;> rfl

theorem skeleton_clearForwardItems : s.clearForwardItems.skeleton = s.skeleton.clearForward := by
  have hlen : s.skeleton.entries.length = s.items.length := length_map _
  rw [clearForwardItems, Skeleton.clearForward, hlen]
  show (if s.lastCommittedItemIndex + 1 ≥ s.items.length then _ else _ : CRWSessionController).skeleton =
    if s.lastCommittedItemIndex + 1 ≥ s.items.length then _ else _
  split
  · rfl
  · exact congrArg (fun entries => Skeleton.mk entries _ _ _ _) map_take

@[simp] theorem clearForwardItems_pendingItemIndex :
    s.clearForwardItems.pendingItemIndex = s.pendingItemIndex := by
  rw [clearForwardItems]
  simp only
  split <;> rfl

@[simp] theorem clearForwardItems_ownedPendingItem :
    s.clearForwardItems.ownedPendingItem = s.ownedPendingItem := by
  rw [clearForwardItems]
  simp only
  split <;> rfl

/-- An item put behind the cleared vector is a pushed entry. -/
theorem skeleton_push {s t : CRWSessionController} {item : NavigationItemImpl}
    (hitems : t.items = s.clearForwardItems.items ++ [item])
    (hlast : t.lastCommittedItemIndex = t.items.length - 1)
    (hprevious : t.previousItemIndex = s.clearForwardItems.lastCommittedItemIndex)
    (hpending : t.pendingItemIndex = s.pendingItemIndex)
    (howned : t.ownedPendingItem = s.ownedPendingItem) :
    t.skeleton = s.skeleton.push item.uniqueId := by
  have hcleared := skeleton_clearForwardItems s
  have hentries : s.clearForwardItems.items.map (·.uniqueId) = s.skeleton.clearForward.entries :=
    congrArg Skeleton.entries hcleared
  refine Skeleton.ext ?_ ?_ ?_ ?_ ?_
  · show t.items.map _ = s.skeleton.clearForward.entries ++ [item.uniqueId]
    rw [hitems, map_append, hentries]
    rfl
  · show t.lastCommittedItemIndex = (s.skeleton.clearForward.entries.length : Int)
    rw [hlast, hitems, ← hentries, length_map, length_append, length_singleton]
    omega
  · show t.previousItemIndex = s.skeleton.clearForward.last
    rw [hprevious, ← hcleared]
    rfl
  · show t.pendingItemIndex = s.skeleton.clearForward.pending
    rw [hpending, Skeleton.clearForward_pending]
    rfl
  · show t.ownedPendingItem.map _ = s.skeleton.clearForward.owned
    rw [howned, Skeleton.clearForward_owned]
    rfl

theorem skeleton_commitItem {s : CRWSessionController} (h : s.pendingItem.isSome) :
    s.commitItem.skeleton = s.skeleton.commit := by
  have hreset : (s.modifyPendingItem (·.resetForCommit)).skeleton = s.skeleton :=
    skeleton_modifyPendingItem fun _ => rfl
  rw [pendingItem_isSome] at h
  rw [← hreset] at h ⊢
  rw [commitItem]
  generalize s.modifyPendingItem (·.resetForCommit) = s at h ⊢
  rw [Skeleton.commit]
  show Skeleton.act (skeleton (setLastCommittedItemIndex _ _)) (.setPending (-1)) = _
  rw [skeleton_setLastCommittedItemIndex]
  by_cases hnew : s.pendingItemIndex = -1
  · -- a new item moves to the end of the vector
    have hnew' : s.skeleton.pending = -1 := hnew
    rw [if_pos hnew, if_pos hnew, if_pos hnew']
    rw [Skeleton.pendingEntry, if_pos hnew'] at h
    cases howned : s.ownedPendingItem with
    | none =>
      rw [show s.skeleton.owned = none from congrArg (Option.map _) howned] at h
      cases h
    | some item =>
      have howned' : s.skeleton.owned = some item.uniqueId := congrArg (Option.map _) howned
      let t := { s with
        items := s.clearForwardItems.items ++ [item]
        lastCommittedItemIndex := ((s.clearForwardItems.items ++ [item]).length : Int) - 1
        previousItemIndex := s.clearForwardItems.lastCommittedItemIndex }
      have hpush : t.skeleton = s.skeleton.push item.uniqueId :=
        skeleton_push rfl rfl rfl rfl rfl
      have hpending : t.skeleton.pending = -1 := hnew
      rw [howned']
      show { t.skeleton with pending := -1, owned := none } =
        { s.skeleton.push item.uniqueId with owned := none }
      rw [← hpush, ← hpending]
  · -- a history item stays where it is
    have hnew' : ¬ s.skeleton.pending = -1 := hnew
    rw [if_neg hnew, if_neg hnew, if_neg hnew']
    rw [Skeleton.pendingEntry, if_neg hnew'] at h
    rw [if_pos h]
    rfl

theorem skeleton_commitPendingItem (s : CRWSessionController) (now : Time) :
    (s.commitPendingItem env now).skeleton = s.skeleton.commit := by
  have hcommit : (if s.pendingItem.isSome then s.commitItem else s).skeleton =
      s.skeleton.commit := by
    by_cases h : s.pendingItem.isSome
    · rw [if_pos h, skeleton_commitItem h]
    · have hnone : s.skeleton.pendingEntry = none := by
        rw [← pendingItem_map]
        simpa using h
      rw [if_neg h, Skeleton.commit_of_pendingEntry hnone]
  rw [commitPendingItem, ← hcommit]
  generalize (if s.pendingItem.isSome then s.commitItem else s) = t
  simp only
  split
  · rw [skeleton_onNavigationItemCommitted]
    exact skeleton_modifyCurrentItem fun _ => rfl
  · rfl

theorem skeleton_pushNewItem (p : Process) (url : GURL)
    (stateObject : Option String16) (transition : PageTransition) (now : Time)
    (h : p.session.lastCommittedItem.isSome) :
    (pushNewItem env p url stateObject transition now).session.skeleton =
      p.session.skeleton.act (.push (nextId p)) := by
  obtain ⟨item, hitem⟩ := Option.isSome_iff_exists.1 h
  rw [pushNewItem, hitem]
  simp only
  rw [skeleton_onNavigationItemCommitted, skeleton_setLastCommittedItemIndex]
  generalize hcreated : itemWithURL env p url ⟨item.url, .default⟩ transition .userInitiated =
    created
  have hskeleton : created.session.skeleton = p.session.skeleton := hcreated ▸ rfl
  have hid : created.item.uniqueId = nextId p := hcreated ▸ rfl
  generalize created.session.timeSmoother.getSmoothedTime now = smoothed
  let s := { created.session with timeSmoother := smoothed.2 }
  let pushedItem := { created.item with
    userAgentType := item.userAgentType
    serializedStateObject := stateObject
    isCreatedFromPushState := true
    ssl := item.ssl
    timestamp := smoothed.1 }
  let t := { s.clearForwardItems with
    items := s.clearForwardItems.items ++ [pushedItem]
    lastCommittedItemIndex := ((s.clearForwardItems.items ++ [pushedItem]).length : Int) - 1
    previousItemIndex := s.clearForwardItems.lastCommittedItemIndex }
  have hpush : t.skeleton = s.skeleton.push pushedItem.uniqueId :=
    skeleton_push rfl rfl rfl (clearForwardItems_pendingItemIndex s)
      (clearForwardItems_ownedPendingItem s)
  show t.skeleton = p.session.skeleton.push (nextId p)
  rw [hpush, ← hid, ← hskeleton]
  rfl

theorem skeleton_goToItemAtIndex (index : Int) (discard : Bool) :
    (s.goToItemAtIndex index discard).skeleton = s.skeleton.act (.goTo index discard) := by
  have hlen : s.skeleton.entries.length = s.items.length := length_map _
  show _ = s.skeleton.goTo index discard
  rw [goToItemAtIndex, Skeleton.goTo, hlen]
  by_cases hout : index < 0 ∨ index ≥ s.items.length
  · have hout' : ¬ InRange s.items.length index := by
      rintro ⟨h0, hlt⟩
      omega
    rw [if_pos hout, if_pos (.inl hout')]
  · have hin : InRange s.items.length index := ⟨by omega, by omega⟩
    rw [if_neg hout]
    by_cases hlast : index = s.lastCommittedItemIndex
    · rw [if_pos hlast, if_pos (.inr hlast)]
    · have hgo : ¬ (¬ InRange s.items.length index ∨ index = s.skeleton.last) := by
        rintro (hnot | heq)
        · exact hnot hin
        · exact hlast heq
      rw [if_neg hlast, if_neg hgo]
      cases discard with
      | false => rfl
      | true =>
        by_cases hback : index < s.lastCommittedItemIndex
        · rw [if_pos rfl, if_pos hback, if_pos ⟨rfl, hback⟩]
          rfl
        · rw [if_pos rfl, if_neg hback, if_neg fun h => hback h.2]
          rfl

theorem skeleton_removeItemAtIndex (index : Int) :
    (s.removeItemAtIndex index).skeleton = s.skeleton.act (.remove index) := by
  show Skeleton.mk ((s.items.eraseIdx index.toNat).map _) _ _ _ _ = Skeleton.mk _ _ _ _ _
  rw [← eraseIdx_map]
  rfl

/-- The merged vector by unique IDs; a copy keeps the one of its original. -/
theorem mergedItems_ids (s source : CRWSessionController) :
    (((source.items.take (source.lastCommittedItemIndex.toNat + 1)).map (·.copy)) ++
        (nth? s.items s.lastCommittedItemIndex).toList).map (·.uniqueId) =
      source.skeleton.entries.take (source.skeleton.last.toNat + 1) ++
        (nth? s.skeleton.entries s.skeleton.last).toList := by
  show _ = (source.items.map (·.uniqueId)).take (source.lastCommittedItemIndex.toNat + 1) ++
    (nth? (s.items.map (·.uniqueId)) s.lastCommittedItemIndex).toList
  rw [map_append, map_map, nth?_map, ← map_take]
  cases nth? s.items s.lastCommittedItemIndex with
  | none => rfl
  | some item => rfl

theorem skeleton_copyState (s source : CRWSessionController) :
    (s.copyStateFromSessionControllerAndPrune source).skeleton =
      if s.canPruneAllButLastCommittedItem = true ∧ source.lastCommittedItem.isSome = true then
        s.skeleton.copyAndPrune source.skeleton
      else s.skeleton := by
  rw [copyStateFromSessionControllerAndPrune]
  cases hprune : s.canPruneAllButLastCommittedItem with
  | false => rfl
  | true =>
    by_cases hsource : source.lastCommittedItem.isSome = true
    · have hne : ¬ source.items.isEmpty = true := by
        intro hempty
        rw [lastCommittedItem_eq, isEmpty_iff.1 hempty] at hsource
        obtain ⟨h0, hlt⟩ := nth?_isSome_iff.1 hsource
        exact absurd hlt (Int.not_lt.2 h0)
      have hnone : ¬ source.lastCommittedItem.isNone = true := by
        rw [Option.isNone_iff_eq_none]
        exact Option.isSome_iff_ne_none.1 hsource
      rw [if_neg (by decide), if_neg hne, if_neg hnone, if_pos ⟨rfl, hsource⟩]
      have hids := mergedItems_ids s source
      refine Skeleton.ext hids ?_ rfl rfl rfl
      have hlen := congrArg List.length hids
      rw [length_map] at hlen
      exact congrArg (fun n : Nat => (n : Int) - 1) hlen
    · have hnone : source.lastCommittedItem.isNone = true := by
        rw [Option.isNone_iff_eq_none]
        exact Option.not_isSome_iff_eq_none.1 hsource
      have hnot : ¬ (true = true ∧ source.lastCommittedItem.isSome = true) := fun h => hsource h.2
      rw [if_neg (by decide), if_pos hnone, if_neg hnot]
      split <;> rfl

end CRWSessionController

/-! ## Steps and runs -/

namespace Process

open CRWSessionController

/-- What a method does to the skeleton. A new item gets the next unique ID. -/
def action (p : Process) : Call → Skeleton.Action Int
  | .addPendingItem url _ transition _ userAgentOverrideOption =>
    .addPending
      (if (p.session.discardTransientItem.setPendingItemIndex (-1)).shouldCreatePendingItem url
          transition userAgentOverrideOption then some (nextId p)
        else none)
  | .setPendingItemIndex index => .setPending index
  | .commitPendingItem _ => .commit
  | .pushNewItem _ _ _ _ =>
    if p.session.lastCommittedItem.isSome then .push (nextId p) else .keep
  | .discardNonCommittedItems => .discard
  | .goToItemAtIndex index discard => .goTo index discard
  | .removeItemAtIndex index => .remove index
  | .updatePendingItem _ | .addTransientItem _ _ | .updateCurrentItem _ _
  | .setNavigationManager _ => .keep

variable (env : Environment)

/-- **Refinement**: a method acts on the skeleton by its action. -/
theorem skeleton_call (p : Process) (c : Call) :
    (p.call env c).session.skeleton = p.session.skeleton.act (p.action c) := by
  cases c with
  | addPendingItem url referrer transition initiationType userAgentOverrideOption =>
    exact skeleton_addPendingItem env p url referrer transition initiationType
      userAgentOverrideOption
  | setPendingItemIndex index => exact skeleton_setPendingItemIndex p.session index
  | updatePendingItem url => exact skeleton_updatePendingItem p.session url
  | commitPendingItem now => exact skeleton_commitPendingItem env p.session now
  | addTransientItem url now => exact skeleton_addTransientItem env p url now
  | pushNewItem url stateObject transition now =>
    show (pushNewItem env p url stateObject transition now).session.skeleton =
      p.session.skeleton.act (if _ then _ else _)
    by_cases h : p.session.lastCommittedItem.isSome = true
    · rw [if_pos h]
      exact skeleton_pushNewItem env p url stateObject transition now h
    · rw [if_neg h, pushNewItem, Option.not_isSome_iff_eq_none.1 h]
      rfl
  | updateCurrentItem url stateObject => exact skeleton_updateCurrentItem p.session url stateObject
  | discardNonCommittedItems => exact skeleton_discardNonCommittedItems p.session
  | goToItemAtIndex index discard => exact skeleton_goToItemAtIndex p.session index discard
  | removeItemAtIndex index => exact skeleton_removeItemAtIndex p.session index
  | setNavigationManager navigationManager => rfl

/-- A session under sequences of calls, each of which passes the checks of its
method; histories are copied from sessions in a valid state. -/
def machine : Machine Process Op where
  Pre p
    | .call c => p.Checked env c
    | .copyStateFromSessionControllerAndPrune source => source.Valid
  step := apply env

instance decidablePre (p : Process) :
    ∀ op : Op, Decidable ((machine env).Pre p op)
  | .call c => decidableChecked env p c
  | .copyStateFromSessionControllerAndPrune source => inferInstanceAs (Decidable source.Valid)

/-- The part of the preconditions the indices depend on. -/
def InBounds (p : Process) : Op → Prop
  | .call (.setPendingItemIndex index) => Cursor p.session.items.length index
  | .call (.pushNewItem _ _ _ _) =>
    p.session.pendingItem = none ∧ p.session.lastCommittedItem ≠ none
  | .call (.removeItemAtIndex index) =>
    InRange p.session.items.length index ∧ index ≠ p.session.lastCommittedItemIndex
  | .call _ => True
  | .copyStateFromSessionControllerAndPrune source => source.Valid

instance decidableInBounds (p : Process) : ∀ op : Op, Decidable (p.InBounds op)
  | .call (.setPendingItemIndex index) => inferInstanceAs (Decidable (Cursor _ index))
  | .call (.pushNewItem _ _ _ _) | .call (.removeItemAtIndex _) => instDecidableAnd
  | .copyStateFromSessionControllerAndPrune source => inferInstanceAs (Decidable source.Valid)
  | .call (.addPendingItem ..) | .call (.updatePendingItem _) | .call (.commitPendingItem _)
  | .call (.addTransientItem ..) | .call (.updateCurrentItem ..) | .call .discardNonCommittedItems
  | .call (.goToItemAtIndex ..) | .call (.setNavigationManager _) =>
    instDecidableTrue

theorem InBounds.of_pre {env : Environment} {p : Process} {op : Op}
    (h : (machine env).Pre p op) : p.InBounds op := by
  cases op with
  | copyStateFromSessionControllerAndPrune source => exact h
  | call c =>
    cases c with
    | setPendingItemIndex index => exact h
    | removeItemAtIndex index => exact h
    | pushNewItem url stateObject transition now =>
      obtain ⟨hnone, item, hitem, -⟩ := h
      refine ⟨Option.isNone_iff_eq_none.1 hnone, fun hlast => ?_⟩
      rw [Option.mem_def, hlast] at hitem
      cases hitem
    | _ => trivial

/-- The action of a call in bounds is one a valid skeleton allows. -/
theorem allows_action {p : Process} (h : p.session.skeleton.Valid) {c : Call}
    (hc : p.InBounds (.call c)) : p.session.skeleton.Allows (p.action c) := by
  have hlen : p.session.skeleton.entries.length = p.session.items.length := length_map _
  cases c with
  | setPendingItemIndex index =>
    show Cursor _ index
    rw [hlen]
    exact hc
  | pushNewItem url stateObject transition now =>
    obtain ⟨hnone, hlast⟩ := hc
    rw [action, if_pos (Option.isSome_iff_ne_none.2 hlast)]
    -- an index would lead to an item
    rcases cursor_iff.1 h.pending with hnew | hin
    · exact hnew
    · have hentry := pendingItem_map p.session
      have hne : p.session.skeleton.pending ≠ -1 := fun heq => by
        rw [heq] at hin
        exact absurd hin.1 (by decide)
      rw [hnone, Skeleton.pendingEntry, if_neg hne] at hentry
      have hsome := nth?_isSome_iff.2 hin
      rw [← hentry] at hsome
      cases hsome
  | removeItemAtIndex index =>
    show InRange _ index ∧ index ≠ p.session.skeleton.last
    rw [hlen]
    exact hc
  | _ => trivial

/-- One call preserves the session index invariant. -/
theorem apply_valid {p : Process} (h : p.session.Valid) {op : Op}
    (hop : p.InBounds op) : (p.apply env op).session.Valid := by
  rw [valid_iff_skeleton] at h ⊢
  cases op with
  | call c =>
    show (p.call env c).session.skeleton.Valid
    rw [skeleton_call]
    exact Skeleton.act_valid h (allows_action h hop)
  | copyStateFromSessionControllerAndPrune source =>
    show (p.session.copyStateFromSessionControllerAndPrune source).skeleton.Valid
    rw [skeleton_copyState]
    split
    · next hcopy =>
      have hprune := hcopy.1
      rw [canPruneAllButLastCommittedItem] at hprune
      simp only [Bool.and_eq_true, bne_iff_ne, beq_iff_eq] at hprune
      obtain ⟨⟨hlast, hpending⟩, -⟩ := hprune
      refine Skeleton.copyAndPrune_valid hpending ?_
      exact nth?_isSome_iff.2 ((cursor_iff.1 h.last).resolve_left hlast)
    · exact h

theorem valid_new : new.session.Valid := valid_iff_skeleton.2 Skeleton.valid_new

theorem run_valid {ops : List Op} (hops : (machine env).Along InBounds new ops) :
    ((machine env).run new ops).session.Valid := by
  refine Machine.run_invariant (M := machine env) (I := fun p => p.session.Valid) ?_ valid_new hops
  exact fun p op h hop => apply_valid env h hop

/-- **Session index invariant**: after every run of calls in bounds from a fresh
session, the three indices are positions of the vector or `-1`, and the last
committed one is `-1` exactly when the vector is empty. -/
theorem session_index_invariant (env : Environment) (ops : List Op)
    (hops : (machine env).Along InBounds new ops) :
    let s := ((machine env).run new ops).session
    (-1 ≤ s.lastCommittedItemIndex ∧ s.lastCommittedItemIndex < s.items.length) ∧
      (s.lastCommittedItemIndex = -1 ↔ s.items = []) ∧
      (-1 ≤ s.previousItemIndex ∧ s.previousItemIndex < s.items.length) ∧
      (-1 ≤ s.pendingItemIndex ∧ s.pendingItemIndex < s.items.length) := by
  intro s
  have hvalid : s.Valid := run_valid env hops
  exact ⟨hvalid.last, hvalid.last_eq, hvalid.previous, hvalid.pending⟩

/-- An environment without URL rewriters and app-specific URLs, for URLs of one
origin that have no reference fragment. -/
def plainEnvironment : Environment where
  urlRewriters := []
  isAppSpecificURL _ := false
  getOrigin _ := ⟨"http://a.com/", true⟩
  hasRef _ := false
  equalsIgnoringRef := GURL.eq

/-- Loading and committing a page of `plainEnvironment`. -/
def loadPage (path : String) : List Op :=
  [.call (.addPendingItem ⟨"http://a.com/" ++ path, true⟩ .new .typed .userInitiated .inherit),
    .call (.commitPendingItem 0)]

/-- A run that loads three pages, goes back to the first and pushes a state,
removes the first item and puts a copy of another history before the rest. -/
theorem session_index_invariant_three_pages :
    let other := ((machine plainEnvironment).run new (loadPage "x" ++ loadPage "y")).session
    let ops := loadPage "1" ++ loadPage "2" ++ loadPage "3" ++
      [.call (.setPendingItemIndex 0), .call (.commitPendingItem 0),
        .call (.pushNewItem ⟨"http://a.com/4", true⟩ none .link 0),
        .call (.removeItemAtIndex 0), .copyStateFromSessionControllerAndPrune other]
    let s := ((machine plainEnvironment).run new ops).session
    ((-1 ≤ s.lastCommittedItemIndex ∧ s.lastCommittedItemIndex < s.items.length) ∧
      (s.lastCommittedItemIndex = -1 ↔ s.items = []) ∧
      (-1 ≤ s.previousItemIndex ∧ s.previousItemIndex < s.items.length) ∧
      (-1 ≤ s.pendingItemIndex ∧ s.pendingItemIndex < s.items.length)) ∧
      s.items.length = 3 ∧ s.lastCommittedItemIndex = 2 := by
  intro other ops s
  exact ⟨session_index_invariant plainEnvironment ops (by decide), by decide, by decide⟩

end Process

end ChromiumIos
