import ChromiumIos.Navigation.SessionInvariant

/-!
# Removing an item, and merging two histories

Two methods of the session controller that edit its vector in the middle of a
history.

- `removeItemAtIndex` moves the two stored indices by different comparisons.
  Every object that stays keeps its index but for the previous item when that
  one is removed: its index then leads to the item before it
  (`removeItemAtIndex_keeps_iff`).
- `copyStateFromSessionControllerAndPrune` builds a vector of pointers index by
  index. No slot of it stays empty (`mergedItems_eq`), and the other session is
  left alone (`copyState_merges`).
-/

namespace ChromiumIos

open Lib List Process

namespace CRWSessionController

/-! ## Removing an item -/

/-- The committed items as objects: an object is the position it has before the
removal. -/
def objects (s : CRWSessionController) : List Nat := List.range s.items.length

/-- The object is not the one at `index`. -/
def staysWithout (index : Int) (object : Nat) : Bool := decide ((object : Int) ≠ index)

/-- The objects that stay when the one at `index` is removed. -/
def remainingObjects (s : CRWSessionController) (index : Int) : List Nat :=
  s.objects.filter (staysWithout index)

/-- `removed` is `s` without the object at `index`: the others are there, with
what they held, and the two stored indices lead to the same objects as before,
or to none when the object is gone. -/
structure KeepsIdentities (s : CRWSessionController) (index : Int)
    (removed : CRWSessionController) : Prop where
  items : removed.items.map some = (s.remainingObjects index).map (s.items[·]?)
  last : nth? (s.remainingObjects index) removed.lastCommittedItemIndex =
    nth? s.objects s.lastCommittedItemIndex
  previous : nth? (s.remainingObjects index) removed.previousItemIndex =
    (nth? s.objects s.previousItemIndex).filter (staysWithout index)

variable {s : CRWSessionController}

theorem nth?_objects {c : Int} (h : InRange s.items.length c) :
    nth? s.objects c = some c.toNat := by
  obtain ⟨k, hk, rfl⟩ := h.exists_nat
  rw [nth?_natCast, objects, getElem?_range hk]
  rfl

/-- Each object holds the item at its position. -/
theorem map_objects (s : CRWSessionController) :
    s.objects.map (s.items[·]?) = s.items.map some := by
  refine ext_getElem? fun i => ?_
  rw [getElem?_map, getElem?_map, objects]
  by_cases hi : i < s.items.length
  · rw [getElem?_range hi, getElem?_eq_getElem hi]
    exact congrArg some (getElem?_eq_getElem hi)
  · rw [getElem?_eq_none (Nat.not_lt.1 hi),
      getElem?_eq_none (by rw [length_range]; omega)]
    rfl

/-- Leaving out an object is erasing its position. -/
theorem remainingObjects_eq {index : Int} (h : InRange s.items.length index) :
    s.remainingObjects index = s.objects.eraseIdx index.toNat := by
  obtain ⟨k, hk, rfl⟩ := h.exists_nat
  have hindex : (List.range s.items.length).idxOf k = k := by
    have hself := nodup_range.idxOf_getElem k (Nat.lt_of_lt_of_eq hk length_range.symm)
    rwa [getElem_range] at hself
  have herase := erase_eq_eraseIdx_of_idxOf hindex
  rw [nodup_range.erase_eq_filter] at herase
  rw [Int.toNat_natCast, remainingObjects, objects, ← herase]
  refine filter_congr fun object _ => ?_
  rw [staysWithout, Bool.eq_iff_iff, decide_eq_true_iff, bne_iff_ne]
  exact not_congr Int.ofNat_inj

/-- The items that stay are those of the objects that stay. -/
theorem items_eraseIdx {index : Int} (h : InRange s.items.length index) :
    (s.items.eraseIdx index.toNat).map some = (s.remainingObjects index).map (s.items[·]?) := by
  rw [remainingObjects_eq h, ← eraseIdx_map, ← eraseIdx_map, map_objects]

/-- An index that is shifted over the removed position keeps its object. -/
theorem nth?_remainingObjects_eraseShift {index c : Int}
    (h : InRange s.items.length index) (hc : c ≠ index) :
    nth? (s.remainingObjects index) (eraseShift index c) = nth? s.objects c := by
  rw [remainingObjects_eq h]
  obtain ⟨k, -, rfl⟩ := h.exists_nat
  exact nth?_eraseIdx_shift _ _ hc

/-- An index is its own object. -/
theorem filter_staysWithout {index c : Int} (hc : Cursor s.items.length c) :
    (nth? s.objects c).filter (staysWithout index) =
      if c = index then none else nth? s.objects c := by
  rcases cursor_iff.1 hc with rfl | hin
  · rw [nth?_neg_one, Option.filter_none, ite_self]
  · rw [nth?_objects hin, Option.filter_some, staysWithout, Int.toNat_of_nonneg hin.1]
    by_cases h : c = index
    · rw [if_pos h, if_neg (by simp [h])]
    · rw [if_neg h, if_pos (by simp [h])]

/-- **Identities under removal**: removing an item that is not the committed
one keeps the identity of the committed item and the order of the others. It
keeps that of the previous item too unless this is the one removed and stands
behind another: then the other becomes the previous item. -/
theorem removeItemAtIndex_keeps_iff {s : CRWSessionController} (h : s.Valid) {index : Int}
    (hindex : InRange s.items.length index) (hne : index ≠ s.lastCommittedItemIndex) :
    s.KeepsIdentities index (s.removeItemAtIndex index) ↔
      s.previousItemIndex ≠ index ∨ index = 0 := by
  have hlast : nth? (s.remainingObjects index) (s.removeItemAtIndex index).lastCommittedItemIndex =
      nth? s.objects s.lastCommittedItemIndex :=
    nth?_remainingObjects_eraseShift hindex hne.symm
  have hprevious : (s.removeItemAtIndex index).previousItemIndex =
      if s.previousItemIndex ≥ index then s.previousItemIndex - 1 else s.previousItemIndex := rfl
  constructor
  · rintro ⟨-, -, hkept⟩
    by_contra hcon
    obtain ⟨hremoved, hpos⟩ : s.previousItemIndex = index ∧ index ≠ 0 := by
      simpa using hcon
    -- the item before the removed one is still there
    have hbefore : InRange s.items.length (index - 1) := ⟨by have := hindex.1; omega, by
      have := hindex.2; omega⟩
    have hother := nth?_remainingObjects_eraseShift hindex (c := index - 1) (by omega)
    rw [eraseShift, if_neg (by omega), nth?_objects hbefore] at hother
    rw [hprevious, if_pos (Int.le_of_eq hremoved.symm), filter_staysWithout h.previous,
      if_pos hremoved, hremoved, hother] at hkept
    cases hkept
  · intro hor
    refine ⟨items_eraseIdx hindex, hlast, ?_⟩
    rw [hprevious, filter_staysWithout h.previous]
    by_cases hremoved : s.previousItemIndex = index
    · have hzero : index = 0 := hor.resolve_left fun hnot => hnot hremoved
      rw [if_pos hremoved, if_pos (Int.le_of_eq hremoved.symm), hremoved, hzero]
      exact nth?_neg_one _
    · rw [if_neg hremoved, ← nth?_remainingObjects_eraseShift hindex hremoved, eraseShift]
      by_cases hlt : index < s.previousItemIndex
      · rw [if_pos hlt, if_pos (Int.le_of_lt hlt)]
      · rw [if_neg hlt, if_neg (by omega)]

/-- The previous item is the first one of the history, and is removed. -/
theorem removeItemAtIndex_keeps_first :
    let s := ((machine plainEnvironment).run new
      (loadPage "1" ++ loadPage "2" ++ loadPage "3" ++
        [.call (.goToItemAtIndex 0 true), .call (.goToItemAtIndex 2 true)])).session
    s.KeepsIdentities 0 (s.removeItemAtIndex 0) := by
  intro s
  exact (removeItemAtIndex_keeps_iff (by decide) (by decide) (by decide)).2 (.inr rfl)

/-- Three pages are loaded, and the second is removed: the first one is the
previous item of the third now. -/
theorem removeItemAtIndex_renames_previous :
    let calls := loadPage "1" ++ loadPage "2" ++ loadPage "3"
    let s := ((machine plainEnvironment).run new calls).session
    (machine plainEnvironment).Along
        (machine plainEnvironment).Pre new
        (calls ++ [.call (.removeItemAtIndex 1)]) ∧
      s.Valid ∧ InRange s.items.length 1 ∧ (1 : Int) ≠ s.lastCommittedItemIndex ∧
      s.previousItemIndex = 1 ∧
      (s.removeItemAtIndex 1).previousItem = s.items[0]? ∧
      ¬ s.KeepsIdentities 1 (s.removeItemAtIndex 1) := by
  intro calls s
  refine ⟨by decide, by decide, by decide, by decide, by decide, by decide, ?_⟩
  intro hkept
  exact absurd hkept.previous (by decide)

/-! ## Merging two histories -/

/-- The loop of `copyStateFromSessionControllerAndPrune:` up to an index: a
slot of the vector of pointers gets a copy of the source item at its index. -/
def copyLoop (sourceItems : List NavigationItemImpl) (merged : List (Option NavigationItemImpl)) :
    (index : Nat) → List (Option NavigationItemImpl)
  | 0 => merged
  | index + 1 =>
    (copyLoop sourceItems merged index).set index (sourceItems[index]?.map (·.copy))

/-- The vector the method swaps in. It starts out with null pointers, and its
`back()` takes over the committed item of the receiver. -/
def mergedItems (s source : CRWSessionController) : List (Option NavigationItemImpl) :=
  let sourceLastCommittedItemIndex := source.lastCommittedItemIndex.toNat
  let merged := copyLoop source.items (List.replicate (sourceLastCommittedItemIndex + 2) none)
    (sourceLastCommittedItemIndex + 1)
  merged.set (merged.length - 1) (nth? s.items s.lastCommittedItemIndex)

/-- The sessions of several tabs, after the one named `receiver` copied the
state of the one named `source`. -/
def copyStateBetween {ι : Type} [DecidableEq ι] (sessions : ι → CRWSessionController)
    (receiver source : ι) : ι → CRWSessionController :=
  fun name => if name = receiver then
    (sessions receiver).copyStateFromSessionControllerAndPrune (sessions source)
  else sessions name

/-- Copies of the items up to the committed one. -/
def committedCopies (source : CRWSessionController) : List NavigationItemImpl :=
  (source.items.take (source.lastCommittedItemIndex.toNat + 1)).map (·.copy)

theorem length_committedCopies {source : CRWSessionController}
    (h : InRange source.items.length source.lastCommittedItemIndex) :
    (source.committedCopies.length : Int) = source.lastCommittedItemIndex + 1 := by
  rw [committedCopies, length_map, length_take_of_le h.toNat_lt]
  have := h.1
  omega

theorem length_copyLoop (sourceItems : List NavigationItemImpl)
    (merged : List (Option NavigationItemImpl)) (index : Nat) :
    (copyLoop sourceItems merged index).length = merged.length := by
  induction index with
  | zero => rfl
  | succ index ih => rw [copyLoop, length_set, ih]

/-- The loop has filled the slots below the index. -/
theorem copyLoop_eq (sourceItems : List NavigationItemImpl)
    (merged : List (Option NavigationItemImpl)) (index : Nat) (hsource : index ≤ sourceItems.length)
    (hmerged : index ≤ merged.length) :
    copyLoop sourceItems merged index =
      (sourceItems.map fun item => some item.copy).take index ++ merged.drop index := by
  induction index with
  | zero => rfl
  | succ index ih =>
    have hlt : index < (sourceItems.map fun item => some item.copy).length := by
      rw [length_map]
      omega
    have hlen : ((sourceItems.map fun item => some item.copy).take index).length = index :=
      length_take_of_le (Nat.le_of_lt hlt)
    rw [copyLoop, ih (by omega) (by omega), set_append_right _ _ (by omega), hlen,
      Nat.sub_self, drop_eq_getElem_cons hmerged, set_cons_zero,
      getElem?_eq_getElem (Nat.lt_of_succ_le hsource), take_succ_eq_append_getElem hlt,
      getElem_map, append_assoc]
    rfl

/-- **No slot stays empty**: the vector holds copies of the committed part of
the source, and the committed item of the receiver. -/
theorem mergedItems_eq {s source : CRWSessionController} {own : NavigationItemImpl}
    (hown : s.lastCommittedItem = some own)
    (hsource : InRange source.items.length source.lastCommittedItemIndex) :
    s.mergedItems source = (source.committedCopies ++ [own]).map some := by
  rw [committedCopies]
  have hlt := hsource.toNat_lt
  generalize hlast : source.lastCommittedItemIndex.toNat = last at hlt
  have hcopied := copyLoop_eq source.items (List.replicate (last + 2) none) (last + 1) hlt
    (by rw [length_replicate]; omega)
  have hlen : ((source.items.map fun item => some item.copy).take (last + 1)).length = last + 1 :=
    length_take_of_le (by rw [length_map]; exact hlt)
  rw [mergedItems, hlast, length_copyLoop, length_replicate, hcopied, ← lastCommittedItem_eq,
    hown, set_append_right _ _ (by omega), hlen, drop_replicate]
  rw [map_append, map_map, ← map_take]
  have hback : last + 2 - (last + 1) = 1 := by omega
  have hend : last + 2 - 1 - (last + 1) = 0 := by omega
  rw [hback, hend]
  rfl

/-- One of the guards of `copyStateFromSessionControllerAndPrune:` stops it. -/
def CopyBlocked (s source : CRWSessionController) : Prop :=
  s.lastCommittedItem = none ∨ s.pendingItemIndex ≠ -1 ∨ s.transientItem ≠ none ∨
    source.lastCommittedItem = none

theorem lastCommittedItem_eq_none_iff (h : s.Valid) :
    s.lastCommittedItem = none ↔ s.lastCommittedItemIndex = -1 := by
  rw [lastCommittedItem_eq]
  constructor
  · intro hnone
    refine (cursor_iff.1 h.last).resolve_right fun hin => ?_
    have hsome := nth?_isSome_iff.2 hin
    rw [hnone] at hsome
    cases hsome
  · intro hneg
    rw [hneg, nth?_neg_one]

/-- The guards by what the two sessions hold. -/
theorem canPrune_iff (h : s.Valid) :
    s.canPruneAllButLastCommittedItem = true ↔
      s.lastCommittedItem ≠ none ∧ s.pendingItemIndex = -1 ∧ s.transientItem = none := by
  rw [canPruneAllButLastCommittedItem, Ne, lastCommittedItem_eq_none_iff h]
  simp [and_assoc]

theorem copyState_of_blocked {s source : CRWSessionController} (hs : s.Valid)
    (h : s.CopyBlocked source) : s.copyStateFromSessionControllerAndPrune source = s := by
  rw [copyStateFromSessionControllerAndPrune]
  by_cases hprune : s.canPruneAllButLastCommittedItem = true
  · obtain ⟨hlast, hpending, htransient⟩ := (canPrune_iff hs).1 hprune
    have hsource : source.lastCommittedItem = none := by
      rcases h with h | h | h | h
      · exact absurd h hlast
      · exact absurd hpending h
      · exact absurd htransient h
      · exact h
    rw [hprune, if_neg (by decide), if_pos (Option.isNone_iff_eq_none.2 hsource), ite_self]
  · rw [if_pos (by simpa using hprune)]

theorem copyState_of_not_blocked {s source : CRWSessionController} (hs : s.Valid)
    {own : NavigationItemImpl} (hown : s.lastCommittedItem = some own)
    (h : ¬ s.CopyBlocked source) :
    InRange source.items.length source.lastCommittedItemIndex ∧
      s.copyStateFromSessionControllerAndPrune source = { s with
        items := source.committedCopies ++ [own]
        previousItemIndex := -1
        lastCommittedItemIndex := source.lastCommittedItemIndex + 1 } := by
  obtain ⟨hlast, hpending, htransient, hsource⟩ :
      s.lastCommittedItem ≠ none ∧ s.pendingItemIndex = -1 ∧ s.transientItem = none ∧
        source.lastCommittedItem ≠ none := by
    simpa [CopyBlocked] using h
  have hprune := (canPrune_iff hs).2 ⟨hlast, hpending, htransient⟩
  have hin : InRange source.items.length source.lastCommittedItemIndex := by
    rw [lastCommittedItem_eq] at hsource
    exact nth?_isSome_iff.1 (Option.isSome_iff_ne_none.2 hsource)
  have hne : ¬ source.items.isEmpty = true := by
    intro hempty
    rw [isEmpty_iff.1 hempty] at hin
    exact absurd hin.2 (Int.not_lt.2 hin.1)
  refine ⟨hin, ?_⟩
  rw [copyStateFromSessionControllerAndPrune, hprune, if_neg (by decide), if_neg hne,
    if_neg fun hnone => hsource (Option.isNone_iff_eq_none.1 hnone), ← lastCommittedItem_eq, hown]
  have hcount : ((source.committedCopies ++ [own]).length : Int) - 1 =
      source.lastCommittedItemIndex + 1 := by
    rw [length_append, Int.natCast_add, length_committedCopies hin, length_singleton]
    omega
  exact congrArg (fun last : Int => { s with
    items := source.committedCopies ++ [own]
    previousItemIndex := -1
    lastCommittedItemIndex := last }) hcount

/-- **Merging histories**: unless a guard stops it, the receiver gets copies of
the committed part of the source and its own committed item behind them, and
keeps its pending item. Every slot of the vector it swaps in has a pointer. No
other session changes, the source among them. -/
theorem copyState_merges {ι : Type} [DecidableEq ι] (sessions : ι → CRWSessionController)
    {receiver source : ι} (hdistinct : source ≠ receiver) (hreceiver : (sessions receiver).Valid) :
    let before := sessions receiver
    let other := sessions source
    let after := copyStateBetween sessions receiver source
    after source = other ∧ (∀ name, name ≠ receiver → after name = sessions name) ∧
      (before.CopyBlocked other → after receiver = before) ∧
      (¬ before.CopyBlocked other → ∃ own, before.lastCommittedItem = some own ∧
        after receiver = { before with
          items := other.committedCopies ++ [own]
          previousItemIndex := -1
          lastCommittedItemIndex := other.lastCommittedItemIndex + 1 } ∧
        before.mergedItems other = (after receiver).items.map some ∧
        (after receiver).lastCommittedItemIndex = (after receiver).items.length - 1 ∧
        (after receiver).lastCommittedItem = some own ∧
        (after receiver).pendingItem = before.pendingItem) := by
  intro before other after
  have hafter : after receiver = before.copyStateFromSessionControllerAndPrune other := if_pos rfl
  refine ⟨if_neg hdistinct, fun name hname => if_neg hname, fun hblocked => ?_, fun hopen => ?_⟩
  · rw [hafter, copyState_of_blocked hreceiver hblocked]
  · obtain ⟨own, hown⟩ : ∃ own, before.lastCommittedItem = some own :=
      Option.ne_none_iff_exists'.1 fun hnone => hopen (.inl hnone)
    obtain ⟨hin, hcopied⟩ := copyState_of_not_blocked hreceiver hown hopen
    have hpending : before.pendingItemIndex = -1 := by
      by_contra hnot
      exact hopen (.inr (.inl hnot))
    refine ⟨own, hown, ?_⟩
    rw [hafter, hcopied]
    have hlength := length_committedCopies hin
    refine ⟨rfl, mergedItems_eq hown hin, ?_, ?_, ?_⟩
    · show _ = ((other.committedCopies ++ [own]).length : Int) - 1
      rw [length_append, Int.natCast_add, hlength, length_singleton]
      show other.lastCommittedItemIndex + 1 = other.lastCommittedItemIndex + 1 + 1 - 1
      omega
    · rw [lastCommittedItem_eq]
      show nth? (other.committedCopies ++ [own]) (other.lastCommittedItemIndex + 1) = some own
      rw [← hlength, nth?_natCast, getElem?_append_right (Nat.le_refl _), Nat.sub_self]
      rfl
    · rw [CRWSessionController.pendingItem, CRWSessionController.pendingItem, if_pos hpending,
        if_pos hpending]

/-- A tab with two pages and a pending third takes over the history of a tab
that went back to the first of its two pages. -/
theorem copyState_merges_two_tabs :
    let run := fun calls =>
      ((machine plainEnvironment).run new calls).session
    let pending : Op :=
      .call (.addPendingItem ⟨"http://a.com/3", true⟩ .new .typed .userInitiated .inherit)
    let sessions : Bool → CRWSessionController := fun isReceiver =>
      if isReceiver then run (loadPage "1" ++ loadPage "2" ++ [pending])
      else run (loadPage "x" ++ loadPage "y" ++ [.call (.goToItemAtIndex 0 true)])
    let after := copyStateBetween sessions true false
    after false = sessions false ∧
      (after true).items.map (·.url.spec) = ["http://a.com/x", "http://a.com/2"] ∧
      (after true).lastCommittedItemIndex = 1 ∧ (after true).pendingItem.isSome := by
  intro run pending sessions after
  obtain ⟨hsource, -, -, hmerged⟩ :=
    @copyState_merges Bool _ sessions true false (by decide) (by decide)
  obtain ⟨own, hown, hafter, -, hlast, -, hpending⟩ := hmerged (by
    rintro (h | h | h | h)
    · exact absurd h (by decide)
    · exact absurd h (by decide)
    · exact absurd h (by decide)
    · exact absurd h (by decide))
  refine ⟨hsource, by decide, ?_, ?_⟩
  · exact hlast.trans (by decide)
  · rw [hpending]
    decide

end CRWSessionController

end ChromiumIos
