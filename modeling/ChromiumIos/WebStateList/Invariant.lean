import ChromiumIos.WebStateList.Mutators

/-!
# The representation invariant of `WebStateList`

`Valid`: the active index is `kInvalidIndex` or an index of the list, and every
opener is a member.

The openers never leave the list. The active index can: a `WebState` may be set
as its own opener, and when the last `WebState` of the list is active, its own
opener and removed, `DetermineNewActiveIndex` falls back to the opener and
returns the index that goes away. `DetachSafe` names the removals that do not
do this.
-/

namespace ChromiumIos

open Lib List

namespace WebStateList

variable {W : Type}

/-- Every opener recorded in `wrappers` is one of `members`. -/
def OpenersIn (wrappers : List (WebStateWrapper W)) (members : List W) : Prop :=
  ∀ wrapper ∈ wrappers, ∀ w, wrapper.opener.opener = some w → w ∈ members

/-- The representation invariant. -/
structure Valid (l : WebStateList W) : Prop where
  active : l.activeIndex = kInvalidIndex ∨ l.ContainsIndex l.activeIndex
  openers : OpenersIn l.wrappers l.webStates

instance [DecidableEq W] (l : WebStateList W) : Decidable l.Valid :=
  decidable_of_iff ((l.activeIndex = kInvalidIndex ∨ l.ContainsIndex l.activeIndex) ∧
      ∀ wrapper ∈ l.wrappers, ∀ w ∈ wrapper.opener.opener, w ∈ l.webStates)
    ⟨fun ⟨hactive, hopeners⟩ => ⟨hactive, hopeners⟩,
      fun ⟨hactive, hopeners⟩ => ⟨hactive, hopeners⟩⟩

theorem active_iff_cursor {l : WebStateList W} :
    (l.activeIndex = kInvalidIndex ∨ l.ContainsIndex l.activeIndex) ↔
      Cursor l.wrappers.length l.activeIndex :=
  cursor_iff.symm

theorem valid_new : (new : WebStateList W).Valid :=
  ⟨.inl rfl, fun _ h => nomatch h⟩

/-! ## The sequence of `WebState`s -/

theorem OpenersIn.mono {wrappers : List (WebStateWrapper W)} {s t : List W}
    (h : OpenersIn wrappers s) (hst : ∀ w ∈ s, w ∈ t) : OpenersIn wrappers t :=
  fun wrapper hmem w hw => hst w (h wrapper hmem w hw)

theorem OpenersIn.of_subset {wrappers wrappers' : List (WebStateWrapper W)} {s : List W}
    (h : OpenersIn wrappers s) (hsub : ∀ wrapper ∈ wrappers', wrapper ∈ wrappers) :
    OpenersIn wrappers' s :=
  fun wrapper hmem => h wrapper (hsub wrapper hmem)

/-- Overwriting one wrapper keeps the openers members when the new opener is. -/
theorem OpenersIn.modify {wrappers : List (WebStateWrapper W)} {s : List W}
    (h : OpenersIn wrappers s) (i : Nat) {f : WebStateWrapper W → WebStateWrapper W}
    (hf : ∀ wrapper w, (f wrapper).opener.opener = some w → w ∈ s) :
    OpenersIn (wrappers.modify i f) s := by
  intro wrapper hmem w hw
  obtain ⟨k, hk⟩ := mem_iff_getElem?.1 hmem
  rw [getElem?_modify] at hk
  cases hold : wrappers[k]? with
  | none => simp [hold] at hk
  | some old =>
    rw [hold, Option.map_eq_map, Option.map_some, Option.some.injEq] at hk
    by_cases hik : i = k
    · rw [if_pos hik] at hk
      exact hf old w (hk ▸ hw)
    · rw [if_neg hik] at hk
      exact h wrapper (hk ▸ mem_of_getElem? hold) w hw

theorem webStates_modify (wrappers : List (WebStateWrapper W)) (i : Nat)
    {f : WebStateWrapper W → WebStateWrapper W}
    (hf : ∀ wrapper, (f wrapper).webState = wrapper.webState) :
    (wrappers.modify i f).map (·.webState) = wrappers.map (·.webState) := by
  refine ext_getElem? fun k => ?_
  rw [getElem?_map, getElem?_map, getElem?_modify]
  cases wrappers[k]? with
  | none => rfl
  | some wrapper =>
    by_cases hik : i = k
    · simp [hik, hf]
    · simp [hik]

/-- Replacing the wrapped `WebState` at one position. -/
theorem webStates_modify_replace (wrappers : List (WebStateWrapper W)) (i : Nat) (w : W) :
    (wrappers.modify i fun wrapper => wrapper.replaceWebState w).map (·.webState) =
      (wrappers.map (·.webState)).set i w := by
  refine ext_getElem? fun k => ?_
  rw [getElem?_map, getElem?_modify, getElem?_set, length_map,
    getElem?_map]
  cases hold : wrappers[k]? with
  | none =>
    have hk := List.getElem?_eq_none_iff.1 hold
    by_cases hik : i = k
    · subst hik
      simp [Nat.not_lt.2 hk]
    · simp [hik]
  | some wrapper =>
    have hk := (List.getElem?_eq_some_iff.1 hold).1
    by_cases hik : i = k
    · subst hik
      simp [hk, WebStateWrapper.replaceWebState]
    · simp [hik]

@[simp] theorem webStates_setOpenerOfWebStateAt (l : WebStateList W) (index : Int)
    (opener : WebStateOpener W) :
    (l.setOpenerOfWebStateAt index opener).list.webStates = l.webStates :=
  webStates_modify _ _ fun _ => rfl

@[simp] theorem webStates_insertWebState (l : WebStateList W) (index : Int) (w : W) :
    (l.insertWebState index w).list.webStates = l.webStates.insertIdx index.toNat w :=
  map_insertIdx _ _ _ _

section

variable {l : WebStateList W} {index : Int}

/-- An index the insertion functions accept is a position of the vector or its
end. -/
theorem toNat_le_of_insertable
    (h : l.ContainsIndex index ∨ index = l.count) : index.toNat ≤ l.wrappers.length := by
  rcases h with hin | hcount
  · exact Nat.le_of_lt hin.toNat_lt
  · rw [hcount]
    exact Nat.le_refl _

/-- A `WebState` stands at every index of the list. -/
theorem exists_getWebStateAt (h : l.ContainsIndex index) : ∃ w, l.getWebStateAt index = some w :=
  Option.isSome_iff_exists.1 (nth?_isSome_iff.2 (by rwa [length_webStates]))

/-- A member that does not stand at `index` stays when the one at `index` is
taken out. -/
theorem getElem?_ne_of_getWebStateAt_ne
    (hin : l.ContainsIndex index) {w : W} (h : l.getWebStateAt index ≠ some w) :
    l.webStates[index.toNat]? ≠ some w := by
  rwa [getWebStateAt, nth?, if_pos hin.1] at h

/-- The opener recorded at an index is the one of the wrapper there. -/
theorem opener_mem (h : OpenersIn l.wrappers l.webStates) {index : Int}
    {w : W} (hw : (l.getOpenerOfWebStateAt index).opener = some w) : w ∈ l.webStates := by
  rw [getOpenerOfWebStateAt] at hw
  cases hwrapper : nth? l.wrappers index with
  | none =>
    rw [hwrapper] at hw
    cases hw
  | some wrapper =>
    rw [hwrapper] at hw
    exact h wrapper (mem_of_nth? hwrapper) w hw

/-! ## Insertion and openers -/

theorem insertWebState_openers {w : W}
    (hindex : l.ContainsIndex index ∨ index = l.count) (h : OpenersIn l.wrappers l.webStates) :
    OpenersIn (l.insertWebState index w).list.wrappers
      (l.insertWebState index w).list.webStates := by
  have hle := toNat_le_of_insertable hindex
  rw [webStates_insertWebState]
  intro wrapper hmem v hv
  rcases (mem_insertIdx hle).1 hmem with rfl | hold
  · cases hv
  · refine (mem_insertIdx ?_).2 (.inr (h wrapper hold v hv))
    rwa [length_webStates]

theorem insertWebState_active {w : W}
    (hindex : l.ContainsIndex index ∨ index = l.count)
    (h : Cursor l.wrappers.length l.activeIndex) :
    Cursor (l.insertWebState index w).list.wrappers.length
      (l.insertWebState index w).list.activeIndex := by
  show Cursor (l.wrappers.insertIdx index.toNat _).length (insertShift index l.activeIndex)
  rw [length_insertIdx_of_le_length (toNat_le_of_insertable hindex)]
  exact h.insertShift

theorem setOpenerOfWebStateAt_openers (index : Int)
    {opener : WebStateOpener W} (hopener : ∀ w, opener.opener = some w → w ∈ l.webStates)
    (h : OpenersIn l.wrappers l.webStates) :
    OpenersIn (l.setOpenerOfWebStateAt index opener).list.wrappers
      (l.setOpenerOfWebStateAt index opener).list.webStates := by
  rw [webStates_setOpenerOfWebStateAt]
  exact h.modify _ fun _ => hopener

theorem setOpenerOfWebStateAt_active (index : Int)
    (opener : WebStateOpener W) (h : Cursor l.wrappers.length l.activeIndex) :
    Cursor (l.setOpenerOfWebStateAt index opener).list.wrappers.length
      (l.setOpenerOfWebStateAt index opener).list.activeIndex := by
  show Cursor (l.wrappers.modify _ _).length l.activeIndex
  rwa [length_modify]

/-! ## Moving -/

/-- `MoveWebStateAt` moves one wrapper and lets the active index follow. -/
theorem moveWebStateAt_list {f t : Int} (hf : l.ContainsIndex f) (hne : f ≠ t) :
    (l.moveWebStateAt f t).list =
      ⟨moveIdx l.wrappers f.toNat t.toNat, moveShift f t l.activeIndex⟩ := by
  obtain ⟨w, hw⟩ := exists_getWebStateAt hf
  rw [moveWebStateAt, if_neg hne, hw]
  exact congrArg (WebStateList.mk _) (moveShift_eq f t l.activeIndex)

end

theorem moveWebStateAt_self (l : WebStateList W) (f : Int) :
    l.moveWebStateAt f f = ⟨l, [], none⟩ := if_pos rfl

theorem moveWebStateAt_openers {l : WebStateList W} {f t : Int} (hf : l.ContainsIndex f)
    (ht : l.ContainsIndex t) (h : OpenersIn l.wrappers l.webStates) :
    OpenersIn (l.moveWebStateAt f t).list.wrappers (l.moveWebStateAt f t).list.webStates := by
  by_cases hne : f = t
  · rwa [hne, moveWebStateAt_self]
  · rw [moveWebStateAt_list hf hne]
    have hperm := moveIdx_perm l.wrappers (f := f.toNat) ht.toNat_lt
    refine (h.of_subset fun wrapper hmem => hperm.mem_iff.1 hmem).mono fun w hw => ?_
    exact (hperm.map _).mem_iff.2 hw

theorem moveWebStateAt_active {l : WebStateList W} {f t : Int} (hf : l.ContainsIndex f)
    (ht : l.ContainsIndex t) (h : Cursor l.wrappers.length l.activeIndex) :
    Cursor (l.moveWebStateAt f t).list.wrappers.length (l.moveWebStateAt f t).list.activeIndex := by
  by_cases hne : f = t
  · rwa [hne, moveWebStateAt_self]
  · rw [moveWebStateAt_list hf hne]
    show Cursor (moveIdx _ _ _).length _
    rw [length_moveIdx ht.toNat_lt]
    exact h.moveShift hf ht

variable [DecidableEq W]

@[simp] theorem webStates_clearOpenersReferencing (l : WebStateList W) (index : Int) :
    (l.clearOpenersReferencing index).webStates = l.webStates := by
  rw [webStates, webStates, clearOpenersReferencing, map_map]
  refine map_congr_left fun wrapper _ => ?_
  show (if _ then _ else wrapper).webState = wrapper.webState
  split <;> rfl

@[simp] theorem length_clearOpenersReferencing (l : WebStateList W) (index : Int) :
    (l.clearOpenersReferencing index).wrappers.length = l.wrappers.length := length_map _

/-- After clearing, no opener is the `WebState` at the index. -/
theorem clearOpenersReferencing_openers {l : WebStateList W} (index : Int)
    (h : OpenersIn l.wrappers l.webStates) :
    ∀ wrapper ∈ (l.clearOpenersReferencing index).wrappers, ∀ w,
      wrapper.opener.opener = some w → w ∈ l.webStates ∧ l.getWebStateAt index ≠ some w := by
  intro wrapper hmem w hw
  obtain ⟨old, hold, rfl⟩ := mem_map.1 hmem
  by_cases hop : old.opener.opener = l.getWebStateAt index
  · rw [if_pos hop] at hw
    cases hw
  · rw [if_neg hop] at hw
    exact ⟨h old hold w hw, fun hat => hop (hw.trans hat.symm).symm.symm⟩

/-- `AppendWebState` is an insertion at some accepted index, followed by
`SetOpenerOfWebStateAt` there when an opener is given. -/
theorem appendWebState_list (l : WebStateList W) (lastCommittedItemIndex : W → Int)
    (transition : PageTransition) (w : W) (opener : WebStateOpener W) :
    ∃ index, (l.ContainsIndex index ∨ index = l.count) ∧
      (l.appendWebState lastCommittedItemIndex transition w opener).events =
        (l.insertWebState index w).events ∧
      (l.appendWebState lastCommittedItemIndex transition w opener).list =
        if opener.opener ≠ none then
          ((l.insertWebState index w).list.setOpenerOfWebStateAt index opener).list
        else (l.insertWebState index w).list := by
  rw [appendWebState]
  generalize l.determineInsertionIndex lastCommittedItemIndex transition opener.opener = d
  refine ⟨if d < 0 ∨ l.count < d then l.count else d, ?_, ?_, ?_⟩
  · by_cases hd : d < 0 ∨ l.count < d
    · exact .inr (if_pos hd)
    · rw [if_neg hd]
      rcases Int.lt_or_eq_of_le (Int.not_lt.1 fun h => hd (.inr h)) with hlt | heq
      · exact .inl ⟨Int.not_lt.1 fun h => hd (.inl h), hlt⟩
      · exact .inr heq
  · split <;> rfl
  · split <;> rfl

section

variable {l : WebStateList W}

theorem appendWebState_openers (lastCommittedItemIndex : W → Int)
    (transition : PageTransition) {w : W} {opener : WebStateOpener W}
    (hopener : ∀ v ∈ opener.opener, v ∈ l.webStates) (h : OpenersIn l.wrappers l.webStates) :
    OpenersIn (l.appendWebState lastCommittedItemIndex transition w opener).list.wrappers
      (l.appendWebState lastCommittedItemIndex transition w opener).list.webStates := by
  obtain ⟨index, hindex, -, hlist⟩ :=
    l.appendWebState_list lastCommittedItemIndex transition w opener
  have hins := insertWebState_openers (w := w) hindex h
  rw [hlist]
  split
  · refine setOpenerOfWebStateAt_openers index (fun v hv => ?_) hins
    rw [webStates_insertWebState]
    refine (mem_insertIdx ?_).2 (.inr (hopener v hv))
    rw [length_webStates]
    exact toNat_le_of_insertable hindex
  · exact hins

theorem appendWebState_active (lastCommittedItemIndex : W → Int)
    (transition : PageTransition) {w : W} {opener : WebStateOpener W}
    (h : Cursor l.wrappers.length l.activeIndex) :
    Cursor (l.appendWebState lastCommittedItemIndex transition w opener).list.wrappers.length
      (l.appendWebState lastCommittedItemIndex transition w opener).list.activeIndex := by
  obtain ⟨index, hindex, -, hlist⟩ :=
    l.appendWebState_list lastCommittedItemIndex transition w opener
  have hins := insertWebState_active (w := w) hindex h
  rw [hlist]
  split
  · exact setOpenerOfWebStateAt_active index opener hins
  · exact hins

/-! ## Replacing -/

variable {index : Int}

theorem replaceWebStateAt_list (hin : l.ContainsIndex index) (w : W) :
    (l.replaceWebStateAt index w).list = { l with
      wrappers := (l.clearOpenersReferencing index).wrappers.modify index.toNat fun wrapper =>
        wrapper.replaceWebState w } := by
  obtain ⟨v, hv⟩ := exists_getWebStateAt hin
  rw [replaceWebStateAt, hv]
  rfl

theorem webStates_replaceWebStateAt (hin : l.ContainsIndex index) (w : W) :
    (l.replaceWebStateAt index w).list.webStates = l.webStates.set index.toNat w := by
  rw [replaceWebStateAt_list hin]
  show List.map _ (List.modify _ _ _) = _
  rw [webStates_modify_replace]
  exact congrArg (List.set · _ _) (webStates_clearOpenersReferencing l index)

theorem replaceWebStateAt_openers
    (hin : l.ContainsIndex index) {w : W} (h : OpenersIn l.wrappers l.webStates) :
    OpenersIn (l.replaceWebStateAt index w).list.wrappers
      (l.replaceWebStateAt index w).list.webStates := by
  rw [webStates_replaceWebStateAt hin, replaceWebStateAt_list hin]
  refine OpenersIn.modify (fun wrapper hmem v hv => ?_) _ fun _ v hv => nomatch hv
  obtain ⟨hmem', hne⟩ := clearOpenersReferencing_openers index h wrapper hmem v hv
  exact mem_set_of_ne hmem' (getElem?_ne_of_getWebStateAt_ne hin hne)

theorem replaceWebStateAt_active
    (hin : l.ContainsIndex index) (w : W) (h : Cursor l.wrappers.length l.activeIndex) :
    Cursor (l.replaceWebStateAt index w).list.wrappers.length
      (l.replaceWebStateAt index w).list.activeIndex := by
  rw [replaceWebStateAt_list hin]
  show Cursor (List.modify _ _ _).length l.activeIndex
  rwa [length_modify, length_clearOpenersReferencing]

/-! ## Detaching -/

/-- The list after `DetachWebStateAt`. -/
theorem detachWebStateAt_list (hin : l.ContainsIndex index) :
    (l.detachWebStateAt index).list = {
      wrappers := (l.clearOpenersReferencing index).wrappers.eraseIdx index.toNat
      activeIndex := if l.activeIndex = index then l.determineNewActiveIndex index
        else eraseShift index l.activeIndex } := by
  obtain ⟨w, hw⟩ := exists_getWebStateAt hin
  rw [detachWebStateAt, hw]
  refine congrArg (WebStateList.mk _) ?_
  show (if l.activeIndex > index then _ else if l.activeIndex = index then _ else _) = _
  rw [eraseShift]
  rcases Int.lt_trichotomy l.activeIndex index with hlt | heq | hgt
  · rw [if_neg (by omega), if_neg (by omega), if_neg (by omega), if_neg (by omega)]
  · rw [if_neg (by omega), if_pos heq, if_pos heq]
  · rw [if_pos hgt, if_neg (by omega), if_pos hgt]

theorem webStates_detachWebStateAt (hin : l.ContainsIndex index) :
    (l.detachWebStateAt index).list.webStates = l.webStates.eraseIdx index.toNat := by
  rw [detachWebStateAt_list hin]
  show List.map _ (eraseIdx _ _) = _
  rw [← eraseIdx_map]
  exact congrArg (eraseIdx · _) (webStates_clearOpenersReferencing l index)

theorem length_detachWebStateAt (hin : l.ContainsIndex index) :
    (l.detachWebStateAt index).list.wrappers.length = l.wrappers.length - 1 := by
  rw [detachWebStateAt_list hin]
  show (eraseIdx _ _).length = _
  rw [length_eraseIdx_of_lt (by rw [length_clearOpenersReferencing]; exact hin.toNat_lt),
    length_clearOpenersReferencing]

theorem detachWebStateAt_openers
    (hin : l.ContainsIndex index) (h : OpenersIn l.wrappers l.webStates) :
    OpenersIn (l.detachWebStateAt index).list.wrappers
      (l.detachWebStateAt index).list.webStates := by
  rw [webStates_detachWebStateAt hin, detachWebStateAt_list hin]
  intro wrapper hmem v hv
  obtain ⟨hmem', hne⟩ := clearOpenersReferencing_openers index h wrapper
    (mem_of_mem_eraseIdx hmem) v hv
  exact mem_eraseIdx_of_ne hmem' (getElem?_ne_of_getWebStateAt_ne hin hne)

end

variable (l : WebStateList W)

/-- The removal of the `WebState` at `index` does not take away an active, last
`WebState` that is its own opener. -/
def DetachSafe (index : Int) : Prop :=
  ¬ (index = l.activeIndex ∧ index = l.count - 1 ∧
    (l.getOpenerOfWebStateAt index).opener = l.getWebStateAt index)

instance (index : Int) : Decidable (l.DetachSafe index) := instDecidableNot

theorem detachWebStateAt_active {l : WebStateList W} {index : Int} (hin : l.ContainsIndex index)
    (hsafe : l.DetachSafe index) (hopeners : OpenersIn l.wrappers l.webStates)
    (h : Cursor l.wrappers.length l.activeIndex) :
    Cursor (l.detachWebStateAt index).list.wrappers.length
      (l.detachWebStateAt index).list.activeIndex := by
  rw [length_detachWebStateAt hin, detachWebStateAt_list hin]
  show Cursor _ (if l.activeIndex = index then _ else _)
  split
  · next hactive =>
    rcases determineNewActiveIndex_cases hin fun w => opener_mem hopeners with
      ⟨-, hnone⟩ | hrange | ⟨-, hlast, hself⟩
    · rw [hnone]
      exact cursor_neg_one _
    · exact hrange.cursor
    · exact absurd ⟨hactive.symm, hlast, hself⟩ hsafe
  · next hactive => exact h.eraseShift hin hactive

/-! ## Closing all -/

/-- `n` turns of the loop of `CloseAllWebStates` remove `DetachSafe` ones only. -/
def CloseAllSafe : Nat → WebStateList W → Prop
  | 0, _ => True
  | n + 1, l =>
    l.empty ∨ (l.DetachSafe (l.count - 1) ∧
      CloseAllSafe n (l.closeWebStateAt (l.count - 1)).list)

instance decidableCloseAllSafe : ∀ (n : Nat) (l : WebStateList W), Decidable (CloseAllSafe n l)
  | 0, _ => instDecidableTrue
  | n + 1, l =>
    @instDecidableOr _ _ _ (@instDecidableAnd _ _ _
      (decidableCloseAllSafe n (l.closeWebStateAt (l.count - 1)).list))

omit [DecidableEq W] in
theorem containsIndex_last {l : WebStateList W} (h : ¬ l.empty = true) :
    l.ContainsIndex (l.count - 1) := by
  have hpos : 0 < l.wrappers.length := by
    rw [empty, List.isEmpty_iff] at h
    exact length_pos_iff.2 h
  have hcount : l.count = l.wrappers.length := rfl
  exact ⟨by omega, by omega⟩

theorem closeAllLoop_openers (n : Nat) {l : WebStateList W}
    (h : OpenersIn l.wrappers l.webStates) :
    OpenersIn (closeAllLoop n l).list.wrappers (closeAllLoop n l).list.webStates := by
  induction n generalizing l with
  | zero => exact h
  | succ n ih =>
    rw [closeAllLoop]
    by_cases hempty : l.empty = true
    · rwa [if_pos hempty]
    · rw [if_neg hempty]
      exact ih (detachWebStateAt_openers (containsIndex_last hempty) h)

theorem closeAllLoop_active (n : Nat) {l : WebStateList W} (hsafe : CloseAllSafe n l)
    (hopeners : OpenersIn l.wrappers l.webStates) (h : Cursor l.wrappers.length l.activeIndex) :
    Cursor (closeAllLoop n l).list.wrappers.length (closeAllLoop n l).list.activeIndex := by
  induction n generalizing l with
  | zero => exact h
  | succ n ih =>
    rw [closeAllLoop]
    by_cases hempty : l.empty = true
    · rwa [if_pos hempty]
    · rw [if_neg hempty]
      obtain ⟨hdetach, hrest⟩ := hsafe.resolve_left hempty
      have hin := containsIndex_last hempty
      exact ih hrest (detachWebStateAt_openers hin hopeners)
        (detachWebStateAt_active hin hdetach hopeners h)

theorem length_closeAllLoop (n : Nat) (l : WebStateList W) :
    (closeAllLoop n l).list.wrappers.length = l.wrappers.length - n := by
  induction n generalizing l with
  | zero => rfl
  | succ n ih =>
    rw [closeAllLoop]
    by_cases hempty : l.empty = true
    · rw [if_pos hempty, List.isEmpty_iff.1 hempty]
      simp
    · rw [if_neg hempty]
      show (closeAllLoop n (l.detachWebStateAt (l.count - 1)).list).list.wrappers.length = _
      rw [ih, length_detachWebStateAt (containsIndex_last hempty)]
      omega

/-- `CloseAllWebStates` terminates with the empty list. -/
theorem closeAllWebStates_empty : l.closeAllWebStates.list.wrappers = [] := by
  refine length_eq_zero_iff.1 ?_
  rw [closeAllWebStates, length_closeAllLoop, Nat.sub_self]

/-! ## Steps and runs -/

/-- Every removal a call makes is `DetachSafe`. -/
def DetachesSafely : Op W → Prop
  | .detachWebStateAt index => l.DetachSafe index
  | .closeWebStateAt index => l.DetachSafe index
  | .closeAllWebStates => CloseAllSafe l.wrappers.length l
  | _ => True

instance decidableDetachesSafely :
    ∀ op : Op W, Decidable (l.DetachesSafely op)
  | .detachWebStateAt index => inferInstanceAs (Decidable (l.DetachSafe index))
  | .closeWebStateAt index => inferInstanceAs (Decidable (l.DetachSafe index))
  | .closeAllWebStates => decidableCloseAllSafe l.wrappers.length l
  | .insertWebState .. | .appendWebState .. | .moveWebStateAt .. | .replaceWebStateAt ..
  | .setOpenerOfWebStateAt .. | .activateWebStateAt .. => instDecidableTrue

theorem apply_openers {l : WebStateList W} {op : Op W} (hpre : l.Pre op)
    (h : OpenersIn l.wrappers l.webStates) :
    OpenersIn (l.apply op).list.wrappers (l.apply op).list.webStates := by
  cases op with
  | insertWebState index w => exact insertWebState_openers hpre h
  | appendWebState lastCommittedItemIndex transition w opener =>
    exact appendWebState_openers lastCommittedItemIndex transition hpre h
  | moveWebStateAt f t => exact moveWebStateAt_openers hpre.1 hpre.2 h
  | replaceWebStateAt index w => exact replaceWebStateAt_openers hpre.1 h
  | detachWebStateAt index => exact detachWebStateAt_openers hpre h
  | closeWebStateAt index => exact detachWebStateAt_openers hpre h
  | closeAllWebStates => exact closeAllLoop_openers _ h
  | setOpenerOfWebStateAt index opener =>
    obtain ⟨-, w, hw, hmem⟩ := hpre
    refine setOpenerOfWebStateAt_openers index (fun v hv => ?_) h
    have hvw : w = v := Option.some.inj ((Option.mem_def.1 hw).symm.trans hv)
    exact containsIndex_getIndexOfWebState.1 (hvw ▸ hmem)
  | activateWebStateAt index => exact h

theorem apply_active {l : WebStateList W} {op : Op W} (hpre : l.Pre op)
    (hsafe : l.DetachesSafely op) (hopeners : OpenersIn l.wrappers l.webStates)
    (h : Cursor l.wrappers.length l.activeIndex) :
    Cursor (l.apply op).list.wrappers.length (l.apply op).list.activeIndex := by
  cases op with
  | insertWebState index w => exact insertWebState_active hpre h
  | appendWebState lastCommittedItemIndex transition w opener =>
    exact appendWebState_active lastCommittedItemIndex transition h
  | moveWebStateAt f t => exact moveWebStateAt_active hpre.1 hpre.2 h
  | replaceWebStateAt index w => exact replaceWebStateAt_active hpre.1 w h
  | detachWebStateAt index => exact detachWebStateAt_active hpre hsafe hopeners h
  | closeWebStateAt index => exact detachWebStateAt_active hpre hsafe hopeners h
  | closeAllWebStates => exact closeAllLoop_active _ hsafe hopeners h
  | setOpenerOfWebStateAt index opener => exact setOpenerOfWebStateAt_active index opener h
  | activateWebStateAt index => exact InRange.cursor hpre

/-- One call preserves the representation invariant. -/
theorem Valid.apply {l : WebStateList W} (h : l.Valid) {op : Op W} (hpre : l.Pre op)
    (hsafe : l.DetachesSafely op) : (l.apply op).list.Valid :=
  ⟨active_iff_cursor.2 (apply_active hpre hsafe h.openers (active_iff_cursor.1 h.active)),
    apply_openers hpre h.openers⟩

/-- **Representation invariant**: after every run of calls that meet their
preconditions, the openers are members of the list; and if no call removed an
active, last `WebState` that is its own opener, the active index is
`kInvalidIndex` or an index of the list. -/
theorem representation_invariant (ops : List (Op W)) (hlegal : (machine W).Legal new ops) :
    let l := (machine W).run new ops
    (∀ wrapper ∈ l.wrappers, ∀ w, wrapper.opener.opener = some w → w ∈ l.webStates) ∧
      ((machine W).Along DetachesSafely new ops →
        l.activeIndex = kInvalidIndex ∨ (0 ≤ l.activeIndex ∧ l.activeIndex < l.count)) := by
  constructor
  · refine Machine.run_invariant (M := machine W) (C := Pre)
      (I := fun l => OpenersIn l.wrappers l.webStates) ?_ valid_new.openers hlegal
    exact fun l op h hpre => apply_openers hpre h
  · intro hsafe
    have hvalid : ((machine W).run new ops).Valid := by
      refine Machine.run_invariant (M := machine W) ?_ valid_new (Machine.along_and _ hlegal hsafe)
      exact fun l op h hop => h.apply hop.1 hop.2
    exact hvalid.active

/-- A run that opens a second tab from the first and closes both. -/
theorem representation_invariant_two_tabs :
    let ops : List (Op Nat) := [.insertWebState 0 0,
      .appendWebState (fun _ => 3) .link 1 ⟨some 0, 3⟩, .activateWebStateAt 1,
      .closeWebStateAt 1, .closeAllWebStates]
    let l := (machine Nat).run new ops
    (machine Nat).Legal new ops ∧
      (∀ wrapper ∈ l.wrappers, ∀ w, wrapper.opener.opener = some w → w ∈ l.webStates) ∧
      (l.activeIndex = kInvalidIndex ∨ (0 ≤ l.activeIndex ∧ l.activeIndex < l.count)) := by
  intro ops l
  have hlegal : (machine Nat).Along Pre new ops := by decide
  have h := representation_invariant ops hlegal
  exact ⟨hlegal, h.1, h.2 (by decide)⟩

/-- Removing the only tab of a list after making it its own opener and
activating it leaves the active index at `0` in an empty list. -/
theorem selfOpener_detach_out_of_range :
    let ops : List (Op Nat) := [.insertWebState 0 0, .setOpenerOfWebStateAt 0 ⟨some 0, 0⟩,
      .activateWebStateAt 0, .detachWebStateAt 0]
    let l := (machine Nat).run new ops
    (machine Nat).Along Pre new ops ∧
      ¬ (l.activeIndex = kInvalidIndex ∨ (0 ≤ l.activeIndex ∧ l.activeIndex < l.count)) := by
  decide

end WebStateList

end ChromiumIos
