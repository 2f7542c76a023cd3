import Mathlib.Data.List.Nodup
import ChromiumIos.WebStateList.Invariant

/-!
# Observers can mirror a `WebStateList`

The tab strip, the session service and the tab model each keep their own copy
of the list, maintained only from the notifications it sends.

- `Mirror.see`: what such an observer does with one notification.
- `Mirrors.apply`: the notifications of one call take a copy of the list before
  the call to a copy of the list after it.
- `observer_mirrors_list`: so the copy is right after every run.

Two facts about the callers are used. A `WebState` handed to the list comes in a
`std::unique_ptr`, so it is not already in the list (`TakesOwnership`); and no
`WebState` is set as its own opener (`SetsOtherOpener`), so that no removal takes
the active index out of range.
-/

namespace ChromiumIos

open Lib List

namespace WebStateList

variable {W : Type}

/-! ## Lists that own each `WebState` once -/

/-- No wrapper records its own `WebState` as the opener. -/
def NoSelfOpener (wrappers : List (WebStateWrapper W)) : Prop :=
  ∀ wrapper ∈ wrappers, wrapper.opener.opener ≠ some wrapper.webState

/-- A valid list of distinct `WebState`s none of which is its own opener. -/
structure Owned (l : WebStateList W) : Prop where
  valid : l.Valid
  nodup : l.webStates.Nodup
  noSelf : NoSelfOpener l.wrappers

theorem owned_new : (new : WebStateList W).Owned :=
  ⟨valid_new, nodup_nil, fun _ h => nomatch h⟩

theorem NoSelfOpener.of_subset {wrappers wrappers' : List (WebStateWrapper W)}
    (h : NoSelfOpener wrappers) (hsub : ∀ wrapper ∈ wrappers', wrapper ∈ wrappers) :
    NoSelfOpener wrappers' :=
  fun wrapper hmem => h wrapper (hsub wrapper hmem)

/-- Overwriting the wrapper at one position keeps `NoSelfOpener` when the new
wrapper does. -/
theorem NoSelfOpener.modify {wrappers : List (WebStateWrapper W)} (h : NoSelfOpener wrappers)
    {i : Nat} {f : WebStateWrapper W → WebStateWrapper W}
    (hf : ∀ wrapper, wrappers[i]? = some wrapper →
      (f wrapper).opener.opener ≠ some (f wrapper).webState) :
    NoSelfOpener (wrappers.modify i f) := by
  intro wrapper hmem
  obtain ⟨k, hk⟩ := mem_iff_getElem?.1 hmem
  rw [getElem?_modify] at hk
  obtain ⟨old, hold, hupd⟩ := Option.map_eq_some_iff.1 hk
  by_cases hik : i = k
  · rw [if_pos hik] at hupd
    subst hupd hik
    exact hf old hold
  · rw [if_neg hik] at hupd
    subst hupd
    exact h old (mem_of_getElem? hold)

section

variable {l : WebStateList W}

/-- In a list without self-openers, the opener recorded at an index is not the
`WebState` there. -/
theorem NoSelfOpener.opener_ne (h : NoSelfOpener l.wrappers) {index : Int}
    (hin : l.ContainsIndex index) :
    (l.getOpenerOfWebStateAt index).opener ≠ l.getWebStateAt index := by
  have hwrapper := nth?_of_inRange hin
  rw [getOpenerOfWebStateAt, getWebStateAt_eq, hwrapper]
  exact h _ (mem_of_nth? hwrapper)

variable {index : Int}

theorem index_nonneg_of_insertable (h : l.ContainsIndex index ∨ index = l.count) : 0 ≤ index := by
  rcases h with hin | hcount
  · exact hin.1
  · exact hcount ▸ Int.natCast_nonneg _

theorem getWebStateAt_insertWebState (hindex : l.ContainsIndex index ∨ index = l.count) (w : W) :
    (l.insertWebState index w).list.getWebStateAt index = some w := by
  have hle : index.toNat ≤ l.webStates.length := by
    rw [length_webStates]
    exact toNat_le_of_insertable hindex
  obtain ⟨i, rfl⟩ := Int.eq_ofNat_of_zero_le (index_nonneg_of_insertable hindex)
  rw [getWebStateAt, webStates_insertWebState]
  exact nth?_insertIdx_self hle w

theorem insertWebState_noSelf {w : W}
    (hindex : l.ContainsIndex index ∨ index = l.count) (h : NoSelfOpener l.wrappers) :
    NoSelfOpener (l.insertWebState index w).list.wrappers := by
  intro wrapper hmem
  rcases (mem_insertIdx (toNat_le_of_insertable hindex)).1 hmem with rfl | hold
  · exact nofun
  · exact h wrapper hold

theorem setOpenerOfWebStateAt_noSelf
    {opener : WebStateOpener W} (hopener : opener.opener ≠ l.getWebStateAt index)
    (h0 : 0 ≤ index) (h : NoSelfOpener l.wrappers) :
    NoSelfOpener (l.setOpenerOfWebStateAt index opener).list.wrappers := by
  refine h.modify fun wrapper hwrapper => ?_
  rwa [getWebStateAt_eq, nth?, if_pos h0, hwrapper] at hopener

theorem NoSelfOpener.detachSafe (h : NoSelfOpener l.wrappers) {index : Int}
    (hin : l.ContainsIndex index) : l.DetachSafe index :=
  fun ⟨_, _, hself⟩ => h.opener_ne hin hself

theorem nodup_insertWebState {w : W}
    (hindex : l.ContainsIndex index ∨ index = l.count) (hw : w ∉ l.webStates)
    (h : l.webStates.Nodup) : (l.insertWebState index w).list.webStates.Nodup := by
  have hle : index.toNat ≤ l.webStates.length := by
    rw [length_webStates]
    exact toNat_le_of_insertable hindex
  rw [webStates_insertWebState]
  exact (perm_insertIdx w l.webStates hle).nodup_iff.2 (nodup_cons.2 ⟨hw, h⟩)

theorem webStates_moveWebStateAt {f t : Int} (hf : l.ContainsIndex f) (hne : f ≠ t) :
    (l.moveWebStateAt f t).list.webStates = moveIdx l.webStates f.toNat t.toNat := by
  rw [moveWebStateAt_list hf hne]
  exact map_moveIdx _ _ _ _

theorem nodup_moveWebStateAt {f t : Int} (hf : l.ContainsIndex f)
    (ht : l.ContainsIndex t) (h : l.webStates.Nodup) :
    (l.moveWebStateAt f t).list.webStates.Nodup := by
  by_cases hne : f = t
  · rwa [hne, moveWebStateAt_self]
  · have hlt : t.toNat < l.webStates.length := by
      rw [length_webStates]
      exact ht.toNat_lt
    rw [webStates_moveWebStateAt hf hne]
    exact (moveIdx_perm l.webStates hlt).nodup_iff.2 h

/-! ## Insertion and moving keep the active `WebState` -/

theorem getActiveWebState_insertWebState
    (hindex : l.ContainsIndex index ∨ index = l.count) (w : W) :
    (l.insertWebState index w).list.getActiveWebState = l.getActiveWebState := by
  obtain ⟨i, rfl⟩ := Int.eq_ofNat_of_zero_le (index_nonneg_of_insertable hindex)
  rw [getActiveWebState_eq, getActiveWebState_eq, webStates_insertWebState]
  exact nth?_insertIdx_shift l.webStates w i l.activeIndex

theorem getActiveWebState_moveWebStateAt {f t : Int}
    (hf : l.ContainsIndex f) (ht : l.ContainsIndex t) :
    (l.moveWebStateAt f t).list.getActiveWebState = l.getActiveWebState := by
  by_cases hne : f = t
  · rw [hne, moveWebStateAt_self]
  · rw [getActiveWebState_eq, getActiveWebState_eq, webStates_moveWebStateAt hf hne,
      moveWebStateAt_list hf hne]
    obtain ⟨i, hi, rfl⟩ := hf.exists_nat
    obtain ⟨j, hj, rfl⟩ := ht.exists_nat
    rw [← length_webStates] at hi hj
    exact nth?_moveIdx_shift hi hj l.activeIndex

end

variable [DecidableEq W] (l : WebStateList W)

/-- `AppendWebState` changes the sequence of `WebState`s, the active index and
the observers as an insertion does. -/
theorem appendWebState_inserts (lastCommittedItemIndex : W → Int)
    (transition : PageTransition) (w : W) (opener : WebStateOpener W) :
    ∃ index, (l.ContainsIndex index ∨ index = l.count) ∧
      (l.appendWebState lastCommittedItemIndex transition w opener).events =
        (l.insertWebState index w).events ∧
      (l.appendWebState lastCommittedItemIndex transition w opener).list.webStates =
        (l.insertWebState index w).list.webStates ∧
      (l.appendWebState lastCommittedItemIndex transition w opener).list.activeIndex =
        (l.insertWebState index w).list.activeIndex := by
  obtain ⟨index, hindex, hevents, hlist⟩ :=
    l.appendWebState_list lastCommittedItemIndex transition w opener
  refine ⟨index, hindex, hevents, ?_, ?_⟩
  · rw [hlist]
    split
    · exact webStates_setOpenerOfWebStateAt _ _ _
    · rfl
  · rw [hlist]
    split <;> rfl

theorem getActiveWebState_appendWebState (lastCommittedItemIndex : W → Int)
    (transition : PageTransition) (w : W) (opener : WebStateOpener W) :
    (l.appendWebState lastCommittedItemIndex transition w opener).list.getActiveWebState =
      l.getActiveWebState := by
  obtain ⟨index, hindex, -, hstates, hactive⟩ :=
    l.appendWebState_inserts lastCommittedItemIndex transition w opener
  rw [getActiveWebState_eq, hstates, hactive, ← getActiveWebState_eq]
  exact getActiveWebState_insertWebState hindex w

/-! ## Keeping the list owned -/

theorem clearOpenersReferencing_noSelf {l : WebStateList W} (index : Int)
    (h : NoSelfOpener l.wrappers) : NoSelfOpener (l.clearOpenersReferencing index).wrappers := by
  intro wrapper hmem
  obtain ⟨old, hold, rfl⟩ := mem_map.1 hmem
  by_cases hop : old.opener.opener = l.getWebStateAt index
  · rw [if_pos hop]
    exact nofun
  · rw [if_neg hop]
    exact h old hold

/-! ## What the callers promise -/

/-- The caller owns the `WebState` it hands over, so the list does not. -/
def TakesOwnership : Op W → Prop
  | .insertWebState _ webState => webState ∉ l.webStates
  | .appendWebState _ _ webState _ => webState ∉ l.webStates
  | .replaceWebStateAt _ webState => webState ∉ l.webStates
  | _ => True

instance decidableTakesOwnership :
    ∀ op : Op W, Decidable (l.TakesOwnership op)
  | .insertWebState _ _ | .appendWebState _ _ _ _
  | .replaceWebStateAt _ _ => instDecidableNot
  | .moveWebStateAt .. | .detachWebStateAt .. | .closeWebStateAt .. | .closeAllWebStates
  | .setOpenerOfWebStateAt .. | .activateWebStateAt .. => instDecidableTrue

/-- The caller does not make a `WebState` its own opener. -/
def SetsOtherOpener : Op W → Prop
  | .setOpenerOfWebStateAt index opener => opener.opener ≠ l.getWebStateAt index
  | _ => True

instance decidableSetsOtherOpener :
    ∀ op : Op W, Decidable (l.SetsOtherOpener op)
  | .setOpenerOfWebStateAt _ _ => instDecidableNot
  | .insertWebState .. | .appendWebState .. | .moveWebStateAt .. | .replaceWebStateAt ..
  | .detachWebStateAt .. | .closeWebStateAt .. | .closeAllWebStates
  | .activateWebStateAt .. => instDecidableTrue

/-- A call by a caller that keeps both promises. -/
structure Proper (op : Op W) : Prop where
  pre : l.Pre op
  owned : l.TakesOwnership op
  other : l.SetsOtherOpener op

theorem appendWebState_noSelf {l : WebStateList W} (lastCommittedItemIndex : W → Int)
    (transition : PageTransition) {w : W} {opener : WebStateOpener W}
    (hopener : ∀ v ∈ opener.opener, v ∈ l.webStates) (hw : w ∉ l.webStates)
    (h : NoSelfOpener l.wrappers) :
    NoSelfOpener (l.appendWebState lastCommittedItemIndex transition w opener).list.wrappers := by
  obtain ⟨index, hindex, -, hlist⟩ :=
    l.appendWebState_list lastCommittedItemIndex transition w opener
  have hins := insertWebState_noSelf (w := w) hindex h
  rw [hlist]
  split
  · refine setOpenerOfWebStateAt_noSelf (fun hself => ?_) ?_ hins
    · rw [getWebStateAt_insertWebState hindex] at hself
      exact hw (hopener w hself)
    · exact index_nonneg_of_insertable hindex
  · exact hins

theorem detachWebStateAt_noSelf {l : WebStateList W} {index : Int} (hin : l.ContainsIndex index)
    (h : NoSelfOpener l.wrappers) : NoSelfOpener (l.detachWebStateAt index).list.wrappers := by
  rw [detachWebStateAt_list hin]
  refine (clearOpenersReferencing_noSelf index h).of_subset fun wrapper hmem => ?_
  exact mem_of_mem_eraseIdx hmem

theorem apply_noSelf {l : WebStateList W} {op : Op W} (hop : l.Proper op)
    (h : NoSelfOpener l.wrappers) : NoSelfOpener (l.apply op).list.wrappers := by
  obtain ⟨hpre, howned, hother⟩ := hop
  cases op with
  | insertWebState index w => exact insertWebState_noSelf hpre h
  | appendWebState lastCommittedItemIndex transition w opener =>
    exact appendWebState_noSelf lastCommittedItemIndex transition hpre howned h
  | moveWebStateAt f t =>
    by_cases hne : f = t
    · rwa [hne, apply, moveWebStateAt_self]
    · rw [apply, moveWebStateAt_list hpre.1 hne]
      refine h.of_subset fun wrapper hmem => ?_
      exact (moveIdx_perm l.wrappers hpre.2.toNat_lt).mem_iff.1 hmem
  | replaceWebStateAt index w =>
    rw [apply, replaceWebStateAt_list hpre.1]
    exact (clearOpenersReferencing_noSelf index h).modify fun _ _ => nofun
  | detachWebStateAt index => exact detachWebStateAt_noSelf hpre h
  | closeWebStateAt index => exact detachWebStateAt_noSelf hpre h
  | closeAllWebStates =>
    intro wrapper hmem
    rw [apply, closeAllWebStates_empty] at hmem
    cases hmem
  | setOpenerOfWebStateAt index opener => exact setOpenerOfWebStateAt_noSelf hother hpre.1.1 h
  | activateWebStateAt index => exact h

theorem apply_nodup {l : WebStateList W} {op : Op W} (hop : l.Proper op)
    (h : l.webStates.Nodup) : (l.apply op).list.webStates.Nodup := by
  obtain ⟨hpre, howned, -⟩ := hop
  have hdetach : ∀ index, l.ContainsIndex index →
      (l.detachWebStateAt index).list.webStates.Nodup := by
    intro index hin
    rw [webStates_detachWebStateAt hin]
    exact h.sublist (eraseIdx_sublist _ _)
  cases op with
  | insertWebState index w => exact nodup_insertWebState hpre howned h
  | appendWebState lastCommittedItemIndex transition w opener =>
    obtain ⟨index, hindex, -, hstates, -⟩ :=
      l.appendWebState_inserts lastCommittedItemIndex transition w opener
    rw [apply, hstates]
    exact nodup_insertWebState hindex howned h
  | moveWebStateAt f t => exact nodup_moveWebStateAt hpre.1 hpre.2 h
  | replaceWebStateAt index w =>
    rw [apply, webStates_replaceWebStateAt hpre.1]
    exact h.set howned
  | detachWebStateAt index => exact hdetach index hpre
  | closeWebStateAt index => exact hdetach index hpre
  | closeAllWebStates =>
    rw [apply, webStates, closeAllWebStates_empty]
    exact nodup_nil
  | setOpenerOfWebStateAt index opener =>
    rw [apply, webStates_setOpenerOfWebStateAt]
    exact h
  | activateWebStateAt index => exact h

/-- Without self-openers every removal is safe. -/
theorem closeAllSafe_of_noSelf (n : Nat) {l : WebStateList W} (h : NoSelfOpener l.wrappers) :
    CloseAllSafe n l := by
  induction n generalizing l with
  | zero => trivial
  | succ n ih =>
    by_cases hempty : l.empty = true
    · exact .inl hempty
    · have hin := containsIndex_last hempty
      exact .inr ⟨h.detachSafe hin, ih (detachWebStateAt_noSelf hin h)⟩

theorem Owned.detachesSafely {l : WebStateList W} (h : l.Owned) {op : Op W} (hpre : l.Pre op) :
    l.DetachesSafely op := by
  cases op with
  | detachWebStateAt index => exact h.noSelf.detachSafe hpre
  | closeWebStateAt index => exact h.noSelf.detachSafe hpre
  | closeAllWebStates => exact closeAllSafe_of_noSelf _ h.noSelf
  | _ => trivial

theorem Owned.apply {l : WebStateList W} (h : l.Owned) {op : Op W} (hop : l.Proper op) :
    (l.apply op).list.Owned :=
  ⟨h.valid.apply hop.pre (h.detachesSafely hop.pre), apply_nodup hop h.nodup,
    apply_noSelf hop h.noSelf⟩

/-! ## The mirror -/

/-- An observer's copy of the list and of the active `WebState`. -/
structure Mirror (W : Type) where
  tabs : List W
  active : Option W
deriving DecidableEq, Repr

namespace Mirror

omit [DecidableEq W] in
/-- The copy of an empty list. -/
def new : Mirror W := ⟨[], none⟩

/-- The observer's reaction to a notification. A `WebState` that is replaced
hands its place as the active one on to its replacement. -/
def see (m : Mirror W) : Event W → Mirror W
  | .webStateInsertedAt webState index =>
    { m with tabs := m.tabs.insertIdx index.toNat webState }
  | .webStateMoved _ fromIndex toIndex =>
    { m with tabs := moveIdx m.tabs fromIndex.toNat toIndex.toNat }
  | .webStateReplacedAt oldWebState newWebState index =>
    { tabs := m.tabs.set index.toNat newWebState
      active := if m.active = some oldWebState then some newWebState else m.active }
  | .webStateDetachedAt _ index => { m with tabs := m.tabs.eraseIdx index.toNat }
  | .webStateActivatedAt _ newWebState _ _ => { m with active := newWebState }
  | .willDetachWebStateAt .. | .willCloseWebStateAt .. | .delegateWillAddWebState ..
  | .delegateWebStateDetached .. => m

end Mirror

/-- `m` is a copy of `l`. -/
structure Mirrors (m : Mirror W) : Prop where
  tabs : m.tabs = l.webStates
  active : m.active = l.getActiveWebState

/-- A list under calls, watched by a mirror. -/
def watched (W : Type) [DecidableEq W] : Machine (WebStateList W × Mirror W) (Op W) :=
  (machine W).observe (fun l op => (l.apply op).events) Mirror.see

/-- Being told the active `WebState` if it changed is being told it. -/
theorem see_notifyIfActiveWebStateChanged (m : Mirror W) (userAction : Bool) :
    (l.notifyIfActiveWebStateChanged m.active userAction).foldl Mirror.see m =
      { m with active := l.getActiveWebState } := by
  rw [notifyIfActiveWebStateChanged]
  split
  · next h =>
    rw [← h]
    rfl
  · rfl

variable {l : WebStateList W} {m : Mirror W}

theorem Mirrors.insertWebState (h : l.Mirrors m) {index : Int}
    (hindex : l.ContainsIndex index ∨ index = l.count) (w : W) :
    (l.insertWebState index w).list.Mirrors
      ((l.insertWebState index w).events.foldl Mirror.see m) where
  tabs := by
    rw [webStates_insertWebState, ← h.tabs]
    rfl
  active := by
    rw [getActiveWebState_insertWebState hindex, ← h.active]
    rfl

theorem Mirrors.moveWebStateAt (h : l.Mirrors m) {f t : Int} (hf : l.ContainsIndex f)
    (ht : l.ContainsIndex t) :
    (l.moveWebStateAt f t).list.Mirrors ((l.moveWebStateAt f t).events.foldl Mirror.see m) := by
  by_cases hne : f = t
  · rw [hne, moveWebStateAt_self]
    exact h
  · obtain ⟨w, hw⟩ := exists_getWebStateAt hf
    have hevents : (l.moveWebStateAt f t).events = [.webStateMoved w f t] := by
      rw [WebStateList.moveWebStateAt, if_neg hne, hw]
    rw [hevents]
    constructor
    · rw [webStates_moveWebStateAt hf hne, ← h.tabs]
      rfl
    · rw [getActiveWebState_moveWebStateAt hf ht, ← h.active]
      rfl

/-- Replacing at an index changes the active `WebState` exactly when it is the
one replaced; this is where the members have to be distinct. -/
theorem getActiveWebState_replaceWebStateAt {index : Int} (hin : l.ContainsIndex index)
    (hnodup : l.webStates.Nodup) {old : W} (hold : l.getWebStateAt index = some old) (w : W) :
    (l.replaceWebStateAt index w).list.getActiveWebState =
      if l.getActiveWebState = some old then some w else l.getActiveWebState := by
  have hactive : (l.replaceWebStateAt index w).list.activeIndex = l.activeIndex := by
    rw [replaceWebStateAt_list hin]
  rw [getActiveWebState_eq, getActiveWebState_eq, webStates_replaceWebStateAt hin, hactive]
  obtain ⟨i, hi, rfl⟩ := hin.exists_nat
  rw [← length_webStates] at hi
  rw [getWebStateAt, nth?_natCast] at hold
  by_cases h0 : 0 ≤ l.activeIndex
  · obtain ⟨a, ha⟩ := Int.eq_ofNat_of_zero_le h0
    rw [ha, nth?_natCast, nth?_natCast, getElem?_set]
    by_cases hia : i = a
    · subst hia
      rw [if_pos hold]
      rw [length_webStates] at hi
      simp [hi]
    · have hne : l.webStates[a]? ≠ some old := fun heq =>
        hia ((getElem?_inj hi hnodup).1 (hold.trans heq.symm))
      rw [if_neg hne]
      simp [hia]
  · rw [nth?_of_neg _ (by omega), nth?_of_neg _ (by omega)]
    rfl

theorem Mirrors.replaceWebStateAt (h : l.Mirrors m) {index : Int} (hin : l.ContainsIndex index)
    (hnodup : l.webStates.Nodup) (w : W) :
    (l.replaceWebStateAt index w).list.Mirrors
      ((l.replaceWebStateAt index w).events.foldl Mirror.see m) := by
  obtain ⟨old, hold⟩ := exists_getWebStateAt hin
  have hevents : (l.replaceWebStateAt index w).events =
      [.delegateWillAddWebState w, .webStateReplacedAt old w index,
        .delegateWebStateDetached old] := by
    rw [WebStateList.replaceWebStateAt, hold]
  rw [hevents]
  constructor
  · rw [webStates_replaceWebStateAt hin, ← h.tabs]
    rfl
  · rw [getActiveWebState_replaceWebStateAt hin hnodup hold, ← h.active]
    rfl

theorem Mirrors.detachWebStateAt (h : l.Mirrors m) {index : Int} (hin : l.ContainsIndex index) :
    (l.detachWebStateAt index).list.Mirrors
      ((l.detachWebStateAt index).events.foldl Mirror.see m) := by
  obtain ⟨w, hw⟩ := exists_getWebStateAt hin
  have hevents : (l.detachWebStateAt index).events =
      [.willDetachWebStateAt w index, .webStateDetachedAt w index] ++
        (if index = l.activeIndex then
          (l.detachWebStateAt index).list.notifyIfActiveWebStateChanged (some w) false
        else []) ++ [.delegateWebStateDetached w] := by
    rw [WebStateList.detachWebStateAt, hw]
  have htabs : (m.see (.webStateDetachedAt w index)).tabs =
      (l.detachWebStateAt index).list.webStates := by
    rw [webStates_detachWebStateAt hin, ← h.tabs]
    rfl
  rw [hevents, foldl_append, foldl_append]
  show (l.detachWebStateAt index).list.Mirrors
    (List.foldl Mirror.see (m.see (.webStateDetachedAt w index)) _)
  by_cases hactive : index = l.activeIndex
  · -- the active one goes: the mirror is told its successor
    have hold : (m.see (.webStateDetachedAt w index)).active = some w := by
      show m.active = some w
      rw [h.active, getActiveWebState_eq, ← hactive]
      exact hw
    rw [if_pos hactive, ← hold, see_notifyIfActiveWebStateChanged]
    exact ⟨htabs, rfl⟩
  · rw [if_neg hactive]
    refine ⟨htabs, ?_⟩
    show m.active = _
    rw [h.active, getActiveWebState_eq, getActiveWebState_eq, webStates_detachWebStateAt hin,
      detachWebStateAt_list hin]
    obtain ⟨i, hi, rfl⟩ := hin.exists_nat
    rw [if_neg (Ne.symm hactive)]
    exact (nth?_eraseIdx_shift l.webStates i (Ne.symm hactive)).symm

theorem Mirrors.closeWebStateAt (h : l.Mirrors m) {index : Int} (hin : l.ContainsIndex index) :
    (l.closeWebStateAt index).list.Mirrors
      ((l.closeWebStateAt index).events.foldl Mirror.see m) := by
  have hdetach := h.detachWebStateAt hin
  rw [WebStateList.closeWebStateAt, foldl_append]
  cases (l.detachWebStateAt index).released with
  | none => exact hdetach
  | some w => exact hdetach

theorem Mirrors.closeAllLoop (n : Nat) (h : l.Mirrors m) :
    (closeAllLoop n l).list.Mirrors ((closeAllLoop n l).events.foldl Mirror.see m) := by
  induction n generalizing l m with
  | zero => exact h
  | succ n ih =>
    rw [WebStateList.closeAllLoop]
    by_cases hempty : l.empty = true
    · rw [if_pos hempty]
      exact h
    · rw [if_neg hempty]
      have hclosed := h.closeWebStateAt (containsIndex_last hempty)
      show (WebStateList.closeAllLoop n _).list.Mirrors _
      rw [foldl_append]
      exact ih hclosed

/-- **Mirror step**: the notifications of one call keep a mirror a copy. -/
theorem Mirrors.apply (h : l.Mirrors m) (hl : l.Owned) {op : Op W} (hop : l.Proper op) :
    (l.apply op).list.Mirrors ((l.apply op).events.foldl Mirror.see m) := by
  cases op with
  | insertWebState index w => exact h.insertWebState hop.pre w
  | appendWebState lastCommittedItemIndex transition w opener =>
    obtain ⟨index, hindex, hevents, hstates, hactive⟩ :=
      l.appendWebState_inserts lastCommittedItemIndex transition w opener
    obtain ⟨htabs, hact⟩ := h.insertWebState hindex w
    rw [WebStateList.apply, hevents]
    refine ⟨htabs.trans hstates.symm, hact.trans ?_⟩
    rw [getActiveWebState_eq, getActiveWebState_eq, hstates, hactive]
  | moveWebStateAt f t => exact h.moveWebStateAt hop.pre.1 hop.pre.2
  | replaceWebStateAt index w => exact h.replaceWebStateAt hop.pre.1 hl.nodup w
  | detachWebStateAt index => exact h.detachWebStateAt hop.pre
  | closeWebStateAt index => exact h.closeWebStateAt hop.pre
  | closeAllWebStates => exact h.closeAllLoop _
  | setOpenerOfWebStateAt index opener =>
    have hstates := webStates_setOpenerOfWebStateAt l index opener
    refine ⟨h.tabs.trans hstates.symm, h.active.trans ?_⟩
    rw [getActiveWebState_eq, getActiveWebState_eq, WebStateList.apply, hstates]
    rfl
  | activateWebStateAt index =>
    rw [WebStateList.apply, WebStateList.activateWebStateAt, ← h.active,
      see_notifyIfActiveWebStateChanged]
    exact ⟨h.tabs, rfl⟩

omit [DecidableEq W] in
theorem mirrors_new : (new : WebStateList W).Mirrors Mirror.new := ⟨rfl, rfl⟩

/-- What the callers promise along a run, as one condition. -/
theorem along_proper {ops : List (Op W)} (hlegal : (machine W).Legal new ops)
    (howned : (machine W).Along TakesOwnership new ops)
    (hother : (machine W).Along SetsOtherOpener new ops) :
    (machine W).Along Proper new ops := by
  have h := Machine.along_and _ hlegal (Machine.along_and _ howned hother)
  exact h.imp fun _ _ ⟨hpre, hown, hoth⟩ => ⟨hpre, hown, hoth⟩

/-- **Observers can mirror the list**: after every run of calls on an empty
list, a mirror fed by the notifications holds the sequence of `WebState`s and
the active one, the active index is readable, and the next insertion or move
would keep the active `WebState`. -/
theorem observer_mirrors_list (ops : List (Op W)) (hlegal : (machine W).Legal new ops)
    (howned : (machine W).Along TakesOwnership new ops)
    (hother : (machine W).Along SetsOtherOpener new ops) :
    let l := (machine W).run new ops
    let m := ((watched W).run (new, .new) ops).2
    m.tabs = l.webStates ∧ m.active = l.getActiveWebState ∧
      (l.activeIndex = kInvalidIndex ∨ l.ContainsIndex l.activeIndex) ∧
      (∀ index w, l.Pre (.insertWebState index w) →
        (l.insertWebState index w).list.getActiveWebState = l.getActiveWebState) ∧
      (∀ lastCommittedItemIndex transition w opener,
        (l.appendWebState lastCommittedItemIndex transition w opener).list.getActiveWebState =
          l.getActiveWebState) ∧
      (∀ fromIndex toIndex, l.Pre (.moveWebStateAt fromIndex toIndex) →
        (l.moveWebStateAt fromIndex toIndex).list.getActiveWebState = l.getActiveWebState) := by
  intro l m
  have hproper := along_proper hlegal howned hother
  have hinv : ∀ (s : WebStateList W) op, s.Owned → s.Proper op →
      ((machine W).step s op).Owned := fun _ _ hs hop => hs.apply hop
  have howned' : l.Owned := Machine.run_invariant hinv owned_new hproper
  have hmirrors : l.Mirrors m := by
    refine Machine.run_coupled (M := machine W) hinv ?_ owned_new mirrors_new hproper
    exact fun s t op hs hop hst => hst.apply hs hop
  refine ⟨hmirrors.tabs, hmirrors.active, howned'.valid.active, ?_, ?_, ?_⟩
  · exact fun index w hpre => getActiveWebState_insertWebState hpre w
  · exact fun lastCommittedItemIndex transition w opener =>
      l.getActiveWebState_appendWebState lastCommittedItemIndex transition w opener
  · exact fun fromIndex toIndex hpre => getActiveWebState_moveWebStateAt hpre.1 hpre.2

/-- A run that opens three tabs, moves and replaces the active one and closes
it: the mirror follows. -/
theorem observer_mirrors_list_three_tabs :
    let ops : List (Op Nat) := [.insertWebState 0 0, .activateWebStateAt 0,
      .appendWebState (fun _ => 3) .link 1 ⟨some 0, 3⟩, .insertWebState 0 2,
      .moveWebStateAt 1 2, .replaceWebStateAt 2 5, .closeWebStateAt 2]
    let l := (machine Nat).run new ops
    let m := ((watched Nat).run (new, .new) ops).2
    m.tabs = l.webStates ∧ m.active = l.getActiveWebState ∧ l.webStates = [2, 1] ∧
      l.getActiveWebState = some 1 := by
  intro ops l m
  have hlegal : (machine Nat).Along Pre new ops := by decide
  obtain ⟨htabs, hactive, -⟩ := observer_mirrors_list ops hlegal (by decide) (by decide)
  exact ⟨htabs, hactive, by decide, by decide⟩

end WebStateList

end ChromiumIos
