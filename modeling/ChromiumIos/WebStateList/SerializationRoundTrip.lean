import Mathlib.Data.List.MinMax
import ChromiumIos.WebStateList.Invariant
import ChromiumIos.WebStateList.Serialization

/-!
# A stored `WebStateList` comes back

`tab_list_round_trip`: deserializing a window that was serialized from a list
appends its tabs to the target, with their user data, the openers moved along
and the active tab moved along. The tabs that were there keep their places and
openers.

Three lemmas carry it, one for each loop:

- `serializeLoop_stored`: each session holds the user data of its tab with the
  opener as indices.
- `insertSessions_spec`: each session becomes a tab with its user data and no
  opener, after the tabs there are.
- `foldl_restoreOpenerAt`: the loop that restores the openers edits one wrapper
  after the other, and none of the edits depends on another.
-/

namespace ChromiumIos

open Lib List

namespace WebStates

variable {W : Type} [DecidableEq W]

@[simp] theorem userData_addSerializableData (states : WebStates W) (webState : W) (data : Coded)
    (key : String) (w : W) :
    (states.addSerializableData webState data key).userData w =
      if w = webState then (states.userData w).addSerializableData data key
      else states.userData w := by
  by_cases h : w = webState
  · subst h
    simp [userData, addSerializableData]
  · simp [userData, addSerializableData, h]

/-- Building the storage of a tab leaves the user data alone. -/
@[simp] theorem userData_buildSessionStorage
    (recordStateInHistory : W → CRWSessionController → CRWSessionController) (states : WebStates W)
    (webState w : W) :
    (states.buildSessionStorage recordStateInHistory webState).2.userData w =
      states.userData w := by
  by_cases h : w = webState
  · subst h
    simp [userData, buildSessionStorage]
  · simp [userData, buildSessionStorage, h]

end WebStates

namespace WebStateList

variable {W : Type}

/-! ## The tabs that are made -/

/-- Inserting at the end. -/
theorem insertWebState_count (l : WebStateList W) (webState : W) :
    (l.insertWebState l.count webState).list.wrappers = l.wrappers ++ [.new webState] := by
  rw [insertWebState, count, Int.toNat_natCast, insertIdx_length_self]

theorem insertWebState_count_active {l : WebStateList W} (h : l.activeIndex < l.count)
    (webState : W) : (l.insertWebState l.count webState).list.activeIndex = l.activeIndex := by
  rw [insertWebState]
  exact if_neg (by omega)

/-- Each session becomes a tab with its user data and no opener, after the tabs
there are. -/
theorem insertSessions_spec {factory : WebStateFactory W} (hfactory : factory.Restores)
    (sessions : List CRWSessionStorage) {l : WebStateList W} (hactive : l.activeIndex < l.count)
    (states : WebStates W) :
    ∃ tabs : List W,
      (insertSessions factory sessions l states).1 =
        ⟨l.wrappers ++ tabs.map .new, l.activeIndex⟩ ∧
      List.Forall₂ (fun session tab => ∀ userData ∈ session.userData,
        ((insertSessions factory sessions l states).2.userData tab).data = userData.data)
        sessions tabs ∧
      ∀ w ∈ states.created,
        (insertSessions factory sessions l states).2.userData w = states.userData w := by
  induction sessions generalizing l states with
  | nil => exact ⟨[], by simp [insertSessions], .nil, fun _ _ => rfl⟩
  | cons session rest ih =>
    have hwrappers := insertWebState_count l (factory session states).1
    have hsame := insertWebState_count_active hactive (factory session states).1
    have hcount : (l.insertWebState l.count (factory session states).1).list.activeIndex <
        (l.insertWebState l.count (factory session states).1).list.count := by
      rw [hsame, count, hwrappers, length_append]
      rw [count] at hactive
      omega
    obtain ⟨tabs, hlist, hdata, hframe⟩ := ih hcount (factory session states).2
    refine ⟨(factory session states).1 :: tabs, ?_, .cons ?_ hdata, ?_⟩
    · rw [insertSessions, hlist, hwrappers, hsame, append_assoc]
      rfl
    · -- the tabs made later leave this one alone
      intro userData huser
      have hmem : (factory session states).1 ∈ (factory session states).2.created := by
        rw [hfactory.created]
        exact mem_cons_self
      rw [insertSessions, hframe _ hmem]
      exact hfactory.userData session states userData huser
    · intro w hw
      have hmem : w ∈ (factory session states).2.created := by
        rw [hfactory.created]
        exact mem_cons_of_mem _ hw
      rw [insertSessions, hframe w hmem, WebStates.userData, WebStates.userData,
        hfactory.frame session states w hw]

/-! ## The openers that are restored -/

/-- What a turn of the loop of `RestoreRelationship` makes of a wrapper, in a list
of the tabs `webStates`. -/
def restoredWrapper (states : WebStates W) (oldCount : Nat) (webStates : List W)
    (wrapper : WebStateWrapper W) : WebStateWrapper W :=
  match numberForKey states wrapper.webState kOpenerIndexKey,
    numberForKey states wrapper.webState kOpenerNavigationIndexKey with
  | some boxedOpenerIndex, some navigationIndex =>
    if boxedOpenerIndex < 0 then wrapper
    else
      match nth? webStates (boxedOpenerIndex + oldCount) with
      | some opener => { wrapper with opener := ⟨some opener, navigationIndex⟩ }
      | none => wrapper
  | _, _ => wrapper

@[simp] theorem webState_restoredWrapper (states : WebStates W) (oldCount : Nat)
    (webStates : List W) (wrapper : WebStateWrapper W) :
    (restoredWrapper states oldCount webStates wrapper).webState = wrapper.webState := by
  rw [restoredWrapper]
  split
  · split
    · rfl
    · split <;> rfl
  · rfl

/-- A turn of the loop edits the wrapper at its index. -/
theorem restoreOpenerAt_eq (states : WebStates W) (oldCount : Nat) {l : WebStateList W}
    {index : Nat} (hindex : index < l.wrappers.length) :
    restoreOpenerAt states oldCount l index =
      { l with
        wrappers := l.wrappers.modify index (restoredWrapper states oldCount l.webStates) } := by
  have hwrapper : l.wrappers[index]? = some l.wrappers[index] := getElem?_eq_getElem hindex
  generalize l.wrappers[index] = wrapper at hwrapper
  have hwebState : l.getWebStateAt index = some wrapper.webState := by
    rw [getWebStateAt_eq, nth?_natCast, hwrapper]
    rfl
  -- a turn that does not change the wrapper does not change the list
  have hkeep : restoredWrapper states oldCount l.webStates wrapper = wrapper →
      l = { l with
        wrappers := l.wrappers.modify index (restoredWrapper states oldCount l.webStates) } := by
    intro hsame
    have hmodify : l.wrappers.modify index (restoredWrapper states oldCount l.webStates) =
        l.wrappers.modify index id := by
      refine modify_congr fun x hx => ?_
      rw [hwrapper] at hx
      cases hx
      exact hsame
    rw [hmodify, modify_id]
  rw [restoreOpenerAt, hwebState]
  simp only
  cases hboxed : numberForKey states wrapper.webState kOpenerIndexKey with
  | none => exact hkeep (by simp only [restoredWrapper, hboxed])
  | some boxedOpenerIndex =>
    cases hnavigation : numberForKey states wrapper.webState kOpenerNavigationIndexKey with
    | none => exact hkeep (by simp only [restoredWrapper, hboxed, hnavigation])
    | some navigationIndex =>
      simp only [getWebStateAt]
      by_cases hneg : boxedOpenerIndex < 0
      · rw [if_pos (.inl (by omega))]
        exact hkeep (by simp only [restoredWrapper, hboxed, hnavigation, if_pos hneg])
      cases hopener : nth? l.webStates (boxedOpenerIndex + oldCount) with
      | none =>
        -- no tab there: also when the bounds checked first are met
        have hsame := hkeep (by
          simp only [restoredWrapper, hboxed, hnavigation, if_neg hneg, hopener])
        split
        · exact hsame
        · exact hsame
      | some opener =>
        obtain ⟨k, hk, hlt⟩ : ∃ k : Nat, boxedOpenerIndex + oldCount = k ∧ k < l.wrappers.length := by
          obtain ⟨k, hk, hat⟩ := nth?_eq_some_iff.1 hopener
          rw [← length_webStates]
          exact ⟨k, hk, (List.getElem?_eq_some_iff.1 hat).1⟩
        rw [if_neg (by rw [count]; omega)]
        simp only [setOpenerOfWebStateAt, Int.toNat_natCast]
        congr 1
        refine modify_congr fun x hx => ?_
        rw [hwrapper] at hx
        cases hx
        simp only [restoredWrapper, hboxed, hnavigation, if_neg hneg, hopener]

/-- The loop of `RestoreRelationship` edits one wrapper after the other; which
tabs there are stays the same. -/
theorem foldl_restoreOpenerAt (states : WebStates W) (oldCount : Nat) (indices : List Nat)
    {l : WebStateList W} (h : ∀ index ∈ indices, index < l.wrappers.length) :
    indices.foldl (restoreOpenerAt states oldCount) l =
      { l with
        wrappers := indices.foldl (fun wrappers index =>
          wrappers.modify index (restoredWrapper states oldCount l.webStates)) l.wrappers } := by
  induction indices generalizing l with
  | nil => rfl
  | cons index rest ih =>
    rw [forall_mem_cons] at h
    obtain ⟨hindex, hrest⟩ := h
    have hsame : webStates { l with
        wrappers := l.wrappers.modify index (restoredWrapper states oldCount l.webStates) } =
        l.webStates :=
      webStates_modify l.wrappers index (webState_restoredWrapper states oldCount l.webStates)
    rw [foldl_cons, foldl_cons, restoreOpenerAt_eq states oldCount hindex, ih]
    · rw [hsame]
    · intro later hlater
      rw [length_modify]
      exact hrest later hlater

variable [DecidableEq W]

/-! ## What is stored -/

/-- Two tabs have the same user data, apart from what is stored of the opener. -/
def SameFeatureData (manager other : SerializableUserDataManagerImpl) : Prop :=
  ∀ key, key ≠ kOpenerIndexKey → key ≠ kOpenerNavigationIndexKey →
    manager.getValueForSerializationKey key = other.getValueForSerializationKey key

/-- The user data that is stored with the tab of `wrapper`: its own, and its
opener as an index. -/
structure Stored (l : WebStateList W) (states : WebStates W) (wrapper : WebStateWrapper W)
    (data : SerializableUserDataManagerImpl) : Prop where
  features : SameFeatureData data (states.userData wrapper.webState)
  index : data.getValueForSerializationKey kOpenerIndexKey = some
    (match wrapper.opener.opener with
      | some opener => .number (l.getIndexOfWebState opener)
      | none => .null)
  navigationIndex : data.getValueForSerializationKey kOpenerNavigationIndexKey = some
    (match wrapper.opener.opener with
      | some _ => .number wrapper.opener.navigationIndex
      | none => .null)

/-- Storing the opener of a tab writes the two opener keys of that tab. -/
theorem storeOpener_stored (l : WebStateList W) (wrapper : WebStateWrapper W)
    (states : WebStates W) :
    Stored l states wrapper ((l.storeOpener wrapper states).userData wrapper.webState) := by
  rw [storeOpener]
  cases hopener : wrapper.opener.opener with
  | none =>
    refine ⟨?_, ?_, ?_⟩
    · intro key hindex hnavigation
      simp at hindex hnavigation
      simp [hindex, hnavigation]
    · simp [hopener]
    · simp [hopener]
  | some opener =>
    refine ⟨?_, ?_, ?_⟩
    · intro key hindex hnavigation
      simp at hindex hnavigation
      simp [hindex, hnavigation]
    · simp [hopener]
    · simp [hopener]

theorem storeOpener_features (l : WebStateList W) (wrapper : WebStateWrapper W)
    (states : WebStates W) (w : W) :
    SameFeatureData ((l.storeOpener wrapper states).userData w) (states.userData w) := by
  intro key hindex hnavigation
  by_cases h : w = wrapper.webState
  · rw [h]
    exact (storeOpener_stored l wrapper states).features key hindex hnavigation
  · rw [storeOpener]
    cases wrapper.opener.opener <;> simp [h]

/-- The sessions of a window hold what is stored of each tab, in order. -/
theorem serializeLoop_stored
    (recordStateInHistory : W → CRWSessionController → CRWSessionController) (l : WebStateList W)
    (wrappers : List (WebStateWrapper W)) {states before : WebStates W}
    (hbefore : ∀ w, SameFeatureData (states.userData w) (before.userData w)) :
    List.Forall₂ (fun wrapper session => ∃ manager : SerializableUserDataManagerImpl,
        session.userData = some manager.createSerializableUserData ∧
          Stored l before wrapper manager)
      wrappers (serializeLoop recordStateInHistory l wrappers states).1 := by
  induction wrappers generalizing states with
  | nil => exact .nil
  | cons wrapper rest ih =>
    have hnext : ∀ w, SameFeatureData
        (((l.storeOpener wrapper states).buildSessionStorage recordStateInHistory
          wrapper.webState).2.userData w) (before.userData w) := by
      intro w key hindex hnavigation
      rw [WebStates.userData_buildSessionStorage]
      exact (storeOpener_features l wrapper states w key hindex hnavigation).trans
        (hbefore w key hindex hnavigation)
    refine .cons ⟨(l.storeOpener wrapper states).userData wrapper.webState, rfl, ?_⟩ (ih hnext)
    obtain ⟨hfeatures, hindex, hnavigation⟩ := storeOpener_stored l wrapper states
    refine ⟨?_, hindex, hnavigation⟩
    intro key hne hne'
    exact (hfeatures key hne hne').trans (hbefore wrapper.webState key hne hne')

/-- The window accepts its selected index unless there are tabs and none of them
is active; its initializer checks this in debug builds only. -/
theorem serializeWebStateList_isIndexValid_iff
    (recordStateInHistory : W → CRWSessionController → CRWSessionController) {l : WebStateList W}
    (hl : l.Valid) (states : WebStates W) :
    (serializeWebStateList recordStateInHistory l states).1.IsIndexValid ↔
      l.wrappers = [] ∨ l.activeIndex ≠ kInvalidIndex := by
  have hsame : ∀ w, SameFeatureData (states.userData w) (states.userData w) :=
    fun _ _ _ _ => rfl
  have hlength := (serializeLoop_stored recordStateInHistory l l.wrappers hsame).length_eq
  rw [SessionWindowIOS.IsIndexValid, serializeWebStateList]
  simp only [← hlength, length_eq_zero_iff]
  by_cases hnil : l.wrappers = []
  · have hnone : l.activeIndex = kInvalidIndex := by
      refine hl.active.resolve_right fun hin => ?_
      have hlt := hin.toNat_lt
      rw [hnil] at hlt
      exact absurd hlt (Nat.not_lt_zero _)
    simp [hnil, hnone]
  · by_cases hnone : l.activeIndex = kInvalidIndex
    · simp [hnil, hnone]
    · have hlt := (hl.active.resolve_left hnone).toNat_lt
      simp [hnil, hnone, hlt]

/-! ## The round trip -/

/-- A tab that was restored: the user data of the features is that of the stored
tab; it has an opener if the stored tab had one, and that is the tab as far behind
the old ones as the stored opener was in the stored list. -/
structure RestoredTab (l restored : WebStateList W) (oldCount : Nat) (before after : WebStates W)
    (wrapper tab : WebStateWrapper W) : Prop where
  features : SameFeatureData (after.userData tab.webState) (before.userData wrapper.webState)
  noOpener : wrapper.opener.opener = none → tab.opener.opener = none
  opener : ∀ w, wrapper.opener.opener = some w → ∃ v,
    restored.getWebStateAt (oldCount + l.getIndexOfWebState w) = some v ∧
      tab.opener = ⟨some v, wrapper.opener.navigationIndex⟩

/-- Two pointwise relations, one after the other. -/
theorem forall₂_trans {α β γ : Type} {R : α → β → Prop} {S : β → γ → Prop} {T : α → γ → Prop}
    (hT : ∀ a b c, R a b → S b c → T a c) {as : List α} {bs : List β} {cs : List γ}
    (hab : List.Forall₂ R as bs) (hbc : List.Forall₂ S bs cs) : List.Forall₂ T as cs := by
  induction hab generalizing cs with
  | nil =>
    cases hbc
    exact .nil
  | cons hhead _ ih =>
    cases hbc with
    | cons hhead' htail' => exact .cons (hT _ _ _ hhead hhead') (ih htail')

/-- Restoring the wrapper of a new tab from what was stored of `wrapper`, when the
tabs of `l` stand behind the old ones. -/
theorem restoredWrapper_new {l : WebStateList W} (hl : OpenersIn l.wrappers l.webStates)
    {before after : WebStates W} {wrapper : WebStateWrapper W} (hmem : wrapper ∈ l.wrappers) {tab : W}
    (hstored : Stored l before wrapper (after.userData tab)) {tabs : List W}
    (hlength : tabs.length = l.wrappers.length) (old : List W) :
    let restored := restoredWrapper after old.length (old ++ tabs) (.new tab)
    (wrapper.opener.opener = none → restored.opener.opener = none) ∧
      ∀ w, wrapper.opener.opener = some w → ∃ v,
        nth? (old ++ tabs) (old.length + l.getIndexOfWebState w) = some v ∧
          restored.opener = ⟨some v, wrapper.opener.navigationIndex⟩ := by
  obtain ⟨-, hindex, hnavigation⟩ := hstored
  intro restored
  constructor
  · intro hnone
    rw [hnone] at hindex
    have hnumber : numberForKey after tab kOpenerIndexKey = none := by
      rw [numberForKey, hindex]
      rfl
    simp only [restored, restoredWrapper, WebStateWrapper.new, hnumber]
    rfl
  · intro w hw
    rw [hw] at hindex hnavigation
    have hnumber : numberForKey after tab kOpenerIndexKey = some (l.getIndexOfWebState w) := by
      rw [numberForKey, hindex]
      rfl
    have hnumber' : numberForKey after tab kOpenerNavigationIndexKey =
        some wrapper.opener.navigationIndex := by
      rw [numberForKey, hnavigation]
      rfl
    -- the opener is a tab of the list, so its index is one of the new tabs
    obtain ⟨k, hk, hkeq⟩ := (getIndexOfWebState_spec (hl wrapper hmem w hw)).1.exists_nat
    have hat : nth? (old ++ tabs) (l.getIndexOfWebState w + old.length) = some tabs[k] := by
      have hsum : l.getIndexOfWebState w + old.length = ((old.length + k : Nat) : Int) := by omega
      rw [hsum, nth?_natCast, getElem?_append_right (by omega)]
      simp
    refine ⟨tabs[k], ?_, ?_⟩
    · rw [Int.add_comm]
      exact hat
    · simp only [restored, restoredWrapper, WebStateWrapper.new, hnumber, hnumber', hat]
      rw [if_neg (by omega)]

/-- Behind the tabs of the target, the wrapper restored from what was stored of
`wrapper` is a restored tab. -/
theorem restoredTab_of_stored {l target restored : WebStateList W}
    (hl : OpenersIn l.wrappers l.webStates) {before after : WebStates W}
    {wrapper : WebStateWrapper W} (hmem : wrapper ∈ l.wrappers) {tab : W}
    (hstored : Stored l before wrapper (after.userData tab)) {tabs : List W}
    (hlength : tabs.length = l.wrappers.length)
    (hwrappers : restored.wrappers = target.wrappers ++ tabs.map fun tab =>
      restoredWrapper after target.wrappers.length (target.webStates ++ tabs) (.new tab)) :
    RestoredTab l restored target.wrappers.length before after wrapper
      (restoredWrapper after target.wrappers.length (target.webStates ++ tabs) (.new tab)) := by
  have hwebStates : restored.webStates = target.webStates ++ tabs := by
    rw [webStates, hwrappers, map_append, map_map]
    simp [webStates, Function.comp_def, WebStateWrapper.new]
  obtain ⟨hnone, hopener⟩ := restoredWrapper_new hl hmem hstored hlength target.webStates
  rw [length_webStates] at hnone hopener
  refine ⟨?_, hnone, ?_⟩
  · rw [webState_restoredWrapper]
    exact hstored.features
  · intro w hw
    obtain ⟨v, hat, hv⟩ := hopener w hw
    refine ⟨v, ?_, hv⟩
    rw [getWebStateAt, hwebStates]
    exact hat

/-- Restoring the openers of tabs `tabs` that were stored from the list `l`. -/
theorem restoreRelationship_stored {l : WebStateList W} {before after : WebStates W} {tabs : List W}
    (hstored : List.Forall₂ (fun wrapper tab => Stored l before wrapper (after.userData tab))
      l.wrappers tabs) (target : WebStateList W) :
    restoreRelationship after ⟨target.wrappers ++ tabs.map .new, target.activeIndex⟩
        target.wrappers.length =
      ⟨target.wrappers ++ tabs.map fun tab => restoredWrapper after target.wrappers.length
        (target.webStates ++ tabs) (.new tab), target.activeIndex⟩ := by
  have hwebStates : webStates ⟨target.wrappers ++ tabs.map .new, target.activeIndex⟩ =
      target.webStates ++ tabs := by
    simp [webStates, WebStateWrapper.new, Function.comp_def]
  -- every tab has an opener index, a number or a null
  have hnew : isSessionUsingLegacyFormat after
      ⟨target.wrappers ++ tabs.map .new, target.activeIndex⟩ target.wrappers.length = false := by
    rw [isSessionUsingLegacyFormat, hwebStates, ← length_webStates, drop_left,
      any_eq_false]
    clear hwebStates
    generalize l.wrappers = wrappers at hstored
    induction hstored with
    | nil => simp
    | cons hhead _ ih =>
      rw [forall_mem_cons, hhead.index]
      exact ⟨Bool.false_ne_true, ih⟩
  rw [restoreRelationship, hnew, if_neg Bool.false_ne_true, foldl_restoreOpenerAt, hwebStates]
  · congr 1
    refine ext_getElem? fun i => ?_
    rw [getElem?_foldl_modify]
    by_cases hold : i < target.wrappers.length
    · rw [if_neg (by omega), getElem?_append_left hold, getElem?_append_left hold]
    · rw [getElem?_append_right (by omega), getElem?_append_right (by omega)]
      split
      · simp [Function.comp_def]
      · next hout =>
        -- past the end
        rw [length_append, length_map] at hout
        rw [getElem?_eq_none (by rw [length_map]; omega),
          getElem?_eq_none (by rw [length_map]; omega)]
  · intro index hmem
    rw [mem_range'_1] at hmem
    omega

/-- The tabs in memory after deserializing. -/
theorem deserializeWebStateList_states (factory : WebStateFactory W) (target : WebStateList W)
    (window : SessionWindowIOS) (memory : WebStates W) :
    (deserializeWebStateList factory target window memory).2 =
      (insertSessions factory window.sessions target memory).2 := by
  rw [deserializeWebStateList]
  cases window.selectedIndex with
  | none => rfl
  | some selectedIndex => rfl

/-- Activating the selected tab changes the active index only. -/
theorem deserializeWebStateList_list (factory : WebStateFactory W) (target : WebStateList W)
    (window : SessionWindowIOS) (memory : WebStates W) :
    let inserted := insertSessions factory window.sessions target memory
    let relationship := restoreRelationship inserted.2 inserted.1 target.wrappers.length
    (deserializeWebStateList factory target window memory).1 =
      { relationship with
        activeIndex :=
          match window.selectedIndex with
          | some selectedIndex => (target.wrappers.length : Int) + selectedIndex
          | none => relationship.activeIndex } := by
  rw [deserializeWebStateList]
  cases window.selectedIndex with
  | none => rfl
  | some selectedIndex => rfl

/-- **Round trip**: deserializing what was serialized from `l` appends the tabs of
`l` to the target, in order and with their user data. Their openers and the active
tab move along; the tabs of the target stay as they were. -/
theorem tab_list_round_trip {factory : WebStateFactory W} (hfactory : factory.Restores)
    {l : WebStateList W} (hl : l.Valid) {target : WebStateList W}
    (htarget : target.activeIndex < target.count)
    (recordStateInHistory : W → CRWSessionController → CRWSessionController)
    (before memory : WebStates W) :
    let window := (serializeWebStateList recordStateInHistory l before).1
    let result := deserializeWebStateList factory target window memory
    let restored := result.1
    let n := target.wrappers.length
    restored.wrappers.length = n + l.wrappers.length ∧
      (∀ i, i < n → restored.wrappers[i]? = target.wrappers[i]?) ∧
      (∀ i wrapper, l.wrappers[i]? = some wrapper → ∃ tab, restored.wrappers[n + i]? = some tab ∧
        RestoredTab l restored n before result.2 wrapper tab) ∧
      restored.activeIndex =
        if l.activeIndex = kInvalidIndex then target.activeIndex else n + l.activeIndex := by
  intro window result restored n
  obtain ⟨tabs, hinserted, hdata, -⟩ := insertSessions_spec hfactory window.sessions htarget memory
  have hsame : ∀ w, SameFeatureData (before.userData w) (before.userData w) :=
    fun _ _ _ _ => rfl
  have hstates := deserializeWebStateList_states factory target window memory
  have hstored : List.Forall₂ (fun wrapper tab => Stored l before wrapper (result.2.userData tab))
      l.wrappers tabs := by
    rw [← hstates] at hdata
    refine forall₂_trans ?_ (serializeLoop_stored recordStateInHistory l l.wrappers hsame) hdata
    rintro wrapper session tab ⟨manager, huser, hstored⟩ hrestores
    have hmanager : result.2.userData tab = manager := congrArg
      SerializableUserDataManagerImpl.mk (hrestores manager.createSerializableUserData huser)
    rw [hmanager]
    exact hstored
  have hlist := deserializeWebStateList_list factory target window memory
  simp only [hinserted, ← hstates] at hlist
  rw [restoreRelationship_stored hstored target] at hlist
  have hwrappers : restored.wrappers = target.wrappers ++ tabs.map fun tab =>
      restoredWrapper result.2 n (target.webStates ++ tabs) (.new tab) :=
    congrArg WebStateList.wrappers hlist
  have hactive : restored.activeIndex =
      if l.activeIndex = kInvalidIndex then target.activeIndex else n + l.activeIndex := by
    refine (congrArg WebStateList.activeIndex hlist).trans ?_
    by_cases hnone : l.activeIndex = kInvalidIndex
    · simp [window, serializeWebStateList, hnone]
    · obtain ⟨k, -, hk⟩ := (hl.active.resolve_left hnone).exists_nat
      rw [hk] at hnone ⊢
      simp [window, serializeWebStateList, hk, hnone, n]
  have hlength := hstored.length_eq
  refine ⟨?_, ?_, ?_, hactive⟩
  · rw [hwrappers, length_append, length_map, hlength]
  · intro i hi
    rw [hwrappers, getElem?_append_left hi]
  · intro i wrapper hi
    obtain ⟨hlt, hget⟩ := List.getElem?_eq_some_iff.1 hi
    have hlt' : i < tabs.length := by omega
    have htab : restored.wrappers[n + i]? = some (restoredWrapper result.2 n
        (target.webStates ++ tabs) (.new tabs[i])) := by
      rw [hwrappers, getElem?_append_right (by omega)]
      simp [n, hlt']
    have hstoredAt : Stored l before wrapper (result.2.userData tabs[i]) := by
      have hat := hstored.get hlt hlt'
      rw [get_eq_getElem, get_eq_getElem, hget] at hat
      exact hat
    exact ⟨_, htab, restoredTab_of_stored hl.openers (mem_of_getElem? hi) hstoredAt
      hlength.symm hwrappers⟩

/-- A list of three tabs, the second of them active, each but the first opened
from the one before; a target of two tabs. The first tab of the list has user
data from an earlier save, when it had an opener. -/
theorem tab_list_round_trip_three_tabs :
    let l : WebStateList Nat := ⟨[.new 1, ⟨2, ⟨some 1, 3⟩⟩, ⟨3, ⟨some 2, 0⟩⟩], 1⟩
    let target : WebStateList Nat := ⟨[.new 10, ⟨11, ⟨some 10, 0⟩⟩], 0⟩
    let before : WebStates Nat := WebStates.addSerializableData
      ⟨[1, 2, 3], fun _ => SessionStorageBuilder.emptyWebState, 0⟩ 1 (.number 2) kOpenerIndexKey
    let memory : WebStates Nat := ⟨[10, 11], fun _ => SessionStorageBuilder.emptyWebState, 0⟩
    let factory := createWithStorageSession fun created => created.foldr max 0 + 1
    let window := (serializeWebStateList (fun _ session => session) l before).1
    let result := deserializeWebStateList factory target window memory
    (result.1.wrappers.length = 5 ∧ result.1.activeIndex = 3 ∧
      ∃ tab, result.1.wrappers[4]? = some tab ∧
        RestoredTab l result.1 2 before result.2 ⟨3, ⟨some 2, 0⟩⟩ tab) ∧
      result.1 = ⟨[.new 10, ⟨11, ⟨some 10, 0⟩⟩, .new 12, ⟨13, ⟨some 12, 3⟩⟩, ⟨14, ⟨some 13, 0⟩⟩], 3⟩ := by
  intro l target before memory factory window result
  have hfresh : ∀ created : List Nat, created.foldr max 0 + 1 ∉ created := by
    intro created hmem
    have hle := le_max_of_le' 0 hmem (Nat.le_refl _)
    omega
  obtain ⟨hlength, -, htabs, hactive⟩ := tab_list_round_trip
    (createWithStorageSession_restores hfresh) (show l.Valid by decide)
    (show target.activeIndex < target.count by decide) (fun _ session => session) before memory
  exact ⟨⟨hlength, hactive, htabs 2 _ rfl⟩, by decide⟩

end WebStateList

end ChromiumIos
