import ChromiumIos.Lib.VisiblePositions
import ChromiumIos.WebStateList.Mirror

/-!
# `TabStripController`

`tab_strip_controller.mm`: the views of the tab strip follow the tab model by its
notifications. The view of a tab that is removed stays in the array until its closing
animation completes, so indexes of the model are translated by skipping closing views.

- `indexForModelIndex_eq`, `modelIndexForIndex_eq`: the two scans.
- `Follows.tell`: a notification keeps the strip in step with the model, unless it moves a
  tab behind a closing view.
- `mirrors_iff`: this is exactly what a run needs.
-/

namespace ChromiumIos

open Lib WebStateList List Machine

/-- A view; the title and the icon it shows are those of a tab. -/
structure TabView (W : Type) where
  id : Nat
  tab : W
  selected : Bool
deriving DecidableEq, Repr

structure TabStripController (W : Type) where
  tabArray : List (TabView W)
  /-- The views that are animating out. -/
  closingTabs : List Nat
  /-- The next view that is allocated. -/
  nextView : Nat
deriving DecidableEq, Repr

namespace TabStripController

variable {W : Type}

/-! ## Indexes -/

def isClosing (s : TabStripController W) (view : TabView W) : Bool := view.id ∈ s.closingTabs

/-- The views that are not closing. -/
def shows (s : TabStripController W) (view : TabView W) : Bool := !s.isClosing view

def indexForModelIndexLoop (closing : TabView W → Bool) : List (TabView W) → Nat → Nat → Nat
  | [], _, index => index
  | tab :: tabs, i, index =>
    let index := if closing tab then index + 1 else index
    if i = index then index else indexForModelIndexLoop closing tabs (i + 1) index

def indexForModelIndex (s : TabStripController W) (modelIndex : Nat) : Nat :=
  indexForModelIndexLoop s.isClosing s.tabArray 0 modelIndex

def modelIndexForIndexLoop (closing : TabView W → Bool) (index : Nat) :
    List (TabView W) → (arrayIndex modelIndex : Nat) → Option Nat
  | [], _, _ => none
  | tab :: tabs, arrayIndex, modelIndex =>
    if arrayIndex = index then
      if closing tab then none else some modelIndex
    else
      modelIndexForIndexLoop closing index tabs (arrayIndex + 1)
        (if closing tab then modelIndex else modelIndex + 1)

/-- A `none` is `NSNotFound`. -/
def modelIndexForIndex (s : TabStripController W) (index : Nat) : Option Nat :=
  modelIndexForIndexLoop s.isClosing index s.tabArray 0 0

/-- `modelIndexForTabView:`, by which a view that is tapped, closed or dragged is found. -/
def modelIndexForTabView (s : TabStripController W) (view : TabView W) : Option Nat :=
  s.modelIndexForIndex (s.tabArray.findIdx fun tab => tab.id = view.id)

/-! ## Notifications -/

variable [DecidableEq W]

/-- The strip of a model that is there already. -/
def initializeTabArrayFromTabModel (model : WebStateList W) : TabStripController W where
  tabArray := model.webStates.zipIdx.map fun (tab, id) =>
    { id, tab, selected := model.getActiveWebState = some tab }
  closingTabs := []
  nextView := model.webStates.length

variable (s : TabStripController W)

section

omit [DecidableEq W]

def didInsertTab (tab : W) (modelIndex : Nat) (fg : Bool) : TabStripController W :=
  let view : TabView W := { id := s.nextView, tab, selected := fg }
  { s with
    tabArray := s.tabArray.insertIdx (s.indexForModelIndex modelIndex) view
    nextView := s.nextView + 1 }

def didRemoveTab (modelIndex : Nat) : TabStripController W :=
  match s.tabArray[s.indexForModelIndex modelIndex]? with
  | none => s -- `objectAtIndex:` raises
  | some view => { s with closingTabs := view.id :: s.closingTabs }

/-- The completion of the animation of a closing view. -/
def closingAnimationCompleted (view : Nat) : TabStripController W :=
  { s with
    tabArray := s.tabArray.filter fun tab => tab.id ≠ view
    closingTabs := s.closingTabs.filter fun id => id ≠ view }

def didMoveTab (fromIndex toIndex : Nat) : TabStripController W :=
  match s.tabArray[s.indexForModelIndex fromIndex]? with
  | none => s -- `objectAtIndex:` raises
  | some view =>
    -- The view is inserted at the index of the model, not at that of the array.
    { s with tabArray := (s.tabArray.filter fun tab => tab.id ≠ view.id).insertIdx toIndex view }

def didChangeActiveTab (modelIndex : Nat) : TabStripController W :=
  let s := { s with tabArray := s.tabArray.map fun tab => { tab with selected := false } }
  match s.tabArray[s.indexForModelIndex modelIndex]? with
  | none => s -- `objectAtIndex:` raises
  | some activeView =>
    { s with
      tabArray := s.tabArray.map fun tab =>
        if tab.id = activeView.id then { tab with selected := true } else tab }

end

/-- `tabModel:didChangeTab:`, with the tabs that the model has by then. -/
def didChangeTab (tabs : List W) (tab : W) : TabStripController W :=
  if tab ∈ tabs then
    match s.tabArray[s.indexForModelIndex (tabs.idxOf tab)]? with
    | none => s -- `objectAtIndex:` raises
    | some view =>
      { s with
        tabArray := s.tabArray.map fun other =>
          if other.id = view.id then { other with tab := tab } else other }
  else s

/-- What the strip is told of a notification of the list, by `TabModelObserversBridge`. -/
def see (tabs : List W) : Event W → TabStripController W
  | .webStateInsertedAt webState index => s.didInsertTab webState index.toNat false
  | .webStateMoved _ fromIndex toIndex => s.didMoveTab fromIndex.toNat toIndex.toNat
  | .webStateReplacedAt _ newWebState _ => s.didChangeTab tabs newWebState
  | .webStateDetachedAt _ index => s.didRemoveTab index.toNat
  | .webStateActivatedAt _ newWebState index _ =>
    if newWebState.isSome then s.didChangeActiveTab index.toNat else s
  | .willDetachWebStateAt .. | .willCloseWebStateAt .. | .delegateWillAddWebState ..
  | .delegateWebStateDetached .. => s

/-! ## Runs -/

/-- The tab model, what has been told of it so far, and the strip. -/
structure Browser (W : Type) where
  model : WebStateList W
  told : Mirror W
  strip : TabStripController W
deriving DecidableEq, Repr

inductive Op (W : Type)
  /-- A call that changes the model. -/
  | call (op : WebStateList.Op W)
  | closingAnimationCompleted (view : Nat)

/-- A notification, when the model is what has been told of it. -/
def tell (p : Mirror W × TabStripController W) (event : Event W) :
    Mirror W × TabStripController W :=
  let told := p.1.see event
  (told, p.2.see told.tabs event)

variable (b : Browser W)

def Pre : Op W → Prop
  | .call op => b.model.Proper op
  | .closingAnimationCompleted view => view ∈ b.strip.closingTabs

instance decidableProper (l : WebStateList W) (op : WebStateList.Op W) : Decidable (l.Proper op) :=
  decidable_of_iff (l.Pre op ∧ l.TakesOwnership op ∧ l.SetsOtherOpener op)
    ⟨fun h => ⟨h.1, h.2.1, h.2.2⟩, fun h => ⟨h.pre, h.owned, h.other⟩⟩

instance : ∀ op, Decidable (Pre b op)
  | .call op => inferInstanceAs (Decidable (b.model.Proper op))
  | .closingAnimationCompleted view => inferInstanceAs (Decidable (view ∈ b.strip.closingTabs))

def step : Op W → Browser W
  | .call op =>
    let outcome := b.model.apply op
    let (told, strip) := outcome.events.foldl tell (b.told, b.strip)
    { model := outcome.list, told, strip }
  | .closingAnimationCompleted view => { b with strip := b.strip.closingAnimationCompleted view }

abbrev machine (W : Type) [DecidableEq W] : Machine (Browser W) (Op W) := ⟨Pre, step⟩

/-- The strip of a model, when everything has been told. -/
def start (model : WebStateList W) : Browser W where
  model
  told := ⟨model.webStates, model.getActiveWebState⟩
  strip := initializeTabArrayFromTabModel model

/-- The strip mirrors the tab model. -/
structure Mirrors : Prop where
  /-- The views that are not closing are those of the tabs, in order. -/
  tabs : (b.strip.tabArray.filter b.strip.shows).map TabView.tab = b.model.webStates
  /-- Every index of the model has its view, and comes back from it. -/
  index : ∀ modelIndex < b.model.webStates.length,
    b.strip.modelIndexForIndex (b.strip.indexForModelIndex modelIndex) = some modelIndex
  /-- Every index that a view has leads to the view. -/
  modelIndex : ∀ index modelIndex, b.strip.modelIndexForIndex index = some modelIndex →
    modelIndex < b.model.webStates.length ∧ b.strip.indexForModelIndex modelIndex = index
  /-- A view that is not closing leads to the tab it shows. -/
  tabView : ∀ view ∈ b.strip.tabArray, b.strip.shows view = true →
    ∃ modelIndex, b.strip.modelIndexForTabView view = some modelIndex ∧
      b.model.webStates[modelIndex]? = some view.tab
  /-- Exactly the view of the active tab is selected. -/
  selected : ∀ tab, b.model.getActiveWebState = some tab → ∀ view ∈ b.strip.tabArray,
    view.selected = true ↔ b.strip.shows view = true ∧ view.tab = tab

/-- What a run needs of a move: no closing view is before the place the tab moves to. -/
def MovesClear : Op W → Prop
  | .call (.moveWebStateAt fromIndex toIndex) => fromIndex ≠ toIndex →
    ∀ view ∈ (b.strip.tabArray.eraseIdx (b.strip.indexForModelIndex fromIndex.toNat)).take
      toIndex.toNat, b.strip.shows view = true
  | _ => True

/-! ## The scans -/

section

omit [DecidableEq W]

theorem indexForModelIndexLoop_eq (closing : TabView W → Bool) (tabs : List (TabView W))
    (i modelIndex : Nat) :
    indexForModelIndexLoop closing tabs i (i + modelIndex) =
      i + visibleIdx (fun tab => !closing tab) tabs modelIndex := by
  induction tabs generalizing i modelIndex with
  | nil => rfl
  | cons tab tabs ih =>
    rw [indexForModelIndexLoop]
    cases hclosing : closing tab with
    | true =>
      rw [visibleIdx_cons_hidden (by simp [hclosing])]
      have hne : ¬i = i + modelIndex + 1 := by omega
      have hrest := ih (i + 1) modelIndex
      simp only [if_true, if_neg hne]
      rw [show i + modelIndex + 1 = i + 1 + modelIndex by omega, hrest]
      omega
    | false =>
      cases modelIndex with
      | zero =>
        rw [visibleIdx_cons_zero (by simp [hclosing])]
        simp
      | succ modelIndex =>
        rw [visibleIdx_cons_succ (by simp [hclosing])]
        have hne : ¬i = i + (modelIndex + 1) := by omega
        have hrest := ih (i + 1) modelIndex
        simp only [Bool.false_eq_true, if_false, if_neg hne]
        rw [show i + (modelIndex + 1) = i + 1 + modelIndex by omega, hrest]
        omega

theorem indexForModelIndex_eq (modelIndex : Nat) :
    s.indexForModelIndex modelIndex = visibleIdx s.shows s.tabArray modelIndex := by
  have h := indexForModelIndexLoop_eq s.isClosing s.tabArray 0 modelIndex
  rw [Nat.zero_add, Nat.zero_add] at h
  exact h

theorem modelIndexForIndexLoop_eq (closing : TabView W → Bool) (tabs : List (TabView W))
    (arrayIndex modelIndex i : Nat) :
    modelIndexForIndexLoop closing (arrayIndex + i) tabs arrayIndex modelIndex =
      (visibleRank (fun tab => !closing tab) tabs i).map (modelIndex + ·) := by
  induction tabs generalizing arrayIndex modelIndex i with
  | nil => rfl
  | cons tab tabs ih =>
    rw [modelIndexForIndexLoop]
    cases i with
    | zero =>
      rw [if_pos (Nat.add_zero arrayIndex).symm, visibleRank]
      cases hclosing : closing tab <;> simp
    | succ i =>
      have hne : ¬arrayIndex = arrayIndex + (i + 1) := by omega
      rw [if_neg hne, show arrayIndex + (i + 1) = arrayIndex + 1 + i by omega, ih, visibleRank,
        Option.map_map]
      refine congrArg (Option.map · _) (funext fun k => ?_)
      cases hclosing : closing tab
      · simp
        omega
      · simp

theorem modelIndexForIndex_eq (index : Nat) :
    s.modelIndexForIndex index = visibleRank s.shows s.tabArray index := by
  have h := modelIndexForIndexLoop_eq s.isClosing s.tabArray 0 0 index
  rw [Nat.zero_add] at h
  refine h.trans ?_
  simp only [Nat.zero_add, Option.map_id']
  rfl

end

/-! ## A strip in step with the model -/

/-- The strip is in step with what it has been told. The active tab may be gone from the
list until its successor is told. -/
structure Follows (m : Mirror W) (s : TabStripController W) : Prop where
  tabs : (s.tabArray.filter s.shows).map TabView.tab = m.tabs
  nodup : m.tabs.Nodup
  ids : (s.tabArray.map TabView.id).Nodup
  allocated : ∀ view ∈ s.tabArray, view.id < s.nextView
  closing : ∀ view ∈ s.closingTabs, view < s.nextView
  selected : ∀ tab ∈ m.tabs, m.active = some tab → ∀ view ∈ s.tabArray,
    view.selected = true ↔ s.shows view = true ∧ view.tab = tab

variable {m : Mirror W} {s : TabStripController W}

omit [DecidableEq W] in
/-- The view of the tab at an index of the model. -/
theorem Follows.exists_view (h : Follows m s) {modelIndex : Nat} {tab : W}
    (htab : m.tabs[modelIndex]? = some tab) :
    ∃ view, s.tabArray[s.indexForModelIndex modelIndex]? = some view ∧ view.tab = tab ∧
      (s.tabArray.filter s.shows)[modelIndex]? = some view := by
  rw [← h.tabs, getElem?_map] at htab
  obtain ⟨view, hview, rfl⟩ := Option.map_eq_some_iff.1 htab
  refine ⟨view, ?_, rfl, hview⟩
  rw [indexForModelIndex_eq, getElem?_visibleIdx, hview]

omit [DecidableEq W] in
/-- A shown view is known by its tab. -/
theorem Follows.eq_of_tab (h : Follows m s) {view other : TabView W} (hview : view ∈ s.tabArray)
    (hshows : s.shows view = true) (hother : other ∈ s.tabArray) (hothers : s.shows other = true)
    (htab : view.tab = other.tab) : view = other := by
  have hnodup : ((s.tabArray.filter s.shows).map TabView.tab).Nodup := h.tabs ▸ h.nodup
  exact inj_on_of_nodup_map hnodup (mem_filter.2 ⟨hview, hshows⟩)
    (mem_filter.2 ⟨hother, hothers⟩) htab

omit [DecidableEq W] in
theorem shown_iff {view : TabView W} : s.shows view = true ↔ view.id ∉ s.closingTabs := by
  simp [shows, isClosing]

/-! ### Insertion -/

section

variable (h : Follows m s)
include h

omit [DecidableEq W] in
theorem Follows.didInsertTab {modelIndex : Nat} {tab : W}
    (hindex : modelIndex ≤ m.tabs.length) (hnew : tab ∉ m.tabs) (hactive : m.active ≠ some tab) :
    Follows { m with tabs := m.tabs.insertIdx modelIndex tab }
      (s.didInsertTab tab modelIndex false) := by
  have hlength : modelIndex ≤ (s.tabArray.filter s.shows).length := by
    rwa [← length_map TabView.tab, h.tabs]
  have hplace : s.indexForModelIndex modelIndex ≤ s.tabArray.length := by
    rw [indexForModelIndex_eq]
    exact visibleIdx_le hlength
  have hmem : ∀ view ∈ (s.didInsertTab tab modelIndex false).tabArray,
      view = ⟨s.nextView, tab, false⟩ ∨ view ∈ s.tabArray :=
    fun view hview => (mem_insertIdx hplace).1 hview
  have hshows : s.shows ⟨s.nextView, tab, false⟩ = true :=
    shown_iff.2 fun hclosing => Nat.lt_irrefl _ (h.closing _ hclosing)
  constructor
  · show ((s.tabArray.insertIdx _ _).filter s.shows).map TabView.tab = _
    rw [indexForModelIndex_eq, filter_insertIdx_visibleIdx hshows hlength, map_insertIdx,
      h.tabs]
  · exact (perm_insertIdx tab m.tabs hindex).nodup_iff.2 (nodup_cons.2 ⟨hnew, h.nodup⟩)
  · show ((s.tabArray.insertIdx _ _).map TabView.id).Nodup
    refine ((perm_insertIdx _ s.tabArray hplace).map TabView.id).nodup_iff.2 ?_
    refine nodup_cons.2 ⟨fun hid => ?_, h.ids⟩
    obtain ⟨view, hview, heq⟩ := mem_map.1 hid
    exact absurd (h.allocated view hview) (heq ▸ Nat.lt_irrefl _)
  · intro view hview
    rcases hmem view hview with rfl | hold
    · exact Nat.lt_succ_self _
    · exact Nat.lt_succ_of_lt (h.allocated view hold)
  · exact fun view hview => Nat.lt_succ_of_lt (h.closing view hview)
  · intro other hother hisActive view hview
    have hne : tab ≠ other := fun heq => hactive (heq ▸ hisActive)
    have hold : other ∈ m.tabs :=
      ((mem_insertIdx hindex).1 hother).resolve_left (Ne.symm hne)
    rcases hmem view hview with rfl | hview
    · exact iff_of_false (fun h => nomatch h) fun h => hne h.2
    · exact h.selected other hold hisActive view hview

/-! ### Removal -/

omit [DecidableEq W] in
theorem Follows.didRemoveTab {modelIndex : Nat} {tab : W} (htab : m.tabs[modelIndex]? = some tab) :
    Follows { m with tabs := m.tabs.eraseIdx modelIndex } (s.didRemoveTab modelIndex) := by
  obtain ⟨view, hview, hshown, hfilter⟩ := h.exists_view htab
  have hmem : view ∈ s.tabArray := mem_of_getElem? hview
  have hremove : s.didRemoveTab modelIndex =
      { s with closingTabs := view.id :: s.closingTabs } := by
    rw [TabStripController.didRemoveTab, hview]
  rw [hremove]
  have hshows : ∀ other : TabView W,
      ({ s with closingTabs := view.id :: s.closingTabs } : TabStripController W).shows other =
        (s.shows other && other.id ≠ view.id) := by
    intro other
    rw [Bool.eq_iff_iff, shown_iff, Bool.and_eq_true, shown_iff, mem_cons, not_or]
    exact and_comm.trans (and_congr_right fun _ => decide_eq_true_iff.symm)
  have hids : ((s.tabArray.filter s.shows).map TabView.id).Nodup :=
    h.ids.sublist (filter_sublist.map _)
  have htabs : (s.tabArray.filter fun other => s.shows other && other.id ≠ view.id) =
      (s.tabArray.filter s.shows).eraseIdx modelIndex := by
    rw [← filter_key_ne hids hfilter, filter_filter]
    exact filter_congr fun other _ => Bool.and_comm _ _
  constructor
  · show (s.tabArray.filter _).map TabView.tab = m.tabs.eraseIdx modelIndex
    rw [funext hshows, htabs, ← eraseIdx_map, h.tabs]
  · exact h.nodup.sublist (eraseIdx_sublist _ _)
  · exact h.ids
  · exact h.allocated
  · intro other hother
    rcases mem_cons.1 hother with rfl | hold
    · exact h.allocated view hmem
    · exact h.closing other hold
  · intro other hother hactive otherView hotherView
    have hmemOther : other ∈ m.tabs := mem_of_mem_eraseIdx hother
    rw [h.selected other hmemOther hactive otherView hotherView, hshows, Bool.and_eq_true]
    refine and_congr_left fun htabOther => (and_iff_left_of_imp fun hshowsOther => ?_).symm
    -- The tab that goes is not the active one.
    rw [decide_eq_true_iff]
    intro hid
    have heq : otherView = view := inj_on_of_nodup_map h.ids hotherView hmem hid
    rw [← htabOther, heq, hshown] at hother
    exact notMem_eraseIdx h.nodup htab hother

/-! ### The end of a closing animation -/

omit [DecidableEq W] in
theorem Follows.closingAnimationCompleted {view : Nat}
    (hclosing : view ∈ s.closingTabs) : Follows m (s.closingAnimationCompleted view) := by
  have hshows : ∀ other : TabView W, other.id ≠ view →
      (s.closingAnimationCompleted view).shows other = s.shows other := by
    intro other hne
    rw [Bool.eq_iff_iff, shown_iff, shown_iff, TabStripController.closingAnimationCompleted,
      mem_filter]
    simp [hne]
  have hmem : ∀ other ∈ (s.closingAnimationCompleted view).tabArray,
      other ∈ s.tabArray ∧ other.id ≠ view := by
    intro other hother
    obtain ⟨hold, hne⟩ := mem_filter.1 hother
    exact ⟨hold, of_decide_eq_true hne⟩
  constructor
  · rw [← h.tabs]
    refine congrArg (List.map TabView.tab) ?_
    show (s.tabArray.filter _).filter _ = _
    rw [filter_filter]
    refine filter_congr fun other _ => ?_
    by_cases hid : other.id = view
    · have hnot : s.shows other = false :=
        Bool.eq_false_iff.2 fun hshown => shown_iff.1 hshown (hid ▸ hclosing)
      rw [hnot]
      simp [hid]
    · rw [hshows other hid]
      simp [hid]
  · exact h.nodup
  · exact h.ids.sublist (filter_sublist.map _)
  · exact fun other hother => h.allocated other (hmem other hother).1
  · exact fun other hother => h.closing other (mem_of_mem_filter hother)
  · intro tab htab hactive other hother
    rw [hshows other (hmem other hother).2]
    exact h.selected tab htab hactive other (hmem other hother).1

/-! ### Moves -/

section

omit [DecidableEq W]

/-- The views in order after a move: the view goes where there are that many shown views
before it. -/
theorem Follows.didMoveTab_tabs {fromIndex toIndex : Nat} {tab : W}
    (htab : m.tabs[fromIndex]? = some tab) (hto : toIndex < m.tabs.length) :
    ((s.didMoveTab fromIndex toIndex).tabArray.filter s.shows).map TabView.tab =
      (m.tabs.eraseIdx fromIndex).insertIdx
        (((s.tabArray.eraseIdx (s.indexForModelIndex fromIndex)).take toIndex).countP s.shows)
        tab := by
  obtain ⟨view, hview, hshown, hfilter⟩ := h.exists_view htab
  have hshows : s.shows view = true := (mem_filter.1 (mem_of_getElem? hfilter)).2
  have hle : m.tabs.length ≤ s.tabArray.length := by
    rw [← h.tabs, length_map]
    exact length_filter_le _ _
  have hplace : toIndex ≤ (s.tabArray.eraseIdx (s.indexForModelIndex fromIndex)).length := by
    rw [length_eraseIdx]
    split <;> omega
  rw [TabStripController.didMoveTab, hview]
  dsimp only
  rw [filter_key_ne h.ids hview, filter_insertIdx hshows hplace, map_insertIdx, hshown,
    indexForModelIndex_eq, filter_eraseIdx_visibleIdx, ← eraseIdx_map, h.tabs]

/-- How many shown views are before the place, if the last is not closing. -/
theorem countP_shows_take {fromIndex toIndex : Nat} {tab : W}
    (htab : m.tabs[fromIndex]? = some tab) (hto : toIndex < m.tabs.length) :
    ((s.tabArray.eraseIdx (s.indexForModelIndex fromIndex)).take toIndex).countP s.shows =
        toIndex ↔
      ∀ view ∈ (s.tabArray.eraseIdx (s.indexForModelIndex fromIndex)).take toIndex,
        s.shows view = true := by
  obtain ⟨view, hview, -, -⟩ := h.exists_view htab
  have hlt : s.indexForModelIndex fromIndex < s.tabArray.length :=
    (List.getElem?_eq_some_iff.1 hview).1
  have hle : m.tabs.length ≤ s.tabArray.length := by
    rw [← h.tabs, length_map]
    exact length_filter_le _ _
  have hlength : ((s.tabArray.eraseIdx (s.indexForModelIndex fromIndex)).take toIndex).length =
      toIndex := by
    rw [length_take, length_eraseIdx_of_lt hlt]
    omega
  rw [← countP_eq_length, hlength]

theorem Follows.didMoveTab {fromIndex toIndex : Nat} {tab : W}
    (htab : m.tabs[fromIndex]? = some tab) (hto : toIndex < m.tabs.length)
    (hclear : ∀ view ∈ (s.tabArray.eraseIdx (s.indexForModelIndex fromIndex)).take toIndex,
      s.shows view = true) :
    Follows { m with tabs := moveIdx m.tabs fromIndex toIndex }
      (s.didMoveTab fromIndex toIndex) := by
  obtain ⟨view, hview, hshown, hfilter⟩ := h.exists_view htab
  have hmoved : s.didMoveTab fromIndex toIndex =
      { s with tabArray := moveIdx s.tabArray (s.indexForModelIndex fromIndex) toIndex } := by
    rw [TabStripController.didMoveTab, moveIdx, hview]
    dsimp only
    rw [filter_key_ne h.ids hview]
  have hle : m.tabs.length ≤ s.tabArray.length := by
    rw [← h.tabs, length_map]
    exact length_filter_le _ _
  have hperm : (s.didMoveTab fromIndex toIndex).tabArray.Perm s.tabArray := by
    rw [hmoved]
    exact moveIdx_perm s.tabArray (Nat.lt_of_lt_of_le hto hle)
  have hshows : (s.didMoveTab fromIndex toIndex).shows = s.shows := by
    rw [hmoved]
    rfl
  constructor
  · rw [hshows, h.didMoveTab_tabs htab hto, (countP_shows_take h htab hto).2 hclear, moveIdx, htab]
  · exact (moveIdx_perm m.tabs hto).nodup_iff.2 h.nodup
  · exact (hperm.map TabView.id).nodup_iff.2 h.ids
  · intro other hother
    rw [hmoved]
    exact h.allocated other (hperm.mem_iff.1 hother)
  · rw [hmoved]
    exact h.closing
  · intro other hother hactive otherView hotherView
    rw [hshows]
    exact h.selected other ((moveIdx_perm m.tabs hto).mem_iff.1 hother) hactive otherView
      (hperm.mem_iff.1 hotherView)

/-- A move behind a closing view puts the view where its tab is not. -/
theorem Follows.not_tabs_didMoveTab {fromIndex toIndex : Nat} {tab : W}
    (htab : m.tabs[fromIndex]? = some tab) (hto : toIndex < m.tabs.length)
    (hclosing : ¬∀ view ∈ (s.tabArray.eraseIdx (s.indexForModelIndex fromIndex)).take toIndex,
      s.shows view = true) :
    ((s.didMoveTab fromIndex toIndex).tabArray.filter s.shows).map TabView.tab ≠
      moveIdx m.tabs fromIndex toIndex := by
  have hlt : fromIndex < m.tabs.length := (List.getElem?_eq_some_iff.1 htab).1
  have hlength : (m.tabs.eraseIdx fromIndex).length = m.tabs.length - 1 :=
    length_eraseIdx_of_lt hlt
  have hcount : ((s.tabArray.eraseIdx (s.indexForModelIndex fromIndex)).take toIndex).countP
      s.shows ≤ toIndex :=
    Nat.le_trans countP_le_length (length_take_le _ _)
  rw [h.didMoveTab_tabs htab hto, moveIdx, htab]
  intro heq
  refine hclosing ((countP_shows_take h htab hto).1 ?_)
  exact (insertIdx_inj (notMem_eraseIdx h.nodup htab) (by omega) (by omega)).1 heq

end

/-! ### The active tab -/

omit [DecidableEq W] in
theorem Follows.didChangeActiveTab {modelIndex : Nat} {tab : W}
    (htab : m.tabs[modelIndex]? = some tab) :
    Follows { m with active := some tab } (s.didChangeActiveTab modelIndex) := by
  obtain ⟨view, hview, hshown, hfilter⟩ := h.exists_view htab
  have hviewShows := mem_filter.1 (mem_of_getElem? hfilter)
  -- Both loops over the array at once.
  let select : TabView W → TabView W := fun other =>
    { other with selected := decide (other.id = view.id) }
  have hselect : s.didChangeActiveTab modelIndex =
      { s with tabArray := s.tabArray.map select } := by
    unfold TabStripController.didChangeActiveTab
    dsimp only
    have hindex : ({ s with tabArray := s.tabArray.map fun tab => { tab with selected := false } } :
        TabStripController W).indexForModelIndex modelIndex = s.indexForModelIndex modelIndex := by
      rw [indexForModelIndex_eq, indexForModelIndex_eq]
      exact visibleIdx_map _ _ _
    rw [hindex, getElem?_map, hview]
    dsimp only [Option.map_some]
    rw [map_map]
    refine congrArg (fun tabArray => { s with tabArray }) (map_congr_left fun other _ => ?_)
    by_cases hid : other.id = view.id
    · simp [select, hid]
    · simp [select, hid]
  rw [hselect]
  constructor
  · show ((s.tabArray.map select).filter s.shows).map TabView.tab = m.tabs
    rw [filter_map, map_map, ← h.tabs]
    rfl
  · exact h.nodup
  · show ((s.tabArray.map select).map TabView.id).Nodup
    rw [map_map]
    exact h.ids
  · intro other hother
    obtain ⟨old, hold, rfl⟩ := mem_map.1 hother
    exact h.allocated old hold
  · exact h.closing
  · intro other _ hactive otherView hotherView
    obtain ⟨old, hold, rfl⟩ := mem_map.1 hotherView
    obtain rfl : tab = other := Option.some.inj hactive
    rw [show (select old).selected = decide (old.id = view.id) from rfl, decide_eq_true_iff]
    constructor
    · intro hid
      obtain rfl : old = view := inj_on_of_nodup_map h.ids hold hviewShows.1 hid
      exact ⟨hviewShows.2, hshown⟩
    · rintro ⟨hshows, htabOld⟩
      rw [h.eq_of_tab hold hshows hviewShows.1 hviewShows.2 (htabOld.trans hshown.symm)]

/-! ### Replacement -/

theorem Follows.didChangeTab {modelIndex : Nat} {oldTab newTab : W}
    (hold : m.tabs[modelIndex]? = some oldTab) (hnew : newTab ∉ m.tabs)
    (hactive : m.active ≠ some newTab) :
    Follows ⟨m.tabs.set modelIndex newTab,
        if m.active = some oldTab then some newTab else m.active⟩
      (s.didChangeTab (m.tabs.set modelIndex newTab) newTab) := by
  obtain ⟨view, hview, hshown, hfilter⟩ := h.exists_view hold
  have hviewShows := mem_filter.1 (mem_of_getElem? hfilter)
  have hlt : modelIndex < m.tabs.length := (List.getElem?_eq_some_iff.1 hold).1
  have hnodup : (m.tabs.set modelIndex newTab).Nodup := h.nodup.set hnew
  have hset : (m.tabs.set modelIndex newTab)[modelIndex]? = some newTab :=
    getElem?_set_self hlt
  have hmem : newTab ∈ m.tabs.set modelIndex newTab := mem_of_getElem? hset
  have hidx : (m.tabs.set modelIndex newTab).idxOf newTab = modelIndex := by
    have hfound := getElem?_idxOf hmem
    exact (getElem?_inj (idxOf_lt_length_iff.2 hmem) hnodup).1 (hfound.trans hset.symm)
  let update : TabView W → TabView W := fun other =>
    if other.id = view.id then { other with tab := newTab } else other
  have hchange : s.didChangeTab (m.tabs.set modelIndex newTab) newTab =
      { s with tabArray := s.tabArray.map update } := by
    rw [TabStripController.didChangeTab, if_pos hmem, hidx, hview]
  have hid : ∀ other, (update other).id = other.id := fun other => by
    dsimp only [update]
    split <;> rfl
  have hselected : ∀ other, (update other).selected = other.selected := fun other => by
    dsimp only [update]
    split <;> rfl
  have hshows : ∀ other, s.shows (update other) = s.shows other := fun other => by
    rw [Bool.eq_iff_iff, shown_iff, shown_iff, hid]
  have hids : ((s.tabArray.filter s.shows).map TabView.id).Nodup :=
    h.ids.sublist (filter_sublist.map _)
  rw [hchange]
  constructor
  · show ((s.tabArray.map update).filter s.shows).map TabView.tab = m.tabs.set modelIndex newTab
    rw [filter_map, map_map, ← h.tabs, ← map_update_key hids hfilter,
      show s.shows ∘ update = s.shows from funext hshows]
    refine map_congr_left fun other _ => ?_
    show (update other).tab = _
    dsimp only [update]
    split <;> rfl
  · exact hnodup
  · show ((s.tabArray.map update).map TabView.id).Nodup
    rw [map_map, show TabView.id ∘ update = TabView.id from funext hid]
    exact h.ids
  · intro other hother
    obtain ⟨before, hbefore, rfl⟩ := mem_map.1 hother
    rw [hid]
    exact h.allocated before hbefore
  · exact h.closing
  · intro tab htab hisActive otherView hotherView
    obtain ⟨other, hother, rfl⟩ := mem_map.1 hotherView
    show (update other).selected = true ↔ s.shows (update other) = true ∧ _
    rw [hselected, hshows]
    by_cases hwas : m.active = some oldTab
    · -- The new tab takes the place of the active one.
      obtain rfl : newTab = tab := Option.some.inj ((if_pos hwas).symm.trans hisActive)
      rw [h.selected oldTab (mem_of_getElem? hold) hwas other hother]
      refine and_congr_right fun hshowsOther => ?_
      by_cases hsame : other.id = view.id
      · obtain rfl : other = view := inj_on_of_nodup_map h.ids hother hviewShows.1 hsame
        simp [update, hshown]
      · have hother_ne : other.tab ≠ oldTab := fun htabOther => hsame (congrArg TabView.id
          (h.eq_of_tab hother hshowsOther hviewShows.1 hviewShows.2 (htabOther.trans hshown.symm)))
        have hother_new : other.tab ≠ newTab := fun htabOther =>
          hnew (htabOther ▸ h.tabs ▸ mem_map_of_mem (mem_filter.2 ⟨hother, hshowsOther⟩))
        simp [update, hsame, hother_ne, hother_new]
    · -- The active tab is another one.
      have hstill : m.active = some tab := (if_neg hwas).symm.trans hisActive
      have hne : tab ≠ oldTab := fun heq => hwas (heq ▸ hstill)
      have hne_new : tab ≠ newTab := fun heq => hactive (heq ▸ hstill)
      have htabOld : tab ∈ m.tabs := (mem_or_eq_of_mem_set htab).resolve_right hne_new
      rw [h.selected tab htabOld hstill other hother]
      refine and_congr_right fun hshowsOther => ?_
      by_cases hsame : other.id = view.id
      · obtain rfl : other = view := inj_on_of_nodup_map h.ids hother hviewShows.1 hsame
        simp [update, hshown, Ne.symm hne, Ne.symm hne_new]
      · simp [update, hsame]

end

/-! ## A sequence of notifications -/

/-- What a notification says, when all that has been told is right. A move is moreover
not behind a closing view. -/
def Fits (p : Mirror W × TabStripController W) : Event W → Prop
  | .webStateInsertedAt webState index =>
    index.toNat ≤ p.1.tabs.length ∧ webState ∉ p.1.tabs ∧ p.1.active ≠ some webState
  | .webStateMoved webState fromIndex toIndex =>
    p.1.tabs[fromIndex.toNat]? = some webState ∧ toIndex.toNat < p.1.tabs.length ∧
      ∀ view ∈ (p.2.tabArray.eraseIdx (p.2.indexForModelIndex fromIndex.toNat)).take
        toIndex.toNat, p.2.shows view = true
  | .webStateReplacedAt oldWebState newWebState index =>
    p.1.tabs[index.toNat]? = some oldWebState ∧ newWebState ∉ p.1.tabs ∧
      p.1.active ≠ some newWebState
  | .webStateDetachedAt webState index => p.1.tabs[index.toNat]? = some webState
  | .webStateActivatedAt _ newWebState index _ =>
    ∀ webState, newWebState = some webState → p.1.tabs[index.toNat]? = some webState
  | .willDetachWebStateAt .. | .willCloseWebStateAt .. | .delegateWillAddWebState ..
  | .delegateWebStateDetached .. => True

/-- The strip under notifications. -/
def listener (W : Type) [DecidableEq W] : Machine (Mirror W × TabStripController W) (Event W) :=
  ⟨Fits, tell⟩

/-- **Notification step**: the strip stays in step with what it is told. -/
theorem Follows.tell {p : Mirror W × TabStripController W} (h : Follows p.1 p.2) {event : Event W}
    (hfits : Fits p event) : Follows (tell p event).1 (tell p event).2 := by
  obtain ⟨m, s⟩ := p
  cases event with
  | webStateInsertedAt webState index => exact h.didInsertTab hfits.1 hfits.2.1 hfits.2.2
  | webStateMoved webState fromIndex toIndex => exact h.didMoveTab hfits.1 hfits.2.1 hfits.2.2
  | webStateReplacedAt oldWebState newWebState index =>
    exact h.didChangeTab hfits.1 hfits.2.1 hfits.2.2
  | webStateDetachedAt webState index => exact h.didRemoveTab hfits
  | webStateActivatedAt oldWebState newWebState index userAction =>
    cases newWebState with
    | none =>
      exact ⟨h.tabs, h.nodup, h.ids, h.allocated, h.closing,
        fun _ _ hactive => nomatch hactive⟩
    | some webState => exact h.didChangeActiveTab (hfits webState rfl)
  | willDetachWebStateAt | willCloseWebStateAt | delegateWillAddWebState
  | delegateWebStateDetached => exact h

theorem run_listener (p : Mirror W × TabStripController W) (events : List (Event W)) :
    (listener W).run p events = events.foldl TabStripController.tell p := by
  induction events generalizing p with
  | nil => rfl
  | cons event events ih => exact ih _

theorem run_listener_fst (p : Mirror W × TabStripController W) (events : List (Event W)) :
    ((listener W).run p events).1 = events.foldl Mirror.see p.1 := by
  induction events generalizing p with
  | nil => rfl
  | cons event events ih => exact ih _

/-! ### What the list sends -/

variable {l : WebStateList W} {p : Mirror W × TabStripController W}

omit [DecidableEq W] in
/-- The active `WebState` is where the list says it is. -/
theorem getElem?_activeIndex {webState : W} (h : l.getActiveWebState = some webState) :
    l.webStates[l.activeIndex.toNat]? = some webState := by
  rw [getActiveWebState_eq] at h
  rw [nth?] at h
  split at h
  · exact h
  · cases h

omit [DecidableEq W] in
theorem getElem?_of_getWebStateAt {index : Int} {webState : W}
    (h : l.getWebStateAt index = some webState) :
    l.webStates[index.toNat]? = some webState := by
  rw [getWebStateAt, nth?] at h
  split at h
  · exact h
  · cases h

omit [DecidableEq W] in
/-- A `WebState` that is not in the list is not the active one. -/
theorem getActiveWebState_ne {webState : W} (h : webState ∉ l.webStates) :
    l.getActiveWebState ≠ some webState :=
  fun hactive => h (mem_of_getElem? (getElem?_activeIndex hactive))

theorem legal_notifyIfActiveWebStateChanged (htabs : p.1.tabs = l.webStates) (old : Option W)
    (userAction : Bool) :
    (listener W).Legal p (l.notifyIfActiveWebStateChanged old userAction) := by
  rw [WebStateList.notifyIfActiveWebStateChanged]
  split
  · trivial
  · refine ⟨fun webState hactive => ?_, trivial⟩
    rw [htabs]
    exact getElem?_activeIndex hactive

theorem legal_insertWebState (h : l.Mirrors p.1) {index : Int}
    (hindex : l.ContainsIndex index ∨ index = l.count) {webState : W}
    (hnew : webState ∉ l.webStates) :
    (listener W).Legal p (l.insertWebState index webState).events := by
  refine ⟨trivial, ⟨?_, ?_, ?_⟩, trivial⟩
  · show index.toNat ≤ p.1.tabs.length
    rw [h.tabs, length_webStates]
    exact toNat_le_of_insertable hindex
  · show webState ∉ p.1.tabs
    rwa [h.tabs]
  · show p.1.active ≠ some webState
    rw [h.active]
    exact getActiveWebState_ne hnew

theorem legal_replaceWebStateAt (h : l.Mirrors p.1) {index : Int} (hin : l.ContainsIndex index)
    {webState : W} (hnew : webState ∉ l.webStates) :
    (listener W).Legal p (l.replaceWebStateAt index webState).events := by
  obtain ⟨old, hold⟩ := exists_getWebStateAt hin
  rw [WebStateList.replaceWebStateAt, hold]
  refine ⟨trivial, ⟨?_, ?_, ?_⟩, trivial, trivial⟩
  · show p.1.tabs[index.toNat]? = some old
    rw [h.tabs]
    exact getElem?_of_getWebStateAt hold
  · show webState ∉ p.1.tabs
    rwa [h.tabs]
  · show p.1.active ≠ some webState
    rw [h.active]
    exact getActiveWebState_ne hnew

theorem legal_detachWebStateAt (h : l.Mirrors p.1) {index : Int} (hin : l.ContainsIndex index) :
    (listener W).Legal p (l.detachWebStateAt index).events := by
  obtain ⟨webState, hat⟩ := exists_getWebStateAt hin
  have hevents : (l.detachWebStateAt index).events =
      [.willDetachWebStateAt webState index, .webStateDetachedAt webState index] ++
        (if index = l.activeIndex then
          (l.detachWebStateAt index).list.notifyIfActiveWebStateChanged (some webState) false
        else []) ++ [.delegateWebStateDetached webState] := by
    rw [WebStateList.detachWebStateAt, hat]
  rw [hevents, append_assoc]
  refine along_append.2
    ⟨⟨trivial, ?_, trivial⟩, along_append.2 ⟨?_, trivial, trivial⟩⟩
  · show p.1.tabs[index.toNat]? = some webState
    rw [h.tabs]
    exact getElem?_of_getWebStateAt hat
  · split
    · -- The successor is told when the tab is gone already.
      refine legal_notifyIfActiveWebStateChanged ?_ _ _
      rw [webStates_detachWebStateAt hin, ← h.tabs]
      rfl
    · trivial

theorem legal_closeWebStateAt (h : l.Mirrors p.1) {index : Int} (hin : l.ContainsIndex index) :
    (listener W).Legal p (l.closeWebStateAt index).events := by
  rw [WebStateList.closeWebStateAt]
  refine along_append.2 ⟨legal_detachWebStateAt h hin, ?_⟩
  cases (l.detachWebStateAt index).released with
  | none => trivial
  | some webState => exact ⟨trivial, trivial⟩

theorem legal_closeAllLoop (n : Nat) (h : l.Mirrors p.1) :
    (listener W).Legal p (closeAllLoop n l).events := by
  induction n generalizing l p with
  | zero => trivial
  | succ n ih =>
    rw [closeAllLoop]
    by_cases hempty : l.empty = true
    · rw [if_pos hempty]
      trivial
    · rw [if_neg hempty]
      have hin := containsIndex_last hempty
      refine along_append.2 ⟨legal_closeWebStateAt h hin, ih ?_⟩
      rw [run_listener_fst]
      exact h.closeWebStateAt hin

/-- **What a call sends**: notifications that fit, if a move is clear. -/
theorem legal_apply (h : l.Mirrors p.1) {op : WebStateList.Op W} (hop : l.Proper op)
    (hclear : MovesClear ⟨l, p.1, p.2⟩ (.call op)) :
    (listener W).Legal p (l.apply op).events := by
  cases op with
  | insertWebState index webState => exact legal_insertWebState h hop.pre hop.owned
  | appendWebState lastCommittedItemIndex transition webState opener =>
    obtain ⟨index, hindex, hevents, -, -⟩ :=
      l.appendWebState_inserts lastCommittedItemIndex transition webState opener
    rw [WebStateList.apply, hevents]
    exact legal_insertWebState h hindex hop.owned
  | moveWebStateAt fromIndex toIndex =>
    obtain ⟨hfrom, hto⟩ := hop.pre
    by_cases hne : fromIndex = toIndex
    · rw [WebStateList.apply, hne, moveWebStateAt_self]
      trivial
    · obtain ⟨webState, hat⟩ := exists_getWebStateAt hfrom
      rw [WebStateList.apply, WebStateList.moveWebStateAt, if_neg hne, hat]
      refine ⟨⟨?_, ?_, hclear hne⟩, trivial⟩
      · rw [h.tabs]
        exact getElem?_of_getWebStateAt hat
      · rw [h.tabs, length_webStates]
        exact hto.toNat_lt
  | replaceWebStateAt index webState => exact legal_replaceWebStateAt h hop.pre.1 hop.owned
  | detachWebStateAt index => exact legal_detachWebStateAt h hop.pre
  | closeWebStateAt index => exact legal_closeWebStateAt h hop.pre
  | closeAllWebStates => exact legal_closeAllLoop _ h
  | setOpenerOfWebStateAt index opener => trivial
  | activateWebStateAt index =>
    exact legal_notifyIfActiveWebStateChanged (l := { l with activeIndex := index }) h.tabs _ _

/-! ## The whole run -/

/-- The strip is in step with the model, and the model with what it has told. -/
structure Inv : Prop where
  owned : b.model.Owned
  told : b.model.Mirrors b.told
  follows : Follows b.told b.strip

variable {b : Browser W}

/-- A call leaves the strip with what it was told. -/
theorem step_call (b : Browser W) (op : WebStateList.Op W) :
    step b (.call op) =
      ⟨(b.model.apply op).list,
        ((listener W).run (b.told, b.strip) (b.model.apply op).events).1,
        ((listener W).run (b.told, b.strip) (b.model.apply op).events).2⟩ := by
  rw [run_listener]
  rfl

theorem Inv.told_call (h : Inv b) {op : WebStateList.Op W} (hop : b.model.Proper op) :
    (step b (.call op)).model.Mirrors (step b (.call op)).told := by
  rw [step_call, run_listener_fst]
  exact h.told.apply h.owned hop

/-- **Step**: every operation under the condition keeps the strip in step. -/
theorem Inv.step (h : Inv b) {op : Op W} (hpre : Pre b op) (hclear : MovesClear b op) :
    Inv (step b op) := by
  cases op with
  | call op =>
    refine ⟨h.owned.apply hpre, h.told_call hpre, ?_⟩
    rw [step_call]
    have hlegal : (listener W).Legal (b.told, b.strip) (b.model.apply op).events :=
      legal_apply (p := (b.told, b.strip)) h.told hpre hclear
    exact run_invariant (I := fun p : Mirror W × TabStripController W => Follows p.1 p.2)
      (fun _ _ hp hfits => hp.tell hfits) h.follows hlegal
  | closingAnimationCompleted view =>
    exact ⟨h.owned, h.told, h.follows.closingAnimationCompleted hpre⟩

omit [DecidableEq W] in
theorem Inv.mirrors (h : Inv b) : Mirrors b := by
  have htabs : (b.strip.tabArray.filter b.strip.shows).map TabView.tab = b.model.webStates :=
    h.follows.tabs.trans h.told.tabs
  have hlength : (b.strip.tabArray.filter b.strip.shows).length = b.model.webStates.length := by
    rw [← htabs, length_map]
  have hmodelIndex : ∀ index modelIndex, b.strip.modelIndexForIndex index = some modelIndex ↔
      modelIndex < b.model.webStates.length ∧ b.strip.indexForModelIndex modelIndex = index := by
    intro index modelIndex
    rw [modelIndexForIndex_eq, indexForModelIndex_eq, visibleRank_eq_some_iff, hlength]
  constructor
  · exact htabs
  · exact fun modelIndex hlt => (hmodelIndex _ _).2 ⟨hlt, rfl⟩
  · exact fun index modelIndex => (hmodelIndex index modelIndex).1
  · intro view hview hshows
    -- The view is where its identity is first found.
    have hat : b.strip.tabArray[b.strip.tabArray.findIdx fun tab => tab.id = view.id]? =
        some view := by
      have hexists : ∃ tab ∈ b.strip.tabArray, decide (tab.id = view.id) = true :=
        ⟨view, hview, decide_eq_true rfl⟩
      have hlt := findIdx_lt_length.2 hexists
      rw [getElem?_eq_getElem hlt]
      have hid := of_decide_eq_true (findIdx_getElem (w := hlt))
      exact congrArg some
        (inj_on_of_nodup_map h.follows.ids (getElem_mem hlt) hview hid)
    obtain ⟨modelIndex, hrank⟩ := exists_visibleRank hat hshows
    refine ⟨modelIndex, ?_, ?_⟩
    · rw [modelIndexForTabView, modelIndexForIndex_eq, hrank]
    · have hidx := (visibleRank_eq_some_iff.1 hrank).2
      have hfilter := getElem?_visibleIdx (p := b.strip.shows) b.strip.tabArray modelIndex
      rw [hidx, hat] at hfilter
      rw [← htabs, getElem?_map, ← hfilter, Option.map_some]
  · intro tab hactive
    have hmem : tab ∈ b.told.tabs := by
      rw [h.told.tabs]
      exact mem_of_getElem? (getElem?_activeIndex hactive)
    exact h.follows.selected tab hmem (h.told.active.trans hactive)

/-- **Detection**: after a move behind a closing view the strip is not in the order of the
model. -/
theorem Inv.not_mirrors (h : Inv b) {op : Op W} (hpre : Pre b op) (hbad : ¬MovesClear b op) :
    ¬Mirrors (TabStripController.step b op) := by
  intro hmirrors
  refine hbad ?_
  cases op with
  | closingAnimationCompleted view => trivial
  | call op =>
    cases op with
    | moveWebStateAt fromIndex toIndex =>
      intro hne
      by_contra hclosing
      obtain ⟨hfrom, hto⟩ := hpre.pre
      obtain ⟨webState, hat⟩ := exists_getWebStateAt hfrom
      have htab : b.told.tabs[fromIndex.toNat]? = some webState := by
        rw [h.told.tabs]
        exact getElem?_of_getWebStateAt hat
      have hlt : toIndex.toNat < b.told.tabs.length := by
        rw [h.told.tabs, length_webStates]
        exact hto.toNat_lt
      have hevents : (b.model.moveWebStateAt fromIndex toIndex).events =
          [.webStateMoved webState fromIndex toIndex] := by
        rw [WebStateList.moveWebStateAt, if_neg hne, hat]
      have hstrip : (TabStripController.step b (.call (.moveWebStateAt fromIndex toIndex))).strip =
          b.strip.didMoveTab fromIndex.toNat toIndex.toNat := by
        rw [step_call, WebStateList.apply, hevents]
        rfl
      have hshows : (b.strip.didMoveTab fromIndex.toNat toIndex.toNat).shows = b.strip.shows := by
        unfold TabStripController.didMoveTab
        split <;> rfl
      have htabs := hmirrors.tabs
      rw [hstrip, hshows] at htabs
      refine h.follows.not_tabs_didMoveTab htab hlt hclosing (htabs.trans ?_)
      rw [h.told.tabs]
      exact webStates_moveWebStateAt hfrom hne
    | _ => trivial

theorem inv_start {model : WebStateList W} (hmodel : model.Owned) : Inv (start model) := by
  refine ⟨hmodel, ⟨rfl, rfl⟩, ?_⟩
  have hshows : ∀ view : TabView W, (start model).strip.shows view = true :=
    fun view => shown_iff.2 fun hclosing => nomatch hclosing
  have hmem : ∀ view ∈ (initializeTabArrayFromTabModel model).tabArray, ∃ tab id,
      id < model.webStates.length ∧
      view = ⟨id, tab, model.getActiveWebState = some tab⟩ := by
    intro view hview
    obtain ⟨⟨tab, id⟩, hzip, rfl⟩ := mem_map.1 hview
    exact ⟨tab, id, snd_lt_of_mem_zipIdx hzip, rfl⟩
  constructor
  · show ((initializeTabArrayFromTabModel model).tabArray.filter (start model).strip.shows).map
      TabView.tab = model.webStates
    rw [filter_eq_self.2 fun view _ => hshows view, initializeTabArrayFromTabModel,
      map_map]
    exact zipIdx_map_fst 0 model.webStates
  · exact hmodel.nodup
  · show ((initializeTabArrayFromTabModel model).tabArray.map TabView.id).Nodup
    rw [initializeTabArrayFromTabModel, map_map]
    have hids := zipIdx_map_snd 0 model.webStates
    show (model.webStates.zipIdx.map Prod.snd).Nodup
    rw [hids]
    exact nodup_range'
  · intro view hview
    obtain ⟨tab, id, hlt, rfl⟩ := hmem view hview
    exact hlt
  · exact fun view hview => nomatch hview
  · intro tab _ hactive view hview
    obtain ⟨other, id, -, rfl⟩ := hmem view hview
    have hisActive : model.getActiveWebState = some tab := hactive
    rw [hshows, and_iff_right rfl, decide_eq_true_iff, hisActive]
    exact Option.some_inj.trans eq_comm

/-- **The strip mirrors the model** in every state of a run exactly if no tab is moved behind
a closing view. -/
theorem mirrors_iff (model : WebStateList W) (hmodel : model.Owned) (ops : List (Op W))
    (hlegal : (machine W).Legal (start model) ops) :
    (∀ before, before <+: ops → Mirrors ((machine W).run (start model) before)) ↔
      (machine W).Along MovesClear (start model) ops :=
  always_iff_along (M := machine W) (I := Inv) (C := Pre) (fun _ h => h.mirrors)
    (fun _ _ h hpre hclear => h.step hpre hclear)
    (fun _ _ h hpre hbad => h.not_mirrors hpre hbad) (inv_start hmodel) hlegal

/-- A condition on a move, as a scan of the array. -/
instance (b : Browser W) : ∀ op, Decidable (MovesClear b op)
  | .call (.moveWebStateAt _ _) => instDecidableForall
  | .call (.insertWebState ..) | .call (.appendWebState ..) | .call (.replaceWebStateAt ..)
  | .call (.detachWebStateAt ..) | .call (.closeWebStateAt ..) | .call .closeAllWebStates
  | .call (.setOpenerOfWebStateAt ..) | .call (.activateWebStateAt ..)
  | .closingAnimationCompleted _ => instDecidableTrue

/-- Three tabs, the first of them active. -/
def threeTabs : WebStateList Nat := ⟨[.new 10, .new 11, .new 12], 0⟩

theorem owned_threeTabs : threeTabs.Owned :=
  ⟨by decide, by decide, fun wrapper hmem => by
    simp only [threeTabs, mem_cons, not_mem_nil, or_false] at hmem
    rcases hmem with rfl | rfl | rfl <;> exact nofun⟩

/-- While the last tab is animating out, a tab is moved, one is opened in its place and
replaced, and all is in step. -/
theorem movesBeforeClosing_mirrors :
    Mirrors ((machine Nat).run (start threeTabs) [.call (.closeWebStateAt 2),
      .call (.moveWebStateAt 0 1), .call (.insertWebState 2 13), .call (.activateWebStateAt 2),
      .call (.replaceWebStateAt 2 14), .closingAnimationCompleted 2]) :=
  (mirrors_iff threeTabs owned_threeTabs _ (by decide)).2 (by decide) _ prefix_rfl

/-- The first tab is closed; while it is animating out, the second is moved behind the third,
but its view is not. -/
theorem moved_while_first_closing_not_mirrors :
    (machine Nat).Legal (start threeTabs)
        [.call (.closeWebStateAt 0), .call (.moveWebStateAt 0 1)] ∧
      ¬Mirrors ((machine Nat).run (start threeTabs)
        [.call (.closeWebStateAt 0), .call (.moveWebStateAt 0 1)]) :=
  ⟨by decide, fun h => absurd h.tabs (by decide)⟩

end TabStripController

end ChromiumIos
