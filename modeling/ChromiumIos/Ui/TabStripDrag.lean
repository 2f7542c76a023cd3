import ChromiumIos.Lib.Positions
import ChromiumIos.Ui.TabStripLayout
import ChromiumIos.WebStateList.TabRules

/-!
# Dragging a tab in the tab strip

`tab_strip_controller.mm`: a long press lifts a tab, the layouts keep a gap for it where it would be
dropped, and when it is dropped the model moves the tab to the index of the gap.

- `drawnOrder`: the order of the views in what a layout has drawn.
- `Settled`: the placeholder is where the last layout drew the gap.
- `settled_layout`, `Settled.step`: this holds from a layout on.
- `dropsInGap`: the model has the tabs in the order in which they are drawn.
-/

namespace ChromiumIos

open Lib WebStateList List

namespace TabStripController

variable {W : Type}

/-- The tab that the controller takes for that of a view, by its index in the model. -/
def tabOfView (b : Browser W) (view : Nat) : Option W :=
  (b.strip.modelIndexForIndex (b.strip.tabArray.findIdx fun tab => tab.id = view)).bind
    (b.model.webStates[·]?)

section Calls

variable [DecidableEq W] {b : Browser W}

/-- `setCurrentTab:` of the tab model. -/
def setCurrentTab (b : Browser W) (tab : W) : Browser W :=
  step b (.call (.activateWebStateAt (b.model.getIndexOfWebState tab)))

/-- `moveTab:toIndex:` of the tab model. -/
def moveTab (b : Browser W) (tab : W) (toIndex : Nat) : Browser W :=
  step b (.call (.moveWebStateAt (b.model.getIndexOfWebState tab) toIndex))

/-- A call that activates a tab changes no view but its selection. -/
theorem setCurrentTab_eq (b : Browser W) (tab : W) :
    ∃ f : TabView W → TabView W, (∀ view, (f view).id = view.id) ∧
      (setCurrentTab b tab).strip = { b.strip with tabArray := b.strip.tabArray.map f } ∧
      (setCurrentTab b tab).model.webStates = b.model.webStates := by
  have hsame : { b.strip with tabArray := b.strip.tabArray.map id } = b.strip := by
    rw [map_id]
  have hevents : ∀ events : List (Event W), (b.model.apply
      (.activateWebStateAt (b.model.getIndexOfWebState tab))).events = events →
      (setCurrentTab b tab).strip =
        (events.foldl TabStripController.tell (b.told, b.strip)).2 := by
    rintro events rfl
    rfl
  rw [WebStateList.apply, activateWebStateAt, notifyIfActiveWebStateChanged] at hevents
  dsimp only at hevents
  split at hevents
  · refine ⟨id, fun _ => rfl, ?_, rfl⟩
    rw [hevents _ rfl, hsame]
    rfl
  · have hstrip := hevents _ rfl
    rw [foldl_cons, foldl_nil, TabStripController.tell, TabStripController.see] at hstrip
    split at hstrip
    · obtain ⟨f, hf, heq⟩ := didChangeActiveTab_eq b.strip
        ({ b.model with activeIndex := b.model.getIndexOfWebState tab } :
          WebStateList W).activeIndex.toNat
      exact ⟨f, hf, hstrip.trans heq, rfl⟩
    · exact ⟨id, fun _ => rfl, hstrip.trans hsame.symm, rfl⟩

theorem Counted.setCurrentTab (h : Counted b) (tab : W) : Counted (setCurrentTab b tab) := by
  obtain ⟨f, hf, hstrip, hmodel⟩ := setCurrentTab_eq b tab
  refine ⟨hmodel.symm ▸ h.nodup, ?_⟩
  rw [hstrip, hmodel]
  exact h.views.map hf

theorem Counted.closingAnimationCompleted (h : Counted b) {view : Nat}
    (hclosing : view ∈ b.strip.closingTabs) :
    Counted (step b (.closingAnimationCompleted view)) :=
  ⟨h.nodup, h.views.closingAnimationCompleted hclosing⟩

theorem webStates_moveTab {b : Browser W} (hnodup : b.model.webStates.Nodup) {d : Nat} {tab : W}
    (hat : b.model.webStates[d]? = some tab) (toIndex : Nat) :
    (moveTab b tab toIndex).model.webStates = moveIdx b.model.webStates d toIndex := by
  have hmem := mem_of_getElem? hat
  obtain ⟨hlt, rfl⟩ := List.getElem?_eq_some_iff.1 hat
  have hindex : b.model.getIndexOfWebState b.model.webStates[d] = (d : Int) := by
    rw [getIndexOfWebState_eq_idxOf hmem, hnodup.idxOf_getElem]
  have hmodel : (moveTab b b.model.webStates[d] toIndex).model =
      (b.model.moveWebStateAt (d : Int) toIndex).list := by
    rw [moveTab, hindex]
    rfl
  rw [hmodel]
  by_cases hne : (d : Int) = toIndex
  · obtain rfl : d = toIndex := Int.ofNat_inj.1 hne
    rw [moveWebStateAt_self, moveIdx, hat]
    exact (insertIdx_eraseIdx_getElem hlt).symm
  · have hcontains : b.model.ContainsIndex (d : Int) := by
      rw [← hindex]
      exact containsIndex_getIndexOfWebState.2 hmem
    rw [webStates_moveWebStateAt hcontains hne]
    rfl

omit [DecidableEq W] in
/-- The views stand for the tabs at the same indexes. -/
theorem Counted.map_tabOfView {b : Browser W} (h : Counted b) :
    ((b.strip.tabArray.filter b.strip.shows).map TabView.id).map (tabOfView b) =
      b.model.webStates.map some := by
  have hlength := h.views.count
  refine ext_getElem (by simpa using hlength) fun i h₁ h₂ => ?_
  have hlt : i < (b.strip.tabArray.filter b.strip.shows).length := by simpa using h₁
  have hat : ((b.strip.tabArray.filter b.strip.shows).map TabView.id)[i]? =
      some (b.strip.tabArray.filter b.strip.shows)[i].id := by
    rw [getElem?_map, getElem?_eq_getElem hlt, Option.map_some]
  have hindex := modelIndexForTabView_of_shown h.views.ids hat
  rw [modelIndexForTabView] at hindex
  rw [getElem_map, getElem_map, getElem_map, tabOfView, hindex, Option.bind_some,
    getElem?_eq_getElem (hlength ▸ hlt)]

omit [DecidableEq W] in
/-- In a strip that mirrors the model this is the tab that the view shows. -/
theorem tabOfView_of_mirrors {b : Browser W} (h : Mirrors b) {view : TabView W}
    (hview : view ∈ b.strip.tabArray) (hshows : b.strip.shows view = true) :
    tabOfView b view.id = some view.tab := by
  obtain ⟨modelIndex, hindex, htab⟩ := h.tabView view hview hshows
  rw [modelIndexForTabView] at hindex
  rw [tabOfView, hindex, Option.bind_some, htab]

end Calls

namespace TabStrip

/-! ## The drag -/

section Drag

variable [DecidableEq W] (s : TabStrip W)

omit [DecidableEq W] in
def resetDragState : TabStrip W :=
  { s with isReordering := false, placeholderGapModelIndex := none, draggedTab := none }

def beginDrag (view : TabView W) : TabStrip W :=
  match s.strip.modelIndexForTabView view with
  | none => s
  | some index =>
    match s.model.webStates[index]? with
    | none => s -- `tabAtIndex:` raises
    | some tab =>
      let s := { s with browser := setCurrentTab s.browser tab }
      { s with
        isReordering := true
        draggedTab := some view
        placeholderGapModelIndex := s.strip.modelIndexForTabView view }

omit [DecidableEq W] in
/-- The dragged view follows the finger. -/
def continueDrag (dx : ℚ) : TabStrip W :=
  match s.draggedTab with
  | none => s
  | some view =>
    { s with minX := fun other => if other = view.id then s.minX other + dx else s.minX other }

omit [DecidableEq W] in
/-- The content is scrolled under the dragged view. -/
def autoscrollTimerFired (autoscrollDistance : ℚ) : TabStrip W :=
  { s.continueDrag autoscrollDistance with contentOffset := s.contentOffset + autoscrollDistance }

omit [DecidableEq W] in
/-- The arguments of the call of `moveTab:toIndex:` in `endDrag:`, if there is one. -/
def endDragCall : Option (W × Nat) :=
  s.modelIndexOfDraggedTab.bind fun fromIndex =>
    s.model.webStates[fromIndex]?.bind fun tab =>
      s.placeholderGapModelIndex.map fun toIndex => (tab, toIndex)

def endDrag : TabStrip W :=
  match s.endDragCall with
  | none => s.resetDragState
  | some (tab, toIndex) =>
    { s.resetDragState with browser := moveTab s.browser tab toIndex }

/-- What happens between a layout and the end of a drag. -/
inductive DragOp (W : Type)
  | beginDrag (view : TabView W)
  | continueDrag (dx : ℚ)
  | autoscrollTimerFired (autoscrollDistance : ℚ)
  | closingAnimationCompleted (view : Nat)

omit [DecidableEq W] in
/-- Another drag does not begin while a tab is dragged. -/
def Pre (s : TabStrip W) : DragOp W → Prop
  | .beginDrag _ => s.isReordering = false
  | .closingAnimationCompleted view => view ∈ s.strip.closingTabs
  | .continueDrag _ | .autoscrollTimerFired _ => True

def step (s : TabStrip W) : DragOp W → TabStrip W
  | .beginDrag view => s.beginDrag view
  | .continueDrag dx => s.continueDrag dx
  | .autoscrollTimerFired autoscrollDistance => s.autoscrollTimerFired autoscrollDistance
  | .closingAnimationCompleted view =>
    { s with browser := TabStripController.step s.browser (.closingAnimationCompleted view) }

def dragging (W : Type) [DecidableEq W] : Machine (TabStrip W) (DragOp W) := ⟨Pre, step⟩

end Drag

/-! ## The order that is drawn -/

/-- The views from left to right, with the dragged one in the gap; at the end, if neither it nor a
gap was drawn. -/
def drawnOrder (dragged : Nat) (places : List Place) : List Nat :=
  let order := places.map fun place => place.view.getD dragged
  if dragged ∈ order then order else order ++ [dragged]

/-- The placeholder leads to the order that the last layout drew. -/
structure Settled (g : Geometry) (s : TabStrip W) : Prop where
  counted : Counted s.browser
  /-- What was drawn goes from left to right. -/
  ordered : s.shownIds ≠ [] → 0 < g.advance →
    s.places.Pairwise fun a b => a.virtualMinX < b.virtualMinX
  shown : s.isReordering = false → s.shownIds ≠ [] →
    s.places.map Place.view = s.shownIds.map some
  dragged : s.isReordering = true → ∃ dragged d toIndex, s.DraggedAt dragged d ∧
    s.placeholderGapModelIndex = some toIndex ∧ toIndex < s.shownIds.length ∧
    drawnOrder dragged.id s.places = moveIdx s.shownIds d toIndex

section Order

variable {g : Geometry} {s : TabStrip W}

theorem map_getD_of_isSome {places : List Place} (h : ∀ place ∈ places, place.view.isSome = true)
    (dragged : Nat) :
    (places.map fun place => place.view.getD dragged) = places.filterMap Place.view := by
  have hmap := congrArg (List.map fun view : Option Nat => view.getD dragged)
    (map_view_of_isSome h)
  rw [map_map, map_map] at hmap
  refine hmap.trans ?_
  exact map_id _

/-- The views of a row in which a gap is left. -/
theorem drawnOrder_gap {left right : List Place} {place : Place} (hplace : place.view = none)
    (hothers : ∀ other ∈ left ++ right, other.view.isSome = true) (dragged : Nat) :
    drawnOrder dragged (left ++ place :: right) =
      ((left ++ place :: right).filterMap Place.view).insertIdx left.length dragged := by
  have hleft := map_getD_of_isSome (fun other h => hothers other (mem_append_left _ h)) dragged
  have hright := map_getD_of_isSome (fun other h => hothers other (mem_append_right left h))
    dragged
  have hlength := filterMap_view_of_isSome fun other h =>
    hothers other (mem_append_left right h)
  rw [drawnOrder, map_append, map_cons, hleft, hright, hplace, Option.getD_none,
    if_pos (by simp), filterMap_append, filterMap_cons_none hplace, ← hlength]
  have hat := insertAt_length (left.filterMap Place.view) (right.filterMap Place.view) dragged
  rw [insertAt, if_pos (by simp)] at hat
  exact (Option.some.inj hat).symm

/-- The views of a row without a gap. -/
theorem drawnOrder_noGap {places : List Place} {dragged : Nat}
    (h : ∀ place ∈ places, place.view.isSome = true)
    (hnot : dragged ∉ places.filterMap Place.view) :
    drawnOrder dragged places =
      (places.filterMap Place.view).insertIdx (places.filterMap Place.view).length dragged := by
  rw [drawnOrder, map_getD_of_isSome h, if_neg hnot, insertIdx_length_self]

/-! ### Layouts -/

/-- The views that are drawn while one is dragged. -/
theorem map_id_filter_leavesOut (h : Counted s.browser) (hreordering : s.isReordering = true)
    {dragged : TabView W} {d : Nat} (hdragged : s.DraggedAt dragged d) :
    (s.shownViews.filter fun view => !s.leavesOut view).map TabView.id = s.shownIds.eraseIdx d := by
  obtain ⟨htab, hat⟩ := hdragged
  rw [shownIds, getElem?_map] at hat
  obtain ⟨view, hview, hid⟩ := Option.map_eq_some_iff.1 hat
  have hleaves : ∀ other, (!s.leavesOut other) = decide (other.id ≠ view.id) := by
    intro other
    rw [leavesOut, hreordering, htab, hid]
    simp [eq_comm]
  rw [filter_congr fun other _ => hleaves other, shownIds, eraseIdx_map,
    filter_key_ne (nodup_shownIds h.views.ids) hview]

variable [DecidableEq W]

/-- **Layout**: the placeholder is set to where the gap is drawn. -/
theorem settled_layout (g : Geometry) (h : Counted s.browser)
    (hdragged : s.isReordering = true → ∃ dragged d, s.DraggedAt dragged d) :
    Settled g (layoutTabStripSubviews g s) := by
  by_cases hcount : s.tabCount = 0
  · have hnil := shownIds_eq_nil h hcount
    rw [layoutTabStripSubviews, if_pos hcount]
    refine ⟨h, fun hne => absurd hnil hne, fun _ hne => absurd hnil hne, fun hreordering => ?_⟩
    obtain ⟨dragged, d, -, hat⟩ := hdragged hreordering
    rw [hnil] at hat
    cases hat
  have hdrawn := drawn_layoutLoop g hdragged h.views.ids
  rw [layoutTabStripSubviews, if_neg hcount]
  refine ⟨h, fun _ => hdrawn.pairwise, fun hreordering _ => ?_, fun hreordering => ?_⟩
  · exact map_view_layoutLoop hdrawn hreordering
  · have hreordering : s.isReordering = true := hreordering
    obtain ⟨dragged, d, hat⟩ := hdragged hreordering
    have hlt : d < s.shownIds.length := (List.getElem?_eq_some_iff.1 hat.2).1
    have hviews := hdrawn.views.trans (map_id_filter_leavesOut h hreordering hat)
    have hlength : (s.shownIds.eraseIdx d).length = s.shownIds.length - 1 :=
      length_eraseIdx_of_lt hlt
    have hmoved : ∀ toIndex, moveIdx s.shownIds d toIndex =
        (s.shownIds.eraseIdx d).insertIdx toIndex dragged.id := fun toIndex => by
      rw [moveIdx, hat.2]
    cases hgap : (layoutLoop g s).hasPlaceholderGap with
    | true =>
      obtain ⟨-, left, place, right, hplaces, hnone, hothers, hindex⟩ := hdrawn.gap hgap
      have hleft := filterMap_view_of_isSome fun other hmem =>
        hothers other (mem_append_left right hmem)
      refine ⟨dragged, d, left.length, hat, ?_, ?_, ?_⟩
      · simpa [hgap] using hindex
      · show left.length < s.shownIds.length
        rw [hplaces, filterMap_append] at hviews
        have := congrArg List.length hviews
        rw [length_append, hleft, hlength] at this
        omega
      · show drawnOrder dragged.id (layoutLoop g s).places = moveIdx s.shownIds d left.length
        rw [hmoved, ← hviews, hplaces]
        exact drawnOrder_gap hnone hothers dragged.id
    | false =>
      have hcounts : s.shownIds.length = s.model.webStates.length := by
        rw [shownIds, length_map]
        exact h.views.count
      refine ⟨dragged, d, s.model.webStates.length - 1, hat, ?_, ?_, ?_⟩
      · have hne : s.model.webStates ≠ [] := by
          rw [← length_pos_iff]
          omega
        simp [hgap, hreordering, hne]
      · show s.model.webStates.length - 1 < s.shownIds.length
        omega
      · show drawnOrder dragged.id (layoutLoop g s).places = moveIdx s.shownIds d _
        have hnot : dragged.id ∉ (layoutLoop g s).places.filterMap Place.view := by
          rw [hviews]
          exact notMem_eraseIdx (nodup_shownIds h.views.ids) hat.2
        rw [hmoved, drawnOrder_noGap (hdrawn.noGap hgap) hnot, hviews, hlength, hcounts]

/-! ### The drag -/

omit [DecidableEq W] in
theorem moveIdx_self {l : List Nat} {d : Nat} : moveIdx l d d = l := by
  rw [moveIdx]
  split
  · next x hx =>
    obtain ⟨hlt, rfl⟩ := List.getElem?_eq_some_iff.1 hx
    exact insertIdx_eraseIdx_getElem hlt
  · rfl

omit [DecidableEq W] in
theorem Settled.length_shownIds (h : Settled g s) :
    s.shownIds.length = s.model.webStates.length := by
  rw [shownIds, length_map]
  exact h.counted.views.count

/-- A tab is lifted where it was drawn. -/
theorem Settled.beginDrag (h : Settled g s) (hnot : s.isReordering = false) (view : TabView W) :
    Settled g (s.beginDrag view) := by
  rw [TabStrip.beginDrag]
  cases hindex : s.strip.modelIndexForTabView view with
  | none => exact h
  | some d =>
    have hat : s.shownIds[d]? = some view.id := shown_of_modelIndexForTabView hindex
    obtain ⟨hlt, -⟩ := List.getElem?_eq_some_iff.1 hat
    dsimp only
    cases htab : s.model.webStates[d]? with
    | none => exact h
    | some tab =>
      dsimp only
      have hcounted := h.counted.setCurrentTab tab
      have hids : ((setCurrentTab s.browser tab).strip.tabArray.filter
          (setCurrentTab s.browser tab).strip.shows).map TabView.id = s.shownIds := by
        obtain ⟨f, hf, hstrip, -⟩ := setCurrentTab_eq s.browser tab
        rw [hstrip]
        exact map_id_filter_map s.strip hf
      have hplaces := h.shown hnot (ne_nil_of_mem (mem_of_getElem? hat))
      have horder : s.places.map (fun place => place.view.getD view.id) = s.shownIds := by
        have hmap := congrArg (List.map fun id : Option Nat => id.getD view.id) hplaces
        rw [map_map, map_map] at hmap
        exact hmap.trans (map_id _)
      have hne := ne_nil_of_mem (mem_of_getElem? hat)
      refine ⟨hcounted, fun _ => h.ordered hne, fun hfalse => (nomatch hfalse), fun _ =>
        ⟨view, d, d, ⟨rfl, ?_⟩, ?_, ?_, ?_⟩⟩
      · show (List.map _ _)[d]? = some view.id
        exact hids ▸ hat
      · exact modelIndexForTabView_of_shown hcounted.views.ids (hids ▸ hat)
      · show d < List.length (List.map _ _)
        exact hids ▸ hlt
      · show drawnOrder view.id s.places = moveIdx (List.map _ _) d d
        rw [moveIdx_self, drawnOrder, horder, if_pos (mem_of_getElem? hat)]
        exact hids.symm

/-- **Step**: until the next layout the placeholder stays where the gap was drawn. -/
theorem Settled.step (h : Settled g s) {op : DragOp W} (hpre : Pre s op) :
    Settled g (s.step op) := by
  cases op with
  | beginDrag view => exact h.beginDrag hpre view
  | continueDrag dx =>
    rw [TabStrip.step, TabStrip.continueDrag]
    split <;> exact ⟨h.counted, h.ordered, h.shown, h.dragged⟩
  | autoscrollTimerFired autoscrollDistance =>
    rw [TabStrip.step, TabStrip.autoscrollTimerFired, TabStrip.continueDrag]
    split <;> exact ⟨h.counted, h.ordered, h.shown, h.dragged⟩
  | closingAnimationCompleted view =>
    have hids : (s.step (.closingAnimationCompleted view)).shownIds = s.shownIds :=
      congrArg (List.map TabView.id) (filter_closingAnimationCompleted hpre)
    refine ⟨h.counted.closingAnimationCompleted hpre, ?_, ?_, fun hreordering => ?_⟩
    · rw [hids]
      exact h.ordered
    · rw [hids]
      exact h.shown
    · obtain ⟨dragged, d, toIndex, hat, hrest⟩ := h.dragged hreordering
      refine ⟨dragged, d, toIndex, ⟨hat.1, ?_⟩, ?_⟩
      · rw [hids]
        exact hat.2
      · rw [hids]
        exact hrest

/-! ### The drop -/

/-- **Dropping a tab**: the model has the tabs in the order that the last layout drew. -/
theorem dropsInGap (g : Geometry) (h : Counted s.browser)
    (hdragged : s.isReordering = true → s.modelIndexOfDraggedTab ≠ none) {ops : List (DragOp W)}
    (hlegal : (dragging W).Legal (layoutTabStripSubviews g s) ops) {s' : TabStrip W}
    (hrun : (dragging W).run (layoutTabStripSubviews g s) ops = s')
    (hreordering : s'.isReordering = true) :
    ∃ dragged tab toIndex, s'.draggedTab = some dragged ∧
      s'.endDragCall = some (tab, toIndex) ∧ toIndex < s'.model.webStates.length ∧
      s'.endDrag.model.webStates.map some =
        (drawnOrder dragged.id s'.places).map (tabOfView s'.browser) ∧
      (0 < g.advance → s'.places.Pairwise fun a b => a.virtualMinX < b.virtualMinX) := by
  have hat : s.isReordering = true → ∃ dragged d, s.DraggedAt dragged d := by
    intro hreordering
    obtain ⟨d, hindex⟩ := Option.ne_none_iff_exists'.1 (hdragged hreordering)
    obtain ⟨dragged, htab, hview⟩ := Option.bind_eq_some_iff.1 hindex
    exact ⟨dragged, d, htab, shown_of_modelIndexForTabView hview⟩
  have hsettled : Settled g s' :=
    hrun ▸ Machine.run_invariant (M := dragging W) (fun _ _ hs hpre => hs.step hpre)
      (settled_layout g h hat) hlegal
  obtain ⟨dragged, d, toIndex, hdraggedAt, hplaceholder, hlt, horder⟩ :=
    hsettled.dragged hreordering
  have hd : d < s'.model.webStates.length := by
    rw [← hsettled.length_shownIds]
    exact (List.getElem?_eq_some_iff.1 hdraggedAt.2).1
  have htab : s'.model.webStates[d]? = some s'.model.webStates[d] := getElem?_eq_getElem hd
  have hcall : s'.endDragCall = some (s'.model.webStates[d], toIndex) := by
    rw [endDragCall, hdraggedAt.index hsettled.counted.views.ids, Option.bind_some, htab,
      Option.bind_some, hplaceholder, Option.map_some]
  have hshown := ne_nil_of_mem (mem_of_getElem? hdraggedAt.2)
  refine ⟨dragged, s'.model.webStates[d], toIndex, hdraggedAt.1, hcall, ?_, ?_,
    hsettled.ordered hshown⟩
  · rw [← hsettled.length_shownIds]
    exact hlt
  · have hend : s'.endDrag.model = (moveTab s'.browser s'.model.webStates[d] toIndex).model := by
      rw [endDrag, hcall]
      rfl
    rw [hend, webStates_moveTab hsettled.counted.nodup htab, horder, map_moveIdx, map_moveIdx]
    exact congrArg (moveIdx · d toIndex) hsettled.counted.map_tabOfView.symm

/-- A tablet with room for four tabs. -/
def wideGeometry : Geometry where
  isCompactTablet := false
  currentTabWidth := 200
  tabStripVisibleSpace := 800
  contentSizeWidth := 1000
  scale := 2

/-- The three tabs, the first of which has been lifted and dragged behind the second. -/
def draggedBehindSecond : TabStrip Nat where
  browser := start threeTabs
  isReordering := true
  draggedTab := some ⟨0, 10, true⟩
  placeholderGapModelIndex := some 0
  minX := fun view => if view = 0 then 180 else 0
  contentOffset := 0
  places := []

theorem draggedBehindSecond_drops :
    (layoutTabStripSubviews wideGeometry draggedBehindSecond).endDragCall = some (10, 1) ∧
      (layoutTabStripSubviews wideGeometry draggedBehindSecond).endDrag.model.webStates =
        [11, 10, 12] := by
  have hstart : (machine Nat).Legal (start threeTabs) [] := trivial
  have hcounted : Counted draggedBehindSecond.browser := counted_run owned_threeTabs hstart
  have hlegal : (dragging Nat).Legal (layoutTabStripSubviews wideGeometry draggedBehindSecond) [] :=
    trivial
  obtain ⟨dragged, tab, toIndex, hdragged, hcall, hlt, horder, -⟩ :=
    dropsInGap wideGeometry hcounted (fun _ => by decide) hlegal rfl rfl
  obtain rfl := Option.some.inj hdragged
  refine ⟨by decide +kernel, map_injective_iff.2 (Option.some_injective _) ?_⟩
  exact horder.trans (by decide +kernel)

end Order

end TabStrip

end TabStripController

end ChromiumIos
