import Mathlib.Data.List.Dedup
import Mathlib.Tactic.Linarith
import Mathlib.Tactic.Ring
import ChromiumIos.Ui.TabStripCounts

/-!
# The layout of the tab strip

`tab_strip_controller.mm`: `layoutTabStripSubviews` places the views that are not closing one after
the other. While a tab is dragged it is left out, and a gap is kept for it before the first tab
that it has been dragged in front of. A `CGFloat` is an exact number.

- `layoutTab`, `layoutTabStripSubviews`: the loop and the layout.
- `Drawn`: what has been drawn of the first tabs.
- `drawn_layoutTabStripSubviews`: what a layout draws.
-/

namespace ChromiumIos

open Lib WebStateList List

namespace TabStripController

/-! ## Geometry -/

/-- What a layout asks the screen and the scroll view for. -/
structure Geometry where
  isCompactTablet : Bool
  currentTabWidth : ℚ
  tabStripVisibleSpace : ℚ
  contentSizeWidth : ℚ
  /-- Pixels for each point. -/
  scale : ℚ
deriving DecidableEq, Repr

/-- `NSNotFound`. -/
def NSNotFound : Int := 9223372036854775807

namespace Geometry

variable (g : Geometry)

def kTabOverlap : ℚ := 26
def kTabOverlapForCompactLayout : ℚ := 30
def kCollapsedTabOverlap : ℚ := 5
def kMaxNumCollapsedTabs : Int := 3
def kMaxNumCollapsedTabsForCompactLayout : Int := 0

def tabOverlap : ℚ := if g.isCompactTablet then kTabOverlapForCompactLayout else kTabOverlap

def maxNumCollapsedTabs : Int :=
  if g.isCompactTablet then kMaxNumCollapsedTabsForCompactLayout else kMaxNumCollapsedTabs

/-- How far the next tab is placed to the right. -/
def advance : ℚ := g.currentTabWidth - g.tabOverlap

def alignValueToPixel (value : ℚ) : ℚ := (value * g.scale).floor / g.scale

def availableSpace : ℚ := if g.isCompactTablet then g.contentSizeWidth else g.tabStripVisibleSpace

def numPossibleCollapsedTabsToLeft (selectedModelIndex currentModelIndex : Int) : Int :=
  if currentModelIndex > selectedModelIndex then
    min selectedModelIndex g.maxNumCollapsedTabs +
      min (currentModelIndex - selectedModelIndex) g.maxNumCollapsedTabs
  else min currentModelIndex g.maxNumCollapsedTabs

def numPossibleCollapsedTabsToRight (tabCount selectedModelIndex currentModelIndex : Int) : Int :=
  if currentModelIndex < selectedModelIndex then
    min (wrapNSUInteger (tabCount - selectedModelIndex - 1)) g.maxNumCollapsedTabs +
      min (selectedModelIndex - currentModelIndex) g.maxNumCollapsedTabs
  else min (wrapNSUInteger (tabCount - currentModelIndex - 1)) g.maxNumCollapsedTabs

end Geometry

/-! ## The strip on the screen -/

/-- A place of the row of tabs: a view, or the gap. -/
structure Place where
  view : Option Nat
  /-- The left edge, as if there were room for all tabs. -/
  virtualMinX : ℚ
deriving DecidableEq, Repr

structure TabStrip (W : Type) where
  browser : Browser W
  isReordering : Bool
  draggedTab : Option (TabView W)
  /-- A `none` is `NSNotFound`. -/
  placeholderGapModelIndex : Option Nat
  /-- The left edges of the frames of the views. -/
  minX : Nat → ℚ
  contentOffset : ℚ
  /-- What the last layout drew, from left to right. -/
  places : List Place

namespace TabStrip

variable {W : Type} (g : Geometry) (s : TabStrip W)

def model : WebStateList W := s.browser.model

def strip : TabStripController W := s.browser.strip

/-- The views that are not closing, in order. -/
def shownViews : List (TabView W) := s.strip.tabArray.filter s.strip.shows

def modelIndexOfDraggedTab : Option Nat := s.draggedTab.bind s.strip.modelIndexForTabView

variable [DecidableEq W] in
/-- `indexOfTab:` of the current tab. -/
def selectedModelIndex : Int :=
  match s.model.getActiveWebState with
  | some tab =>
    if s.model.getIndexOfWebState tab = kInvalidIndex then NSNotFound
    else s.model.getIndexOfWebState tab
  | none => NSNotFound

/-- The number of views that are not closing; the closing ones are a set. -/
def tabCount : Nat := s.strip.tabArray.length - s.strip.closingTabs.dedup.length

/-! ## The layout -/

def offset : ℚ := if g.isCompactTablet then 0 else s.contentOffset

/-- The tab that is being dragged is not placed. -/
def leavesOut (view : TabView W) : Bool :=
  s.isReordering && s.draggedTab.map TabView.id = some view.id

/-- The variables of the loop. -/
structure LayoutLoop where
  virtualMinX : ℚ
  hasPlaceholderGap : Bool
  placeholderGapModelIndex : Option Nat
  minX : Nat → ℚ
  places : List Place

/-- The tab is to the right of the dragged one, and the gap has not been drawn. -/
def needsGap (loop : LayoutLoop) : Bool :=
  s.isReordering && !loop.hasPlaceholderGap &&
    ((s.draggedTab.map fun view => s.minX view.id).getD 0) <
      loop.virtualMinX + g.currentTabWidth / 2

/-- The gap before the tab at `currentModelIndex`. -/
def addPlaceholderGap (loop : LayoutLoop) (currentModelIndex : Nat) : LayoutLoop :=
  let isAfterDraggedTab := match s.modelIndexOfDraggedTab with
    | some modelIndex => decide (modelIndex < currentModelIndex)
    | none => false
  { loop with
    virtualMinX := loop.virtualMinX + g.advance
    hasPlaceholderGap := true
    -- The dragged tab is counted by the model at its old place.
    placeholderGapModelIndex :=
      some (if isAfterDraggedTab then currentModelIndex - 1 else currentModelIndex)
    places := loop.places ++ [⟨none, loop.virtualMinX⟩] }

variable [DecidableEq W] in
/-- The round of the loop for a view that is not closing. -/
def layoutTab (loop : LayoutLoop) (entry : TabView W × Nat) : LayoutLoop :=
  let (view, currentModelIndex) := entry
  if s.leavesOut view then loop
  else
    let realMinX := s.offset g + g.numPossibleCollapsedTabsToLeft s.selectedModelIndex
      currentModelIndex * Geometry.kCollapsedTabOverlap
    let realMaxX := s.offset g + g.availableSpace - g.numPossibleCollapsedTabsToRight s.tabCount
      s.selectedModelIndex currentModelIndex * Geometry.kCollapsedTabOverlap
    let loop := if needsGap g s loop then addPlaceholderGap g s loop currentModelIndex else loop
    let tabX := max loop.virtualMinX realMinX
    let tabX := if tabX + g.currentTabWidth > realMaxX then realMaxX - g.currentTabWidth else tabX
    { loop with
      virtualMinX := loop.virtualMinX + g.advance
      minX := fun other => if other = view.id then g.alignValueToPixel tabX else loop.minX other
      places := loop.places ++ [⟨some view.id, loop.virtualMinX⟩] }

variable [DecidableEq W] in
def layoutLoop : LayoutLoop :=
  s.strip.tabArray.zipIdx.foldl (fun loop entry =>
    match s.strip.modelIndexForIndex entry.2 with
    | none => loop -- a closing view
    | some currentModelIndex => layoutTab g s loop (entry.1, currentModelIndex))
    ⟨0, false, s.placeholderGapModelIndex, s.minX, []⟩

variable [DecidableEq W] in
def layoutTabStripSubviews : TabStrip W :=
  if s.tabCount = 0 then s
  else
    let loop := layoutLoop g s
    { s with
      minX := loop.minX
      places := loop.places
      placeholderGapModelIndex :=
        if !loop.hasPlaceholderGap && s.isReordering then
          -- `NSUIntegerMax` without any tab
          some (if s.model.webStates = [] then 18446744073709551615
            else s.model.webStates.length - 1)
        else loop.placeholderGapModelIndex }

/-! ## What is drawn -/

/-- What the loop has drawn of the first views. -/
structure Drawn (before : List (TabView W)) (loop : LayoutLoop) : Prop where
  views : loop.places.filterMap Place.view =
    (before.filter fun view => !s.leavesOut view).map TabView.id
  position : ∀ (i : Nat) (place : Place), loop.places[i]? = some place →
    place.virtualMinX = i * g.advance
  virtualMinX : loop.virtualMinX = loop.places.length * g.advance
  noGap : loop.hasPlaceholderGap = false → ∀ place ∈ loop.places, place.view.isSome = true
  /-- The index of the gap counts the views that are drawn on its left. -/
  gap : loop.hasPlaceholderGap = true → s.isReordering = true ∧ ∃ left place right,
    loop.places = left ++ place :: right ∧ place.view = none ∧
      (∀ other ∈ left ++ right, other.view.isSome = true) ∧
      loop.placeholderGapModelIndex = some left.length

/-- The views that are not closing, by their identities. -/
def shownIds : List Nat := s.shownViews.map TabView.id

/-- The dragged view, by its index among the views that are not closing. -/
def DraggedAt (dragged : TabView W) (d : Nat) : Prop :=
  s.draggedTab = some dragged ∧ s.shownIds[d]? = some dragged.id

/-- The places are drawn from left to right. -/
theorem Drawn.pairwise {g : Geometry} {s : TabStrip W} {before : List (TabView W)}
    {loop : LayoutLoop} (h : Drawn g s before loop) (hadvance : 0 < g.advance) :
    loop.places.Pairwise fun a b => a.virtualMinX < b.virtualMinX := by
  refine pairwise_iff_getElem.2 fun i j hi hj hij => ?_
  rw [h.position i _ (getElem?_eq_getElem hi), h.position j _ (getElem?_eq_getElem hj)]
  exact mul_lt_mul_of_pos_right (Nat.cast_lt.2 hij) hadvance

section Loop

variable {g s} {before rest : List (TabView W)} {view : TabView W} {loop : LayoutLoop}

theorem filterMap_view_of_isSome {places : List Place}
    (h : ∀ place ∈ places, place.view.isSome = true) :
    (places.filterMap Place.view).length = places.length := by
  induction places with
  | nil => rfl
  | cons place places ih =>
    obtain ⟨hplace, hplaces⟩ := forall_mem_cons.1 h
    obtain ⟨id, hid⟩ := Option.isSome_iff_exists.1 hplace
    rw [filterMap_cons_some hid, length_cons, length_cons, ih hplaces]

theorem map_view_of_isSome {places : List Place} (h : ∀ place ∈ places, place.view.isSome = true) :
    places.map Place.view = (places.filterMap Place.view).map some := by
  induction places with
  | nil => rfl
  | cons place places ih =>
    obtain ⟨hplace, hplaces⟩ := forall_mem_cons.1 h
    obtain ⟨id, hid⟩ := Option.isSome_iff_exists.1 hplace
    rw [filterMap_cons_some hid, map_cons, map_cons, ih hplaces, hid]

/-- The dragged view does not count where it is not drawn. -/
theorem length_filter_leavesOut {dragged : TabView W} {d : Nat} (hreordering : s.isReordering)
    (hdragged : s.DraggedAt dragged d) (hids : s.shownIds.Nodup)
    (hviews : s.shownViews = before ++ rest) :
    (before.filter fun view => !s.leavesOut view).length =
      if d < before.length then before.length - 1 else before.length := by
  obtain ⟨htab, hat⟩ := hdragged
  have hleaves : ∀ view, (!s.leavesOut view) = decide (view.id ≠ dragged.id) := by
    intro view
    rw [leavesOut, hreordering, htab]
    simp [eq_comm]
  rw [filter_congr fun view _ => hleaves view]
  rw [shownIds, hviews, map_append] at hat hids
  split
  · next hlt =>
    rw [getElem?_append_left (by rwa [length_map]), getElem?_map] at hat
    obtain ⟨view, hview, hid⟩ := Option.map_eq_some_iff.1 hat
    rw [← hid, filter_key_ne (nodup_append.1 hids).1 hview, length_eraseIdx_of_lt hlt]
  · next hle =>
    rw [getElem?_append_right (by rw [length_map]; omega)] at hat
    rw [filter_eq_self.2]
    intro view hview
    have hne := (nodup_append.1 hids).2.2 _ (mem_map_of_mem hview) _
      (mem_of_getElem? hat)
    simpa using hne

/-- A view that is placed next. -/
theorem Drawn.place (h : Drawn g s before loop) (hleft : s.leavesOut view = false)
    (minX : Nat → ℚ) :
    Drawn g s (before ++ [view]) { loop with
      virtualMinX := loop.virtualMinX + g.advance
      minX
      places := loop.places ++ [⟨some view.id, loop.virtualMinX⟩] } where
  views := by
    rw [filterMap_append, h.views, filter_append, map_append,
      filter_cons_of_pos (by simp [hleft])]
    rfl
  position i place hplace := by
    rw [getElem?_append] at hplace
    split at hplace
    · exact h.position i place hplace
    · next hle =>
      obtain ⟨hi, rfl⟩ := List.getElem?_eq_some_iff.1 hplace
      obtain rfl : i = loop.places.length := by
        rw [length_singleton] at hi
        omega
      simpa using h.virtualMinX
  virtualMinX := by
    rw [h.virtualMinX, length_append, length_singleton]
    push_cast
    ring
  noGap hnone place hplace := by
    rcases mem_append.1 hplace with hold | hnew
    · exact h.noGap hnone place hold
    · rw [mem_singleton.1 hnew]
      rfl
  gap hsome := by
    obtain ⟨hreordering, left, place, right, hplaces, hview, hothers, hindex⟩ := h.gap hsome
    refine ⟨hreordering, left, place, right ++ [⟨some view.id, loop.virtualMinX⟩], ?_, hview, ?_,
      hindex⟩
    · dsimp only
      rw [hplaces, append_assoc, cons_append]
    · intro other hother
      rw [← append_assoc] at hother
      rcases mem_append.1 hother with hold | hnew
      · exact hothers other hold
      · rw [mem_singleton.1 hnew]
        rfl

/-- The gap that is placed next. -/
theorem Drawn.addPlaceholderGap (h : Drawn g s before loop) (hneeds : needsGap g s loop = true)
    {dragged : TabView W} {d : Nat} (hdragged : s.DraggedAt dragged d)
    (hindex : s.modelIndexOfDraggedTab = some d) (hids : s.shownIds.Nodup)
    (hviews : s.shownViews = before ++ rest) :
    Drawn g s before (TabStrip.addPlaceholderGap g s loop before.length) := by
  rw [needsGap, Bool.and_eq_true, Bool.and_eq_true] at hneeds
  obtain ⟨⟨hreordering, hnone⟩, -⟩ := hneeds
  have hnogap := h.noGap (by simpa using hnone)
  constructor
  · rw [TabStrip.addPlaceholderGap, filterMap_append, h.views]
    simp
  · intro i place hplace
    rw [TabStrip.addPlaceholderGap, getElem?_append] at hplace
    split at hplace
    · exact h.position i place hplace
    · next hle =>
      obtain ⟨hi, rfl⟩ := List.getElem?_eq_some_iff.1 hplace
      obtain rfl : i = loop.places.length := by
        rw [length_singleton] at hi
        omega
      simpa using h.virtualMinX
  · rw [TabStrip.addPlaceholderGap, h.virtualMinX, length_append, length_singleton]
    push_cast
    ring
  · intro hfalse
    cases hfalse
  · intro _
    refine ⟨hreordering, loop.places, ⟨none, loop.virtualMinX⟩, [], rfl, rfl, ?_, ?_⟩
    · rw [append_nil]
      exact hnogap
    · rw [TabStrip.addPlaceholderGap, hindex, ← filterMap_view_of_isSome hnogap, h.views,
        length_map, length_filter_leavesOut hreordering hdragged hids hviews]
      simp

variable [DecidableEq W]

section

variable (h : Drawn g s before loop)
  (hdragged : s.isReordering = true → ∃ dragged d, s.DraggedAt dragged d ∧ s.modelIndexOfDraggedTab = some d)
  (hids : s.shownIds.Nodup)
include h hdragged hids

/-- **Step**: the next view is placed, behind the gap if that is due. -/
theorem Drawn.layoutTab (hviews : s.shownViews = before ++ view :: rest) :
    Drawn g s (before ++ [view]) (TabStrip.layoutTab g s loop (view, before.length)) := by
  rw [TabStrip.layoutTab]
  cases hleft : s.leavesOut view with
  | true =>
    have hviews' : loop.places.filterMap Place.view =
        ((before ++ [view]).filter fun view => !s.leavesOut view).map TabView.id := by
      rw [filter_append, filter_cons_of_neg (by simp [hleft]), filter_nil,
        append_nil, h.views]
    exact ⟨hviews', h.position, h.virtualMinX, h.noGap, h.gap⟩
  | false =>
    cases hneeds : needsGap g s loop with
    | true =>
      have hreordering : s.isReordering = true := by
        rw [needsGap, Bool.and_eq_true, Bool.and_eq_true] at hneeds
        exact hneeds.1.1
      obtain ⟨dragged, d, hat, hindex⟩ := hdragged hreordering
      exact (h.addPlaceholderGap hneeds hat hindex hids hviews).place hleft _
    | false => exact h.place hleft _

/-- **Run**: all views are placed. -/
theorem Drawn.foldl_layoutTab (hviews : s.shownViews = before ++ rest) :
    Drawn g s s.shownViews ((rest.zipIdx before.length).foldl (TabStrip.layoutTab g s) loop) := by
  induction rest generalizing before loop with
  | nil =>
    rw [append_nil] at hviews
    exact hviews ▸ h
  | cons view rest ih =>
    have hnext := ih (h.layoutTab hdragged hids hviews) (by simpa using hviews)
    rw [length_append] at hnext
    exact hnext

end

end Loop

section Layout

variable {g s}

theorem DraggedAt.index {dragged : TabView W} {d : Nat} (h : s.DraggedAt dragged d)
    (hids : (s.strip.tabArray.map TabView.id).Nodup) : s.modelIndexOfDraggedTab = some d := by
  rw [modelIndexOfDraggedTab, h.1, Option.bind_some]
  exact modelIndexForTabView_of_shown hids h.2

theorem nodup_shownIds (hids : (s.strip.tabArray.map TabView.id).Nodup) :
    s.shownIds.Nodup :=
  hids.sublist (filter_sublist.map _)

theorem shownIds_eq_nil (h : Counted s.browser) (hcount : s.tabCount = 0) :
    s.shownIds = [] := by
  have hlength : s.strip.tabArray.length = s.shownViews.length +
      (s.strip.tabArray.filter s.strip.isClosing).length := by
    rw [shownViews, length_eq_length_filter_add s.strip.isClosing, Nat.add_comm]
    rfl
  -- The closing views are in the array, once each.
  have hclosing : s.strip.closingTabs.dedup.length ≤
      (s.strip.tabArray.filter s.strip.isClosing).length := by
    rw [← length_map TabView.id]
    refine (subperm_of_subset s.strip.closingTabs.nodup_dedup fun view hview => ?_).length_le
    have hmem := mem_dedup.1 hview
    obtain ⟨tab, htab, rfl⟩ := mem_map.1 (h.views.closing view hmem)
    exact mem_map_of_mem (mem_filter.2 ⟨htab, decide_eq_true hmem⟩)
  rw [tabCount] at hcount
  rw [shownIds, map_eq_nil_iff]
  exact length_eq_zero_iff.1 (by omega)

theorem leavesOut_eq_false (h : s.isReordering = false) (view : TabView W) :
    s.leavesOut view = false := by
  rw [leavesOut, h, Bool.false_and]

variable [DecidableEq W]

/-- The loop goes over the views that are not closing. -/
theorem layoutLoop_eq (g : Geometry) (s : TabStrip W) :
    layoutLoop g s = s.shownViews.zipIdx.foldl (layoutTab g s)
      ⟨0, false, s.placeholderGapModelIndex, s.minX, []⟩ := by
  rw [layoutLoop, shownViews, ← foldl_visibleRank]
  refine congrArg (fun f => List.foldl f _ _) (funext fun loop => funext fun entry => ?_)
  rw [modelIndexForIndex_eq]
  cases visibleRank s.strip.shows s.strip.tabArray entry.2 <;> rfl

theorem drawn_layoutLoop (g : Geometry)
    (hdragged : s.isReordering = true → ∃ dragged d, s.DraggedAt dragged d)
    (hids : (s.strip.tabArray.map TabView.id).Nodup) :
    Drawn g s s.shownViews (layoutLoop g s) := by
  have hstart : Drawn g s [] ⟨0, false, s.placeholderGapModelIndex, s.minX, []⟩ :=
    ⟨rfl, by simp, by simp, by simp, by simp⟩
  rw [layoutLoop_eq]
  refine hstart.foldl_layoutTab (fun hreordering => ?_) (nodup_shownIds hids) rfl
  obtain ⟨dragged, d, hat⟩ := hdragged hreordering
  exact ⟨dragged, d, hat, hat.index hids⟩

/-- Without a drag there is no gap. -/
theorem map_view_layoutLoop {g : Geometry} (hdrawn : Drawn g s s.shownViews (layoutLoop g s))
    (hnot : s.isReordering = false) :
    (layoutLoop g s).places.map Place.view = s.shownIds.map some := by
  have hnone : (layoutLoop g s).hasPlaceholderGap = false := by
    rw [Bool.eq_false_iff]
    intro hgap
    rw [(hdrawn.gap hgap).1] at hnot
    cases hnot
  rw [map_view_of_isSome (hdrawn.noGap hnone), hdrawn.views, filter_eq_self.2]
  · rfl
  · intro view _
    rw [leavesOut_eq_false hnot, Bool.not_false]

/-- Without a drag a tab is placed by its index in the model. -/
theorem getElem?_places (g : Geometry) (h : Counted s.browser) (hnot : s.isReordering = false)
    {modelIndex : Nat} {view : TabView W} (hview : s.shownViews[modelIndex]? = some view) :
    (layoutTabStripSubviews g s).places[modelIndex]? =
      some ⟨some view.id, modelIndex * g.advance⟩ := by
  have hid : s.shownIds[modelIndex]? = some view.id := by
    rw [shownIds, getElem?_map, hview, Option.map_some]
  have hcount : s.tabCount ≠ 0 := fun hcount => by
    rw [shownIds_eq_nil h hcount] at hid
    cases hid
  have hdrawn : Drawn g s s.shownViews (layoutLoop g s) :=
    drawn_layoutLoop g (fun hreordering => by rw [hnot] at hreordering; cases hreordering)
      h.views.ids
  rw [layoutTabStripSubviews, if_neg hcount]
  have hmap := congrArg (·[modelIndex]?) (map_view_layoutLoop hdrawn hnot)
  simp only [getElem?_map, hid, Option.map_some] at hmap
  obtain ⟨place, hplace, hplaceView⟩ := Option.map_eq_some_iff.1 hmap
  refine hplace.trans (congrArg some ?_)
  rw [← hplaceView, ← hdrawn.position modelIndex place hplace]

end Layout

end TabStrip

end TabStripController

end ChromiumIos
