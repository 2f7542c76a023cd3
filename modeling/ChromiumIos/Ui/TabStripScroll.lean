import ChromiumIos.Ui.TabStripLayout

/-!
# Scrolling to a tab of the tab strip

`tab_strip_controller.mm`: when a tab is inserted the strip scrolls to make it visible. The amount
is the length that contains the tabs to its left, computed from their number.

- `numNonClosingTabsToLeft`: the loop that counts them.
- `lengthOfTabs`: the length, from an unsigned number.
- `scrollsPastTabsToLeft`: where it ends in the layout.
-/

namespace ChromiumIos

open Lib WebStateList

namespace TabStripController

namespace TabStrip

variable {W : Type}

/-! ## The requests -/

/-- What the scroll view is asked for. -/
inductive ScrollRequest
  | none
  | setContentOffset (x : ℚ)
  | scrollRectToVisible (x width : ℚ)
deriving DecidableEq, Repr

/-- `_currentTabWidth * count - ([self tabOverlap] * (count - 1))` of an `NSUInteger`. -/
def lengthOfTabs (g : Geometry) (count : Nat) : ℚ :=
  g.currentTabWidth * count - g.tabOverlap * wrapNSUInteger ((count : Int) - 1)

/-- The left edge that `scrollViewFrameForTab:` gives the frame of a view. -/
def scrollViewFrameForTab (g : Geometry) (s : TabStrip W) (view : TabView W) : ℚ :=
  lengthOfTabs g ((s.strip.modelIndexForTabView view).getD NSNotFound.toNat)

/-- The loop of `autoScrollForNewTab:`. -/
def numNonClosingTabsToLeft (closing : TabView W → Bool) (tabIndex : Nat) :
    List (TabView W) → (i numNonClosingTabsToLeft : Nat) → Nat
  | [], _, count => count
  | tab :: tabs, i, count =>
    let i := if closing tab then i + 1 else i
    if i = tabIndex then count
    else numNonClosingTabsToLeft closing tabIndex tabs (i + 1) (count + 1)

/-- `autoScrollForNewTab:`, with the space that the tab strip has. -/
def autoScrollForNewTab (g : Geometry) (tabStripAvailableSpace : ℚ) (s : TabStrip W)
    (tabIndex : Nat) : ScrollRequest :=
  if (tabIndex : Int) = wrapNSUInteger ((s.strip.tabArray.length : Int) - 1) then
    if g.contentSizeWidth > tabStripAvailableSpace then
      .setContentOffset (g.contentSizeWidth - tabStripAvailableSpace)
    else .none
  else
    .scrollRectToVisible
      (lengthOfTabs g (numNonClosingTabsToLeft s.strip.isClosing tabIndex s.strip.tabArray 0 0))
      g.currentTabWidth

/-! ## The tabs to the left -/

variable {g : Geometry} {s : TabStrip W}

/-- Up to the tab, without closing views, the loop counts all views. -/
theorem numNonClosingTabsToLeft_eq (closing : TabView W → Bool) {tabs : List (TabView W)}
    {k : Nat} (hlt : k < tabs.length) (hclosing : ∀ tab ∈ tabs.take (k + 1), closing tab = false)
    (i count : Nat) :
    numNonClosingTabsToLeft closing (i + k) tabs i count = count + k := by
  induction tabs generalizing k i count with
  | nil => cases hlt
  | cons tab tabs ih =>
    rw [List.take_succ_cons] at hclosing
    obtain ⟨htab, htabs⟩ := List.forall_mem_cons.1 hclosing
    rw [numNonClosingTabsToLeft, htab]
    cases k with
    | zero => simp
    | succ k =>
      have hne : ¬i = i + (k + 1) := by omega
      have hrest := ih (Nat.lt_of_succ_lt_succ hlt) htabs (i + 1) (count + 1)
      simp only [Bool.false_eq_true, if_false, if_neg hne]
      rw [show i + (k + 1) = i + 1 + k by omega, hrest]
      omega

/-- The length of some tabs reaches one overlap into the next one. -/
theorem lengthOfTabs_eq {count : Nat} (hpos : 0 < count) (hsize : count < 2 ^ 64) :
    lengthOfTabs g count = count * g.advance + g.tabOverlap := by
  have hwrap : wrapNSUInteger ((count : Int) - 1) = (count : Int) - 1 := by
    rw [wrapNSUInteger]
    omega
  rw [lengthOfTabs, hwrap, Geometry.advance]
  push_cast
  ring

theorem length_shownViews_le (s : TabStrip W) :
    s.shownViews.length ≤ s.strip.tabArray.length :=
  List.length_filter_le _ _

variable [DecidableEq W]

/-- **Scrolling**: the rectangle for a new tab with no closing view up to it, and the frame of any
tab, begin where the tabs to the left end. -/
theorem scrollsPastTabsToLeft (g : Geometry) (h : Counted s.browser)
    (hsize : s.strip.tabArray.length < 2 ^ 64) :
    (∀ (tabStripAvailableSpace : ℚ) (modelIndex : Nat), 0 < modelIndex →
      modelIndex + 1 < s.strip.tabArray.length →
      (∀ view ∈ s.strip.tabArray.take (modelIndex + 1), s.strip.shows view = true) →
      autoScrollForNewTab g tabStripAvailableSpace s modelIndex =
        .scrollRectToVisible (modelIndex * g.advance + g.tabOverlap) g.currentTabWidth) ∧
    (∀ (modelIndex : Nat) view, 0 < modelIndex → s.shownViews[modelIndex]? = some view →
      scrollViewFrameForTab g s view = modelIndex * g.advance + g.tabOverlap) ∧
    (s.isReordering = false → ∀ (modelIndex : Nat) view,
      s.shownViews[modelIndex]? = some view →
      (layoutTabStripSubviews g s).places[modelIndex]? =
        some ⟨some view.id, modelIndex * g.advance⟩) := by
  refine ⟨fun tabStripAvailableSpace modelIndex hpos hlt hshows => ?_,
    fun modelIndex view hpos hview => ?_, fun hnot modelIndex view => getElem?_places g h hnot⟩
  · have hnotLast : (modelIndex : Int) ≠ wrapNSUInteger ((s.strip.tabArray.length : Int) - 1) := by
      rw [wrapNSUInteger]
      omega
    have hcount : numNonClosingTabsToLeft s.strip.isClosing modelIndex s.strip.tabArray 0 0 =
        modelIndex := by
      have hloop := numNonClosingTabsToLeft_eq s.strip.isClosing
        (Nat.lt_of_succ_lt hlt) (fun view hview => by simpa [shows] using hshows view hview) 0 0
      rwa [Nat.zero_add] at hloop
    rw [autoScrollForNewTab, if_neg hnotLast, hcount, lengthOfTabs_eq hpos (by omega)]
  · have hlt : modelIndex < s.shownViews.length := (List.getElem?_eq_some_iff.1 hview).1
    have hid : ((s.strip.tabArray.filter s.strip.shows).map TabView.id)[modelIndex]? =
        some view.id := by
      rw [List.getElem?_map]
      exact congrArg (Option.map TabView.id) hview
    have hindex : s.strip.modelIndexForTabView view = some modelIndex :=
      modelIndexForTabView_of_shown h.views.ids hid
    have hle := length_shownViews_le s
    rw [scrollViewFrameForTab, hindex, Option.getD_some, lengthOfTabs_eq hpos (by omega)]

/-- A tablet with room for four tabs of 200 points. -/
def roomyGeometry : Geometry where
  isCompactTablet := false
  currentTabWidth := 200
  tabStripVisibleSpace := 800
  contentSizeWidth := 1000
  scale := 2

/-- Three tabs, when they have been laid out. -/
def threeTabStrip : TabStrip Nat where
  browser := start threeTabs
  isReordering := false
  draggedTab := none
  placeholderGapModelIndex := none
  minX := fun _ => 0
  contentOffset := 0
  places := []

theorem threeTabStrip_scrolls :
    autoScrollForNewTab roomyGeometry 800 threeTabStrip 1 =
        .scrollRectToVisible (((1 : Nat) : ℚ) * roomyGeometry.advance + roomyGeometry.tabOverlap)
          200 ∧
      (layoutTabStripSubviews roomyGeometry threeTabStrip).places[1]? =
        some ⟨some 1, ((1 : Nat) : ℚ) * roomyGeometry.advance⟩ := by
  have hstart : (machine Nat).Legal (start threeTabs) [] := trivial
  have hcounted : Counted threeTabStrip.browser := counted_run owned_threeTabs hstart
  obtain ⟨hscroll, -, hlayout⟩ := scrollsPastTabsToLeft roomyGeometry hcounted (by decide)
  exact ⟨hscroll 800 1 (by decide) (by decide) (by decide), hlayout rfl 1 ⟨1, 11, false⟩ rfl⟩

/-- The rectangle does not begin where the layout places the tab. -/
theorem threeTabStrip_not_at_virtualMinX :
    autoScrollForNewTab roomyGeometry 800 threeTabStrip 1 ≠
      .scrollRectToVisible (1 * roomyGeometry.advance) 200 := by
  decide +kernel

end TabStrip

end TabStripController

end ChromiumIos
