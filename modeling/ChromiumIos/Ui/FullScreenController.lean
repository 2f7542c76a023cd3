import ChromiumIos.Lib.Machine
import Mathlib.Algebra.GroupWithZero.Nat
import Mathlib.Data.Fintype.Card

/-!
# `FullScreenController`

`fullscreen_controller.mm`: the toolbar is not hidden while the lock is held. What is shown over the
page holds it: notifications that tell of its start and its end move one counter.

- `postWillShow`, `postWillHide`: what the observers do on a notification.
- `Screen`: the controller beside what is really shown, and since when.
- `locked_iff_covered`: the exact condition under which the lock is held while something is shown
  whose start the controller has seen.
-/

namespace ChromiumIos

open Lib Finset

/-- What is shown, and tells of it by a pair of notifications. -/
inductive Overlay
  | menu
  | tabHistoryPopup
  | voiceSearch
  | voiceSearchBarViewButton
  | pageInfo
  | locationBar
  | tabStripDrag
  | sideSwipe
  | keyboard
  | overscrollActions
deriving DecidableEq, Repr

instance : Fintype Overlay where
  elems := {.menu, .tabHistoryPopup, .voiceSearch, .voiceSearchBarViewButton, .pageInfo,
    .locationBar, .tabStripDrag, .sideSwipe, .keyboard, .overscrollActions}
  complete overlay := by cases overlay <;> decide

/-- `fullScreenLock_` is a `uint`. -/
structure FullScreenController where
  fullScreenLock : Nat
  keyboardIsVisible : Bool
  overscrollActionsInProgress : Bool
deriving DecidableEq, Repr

namespace FullScreenController

/-- `initWithDelegate:navigationManager:sessionID:`, whatever is shown at that time. -/
def init : FullScreenController := ⟨0, false, false⟩

variable (c : FullScreenController)

def incrementFullScreenLock : FullScreenController :=
  { c with fullScreenLock := (c.fullScreenLock + 1) % 2 ^ 32 }

def decrementFullScreenLock : FullScreenController :=
  -- The show may have been posted before the controller was there.
  if 0 < c.fullScreenLock then { c with fullScreenLock := c.fullScreenLock - 1 } else c

def keyboardStart : FullScreenController :=
  if c.keyboardIsVisible then c
  else { c with keyboardIsVisible := true }.incrementFullScreenLock

def keyboardEnd : FullScreenController :=
  if c.keyboardIsVisible then { c with keyboardIsVisible := false }.decrementFullScreenLock else c

def overscrollActionsWillStart : FullScreenController :=
  { c.incrementFullScreenLock with overscrollActionsInProgress := true }

def overscrollActionsDidEnd : FullScreenController :=
  { c.decrementFullScreenLock with overscrollActionsInProgress := false }

/-- The observers of the notifications that something will show, or has started. -/
def postWillShow : Overlay → FullScreenController
  | .keyboard => c.keyboardStart
  | .overscrollActions => c.overscrollActionsWillStart
  | _ => c.incrementFullScreenLock

/-- The observers of the notifications that something will hide, or has ended. -/
def postWillHide : Overlay → FullScreenController
  | .keyboard => c.keyboardEnd
  | .overscrollActions => c.overscrollActionsDidEnd
  | _ => c.decrementFullScreenLock

/-! ## The counter -/

@[simp] theorem decrementFullScreenLock_fullScreenLock :
    c.decrementFullScreenLock.fullScreenLock = c.fullScreenLock - 1 := by
  unfold decrementFullScreenLock
  split
  · rfl
  · omega

@[simp] theorem decrementFullScreenLock_keyboardIsVisible :
    c.decrementFullScreenLock.keyboardIsVisible = c.keyboardIsVisible := by
  unfold decrementFullScreenLock
  split <;> rfl

/-- The keyboard counts only once. -/
theorem postWillShow_fullScreenLock {overlay : Overlay}
    (hkeyboard : overlay = .keyboard → c.keyboardIsVisible = false) :
    (c.postWillShow overlay).fullScreenLock = (c.fullScreenLock + 1) % 2 ^ 32 := by
  cases overlay
  case keyboard =>
    rw [postWillShow, keyboardStart, hkeyboard rfl]
    rfl
  all_goals rfl

/-- Only the keyboard tells a hide whose show was missed. -/
theorem postWillHide_fullScreenLock {overlay : Overlay}
    (hkeyboard : overlay = .keyboard → c.keyboardIsVisible = true) :
    (c.postWillHide overlay).fullScreenLock = c.fullScreenLock - 1 := by
  cases overlay
  case keyboard =>
    rw [postWillHide, keyboardEnd, hkeyboard rfl]
    exact decrementFullScreenLock_fullScreenLock _
  all_goals exact decrementFullScreenLock_fullScreenLock _

theorem postWillShow_keyboardIsVisible (overlay : Overlay) :
    (c.postWillShow overlay).keyboardIsVisible = (overlay == .keyboard || c.keyboardIsVisible) := by
  cases overlay
  case keyboard =>
    cases h : c.keyboardIsVisible <;> simp [postWillShow, keyboardStart, h, incrementFullScreenLock]
  all_goals rfl

theorem postWillHide_keyboardIsVisible (overlay : Overlay) :
    (c.postWillHide overlay).keyboardIsVisible = (overlay != .keyboard && c.keyboardIsVisible) := by
  cases overlay
  case keyboard =>
    cases h : c.keyboardIsVisible <;> simp [postWillHide, keyboardEnd, h]
  all_goals exact decrementFullScreenLock_keyboardIsVisible c

/-! ## The screen -/

inductive Notification
  | willShow (overlay : Overlay)
  | willHide (overlay : Overlay)
deriving DecidableEq, Repr

/-- The controller and what is shown. -/
structure Screen where
  controller : FullScreenController
  /-- What is shown, also since before the controller was there. -/
  visible : Finset Overlay
  /-- What has been shown since then and not yet hidden. -/
  shown : Finset Overlay
  /-- The hides without a show, but for the keyboard, since last nothing was in `shown`. -/
  missedShows : Nat

namespace Screen

variable (s : Screen)

/-- The notifications of each kind alternate. -/
def Pre : Notification → Prop
  | .willShow overlay => overlay ∉ s.visible
  | .willHide overlay => overlay ∈ s.visible

def step : Notification → Screen
  | .willShow overlay =>
    { s with
      controller := s.controller.postWillShow overlay
      visible := insert overlay s.visible
      shown := insert overlay s.shown }
  | .willHide overlay =>
    { controller := s.controller.postWillHide overlay
      visible := s.visible.erase overlay
      shown := s.shown.erase overlay
      missedShows :=
        if s.shown.erase overlay = ∅ then 0
        else if overlay ∈ s.shown ∨ overlay = .keyboard then s.missedShows
        else s.missedShows + 1 }

abbrev machine : Machine Screen Notification := ⟨Pre, step⟩

/-- The controller is created while `visible` is shown. -/
def start (visible : Finset Overlay) : Screen := ⟨.init, visible, ∅, 0⟩

/-- While something is shown that the controller has seen start, the lock is held. -/
def Locked : Prop := s.shown.Nonempty → 0 < s.controller.fullScreenLock

/-- A hide that is counted leaves more shown than there were hides without a show, unless it leaves
nothing. -/
def Covered : Notification → Prop
  | .willShow _ => True
  | .willHide overlay =>
    (overlay = .keyboard → overlay ∈ s.shown) → (s.shown.erase overlay).Nonempty →
      s.missedShows + 1 < s.shown.card

instance : ∀ n, Decidable (Pre s n)
  | .willShow _ => instDecidableNot
  | .willHide _ => inferInstanceAs (Decidable (_ ∈ _))

instance : Decidable s.Locked := instDecidableForall

/-! ## The invariant -/

/-- The lock is what is shown less the shows that were missed. -/
structure Counted : Prop where
  count : s.controller.fullScreenLock + s.missedShows = s.shown.card
  locked : s.Locked
  subset : s.shown ⊆ s.visible
  keyboard : s.controller.keyboardIsVisible = true ↔ .keyboard ∈ s.shown

theorem counted_start (visible : Finset Overlay) : (start visible).Counted where
  count := rfl
  locked h := absurd h not_nonempty_empty
  subset := empty_subset _
  keyboard := iff_of_false Bool.false_ne_true (notMem_empty _)

variable {s : Screen} {overlay : Overlay}

/-- There are few kinds, and the counter does not overflow. -/
theorem Counted.lock_lt (h : s.Counted) : s.controller.fullScreenLock + 1 < 2 ^ 32 := by
  have hcard : s.shown.card ≤ 10 := card_le_univ s.shown
  have := h.count
  omega

theorem Counted.willShow (h : s.Counted) (hpre : overlay ∉ s.visible) :
    (s.step (.willShow overlay)).Counted := by
  have hnew : overlay ∉ s.shown := fun hmem => hpre (h.subset hmem)
  have hlock : (s.controller.postWillShow overlay).fullScreenLock =
      s.controller.fullScreenLock + 1 := by
    rw [postWillShow_fullScreenLock, Nat.mod_eq_of_lt h.lock_lt]
    rintro rfl
    exact eq_false_of_ne_true fun hvisible => hnew (h.keyboard.1 hvisible)
  refine ⟨?_, fun _ => ?_, insert_subset_insert _ h.subset, ?_⟩
  · have := h.count
    have := card_insert_of_notMem hnew
    simp only [step]
    omega
  · exact (Nat.succ_pos _).trans_eq hlock.symm
  · simp only [step, postWillShow_keyboardIsVisible, Bool.or_eq_true, beq_iff_eq,
      mem_insert, h.keyboard, @eq_comm _ overlay]

/-- A hide that is counted: the lock and the shows that were missed still add up. -/
theorem Counted.missedShows_willHide (h : s.Counted)
    (hcounted : overlay = .keyboard → overlay ∈ s.shown) :
    s.controller.fullScreenLock - 1 + (s.step (.willHide overlay)).missedShows =
      (s.shown.erase overlay).card := by
  have hcount := h.count
  simp only [step]
  by_cases hmem : overlay ∈ s.shown
  · have hcard := card_erase_of_mem hmem
    have hpos : 0 < s.controller.fullScreenLock := h.locked ⟨overlay, hmem⟩
    rw [if_pos (Or.inl hmem)]
    split_ifs with hempty
    · rw [hempty, card_empty] at hcard ⊢
      omega
    · omega
  · rw [erase_eq_of_notMem hmem, if_neg (not_or_intro hmem fun h => hmem (hcounted h))]
    split_ifs with hempty
    · rw [hempty, card_empty] at hcount ⊢
      omega
    · have hpos := h.locked (nonempty_iff_ne_empty.2 hempty)
      omega

/-- A hide that is counted holds the lock exactly if it is covered. -/
theorem Counted.locked_willHide_iff (h : s.Counted)
    (hcounted : overlay = .keyboard → overlay ∈ s.shown) :
    (s.step (.willHide overlay)).Locked ↔ s.Covered (.willHide overlay) := by
  have hlock : (s.controller.postWillHide overlay).fullScreenLock =
      s.controller.fullScreenLock - 1 :=
    postWillHide_fullScreenLock _ fun hkeyboard => h.keyboard.2 (hkeyboard ▸ hcounted hkeyboard)
  have hcount := h.count
  constructor
  · intro hlocked _ hleft
    have hpos := hlocked hleft
    simp only [step, hlock] at hpos
    omega
  · intro hcovered hleft
    have hlt := hcovered hcounted hleft
    simp only [step, hlock]
    omega

theorem Counted.willHide (h : s.Counted) (hcovered : s.Covered (.willHide overlay)) :
    (s.step (.willHide overlay)).Counted := by
  have hsubset : (s.step (.willHide overlay)).shown ⊆ (s.step (.willHide overlay)).visible :=
    erase_subset_erase _ h.subset
  have hkeyboard : (s.step (.willHide overlay)).controller.keyboardIsVisible = true ↔
      .keyboard ∈ (s.step (.willHide overlay)).shown := by
    simp only [step, postWillHide_keyboardIsVisible, Bool.and_eq_true, bne_iff_ne, ne_eq,
      mem_erase, h.keyboard, @eq_comm _ overlay]
  by_cases hcounted : overlay = .keyboard → overlay ∈ s.shown
  · refine ⟨?_, (h.locked_willHide_iff hcounted).2 hcovered, hsubset, hkeyboard⟩
    rw [← show _ = (s.step (.willHide overlay)).shown.card from h.missedShows_willHide hcounted]
    have hlock : (s.controller.postWillHide overlay).fullScreenLock =
        s.controller.fullScreenLock - 1 :=
      postWillHide_fullScreenLock _ fun hk => h.keyboard.2 (hk ▸ hcounted hk)
    exact congrArg (· + _) hlock
  · -- The keyboard was there before the controller: nothing is counted.
    obtain ⟨rfl, hnot⟩ := Classical.not_imp.1 hcounted
    have hcontroller : s.controller.postWillHide .keyboard = s.controller := by
      rw [postWillHide, keyboardEnd, if_neg (mt h.keyboard.1 hnot)]
    have hshown : s.shown.erase .keyboard = s.shown := erase_eq_of_notMem hnot
    have hmissed : (s.step (.willHide .keyboard)).missedShows = s.missedShows := by
      simp only [step, hshown, or_true, if_true]
      split_ifs with hempty
      · have := h.count
        rw [hempty, card_empty] at this
        omega
      · rfl
    refine ⟨?_, ?_, hsubset, hkeyboard⟩
    · rw [hmissed]
      simp only [step, hcontroller, hshown]
      exact h.count
    · intro hleft
      simp only [step, hcontroller, hshown] at hleft ⊢
      exact h.locked hleft

theorem Counted.step (h : s.Counted) {n : Notification} (hpre : s.Pre n) (hcovered : s.Covered n) :
    (s.step n).Counted := by
  cases n with
  | willShow overlay => exact h.willShow hpre
  | willHide overlay => exact h.willHide hcovered

/-- What is not covered lets the lock go at once. -/
theorem Counted.not_locked (h : s.Counted) {n : Notification} (hcovered : ¬s.Covered n) :
    ¬(s.step n).Locked := by
  cases n with
  | willShow overlay => exact absurd trivial hcovered
  | willHide overlay =>
    have hcounted : overlay = .keyboard → overlay ∈ s.shown :=
      Classical.not_imp.1 hcovered |>.1
    exact mt (h.locked_willHide_iff hcounted).1 hcovered

/-! ## Runs -/

/-- The lock is held in every state of a run if and only if every hide of it is covered. -/
theorem locked_iff_covered (visible : Finset Overlay) {notifications : List Notification}
    (hlegal : machine.Legal (start visible) notifications) :
    (∀ before, before <+: notifications → (machine.run (start visible) before).Locked) ↔
      machine.Along Covered (start visible) notifications :=
  Machine.always_iff_along (fun _ h => h.locked) (fun _ _ h hpre => h.step hpre)
    (fun _ _ h _ => h.not_locked) (counted_start visible) hlegal

/-- A search is dictated into the location bar; the menu closes, which has been open since before
the controller was there. -/
def dictated : List Notification :=
  [.willShow .locationBar, .willShow .voiceSearch, .willHide .menu]

theorem locked_dictated :
    (∀ before, before <+: dictated → (machine.run (start {.menu}) before).Locked) ∧
      (machine.run (start {.menu}) dictated).shown = {.locationBar, .voiceSearch} := by
  have hcovered : machine.Along Covered (start {.menu}) dictated :=
    ⟨trivial, trivial, fun _ _ => by decide, trivial⟩
  exact ⟨(locked_iff_covered {.menu} (by decide)).2 hcovered, by decide⟩

/-- The location bar has had the focus since before the controller was there, and loses it while
the menu is shown. -/
def focusLost : List Notification := [.willShow .menu, .willHide .locationBar]

theorem focusLost_not_locked :
    machine.Legal (start {.locationBar}) focusLost ∧
      ¬(machine.run (start {.locationBar}) focusLost).Locked := by
  decide

end Screen

end FullScreenController

end ChromiumIos
