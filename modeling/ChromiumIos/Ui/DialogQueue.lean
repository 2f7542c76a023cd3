import ChromiumIos.Ui.DialogPresenter

/-!
# The queue of dialogs

- `QueueOrdered`: what holds of the queue, the map and the presented dialog, and of the
  order in which dialogs are presented.
- `queue_ordered_iff`: it holds in every state of a run if and only if `cancelAllDialogs`
  never drops a coordinator that was not stopped.
-/

namespace ChromiumIos

open Lib List

/-- Erasing a value that is mapped to something of its own. -/
theorem filterMap_erase {α β : Type} [DecidableEq α] [DecidableEq β] {f : α → Option β}
    {a : α} {b : β} (hab : f a = some b) {l : List α} (hmem : a ∈ l)
    (hnodup : (l.filterMap f).Nodup) :
    (l.erase a).filterMap f = (l.filterMap f).filter (· ≠ b) := by
  induction l with
  | nil => simp at hmem
  | cons x l ih =>
    by_cases hx : x = a
    · subst hx
      rw [filterMap_cons_some hab, nodup_cons] at hnodup
      rw [erase_cons_head, filterMap_cons_some hab, filter_cons_of_neg (by simp)]
      refine (filter_eq_self.2 ?_).symm
      intro y hy
      simpa using fun hyb : y = b => hnodup.1 (hyb ▸ hy)
    · have hmem' : a ∈ l := (mem_cons.1 hmem).resolve_left (Ne.symm hx)
      rw [erase_cons_tail (by simpa using hx)]
      cases hfx : f x with
      | none =>
        rw [filterMap_cons_none hfx] at hnodup ⊢
        rw [filterMap_cons_none hfx]
        exact ih hmem' hnodup
      | some y =>
        rw [filterMap_cons_some hfx, nodup_cons] at hnodup
        have hyb : y ≠ b := by
          rintro rfl
          exact hnodup.1 (mem_filterMap.2 ⟨a, hmem', hab⟩)
        rw [filterMap_cons_some hfx, filterMap_cons_some hfx,
          filter_cons_of_pos (by simpa using hyb), ih hmem' hnodup.2]

namespace DialogPresenter

variable {WebState : Type} [DecidableEq WebState] {s : DialogPresenter WebState}

/-! ## What is stored -/

/-- The coordinators of the queued web states. -/
def queuedCoordinators (s : DialogPresenter WebState) : List Nat :=
  s.queuedWebStates.filterMap s.stored

@[simp] theorem stored_lookUp (s : DialogPresenter WebState) (looked webState : WebState) :
    (s.lookUp looked).stored webState = s.stored webState := by
  rw [stored, lookUp, Keyed.get?_set]
  by_cases h : webState = looked
  · rw [if_pos h, h]
    rfl
  · rw [if_neg h]
    rfl

/-- Setting an entry of the map. -/
theorem join_get?_set (m : Keyed WebState (Option Nat)) (key other : WebState) (c : Nat) :
    ((m.set key (some c)).get? other).join =
      if other = key then some c else (m.get? other).join := by
  rw [Keyed.get?_set]
  split <;> rfl

/-- Erasing an entry of the map. -/
theorem join_get?_erase (m : Keyed WebState (Option Nat)) (key other : WebState) :
    ((m.erase key).get? other).join = if other = key then none else (m.get? other).join := by
  rw [Keyed.get?_erase]
  split <;> rfl

/-! ## The property -/

/-- The queue, the map and the presented dialog belong together. `queued` is exact when
no call is in progress; in the middle of a cancellation the map still has the
coordinator. -/
structure QueueOrdered (s : DialogPresenter WebState) : Prop where
  nodup : s.queuedWebStates.Nodup
  stored_iff : ∀ webState, s.stored webState ≠ none ↔
    webState ∈ s.queuedWebStates ∨ .eraseCoordinator webState ∈ s.stack
  presented_not_queued : ∀ webState,
    s.presentedDialogWebState = some webState → webState ∉ s.queuedWebStates
  presented_both : s.presentedDialogWebState = none ↔ s.presentedDialogCoordinator = none
  /-- The requests that were not cancelled in the queue were shown, or are queued, in
  their order. -/
  in_order : (List.range s.requestCount).filter (· ∉ s.cancelled) =
    s.shown ++ s.queuedCoordinators
  /-- All that were shown have ended before the one that is presented. -/
  one_at_a_time : s.shown = s.ended ++ s.presentedDialogCoordinator.toList

/-- What `cancelAllDialogs` drops has no action left that its deallocation would run. -/
def DropsStopped (s : DialogPresenter WebState) (op : Op WebState) : Prop :=
  op = .resume → s.stack.head? = some .dropPresented →
    ∀ c, s.presentedDialogCoordinator = some c → (s.coordinator c).noInteractionAction = false

/-! ## The invariant -/

/-- The dialog something on the screen belongs to. -/
def Screen.coordinator : Screen → Nat
  | .alert c => c
  | .confirmation c => c

/-- Instructions that do not matter to the queue. -/
def Instr.plain : Instr WebState → Bool
  | .eraseCoordinator _ | .dropPresentedWebState | .buttonWasTapped _ | .buttonTapped => false
  | _ => true

structure QueueInv (s : DialogPresenter WebState) : Prop extends QueueOrdered s where
  cancelling_not_queued : ∀ webState,
    .eraseCoordinator webState ∈ s.stack → webState ∉ s.queuedWebStates
  cancelling_once : ∀ webState, s.stack.count (.eraseCoordinator webState) ≤ 1
  cancelled_lt : ∀ c ∈ s.cancelled, c < s.requestCount
  screen_lt : ∀ screen, s.screen = some screen → screen.coordinator < s.requestCount
  /-- The dialogs that were tapped have no no-interaction action. -/
  tapped : ∀ c, .buttonWasTapped c ∈ s.stack ∨ s.screen = some (.confirmation c) →
    c < s.requestCount ∧ (s.coordinator c).noInteractionAction = false
  dropPresentedWebState_not_mem : .dropPresentedWebState ∉ s.stack
  buttonTapped_not_mem : .buttonTapped ∉ s.stack

theorem QueueInv.init : QueueInv (init : DialogPresenter WebState) where
  nodup := nodup_nil
  stored_iff webState := by simp [DialogPresenter.init, stored]
  presented_not_queued webState h := by simp [DialogPresenter.init] at h
  presented_both := ⟨fun _ => rfl, fun _ => rfl⟩
  in_order := rfl
  one_at_a_time := rfl
  cancelling_not_queued webState h := by simp [DialogPresenter.init] at h
  cancelling_once webState := by simp [DialogPresenter.init]
  cancelled_lt c h := by simp [DialogPresenter.init] at h
  screen_lt screen h := by simp [DialogPresenter.init] at h
  tapped c h := by simp [DialogPresenter.init] at h
  dropPresentedWebState_not_mem := by simp [DialogPresenter.init]
  buttonTapped_not_mem := by simp [DialogPresenter.init]

namespace QueueInv

/-- The coordinators that were shown or are queued are different. -/
theorem nodup_coordinators (h : QueueOrdered s) : (s.shown ++ s.queuedCoordinators).Nodup := by
  rw [← h.in_order]
  exact nodup_range.filter _

/-- They were requested, and not cancelled. -/
theorem mem_coordinators (h : QueueOrdered s) {c : Nat} :
    c ∈ s.shown ++ s.queuedCoordinators ↔ c < s.requestCount ∧ c ∉ s.cancelled := by
  rw [← h.in_order, mem_filter, mem_range]
  simp

theorem presented_mem_shown (h : QueueOrdered s) {c : Nat}
    (hc : s.presentedDialogCoordinator = some c) : c ∈ s.shown := by
  rw [h.one_at_a_time, hc]
  simp

/-- The front of the queue has a coordinator. -/
theorem stored_of_mem (h : QueueOrdered s) {webState : WebState}
    (hmem : webState ∈ s.queuedWebStates) : ∃ c, s.stored webState = some c :=
  Option.ne_none_iff_exists'.1 ((h.stored_iff webState).2 (.inl hmem))

end QueueInv

/-! ## What does not touch the queue -/

/-- The fields the queue's invariant is about are the same. -/
structure SameQueue (s t : DialogPresenter WebState) : Prop where
  queuedWebStates : t.queuedWebStates = s.queuedWebStates
  coordinators : t.dialogCoordinatorsForWebStates = s.dialogCoordinatorsForWebStates
  presentedDialogWebState : t.presentedDialogWebState = s.presentedDialogWebState
  presentedDialogCoordinator : t.presentedDialogCoordinator = s.presentedDialogCoordinator
  requestCount : t.requestCount = s.requestCount
  cancelled : t.cancelled = s.cancelled
  shown : t.shown = s.shown
  ended : t.ended = s.ended

namespace QueueInv

variable {t : DialogPresenter WebState}

section

variable (h : QueueInv s)
include h

/-- **Frame rule** for steps that leave the queue alone. -/
theorem frame (same : SameQueue s t) (hstack : ∀ instr : Instr WebState, instr.plain = false →
      t.stack.count instr = s.stack.count instr)
    (hscreen : ∀ screen, t.screen = some screen → s.screen = some screen)
    (hactions : ∀ c, (s.coordinator c).noInteractionAction = false →
      (t.coordinator c).noInteractionAction = false) :
    QueueInv t := by
  have hmem : ∀ instr : Instr WebState, instr.plain = false →
      (instr ∈ t.stack ↔ instr ∈ s.stack) := by
    intro instr hplain
    rw [← count_pos_iff, hstack instr hplain, count_pos_iff]
  have hstored : t.stored = s.stored := by
    funext webState
    rw [stored, stored, same.coordinators]
  constructor
  · constructor
    · rw [same.queuedWebStates]
      exact h.nodup
    · intro webState
      rw [hstored, same.queuedWebStates, hmem _ rfl]
      exact h.stored_iff webState
    · rw [same.presentedDialogWebState, same.queuedWebStates]
      exact h.presented_not_queued
    · rw [same.presentedDialogWebState, same.presentedDialogCoordinator]
      exact h.presented_both
    · rw [queuedCoordinators, hstored, same.queuedWebStates, same.shown, same.cancelled,
        same.requestCount]
      exact h.in_order
    · rw [same.shown, same.ended, same.presentedDialogCoordinator]
      exact h.one_at_a_time
  · intro webState
    rw [hmem _ rfl, same.queuedWebStates]
    exact h.cancelling_not_queued webState
  · intro webState
    rw [hstack _ rfl]
    exact h.cancelling_once webState
  · rw [same.cancelled, same.requestCount]
    exact h.cancelled_lt
  · intro screen hs
    rw [same.requestCount]
    exact h.screen_lt screen (hscreen screen hs)
  · intro c hc
    rw [hmem _ rfl] at hc
    rw [same.requestCount]
    have hold := h.tapped c (hc.imp_right (hscreen _))
    exact ⟨hold.1, hactions c hold.2⟩
  · rw [hmem _ rfl]
    exact h.dropPresentedWebState_not_mem
  · rw [hmem _ rfl]
    exact h.buttonTapped_not_mem

theorem push {instrs : List (Instr WebState)}
    (hplain : ∀ instr ∈ instrs, instr.plain = true) : QueueInv (s.push instrs) := by
  refine h.frame ⟨rfl, rfl, rfl, rfl, rfl, rfl, rfl, rfl⟩ ?_ (fun _ hs => hs) (fun _ hc => hc)
  intro instr hinstr
  have hnot : instr ∉ instrs := by
    intro hmem
    rw [hplain instr hmem] at hinstr
    cases hinstr
  show (instrs ++ s.stack).count instr = s.stack.count instr
  rw [count_append, count_eq_zero.2 hnot, Nat.zero_add]

theorem callCompletionHandler (c : Nat) (completion : Completion) :
    QueueInv (s.callCompletionHandler c completion) := by
  have hanswered : QueueInv { s with answers := s.answers ++ [(c, completion)] } :=
    h.frame ⟨rfl, rfl, rfl, rfl, rfl, rfl, rfl, rfl⟩ (fun _ _ => rfl) (fun _ hs => hs)
      (fun _ hc => hc)
  exact hanswered.push (by simp [Instr.plain])

/-- Changes of a coordinator that set no no-interaction action. -/
theorem updateCoordinator (c : Nat) {f : AlertCoordinator WebState → AlertCoordinator WebState}
    (hf : ∀ a, a.noInteractionAction = false → (f a).noInteractionAction = false) :
    QueueInv (s.updateCoordinator c f) := by
  refine h.frame ⟨rfl, rfl, rfl, rfl, rfl, rfl, rfl, rfl⟩ (fun _ _ => rfl) (fun _ hs => hs) ?_
  intro d hd
  show (if d = c then f (s.coordinator d) else s.coordinator d).noInteractionAction = false
  split
  · exact hf _ hd
  · exact hd

theorem clearNoInteractionAction (c : Nat) : QueueInv (s.clearNoInteractionAction c) :=
  h.updateCoordinator c fun _ _ => rfl

theorem executeCancelHandler (c : Nat) : QueueInv (s.executeCancelHandler c) := by
  rw [DialogPresenter.executeCancelHandler]
  split
  · exact (h.clearNoInteractionAction c).callCompletionHandler c _
  · exact h.clearNoInteractionAction c

theorem dismiss (screen : Screen) : QueueInv (s.dismiss screen) := by
  refine h.frame ⟨rfl, rfl, rfl, rfl, rfl, rfl, rfl, rfl⟩ (fun _ _ => rfl) ?_ (fun _ hc => hc)
  intro shown hs
  have hs' : (if s.screen = some screen then none else s.screen) = some shown := hs
  split at hs'
  · cases hs'
  · exact hs'

theorem alertDismissed (c : Nat) : QueueInv (s.alertDismissed c) :=
  h.updateCoordinator c fun _ _ => rfl

theorem stopped (c : Nat) : QueueInv (s.stopped c) :=
  (h.dismiss (.alert c)).alertDismissed c

theorem stop (c : Nat) : QueueInv (s.stop c) := by
  rw [DialogPresenter.stop]
  split
  · exact (h.push (by simp [Instr.plain])).callCompletionHandler c _
  · exact h.stopped c

theorem dialogWasShown (webState : WebState) : QueueInv (s.dialogWasShown webState) :=
  h.frame ⟨rfl, rfl, rfl, rfl, rfl, rfl, rfl, rfl⟩ (fun _ _ => rfl) (fun _ hs => hs)
    (fun _ hc => hc)

/-- Presenting the alert of a dialog, or the confirmation for one that was tapped. -/
theorem present {screen : Screen} (hlt : screen.coordinator < s.requestCount)
    (htapped : ∀ c, screen = .confirmation c → (s.coordinator c).noInteractionAction = false) :
    QueueInv (s.present screen) := by
  cases hscreen : s.screen with
  | some shown =>
    refine h.frame ⟨rfl, rfl, rfl, rfl, rfl, rfl, rfl, rfl⟩ (fun _ _ => rfl) ?_ (fun _ hc => hc)
    intro other hother
    rw [DialogPresenter.present, hscreen] at hother
    rw [hscreen]
    exact hother
  | none =>
    have hpresent : (s.present screen).screen = some screen := by
      rw [DialogPresenter.present, hscreen]
      rfl
    refine { h with screen_lt := ?_, tapped := ?_ }
    · intro other hother
      obtain rfl := Option.some.inj (hpresent.symm.trans hother)
      exact hlt
    · rintro c (hc | hc)
      · exact h.tapped c (.inl hc)
      · obtain rfl := Option.some.inj (hpresent.symm.trans hc)
        exact ⟨hlt, htapped c rfl⟩

theorem start : QueueInv s.start := by
  rw [DialogPresenter.start]
  cases hpresented : s.presentedDialogCoordinator with
  | none => exact h
  | some c =>
    have hlt : c < s.requestCount :=
      ((mem_coordinators h.toQueueOrdered).1
        (mem_append_left _ (presented_mem_shown h.toQueueOrdered hpresented))).1
    dsimp only
    split
    · cases (s.coordinator c).startAction with
      | none => exact h.present hlt (by simp)
      | some webState => exact (h.dialogWasShown webState).present hlt (by simp)
    · exact h

/-! ## Each operation -/

/-- The front of the queue is presented when nothing is. -/
theorem presentFront (hnone : s.presentedDialogCoordinator = none)
    {webState : WebState} {rest : List WebState} (hqueue : s.queuedWebStates = webState :: rest) :
    QueueInv (s.presentFront webState rest) := by
  have hnodup := h.nodup
  rw [hqueue, nodup_cons] at hnodup
  obtain ⟨c, hc⟩ := stored_of_mem h.toQueueOrdered (hqueue ▸ mem_cons_self)
  have hcancelling : .eraseCoordinator webState ∉ s.stack := by
    intro hmem
    exact h.cancelling_not_queued webState hmem (hqueue ▸ mem_cons_self)
  refine { h with
    nodup := hnodup.2, stored_iff := ?_, presented_not_queued := ?_, presented_both := ?_,
    in_order := ?_, one_at_a_time := ?_, cancelling_not_queued := ?_ }
  · intro other
    show ((s.dialogCoordinatorsForWebStates.erase webState).get? other).join ≠ none ↔ _
    rw [join_get?_erase]
    have hold := h.stored_iff other
    rw [hqueue, mem_cons] at hold
    by_cases hother : other = webState
    · rw [if_pos hother]
      subst hother
      refine iff_of_false (fun hne => hne rfl) ?_
      rintro (hq | hq)
      · exact hnodup.1 hq
      · exact hcancelling hq
    · rw [if_neg hother]
      exact hold.trans (or_congr_left (or_iff_right hother))
  · rintro other hother
    obtain rfl := Option.some.inj hother
    exact hnodup.1
  · show some webState = none ↔ s.stored webState = none
    rw [hc]
    exact iff_of_false (Option.some_ne_none webState) (Option.some_ne_none c)
  · show (List.range s.requestCount).filter (· ∉ s.cancelled) =
      (s.shown ++ (s.stored webState).toList) ++ rest.filterMap fun other =>
        ((s.dialogCoordinatorsForWebStates.erase webState).get? other).join
    have hrest : rest.filterMap (fun other =>
        ((s.dialogCoordinatorsForWebStates.erase webState).get? other).join) =
        rest.filterMap s.stored := by
      apply filterMap_congr
      intro other hmem
      rw [join_get?_erase, if_neg fun heq : other = webState => hnodup.1 (heq ▸ hmem)]
      rfl
    rw [hrest, h.in_order, queuedCoordinators, hqueue, filterMap_cons_some hc, hc,
      append_assoc]
    rfl
  · show s.shown ++ (s.stored webState).toList = s.ended ++ (s.stored webState).toList
    rw [h.one_at_a_time, hnone, Option.toList_none, append_nil]
  · intro other hmem hother
    exact h.cancelling_not_queued other hmem (hqueue ▸ mem_cons_of_mem _ hother)

theorem showNextDialog (hnone : s.presentedDialogCoordinator = none) :
    QueueInv s.showNextDialog := by
  rw [DialogPresenter.showNextDialog]
  cases hqueue : s.queuedWebStates with
  | nil => exact h
  | cons webState rest => exact (h.presentFront hnone hqueue).push (by simp [Instr.plain])

/-- A request is queued last. -/
theorem enqueue {webState : WebState} (a : AlertCoordinator WebState)
    (hcan : s.CanRequest webState) :
    QueueInv ((s.makeCoordinator a).enqueue s.requestCount webState) := by
  obtain ⟨-, hpresented, hstored⟩ := hcan
  have hnew : ¬(webState ∈ s.queuedWebStates ∨ .eraseCoordinator webState ∈ s.stack) :=
    fun hmem => (h.stored_iff webState).2 hmem hstored
  rw [not_or] at hnew
  refine { h with
    nodup := ?_, stored_iff := ?_, presented_not_queued := ?_, in_order := ?_,
    cancelling_not_queued := ?_, cancelled_lt := ?_, screen_lt := ?_, tapped := ?_ }
  · show (s.queuedWebStates ++ [webState]).Nodup
    rw [nodup_append]
    refine ⟨h.nodup, by simp, ?_⟩
    rintro other hother last hlast rfl
    exact hnew.1 (mem_singleton.1 hlast ▸ hother)
  · intro other
    show ((s.dialogCoordinatorsForWebStates.set webState (some s.requestCount)).get?
      other).join ≠ none ↔ other ∈ s.queuedWebStates ++ [webState] ∨ _
    rw [join_get?_set, mem_append, mem_singleton]
    by_cases hother : other = webState
    · rw [if_pos hother]
      exact iff_of_true (Option.some_ne_none _) (.inl (.inr hother))
    · rw [if_neg hother]
      exact (h.stored_iff other).trans (or_congr_left (or_iff_left hother).symm)
  · intro other hother hmem
    rcases mem_append.1 hmem with hmem | hmem
    · exact h.presented_not_queued other hother hmem
    · rw [mem_singleton.1 hmem] at hother
      exact hpresented hother
  · show (List.range (s.requestCount + 1)).filter (· ∉ s.cancelled) =
      s.shown ++ (s.queuedWebStates ++ [webState]).filterMap fun other =>
        ((s.dialogCoordinatorsForWebStates.set webState (some s.requestCount)).get?
          other).join
    have hold : s.queuedWebStates.filterMap (fun other =>
        ((s.dialogCoordinatorsForWebStates.set webState (some s.requestCount)).get?
          other).join) = s.queuedCoordinators := by
      apply filterMap_congr
      intro other hmem
      rw [join_get?_set, if_neg fun heq : other = webState => hnew.1 (heq ▸ hmem)]
      rfl
    have hnot : s.requestCount ∉ s.cancelled :=
      fun hmem => Nat.lt_irrefl _ (h.cancelled_lt _ hmem)
    rw [range_succ, filter_append, h.in_order, filterMap_append, hold,
      append_assoc]
    simp [hnot]
  · intro other hmem hother
    rcases mem_append.1 hother with hother | hother
    · exact h.cancelling_not_queued other hmem hother
    · exact hnew.2 (mem_singleton.1 hother ▸ hmem)
  · intro c hc
    exact Nat.lt_succ_of_lt (h.cancelled_lt c hc)
  · intro screen hs
    exact Nat.lt_succ_of_lt (h.screen_lt screen hs)
  · intro c hc
    have hold := h.tapped c hc
    refine ⟨Nat.lt_succ_of_lt hold.1, ?_⟩
    show (if c = s.requestCount then a else s.coordinator c).noInteractionAction = false
    rw [if_neg (Nat.ne_of_lt hold.1)]
    exact hold.2

theorem request {webState : WebState} (a : AlertCoordinator WebState)
    (hcan : s.CanRequest webState) : QueueInv (s.request webState a) := by
  have hqueued := h.enqueue a hcan
  rw [DialogPresenter.request, addDialogCoordinator]
  split
  · rename_i hshow
    exact hqueued.showNextDialog hshow.2.1
  · exact hqueued

/-- A queued dialog is cancelled. -/
theorem cancelDialogForWebState {webState : WebState}
    (hqueued : s.stored webState ≠ none → webState ∈ s.queuedWebStates) :
    QueueInv (s.cancelDialogForWebState webState) := by
  rw [DialogPresenter.cancelDialogForWebState]
  cases hstored : s.stored webState with
  | none =>
    have hlook : (s.lookUp webState).stored = s.stored := funext fun _ => stored_lookUp s _ _
    refine { h with stored_iff := ?_, in_order := ?_ }
    · rw [hlook]
      exact h.stored_iff
    · show _ = s.shown ++ s.queuedWebStates.filterMap (s.lookUp webState).stored
      rw [hlook]
      exact h.in_order
  | some c =>
    have hmem := hqueued (by rw [hstored]; exact Option.some_ne_none c)
    have hnodup := nodup_coordinators h.toQueueOrdered
    have hc : c ∈ s.queuedCoordinators := mem_filterMap.2 ⟨webState, hmem, hstored⟩
    have hnot : .eraseCoordinator webState ∉ s.stack :=
      fun hcancelling => h.cancelling_not_queued webState hcancelling hmem
    refine executeCancelHandler ?_ c
    refine { h with
      nodup := h.nodup.erase _, stored_iff := ?_, presented_not_queued := ?_, in_order := ?_,
      cancelling_not_queued := ?_, cancelling_once := ?_, cancelled_lt := ?_, tapped := ?_,
      dropPresentedWebState_not_mem := ?_, buttonTapped_not_mem := ?_ }
    · intro other
      show s.stored other ≠ none ↔ other ∈ s.queuedWebStates.erase webState ∨
        Instr.eraseCoordinator other ∈
          [.stop c, .eraseCoordinator webState] ++ s.stack
      rw [h.stored_iff other, h.nodup.mem_erase_iff]
      by_cases hother : other = webState
      · subst hother
        simp [hmem]
      · simp [hother]
    · intro other hother herase
      exact h.presented_not_queued other hother (mem_of_mem_erase herase)
    · show (List.range s.requestCount).filter (· ∉ s.cancelled ++ [c]) =
        s.shown ++ (s.queuedWebStates.erase webState).filterMap s.stored
      have hsplit : (List.range s.requestCount).filter (· ∉ s.cancelled ++ [c]) =
          ((List.range s.requestCount).filter (· ∉ s.cancelled)).filter (· ≠ c) := by
        rw [filter_filter]
        apply filter_congr
        intro d _
        simp [and_comm]
      have hshown : s.shown.filter (· ≠ c) = s.shown := by
        rw [filter_eq_self]
        intro d hd
        have hne : d ≠ c := (nodup_append.1 hnodup).2.2 d hd c hc
        simpa using hne
      rw [hsplit, h.in_order, filter_append, hshown,
        filterMap_erase hstored hmem (nodup_append.1 hnodup).2.1]
      rfl
    · intro other hcancelling herase
      rcases mem_append.1 hcancelling with hnew | hold
      · simp only [mem_cons, reduceCtorEq, Instr.eraseCoordinator.injEq, not_mem_nil,
          or_false, false_or] at hnew
        exact (h.nodup.mem_erase_iff.1 herase).1 hnew
      · exact h.cancelling_not_queued other hold (mem_of_mem_erase herase)
    · intro other
      let pushed : List (Instr WebState) := [.stop c, .eraseCoordinator webState]
      show (pushed ++ s.stack).count (.eraseCoordinator other) ≤ 1
      rw [count_append]
      by_cases hother : other = webState
      · subst hother
        rw [count_eq_zero.2 hnot]
        simp [pushed]
      · have hother' : webState ≠ other := Ne.symm hother
        simpa [pushed, count_cons, hother'] using h.cancelling_once other
    · intro d hd
      rcases mem_append.1 hd with hd | hd
      · exact h.cancelled_lt d hd
      · rw [mem_singleton.1 hd]
        exact ((mem_coordinators h.toQueueOrdered).1 (mem_append_right _ hc)).1
    · intro d hd
      exact h.tapped d (hd.imp_left fun hmem => by simpa [DialogPresenter.push, dequeue] using hmem)
    · simpa [DialogPresenter.push, dequeue] using h.dropPresentedWebState_not_mem
    · simpa [DialogPresenter.push, dequeue] using h.buttonTapped_not_mem

theorem cancelQueued : QueueInv s.cancelQueued := by
  rw [DialogPresenter.cancelQueued]
  cases hqueue : s.queuedWebStates with
  | nil => exact h
  | cons webState rest =>
    refine (h.push (by simp [Instr.plain])).cancelDialogForWebState fun _ => ?_
    show webState ∈ s.queuedWebStates
    rw [hqueue]
    exact mem_cons_self

/-- No dialog is presented any longer. -/
theorem dropPresentedFields : QueueInv
      { s with
        presentedDialogWebState := none
        presentedDialogCoordinator := none
        ended := s.ended ++ s.presentedDialogCoordinator.toList } where
  toQueueOrdered :=
    { h.toQueueOrdered with
      presented_not_queued := fun _ hnone => nomatch hnone
      presented_both := ⟨fun _ => rfl, fun _ => rfl⟩
      one_at_a_time := by
        show s.shown = s.ended ++ s.presentedDialogCoordinator.toList ++ [] 
        rw [append_nil]
        exact h.one_at_a_time }
  cancelling_not_queued := h.cancelling_not_queued
  cancelling_once := h.cancelling_once
  cancelled_lt := h.cancelled_lt
  screen_lt := h.screen_lt
  tapped := h.tapped
  dropPresentedWebState_not_mem := h.dropPresentedWebState_not_mem
  buttonTapped_not_mem := h.buttonTapped_not_mem

theorem dropPresentedWebState (hnone : s.presentedDialogCoordinator = none) :
    QueueInv s.dropPresentedWebState := by
  have hdropped := h.dropPresentedFields
  rw [hnone, Option.toList_none, append_nil, ← hnone] at hdropped
  exact hdropped.push (by simp [Instr.plain])

theorem dropPresented (hstopped : ∀ c, s.presentedDialogCoordinator = some c →
      (s.coordinator c).noInteractionAction = false) : QueueInv s.dropPresented := by
  rw [DialogPresenter.dropPresented]
  cases hpresented : s.presentedDialogCoordinator with
  | none => exact h.dropPresentedWebState hpresented
  | some c =>
    dsimp only
    rw [if_neg (by rw [hstopped c hpresented]; exact Bool.false_ne_true)]
    have hdropped := h.dropPresentedFields
    rw [hpresented] at hdropped
    exact (hdropped.stopped c).push (by simp [Instr.plain])

theorem stopPresented : QueueInv s.stopPresented := by
  rw [DialogPresenter.stopPresented]
  have hpushed : QueueInv (s.push [.dropPresented]) := h.push (by simp [Instr.plain])
  cases s.presentedDialogCoordinator with
  | none => exact hpushed
  | some c => exact hpushed.stop c

theorem cancelAllDialogs : QueueInv s.cancelAllDialogs := by
  rw [DialogPresenter.cancelAllDialogs]
  cases hpresented : s.presentedDialogCoordinator with
  | none => exact h.dropPresentedWebState hpresented
  | some c => exact (h.push (by simp [Instr.plain])).executeCancelHandler c

theorem tryToPresent (hcan : s.CanTryToPresent) : QueueInv s.tryToPresent := by
  rw [DialogPresenter.tryToPresent]
  split
  · rename_i hshow
    exact h.showNextDialog (hcan.resolve_left fun hne => hne hshow.1)
  · exact h

theorem setActive {active : Bool}
    (hcan : s.active = active ∨ s.CanTryToPresent) : QueueInv (s.setActive active) := by
  rw [DialogPresenter.setActive]
  split
  · exact h
  · rename_i hchange
    have hset : QueueInv { s with active := active } :=
      h.frame ⟨rfl, rfl, rfl, rfl, rfl, rfl, rfl, rfl⟩ (fun _ _ => rfl) (fun _ hs => hs)
        (fun _ hc => hc)
    exact hset.tryToPresent (hcan.resolve_left hchange)

theorem setBlockingConfirmationCoordinator (confirmation : Option Nat) :
    QueueInv (s.setBlockingConfirmationCoordinator confirmation) := by
  have hset : QueueInv { s with blockingConfirmationCoordinator := confirmation } :=
    h.frame ⟨rfl, rfl, rfl, rfl, rfl, rfl, rfl, rfl⟩ (fun _ _ => rfl) (fun _ hs => hs)
      (fun _ hc => hc)
  rw [DialogPresenter.setBlockingConfirmationCoordinator]
  cases s.blockingConfirmationCoordinator with
  | none => exact hset
  | some c => exact hset.dismiss _

end

omit [DecidableEq WebState] in
@[simp] theorem presentedDialogCoordinator_setBlockingConfirmation
    (confirmation : Option Nat) :
    (s.setBlockingConfirmationCoordinator confirmation).presentedDialogCoordinator =
      s.presentedDialogCoordinator := by
  rw [DialogPresenter.setBlockingConfirmationCoordinator]
  cases s.blockingConfirmationCoordinator <;> rfl

theorem buttonTapped (h : QueueInv s) (hnone : s.presentedDialogCoordinator = none) :
    QueueInv s.buttonTapped := by
  have hset := h.setBlockingConfirmationCoordinator none
  rw [DialogPresenter.buttonTapped]
  split
  · exact hset.showNextDialog (by simpa using hnone)
  · exact hset

theorem buttonWasTapped (h : QueueInv s) {c : Nat}
    (hstopped : (s.coordinator c).noInteractionAction = false) :
    QueueInv (s.buttonWasTapped c) := by
  have hdropped := h.dropPresentedFields
  rw [DialogPresenter.buttonWasTapped]
  cases hpresented : s.presentedDialogCoordinator with
  | none =>
    rw [hpresented, Option.toList_none, append_nil] at hdropped
    exact hdropped.buttonTapped rfl
  | some presented =>
    dsimp only
    split
    · rename_i heq
      subst heq
      rw [if_neg (by rw [hstopped]; exact Bool.false_ne_true)]
      rw [hpresented] at hdropped
      exact (hdropped.stopped c).buttonTapped rfl
    · exact h

/-- The tapped dialog is remembered until the presenter is told. -/
theorem pushTapped (h : QueueInv s) {c : Nat} (hlt : c < s.requestCount)
    (hstopped : (s.coordinator c).noInteractionAction = false) {rest : List (Instr WebState)}
    (hrest : rest = [.buttonWasTapped c] ∨ rest = [.blockingOptionSelected, .buttonWasTapped c]) :
    QueueInv (s.push rest) := by
  have hone : QueueInv (s.push [.buttonWasTapped c]) := by
    refine { h with
      stored_iff := ?_, cancelling_not_queued := ?_, cancelling_once := ?_, tapped := ?_,
      dropPresentedWebState_not_mem := ?_, buttonTapped_not_mem := ?_ }
    · intro webState
      exact (h.stored_iff webState).trans (or_congr_right (by simp [DialogPresenter.push]))
    · intro webState hmem
      exact h.cancelling_not_queued webState (by simpa [DialogPresenter.push] using hmem)
    · intro webState
      simpa [DialogPresenter.push] using h.cancelling_once webState
    · rintro d (hd | hd)
      · rcases mem_cons.1 hd with heq | hd
        · rw [Instr.buttonWasTapped.inj heq]
          exact ⟨hlt, hstopped⟩
        · exact h.tapped d (.inl hd)
      · exact h.tapped d (.inr hd)
    · simpa [DialogPresenter.push] using h.dropPresentedWebState_not_mem
    · simpa [DialogPresenter.push] using h.buttonTapped_not_mem
  rcases hrest with rfl | rfl
  · exact hone
  · have hselected : ∀ instr ∈ [(.blockingOptionSelected : Instr WebState)],
        instr.plain = true := by simp [Instr.plain]
    exact hone.push hselected

/-- The alert or the confirmation that is tapped is dismissed. -/
theorem clearScreen (h : QueueInv s) : QueueInv { s with screen := none } :=
  h.frame ⟨rfl, rfl, rfl, rfl, rfl, rfl, rfl, rfl⟩ (fun _ _ => rfl) (fun _ hs => nomatch hs)
    (fun _ hc => hc)

theorem blockingAction (h : QueueInv s) {c : Nat} (hlt : c < s.requestCount)
    (hstopped : (s.coordinator c).noInteractionAction = false) :
    QueueInv (s.blockingAction c) := by
  have hset := h.setBlockingConfirmationCoordinator (some c)
  have hsame : (s.setBlockingConfirmationCoordinator (some c)).requestCount = s.requestCount ∧
      (s.setBlockingConfirmationCoordinator (some c)).coordinator = s.coordinator := by
    rw [DialogPresenter.setBlockingConfirmationCoordinator]
    cases s.blockingConfirmationCoordinator <;> exact ⟨rfl, rfl⟩
  rw [DialogPresenter.blockingAction]
  split
  · refine hset.present (hsame.1 ▸ hlt) ?_
    intro d hd
    obtain rfl := Screen.confirmation.inj hd
    rw [hsame.2]
    exact hstopped
  · exact hset

omit [DecidableEq WebState] in
theorem noInteractionAction_clear (s : DialogPresenter WebState) (c : Nat) :
    ((s.clearNoInteractionAction c).coordinator c).noInteractionAction = false := by
  simp [DialogPresenter.clearNoInteractionAction, DialogPresenter.updateCoordinator]

theorem tapItem (h : QueueInv s) (item : AlertItem) : QueueInv (s.tapItem item) := by
  rw [DialogPresenter.tapItem]
  split
  · rename_i c hscreen
    have hlt : c < s.requestCount := h.screen_lt _ hscreen
    have hcleared := h.clearScreen.clearNoInteractionAction c
    have hstopped := noInteractionAction_clear { s with screen := none } c
    cases item with
    | ok texts => exact (hcleared.pushTapped hlt hstopped (.inl rfl)).callCompletionHandler c _
    | cancel => exact (hcleared.pushTapped hlt hstopped (.inl rfl)).callCompletionHandler c _
    | blockingOption => exact (hcleared.blockingAction hlt hstopped).alertDismissed c
  · exact h

theorem tapConfirmation (h : QueueInv s) (item : ConfirmationItem) :
    QueueInv (s.tapConfirmation item) := by
  rw [DialogPresenter.tapConfirmation]
  split
  · rename_i c hscreen
    obtain ⟨hlt, hstopped⟩ := h.tapped c (.inr hscreen)
    have hcleared := h.clearScreen.clearNoInteractionAction c
    dsimp only
    split
    · refine (hcleared.pushTapped hlt (noInteractionAction_clear _ c) ?_).callCompletionHandler c _
      cases item with
      | blockingOption => exact .inr rfl
      | cancel => exact .inl rfl
    · refine h.clearScreen.pushTapped hlt hstopped ?_
      cases item with
      | blockingOption => exact .inr rfl
      | cancel => exact .inl rfl
  · exact h

/-- Steps that change neither the queue, the stack, the screen nor a coordinator. -/
theorem ofEnvironment (h : QueueInv s) {presenting viewInWindow : Bool}
    {blockingState : WebState → JavaScriptDialogBlockingState} :
    QueueInv
      { s with
        presenting := presenting
        viewInWindow := viewInWindow
        blockingState := blockingState } :=
  h.frame ⟨rfl, rfl, rfl, rfl, rfl, rfl, rfl, rfl⟩ (fun _ _ => rfl) (fun _ hs => hs)
    (fun _ hc => hc)

/-! ## Every step -/

/-- The instruction on top is taken off. -/
theorem pop (h : QueueInv s) {instr : Instr WebState} {rest : List (Instr WebState)}
    (hstack : s.stack = instr :: rest)
    (herase : ∀ webState, instr ≠ .eraseCoordinator webState) :
    QueueInv { s with stack := rest } := by
  have hsub : ∀ other, other ∈ rest → other ∈ s.stack :=
    fun other hmem => hstack ▸ mem_cons_of_mem _ hmem
  refine { h with
    stored_iff := ?_, cancelling_not_queued := ?_, cancelling_once := ?_, tapped := ?_,
    dropPresentedWebState_not_mem := ?_, buttonTapped_not_mem := ?_ }
  · intro webState
    have hold := h.stored_iff webState
    rw [hstack, mem_cons, or_iff_right (herase webState).symm] at hold
    exact hold
  · exact fun webState hmem => h.cancelling_not_queued webState (hsub _ hmem)
  · intro webState
    exact Nat.le_trans (by rw [hstack]; exact count_le_count_cons) (h.cancelling_once webState)
  · exact fun c hc => h.tapped c (hc.imp_left (hsub _))
  · exact fun hmem => h.dropPresentedWebState_not_mem (hsub _ hmem)
  · exact fun hmem => h.buttonTapped_not_mem (hsub _ hmem)

/-- The last statement of `cancelDialogForWebState:`. -/
theorem popErase (h : QueueInv s) {webState : WebState} {rest : List (Instr WebState)}
    (hstack : s.stack = .eraseCoordinator webState :: rest) :
    QueueInv
      { s with
        stack := rest
        dialogCoordinatorsForWebStates :=
          s.dialogCoordinatorsForWebStates.erase webState } := by
  have hsub : ∀ other, other ∈ rest → other ∈ s.stack :=
    fun other hmem => hstack ▸ mem_cons_of_mem _ hmem
  have hnot : webState ∉ s.queuedWebStates :=
    h.cancelling_not_queued webState (hstack ▸ mem_cons_self)
  have hrest : .eraseCoordinator webState ∉ rest := by
    have honce := h.cancelling_once webState
    rw [hstack, count_cons_self] at honce
    exact count_eq_zero.1 (Nat.le_zero.1 (Nat.le_of_succ_le_succ honce))
  refine { h with
    stored_iff := ?_, in_order := ?_, cancelling_not_queued := ?_, cancelling_once := ?_,
    tapped := ?_, dropPresentedWebState_not_mem := ?_, buttonTapped_not_mem := ?_ }
  · intro other
    show ((s.dialogCoordinatorsForWebStates.erase webState).get? other).join ≠ none ↔
      other ∈ s.queuedWebStates ∨ .eraseCoordinator other ∈ rest
    have hold := h.stored_iff other
    rw [hstack, mem_cons] at hold
    rw [join_get?_erase]
    by_cases hother : other = webState
    · rw [if_pos hother]
      subst hother
      refine iff_of_false (fun hne => hne rfl) ?_
      rintro (hq | hq)
      · exact hnot hq
      · exact hrest hq
    · rw [if_neg hother]
      exact hold.trans (or_congr_right (or_iff_right (by simpa using hother)))
  · show _ = s.shown ++ s.queuedWebStates.filterMap fun other =>
      ((s.dialogCoordinatorsForWebStates.erase webState).get? other).join
    have hqueue : s.queuedWebStates.filterMap (fun other =>
        ((s.dialogCoordinatorsForWebStates.erase webState).get? other).join) =
        s.queuedCoordinators := by
      apply filterMap_congr
      intro other hmem
      rw [join_get?_erase, if_neg fun heq : other = webState => hnot (heq ▸ hmem)]
      rfl
    rw [hqueue]
    exact h.in_order
  · exact fun other hmem => h.cancelling_not_queued other (hsub _ hmem)
  · intro other
    exact Nat.le_trans (by rw [hstack]; exact count_le_count_cons) (h.cancelling_once other)
  · exact fun c hc => h.tapped c (hc.imp_left (hsub _))
  · exact fun hmem => h.dropPresentedWebState_not_mem (hsub _ hmem)
  · exact fun hmem => h.buttonTapped_not_mem (hsub _ hmem)

theorem resume (h : QueueInv s) (hdrops : DropsStopped s .resume) : QueueInv s.resume := by
  rw [DialogPresenter.resume]
  cases hstack : s.stack with
  | nil => exact h
  | cons instr rest =>
    cases instr with
    | eraseCoordinator webState => exact h.popErase hstack
    | client => exact h.pop hstack (by simp)
    | stop c => exact (h.pop hstack (by simp)).stop c
    | stopped c => exact (h.pop hstack (by simp)).stopped c
    | stopPresented => exact (h.pop hstack (by simp)).stopPresented
    | dropPresented =>
      refine (h.pop hstack (by simp)).dropPresented ?_
      exact hdrops rfl (by rw [hstack]; rfl)
    | dropPresentedWebState =>
      exact absurd (hstack ▸ mem_cons_self) h.dropPresentedWebState_not_mem
    | cancelQueued => exact (h.pop hstack (by simp)).cancelQueued
    | start => exact (h.pop hstack (by simp)).start
    | blockingOptionSelected => exact (h.pop hstack (by simp)).ofEnvironment
    | buttonWasTapped c =>
      refine (h.pop hstack (by simp)).buttonWasTapped ?_
      exact (h.tapped c (.inl (hstack ▸ mem_cons_self))).2
    | buttonTapped => exact absurd (hstack ▸ mem_cons_self) h.buttonTapped_not_mem

theorem step (h : QueueInv s) (op : Op WebState) (pre : s.Pre op) (hdrops : DropsStopped s op) :
    QueueInv (s.step op) := by
  cases op with
  | runJavaScriptAlertPanel webState => exact h.request _ pre
  | runJavaScriptConfirmPanel webState => exact h.request _ pre
  | runJavaScriptTextInputPanel webState => exact h.request _ pre
  | runAuthDialog webState => exact h.request _ pre
  | cancelDialogForWebState webState => exact h.cancelDialogForWebState pre.2.2
  | cancelAllDialogs => exact h.cancelAllDialogs
  | setActive active => exact h.setActive pre.2
  | tryToPresent => exact h.tryToPresent pre.2
  | tapItem item => exact h.tapItem item
  | tapConfirmation item => exact h.tapConfirmation item
  | setPresenting presenting => exact h.ofEnvironment
  | setViewInWindow viewInWindow => exact h.ofEnvironment
  | navigationItemCommitted webState => exact h.ofEnvironment
  | resume => exact h.resume hdrops

/-- The coordinator that is dropped runs its action while the web state is still set. -/
theorem not_queueOrdered_of_drop (h : QueueInv s) {op : Op WebState}
    (hdrops : ¬DropsStopped s op) : ¬QueueOrdered (s.step op) := by
  rw [DropsStopped] at hdrops
  push Not at hdrops
  obtain ⟨rfl, hhead, c, hpresented, haction⟩ := hdrops
  obtain ⟨rest, hstack⟩ : ∃ rest, s.stack = .dropPresented :: rest := by
    cases hs : s.stack with
    | nil => rw [hs] at hhead; cases hhead
    | cons instr rest =>
      rw [hs] at hhead
      exact ⟨rest, by rw [Option.some.inj hhead]⟩
  have hstep : s.step .resume = ({ s with
      stack := .dropPresentedWebState :: rest
      presentedDialogCoordinator := none
      ended := s.ended ++ [c] }.stop c) := by
    have hset : (s.coordinator c).noInteractionAction = true := by simpa using haction
    show s.resume = _
    rw [DialogPresenter.resume, hstack]
    simp only [exec, DialogPresenter.dropPresented, hpresented, hset, if_true]
    rfl
  intro hordered
  have hboth := hordered.presented_both
  rw [hstep, DialogPresenter.stop, if_pos (by simpa using haction)] at hboth
  have hnone : s.presentedDialogWebState = none := hboth.2 rfl
  rw [h.presented_both.1 hnone] at hpresented
  cases hpresented

end QueueInv

instance (s : DialogPresenter WebState) (op : Op WebState) : Decidable (DropsStopped s op) :=
  instDecidableForall

/-- **The dialogs are queued and presented in order** in every state of a run, whatever
handlers call, if and only if `cancelAllDialogs` never drops a dialog that came to be
presented while it stopped another one. -/
theorem queue_ordered_iff {ops : List (Op WebState)} (hlegal : machine.Legal init ops) :
    (∀ before, before <+: ops → QueueOrdered (machine.run init before)) ↔
      machine.Along DropsStopped init ops :=
  Machine.always_iff_along (M := machine) (I := QueueInv) (C := Pre)
    (fun _ h => h.toQueueOrdered) (fun _ op h pre hdrops => h.step op pre hdrops)
    (fun _ _ h _ hdrops => h.not_queueOrdered_of_drop hdrops) QueueInv.init hlegal

/-- Three dialogs: the first is answered with OK, the second cancelled in the queue by the
handler of the first, the third presented next, and all are cancelled. -/
def threeDialogs : List (Op Nat) :=
  [.setActive true, .runJavaScriptAlertPanel 1, .resume, .resume,
    .runJavaScriptConfirmPanel 2, .runAuthDialog 3, .tapItem (.ok []),
    .cancelDialogForWebState 2, .resume, .resume, .resume, .resume, .resume, .resume, .resume,
    .cancelAllDialogs, .resume, .resume, .resume, .resume]

theorem threeDialogs_ordered :
    QueueOrdered (machine.run init threeDialogs) :=
  (queue_ordered_iff (by decide +kernel)).2 (by decide +kernel) _ prefix_rfl

/-- A handler that is run by `cancelAllDialogs` cancels all dialogs itself and then asks for
another one, and so do the handler of that dialog and the next. -/
def nestedCancellations : List (Op Nat) :=
  [.setActive true, .runJavaScriptAlertPanel 1, .resume, .resume,
    .cancelAllDialogs,
    -- in the handler of the first dialog, which is called again
    .cancelAllDialogs, .resume, .resume, .resume, .resume,
    .runJavaScriptAlertPanel 2, .resume, .resume,
    -- the outer call stops the second dialog
    .resume, .resume,
    .cancelAllDialogs, .resume, .resume, .resume, .resume,
    .runJavaScriptAlertPanel 3, .resume, .resume,
    -- and drops the third, whose handler is run by its deallocation
    .resume, .resume, .resume,
    .cancelAllDialogs, .resume,
    .runJavaScriptAlertPanel 4, .resume, .resume,
    -- the web state of the fourth dialog is reset
    .resume, .resume, .resume, .resume]

/-- All calls have returned, and a dialog is presented for no web state. -/
theorem nestedCancellations_not_ordered :
    machine.Legal init nestedCancellations ∧
      (machine.run init nestedCancellations).stack = [] ∧
      (machine.run init nestedCancellations).presentedDialogWebState = none ∧
      (machine.run init nestedCancellations).presentedDialogCoordinator = some 3 ∧
      ¬QueueOrdered (machine.run init nestedCancellations) := by
  refine ⟨by decide +kernel, by decide +kernel, by decide +kernel, by decide +kernel, ?_⟩
  intro h
  have hnone : (machine.run init nestedCancellations).presentedDialogCoordinator = none :=
    h.presented_both.1 (by decide +kernel)
  exact absurd hnone (by decide +kernel)

end DialogPresenter

end ChromiumIos
