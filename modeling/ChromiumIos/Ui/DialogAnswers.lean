import ChromiumIos.Ui.DialogQueue

/-!
# The answers of dialogs

- `AnsweredOnce`: no completion handler runs twice, and that of a dialog which is neither
  queued nor presented, and for which no confirmation is shown, has run.
- `answered_exactly_once`: it holds in every state of a run if `cancelAllDialogs` is called
  only while the presented dialog has a cancel action exactly if it was not answered, that
  is, neither while the confirmation of its blocking option is shown nor by its own
  completion handler.
-/

namespace ChromiumIos

open Lib List DialogPresenter QueueInv Option

namespace DialogPresenter

variable {WebState : Type} [DecidableEq WebState] {s t : DialogPresenter WebState}

/-- How often the completion handler of a dialog has run. -/
def answerCount (s : DialogPresenter WebState) (c : Nat) : Nat :=
  (s.answers.map Prod.fst).count c

structure AnsweredOnce (s : DialogPresenter WebState) : Prop where
  at_most_once : ∀ c, s.answerCount c ≤ 1
  answered : ∀ c < s.requestCount, c ∉ s.queuedCoordinators →
    s.presentedDialogCoordinator ≠ some c → s.screen ≠ some (.confirmation c) →
    s.answerCount c = 1

/-- `cancelAllDialogs` will answer the presented dialog if and only if it was not answered. -/
def CancelsUnanswered (s : DialogPresenter WebState) (op : Op WebState) : Prop :=
  op = .cancelAllDialogs → ∀ c, s.presentedDialogCoordinator = some c →
    (s.answerCount c = 0 ↔ (s.coordinator c).cancelAction = true)

instance (s : DialogPresenter WebState) (op : Op WebState) : Decidable (CancelsUnanswered s op) :=
  instDecidableForall

/-! ## The invariant -/

/-- Instructions that end the presented dialog when `cancelAllDialogs` has answered it. -/
def Instr.ending : Instr WebState → Bool
  | .stopPresented | .dropPresented => true
  | _ => false

/-- Instructions that end a given dialog if it is presented. -/
def Instr.Ends (c : Nat) : Instr WebState → Prop
  | .stopPresented | .dropPresented => True
  | .buttonWasTapped d => d = c
  | _ => False

def Instr.isTapped : Instr WebState → Bool
  | .buttonWasTapped _ => true
  | _ => false

/-- Not answered, and all the ways to answer it are open. -/
structure Waiting (s : DialogPresenter WebState) (c : Nat) : Prop where
  answers : s.answerCount c = 0
  cancelAction : (s.coordinator c).cancelAction = true
  noInteractionAction : (s.coordinator c).noInteractionAction = true

/-- The blocking option was tapped: the confirmation answers it. -/
structure Blocked (s : DialogPresenter WebState) (c : Nat) : Prop where
  answers : s.answerCount c = 0
  cancelAction : (s.coordinator c).cancelAction = false
  noInteractionAction : (s.coordinator c).noInteractionAction = false
  screen : s.screen ≠ some (.alert c)
  start : .start ∉ s.stack

/-- Answered while it is presented. -/
structure Answered (s : DialogPresenter WebState) (c : Nat) : Prop where
  answers : s.answerCount c = 1
  noInteractionAction : (s.coordinator c).noInteractionAction = false

/-- What holds of one dialog. -/
structure DialogOk (s : DialogPresenter WebState) (c : Nat) : Prop where
  unrequested : s.requestCount ≤ c → s.answerCount c = 0
  queued : c < s.requestCount → c ∉ s.cancelled → c ∉ s.shown → Waiting s c
  presented : s.presentedDialogCoordinator = some c →
    Waiting s c ∨ Blocked s c ∨ Answered s c ∧ ∃ instr ∈ s.stack, instr.Ends c
  gone : c < s.requestCount → c ∈ s.cancelled ∨ c ∈ s.shown →
    s.presentedDialogCoordinator ≠ some c → s.answerCount c = 1

/-- What holds of the calls in progress. -/
structure StackOk (s : DialogPresenter WebState) : Prop where
  ending : ∀ instr ∈ s.stack, instr.ending = true →
    ∃ c, s.presentedDialogCoordinator = some c ∧ Answered s c
  /-- Below other instructions there is the cancel action that is running. -/
  ending_tail : ∀ instr ∈ s.stack.tail, instr.ending = true →
    ∀ c, s.presentedDialogCoordinator = some c → (s.coordinator c).cancelAction = true
  /-- Nothing is below a tap, and only one instruction ends the presented dialog. -/
  ordered : s.stack.Pairwise fun above below =>
    above.isTapped = false ∧ (above.ending = true → below.ending = false)
  tapped : ∀ c, .buttonWasTapped c ∈ s.stack → s.answerCount c = 1
  stopping : ∀ c, .stop c ∈ s.stack →
    c ∈ s.cancelled ∧ (s.coordinator c).noInteractionAction = false
  stopped_not_mem : ∀ c, .stopped c ∉ s.stack

/-- What holds of the screen. -/
structure ScreenOk (s : DialogPresenter WebState) : Prop where
  presented : ∀ screen, s.screen = some screen →
    s.presentedDialogCoordinator = some screen.coordinator
  confirming : ∀ c, s.screen = some (.confirmation c) →
    s.answerCount c = 0 ∧ (s.coordinator c).cancelAction = false

structure AnswersInv (s : DialogPresenter WebState) : Prop where
  queue : QueueInv s
  dialog : ∀ c, DialogOk s c
  stack : StackOk s
  screen : ScreenOk s

theorem AnswersInv.init : AnswersInv (init : DialogPresenter WebState) where
  queue := QueueInv.init
  dialog c :=
    { unrequested := fun _ => rfl
      queued := fun hc => absurd hc (Nat.not_lt_zero c)
      presented := fun hc => nomatch hc
      gone := fun hc => absurd hc (Nat.not_lt_zero c) }
  stack :=
    { ending := fun _ hmem => nomatch hmem
      ending_tail := fun _ hmem => nomatch hmem
      ordered := .nil
      tapped := fun _ hmem => nomatch hmem
      stopping := fun _ hmem => nomatch hmem
      stopped_not_mem := fun _ hmem => nomatch hmem }
  screen :=
    { presented := fun _ hs => nomatch hs
      confirming := fun _ hs => nomatch hs }

/-! ## Counting -/

omit [DecidableEq WebState] in
@[simp] theorem answerCount_call (s : DialogPresenter WebState) (c d : Nat)
    (completion : Completion) :
    (s.callCompletionHandler c completion).answerCount d =
      s.answerCount d + if c = d then 1 else 0 := by
  show ((s.answers ++ [(c, completion)]).map Prod.fst).count d = _
  rw [map_append, count_append, answerCount]
  simp [count_cons]

/-- In an invariant state every dialog is answered at most once. -/
theorem AnswersInv.answeredOnce (h : AnswersInv s) : AnsweredOnce s where
  at_most_once c := by
    by_cases hlt : c < s.requestCount
    · by_cases hpresented : s.presentedDialogCoordinator = some c
      · rcases (h.dialog c).presented hpresented with hw | hb | ha
        · rw [hw.answers]
          exact Nat.zero_le 1
        · rw [hb.answers]
          exact Nat.zero_le 1
        · exact Nat.le_of_eq ha.1.answers
      · by_cases hgone : c ∈ s.cancelled ∨ c ∈ s.shown
        · exact Nat.le_of_eq ((h.dialog c).gone hlt hgone hpresented)
        · rw [not_or] at hgone
          rw [((h.dialog c).queued hlt hgone.1 hgone.2).answers]
          exact Nat.zero_le 1
    · rw [(h.dialog c).unrequested (Nat.le_of_not_lt hlt)]
      exact Nat.zero_le 1
  answered c hlt hqueued hpresented _ := by
    refine (h.dialog c).gone hlt ?_ hpresented
    by_contra hnot
    rw [not_or] at hnot
    have hmem := (mem_coordinators h.queue.toQueueOrdered).2 ⟨hlt, hnot.1⟩
    rcases mem_append.1 hmem with hshown | hq
    · exact hnot.2 hshown
    · exact hqueued hq

/-! ## What does not answer a dialog -/

/-- What matters to a dialog is the same. -/
structure SameDialog (s t : DialogPresenter WebState) (d : Nat) : Prop where
  requested : d < t.requestCount ↔ d < s.requestCount
  cancelled : d ∈ t.cancelled ↔ d ∈ s.cancelled
  shown : d ∈ t.shown ↔ d ∈ s.shown
  presented : t.presentedDialogCoordinator = some d ↔ s.presentedDialogCoordinator = some d
  coordinator : t.coordinator d = s.coordinator d
  answers : t.answerCount d = s.answerCount d
  screen : t.screen = some (.alert d) → s.screen = some (.alert d)
  start : s.presentedDialogCoordinator = some d → .start ∈ t.stack → .start ∈ s.stack
  ends : s.presentedDialogCoordinator = some d → ∀ instr : Instr WebState, instr.Ends d →
    instr ∈ s.stack → instr ∈ t.stack

omit [DecidableEq WebState] in
theorem Waiting.frame {d : Nat} (h : Waiting s d) (hanswers : t.answerCount d = s.answerCount d)
    (hcoordinator : t.coordinator d = s.coordinator d) : Waiting t d where
  answers := hanswers.trans h.answers
  cancelAction := by rw [hcoordinator]; exact h.cancelAction
  noInteractionAction := by rw [hcoordinator]; exact h.noInteractionAction

omit [DecidableEq WebState] in
theorem Answered.frame {d : Nat} (h : Answered s d) (hanswers : t.answerCount d = s.answerCount d)
    (hcoordinator : t.coordinator d = s.coordinator d) : Answered t d where
  answers := hanswers.trans h.answers
  noInteractionAction := by rw [hcoordinator]; exact h.noInteractionAction

omit [DecidableEq WebState] in
theorem DialogOk.frame {d : Nat} (h : DialogOk s d) (same : SameDialog s t d) :
    DialogOk t d where
  unrequested hle := by
    rw [← Nat.not_lt, same.requested, Nat.not_lt] at hle
    rw [same.answers]
    exact h.unrequested hle
  queued hlt hcancelled hshown := by
    rw [same.requested] at hlt
    rw [same.cancelled] at hcancelled
    rw [same.shown] at hshown
    exact (h.queued hlt hcancelled hshown).frame same.answers same.coordinator
  presented hpresented := by
    rw [same.presented] at hpresented
    rcases h.presented hpresented with hw | hb | ⟨ha, instr, hmem, hends⟩
    · exact .inl (hw.frame same.answers same.coordinator)
    · refine .inr (.inl ⟨same.answers.trans hb.answers, ?_, ?_, ?_, ?_⟩)
      · rw [same.coordinator]
        exact hb.cancelAction
      · rw [same.coordinator]
        exact hb.noInteractionAction
      · exact fun hs => hb.screen (same.screen hs)
      · exact fun hs => hb.start (same.start hpresented hs)
    · exact .inr (.inr ⟨ha.frame same.answers same.coordinator, instr,
        same.ends hpresented instr hends hmem, hends⟩)
  gone hlt hplace hpresented := by
    rw [same.requested] at hlt
    rw [same.cancelled, same.shown] at hplace
    rw [Ne, same.presented] at hpresented
    rw [same.answers]
    exact h.gone hlt hplace hpresented

/-- What the answers depend on is the same, but for a screen that may be dismissed. -/
structure SameAnswers (s t : DialogPresenter WebState) : Prop where
  requestCount : t.requestCount = s.requestCount
  cancelled : t.cancelled = s.cancelled
  shown : t.shown = s.shown
  presentedDialogCoordinator : t.presentedDialogCoordinator = s.presentedDialogCoordinator
  coordinator : t.coordinator = s.coordinator
  answers : t.answers = s.answers
  stack : t.stack = s.stack
  screen : ∀ screen, t.screen = some screen → s.screen = some screen

section

omit [DecidableEq WebState]

theorem SameAnswers.answerCount (same : SameAnswers s t) (c : Nat) :
    t.answerCount c = s.answerCount c := by
  rw [DialogPresenter.answerCount, DialogPresenter.answerCount, same.answers]

theorem SameAnswers.dialog (same : SameAnswers s t) (d : Nat) : SameDialog s t d where
  requested := by rw [same.requestCount]
  cancelled := by rw [same.cancelled]
  shown := by rw [same.shown]
  presented := by rw [same.presentedDialogCoordinator]
  coordinator := by rw [same.coordinator]
  answers := same.answerCount d
  screen := same.screen _
  start _ hmem := same.stack ▸ hmem
  ends _ _ _ hmem := same.stack.symm ▸ hmem

/-- The instruction on top is taken off. -/
theorem StackOk.pop (h : StackOk s) {instr : Instr WebState} {rest : List (Instr WebState)}
    (hstack : s.stack = instr :: rest) : StackOk { s with stack := rest } := by
  have hsub : ∀ other, other ∈ rest → other ∈ s.stack :=
    fun other hmem => hstack ▸ mem_cons_of_mem _ hmem
  have hordered := h.ordered
  rw [hstack, pairwise_cons] at hordered
  refine ⟨?_, ?_, hordered.2, fun c hi => h.tapped c (hsub _ hi),
    fun c hi => h.stopping c (hsub _ hi), fun c hi => h.stopped_not_mem c (hsub _ hi)⟩
  · intro other hi hending
    obtain ⟨c, hc, ha⟩ := h.ending other (hsub _ hi) hending
    exact ⟨c, hc, ha.frame rfl rfl⟩
  · intro other hi hending
    refine h.ending_tail other ?_ hending
    rw [hstack]
    exact mem_of_mem_tail hi

theorem DialogOk.pop {d : Nat} (h : DialogOk s d) {instr : Instr WebState}
    {rest : List (Instr WebState)} (hstack : s.stack = instr :: rest)
    (hends : s.presentedDialogCoordinator = some d → ¬instr.Ends d) :
    DialogOk { s with stack := rest } d := by
  refine h.frame ⟨Iff.rfl, Iff.rfl, Iff.rfl, Iff.rfl, rfl, rfl, id, ?_, ?_⟩
  · exact fun _ hs => hstack ▸ mem_cons_of_mem _ hs
  · intro hpresented other hother hi
    rw [hstack, mem_cons] at hi
    refine hi.resolve_left ?_
    rintro rfl
    exact hends hpresented hother

end

namespace AnswersInv

theorem ofSame (hdialog : ∀ d, DialogOk s d) (hold : StackOk s) (hscreen : ScreenOk s)
    (hqueue : QueueInv t) (same : SameAnswers s t) : AnswersInv t where
  queue := hqueue
  dialog d := (hdialog d).frame (same.dialog d)
  stack := by
    constructor
    · rw [same.stack, same.presentedDialogCoordinator]
      intro instr hmem hending
      obtain ⟨c, hc, ha⟩ := hold.ending instr hmem hending
      exact ⟨c, hc, ha.frame (same.answerCount c) (by rw [same.coordinator])⟩
    · rw [same.stack, same.presentedDialogCoordinator, same.coordinator]
      exact hold.ending_tail
    · rw [same.stack]
      exact hold.ordered
    · intro c
      rw [same.stack, same.answerCount]
      exact hold.tapped c
    · rw [same.stack, same.cancelled, same.coordinator]
      exact hold.stopping
    · rw [same.stack]
      exact hold.stopped_not_mem
  screen := by
    constructor
    · intro screen hs
      rw [same.presentedDialogCoordinator]
      exact hscreen.presented screen (same.screen screen hs)
    · intro c hs
      rw [same.answerCount, same.coordinator]
      exact hscreen.confirming c (same.screen _ hs)

/-- **Frame rule**: nothing the answers depend on changes. -/
theorem frame (h : AnswersInv s) (hqueue : QueueInv t) (same : SameAnswers s t) :
    AnswersInv t :=
  ofSame h.dialog h.stack h.screen hqueue same

/-- Nothing in progress ends the presented dialog but what runs its cancel action. -/
def Settled (s : DialogPresenter WebState) : Prop :=
  ∀ instr ∈ s.stack, instr.ending = true →
    ∀ c, s.presentedDialogCoordinator = some c → (s.coordinator c).cancelAction = true

/-- While the client's code runs, its call is on top of what ends the dialog. -/
theorem settled (h : AnswersInv s) (hclient : s.clientInControl = true) : Settled s := by
  intro instr hmem hending
  refine h.stack.ending_tail instr ?_ hending
  cases hstack : s.stack with
  | nil =>
    rw [hstack] at hmem
    cases hmem
  | cons top rest =>
    rw [hstack] at hmem
    rcases mem_cons.1 hmem with rfl | hmem
    · cases instr <;> simp_all [clientInControl, Instr.ending]
    · exact hmem

/-- Instructions that do not matter to the answers. -/
def harmless : Instr WebState → Bool
  | .client | .cancelQueued | .start | .blockingOptionSelected => true
  | _ => false

section

variable (h : AnswersInv s)
include h

theorem push (hsettled : Settled s) {instrs : List (Instr WebState)}
    (hinstrs : ∀ instr ∈ instrs, harmless instr = true)
    (hstart : .start ∈ instrs → ∀ c, s.presentedDialogCoordinator = some c → Waiting s c) :
    AnswersInv (s.push instrs) where
  queue := by
    refine h.queue.push fun instr hmem => ?_
    have hharmless := hinstrs instr hmem
    cases instr <;> first | rfl | cases hharmless
  dialog d := by
    by_cases hnew : s.presentedDialogCoordinator = some d ∧ .start ∈ instrs
    · have hw : Waiting s d := hstart hnew.2 d hnew.1
      have hold := h.dialog d
      exact ⟨hold.unrequested, fun hlt hc hs => (hold.queued hlt hc hs).frame rfl rfl,
        fun _ => .inl (hw.frame rfl rfl), hold.gone⟩
    · refine (h.dialog d).frame
        ⟨Iff.rfl, Iff.rfl, Iff.rfl, Iff.rfl, rfl, rfl, id, fun hpresented hmem => ?_,
          fun _ _ _ hmem => mem_append_right _ hmem⟩
      exact (mem_append.1 hmem).resolve_left fun hmem => hnew ⟨hpresented, hmem⟩
  stack := by
    have hold := h.stack
    -- none of the instructions is one the conditions are about
    have hmem : ∀ instr : Instr WebState, harmless instr = false →
        instr ∈ instrs ++ s.stack → instr ∈ s.stack := by
      intro instr hharmless hmem
      refine (mem_append.1 hmem).resolve_left fun hmem => ?_
      rw [hinstrs instr hmem] at hharmless
      cases hharmless
    have hnot : ∀ instr : Instr WebState, instr.ending = true → harmless instr = false := by
      intro instr hending
      cases instr <;> first | rfl | cases hending
    constructor
    · intro instr hm hending
      obtain ⟨c, hc, ha⟩ := hold.ending instr (hmem instr (hnot _ hending) hm) hending
      exact ⟨c, hc, ha.frame rfl rfl⟩
    · intro instr hm hending
      exact hsettled instr (hmem instr (hnot _ hending) (mem_of_mem_tail hm)) hending
    · show (instrs ++ s.stack).Pairwise _
      have hplain : ∀ instr ∈ instrs, instr.isTapped = false ∧ instr.ending = false := by
        intro instr hm
        have hharmless := hinstrs instr hm
        cases instr <;> first | exact ⟨rfl, rfl⟩ | cases hharmless
      refine pairwise_append.2 ⟨?_, hold.ordered, ?_⟩
      · refine pairwise_of_forall_mem_list fun above habove below _ => ?_
        exact ⟨(hplain above habove).1, fun he => by rw [(hplain above habove).2] at he; cases he⟩
      · intro above habove below _
        exact ⟨(hplain above habove).1, fun he => by rw [(hplain above habove).2] at he; cases he⟩
    · exact fun c hm => hold.tapped c (hmem _ rfl hm)
    · exact fun c hm => hold.stopping c (hmem _ rfl hm)
    · exact fun c hm => hold.stopped_not_mem c (hmem _ rfl hm)
  screen := ⟨h.screen.presented, h.screen.confirming⟩

/-! ## The queue -/

theorem not_ending_of_none (hnone : s.presentedDialogCoordinator = none) :
    ∀ instr ∈ s.stack, instr.ending = false := by
  intro instr hmem
  cases hending : instr.ending with
  | false => rfl
  | true =>
    obtain ⟨c, hc, -⟩ := h.stack.ending instr hmem hending
    rw [hnone] at hc
    cases hc

theorem settled_of_none (hnone : s.presentedDialogCoordinator = none) : Settled s := by
  intro instr hmem hending
  rw [h.not_ending_of_none hnone instr hmem] at hending
  cases hending

/-- A queued dialog waits. -/
theorem waiting_of_queued {c : Nat} (hc : c ∈ s.queuedCoordinators) : Waiting s c := by
  have hordered := h.queue.toQueueOrdered
  have hplace := (mem_coordinators hordered).1 (mem_append_right s.shown hc)
  refine (h.dialog c).queued hplace.1 hplace.2 fun hshown => ?_
  exact (nodup_append.1 (nodup_coordinators hordered)).2.2 c hshown c hc rfl

/-- The front of the queue is waiting, and is presented next. -/
theorem presentFront (hnone : s.presentedDialogCoordinator = none)
    {webState : WebState} {rest : List WebState} (hqueue : s.queuedWebStates = webState :: rest) :
    AnswersInv (s.presentFront webState rest) ∧
      ∀ c, (s.presentFront webState rest).presentedDialogCoordinator = some c →
        Waiting (s.presentFront webState rest) c := by
  have hmem : webState ∈ s.queuedWebStates := hqueue ▸ mem_cons_self
  obtain ⟨c, hc⟩ := stored_of_mem h.queue.toQueueOrdered hmem
  have hw : Waiting s c :=
    h.waiting_of_queued (mem_filterMap.2 ⟨webState, hmem, hc⟩)
  have hshown : (s.presentFront webState rest).shown = s.shown ++ [c] := by
    show s.shown ++ (s.stored webState).toList = _
    rw [hc]
    rfl
  have hpresented : (s.presentFront webState rest).presentedDialogCoordinator = some c := hc
  have hscreen : s.screen = none := by
    cases hs : s.screen with
    | none => rfl
    | some screen =>
      have hp := h.screen.presented screen hs
      rw [hnone] at hp
      cases hp
  refine ⟨⟨h.queue.presentFront hnone hqueue, ?_, ?_, ?_⟩, ?_⟩
  · intro d
    by_cases hd : d = c
    · subst hd
      have hold := h.dialog d
      refine ⟨hold.unrequested, ?_, fun _ => .inl (hw.frame rfl rfl), ?_⟩
      · intro _ _ hnot
        rw [hshown] at hnot
        exact absurd (mem_append_right _ (mem_singleton_self d)) hnot
      · exact fun _ _ hne => absurd hpresented hne
    · refine (h.dialog d).frame ⟨Iff.rfl, Iff.rfl, ?_, ?_, rfl, rfl, id, ?_, ?_⟩
      · rw [hshown, mem_append, mem_singleton, or_iff_left hd]
      · rw [hpresented, hnone]
        exact iff_of_false (fun heq => hd (some.inj heq).symm) (fun heq => nomatch heq)
      · exact fun _ hstart => hstart
      · exact fun _ _ _ hi => hi
  · have hold := h.stack
    have hnot := h.not_ending_of_none hnone
    refine ⟨?_, ?_, hold.ordered, hold.tapped, hold.stopping, hold.stopped_not_mem⟩
    · intro instr hi hending
      rw [hnot instr hi] at hending
      cases hending
    · intro instr hi hending
      rw [hnot instr (mem_of_mem_tail hi)] at hending
      cases hending
  · constructor
    · intro screen hs
      rw [show (s.presentFront webState rest).screen = none from hscreen] at hs
      cases hs
    · intro d hs
      rw [show (s.presentFront webState rest).screen = none from hscreen] at hs
      cases hs
  · intro d hd
    obtain rfl := some.inj (hpresented.symm.trans hd)
    exact hw.frame rfl rfl

theorem showNextDialog (hnone : s.presentedDialogCoordinator = none) :
    AnswersInv s.showNextDialog := by
  rw [DialogPresenter.showNextDialog]
  cases hqueue : s.queuedWebStates with
  | nil => exact h
  | cons webState rest =>
    obtain ⟨hfront, hwaiting⟩ := h.presentFront hnone hqueue
    refine hfront.push ?_ (by simp [harmless]) fun _ => hwaiting
    intro instr hmem hending
    rw [h.not_ending_of_none hnone instr hmem] at hending
    cases hending

/-- A request waits in the queue. -/
theorem enqueue {webState : WebState} {a : AlertCoordinator WebState}
    (hcan : s.CanRequest webState) (hcancel : a.cancelAction = true)
    (hnoInteraction : a.noInteractionAction = true) :
    AnswersInv ((s.makeCoordinator a).enqueue s.requestCount webState) := by
  have hordered := h.queue.toQueueOrdered
  have hcoordinator : ∀ d, d < s.requestCount →
      ((s.makeCoordinator a).enqueue s.requestCount webState).coordinator d =
        s.coordinator d := by
    intro d hd
    show (if d = s.requestCount then a else s.coordinator d) = _
    rw [if_neg (Nat.ne_of_lt hd)]
  have hpresented : ∀ d, s.presentedDialogCoordinator = some d → d < s.requestCount :=
    fun d hd => ((mem_coordinators hordered).1
      (mem_append_left _ (presented_mem_shown hordered hd))).1
  refine ⟨h.queue.enqueue a hcan, ?_, ?_, ?_⟩
  · intro d
    rcases Nat.lt_trichotomy d s.requestCount with hlt | rfl | hgt
    · refine (h.dialog d).frame
        ⟨?_, Iff.rfl, Iff.rfl, Iff.rfl, hcoordinator d hlt, rfl, id, fun _ hs => hs,
          fun _ _ _ hi => hi⟩
      exact iff_of_true (Nat.lt_succ_of_lt hlt) hlt
    · constructor
      · exact fun hle => absurd hle (Nat.not_succ_le_self _)
      · intro _ _ _
        have hself :
            ((s.makeCoordinator a).enqueue s.requestCount webState).coordinator
              s.requestCount = a := if_pos rfl
        refine ⟨(h.dialog _).unrequested (Nat.le_refl _), ?_, ?_⟩
        · rw [hself]
          exact hcancel
        · rw [hself]
          exact hnoInteraction
      · exact fun hp => absurd (hpresented _ hp) (Nat.lt_irrefl _)
      · rintro - (hc | hs) -
        · exact absurd (h.queue.cancelled_lt _ hc) (Nat.lt_irrefl _)
        · have hlt := (mem_coordinators hordered).1 (mem_append_left _ hs)
          exact absurd hlt.1 (Nat.lt_irrefl _)
    · have hle : ¬d < s.requestCount + 1 := Nat.not_lt.2 hgt
      exact ⟨fun _ => (h.dialog d).unrequested (Nat.le_of_lt hgt), fun hd => absurd hd hle,
        fun hp => absurd (Nat.lt_succ_of_lt (hpresented d hp)) hle, fun hd => absurd hd hle⟩
  · have hold := h.stack
    refine ⟨?_, ?_, hold.ordered, hold.tapped, ?_, hold.stopped_not_mem⟩
    · intro instr hi hending
      obtain ⟨c, hc, ha⟩ := hold.ending instr hi hending
      exact ⟨c, hc, ha.frame rfl (hcoordinator c (hpresented c hc))⟩
    · intro instr hi hending c hc
      rw [hcoordinator c (hpresented c hc)]
      exact hold.ending_tail instr hi hending c hc
    · intro c hi
      obtain ⟨hc, hstopped⟩ := hold.stopping c hi
      rw [hcoordinator c (h.queue.cancelled_lt c hc)]
      exact ⟨hc, hstopped⟩
  · refine ⟨h.screen.presented, fun c hs => ?_⟩
    rw [hcoordinator c (hpresented c (h.screen.presented _ hs))]
    exact h.screen.confirming c hs

theorem request {webState : WebState} {a : AlertCoordinator WebState}
    (hcan : s.CanRequest webState) (hcancel : a.cancelAction = true)
    (hnoInteraction : a.noInteractionAction = true) : AnswersInv (s.request webState a) := by
  have hqueued := h.enqueue hcan hcancel hnoInteraction
  rw [DialogPresenter.request, addDialogCoordinator]
  split
  · rename_i hshow
    exact hqueued.showNextDialog hshow.2.1
  · exact hqueued

theorem tryToPresent (hcan : s.CanTryToPresent) : AnswersInv s.tryToPresent := by
  rw [DialogPresenter.tryToPresent]
  split
  · rename_i hshow
    exact h.showNextDialog (hcan.resolve_left fun hne => hne hshow.1)
  · exact h

end

/-! ## Ending -/

omit [DecidableEq WebState] in
theorem clearNoInteractionAction_of_false {c : Nat}
    (hfalse : (s.coordinator c).noInteractionAction = false) :
    s.clearNoInteractionAction c = s := by
  have hsame : (s.clearNoInteractionAction c).coordinator = s.coordinator := by
    funext d
    show (if d = c then { s.coordinator d with noInteractionAction := false }
      else s.coordinator d) = _
    split
    · rename_i heq
      rw [heq, ← hfalse]
    · rfl
  show { s with coordinator := (s.clearNoInteractionAction c).coordinator } = s
  rw [hsame]

variable {instr : Instr WebState}

/-- The presented dialog was answered and is ended by the instruction that is pushed. -/
theorem pushEnding (hqueue : QueueInv (s.push [instr]))
    (hdialog : ∀ d, s.presentedDialogCoordinator ≠ some d → DialogOk s d)
    (hstack : StackOk s) (hscreen : ScreenOk s) {c : Nat}
    (hpresented : s.presentedDialogCoordinator = some c) (ha : Answered s c)
    (hending : instr.ending = true) (hnot : ∀ other ∈ s.stack, other.ending = false) :
    AnswersInv (s.push [instr]) := by
  have hshown : c ∈ s.shown := presented_mem_shown hqueue.toQueueOrdered hpresented
  have hlt : c < s.requestCount :=
    ((mem_coordinators hqueue.toQueueOrdered).1 (mem_append_left _ hshown)).1
  refine ⟨hqueue, ?_, ?_, hscreen.presented, hscreen.confirming⟩
  · intro d
    by_cases hd : s.presentedDialogCoordinator = some d
    · obtain rfl := some.inj (hpresented.symm.trans hd)
      refine ⟨fun hle => absurd hlt (Nat.not_lt.2 hle), fun _ _ hs => absurd hshown hs,
        fun _ => .inr (.inr ⟨ha.frame rfl rfl, instr, mem_cons_self, ?_⟩),
        fun _ _ hne => absurd hpresented hne⟩
      cases instr <;> trivial
    · exact (hdialog d hd).frame ⟨Iff.rfl, Iff.rfl, Iff.rfl, Iff.rfl, rfl, rfl, id,
        fun hp => absurd hp hd, fun hp => absurd hp hd⟩
  · have hmem : ∀ other : Instr WebState, other.ending = false →
        other ∈ (s.push [instr]).stack → other ∈ s.stack := by
      intro other hfalse hi
      refine (mem_cons.1 hi).resolve_left ?_
      rintro rfl
      rw [hending] at hfalse
      cases hfalse
    refine ⟨fun _ _ _ => ⟨c, hpresented, ha.frame rfl rfl⟩, ?_, ?_,
      fun d hi => hstack.tapped d (hmem _ rfl hi), fun d hi => hstack.stopping d (hmem _ rfl hi),
      fun d hi => hstack.stopped_not_mem d (hmem _ rfl hi)⟩
    · intro other hi htrue
      rw [hnot other hi] at htrue
      cases htrue
    · refine pairwise_cons.2 ⟨fun below hi => ⟨?_, fun _ => hnot below hi⟩, hstack.ordered⟩
      cases instr <;> first | rfl | cases hending

/-! ## Answering -/

/-- The completion handler of a dialog is called: it returns to `instrs`. -/
structure CallsHandler (s t : DialogPresenter WebState) (c : Nat)
    (instrs : List (Instr WebState)) : Prop where
  requestCount : t.requestCount = s.requestCount
  cancelled : t.cancelled = s.cancelled ∨ t.cancelled = s.cancelled ++ [c]
  shown : t.shown = s.shown
  presented : t.presentedDialogCoordinator = s.presentedDialogCoordinator
  coordinator : ∀ d, d ≠ c → t.coordinator d = s.coordinator d
  noInteractionAction : (t.coordinator c).noInteractionAction = false
  cancelAction : (t.coordinator c).cancelAction = (s.coordinator c).cancelAction
  answers : ∀ d, t.answerCount d = s.answerCount d + if c = d then 1 else 0
  screen : ∀ screen, t.screen = some screen → s.screen = some screen
  stack : t.stack = .client :: (instrs ++ s.stack)

/-- What is left to be done when the handler of a dialog is called. -/
structure Leaves (s t : DialogPresenter WebState) (c : Nat) (instr : Instr WebState) : Prop where
  ending : instr.ending = true →
    s.presentedDialogCoordinator = some c ∧ (s.coordinator c).cancelAction = true
  tapped : ∀ d, instr = .buttonWasTapped d → d = c
  stopping : ∀ d, instr = .stop d → d = c ∧ c ∈ t.cancelled
  stopped : ∀ d, instr ≠ .stopped d
  start : instr ≠ .start

/-- **Answer rule**: the handler of a dialog that was not answered is called. The dialog was
cancelled in the queue, or it is presented and will be ended. -/
theorem calls (h : AnswersInv s) (hqueue : QueueInv t) (hsettled : Settled s) {c : Nat}
    {instrs : List (Instr WebState)} (hcalls : CallsHandler s t c instrs)
    (hzero : s.answerCount c = 0)
    (hplace : c ∈ t.cancelled ∧ s.presentedDialogCoordinator ≠ some c ∨
      s.presentedDialogCoordinator = some c ∧ ∃ instr ∈ instrs, instr.Ends c)
    (hleaves : ∀ instr ∈ instrs, Leaves s t c instr)
    (hordered : (instrs ++ s.stack).Pairwise fun above below =>
      above.isTapped = false ∧ (above.ending = true → below.ending = false))
    (hscreen : t.screen ≠ some (.confirmation c)) : AnswersInv t := by
  have hone : t.answerCount c = 1 := by rw [hcalls.answers, hzero, if_pos rfl]
  have hother : ∀ d, d ≠ c → t.answerCount d = s.answerCount d := by
    intro d hd
    rw [hcalls.answers, if_neg (Ne.symm hd), Nat.add_zero]
  have hmem : ∀ instr, instr ∈ t.stack ↔ instr = .client ∨ instr ∈ instrs ∨ instr ∈ s.stack := by
    intro instr
    rw [hcalls.stack, mem_cons, mem_append]
  have hcancelled : ∀ d, d ≠ c → (d ∈ t.cancelled ↔ d ∈ s.cancelled) := by
    intro d hd
    rcases hcalls.cancelled with heq | heq
    · rw [heq]
    · rw [heq, mem_append, mem_singleton, or_iff_left hd]
  have hsub : ∀ d, d ∈ s.cancelled → d ∈ t.cancelled := by
    intro d hd
    rcases hcalls.cancelled with heq | heq
    · rwa [heq]
    · exact heq ▸ mem_append_left _ hd
  have hanswered : ∀ d, Answered s d → Answered t d := by
    intro d ha
    have hd : d ≠ c := by
      rintro rfl
      rw [ha.answers] at hzero
      cases hzero
    exact ha.frame (hother d hd) (hcalls.coordinator d hd)
  refine ⟨hqueue, ?_, ?_, ?_⟩
  · intro d
    by_cases hd : d = c
    · subst hd
      constructor
      · intro hle
        rcases hplace with ⟨hc, -⟩ | ⟨hp, -⟩
        · exact absurd (hqueue.cancelled_lt d hc) (Nat.not_lt.2 hle)
        · have hshown := presented_mem_shown h.queue.toQueueOrdered hp
          have hlt := (mem_coordinators h.queue.toQueueOrdered).1
            (mem_append_left _ hshown)
          exact absurd hlt.1 (Nat.not_lt.2 (hcalls.requestCount ▸ hle))
      · intro _ hc hs
        rcases hplace with ⟨hcan, -⟩ | ⟨hp, -⟩
        · exact absurd hcan hc
        · rw [hcalls.shown] at hs
          exact absurd (presented_mem_shown h.queue.toQueueOrdered hp) hs
      · intro hp
        rw [hcalls.presented] at hp
        rcases hplace with ⟨-, hne⟩ | ⟨-, instr, hi, hends⟩
        · exact absurd hp hne
        · exact .inr (.inr ⟨⟨hone, hcalls.noInteractionAction⟩, instr,
            (hmem instr).2 (.inr (.inl hi)), hends⟩)
      · exact fun _ _ _ => hone
    · refine (h.dialog d).frame ⟨?_, hcancelled d hd, ?_, ?_, hcalls.coordinator d hd,
        hother d hd, hcalls.screen _, ?_, ?_⟩
      · rw [hcalls.requestCount]
      · rw [hcalls.shown]
      · rw [hcalls.presented]
      · intro _ hs
        rcases (hmem _).1 hs with hs | hs | hs
        · cases hs
        · exact absurd rfl (hleaves _ hs).start
        · exact hs
      · exact fun _ instr _ hi => (hmem instr).2 (.inr (.inr hi))
  · constructor
    · intro instr hi hending
      rw [hcalls.presented]
      rcases (hmem instr).1 hi with rfl | hi | hi
      · cases hending
      · exact ⟨c, ((hleaves instr hi).ending hending).1, hone, hcalls.noInteractionAction⟩
      · obtain ⟨d, hd, ha⟩ := h.stack.ending instr hi hending
        exact ⟨d, hd, hanswered d ha⟩
    · intro instr hi hending d hd
      rw [hcalls.presented] at hd
      rw [hcalls.stack, tail_cons, mem_append] at hi
      have hset : (s.coordinator d).cancelAction = true := by
        rcases hi with hi | hi
        · obtain ⟨hp, hset⟩ := (hleaves instr hi).ending hending
          obtain rfl := some.inj (hp.symm.trans hd)
          exact hset
        · exact hsettled instr hi hending d hd
      by_cases heq : d = c
      · subst heq
        rw [hcalls.cancelAction]
        exact hset
      · rw [hcalls.coordinator d heq]
        exact hset
    · rw [hcalls.stack, pairwise_cons]
      exact ⟨fun _ _ => ⟨rfl, fun hending => nomatch hending⟩, hordered⟩
    · intro d hi
      rcases (hmem _).1 hi with hi | hi | hi
      · cases hi
      · rw [(hleaves _ hi).tapped d rfl]
        exact hone
      · have hold := h.stack.tapped d hi
        rw [hcalls.answers]
        split
        · rename_i heq
          rw [← heq, hzero] at hold
          cases hold
        · exact hold
    · intro d hi
      rcases (hmem _).1 hi with hi | hi | hi
      · cases hi
      · obtain ⟨rfl, hc⟩ := (hleaves _ hi).stopping d rfl
        exact ⟨hc, hcalls.noInteractionAction⟩
      · obtain ⟨hc, hstopped⟩ := h.stack.stopping d hi
        refine ⟨hsub d hc, ?_⟩
        by_cases heq : d = c
        · rw [heq]
          exact hcalls.noInteractionAction
        · rw [hcalls.coordinator d heq]
          exact hstopped
    · intro d hi
      rcases (hmem _).1 hi with hi | hi | hi
      · cases hi
      · exact (hleaves _ hi).stopped d rfl
      · exact h.stack.stopped_not_mem d hi
  · constructor
    · intro screen hs
      rw [hcalls.presented]
      exact h.screen.presented screen (hcalls.screen screen hs)
    · intro d hs
      have hd : d ≠ c := fun heq => hscreen (heq ▸ hs)
      rw [hother d hd, hcalls.coordinator d hd]
      exact h.screen.confirming d (hcalls.screen _ hs)

omit [DecidableEq WebState] in
theorem callsHandler_executeCancelHandler {u : DialogPresenter WebState} {c : Nat}
    {instrs : List (Instr WebState)} (hset : (s.coordinator c).cancelAction = true)
    (hrequests : u.requestCount = s.requestCount)
    (hcancelled : u.cancelled = s.cancelled ∨ u.cancelled = s.cancelled ++ [c])
    (hshown : u.shown = s.shown)
    (hpresented : u.presentedDialogCoordinator = s.presentedDialogCoordinator)
    (hcoordinator : u.coordinator = s.coordinator) (hanswers : u.answers = s.answers)
    (hscreen : u.screen = s.screen) (hstack : u.stack = instrs ++ s.stack) :
    CallsHandler s (u.executeCancelHandler c) c instrs := by
  rw [executeCancelHandler, if_pos (hcoordinator ▸ hset)]
  refine ⟨hrequests, hcancelled, hshown, hpresented, ?_, ?_, ?_, ?_, ?_, ?_⟩
  · intro d hd
    rw [← hcoordinator]
    exact if_neg hd
  · exact noInteractionAction_clear u c
  · show (if c = c then { u.coordinator c with noInteractionAction := false }
      else u.coordinator c).cancelAction = _
    rw [if_pos rfl, hcoordinator]
  · intro d
    rw [answerCount_call, answerCount, answerCount, ← hanswers]
    rfl
  · exact fun screen hs => hscreen ▸ hs
  · rw [← hstack]
    rfl

omit [DecidableEq WebState] in
theorem cancelled_executeCancelHandler (s : DialogPresenter WebState) (c : Nat) :
    (s.executeCancelHandler c).cancelled = s.cancelled := by
  rw [executeCancelHandler]
  split <;> rfl

/-- A queued dialog is answered when it is cancelled. -/
theorem cancelDialogForWebState (h : AnswersInv s) (hsettled : Settled s) {webState : WebState}
    (hqueued : s.stored webState ≠ none → webState ∈ s.queuedWebStates) :
    AnswersInv (s.cancelDialogForWebState webState) := by
  have hqueue := h.queue.cancelDialogForWebState hqueued
  rw [DialogPresenter.cancelDialogForWebState] at hqueue ⊢
  cases hstored : s.stored webState with
  | none =>
    rw [hstored] at hqueue
    exact h.frame hqueue ⟨rfl, rfl, rfl, rfl, rfl, rfl, rfl, fun _ hs => hs⟩
  | some c =>
    rw [hstored] at hqueue
    have hc : c ∈ s.queuedCoordinators := by
      refine mem_filterMap.2 ⟨webState, hqueued ?_, hstored⟩
      rw [hstored]
      exact some_ne_none c
    have hw := h.waiting_of_queued hc
    have hordered := h.queue.toQueueOrdered
    have hpresented : s.presentedDialogCoordinator ≠ some c := fun hp =>
      (nodup_append.1 (nodup_coordinators hordered)).2.2 c
        (presented_mem_shown hordered hp) c hc rfl
    let dequeued := (s.dequeue webState c).push [.stop c, .eraseCoordinator webState]
    have hcalls : CallsHandler s (dequeued.executeCancelHandler c) c
        [.stop c, .eraseCoordinator webState] :=
      callsHandler_executeCancelHandler hw.cancelAction rfl (.inr rfl) rfl rfl rfl rfl rfl rfl
    have hcancelled : c ∈ (dequeued.executeCancelHandler c).cancelled := by
      rw [cancelled_executeCancelHandler]
      exact mem_append_right _ (mem_singleton_self c)
    refine h.calls hqueue hsettled hcalls hw.answers (.inl ⟨hcancelled, hpresented⟩) ?_ ?_ ?_
    · intro instr hi
      rcases mem_cons.1 hi with rfl | hi
      · refine ⟨fun he => absurd he Bool.false_ne_true, by simp, ?_, by simp, by simp⟩
        rintro d hd
        exact ⟨(Instr.stop.inj hd).symm, hcancelled⟩
      · rw [mem_singleton.1 hi]
        exact ⟨fun he => absurd he Bool.false_ne_true, by simp, by simp, by simp, by simp⟩
    · refine pairwise_cons.2 ⟨fun _ _ => ⟨rfl, fun he => absurd he Bool.false_ne_true⟩, ?_⟩
      exact pairwise_cons.2
        ⟨fun _ _ => ⟨rfl, fun he => absurd he Bool.false_ne_true⟩, h.stack.ordered⟩
    · exact fun hs => hpresented (h.screen.presented _ (hcalls.screen _ hs))

theorem dropPresentedWebState (h : AnswersInv s) (hnone : s.presentedDialogCoordinator = none) :
    AnswersInv s.dropPresentedWebState := by
  have hqueue := h.queue.dropPresentedFields
  rw [hnone, toList_none, append_nil, ← hnone] at hqueue
  have hdropped : AnswersInv { s with presentedDialogWebState := none } :=
    h.frame hqueue ⟨rfl, rfl, rfl, rfl, rfl, rfl, rfl, fun _ hs => hs⟩
  exact hdropped.push (h.settled_of_none hnone) (by simp [harmless]) (by simp)

/-- The presented dialog is answered, unless it was answered before. -/
theorem cancelAllDialogs (h : AnswersInv s) (hsettled : Settled s)
    (hanswers : CancelsUnanswered s .cancelAllDialogs) : AnswersInv s.cancelAllDialogs := by
  have hqueue := h.queue.cancelAllDialogs
  rw [DialogPresenter.cancelAllDialogs] at hqueue ⊢
  cases hpresented : s.presentedDialogCoordinator with
  | none => exact h.dropPresentedWebState hpresented
  | some c =>
    rw [hpresented] at hqueue
    have hiff := hanswers rfl c hpresented
    rcases (h.dialog c).presented hpresented with hw | hb | ⟨ha, hends⟩
    · have hcalls : CallsHandler s ((s.push [.stopPresented]).executeCancelHandler c) c
          [.stopPresented] :=
        callsHandler_executeCancelHandler hw.cancelAction rfl (.inl rfl) rfl rfl rfl rfl rfl rfl
      refine h.calls hqueue hsettled hcalls hw.answers
        (.inr ⟨hpresented, _, mem_singleton_self _, trivial⟩) ?_ ?_ ?_
      · intro instr hi
        rw [mem_singleton.1 hi]
        exact ⟨fun _ => ⟨hpresented, hw.cancelAction⟩, by simp, by simp, by simp, by simp⟩
      · refine pairwise_cons.2 ⟨fun below hi => ⟨rfl, fun _ => ?_⟩, h.stack.ordered⟩
        cases hending : below.ending with
        | false => rfl
        | true =>
          obtain ⟨d, hd, ha⟩ := h.stack.ending below hi hending
          obtain rfl := some.inj (hpresented.symm.trans hd)
          have hzero := hw.answers
          rw [ha.answers] at hzero
          cases hzero
      · intro hs
        have hset := hw.cancelAction
        rw [(h.screen.confirming c (hcalls.screen _ hs)).2] at hset
        cases hset
    · have hset := hiff.1 hb.answers
      rw [hb.cancelAction] at hset
      cases hset
    · -- the confirmation was tapped, and its handler cancels all dialogs
      have hfalse : (s.coordinator c).cancelAction = false := by
        cases hset : (s.coordinator c).cancelAction with
        | false => rfl
        | true =>
          have hzero := hiff.2 hset
          rw [ha.answers] at hzero
          cases hzero
      have hexec : (s.push [.stopPresented]).executeCancelHandler c =
          s.push [.stopPresented] := by
        have hfalse' : ((s.push [.stopPresented]).coordinator c).cancelAction = false := hfalse
        rw [executeCancelHandler, hfalse', if_neg Bool.false_ne_true]
        exact clearNoInteractionAction_of_false ha.noInteractionAction
      dsimp only at hqueue ⊢
      rw [hexec] at hqueue ⊢
      refine pushEnding hqueue (fun d _ => h.dialog d) h.stack h.screen hpresented ha rfl ?_
      intro instr hi
      cases hending : instr.ending with
      | false => rfl
      | true =>
        rw [hsettled instr hi hending c hpresented] at hfalse
        cases hfalse

theorem cancelQueued (h : AnswersInv s) (hsettled : Settled s) : AnswersInv s.cancelQueued := by
  rw [DialogPresenter.cancelQueued]
  cases hqueue : s.queuedWebStates with
  | nil => exact h
  | cons webState rest =>
    have hpushed : AnswersInv (s.push [.cancelQueued]) :=
      h.push hsettled (by simp [harmless]) (by simp)
    refine hpushed.cancelDialogForWebState ?_ fun _ => ?_
    · intro instr hi hending
      rcases mem_cons.1 hi with rfl | hi
      · cases hending
      · exact hsettled instr hi hending
    · show webState ∈ s.queuedWebStates
      rw [hqueue]
      exact mem_cons_self

/-! ## Stopping and dropping -/

section

omit [DecidableEq WebState]

/-- A coordinator whose dialog was answered is stopped. -/
theorem coordinator_stopped (s : DialogPresenter WebState) {c d : Nat} (hd : d ≠ c) :
    (s.stopped c).coordinator d = s.coordinator d :=
  if_neg hd

theorem noInteractionAction_stopped (s : DialogPresenter WebState) (c : Nat) :
    ((s.stopped c).coordinator c).noInteractionAction = false := by
  show (if c = c then { s.coordinator c with cancelAction := false, noInteractionAction := false }
    else s.coordinator c).noInteractionAction = false
  rw [if_pos rfl]

theorem cancelAction_stopped (s : DialogPresenter WebState) (c : Nat) :
    ((s.stopped c).coordinator c).cancelAction = false := by
  show (if c = c then { s.coordinator c with cancelAction := false, noInteractionAction := false }
    else s.coordinator c).cancelAction = false
  rw [if_pos rfl]

theorem screen_stopped (s : DialogPresenter WebState) (c : Nat) {screen : Screen}
    (hs : (s.stopped c).screen = some screen) : s.screen = some screen ∧ screen ≠ .alert c := by
  have hs' : (if s.screen = some (.alert c) then none else s.screen) = some screen := hs
  split at hs'
  · cases hs'
  · rename_i hne
    exact ⟨hs', fun heq => hne (heq ▸ hs')⟩

theorem stop_of_false {c : Nat} (hfalse : (s.coordinator c).noInteractionAction = false) :
    s.stop c = s.stopped c := by
  rw [stop, hfalse, if_neg Bool.false_ne_true]

end

/-- A dialog that was answered is stopped. -/
theorem stopped (h : AnswersInv s) {c : Nat} (hlt : c < s.requestCount)
    (hone : s.answerCount c = 1)
    (htail : ∀ instr ∈ s.stack.tail, instr.ending = true →
      s.presentedDialogCoordinator ≠ some c) : AnswersInv (s.stopped c) := by
  have hanswered : ∀ d, Answered s d → Answered (s.stopped c) d := by
    intro d ha
    by_cases hd : d = c
    · subst hd
      exact ⟨ha.answers, noInteractionAction_stopped s d⟩
    · exact ha.frame rfl (coordinator_stopped s hd)
  refine ⟨h.queue.stopped c, ?_, ?_, ?_⟩
  · intro d
    by_cases hd : d = c
    · subst hd
      have hold := h.dialog d
      refine ⟨hold.unrequested, ?_, ?_, hold.gone⟩
      · intro hd hc hs
        have hzero := (hold.queued hd hc hs).answers
        rw [hone] at hzero
        cases hzero
      · intro hp
        rcases hold.presented hp with hw | hb | ⟨ha, hends⟩
        · have hzero := hw.answers
          rw [hone] at hzero
          cases hzero
        · have hzero := hb.answers
          rw [hone] at hzero
          cases hzero
        · exact .inr (.inr ⟨hanswered d ha, hends⟩)
    · exact (h.dialog d).frame ⟨Iff.rfl, Iff.rfl, Iff.rfl, Iff.rfl, coordinator_stopped s hd,
        rfl, fun hs => (screen_stopped s c hs).1, fun _ hs => hs, fun _ _ _ hi => hi⟩
  · have hold := h.stack
    refine ⟨?_, ?_, hold.ordered, hold.tapped, ?_, hold.stopped_not_mem⟩
    · intro instr hi hending
      obtain ⟨d, hd, ha⟩ := hold.ending instr hi hending
      exact ⟨d, hd, hanswered d ha⟩
    · intro instr hi hending d hd
      have hne : d ≠ c := fun heq => htail instr hi hending (heq ▸ hd)
      rw [coordinator_stopped s hne]
      exact hold.ending_tail instr hi hending d hd
    · intro d hi
      obtain ⟨hc, hfalse⟩ := hold.stopping d hi
      refine ⟨hc, ?_⟩
      by_cases hd : d = c
      · subst hd
        exact noInteractionAction_stopped s d
      · rw [coordinator_stopped s hd]
        exact hfalse
  · constructor
    · exact fun screen hs => h.screen.presented screen (screen_stopped s c hs).1
    · intro d hs
      obtain ⟨hzero, hfalse⟩ := h.screen.confirming d (screen_stopped s c hs).1
      refine ⟨hzero, ?_⟩
      by_cases hd : d = c
      · subst hd
        exact cancelAction_stopped s d
      · rw [coordinator_stopped s hd]
        exact hfalse

/-- The presented dialog was answered, and is dropped. -/
theorem drop (hqueue : QueueInv s)
    (hdialog : ∀ d, s.presentedDialogCoordinator ≠ some d → DialogOk s d)
    (hstack : StackOk s) (hscreen : ScreenOk s)
    {c : Nat} (hpresented : s.presentedDialogCoordinator = some c) (hone : s.answerCount c = 1)
    (hnot : ∀ instr ∈ s.stack, instr.ending = false) :
    AnswersInv ({ s with
      presentedDialogWebState := none
      presentedDialogCoordinator := none
      ended := s.ended ++ [c] }.stopped c) := by
  have hdropped := hqueue.dropPresentedFields
  rw [hpresented] at hdropped
  have hshown : c ∈ s.shown := presented_mem_shown hqueue.toQueueOrdered hpresented
  have hlt : c < s.requestCount :=
    ((mem_coordinators hqueue.toQueueOrdered).1 (mem_append_left _ hshown)).1
  let released : DialogPresenter WebState :=
    { s with
      presentedDialogWebState := none
      presentedDialogCoordinator := none
      ended := s.ended ++ [c] }
  refine ⟨hdropped.stopped c, ?_, ?_, ?_⟩
  · intro d
    by_cases hd : d = c
    · subst hd
      exact ⟨fun hle => absurd hlt (Nat.not_lt.2 hle), fun _ _ hs => absurd hshown hs,
        (fun hp => nomatch hp), fun _ _ _ => hone⟩
    · have hne : s.presentedDialogCoordinator ≠ some d :=
        fun hp => hd (some.inj (hp.symm.trans hpresented))
      exact (hdialog d hne).frame ⟨Iff.rfl, Iff.rfl, Iff.rfl,
        iff_of_false (fun hp => nomatch hp) hne, coordinator_stopped released hd, rfl,
        fun hs => (screen_stopped released c hs).1, fun hp => absurd hp hne,
        fun hp => absurd hp hne⟩
  · refine ⟨?_, ?_, hstack.ordered, hstack.tapped, ?_, hstack.stopped_not_mem⟩
    · intro instr hi hending
      rw [hnot instr hi] at hending
      cases hending
    · exact fun _ _ _ _ hd => nomatch hd
    · intro d hi
      obtain ⟨hc, hfalse⟩ := hstack.stopping d hi
      refine ⟨hc, ?_⟩
      by_cases hd : d = c
      · subst hd
        exact noInteractionAction_stopped released d
      · rw [coordinator_stopped released hd]
        exact hfalse
  · -- the alert is dismissed, and no confirmation is shown for an answered dialog
    have hnone : ∀ screen, (released.stopped c).screen ≠ some screen := by
      intro screen hs
      obtain ⟨hs, hne⟩ := screen_stopped released c hs
      have hp := (hscreen.presented screen hs).symm.trans hpresented
      have heq : screen.coordinator = c := some.inj hp
      cases screen with
      | alert d => exact hne (congrArg Screen.alert heq)
      | confirmation d =>
        have hzero := (hscreen.confirming d hs).1
        rw [show d = c from heq, hone] at hzero
        cases hzero
    exact ⟨fun screen hs => absurd hs (hnone screen), fun d hs => absurd hs (hnone _)⟩

omit [DecidableEq WebState] in
theorem sameAnswers_setBlockingConfirmation (confirmation : Option Nat) :
    SameAnswers s (s.setBlockingConfirmationCoordinator confirmation) := by
  rw [setBlockingConfirmationCoordinator]
  cases s.blockingConfirmationCoordinator with
  | none => exact ⟨rfl, rfl, rfl, rfl, rfl, rfl, rfl, fun _ hs => hs⟩
  | some c =>
    refine ⟨rfl, rfl, rfl, rfl, rfl, rfl, rfl, fun screen hs => ?_⟩
    have hs' : (if s.screen = some (.confirmation c) then none else s.screen) = some screen := hs
    split at hs'
    · cases hs'
    · exact hs'

theorem setBlockingConfirmationCoordinator (h : AnswersInv s) (confirmation : Option Nat) :
    AnswersInv (s.setBlockingConfirmationCoordinator confirmation) :=
  h.frame (h.queue.setBlockingConfirmationCoordinator confirmation)
    (sameAnswers_setBlockingConfirmation confirmation)

theorem buttonTapped (h : AnswersInv s) (hnone : s.presentedDialogCoordinator = none) :
    AnswersInv s.buttonTapped := by
  have hset := h.setBlockingConfirmationCoordinator none
  rw [DialogPresenter.buttonTapped]
  split
  · exact hset.showNextDialog (by simpa using hnone)
  · exact hset

/-- The alert of a dialog is presented whose blocking option was not tapped. -/
theorem presentAlert (h : AnswersInv s) {c : Nat}
    (hpresented : s.presentedDialogCoordinator = some c) (hw : Waiting s c ∨ Answered s c) :
    AnswersInv (s.present (.alert c)) := by
  have hlt := (mem_coordinators h.queue.toQueueOrdered).1
    (mem_append_left _ (presented_mem_shown h.queue.toQueueOrdered hpresented))
  have hqueue : QueueInv (s.present (.alert c)) := h.queue.present hlt.1 (by simp)
  have hscreen : ∀ screen, (s.present (.alert c)).screen = some screen →
      s.screen = some screen ∨ screen = .alert c := by
    intro screen hs
    have hs' : s.screen.or (some (.alert c)) = some screen := hs
    cases hold : s.screen with
    | none =>
      rw [hold] at hs'
      exact .inr (some.inj hs').symm
    | some shown =>
      rw [hold] at hs'
      exact .inl hs'
  refine ⟨hqueue, ?_, ?_, ?_⟩
  · intro d
    by_cases hd : d = c
    · subst hd
      have hold := h.dialog d
      refine ⟨hold.unrequested, fun hlt hc hs => (hold.queued hlt hc hs).frame rfl rfl,
        fun hp => ?_, hold.gone⟩
      rcases hold.presented hp with hwait | hb | ⟨ha, hends⟩
      · exact .inl (hwait.frame rfl rfl)
      · rcases hw with hwait | ha
        · have hset := hwait.cancelAction
          rw [hb.cancelAction] at hset
          cases hset
        · have hzero := hb.answers
          rw [ha.answers] at hzero
          cases hzero
      · exact .inr (.inr ⟨ha.frame rfl rfl, hends⟩)
    · refine (h.dialog d).frame ⟨Iff.rfl, Iff.rfl, Iff.rfl, Iff.rfl, rfl, rfl, fun hs => ?_,
        fun _ hs => hs, fun _ _ _ hi => hi⟩
      exact (hscreen _ hs).resolve_right fun heq => hd (Screen.alert.inj heq)
  · have hold := h.stack
    refine ⟨fun instr hi hending => ?_, hold.ending_tail, hold.ordered, hold.tapped,
      hold.stopping, hold.stopped_not_mem⟩
    obtain ⟨d, hd, ha⟩ := hold.ending instr hi hending
    exact ⟨d, hd, ha.frame rfl rfl⟩
  · constructor
    · intro screen hs
      rcases hscreen screen hs with hs | rfl
      · exact h.screen.presented screen hs
      · exact hpresented
    · intro d hs
      exact h.screen.confirming d ((hscreen _ hs).resolve_right (by simp))

theorem start (h : AnswersInv s)
    (hw : ∀ c, s.presentedDialogCoordinator = some c → Waiting s c ∨ Answered s c) :
    AnswersInv s.start := by
  rw [DialogPresenter.start]
  cases hpresented : s.presentedDialogCoordinator with
  | none => exact h
  | some c =>
    dsimp only
    split
    · cases (s.coordinator c).startAction with
      | none => exact h.presentAlert hpresented (hw c hpresented)
      | some webState =>
        have hcounted : AnswersInv (s.dialogWasShown webState) :=
          h.frame (h.queue.dialogWasShown webState)
            ⟨rfl, rfl, rfl, rfl, rfl, rfl, rfl, fun _ hs => hs⟩
        refine hcounted.presentAlert hpresented ((hw c hpresented).imp ?_ ?_)
        · exact fun hwait => hwait.frame rfl rfl
        · exact fun ha => ha.frame rfl rfl
    · exact h

/-! ## Taps -/

omit [DecidableEq WebState] in
/-- An item of the alert or of the confirmation that calls the handler. -/
theorem callsHandler_tap (s : DialogPresenter WebState) (c : Nat)
    (instrs : List (Instr WebState)) (completion : Completion) :
    CallsHandler s
      ((({ s with screen := none }.clearNoInteractionAction c).push
        instrs).callCompletionHandler c completion) c instrs := by
  refine ⟨rfl, .inl rfl, rfl, rfl, fun d hd => if_neg hd, ?_, ?_, ?_, (fun _ hs => nomatch hs), rfl⟩
  · exact noInteractionAction_clear _ c
  · show (if c = c then { s.coordinator c with noInteractionAction := false }
      else s.coordinator c).cancelAction = _
    rw [if_pos rfl]
  · intro d
    rw [answerCount_call]
    rfl

section

variable (h : AnswersInv s)
include h

/-- The presented dialog is answered by a tap. -/
theorem answerTap (hstack : s.stack = []) {c : Nat}
    (hpresented : s.presentedDialogCoordinator = some c) (hzero : s.answerCount c = 0)
    {instrs : List (Instr WebState)} {completion : Completion}
    (hinstrs : instrs = [.buttonWasTapped c] ∨
      instrs = [.blockingOptionSelected, .buttonWasTapped c])
    (hqueue : QueueInv ((({ s with screen := none }.clearNoInteractionAction c).push
      instrs).callCompletionHandler c completion)) :
    AnswersInv ((({ s with screen := none }.clearNoInteractionAction c).push
      instrs).callCompletionHandler c completion) := by
  have hsettled : Settled s := by
    intro instr hi
    rw [hstack] at hi
    cases hi
  have hmem : ∀ instr ∈ instrs, instr = .buttonWasTapped c ∨ instr = .blockingOptionSelected := by
    rcases hinstrs with rfl | rfl <;> simp
  refine h.calls hqueue hsettled (callsHandler_tap s c instrs completion) hzero
    (.inr ⟨hpresented, .buttonWasTapped c, ?_, rfl⟩) ?_ ?_ (fun hs => nomatch hs)
  · rcases hinstrs with rfl | rfl <;> simp
  · intro instr hi
    rcases hmem instr hi with rfl | rfl
    · exact ⟨(fun he => nomatch he), fun d hd => (Instr.buttonWasTapped.inj hd).symm, by simp,
        by simp, by simp⟩
    · exact ⟨(fun he => nomatch he), by simp, by simp, by simp, by simp⟩
  · rw [hstack, append_nil]
    rcases hinstrs with rfl | rfl
    · exact pairwise_singleton _ _
    · refine pairwise_cons.2 ⟨fun _ _ => ⟨rfl, fun he => nomatch he⟩, ?_⟩
      exact pairwise_singleton _ _

/-- The blocking option is tapped: the dialog waits for its confirmation. -/
theorem blockingAction (hstack : s.stack = []) {c : Nat}
    (hpresented : s.presentedDialogCoordinator = some c) (hw : Waiting s c)
    (hqueue : QueueInv ((({ s with screen := none }.clearNoInteractionAction c).blockingAction
      c).alertDismissed c)) :
    AnswersInv ((({ s with screen := none }.clearNoInteractionAction c).blockingAction
      c).alertDismissed c) := by
  let dismissed := { s with screen := none }.clearNoInteractionAction c
  let t := (dismissed.blockingAction c).alertDismissed c
  have hconfirming := sameAnswers_setBlockingConfirmation (s := dismissed) (some c)
  have hscreen : ∀ screen, t.screen = some screen → screen = .confirmation c := by
    intro screen hs
    have hnone : (dismissed.setBlockingConfirmationCoordinator (some c)).screen = none := by
      cases hold : (dismissed.setBlockingConfirmationCoordinator (some c)).screen with
      | none => rfl
      | some shown => cases hconfirming.screen shown hold
    have hs' : (dismissed.blockingAction c).screen = some screen := hs
    rw [DialogPresenter.blockingAction] at hs'
    split at hs'
    · rw [present, hnone] at hs'
      exact (some.inj hs').symm
    · rw [hnone] at hs'
      cases hs'
  have hsame : (dismissed.blockingAction c).coordinator = dismissed.coordinator ∧
      (dismissed.blockingAction c).answers = s.answers ∧
      (dismissed.blockingAction c).stack = s.stack ∧
      (dismissed.blockingAction c).requestCount = s.requestCount ∧
      (dismissed.blockingAction c).cancelled = s.cancelled ∧
      (dismissed.blockingAction c).shown = s.shown ∧
      (dismissed.blockingAction c).presentedDialogCoordinator =
        s.presentedDialogCoordinator := by
    rw [DialogPresenter.blockingAction]
    split
    · exact ⟨hconfirming.coordinator, hconfirming.answers, hconfirming.stack,
        hconfirming.requestCount, hconfirming.cancelled, hconfirming.shown,
        hconfirming.presentedDialogCoordinator⟩
    · exact ⟨hconfirming.coordinator, hconfirming.answers, hconfirming.stack,
        hconfirming.requestCount, hconfirming.cancelled, hconfirming.shown,
        hconfirming.presentedDialogCoordinator⟩
  obtain ⟨hcoordinator, hanswers, hstack', hcount, hcancelled, hshown, hpresented'⟩ := hsame
  have hother : ∀ d, d ≠ c → t.coordinator d = s.coordinator d := by
    intro d hd
    show (if d = c then _ else (dismissed.blockingAction c).coordinator d) = _
    rw [if_neg hd, hcoordinator]
    exact if_neg hd
  have hself : (t.coordinator c).cancelAction = false ∧
      (t.coordinator c).noInteractionAction = false := by
    show (if c = c then _ else _ : AlertCoordinator WebState).cancelAction = false ∧
      (if c = c then _ else _ : AlertCoordinator WebState).noInteractionAction = false
    rw [if_pos rfl]
    exact ⟨rfl, rfl⟩
  have hcountOf : ∀ d, t.answerCount d = s.answerCount d := by
    intro d
    show ((dismissed.blockingAction c).answers.map Prod.fst).count d = _
    rw [hanswers, answerCount]
  have hempty : t.stack = [] := hstack'.trans hstack
  refine ⟨hqueue, ?_, ?_, ?_⟩
  · intro d
    by_cases hd : d = c
    · subst hd
      have hold := h.dialog d
      refine ⟨?_, ?_, fun _ => .inr (.inl ⟨?_, hself.1, hself.2, ?_, ?_⟩), ?_⟩
      · intro hle
        exact (hcountOf d).trans (hold.unrequested (hcount ▸ hle))
      · intro _ _ hs
        have hmem := presented_mem_shown h.queue.toQueueOrdered hpresented
        exact absurd ((Eq.to_iff (congrArg (d ∈ ·) hshown)).2 hmem) hs
      · exact (hcountOf d).trans hw.answers
      · intro hs
        cases hscreen _ hs
      · intro hi
        cases (hempty ▸ hi : Instr.start ∈ ([] : List (Instr WebState)))
      · exact fun _ _ hne => absurd (hpresented'.trans hpresented) hne
    · refine (h.dialog d).frame ⟨?_, ?_, ?_, ?_, hother d hd, hcountOf d, ?_, ?_, ?_⟩
      · exact Eq.to_iff (congrArg (d < ·) hcount)
      · exact Eq.to_iff (congrArg (d ∈ ·) hcancelled)
      · exact Eq.to_iff (congrArg (d ∈ ·) hshown)
      · exact Eq.to_iff (congrArg (· = some d) hpresented')
      · intro hs
        cases hscreen _ hs
      · intro _ hi
        cases (hempty ▸ hi : Instr.start ∈ ([] : List (Instr WebState)))
      · intro _ instr _ hi
        rw [hstack] at hi
        cases hi
  · constructor
    all_goals rw [hempty]
    · simp
    · simp
    · exact .nil
    · simp
    · simp
    · simp
  · constructor
    · intro screen hs
      rw [hscreen screen hs]
      exact hpresented'.trans hpresented
    · intro d hs
      obtain rfl := Screen.confirmation.inj (hscreen _ hs)
      exact ⟨(hcountOf d).trans hw.answers, hself.1⟩

theorem tapItem (hstack : s.stack = []) (item : AlertItem) : AnswersInv (s.tapItem item) := by
  have hqueue := h.queue.tapItem item
  rw [DialogPresenter.tapItem] at hqueue ⊢
  split at hqueue
  · rename_i c hscreen
    have hpresented := h.screen.presented _ hscreen
    have hw : Waiting s c := by
      rcases (h.dialog c).presented hpresented with hw | hb | ⟨-, instr, hi, -⟩
      · exact hw
      · exact absurd hscreen hb.screen
      · rw [hstack] at hi
        cases hi
    cases item with
    | ok texts => exact h.answerTap hstack hpresented hw.answers (.inl rfl) hqueue
    | cancel => exact h.answerTap hstack hpresented hw.answers (.inl rfl) hqueue
    | blockingOption => exact h.blockingAction hstack hpresented hw hqueue
  · exact h

theorem tapConfirmation (hstack : s.stack = []) (item : ConfirmationItem) :
    AnswersInv (s.tapConfirmation item) := by
  have hqueue := h.queue.tapConfirmation item
  rw [DialogPresenter.tapConfirmation] at hqueue ⊢
  split at hqueue
  · rename_i c hscreen
    have hpresented : s.presentedDialogCoordinator = some c := h.screen.presented _ hscreen
    have hzero := (h.screen.confirming c hscreen).1
    dsimp only at hqueue ⊢
    rw [if_pos hpresented] at hqueue ⊢
    cases item with
    | blockingOption => exact h.answerTap hstack hpresented hzero (.inr rfl) hqueue
    | cancel => exact h.answerTap hstack hpresented hzero (.inl rfl) hqueue
  · exact h

/-! ## Every step -/

/-- An instruction that ends no dialog is taken off. -/
theorem pop {instr : Instr WebState} {rest : List (Instr WebState)}
    (hstack : s.stack = instr :: rest) (herase : ∀ webState, instr ≠ .eraseCoordinator webState)
    (hends : ∀ d, s.presentedDialogCoordinator = some d → ¬instr.Ends d) :
    AnswersInv { s with stack := rest } where
  queue := h.queue.pop hstack herase
  dialog d := (h.dialog d).pop hstack (hends d)
  stack := h.stack.pop hstack
  screen := ⟨h.screen.presented, h.screen.confirming⟩

variable {rest : List (Instr WebState)}

/-- What is below an instruction is settled. -/
theorem settled_pop (hstack : s.stack = instr :: rest) : Settled { s with stack := rest } := by
  intro other hi hending
  refine h.stack.ending_tail other ?_ hending
  rw [hstack]
  exact hi

/-- Below an instruction that ends the presented dialog there is no other. -/
theorem not_ending_rest (hstack : s.stack = instr :: rest)
    (hending : instr.ending = true) : ∀ other ∈ rest, other.ending = false := by
  have hordered := h.stack.ordered
  rw [hstack, pairwise_cons] at hordered
  exact fun other hi => (hordered.1 other hi).2 hending

theorem resumeStopPresented (hstack : s.stack = .stopPresented :: rest) :
    AnswersInv ({ s with stack := rest }.stopPresented) := by
  obtain ⟨c, hpresented, ha⟩ := h.stack.ending _ (hstack ▸ mem_cons_self) rfl
  have hnot := h.not_ending_rest hstack rfl
  let popped : DialogPresenter WebState := { s with stack := rest }
  have hqueue : QueueInv popped := h.queue.pop hstack (by simp)
  have hpushed : AnswersInv (popped.push [.dropPresented]) := by
    refine pushEnding (hqueue.push (by simp [Instr.plain]))
      (fun d hd => (h.dialog d).pop hstack fun hp => absurd hp hd) (h.stack.pop hstack)
      ⟨h.screen.presented, h.screen.confirming⟩ hpresented (ha.frame rfl rfl) rfl hnot
  have hlt := (mem_coordinators hqueue.toQueueOrdered).1
    (mem_append_left _ (presented_mem_shown hqueue.toQueueOrdered hpresented))
  have hstopped : AnswersInv ((popped.push [.dropPresented]).stopped c) := by
    refine hpushed.stopped hlt.1 ha.answers fun instr hi hending => ?_
    rw [hnot instr hi] at hending
    cases hending
  have hstop : (popped.push [.dropPresented]).stop c = (popped.push [.dropPresented]).stopped c :=
    stop_of_false ha.noInteractionAction
  rw [stopPresented]
  split
  · next hnone => cases hnone.symm.trans hpresented
  · next d hsome =>
    obtain rfl := some.inj (hpresented.symm.trans hsome)
    show AnswersInv ((popped.push [.dropPresented]).stop c)
    rw [hstop]
    exact hstopped

theorem resumeDropPresented (hstack : s.stack = .dropPresented :: rest) :
    AnswersInv ({ s with stack := rest }.dropPresented) := by
  obtain ⟨c, hpresented, ha⟩ := h.stack.ending _ (hstack ▸ mem_cons_self) rfl
  let popped : DialogPresenter WebState := { s with stack := rest }
  have hdropped := drop (s := popped) (h.queue.pop hstack (by simp))
    (fun d hd => (h.dialog d).pop hstack fun hp => absurd hp hd) (h.stack.pop hstack)
    ⟨h.screen.presented, h.screen.confirming⟩ hpresented ha.answers
    (h.not_ending_rest hstack rfl)
  rw [dropPresented]
  have hfalse : (popped.coordinator c).noInteractionAction = false := ha.noInteractionAction
  simp only [hpresented]
  rw [hfalse, if_neg Bool.false_ne_true]
  exact hdropped.dropPresentedWebState rfl

theorem resumeButtonWasTapped {c : Nat} {rest : List (Instr WebState)}
    (hstack : s.stack = .buttonWasTapped c :: rest) :
    AnswersInv ({ s with stack := rest }.buttonWasTapped c) := by
  have hmem : .buttonWasTapped c ∈ s.stack := hstack ▸ mem_cons_self
  have hrest : ∀ instr ∈ rest, instr.ending = false := by
    have hordered := h.stack.ordered
    rw [hstack, pairwise_cons] at hordered
    exact fun instr hi => nomatch (hordered.1 instr hi).1
  let popped : DialogPresenter WebState := { s with stack := rest }
  have hqueue : QueueInv popped := h.queue.pop hstack (by simp)
  show AnswersInv (popped.buttonWasTapped c)
  rw [buttonWasTapped]
  cases hpresented : popped.presentedDialogCoordinator with
  | none =>
    have hpopped : AnswersInv popped :=
      h.pop hstack (by simp) fun d hd => absurd (hpresented.symm.trans hd) (by simp)
    have hcleared := hqueue.dropPresentedFields
    rw [show popped.presentedDialogCoordinator = none from hpresented, toList_none,
      append_nil] at hcleared
    exact (hpopped.frame hcleared
      ⟨rfl, rfl, rfl, hpresented.symm, rfl, rfl, rfl, fun _ hs => hs⟩).buttonTapped rfl
  | some presented =>
    dsimp only
    split
    · rename_i heq
      subst heq
      have hfalse : (popped.coordinator c).noInteractionAction = false :=
        (h.queue.tapped c (.inl hmem)).2
      rw [hfalse, if_neg Bool.false_ne_true]
      have hdropped := drop (s := popped) hqueue
        (fun d hd => (h.dialog d).pop hstack fun hp => absurd hp hd) (h.stack.pop hstack)
        ⟨h.screen.presented, h.screen.confirming⟩ hpresented (h.stack.tapped c hmem) hrest
      exact hdropped.buttonTapped rfl
    · rename_i hne
      refine h.pop hstack (by simp) fun d hd hends => hne ?_
      rw [show c = d from hends]
      exact some.inj (hd.symm.trans hpresented)

theorem resume : AnswersInv s.resume := by
  rw [DialogPresenter.resume]
  cases hstack : s.stack with
  | nil => exact h
  | cons instr rest =>
    have hmem : instr ∈ s.stack := hstack ▸ mem_cons_self
    have hordered := h.queue.toQueueOrdered
    cases instr with
    | client => exact h.pop hstack (by simp) fun _ _ => id
    | stop c =>
      have hpopped := h.pop hstack (by simp) fun _ _ => id
      obtain ⟨hcancelled, hfalse⟩ := h.stack.stopping c hmem
      have hlt := h.queue.cancelled_lt c hcancelled
      have hpresented : s.presentedDialogCoordinator ≠ some c := by
        intro hp
        have hshown := presented_mem_shown hordered hp
        exact ((mem_coordinators hordered).1 (mem_append_left _ hshown)).2
          hcancelled
      have hone := (h.dialog c).gone hlt (.inl hcancelled) hpresented
      have hstop : { s with stack := rest }.stop c = { s with stack := rest }.stopped c :=
        stop_of_false hfalse
      show AnswersInv ({ s with stack := rest }.stop c)
      rw [hstop]
      exact hpopped.stopped hlt hone fun _ _ _ => hpresented
    | stopped c => exact absurd hmem (h.stack.stopped_not_mem c)
    | eraseCoordinator webState =>
      exact ofSame (fun d => (h.dialog d).pop hstack fun _ => id) (h.stack.pop hstack)
        ⟨h.screen.presented, h.screen.confirming⟩ (h.queue.popErase hstack)
        ⟨rfl, rfl, rfl, rfl, rfl, rfl, rfl, fun _ hs => hs⟩
    | stopPresented => exact h.resumeStopPresented hstack
    | dropPresented => exact h.resumeDropPresented hstack
    | dropPresentedWebState => exact absurd hmem h.queue.dropPresentedWebState_not_mem
    | cancelQueued =>
      exact (h.pop hstack (by simp) fun _ _ => id).cancelQueued (h.settled_pop hstack)
    | start =>
      refine (h.pop hstack (by simp) fun _ _ => id).start fun c hp => ?_
      rcases (h.dialog c).presented hp with hw | hb | ⟨ha, -⟩
      · exact .inl (hw.frame rfl rfl)
      · exact absurd hmem hb.start
      · exact .inr (ha.frame rfl rfl)
    | blockingOptionSelected =>
      have hpopped := h.pop hstack (by simp) fun _ _ => id
      exact hpopped.frame hpopped.queue.ofEnvironment
        ⟨rfl, rfl, rfl, rfl, rfl, rfl, rfl, fun _ hs => hs⟩
    | buttonWasTapped c => exact h.resumeButtonWasTapped hstack
    | buttonTapped => exact absurd hmem h.queue.buttonTapped_not_mem

theorem setActive {active : Bool}
    (hcan : s.active = active ∨ s.CanTryToPresent) : AnswersInv (s.setActive active) := by
  rw [DialogPresenter.setActive]
  split
  · exact h
  · rename_i hchange
    have hqueue : QueueInv { s with active := active } :=
      h.queue.frame ⟨rfl, rfl, rfl, rfl, rfl, rfl, rfl, rfl⟩ (fun _ _ => rfl)
        (fun _ hs => hs) (fun _ hc => hc)
    have hset := h.frame hqueue ⟨rfl, rfl, rfl, rfl, rfl, rfl, rfl, fun _ hs => hs⟩
    exact hset.tryToPresent (hcan.resolve_left hchange)

theorem step (op : Op WebState) (pre : s.Pre op)
    (hanswers : CancelsUnanswered s op) : AnswersInv (s.step op) := by
  cases op with
  | runJavaScriptAlertPanel webState => exact h.request pre rfl rfl
  | runJavaScriptConfirmPanel webState => exact h.request pre rfl rfl
  | runJavaScriptTextInputPanel webState => exact h.request pre rfl rfl
  | runAuthDialog webState => exact h.request pre rfl rfl
  | cancelDialogForWebState webState =>
    exact h.cancelDialogForWebState (h.settled pre.1) pre.2.2
  | cancelAllDialogs => exact h.cancelAllDialogs (h.settled pre) hanswers
  | setActive active => exact h.setActive pre.2
  | tryToPresent => exact h.tryToPresent pre.2
  | tapItem item => exact h.tapItem pre.1 item
  | tapConfirmation item => exact h.tapConfirmation pre.1 item
  | setPresenting presenting =>
    exact h.frame h.queue.ofEnvironment ⟨rfl, rfl, rfl, rfl, rfl, rfl, rfl, fun _ hs => hs⟩
  | setViewInWindow viewInWindow =>
    exact h.frame h.queue.ofEnvironment ⟨rfl, rfl, rfl, rfl, rfl, rfl, rfl, fun _ hs => hs⟩
  | navigationItemCommitted webState =>
    exact h.frame h.queue.ofEnvironment ⟨rfl, rfl, rfl, rfl, rfl, rfl, rfl, fun _ hs => hs⟩
  | resume => exact h.resume

end

end AnswersInv

/-- **Dialogs are answered exactly once** in every state of a run in which all dialogs are
cancelled only while the presented one will be answered by it if and only if it was not
answered. -/
theorem answered_exactly_once {ops : List (Op WebState)} (hlegal : machine.Legal init ops)
    (hcancels : machine.Along CancelsUnanswered init ops) :
    ∀ before, before <+: ops → AnsweredOnce (machine.run init before) := by
  intro before hinitial
  have hboth := (machine.along_and hlegal hcancels).of_isPrefix hinitial
  have hinv : AnswersInv (machine.run init before) :=
    Machine.run_invariant (fun s op h hop => h.step op hop.1 hop.2) AnswersInv.init hboth
  exact hinv.answeredOnce

/-- The second dialog of a web state has the blocking option, which is tapped. -/
def blockingOptionTapped : List (Op Nat) :=
  [.setActive true, .runJavaScriptAlertPanel 1, .resume, .resume, .tapItem (.ok []), .resume,
    .resume, .runJavaScriptConfirmPanel 1, .resume, .resume, .tapItem .blockingOption]

/-- The confirmation answers the second dialog; the next one is cancelled. -/
theorem confirmed_answered_once :
    AnsweredOnce (machine.run init (blockingOptionTapped ++
      [.tapConfirmation .blockingOption, .resume, .resume, .resume,
        .runAuthDialog 2, .resume, .resume, .cancelAllDialogs, .resume, .resume, .resume,
        .resume])) :=
  answered_exactly_once (by decide +kernel) (by decide +kernel) _ prefix_rfl

/-- All dialogs are cancelled while the confirmation is shown. Tapping it does nothing: the
coordinator is gone, and had lost its cancel action when the blocking option was tapped. -/
theorem cancelled_while_confirming_not_answered :
    machine.Legal init (blockingOptionTapped ++
        [.cancelAllDialogs, .resume, .resume, .resume, .tapConfirmation .cancel, .resume]) ∧
      ¬AnsweredOnce (machine.run init (blockingOptionTapped ++
        [.cancelAllDialogs, .resume, .resume, .resume, .tapConfirmation .cancel, .resume])) := by
  refine ⟨by decide +kernel, fun h => ?_⟩
  have hone := h.answered 1 (by decide +kernel) (by decide +kernel) (by decide +kernel)
    (by decide +kernel)
  exact absurd hone (by decide +kernel)

end DialogPresenter

end ChromiumIos
