import ChromiumIos.Lib.Keyed
import ChromiumIos.Lib.Machine

/-!
# DialogPresenter

`dialog_presenter.mm` with `alert_coordinator.mm` and
`javascript_dialog_blocking_util.mm`: the dialogs of all web states are queued and
presented one after the other.

A completion handler, and the delegate when it is told that a dialog will be shown,
may call the presenter again. What remains to be done of the calls in progress is a
stack of `Instr`; `Instr.client` on top of it means that code of the client runs.
`Op.resume` executes the instruction on top, and all other calls are made from the
client's code or when no call is in progress.

A coordinator is a number, the requests being numbered from zero. What happened to
them is recorded next to the state: `cancelled` holds those taken out of the queue,
`shown` those that were presented, `ended` those that are not any longer.
-/

namespace ChromiumIos

open Lib

namespace DialogPresenter

inductive DialogKind
  | alert
  | confirm
  | textInput
  | auth
deriving DecidableEq, Repr

/-- What a completion handler is called with. -/
inductive Completion
  | alert
  | confirm (isConfirmed : Bool)
  | textInput (input : Option String)
  | auth (credential : Option (String × String))
deriving DecidableEq, Repr

/-- The completion of `confirmAction`; `texts` is what the text fields hold. -/
def confirmCompletion (texts : List String) : DialogKind → Completion
  | .alert => .alert
  | .confirm => .confirm true
  | .textInput => .textInput (some (texts.getD 0 ""))
  | .auth => .auth (some (texts.getD 0 "", texts.getD 1 ""))

/-- The completion of `cancelAction`. -/
def cancelCompletion : DialogKind → Completion
  | .alert => .alert
  | .confirm => .confirm false
  | .textInput => .textInput none
  | .auth => .auth none

/-- The actions are blocks that call the completion handler, or nil. -/
structure AlertCoordinator (WebState : Type) where
  kind : DialogKind := .alert
  /-- The web state whose dialogs are counted when the alert is started. -/
  startAction : Option WebState := none
  blockingOption : Bool := false
  cancelAction : Bool := false
  noInteractionAction : Bool := false
deriving DecidableEq, Repr

structure JavaScriptDialogBlockingState where
  dialogCount : Nat := 0
  shouldBlockDialogs : Bool := false
deriving DecidableEq, Repr

/-- What the base view controller presents. -/
inductive Screen
  | alert (coordinator : Nat)
  /-- The confirmation of the blocking option of a dialog. -/
  | confirmation (coordinator : Nat)
deriving DecidableEq, Repr

/-- What remains of a call. -/
inductive Instr (WebState : Type)
  /-- Until the client's code returns. -/
  | client
  | stop (coordinator : Nat)
  /-- `stop` after the no-interaction action. -/
  | stopped (coordinator : Nat)
  | eraseCoordinator (webState : WebState)
  | stopPresented
  | dropPresented
  | dropPresentedWebState
  | cancelQueued
  | start
  | blockingOptionSelected
  | buttonWasTapped (coordinator : Nat)
  /-- `buttonWasTappedForCoordinator:` after the coordinator is released. -/
  | buttonTapped
deriving DecidableEq, Repr

inductive AlertItem
  | ok (texts : List String)
  | cancel
  | blockingOption
deriving DecidableEq, Repr

inductive ConfirmationItem
  | blockingOption
  | cancel
deriving DecidableEq, Repr

end DialogPresenter

open DialogPresenter in
structure DialogPresenter (WebState : Type) where
  active : Bool
  queuedWebStates : List WebState
  /-- Null under the keys that were only looked up. -/
  dialogCoordinatorsForWebStates : Keyed WebState (Option Nat)
  presentedDialogWebState : Option WebState
  presentedDialogCoordinator : Option Nat
  /-- The dialog whose blocking option is to be confirmed. -/
  blockingConfirmationCoordinator : Option Nat
  coordinator : Nat → AlertCoordinator WebState
  blockingState : WebState → JavaScriptDialogBlockingState
  /-- `delegate.presenting`. -/
  presenting : Bool
  viewInWindow : Bool
  screen : Option Screen
  stack : List (Instr WebState)
  requestCount : Nat
  cancelled : List Nat
  shown : List Nat
  ended : List Nat
  answers : List (Nat × DialogPresenter.Completion)

namespace DialogPresenter

variable {WebState : Type}

def init : DialogPresenter WebState where
  active := false
  queuedWebStates := []
  dialogCoordinatorsForWebStates := .empty
  presentedDialogWebState := none
  presentedDialogCoordinator := none
  blockingConfirmationCoordinator := none
  coordinator _ := {}
  blockingState _ := {}
  presenting := false
  viewInWindow := true
  screen := none
  stack := []
  requestCount := 0
  cancelled := []
  shown := []
  ended := []
  answers := []

variable (s : DialogPresenter WebState)

def push (instrs : List (Instr WebState)) : DialogPresenter WebState :=
  { s with stack := instrs ++ s.stack }

variable (c : Nat)

/-- Calls the completion handler of a dialog, which is code of the client. -/
def callCompletionHandler (completion : Completion) : DialogPresenter WebState :=
  { s with answers := s.answers ++ [(c, completion)] }.push [.client]

/-! ## AlertCoordinator -/

def updateCoordinator
    (f : AlertCoordinator WebState → AlertCoordinator WebState) : DialogPresenter WebState :=
  { s with coordinator := fun d => if d = c then f (s.coordinator d) else s.coordinator d }

def clearNoInteractionAction : DialogPresenter WebState :=
  s.updateCoordinator c fun a => { a with noInteractionAction := false }

/-- The `cancelAction` property stays as it is. -/
def executeCancelHandler : DialogPresenter WebState :=
  if (s.coordinator c).cancelAction then
    (s.clearNoInteractionAction c).callCompletionHandler c
      (cancelCompletion (s.coordinator c).kind)
  else
    s.clearNoInteractionAction c

def alertDismissed : DialogPresenter WebState :=
  s.updateCoordinator c fun a => { a with cancelAction := false, noInteractionAction := false }

/-- `dismissViewControllerAnimated:` if `screen` is what is presented. -/
def dismiss (screen : Screen) : DialogPresenter WebState :=
  { s with screen := if s.screen = some screen then none else s.screen }

def stopped : DialogPresenter WebState :=
  (s.dismiss (.alert c)).alertDismissed c

/-- Also called when a coordinator is deallocated. -/
def stop : DialogPresenter WebState :=
  if (s.coordinator c).noInteractionAction then
    -- the action is still set while it runs
    (s.push [.stopped c]).callCompletionHandler c (cancelCompletion (s.coordinator c).kind)
  else
    s.stopped c

/-- `JavaScriptDialogWasShown`. -/
def dialogWasShown [DecidableEq WebState] (s : DialogPresenter WebState) (webState : WebState) :
    DialogPresenter WebState :=
  let blockingState := fun other =>
    if other = webState then
      { s.blockingState other with dialogCount := (s.blockingState other).dialogCount + 1 }
    else s.blockingState other
  { s with blockingState := blockingState }

/-- `presentViewController:`, which is refused while something else is presented. -/
def present (screen : Screen) : DialogPresenter WebState :=
  { s with screen := s.screen.or (some screen) }

/-! ## The queue -/

section Queue

variable [DecidableEq WebState] (s : DialogPresenter WebState)

/-- The coordinator that is stored for a web state. -/
def stored (webState : WebState) : Option Nat :=
  (s.dialogCoordinatorsForWebStates.get? webState).join

/-- A look-up with `operator[]` creates an entry. -/
def lookUp (webState : WebState) : DialogPresenter WebState :=
  { s with
    dialogCoordinatorsForWebStates :=
      s.dialogCoordinatorsForWebStates.set webState (s.stored webState) }

/-- `[self.presentedDialogCoordinator start]`. -/
def start : DialogPresenter WebState :=
  match s.presentedDialogCoordinator with
  | none => s
  | some c =>
    if s.viewInWindow then
      match (s.coordinator c).startAction with
      | none => s.present (.alert c)
      | some webState => (s.dialogWasShown webState).present (.alert c)
    else
      s

/-- Makes the dialog at the front of the queue the presented one. -/
def presentFront (webState : WebState) (rest : List WebState) : DialogPresenter WebState :=
  { s with
    presentedDialogWebState := some webState
    queuedWebStates := rest
    presentedDialogCoordinator := s.stored webState
    dialogCoordinatorsForWebStates := s.dialogCoordinatorsForWebStates.erase webState
    shown := s.shown ++ (s.stored webState).toList }

/-- The queue is not empty when this is called. -/
def showNextDialog : DialogPresenter WebState :=
  match s.queuedWebStates with
  | [] => s
  -- the delegate is told, and may call the presenter, before the start
  | webState :: rest => (s.presentFront webState rest).push [.client, .start]

def enqueue (c : Nat) (webState : WebState) : DialogPresenter WebState :=
  { s with
    queuedWebStates := s.queuedWebStates ++ [webState]
    dialogCoordinatorsForWebStates := s.dialogCoordinatorsForWebStates.set webState (some c) }

def addDialogCoordinator (c : Nat) (webState : WebState) : DialogPresenter WebState :=
  if s.active ∧ s.presentedDialogCoordinator = none ∧ ¬s.presenting then
    (s.enqueue c webState).showNextDialog
  else
    s.enqueue c webState

def dequeue (webState : WebState) (dialogToCancel : Nat) : DialogPresenter WebState :=
  { s with
    queuedWebStates := s.queuedWebStates.erase webState
    cancelled := s.cancelled ++ [dialogToCancel] }

def cancelDialogForWebState (webState : WebState) : DialogPresenter WebState :=
  match s.stored webState with
  | none => s.lookUp webState
  | some dialogToCancel =>
    ((s.dequeue webState dialogToCancel).push
      [.stop dialogToCancel, .eraseCoordinator webState]).executeCancelHandler dialogToCancel

def cancelQueued (s : DialogPresenter WebState) : DialogPresenter WebState :=
  match s.queuedWebStates with
  | [] => s
  | webState :: _ => (s.push [.cancelQueued]).cancelDialogForWebState webState

def dropPresentedWebState : DialogPresenter WebState :=
  { s with presentedDialogWebState := none }.push [.cancelQueued]

/-- `self.presentedDialogCoordinator = nil`, then the same for the web state. -/
def dropPresented : DialogPresenter WebState :=
  match s.presentedDialogCoordinator with
  | none => s.dropPresentedWebState
  | some c =>
    let released := { s with presentedDialogCoordinator := none, ended := s.ended ++ [c] }
    if (s.coordinator c).noInteractionAction then
      -- deallocation stops the coordinator before the web state is reset
      (released.push [.dropPresentedWebState]).stop c
    else
      (released.stopped c).dropPresentedWebState

def stopPresented : DialogPresenter WebState :=
  match s.presentedDialogCoordinator with
  | none => s.push [.dropPresented]
  | some c => (s.push [.dropPresented]).stop c

def cancelAllDialogs : DialogPresenter WebState :=
  match s.presentedDialogCoordinator with
  | none => s.dropPresentedWebState
  | some c => (s.push [.stopPresented]).executeCancelHandler c

def tryToPresent : DialogPresenter WebState :=
  if s.blockingConfirmationCoordinator = none ∧ s.active ∧ s.queuedWebStates ≠ [] ∧
      ¬s.presenting then
    s.showNextDialog
  else
    s

def setActive (active : Bool) : DialogPresenter WebState :=
  if s.active = active then s else { s with active := active }.tryToPresent

/-- Sets the confirmation; that of an earlier dialog is stopped when it is released. -/
def setBlockingConfirmationCoordinator (confirmation : Option Nat) : DialogPresenter WebState :=
  match s.blockingConfirmationCoordinator with
  | none => { s with blockingConfirmationCoordinator := confirmation }
  | some c =>
    { s with blockingConfirmationCoordinator := confirmation }.dismiss (.confirmation c)

def buttonTapped : DialogPresenter WebState :=
  -- whether the presenter is active is not asked here
  if s.queuedWebStates ≠ [] ∧ ¬s.presenting then
    (s.setBlockingConfirmationCoordinator none).showNextDialog
  else
    s.setBlockingConfirmationCoordinator none

/-- The coordinator is a weak reference: the presenter alone keeps the coordinators
of the dialogs that were shown. -/
def buttonWasTapped (c : Nat) : DialogPresenter WebState :=
  match s.presentedDialogCoordinator with
  -- both are nil
  | none => { s with presentedDialogWebState := none }.buttonTapped
  | some presented =>
    if c = presented then
      let released :=
        { s with
          presentedDialogWebState := none
          presentedDialogCoordinator := none
          ended := s.ended ++ [c] }
      if (s.coordinator c).noInteractionAction then
        (released.push [.buttonTapped]).stop c
      else
        (released.stopped c).buttonTapped
    else
      s

/-! ## The requests -/

/-- `ShouldShowDialogBlockingOption`. -/
def shouldShowDialogBlockingOption (webState : WebState) : Bool :=
  1 ≤ (s.blockingState webState).dialogCount

def setUpBlockingOption (webState : WebState)
    (a : AlertCoordinator WebState) : AlertCoordinator WebState :=
  { a with
    startAction := some webState
    blockingOption := s.shouldShowDialogBlockingOption webState }

def makeCoordinator (a : AlertCoordinator WebState) : DialogPresenter WebState :=
  { s.updateCoordinator s.requestCount fun _ => a with requestCount := s.requestCount + 1 }

/-- Makes a coordinator and queues it. -/
def request (webState : WebState) (a : AlertCoordinator WebState) : DialogPresenter WebState :=
  (s.makeCoordinator a).addDialogCoordinator s.requestCount webState

/-- A coordinator of a kind with the cancel handlers set. -/
def alertCoordinator (kind : DialogKind) : AlertCoordinator WebState :=
  { kind := kind, cancelAction := true, noInteractionAction := true }

def runJavaScriptAlertPanel (webState : WebState) : DialogPresenter WebState :=
  s.request webState (s.setUpBlockingOption webState (alertCoordinator .alert))

def runJavaScriptConfirmPanel (webState : WebState) : DialogPresenter WebState :=
  s.request webState (s.setUpBlockingOption webState (alertCoordinator .confirm))

def runJavaScriptTextInputPanel (webState : WebState) : DialogPresenter WebState :=
  s.request webState (s.setUpBlockingOption webState (alertCoordinator .textInput))

def runAuthDialog (webState : WebState) : DialogPresenter WebState :=
  s.request webState (alertCoordinator .auth)

/-! ## Taps -/

/-- The block of the blocking option. -/
def blockingAction (c : Nat) : DialogPresenter WebState :=
  let confirming := s.setBlockingConfirmationCoordinator (some c)
  if s.viewInWindow then confirming.present (.confirmation c) else confirming

/-- The handler of an item of the alert, which is dismissed before. After the handlers of
OK and cancel, `alertDismissed` is sent to a coordinator that is no longer there. -/
def tapItem (item : AlertItem) : DialogPresenter WebState :=
  match s.screen with
  | some (.alert c) =>
    let dismissed := { s with screen := none }.clearNoInteractionAction c
    match item with
    | .ok texts =>
      (dismissed.push [.buttonWasTapped c]).callCompletionHandler c
        (confirmCompletion texts (s.coordinator c).kind)
    | .cancel =>
      (dismissed.push [.buttonWasTapped c]).callCompletionHandler c
        (cancelCompletion (s.coordinator c).kind)
    | .blockingOption => (dismissed.blockingAction c).alertDismissed c
  | _ => s

/-- The handlers of the confirmation. They hold the `cancelAction` of the dialog, which
does nothing if its coordinator is gone. -/
def tapConfirmation (item : ConfirmationItem) : DialogPresenter WebState :=
  match s.screen with
  | some (.confirmation c) =>
    let dismissed := { s with screen := none }
    let rest :=
      match item with
      | .blockingOption => [.blockingOptionSelected, .buttonWasTapped c]
      | .cancel => [.buttonWasTapped c]
    if s.presentedDialogCoordinator = some c then
      ((dismissed.clearNoInteractionAction c).push rest).callCompletionHandler c
        (cancelCompletion (s.coordinator c).kind)
    else
      dismissed.push rest
  | _ => s

/-- `DialogBlockingOptionSelected` for the presented web state. -/
def blockingOptionSelected : DialogPresenter WebState :=
  let blockingState := fun webState =>
    if s.presentedDialogWebState = some webState then
      { s.blockingState webState with shouldBlockDialogs := true }
    else s.blockingState webState
  { s with blockingState := blockingState }

def navigationItemCommitted (webState : WebState) : DialogPresenter WebState :=
  { s with
    blockingState := fun other => if other = webState then {} else s.blockingState other }

/-! ## The machine -/

def exec : Instr WebState → DialogPresenter WebState
  | .client => s
  | .stop c => s.stop c
  | .stopped c => s.stopped c
  | .eraseCoordinator webState =>
    { s with
      dialogCoordinatorsForWebStates := s.dialogCoordinatorsForWebStates.erase webState }
  | .stopPresented => s.stopPresented
  | .dropPresented => s.dropPresented
  | .dropPresentedWebState => s.dropPresentedWebState
  | .cancelQueued => s.cancelQueued
  | .start => s.start
  | .blockingOptionSelected => s.blockingOptionSelected
  | .buttonWasTapped c => s.buttonWasTapped c
  | .buttonTapped => s.buttonTapped

def resume : DialogPresenter WebState :=
  match s.stack with
  | [] => s
  | instr :: rest => { s with stack := rest }.exec instr

end Queue

inductive Op (WebState : Type)
  | runJavaScriptAlertPanel (webState : WebState)
  | runJavaScriptConfirmPanel (webState : WebState)
  | runJavaScriptTextInputPanel (webState : WebState)
  | runAuthDialog (webState : WebState)
  | cancelDialogForWebState (webState : WebState)
  | cancelAllDialogs
  | setActive (active : Bool)
  | tryToPresent
  | tapItem (item : AlertItem)
  | tapConfirmation (item : ConfirmationItem)
  | setPresenting (presenting : Bool)
  | setViewInWindow (viewInWindow : Bool)
  | navigationItemCommitted (webState : WebState)
  | resume
deriving DecidableEq, Repr

/-- Whether code of the client runs, or nothing. -/
def clientInControl : Bool :=
  match s.stack with
  | [] => true
  | .client :: _ => true
  | _ => false

variable [DecidableEq WebState] (s : DialogPresenter WebState)

/-- The assertions at the start of `addDialogCoordinator:forWebState:`. -/
def CanRequest (webState : WebState) : Prop :=
  s.clientInControl ∧ s.presentedDialogWebState ≠ some webState ∧ s.stored webState = none

instance (webState : WebState) : Decidable (s.CanRequest webState) := instDecidableAnd

/-- `tryToPresent` asserts that no dialog is shown unless the confirmation is. -/
def CanTryToPresent : Prop :=
  s.blockingConfirmationCoordinator ≠ none ∨ s.presentedDialogCoordinator = none

instance : Decidable s.CanTryToPresent := instDecidableOr

/-- The items an alert has. -/
def HasItem (a : AlertCoordinator WebState) : AlertItem → Prop
  | .ok _ => True
  | .cancel => a.kind ≠ .alert
  | .blockingOption => a.blockingOption = true

instance (a : AlertCoordinator WebState) : (item : AlertItem) → Decidable (HasItem a item)
  | .ok _ => instDecidableTrue
  | .cancel => instDecidableNot
  | .blockingOption => decEq _ _

/-- The alert an item of which may be tapped. -/
def CanTapItem (item : AlertItem) : Prop :=
  match s.screen with
  | some (.alert c) => HasItem (s.coordinator c) item
  | _ => False

instance (item : AlertItem) : Decidable (s.CanTapItem item) :=
  match h : s.screen with
  | some (.alert c) =>
    decidable_of_iff (HasItem (s.coordinator c) item) (by rw [CanTapItem, h])
  | some (.confirmation _) => .isFalse (by rw [CanTapItem, h]; exact id)
  | none => .isFalse (by rw [CanTapItem, h]; exact id)

def CanTapConfirmation : Prop :=
  match s.screen with
  | some (.confirmation _) => True
  | _ => False

instance : Decidable s.CanTapConfirmation :=
  match h : s.screen with
  | some (.confirmation _) => .isTrue (by rw [CanTapConfirmation, h]; trivial)
  | some (.alert _) => .isFalse (by rw [CanTapConfirmation, h]; exact id)
  | none => .isFalse (by rw [CanTapConfirmation, h]; exact id)

/-- What is asserted before an instruction: `DialogBlockingOptionSelected` needs a web
state. -/
def CanResume : Prop :=
  s.stack.head? = some .blockingOptionSelected → s.presentedDialogWebState ≠ none

instance : Decidable s.CanResume := instDecidableForall

def Pre : Op WebState → Prop
  | .runJavaScriptAlertPanel webState => s.CanRequest webState
  | .runJavaScriptConfirmPanel webState => s.CanRequest webState
  | .runJavaScriptTextInputPanel webState => s.CanRequest webState
  | .runAuthDialog webState => s.CanRequest webState
  | .cancelDialogForWebState webState =>
    s.clientInControl ∧ s.presentedDialogWebState ≠ some webState ∧
      (s.stored webState ≠ none → webState ∈ s.queuedWebStates)
  | .cancelAllDialogs => s.clientInControl
  | .setActive active => s.clientInControl ∧ (s.active = active ∨ s.CanTryToPresent)
  | .tryToPresent => s.clientInControl ∧ s.CanTryToPresent
  | .tapItem item => s.stack = [] ∧ s.CanTapItem item
  | .tapConfirmation _ => s.stack = [] ∧ s.CanTapConfirmation
  | .setPresenting _ => s.clientInControl
  | .setViewInWindow _ => s.clientInControl
  | .navigationItemCommitted _ => s.clientInControl
  | .resume => s.stack ≠ [] ∧ s.CanResume

instance : (op : Op WebState) → Decidable (s.Pre op)
  | .runJavaScriptAlertPanel webState => inferInstanceAs (Decidable (s.CanRequest webState))
  | .runJavaScriptConfirmPanel webState => inferInstanceAs (Decidable (s.CanRequest webState))
  | .runJavaScriptTextInputPanel webState => inferInstanceAs (Decidable (s.CanRequest webState))
  | .runAuthDialog webState => inferInstanceAs (Decidable (s.CanRequest webState))
  | .cancelDialogForWebState _ => instDecidableAnd
  | .cancelAllDialogs => decEq _ _
  | .setActive _ | .tryToPresent | .tapItem _ | .tapConfirmation _ => instDecidableAnd
  | .setPresenting _ | .setViewInWindow _ | .navigationItemCommitted _ => decEq _ _
  | .resume => instDecidableAnd

def step : Op WebState → DialogPresenter WebState
  | .runJavaScriptAlertPanel webState => s.runJavaScriptAlertPanel webState
  | .runJavaScriptConfirmPanel webState => s.runJavaScriptConfirmPanel webState
  | .runJavaScriptTextInputPanel webState => s.runJavaScriptTextInputPanel webState
  | .runAuthDialog webState => s.runAuthDialog webState
  | .cancelDialogForWebState webState => s.cancelDialogForWebState webState
  | .cancelAllDialogs => s.cancelAllDialogs
  | .setActive active => s.setActive active
  | .tryToPresent => s.tryToPresent
  | .tapItem item => s.tapItem item
  | .tapConfirmation item => s.tapConfirmation item
  | .setPresenting presenting => { s with presenting := presenting }
  | .setViewInWindow viewInWindow => { s with viewInWindow := viewInWindow }
  | .navigationItemCommitted webState => s.navigationItemCommitted webState
  | .resume => s.resume

abbrev machine : Machine (DialogPresenter WebState) (Op WebState) where
  Pre := Pre
  step := step

end DialogPresenter

end ChromiumIos
