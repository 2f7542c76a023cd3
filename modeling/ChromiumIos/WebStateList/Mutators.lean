import Mathlib.Data.Option.Basic
import ChromiumIos.Lib.Machine
import ChromiumIos.WebStateList.OrderController

/-!
# `WebStateList`: the mutators

`web_state_list.mm`. Each mutator returns the new list, the calls it makes on
its observers and its delegate in the order it makes them, and the `WebState`
whose ownership it hands back.

`WebStateList.machine` collects them: a call is an `Op`, its `Pre` is what the
`DCHECK`s of the function ask for.
-/

namespace ChromiumIos

open Lib

namespace WebStateList

/-- The calls a mutator makes on `WebStateListObserver` and, for the last two,
on `WebStateListDelegate`. A `none` is a null `WebState` pointer. -/
inductive Event (W : Type)
  | webStateInsertedAt (webState : W) (index : Int)
  | webStateMoved (webState : W) (fromIndex toIndex : Int)
  | webStateReplacedAt (oldWebState newWebState : W) (index : Int)
  | willDetachWebStateAt (webState : W) (index : Int)
  | webStateDetachedAt (webState : W) (index : Int)
  | willCloseWebStateAt (webState : W) (index : Int)
  | webStateActivatedAt (oldWebState newWebState : Option W) (index : Int) (userAction : Bool)
  | delegateWillAddWebState (webState : W)
  | delegateWebStateDetached (webState : W)
deriving DecidableEq, Repr

/-- What a mutator does. -/
structure Outcome (W : Type) where
  list : WebStateList W
  events : List (Event W)
  released : Option W := none
deriving DecidableEq, Repr

variable {W : Type} [DecidableEq W] (l : WebStateList W)

/-- `ClearOpenersReferencing`. -/
def clearOpenersReferencing (index : Int) : WebStateList W :=
  let oldWebState := l.getWebStateAt index
  { l with
    wrappers := l.wrappers.map fun wrapper =>
      if wrapper.opener.opener = oldWebState then { wrapper with opener := .null }
      else wrapper }

/-- `NotifyIfActiveWebStateChanged`. -/
def notifyIfActiveWebStateChanged (oldWebState : Option W) (userAction : Bool) : List (Event W) :=
  let newWebState := l.getActiveWebState
  if oldWebState = newWebState then []
  else [.webStateActivatedAt oldWebState newWebState l.activeIndex userAction]

/-- `SetOpenerOfWebStateAt`. -/
def setOpenerOfWebStateAt (index : Int) (opener : WebStateOpener W) : Outcome W where
  list := { l with
    wrappers := l.wrappers.modify index.toNat fun wrapper => { wrapper with opener } }
  events := []

/-- `InsertWebState`. -/
def insertWebState (index : Int) (webState : W) : Outcome W where
  list := {
    wrappers := l.wrappers.insertIdx index.toNat (.new webState)
    activeIndex := if l.activeIndex ≥ index then l.activeIndex + 1 else l.activeIndex }
  events := [.delegateWillAddWebState webState, .webStateInsertedAt webState index]

/-- `AppendWebState`. -/
def appendWebState (lastCommittedItemIndex : W → Int)
    (transition : PageTransition) (webState : W) (opener : WebStateOpener W) : Outcome W :=
  let determined := l.determineInsertionIndex lastCommittedItemIndex transition opener.opener
  let index := if determined < 0 ∨ l.count < determined then l.count else determined
  let inserted := l.insertWebState index webState
  if opener.opener ≠ none then
    { inserted with list := (inserted.list.setOpenerOfWebStateAt index opener).list }
  else inserted

/-- `MoveWebStateAt`. -/
def moveWebStateAt (fromIndex toIndex : Int) : Outcome W :=
  if fromIndex = toIndex then ⟨l, [], none⟩
  else
    match l.getWebStateAt fromIndex with
    | none => ⟨l, [], none⟩ -- `DCHECK(ContainsIndex(from_index))`
    | some webState =>
      let activeIndex :=
        if l.activeIndex = fromIndex then toIndex
        else
          let delta := if fromIndex < toIndex then -1 else 1
          if min fromIndex toIndex ≤ l.activeIndex ∧ l.activeIndex ≤ max fromIndex toIndex then
            l.activeIndex + delta
          else l.activeIndex
      { list := ⟨moveIdx l.wrappers fromIndex.toNat toIndex.toNat, activeIndex⟩
        events := [.webStateMoved webState fromIndex toIndex] }

/-- `ReplaceWebStateAt`. -/
def replaceWebStateAt (index : Int) (webState : W) : Outcome W :=
  match l.getWebStateAt index with
  | none => ⟨l, [], none⟩ -- `DCHECK(ContainsIndex(index))`
  | some oldWebState =>
    let cleared := l.clearOpenersReferencing index
    { list := { cleared with
        wrappers := cleared.wrappers.modify index.toNat fun wrapper =>
          wrapper.replaceWebState webState }
      events := [.delegateWillAddWebState webState,
        .webStateReplacedAt oldWebState webState index,
        .delegateWebStateDetached oldWebState]
      released := some oldWebState }

/-- `DetachWebStateAt`. -/
def detachWebStateAt (index : Int) : Outcome W :=
  match l.getWebStateAt index with
  | none => ⟨l, [], none⟩ -- `DCHECK(ContainsIndex(index))`
  | some webState =>
    let newActiveIndex := l.determineNewActiveIndex index
    let detached : WebStateList W := {
      wrappers := (l.clearOpenersReferencing index).wrappers.eraseIdx index.toNat
      activeIndex :=
        if l.activeIndex > index then l.activeIndex - 1
        else if l.activeIndex = index then newActiveIndex
        else l.activeIndex }
    { list := detached
      events := [.willDetachWebStateAt webState index, .webStateDetachedAt webState index] ++
        (if index = l.activeIndex then
          detached.notifyIfActiveWebStateChanged (some webState) false else []) ++
        [.delegateWebStateDetached webState]
      released := some webState }

/-- `CloseWebStateAt`. -/
def closeWebStateAt (index : Int) : Outcome W :=
  let detached := l.detachWebStateAt index
  { list := detached.list
    events := detached.events ++
      detached.released.toList.map fun webState => .willCloseWebStateAt webState index }

/-- `n` turns of the loop of `CloseAllWebStates`. -/
def closeAllLoop : Nat → WebStateList W → Outcome W
  | 0, l => ⟨l, [], none⟩
  | n + 1, l =>
    if l.empty then ⟨l, [], none⟩
    else
      let closed := l.closeWebStateAt (l.count - 1)
      let rest := closeAllLoop n closed.list
      ⟨rest.list, closed.events ++ rest.events, none⟩

/-- `CloseAllWebStates`: one turn for each `WebState` empties the list
(`closeAllWebStates_empty`). -/
def closeAllWebStates : Outcome W := closeAllLoop l.wrappers.length l

/-- `ActivateWebStateAt`. -/
def activateWebStateAt (index : Int) : Outcome W :=
  let activated := { l with activeIndex := index }
  { list := activated
    events := activated.notifyIfActiveWebStateChanged l.getActiveWebState true }

/-! ## The machine -/

/-- A call of a mutator. -/
inductive Op (W : Type)
  | insertWebState (index : Int) (webState : W)
  | appendWebState (lastCommittedItemIndex : W → Int) (transition : PageTransition)
      (webState : W) (opener : WebStateOpener W)
  | moveWebStateAt (fromIndex toIndex : Int)
  | replaceWebStateAt (index : Int) (webState : W)
  | detachWebStateAt (index : Int)
  | closeWebStateAt (index : Int)
  | closeAllWebStates
  | setOpenerOfWebStateAt (index : Int) (opener : WebStateOpener W)
  | activateWebStateAt (index : Int)

def apply : Op W → Outcome W
  | .insertWebState index webState => l.insertWebState index webState
  | .appendWebState lastCommittedItemIndex transition webState opener =>
    l.appendWebState lastCommittedItemIndex transition webState opener
  | .moveWebStateAt fromIndex toIndex => l.moveWebStateAt fromIndex toIndex
  | .replaceWebStateAt index webState => l.replaceWebStateAt index webState
  | .detachWebStateAt index => l.detachWebStateAt index
  | .closeWebStateAt index => l.closeWebStateAt index
  | .closeAllWebStates => l.closeAllWebStates
  | .setOpenerOfWebStateAt index opener => l.setOpenerOfWebStateAt index opener
  | .activateWebStateAt index => l.activateWebStateAt index

/-- What the `DCHECK`s of a mutator ask of a call; `AppendWebState` passes its
opener to `SetOpenerOfWebStateAt`, which asks that it is in the list. -/
def Pre : Op W → Prop
  | .insertWebState index _ => l.ContainsIndex index ∨ index = l.count
  | .appendWebState _ _ _ opener => ∀ w ∈ opener.opener, w ∈ l.webStates
  | .moveWebStateAt fromIndex toIndex => l.ContainsIndex fromIndex ∧ l.ContainsIndex toIndex
  | .replaceWebStateAt index webState =>
    l.ContainsIndex index ∧ l.getWebStateAt index ≠ some webState
  | .detachWebStateAt index => l.ContainsIndex index
  | .closeWebStateAt index => l.ContainsIndex index
  | .closeAllWebStates => True
  | .setOpenerOfWebStateAt index opener =>
    l.ContainsIndex index ∧ ∃ w ∈ opener.opener, l.ContainsIndex (l.getIndexOfWebState w)
  | .activateWebStateAt index => l.ContainsIndex index

instance decidablePre : ∀ op : Op W, Decidable (l.Pre op)
  | .insertWebState _ _ => instDecidableOr
  | .appendWebState _ _ _ opener => inferInstanceAs (Decidable (∀ w ∈ opener.opener, _))
  | .moveWebStateAt _ _ | .replaceWebStateAt _ _ => instDecidableAnd
  | .detachWebStateAt index => inferInstanceAs (Decidable (l.ContainsIndex index))
  | .closeWebStateAt index => inferInstanceAs (Decidable (l.ContainsIndex index))
  | .closeAllWebStates => instDecidableTrue
  | .setOpenerOfWebStateAt _ _ => instDecidableAnd
  | .activateWebStateAt index => inferInstanceAs (Decidable (l.ContainsIndex index))

/-- `WebStateList` under sequences of calls. -/
def machine (W : Type) [DecidableEq W] : Machine (WebStateList W) (Op W) where
  Pre := Pre
  step l op := (l.apply op).list

end WebStateList

end ChromiumIos
