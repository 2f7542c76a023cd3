import ChromiumIos.Base.Ints
import ChromiumIos.Navigation.SessionController

/-!
# Offsets in `NavigationManagerImpl`

`navigation_manager_impl.mm`: where going back or forward by a number of steps
leads. The source computes with `int`s and tells by the sign of a sum that it
overflowed.
-/

namespace ChromiumIos

open Lib

namespace CRWSessionController

variable (s : CRWSessionController)

/-- `GetItemCount`. -/
def getItemCount : Int := wrapInt s.items.length

/-- `GetLastCommittedItemIndex`. -/
def getLastCommittedItemIndex : Int :=
  if s.getItemCount = 0 then -1 else wrapInt s.lastCommittedItemIndex

/-- `IsRedirectItemAtIndex`. -/
def isRedirectItemAtIndex (index : Int) : Bool :=
  (nth? s.items index).any (·.transitionType.isRedirect)

/-- The inner loop of going back: down past the redirects at `result`. -/
def skipRedirectsBack : (result : Nat) → Nat
  | 0 => 0
  | result + 1 =>
    if s.isRedirectItemAtIndex (result + 1 : Nat) then skipRedirectsBack result else result + 1

/-- The loop of going back, with `-offset` steps to go; returns `result` and the
steps that are left. -/
def goBackLoop : (steps : Nat) → (result : Int) → Int × Nat
  | 0, result => (result, 0)
  | steps + 1, result =>
    if result > 0 then goBackLoop steps (s.skipRedirectsBack result.toNat - 1)
    else (result, steps + 1)

/-- The inner loop of going forward, over the items after `result`. -/
def skipRedirectsForward : List NavigationItemImpl → (result : Int) → Int
  | [], result => result
  | item :: rest, result =>
    if item.transitionType.isRedirect then skipRedirectsForward rest (result + 1) else result

/-- The loop of going forward, with `offset` steps to go; returns `result` and
the steps that are left. -/
def goForwardLoop : (steps : Nat) → (result : Int) → Int × Nat
  | 0, result => (result, 0)
  | steps + 1, result =>
    if result < s.getItemCount then
      goForwardLoop steps
        (skipRedirectsForward (s.items.drop (result + 2).toNat) (result + 1))
    else (result, steps + 1)

/-- `GetIndexForOffset`. -/
def getIndexForOffset (offset : Int) : Int :=
  let result :=
    if s.pendingItemIndex = -1 then s.getLastCommittedItemIndex else wrapInt s.pendingItemIndex
  if offset < 0 then
    -- going back from a transient item discards it
    let offset := if s.transientItem.isSome ∧ s.pendingItemIndex = -1 then offset + 1 else offset
    let (result, stepsLeft) := s.goBackLoop (-offset).toNat result
    let result := wrapInt (result - stepsLeft)
    if result > s.getItemCount then intMin else result
  else if offset > 0 then
    let (result, stepsLeft) := s.goForwardLoop offset.toNat result
    let result := wrapInt (result + stepsLeft)
    if result < 0 then intMax else result
  else result

/-- `CanGoToOffset`. -/
def canGoToOffset (offset : Int) : Prop :=
  0 ≤ s.getIndexForOffset offset ∧ s.getIndexForOffset offset < s.getItemCount

instance (offset : Int) : Decidable (s.canGoToOffset offset) :=
  instDecidableAnd

end CRWSessionController

end ChromiumIos
