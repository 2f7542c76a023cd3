import ChromiumIos.Lib.Machine
import ChromiumIos.Lib.OrderedDict

/-!
# `InstallationNotifier`

`installation_notifier.mm`: observers register for the schemes of apps that are not installed yet,
and blocks that are dispatched with a growing delay poll for the apps.

- `InstallationNotifier`: the notifier with the dispatched blocks, the installed schemes and the
  locals of `pollForTheInstallationOfApps`. A poll is cut where observers run, since they may call
  the notifier.
- `owed`, `due`: what the calls so far ask for.
- `machine`: the notifier under any order of calls, firing blocks and installations.
-/

namespace ChromiumIos

open Lib

namespace InstallationNotifier

/-- What the observers and the device have seen, the last first. -/
inductive Event (O : Type)
  | registered (observer : O) (scheme : String)
  | unregistered (observer : O)
  | notified (observer : O) (scheme : String)
  | pollStarted
  | installed (scheme : String)
deriving DecidableEq, Repr

/-- `postNotificationName:object:` at work. -/
structure Posting (O : Type) where
  scheme : String
  /-- The observers it has yet to come to. -/
  receivers : List O
  /-- Whether an observer is inside its notification. -/
  receiving : Bool
deriving DecidableEq, Repr

end InstallationNotifier

open InstallationNotifier

/-- `InstallationNotifier`. `notificationCenter` has the observers that were added with the notifier
as the object; `blocks` are the ids of the dispatched blocks that have not fired. -/
structure InstallationNotifier (O : Type) where
  installedAppObservers : OrderedDict String (List O)
  notificationCenter : List (O × String)
  lastCreatedBlockId : Nat
  blocks : List Nat
  installed : List String
  polling : Bool
  visited : List String
  keysToDelete : List String
  keepPolling : Bool
  posting : Option (Posting O)
  /-- The dictionary was changed while it was enumerated. -/
  enumerationMutated : Bool
  history : List (Event O)

namespace InstallationNotifier

variable {O : Type}

def init : InstallationNotifier O where
  installedAppObservers := .empty
  notificationCenter := []
  lastCreatedBlockId := 0
  blocks := []
  installed := []
  polling := false
  visited := []
  keysToDelete := []
  keepPolling := false
  posting := none
  enumerationMutated := false
  history := []

/-- The set of observers of a scheme, or none. -/
def observersOf (s : InstallationNotifier O) (scheme : String) : List O :=
  (s.installedAppObservers.get? scheme).getD []

/-- The sets of observers are changed, and the dictionary with them if it is sent
`setObject:forKey:` or `removeObjectForKey:`. -/
def setObservers (s : InstallationNotifier O) (observers : OrderedDict String (List O))
    (mutates : Bool) : InstallationNotifier O :=
  { s with
    installedAppObservers := observers
    enumerationMutated := s.enumerationMutated || (s.polling && mutates) }

/-- `dispatchInstallationNotifierBlock`. -/
def dispatchInstallationNotifierBlock (s : InstallationNotifier O) : InstallationNotifier O :=
  { s with
    lastCreatedBlockId := s.lastCreatedBlockId + 1
    blocks := s.blocks ++ [s.lastCreatedBlockId + 1] }

/-- `pollForTheInstallationOfApps`, up to its enumeration. -/
def pollForTheInstallationOfApps (s : InstallationNotifier O) : InstallationNotifier O :=
  { s with
    polling := true
    visited := []
    keysToDelete := []
    keepPolling := false
    history := .pollStarted :: s.history }

/-- The enumeration comes to `scheme`. -/
def visit (s : InstallationNotifier O) (scheme : String) : InstallationNotifier O :=
  let s := { s with visited := scheme :: s.visited }
  if scheme ∈ s.installed then
    let receivers := (s.notificationCenter.filter (·.2 = scheme)).map Prod.fst
    { s with posting := some ⟨scheme, receivers, false⟩ }
  else
    { s with keepPolling := true }

/-- The enumeration is over. -/
def endPoll (s : InstallationNotifier O) : InstallationNotifier O :=
  let s :=
    { s with
      polling := false
      visited := []
      keysToDelete := []
      installedAppObservers := s.keysToDelete.foldl OrderedDict.delete s.installedAppObservers }
  if s.keepPolling then s.dispatchInstallationNotifierBlock else s

/-- An app with the scheme is installed. -/
def install (s : InstallationNotifier O) (scheme : String) : InstallationNotifier O :=
  { s with
    installed := scheme :: s.installed
    history := .installed scheme :: s.history }

variable [DecidableEq O] (s : InstallationNotifier O)

/-- `registerForInstallationNotifications`, which starts polling. -/
def registerForInstallationNotifications (observer : O)
    (scheme : String) : InstallationNotifier O :=
  if scheme.length = 0 then s
  else
    let s := { s with history := .registered observer scheme :: s.history }
    if observer ∈ s.observersOf scheme then s
    else
      let observers := s.observersOf scheme ++ [observer]
      let s := s.setObservers (s.installedAppObservers.set scheme observers) true
      let s := { s with notificationCenter := s.notificationCenter ++ [(observer, scheme)] }
      s.dispatchInstallationNotifierBlock

/-- The loop of `unregisterForNotifications`, for one scheme. -/
def removeFromScheme (observer : O) (d : OrderedDict String (List O)) (scheme : String) :
    OrderedDict String (List O) :=
  match d.get? scheme with
  | none => d
  | some observers =>
    if observer ∈ observers then
      let observers := observers.filter (· ≠ observer)
      if observers.length = 0 then d.delete scheme else d.set scheme observers
    else d

/-- `unregisterForNotifications`. -/
def unregisterForNotifications (observer : O) : InstallationNotifier O :=
  let s :=
    { s with
      notificationCenter := s.notificationCenter.filter (·.1 ≠ observer)
      history := .unregistered observer :: s.history }
  let observers := s.installedAppObservers.keys.foldl (removeFromScheme observer)
    s.installedAppObservers
  -- a set that is left empty loses its key
  s.setObservers observers (observers.size != s.installedAppObservers.size)

/-- A dispatched block fires. -/
def fireBlock (blockId : Nat) : InstallationNotifier O :=
  let s := { s with blocks := s.blocks.erase blockId }
  if blockId = s.lastCreatedBlockId then s.pollForTheInstallationOfApps else s

/-- The notification center comes to the observer, and notifies it unless it was removed in the
meantime. -/
def receive (observer : O) : InstallationNotifier O :=
  match s.posting with
  | none => s
  | some posting =>
    let posting := { posting with receivers := posting.receivers.erase observer }
    if (observer, posting.scheme) ∈ s.notificationCenter then
      { s with
        posting := some { posting with receiving := true }
        history := .notified observer posting.scheme :: s.history }
    else
      { s with posting := some { posting with receiving := false } }

/-- The notification was posted: the rest of the enumeration's block. -/
def endPosting : InstallationNotifier O :=
  match s.posting with
  | none => s
  | some posting =>
    { s with
      posting := none
      notificationCenter := s.notificationCenter.filter fun entry =>
        ¬(entry.1 ∈ s.observersOf posting.scheme ∧ entry.2 = posting.scheme)
      keysToDelete := posting.scheme :: s.keysToDelete }

inductive Op (O : Type)
  | registerForInstallationNotifications (observer : O) (scheme : String)
  | unregisterForNotifications (observer : O)
  | checkNow
  | fireBlock (blockId : Nat)
  | install (scheme : String)
  | visit (scheme : String)
  | receive (observer : O)
  | endPosting
  | endPoll

def apply : Op O → InstallationNotifier O
  | .registerForInstallationNotifications observer scheme =>
    s.registerForInstallationNotifications observer scheme
  | .unregisterForNotifications observer => s.unregisterForNotifications observer
  | .checkNow => s.pollForTheInstallationOfApps
  | .fireBlock blockId => s.fireBlock blockId
  | .install scheme => s.install scheme
  | .visit scheme => s.visit scheme
  | .receive observer => s.receive observer
  | .endPosting => s.endPosting
  | .endPoll => s.endPoll

/-- Whether a call may come now: no poll is going on, or an observer is inside its notification. -/
def canCall : Bool :=
  !s.polling || s.posting.any (·.receiving)

/-- When an operation can happen. A poll visits every scheme once, in any order, and the center
comes to every receiver once, in any order. Nothing comes after a change of the dictionary that is
enumerated, where the enumeration raises an exception. -/
def Pre (op : Op O) : Prop :=
  s.enumerationMutated = false ∧
    match op with
    | .registerForInstallationNotifications _ _ => s.canCall = true
    | .unregisterForNotifications _ => s.canCall = true
    | .checkNow => s.polling = false
    | .fireBlock blockId => s.polling = false ∧ blockId ∈ s.blocks
    | .install _ => True
    | .visit scheme => s.polling = true ∧ s.posting = none ∧
        scheme ∈ s.installedAppObservers.keys ∧ scheme ∉ s.visited
    | .receive observer => ∃ posting ∈ s.posting, observer ∈ posting.receivers
    | .endPosting => ∃ posting ∈ s.posting, posting.receivers = []
    | .endPoll => s.polling = true ∧ s.posting = none ∧
        ∀ scheme ∈ s.installedAppObservers.keys, scheme ∈ s.visited

instance (op : Op O) : Decidable (s.Pre op) :=
  @instDecidableAnd _ _ _ <|
    match op with
    | .registerForInstallationNotifications _ _ | .unregisterForNotifications _ => decEq _ _
    | .checkNow => decEq _ _
    | .fireBlock _ => instDecidableAnd
    | .install _ => instDecidableTrue
    | .visit _ => instDecidableAnd
    | .receive observer =>
      inferInstanceAs (Decidable (∃ posting ∈ s.posting, observer ∈ posting.receivers))
    | .endPosting => inferInstanceAs (Decidable (∃ posting ∈ s.posting, posting.receivers = []))
    | .endPoll => instDecidableAnd

abbrev machine (O : Type) [DecidableEq O] : Machine (InstallationNotifier O) (Op O) where
  Pre := Pre
  step := apply

/-! ## What the observers have asked for -/

/-- Whether the observer is registered for the scheme: it has called for it, and was neither
notified nor unregistered since. -/
def owed : List (Event O) → O → String → Bool
  | [], _, _ => false
  | .registered other scheme' :: history, observer, scheme =>
    decide (other = observer ∧ scheme' = scheme) || owed history observer scheme
  | .unregistered other :: history, observer, scheme =>
    decide (other ≠ observer) && owed history observer scheme
  | .notified other scheme' :: history, observer, scheme =>
    decide ¬(other = observer ∧ scheme' = scheme) && owed history observer scheme
  | .pollStarted :: history, observer, scheme => owed history observer scheme
  | .installed _ :: history, observer, scheme => owed history observer scheme

/-- Whether the observer was registered when the last poll started, with the scheme installed
already, and was neither notified nor unregistered since. -/
def due : List (Event O) → O → String → Bool
  | [], _, _ => false
  | .pollStarted :: history, observer, scheme =>
    decide (.installed scheme ∈ history) && owed history observer scheme
  | .registered _ _ :: history, observer, scheme => due history observer scheme
  | .unregistered other :: history, observer, scheme =>
    decide (other ≠ observer) && due history observer scheme
  | .notified other scheme' :: history, observer, scheme =>
    decide ¬(other = observer ∧ scheme' = scheme) && due history observer scheme
  | .installed _ :: history, observer, scheme => due history observer scheme

/-- Registrations are answered. -/
structure Answered : Prop where
  /-- Only who is registered is notified, and only when the app is installed. -/
  notified : ∀ observer scheme before, .notified observer scheme :: before <:+ s.history →
    owed before observer scheme = true ∧ .installed scheme ∈ before
  /-- A poll notifies everybody who was registered for an installed app when it began. -/
  prompt : s.polling = false → ∀ observer scheme, due s.history observer scheme = false
  /-- The last dispatched block goes on polling as long as somebody is registered. -/
  live : s.polling = false → (∃ observer scheme, owed s.history observer scheme = true) →
    s.blocks.count s.lastCreatedBlockId = 1
  /-- A poll does not change the dictionary it enumerates. -/
  unchanged : s.enumerationMutated = false

end InstallationNotifier

end ChromiumIos
