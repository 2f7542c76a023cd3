import ChromiumIos.Navigation.SessionStorageBuilder
import ChromiumIos.WebStateList.Mutators

/-!
# Storing a `WebStateList`

`web_state_list_serialization.mm` and `session_window_ios.mm`. The openers of
the tabs are pointers; they are stored as indices in the user data of the tabs,
next to the user data of the features.

- `WebStates` is the memory the tabs live in. Serializing writes to it, and a
  `WebStateFactory` makes new tabs in it.
- Older sessions name the opener by an ID. One tab without an opener index makes
  the whole window be read that way, so a tab without an opener stores a null.
- `createWithStorageSession` is the factory of the browser: the session is
  extracted into a new `WebStateImpl`.
-/

namespace ChromiumIos

open Lib SessionStorageBuilder

/-- `SessionWindowIOS`; a `selectedIndex` of `none` is `NSNotFound`. -/
structure SessionWindowIOS where
  sessions : List CRWSessionStorage
  selectedIndex : Option Nat

/-- `IsIndexValidForSessionCount`, which the initializer checks in debug builds. -/
def SessionWindowIOS.IsIndexValid (window : SessionWindowIOS) : Prop :=
  if window.sessions.length = 0 then window.selectedIndex = none
  else ∃ index ∈ window.selectedIndex, index < window.sessions.length

/-- The tabs in memory, those made so far, and the counter of unique IDs. -/
structure WebStates (W : Type) where
  created : List W
  state : W → WebStateImpl
  uniqueIdCounter : Int

namespace WebStates

variable {W : Type} [DecidableEq W]

/-- `SerializableUserDataManager::FromWebState`. -/
def userData (states : WebStates W) (webState : W) : SerializableUserDataManagerImpl :=
  (states.state webState).userData

/-- Adds to the user data of a tab. -/
def addSerializableData (states : WebStates W) (webState : W) (data : Coded) (key : String) :
    WebStates W :=
  let state := states.state webState
  let state := { state with userData := state.userData.addSerializableData data key }
  { states with state := Function.update states.state webState state }

/-- `BuildSessionStorage`; `recordStateInHistory` is what the web controller
writes to the session first. -/
def buildSessionStorage (recordStateInHistory : W → CRWSessionController → CRWSessionController)
    (states : WebStates W) (webState : W) : CRWSessionStorage × WebStates W :=
  let state := states.state webState
  let state := { state with
    sessionController := recordStateInHistory webState state.sessionController }
  (buildStorage state,
    { states with state := Function.update states.state webState state })

end WebStates

/-- `WebStateFactory`: makes a tab from a session. -/
abbrev WebStateFactory (W : Type) := CRWSessionStorage → WebStates W → W × WebStates W

/-- A factory makes tabs with the user data that was stored, and leaves the other
tabs alone. -/
structure WebStateFactory.Restores {W : Type} (factory : WebStateFactory W) : Prop where
  created : ∀ session states,
    (factory session states).2.created = (factory session states).1 :: states.created
  frame : ∀ session states, ∀ webState ∈ states.created,
    (factory session states).2.state webState = states.state webState
  userData : ∀ session states, ∀ userData ∈ session.userData,
    ((factory session states).2.userData (factory session states).1).data = userData.data

/-- `WebStateImpl::CreateWithStorageSession`, in memory `allocate` finds. -/
def createWithStorageSession {W : Type} [DecidableEq W] (allocate : List W → W) :
    WebStateFactory W := fun session states =>
  let webState := allocate states.created
  let (state, uniqueIdCounter) := extractSessionState
    emptyWebState session states.uniqueIdCounter
  (webState, {
    created := webState :: states.created
    state := Function.update states.state webState state
    uniqueIdCounter })

/-- The factory of the browser restores the user data. -/
theorem createWithStorageSession_restores {W : Type} [DecidableEq W] {allocate : List W → W}
    (hfresh : ∀ created, allocate created ∉ created) :
    (createWithStorageSession allocate).Restores where
  created := fun _ _ => rfl
  frame := by
    intro session states webState hmem
    have hne : webState ≠ allocate states.created := by
      rintro rfl
      exact hfresh states.created hmem
    exact Function.update_of_ne hne _ _
  userData := by
    intro session states userData huser
    rw [Option.mem_def] at huser
    simp [WebStates.userData, createWithStorageSession, extractSessionState,
      SerializableUserDataManagerImpl.addSerializableUserData, huser]

namespace WebStateList

/-! Keys used to store the opener-opened relationship, and those of older
sessions. -/

@[simp] def kOpenerIndexKey : String := "OpenerIndex"
@[simp] def kOpenerNavigationIndexKey : String := "OpenerNavigationIndex"
@[simp] def kObjectIDKey : String := "TabID"
@[simp] def kOpenerIDKey : String := "OpenerID"

variable {W : Type} [DecidableEq W]

/-! ## Serializing -/

/-- The opener as the loop of `SerializeWebStateList` stores it. -/
def storeOpener (l : WebStateList W) (wrapper : WebStateWrapper W) (states : WebStates W) :
    WebStates W :=
  match wrapper.opener.opener with
  | some opener =>
    let openerIndex := l.getIndexOfWebState opener
    let states := states.addSerializableData wrapper.webState (.number openerIndex) kOpenerIndexKey
    states.addSerializableData wrapper.webState (.number wrapper.opener.navigationIndex)
      kOpenerNavigationIndexKey
  | none =>
    let states := states.addSerializableData wrapper.webState .null kOpenerIndexKey
    states.addSerializableData wrapper.webState .null kOpenerNavigationIndexKey

/-- The loop of `SerializeWebStateList`. -/
def serializeLoop (recordStateInHistory : W → CRWSessionController → CRWSessionController)
    (l : WebStateList W) : List (WebStateWrapper W) → WebStates W →
    List CRWSessionStorage × WebStates W
  | [], states => ([], states)
  | wrapper :: rest, states =>
    let states := l.storeOpener wrapper states
    let (session, states) := states.buildSessionStorage recordStateInHistory wrapper.webState
    let (sessions, states) := serializeLoop recordStateInHistory l rest states
    (session :: sessions, states)

/-- `SerializeWebStateList`. -/
def serializeWebStateList (recordStateInHistory : W → CRWSessionController → CRWSessionController)
    (l : WebStateList W) (states : WebStates W) : SessionWindowIOS × WebStates W :=
  let (sessions, states) := serializeLoop recordStateInHistory l l.wrappers states
  let selectedIndex := if l.activeIndex ≠ kInvalidIndex then some l.activeIndex.toNat else none
  (⟨sessions, selectedIndex⟩, states)

/-! ## Deserializing -/

/-- The `NSNumber` under a key, by its `intValue`. -/
def numberForKey (states : WebStates W) (webState : W) (key : String) : Option Int :=
  ((states.userData webState).getValueForSerializationKey key).bind (·.toNumber?)

/-- The `NSString` under a key, unless it is empty. -/
def stringForKey (states : WebStates W) (webState : W) (key : String) : Option NSString :=
  (((states.userData webState).getValueForSerializationKey key).bind (·.toNSString?)).filter
    fun string => !string.isEmpty

/-- `IsSessionUsingLegacyFormat`. -/
def isSessionUsingLegacyFormat (states : WebStates W) (l : WebStateList W) (oldCount : Nat) : Bool :=
  (l.webStates.drop oldCount).any fun webState =>
    ((states.userData webState).getValueForSerializationKey kOpenerIndexKey).isNone

/-- The first loop of `RestoreRelationshipLegacy`: the first tab with each ID. -/
def idToWebState (states : WebStates W) : List W → Keyed NSString W → Keyed NSString W
  | [], ids => ids
  | webState :: rest, ids =>
    match stringForKey states webState kObjectIDKey with
    | some objectID =>
      if ids.contains objectID then idToWebState states rest ids
      else idToWebState states rest (ids.set objectID webState)
    | none => idToWebState states rest ids

/-- A turn of the second loop of `RestoreRelationshipLegacy`. -/
def restoreOpenerLegacyAt (states : WebStates W) (ids : Keyed NSString W) (l : WebStateList W)
    (index : Nat) : WebStateList W :=
  match l.getWebStateAt index with
  | none => l -- `DCHECK(ContainsIndex(index))`
  | some webState =>
    match stringForKey states webState kOpenerIDKey,
      numberForKey states webState kOpenerNavigationIndexKey with
    | some openerID, some navigationIndex =>
      match ids.get? openerID with
      | some opener => (l.setOpenerOfWebStateAt index ⟨some opener, navigationIndex⟩).list
      | none => l
    | _, _ => l

/-- `RestoreRelationshipLegacy`. -/
def restoreRelationshipLegacy (states : WebStates W) (l : WebStateList W) (oldCount : Nat) :
    WebStateList W :=
  let ids := idToWebState states (l.webStates.drop oldCount) .empty
  (List.range' oldCount (l.wrappers.length - oldCount)).foldl (restoreOpenerLegacyAt states ids) l

/-- A turn of the loop of `RestoreRelationship`. -/
def restoreOpenerAt (states : WebStates W) (oldCount : Nat) (l : WebStateList W) (index : Nat) :
    WebStateList W :=
  match l.getWebStateAt index with
  | none => l -- `DCHECK(ContainsIndex(index))`
  | some webState =>
    match numberForKey states webState kOpenerIndexKey,
      numberForKey states webState kOpenerNavigationIndexKey with
    | some boxedOpenerIndex, some navigationIndex =>
      let openerIndex := boxedOpenerIndex + oldCount
      if openerIndex < oldCount ∨ openerIndex ≥ l.count then l
      else
        match l.getWebStateAt openerIndex with
        | some opener => (l.setOpenerOfWebStateAt index ⟨some opener, navigationIndex⟩).list
        | none => l
    | _, _ => l

/-- `RestoreRelationship`. -/
def restoreRelationship (states : WebStates W) (l : WebStateList W) (oldCount : Nat) :
    WebStateList W :=
  if isSessionUsingLegacyFormat states l oldCount then restoreRelationshipLegacy states l oldCount
  else (List.range' oldCount (l.wrappers.length - oldCount)).foldl (restoreOpenerAt states oldCount) l

/-- The first loop of `DeserializeWebStateList`. -/
def insertSessions (factory : WebStateFactory W) : List CRWSessionStorage → WebStateList W →
    WebStates W → WebStateList W × WebStates W
  | [], l, states => (l, states)
  | session :: rest, l, states =>
    let (webState, states) := factory session states
    insertSessions factory rest (l.insertWebState l.count webState).list states

/-- `DeserializeWebStateList`. -/
def deserializeWebStateList (factory : WebStateFactory W) (l : WebStateList W)
    (window : SessionWindowIOS) (states : WebStates W) : WebStateList W × WebStates W :=
  let oldCount := l.wrappers.length
  let (inserted, states) := insertSessions factory window.sessions l states
  let restored := restoreRelationship states inserted oldCount
  match window.selectedIndex with
  | some selectedIndex =>
    ((restored.activateWebStateAt ((oldCount : Int) + selectedIndex)).list, states)
  | none => (restored, states)

end WebStateList

end ChromiumIos
