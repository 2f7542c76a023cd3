import ChromiumIos.Lib.Machine
import Mathlib.Data.List.Nodup

/-!
# IOSChromeBrowsingDataRemover

`RemoveImpl` starts up to ten deletions, depending on the mask and on the
services there are, and sets a waiting flag for each. The callback of a
deletion clears its flag; the callback that finds no flag set notifies the
observers. Most callbacks are posted; a service may also run one while its
request is being issued, inside `RemoveImpl`.

The events of a removal are logged in order: `removing` when `is_removing_`
is set, a deletion that is started or has completed, and the notification.
`NotifiesOnceLast` is what the log must be; `notifies_once_last_iff` says for
which services and masks it is, whatever the order of the callbacks.
-/

namespace ChromiumIos

open List

/-- What `RemoveImpl` starts and waits for, in the order in which it does. -/
inductive Deletion
  | history
  | hostnameResolutionCache
  | keywordData
  | autofillOriginURLs
  | cookies
  | channelIDs
  | passwords
  | form
  | cache
  | networkingHistory
deriving DecidableEq, Repr

inductive WebThread
  | ui
  | io
deriving DecidableEq, Repr

/-- The tasks that are posted and the callbacks that are waited for, under the
names of what they run. -/
inductive Task
  | onHistoryDeletionDone
  | clearHostCache
  | onClearedHostnameResolutionCache
  | onKeywordsLoaded
  | doNothingBeforeAutofillOriginURLs
  | onClearedAutofillOriginURLs
  | clearCookiesOnIOThread
  | onClearedCookies (thread : WebThread)
  | clearChannelIDsOnIOThread
  | onClearedChannelIDsOnIOThread
  | onClearedChannelIDs
  | onClearedPasswords
  | doNothingBeforeFormData
  | onClearedFormData
  | clearHttpCacheOnIOThread
  | doomHttpCache
  | postCallback
  | onClearedCache
  | clearNetworkingHistorySinceOnIOThread
  | onClearedNetworkingHistory
deriving DecidableEq, Repr

structure NotificationDetails where
  removalBegin : Int
  removalMask : BitVec 32
deriving DecidableEq, Repr

inductive RemovalEvent
  | removing (isRemoving : Bool)
  | started (deletion : Deletion)
  | completed (deletion : Deletion)
  | notified (details : NotificationDetails)
deriving DecidableEq, Repr

/-- When a service runs the callback of a request. -/
inductive CallbackTime
  | insideRequest
  | later
deriving DecidableEq, Repr

inductive KeywordsModel
  | loaded
  | notLoaded (callback : CallbackTime)
deriving DecidableEq, Repr

/-- The implementations of `ios::ChromeBrowserState`. -/
inductive BrowserStateKind
  | impl
  | offTheRecord
  | test
deriving DecidableEq, Repr

/-- The services the remover finds, and when those that are not posted to run
their callbacks. -/
structure RemovalServices where
  historyService : Option CallbackTime
  iosChromeIOThread : Bool
  keywordsModel : Option KeywordsModel
  webDataService : Bool
  mainContextGetter : Bool
  passwordStore : Option CallbackTime
  diskCacheBackend : Bool
  browserState : BrowserStateKind
deriving DecidableEq, Repr

structure IOSChromeBrowsingDataRemover where
  deleteBegin : Int
  removeMask : BitVec 32 := 0
  -- `is_removing_` is static; there is one remover at a time.
  isRemoving : Bool := false
  waitingForClearAutofillOriginURLs : Bool := false
  waitingForClearCache : Bool := false
  waitingForClearChannelIDs : Bool := false
  waitingForClearCookiesCount : Nat := 0
  waitingForClearForm : Bool := false
  waitingForClearHistory : Bool := false
  waitingForClearHostnameResolutionCache : Bool := false
  waitingForClearKeywordData : Bool := false
  waitingForClearNetworkingHistory : Bool := false
  waitingForClearPasswords : Bool := false
  inFlight : List Task := []
  events : List RemovalEvent := []
deriving DecidableEq, Repr

namespace IOSChromeBrowsingDataRemover

def REMOVE_CACHE : BitVec 32 := 1 <<< 1
def REMOVE_COOKIES : BitVec 32 := 1 <<< 2
def REMOVE_FORM_DATA : BitVec 32 := 1 <<< 4
def REMOVE_HISTORY : BitVec 32 := 1 <<< 5
def REMOVE_PASSWORDS : BitVec 32 := 1 <<< 8
def REMOVE_CHANNEL_IDS : BitVec 32 := 1 <<< 10

/-! ## Flags, tasks and events -/

variable (s : IOSChromeBrowsingDataRemover)

def addEvent (event : RemovalEvent) : IOSChromeBrowsingDataRemover :=
  { s with events := s.events ++ [event] }

def postTask (task : Task) : IOSChromeBrowsingDataRemover :=
  { s with inFlight := s.inFlight ++ [task] }

def setRemoving (isRemoving : Bool) : IOSChromeBrowsingDataRemover :=
  { s with isRemoving := isRemoving }.addEvent (.removing isRemoving)

/-- Sets or clears the waiting flag of a deletion; those of cookies are counted. -/
def setWaiting (waiting : Bool) :
    Deletion → IOSChromeBrowsingDataRemover
  | .history => { s with waitingForClearHistory := waiting }
  | .hostnameResolutionCache => { s with waitingForClearHostnameResolutionCache := waiting }
  | .keywordData => { s with waitingForClearKeywordData := waiting }
  | .autofillOriginURLs => { s with waitingForClearAutofillOriginURLs := waiting }
  | .cookies =>
    { s with waitingForClearCookiesCount :=
        if waiting then s.waitingForClearCookiesCount + 1 else s.waitingForClearCookiesCount - 1 }
  | .channelIDs => { s with waitingForClearChannelIDs := waiting }
  | .passwords => { s with waitingForClearPasswords := waiting }
  | .form => { s with waitingForClearForm := waiting }
  | .cache => { s with waitingForClearCache := waiting }
  | .networkingHistory => { s with waitingForClearNetworkingHistory := waiting }

def allDone : Bool :=
  !s.waitingForClearAutofillOriginURLs &&
    !s.waitingForClearCache && !s.waitingForClearChannelIDs &&
    s.waitingForClearCookiesCount == 0 && !s.waitingForClearForm &&
    !s.waitingForClearHistory &&
    !s.waitingForClearHostnameResolutionCache &&
    !s.waitingForClearKeywordData &&
    !s.waitingForClearNetworkingHistory &&
    !s.waitingForClearPasswords

def notifyAndDelete : IOSChromeBrowsingDataRemover :=
  (s.setRemoving false).addEvent (.notified ⟨s.deleteBegin, s.removeMask⟩)

def notifyAndDeleteIfDone : IOSChromeBrowsingDataRemover :=
  if s.allDone then s.notifyAndDelete else s

/-! ## The callbacks -/

/-- What the callbacks have in common: the flag is cleared, and then the
observers are notified if it was the last one. -/
def onCleared (deletion : Deletion) : IOSChromeBrowsingDataRemover :=
  ((s.setWaiting false deletion).addEvent (.completed deletion)).notifyAndDeleteIfDone

def onHistoryDeletionDone := s.onCleared .history

def onClearedHostnameResolutionCache :=
  s.onCleared .hostnameResolutionCache

def onKeywordsLoaded := s.onCleared .keywordData

def onClearedAutofillOriginURLs :=
  s.onCleared .autofillOriginURLs

/-- The cookie store calls back on the IO thread, the callback then posts itself
to the UI thread. -/
def onClearedCookies (s : IOSChromeBrowsingDataRemover) (thread : WebThread) :
    IOSChromeBrowsingDataRemover :=
  if thread ≠ .ui then s.postTask (.onClearedCookies .ui) else s.onCleared .cookies

def onClearedChannelIDs := s.onCleared .channelIDs

def onClearedPasswords := s.onCleared .passwords

def onClearedFormData := s.onCleared .form

def onClearedCache := s.onCleared .cache

def onClearedNetworkingHistory :=
  s.onCleared .networkingHistory

variable (services : RemovalServices)

/-- Runs a task that is no longer in flight. Those that clear cookies and the
cache use the context getter, which is there when they are to be cleared. -/
def runTask (s : IOSChromeBrowsingDataRemover) : Task → IOSChromeBrowsingDataRemover
  | .onHistoryDeletionDone => s.onHistoryDeletionDone
  | .clearHostCache => s.postTask .onClearedHostnameResolutionCache
  | .onClearedHostnameResolutionCache => s.onClearedHostnameResolutionCache
  | .onKeywordsLoaded => s.onKeywordsLoaded
  | .doNothingBeforeAutofillOriginURLs => s.postTask .onClearedAutofillOriginURLs
  | .onClearedAutofillOriginURLs => s.onClearedAutofillOriginURLs
  | .clearCookiesOnIOThread => s.postTask (.onClearedCookies .io)
  | .onClearedCookies thread => s.onClearedCookies thread
  | .clearChannelIDsOnIOThread => s.postTask .onClearedChannelIDsOnIOThread
  | .onClearedChannelIDsOnIOThread => s.postTask .onClearedChannelIDs
  | .onClearedChannelIDs => s.onClearedChannelIDs
  | .onClearedPasswords => s.onClearedPasswords
  | .doNothingBeforeFormData => s.postTask .onClearedFormData
  | .onClearedFormData => s.onClearedFormData
  | .clearHttpCacheOnIOThread => s.postTask .doomHttpCache
  | .doomHttpCache =>
    if services.diskCacheBackend then s.postTask .postCallback else s.postTask .onClearedCache
  | .postCallback => s.postTask .onClearedCache
  | .onClearedCache => s.onClearedCache
  | .clearNetworkingHistorySinceOnIOThread => s.postTask .onClearedNetworkingHistory
  | .onClearedNetworkingHistory => s.onClearedNetworkingHistory

/-! ## `RemoveImpl` -/

/-- A request whose callback is run inside it or later. -/
def request (s : IOSChromeBrowsingDataRemover) (callback : CallbackTime) (task : Task) :
    IOSChromeBrowsingDataRemover :=
  match callback with
  | .insideRequest => s.runTask services task
  | .later => s.postTask task

/-- Sets the flag of a deletion and issues its request. -/
def startDeletion (s : IOSChromeBrowsingDataRemover) (deletion : Deletion)
    (callback : CallbackTime) (task : Task) : IOSChromeBrowsingDataRemover :=
  ((s.setWaiting true deletion).addEvent (.started deletion)).request services callback task

def expireHistory (s : IOSChromeBrowsingDataRemover) : IOSChromeBrowsingDataRemover :=
  match services.historyService with
  | none => s
  | some callback => s.startDeletion services .history callback .onHistoryDeletionDone

def clearHostnameResolutionCache (s : IOSChromeBrowsingDataRemover) :
    IOSChromeBrowsingDataRemover :=
  if services.iosChromeIOThread then
    s.startDeletion services .hostnameResolutionCache .later .clearHostCache
  else s

/-- The flag is set after the model was told to load. A model that is loaded
already is cleared at once. -/
def clearKeywordData (s : IOSChromeBrowsingDataRemover) : IOSChromeBrowsingDataRemover :=
  if services.browserState = .offTheRecord then s
  else
    match services.keywordsModel with
    | none | some .loaded => s
    | some (.notLoaded callback) =>
      ((s.addEvent (.started .keywordData)).request services callback
        .onKeywordsLoaded).setWaiting true .keywordData

def clearAutofillOriginURLs (s : IOSChromeBrowsingDataRemover) : IOSChromeBrowsingDataRemover :=
  if services.webDataService then
    s.startDeletion services .autofillOriginURLs .later .doNothingBeforeAutofillOriginURLs
  else s

def clearCookies (s : IOSChromeBrowsingDataRemover) : IOSChromeBrowsingDataRemover :=
  s.startDeletion services .cookies .later .clearCookiesOnIOThread

def clearChannelIDs (s : IOSChromeBrowsingDataRemover) : IOSChromeBrowsingDataRemover :=
  if services.mainContextGetter then
    s.startDeletion services .channelIDs .later .clearChannelIDsOnIOThread
  else s

def clearPasswords (s : IOSChromeBrowsingDataRemover) : IOSChromeBrowsingDataRemover :=
  match services.passwordStore with
  | none => s
  | some callback => s.startDeletion services .passwords callback .onClearedPasswords

def clearForm (s : IOSChromeBrowsingDataRemover) : IOSChromeBrowsingDataRemover :=
  if services.webDataService then
    s.startDeletion services .form .later .doNothingBeforeFormData
  else s

def clearCache (s : IOSChromeBrowsingDataRemover) : IOSChromeBrowsingDataRemover :=
  s.startDeletion services .cache .later .clearHttpCacheOnIOThread

/-- `ClearNetworkingHistorySince` posts to the IO thread, fires the callback
asynchronously, or (in tests) runs it. -/
def clearNetworkingHistory (s : IOSChromeBrowsingDataRemover) : IOSChromeBrowsingDataRemover :=
  match services.browserState with
  | .impl =>
    s.startDeletion services .networkingHistory .later .clearNetworkingHistorySinceOnIOThread
  | .offTheRecord =>
    s.startDeletion services .networkingHistory .later .onClearedNetworkingHistory
  | .test =>
    s.startDeletion services .networkingHistory .insideRequest .onClearedNetworkingHistory

def removeImpl (s : IOSChromeBrowsingDataRemover) (removeMask : BitVec 32) :
    IOSChromeBrowsingDataRemover :=
  let s := { s.setRemoving true with removeMask := removeMask }
  let s :=
    if removeMask &&& REMOVE_HISTORY ≠ 0 then
      (((s.expireHistory services).clearHostnameResolutionCache services).clearKeywordData
        services).clearAutofillOriginURLs services
    else s
  let s := if removeMask &&& REMOVE_COOKIES ≠ 0 then s.clearCookies services else s
  let s := if removeMask &&& REMOVE_CHANNEL_IDS ≠ 0 then s.clearChannelIDs services else s
  let s := if removeMask &&& REMOVE_PASSWORDS ≠ 0 then s.clearPasswords services else s
  let s := if removeMask &&& REMOVE_FORM_DATA ≠ 0 then s.clearForm services else s
  let s := if removeMask &&& REMOVE_CACHE ≠ 0 then s.clearCache services else s
  s.clearNetworkingHistory services

/-- After `RemoveImpl` the tasks in flight run, in any order. One that runs on the
IO thread before `RemoveImpl` returns does no more than post its next one. -/
def machine : Lib.Machine IOSChromeBrowsingDataRemover Task where
  Pre s task := task ∈ s.inFlight
  step s task := { s with inFlight := s.inFlight.erase task }.runTask services task

instance decidablePre (s : IOSChromeBrowsingDataRemover) (task : Task) :
    Decidable ((machine services).Pre s task) :=
  inferInstanceAs (Decidable (task ∈ s.inFlight))

/-! ## What a removal must do -/

/-- `is_removing_` has been set, and nothing was notified. -/
def Underway (events : List RemovalEvent) : Prop :=
  ∃ rest, events = .removing true :: rest ∧
    ∀ event ∈ rest, ∃ deletion, event = .started deletion ∨ event = .completed deletion

/-- One notification came last, after all that was started had completed. -/
def Finished (details : NotificationDetails) (events : List RemovalEvent) : Prop :=
  ∃ before, events = before ++ [.removing false, .notified details] ∧ Underway before ∧
    ∀ deletion, .started deletion ∈ before → .completed deletion ∈ before

/-- The observers are notified once, and that is when all deletions have completed. -/
def NotifiesOnceLast (s : IOSChromeBrowsingDataRemover) : Prop :=
  (s.isRemoving = true ∧ Underway s.events ∧
    ∃ deletion, .started deletion ∈ s.events ∧ .completed deletion ∉ s.events) ∨
  (s.isRemoving = false ∧ Finished ⟨s.deleteBegin, s.removeMask⟩ s.events)

/-! ## The deletions of a mask -/

/-- When the callback of a deletion is run. -/
def callbackTime : Deletion → CallbackTime
  | .history => services.historyService.getD .later
  | .keywordData =>
    match services.keywordsModel with
    | some (.notLoaded callback) => callback
    | _ => .later
  | .passwords => services.passwordStore.getD .later
  | .networkingHistory => if services.browserState = .test then .insideRequest else .later
  | _ => .later

/-- Whether the mask and the services make `RemoveImpl` start a deletion. -/
def Starts (removeMask : BitVec 32) : Deletion → Prop
  | .history => removeMask &&& REMOVE_HISTORY ≠ 0 ∧ services.historyService.isSome
  | .hostnameResolutionCache => removeMask &&& REMOVE_HISTORY ≠ 0 ∧ services.iosChromeIOThread
  | .keywordData =>
    removeMask &&& REMOVE_HISTORY ≠ 0 ∧ services.browserState ≠ .offTheRecord ∧
      services.keywordsModel.isSome ∧ services.keywordsModel ≠ some .loaded
  | .autofillOriginURLs => removeMask &&& REMOVE_HISTORY ≠ 0 ∧ services.webDataService
  | .cookies => removeMask &&& REMOVE_COOKIES ≠ 0
  | .channelIDs => removeMask &&& REMOVE_CHANNEL_IDS ≠ 0 ∧ services.mainContextGetter
  | .passwords => removeMask &&& REMOVE_PASSWORDS ≠ 0 ∧ services.passwordStore.isSome
  | .form => removeMask &&& REMOVE_FORM_DATA ≠ 0 ∧ services.webDataService
  | .cache => removeMask &&& REMOVE_CACHE ≠ 0
  | .networkingHistory => True

instance decidableStarts (removeMask : BitVec 32) : DecidablePred (Starts services removeMask)
  | .history | .hostnameResolutionCache | .keywordData | .autofillOriginURLs => instDecidableAnd
  | .cookies => instDecidableNot
  | .channelIDs | .passwords | .form => instDecidableAnd
  | .cache => instDecidableNot
  | .networkingHistory => instDecidableTrue

def allDeletions : List Deletion :=
  [.history, .hostnameResolutionCache, .keywordData, .autofillOriginURLs, .cookies, .channelIDs,
    .passwords, .form, .cache, .networkingHistory]

/-- The deletions that `RemoveImpl` starts, in order. -/
def startedDeletions (removeMask : BitVec 32) : List Deletion :=
  allDeletions.filter (Starts services removeMask ·)

/-- The deletion that is started first has its callback run later, unless it is
the only one, and the keywords are not loaded inside the call of `Load`. -/
def CallbacksInTime (removeMask : BitVec 32) : Prop :=
  (∀ first others, startedDeletions services removeMask = first :: others →
    callbackTime services first = .insideRequest → others = []) ∧
  (.keywordData ∈ startedDeletions services removeMask →
    callbackTime services .keywordData = .later)

section Starting

variable {services : RemovalServices} {s : IOSChromeBrowsingDataRemover}

/-- The first task of a deletion. -/
def firstTask (services : RemovalServices) : Deletion → Task
  | .history => .onHistoryDeletionDone
  | .hostnameResolutionCache => .clearHostCache
  | .keywordData => .onKeywordsLoaded
  | .autofillOriginURLs => .doNothingBeforeAutofillOriginURLs
  | .cookies => .clearCookiesOnIOThread
  | .channelIDs => .clearChannelIDsOnIOThread
  | .passwords => .onClearedPasswords
  | .form => .doNothingBeforeFormData
  | .cache => .clearHttpCacheOnIOThread
  | .networkingHistory =>
    if services.browserState = .impl then .clearNetworkingHistorySinceOnIOThread
    else .onClearedNetworkingHistory

/-- What `RemoveImpl` does for a deletion that it starts. -/
def start (services : RemovalServices) (s : IOSChromeBrowsingDataRemover) (deletion : Deletion) :
    IOSChromeBrowsingDataRemover :=
  if deletion = .keywordData then
    ((s.addEvent (.started .keywordData)).request services (callbackTime services .keywordData)
      .onKeywordsLoaded).setWaiting true .keywordData
  else s.startDeletion services deletion (callbackTime services deletion)
    (firstTask services deletion)

theorem expireHistory_eq :
    s.expireHistory services =
      if services.historyService.isSome then s.start services .history else s := by
  cases h : services.historyService <;> simp [expireHistory, start, callbackTime, firstTask, h]

theorem clearKeywordData_eq :
    s.clearKeywordData services =
      if services.browserState ≠ .offTheRecord ∧ services.keywordsModel.isSome ∧
          services.keywordsModel ≠ some .loaded then
        s.start services .keywordData
      else s := by
  by_cases hbrowser : services.browserState = .offTheRecord
  · simp [clearKeywordData, hbrowser]
  · match h : services.keywordsModel with
    | none => simp [clearKeywordData, hbrowser, h]
    | some .loaded => simp [clearKeywordData, hbrowser, h]
    | some (.notLoaded callback) => simp [clearKeywordData, start, callbackTime, hbrowser, h]

theorem clearPasswords_eq :
    s.clearPasswords services =
      if services.passwordStore.isSome then s.start services .passwords else s := by
  cases h : services.passwordStore <;> simp [clearPasswords, start, callbackTime, firstTask, h]

theorem clearNetworkingHistory_eq :
    s.clearNetworkingHistory services = s.start services .networkingHistory := by
  cases h : services.browserState <;>
    simp [clearNetworkingHistory, start, callbackTime, firstTask, h]

/-- The part of `RemoveImpl` for one deletion. -/
def startIf (services : RemovalServices) (removeMask : BitVec 32)
    (s : IOSChromeBrowsingDataRemover) (deletion : Deletion) : IOSChromeBrowsingDataRemover :=
  if Starts services removeMask deletion then s.start services deletion else s

variable (removeMask : BitVec 32)

theorem removeHistory_eq :
    (if removeMask &&& REMOVE_HISTORY ≠ 0 then
      (((s.expireHistory services).clearHostnameResolutionCache services).clearKeywordData
        services).clearAutofillOriginURLs services
    else s) =
      [.history, .hostnameResolutionCache, .keywordData, .autofillOriginURLs].foldl
        (startIf services removeMask) s := by
  simp only [foldl_cons, foldl_nil]
  by_cases hhistory : removeMask &&& REMOVE_HISTORY ≠ 0
  · have hpart (deletion : Deletion) (p : Prop) [Decidable p]
        (h : Starts services removeMask deletion ↔ removeMask &&& REMOVE_HISTORY ≠ 0 ∧ p)
        (s : IOSChromeBrowsingDataRemover) :
        s.startIf services removeMask deletion = if p then s.start services deletion else s :=
      ite_congr (propext (h.trans (and_iff_right hhistory))) (fun _ => rfl) fun _ => rfl
    rw [if_pos hhistory, hpart .history _ Iff.rfl, hpart .hostnameResolutionCache _ Iff.rfl,
      hpart .keywordData _ Iff.rfl, hpart .autofillOriginURLs _ Iff.rfl, ← expireHistory_eq,
      ← clearKeywordData_eq]
    rfl
  · have hnone (deletion : Deletion) (p : Prop)
        (h : Starts services removeMask deletion ↔ removeMask &&& REMOVE_HISTORY ≠ 0 ∧ p)
        (s : IOSChromeBrowsingDataRemover) : s.startIf services removeMask deletion = s :=
      if_neg fun hstarts => hhistory (h.1 hstarts).1
    rw [if_neg hhistory, hnone .history _ Iff.rfl, hnone .hostnameResolutionCache _ Iff.rfl,
      hnone .keywordData _ Iff.rfl, hnone .autofillOriginURLs _ Iff.rfl]

theorem removeChannelIDs_eq :
    (if removeMask &&& REMOVE_CHANNEL_IDS ≠ 0 then s.clearChannelIDs services else s) =
      s.startIf services removeMask .channelIDs := by
  rw [startIf, clearChannelIDs]
  exact (ite_and ..).symm

theorem removePasswords_eq :
    (if removeMask &&& REMOVE_PASSWORDS ≠ 0 then s.clearPasswords services else s) =
      s.startIf services removeMask .passwords := by
  rw [startIf, clearPasswords_eq]
  exact (ite_and ..).symm

theorem removeFormData_eq :
    (if removeMask &&& REMOVE_FORM_DATA ≠ 0 then s.clearForm services else s) =
      s.startIf services removeMask .form := by
  rw [startIf, clearForm]
  exact (ite_and ..).symm

/-- `RemoveImpl` starts the deletions of the mask one after the other. -/
theorem removeImpl_eq :
    s.removeImpl services removeMask =
      (startedDeletions services removeMask).foldl (start services)
        { s.setRemoving true with removeMask := removeMask } := by
  rw [startedDeletions, foldl_filter]
  simp only [removeImpl, removeHistory_eq, removeChannelIDs_eq, removePasswords_eq,
    removeFormData_eq, clearNetworkingHistory_eq, decide_eq_true_eq]
  rfl

end Starting

/-! ## Flags -/

section Flags

variable {s : IOSChromeBrowsingDataRemover} {deletion other : Deletion} {waiting : Bool}

/-- Whether the flag of a deletion is set. -/
def isWaiting (s : IOSChromeBrowsingDataRemover) : Deletion → Bool
  | .history => s.waitingForClearHistory
  | .hostnameResolutionCache => s.waitingForClearHostnameResolutionCache
  | .keywordData => s.waitingForClearKeywordData
  | .autofillOriginURLs => s.waitingForClearAutofillOriginURLs
  | .cookies => s.waitingForClearCookiesCount != 0
  | .channelIDs => s.waitingForClearChannelIDs
  | .passwords => s.waitingForClearPasswords
  | .form => s.waitingForClearForm
  | .cache => s.waitingForClearCache
  | .networkingHistory => s.waitingForClearNetworkingHistory

@[simp] theorem setWaiting_isRemoving :
    (s.setWaiting waiting deletion).isRemoving = s.isRemoving := by
  cases deletion <;> rfl

@[simp] theorem setWaiting_inFlight : (s.setWaiting waiting deletion).inFlight = s.inFlight := by
  cases deletion <;> rfl

@[simp] theorem setWaiting_events : (s.setWaiting waiting deletion).events = s.events := by
  cases deletion <;> rfl

variable (event : RemovalEvent)

@[simp] theorem addEvent_inFlight :
    (s.addEvent event).inFlight = s.inFlight := rfl

@[simp] theorem addEvent_events :
    (s.addEvent event).events = s.events ++ [event] := rfl

@[simp] theorem addEvent_isRemoving :
    (s.addEvent event).isRemoving = s.isRemoving := rfl

@[simp] theorem postTask_inFlight (task : Task) :
    (s.postTask task).inFlight = s.inFlight ++ [task] := rfl

@[simp] theorem postTask_events (task : Task) : (s.postTask task).events = s.events := rfl

@[simp] theorem addEvent_isWaiting : (s.addEvent event).isWaiting other = s.isWaiting other := by
  cases other <;> rfl

@[simp] theorem postTask_isWaiting (task : Task) :
    (s.postTask task).isWaiting other = s.isWaiting other := by
  cases other <;> rfl

theorem isWaiting_setWaiting_of_ne (h : other ≠ deletion) :
    (s.setWaiting waiting deletion).isWaiting other = s.isWaiting other := by
  cases deletion <;> cases other <;> first | rfl | exact absurd rfl h

theorem isWaiting_setWaiting_true : (s.setWaiting true deletion).isWaiting deletion = true := by
  cases deletion <;> simp [setWaiting, isWaiting]

theorem isWaiting_setWaiting_false (h : s.waitingForClearCookiesCount ≤ 1) :
    (s.setWaiting false deletion).isWaiting deletion = false := by
  cases deletion <;> simp [setWaiting, isWaiting, h]

theorem allDone_iff : s.allDone = true ↔ ∀ deletion, s.isWaiting deletion = false := by
  constructor
  · intro h deletion
    simp only [allDone, Bool.and_eq_true, Bool.not_eq_true', beq_iff_eq] at h
    cases deletion <;> simp [isWaiting, h]
  · intro h
    have hcookies : s.waitingForClearCookiesCount = 0 := by simpa [isWaiting] using h .cookies
    simp only [allDone, Bool.and_eq_true, Bool.not_eq_true', beq_iff_eq]
    exact ⟨⟨⟨⟨⟨⟨⟨⟨⟨h .autofillOriginURLs, h .cache⟩, h .channelIDs⟩, hcookies⟩, h .form⟩,
      h .history⟩, h .hostnameResolutionCache⟩, h .keywordData⟩, h .networkingHistory⟩,
      h .passwords⟩

@[simp] theorem notifyAndDelete_events : s.notifyAndDelete.events =
    s.events ++ [.removing false, .notified ⟨s.deleteBegin, s.removeMask⟩] :=
  append_assoc ..

theorem notifyAndDeleteIfDone_of_waiting (h : s.isWaiting deletion = true) :
    s.notifyAndDeleteIfDone = s := by
  refine if_neg fun hdone => ?_
  rw [allDone_iff.1 hdone deletion] at h
  cases h

end Flags

/-! ## Tasks -/

end IOSChromeBrowsingDataRemover

/-- The deletion that a task is a part of. -/
def Task.deletion : Task → Deletion
  | .onHistoryDeletionDone => .history
  | .clearHostCache | .onClearedHostnameResolutionCache => .hostnameResolutionCache
  | .onKeywordsLoaded => .keywordData
  | .doNothingBeforeAutofillOriginURLs | .onClearedAutofillOriginURLs => .autofillOriginURLs
  | .clearCookiesOnIOThread | .onClearedCookies _ => .cookies
  | .clearChannelIDsOnIOThread | .onClearedChannelIDsOnIOThread | .onClearedChannelIDs =>
    .channelIDs
  | .onClearedPasswords => .passwords
  | .doNothingBeforeFormData | .onClearedFormData => .form
  | .clearHttpCacheOnIOThread | .doomHttpCache | .postCallback | .onClearedCache => .cache
  | .clearNetworkingHistorySinceOnIOThread | .onClearedNetworkingHistory => .networkingHistory

/-- The task that a task posts; the callbacks on the UI thread post none. -/
def Task.next (services : RemovalServices) : Task → Option Task
  | .clearHostCache => some .onClearedHostnameResolutionCache
  | .doNothingBeforeAutofillOriginURLs => some .onClearedAutofillOriginURLs
  | .clearCookiesOnIOThread => some (.onClearedCookies .io)
  | .onClearedCookies .io => some (.onClearedCookies .ui)
  | .clearChannelIDsOnIOThread => some .onClearedChannelIDsOnIOThread
  | .onClearedChannelIDsOnIOThread => some .onClearedChannelIDs
  | .doNothingBeforeFormData => some .onClearedFormData
  | .clearHttpCacheOnIOThread => some .doomHttpCache
  | .doomHttpCache => some (if services.diskCacheBackend then .postCallback else .onClearedCache)
  | .postCallback => some .onClearedCache
  | .clearNetworkingHistorySinceOnIOThread => some .onClearedNetworkingHistory
  | _ => none

/-- How many tasks a task is followed by, at most. -/
def Task.hops : Task → Nat
  | .clearHttpCacheOnIOThread => 3
  | .clearCookiesOnIOThread | .clearChannelIDsOnIOThread | .doomHttpCache => 2
  | .clearHostCache | .doNothingBeforeAutofillOriginURLs | .onClearedCookies .io
  | .onClearedChannelIDsOnIOThread | .doNothingBeforeFormData | .postCallback
  | .clearNetworkingHistorySinceOnIOThread => 1
  | _ => 0

namespace IOSChromeBrowsingDataRemover

section Tasks

variable {services : RemovalServices} {s : IOSChromeBrowsingDataRemover} {task next : Task}

theorem deletion_next (h : task.next services = some next) : next.deletion = task.deletion := by
  cases task with
  | onClearedCookies thread => cases thread <;> cases h; rfl
  | doomHttpCache =>
    cases h
    cases services.diskCacheBackend <;> rfl
  | _ => cases h <;> rfl

theorem hops_next (h : task.next services = some next) : next.hops < task.hops := by
  cases task with
  | onClearedCookies thread => cases thread <;> cases h; decide
  | doomHttpCache =>
    cases h
    cases services.diskCacheBackend <;> decide
  | _ => cases h <;> decide

/-- A task posts the next one, or completes its deletion. -/
theorem runTask_eq (s : IOSChromeBrowsingDataRemover) (task : Task) :
    s.runTask services task =
      (task.next services).elim (s.onCleared task.deletion) s.postTask := by
  cases task with
  | onClearedCookies thread => cases thread <;> rfl
  | doomHttpCache =>
    rw [runTask, Task.next]
    cases services.diskCacheBackend <;> rfl
  | _ => rfl

end Tasks

/-! ## Removals underway -/

section Removing

variable {services : RemovalServices} {s : IOSChromeBrowsingDataRemover}
  {stuck : Bool} {pending : Deletion → Prop} {deletion : Deletion}

/-- `is_removing_` is set and nothing was notified; the flags that are set are
those of the pending deletions. A flag that is `stuck` is set for no deletion. -/
structure Removing (stuck : Bool) (pending : Deletion → Prop)
    (s : IOSChromeBrowsingDataRemover) : Prop where
  isRemoving : s.isRemoving = true
  underway : Underway s.events
  waiting_iff : ∀ deletion, s.isWaiting deletion = true ↔
    pending deletion ∨ stuck = true ∧ deletion = .keywordData
  cookiesOnce : s.waitingForClearCookiesCount ≤ 1
  started_iff : ∀ deletion, .started deletion ∈ s.events ↔
    pending deletion ∨ .completed deletion ∈ s.events
  not_completed : ∀ deletion, pending deletion → .completed deletion ∉ s.events
  stuck_completed : stuck = true → .completed .keywordData ∈ s.events

theorem Underway.addEvent {events : List RemovalEvent} (h : Underway events)
    (event : RemovalEvent) (hevent : event = .started deletion ∨ event = .completed deletion) :
    Underway (events ++ [event]) := by
  obtain ⟨rest, rfl, hrest⟩ := h
  refine ⟨rest ++ [event], rfl, fun other hother => ?_⟩
  rcases mem_append.1 hother with hmem | hmem
  · exact hrest other hmem
  · exact ⟨deletion, mem_singleton.1 hmem ▸ hevent⟩

theorem not_notified_mem {events : List RemovalEvent} (h : Underway events)
    (details : NotificationDetails) : .notified details ∉ events := by
  obtain ⟨rest, rfl, hrest⟩ := h
  intro hmem
  rcases mem_cons.1 hmem with heq | hmem
  · cases heq
  · obtain ⟨deletion, heq | heq⟩ := hrest _ hmem <;> cases heq

theorem Removing.congr {pending' : Deletion → Prop} (h : Removing stuck pending s)
    (hiff : ∀ deletion, pending deletion ↔ pending' deletion) : Removing stuck pending' s := by
  obtain rfl : pending = pending' := funext fun deletion => propext (hiff deletion)
  exact h

theorem Removing.postTask (h : Removing stuck pending s) (task : Task) :
    Removing stuck pending (s.postTask task) where
  isRemoving := h.isRemoving
  underway := h.underway
  waiting_iff deletion := by rw [postTask_isWaiting, h.waiting_iff]
  cookiesOnce := h.cookiesOnce
  started_iff := h.started_iff
  not_completed := h.not_completed
  stuck_completed := h.stuck_completed

theorem cookiesCount_setWaiting_true (h : s.waitingForClearCookiesCount ≤ 1)
    (hnot : s.isWaiting deletion = false) :
    (s.setWaiting true deletion).waitingForClearCookiesCount ≤ 1 := by
  cases deletion with
  | cookies =>
    have hzero : s.waitingForClearCookiesCount = 0 := by simpa [isWaiting] using hnot
    simp [setWaiting, hzero]
  | _ => exact h

theorem cookiesCount_setWaiting_false (h : s.waitingForClearCookiesCount ≤ 1) :
    (s.setWaiting false deletion).waitingForClearCookiesCount ≤ 1 := by
  cases deletion with
  | cookies => exact Nat.le_trans (Nat.sub_le ..) h
  | _ => exact h

/-- The flag is set for a deletion that was not started before. -/
theorem Removing.started (h : Removing stuck pending s)
    (hnew : .started deletion ∉ s.events) :
    Removing stuck (fun other => pending other ∨ other = deletion)
      ((s.setWaiting true deletion).addEvent (.started deletion)) := by
  have hnone : ¬ (pending deletion ∨ .completed deletion ∈ s.events) := by
    rwa [← h.started_iff]
  have hnotStuck : ¬ (stuck = true ∧ deletion = .keywordData) := by
    rintro ⟨hstuck, rfl⟩
    exact hnone (.inr (h.stuck_completed hstuck))
  have hnotWaiting : s.isWaiting deletion = false := by
    rw [← Bool.not_eq_true, h.waiting_iff]
    exact fun hwaiting => hwaiting.elim (fun hpending => hnone (.inl hpending)) hnotStuck
  constructor
  case isRemoving => simpa using h.isRemoving
  case underway => simpa using h.underway.addEvent _ (.inl rfl)
  case waiting_iff =>
    intro other
    rw [addEvent_isWaiting]
    by_cases hother : other = deletion
    · rw [hother, isWaiting_setWaiting_true]
      simp
    · rw [isWaiting_setWaiting_of_ne hother, h.waiting_iff]
      simp [hother]
  case cookiesOnce => exact cookiesCount_setWaiting_true h.cookiesOnce hnotWaiting
  case started_iff =>
    intro other
    have hiff := h.started_iff other
    by_cases hother : other = deletion
    · simp [hother]
    · simp [hiff, hother]
  case not_completed =>
    rintro other (hother | rfl)
    · simpa using h.not_completed other hother
    · simpa using fun hcompleted => hnone (.inr hcompleted)
  case stuck_completed => simpa using h.stuck_completed

/-- The flag of a pending deletion is cleared. -/
theorem Removing.completed (h : Removing stuck pending s) (hpending : pending deletion) :
    Removing stuck (fun other => pending other ∧ other ≠ deletion)
      ((s.setWaiting false deletion).addEvent (.completed deletion)) := by
  have hnotStuck : ¬ (stuck = true ∧ deletion = .keywordData) := by
    rintro ⟨hstuck, rfl⟩
    exact h.not_completed _ hpending (h.stuck_completed hstuck)
  constructor
  case isRemoving => simpa using h.isRemoving
  case underway => simpa using h.underway.addEvent _ (.inr rfl)
  case waiting_iff =>
    intro other
    rw [addEvent_isWaiting]
    by_cases hother : other = deletion
    · rw [hother, isWaiting_setWaiting_false h.cookiesOnce]
      simpa using hnotStuck
    · rw [isWaiting_setWaiting_of_ne hother, h.waiting_iff]
      simp [hother]
  case cookiesOnce => exact cookiesCount_setWaiting_false h.cookiesOnce
  case started_iff =>
    intro other
    have hiff := h.started_iff other
    by_cases hother : other = deletion
    · simpa [hother] using (h.started_iff deletion).2 (.inl hpending)
    · simp [hiff, hother]
  case not_completed =>
    rintro other ⟨hother, hne⟩
    simpa [hne] using h.not_completed other hother
  case stuck_completed =>
    intro hstuck
    simpa using .inl (h.stuck_completed hstuck)

/-- The observers were notified, when all that was started had completed. -/
structure Done (s : IOSChromeBrowsingDataRemover) : Prop where
  isRemoving : s.isRemoving = false
  finished : Finished ⟨s.deleteBegin, s.removeMask⟩ s.events

theorem Done.exists_notified (h : Done s) : ∃ details, .notified details ∈ s.events := by
  obtain ⟨before, hevents, -⟩ := h.finished
  rw [hevents]
  exact ⟨_, mem_append_right before (mem_cons_of_mem _ mem_cons_self)⟩

/-- The callback of the last pending deletion notifies the observers. -/
theorem Removing.done (h : Removing false pending s) (hlast : ∀ other, ¬ pending other) :
    Done s.notifyAndDeleteIfDone := by
  have hdone : s.allDone = true := by
    rw [allDone_iff]
    intro other
    rw [← Bool.not_eq_true, h.waiting_iff]
    simpa using hlast other
  rw [notifyAndDeleteIfDone, if_pos hdone]
  refine ⟨rfl, s.events, notifyAndDelete_events, h.underway, ?_⟩
  exact fun other hother => ((h.started_iff other).1 hother).resolve_left (hlast other)

/-- Each pending deletion has one task in flight, and some flag is set. -/
structure Busy (stuck : Bool) (s : IOSChromeBrowsingDataRemover) : Prop where
  removing : Removing stuck (· ∈ s.inFlight.map Task.deletion) s
  nodup : (s.inFlight.map Task.deletion).Nodup
  busy : stuck = true ∨ s.inFlight ≠ []

theorem Busy.exists_waiting (h : Busy stuck s) : ∃ deletion, s.isWaiting deletion = true := by
  rcases h.busy with hstuck | hne
  · exact ⟨.keywordData, (h.removing.waiting_iff _).2 (.inr ⟨hstuck, rfl⟩)⟩
  · obtain ⟨task, hmem⟩ := exists_mem_of_ne_nil _ hne
    exact ⟨task.deletion, (h.removing.waiting_iff _).2 (.inl (mem_map_of_mem hmem))⟩

/-! ## The tasks, one by one -/

/-- What every reachable state is: underway, or done with nothing in flight. -/
def Settling (stuck : Bool) (s : IOSChromeBrowsingDataRemover) : Prop :=
  Busy stuck s ∨ stuck = false ∧ Done s ∧ s.inFlight = []

theorem mem_map_erase {tasks : List Task} {task : Task} (hmem : task ∈ tasks)
    (hnodup : (tasks.map Task.deletion).Nodup) :
    ((tasks.erase task).map Task.deletion).Nodup ∧
      task.deletion ∉ (tasks.erase task).map Task.deletion ∧
      ∀ other, other ∈ tasks.map Task.deletion ↔
        other = task.deletion ∨ other ∈ (tasks.erase task).map Task.deletion := by
  have hperm := (perm_cons_erase hmem).map Task.deletion
  have hsplit := hperm.nodup_iff.1 hnodup
  rw [map_cons, nodup_cons] at hsplit
  refine ⟨hsplit.2, hsplit.1, fun other => ?_⟩
  rw [hperm.mem_iff, map_cons, mem_cons]

/-- A pending deletion completes while others are pending. -/
theorem Removing.completed_busy (h : Removing stuck pending s) (hpending : pending deletion)
    (hothers : ∀ other, other ∈ s.inFlight.map Task.deletion ↔ pending other ∧ other ≠ deletion)
    (hnodup : (s.inFlight.map Task.deletion).Nodup) (hbusy : stuck = true ∨ s.inFlight ≠ []) :
    Busy stuck ((s.setWaiting false deletion).addEvent (.completed deletion)) := by
  refine ⟨(h.completed hpending).congr fun other => ?_, ?_, ?_⟩
  · simpa using (hothers other).symm
  · simpa using hnodup
  · simpa using hbusy

theorem Busy.notifyAndDeleteIfDone_eq (h : Busy stuck s) : s.notifyAndDeleteIfDone = s := by
  obtain ⟨deletion, hwaiting⟩ := h.exists_waiting
  exact notifyAndDeleteIfDone_of_waiting hwaiting

/-- A pending deletion completes; what is in flight is of the others. -/
theorem Removing.onCleared (h : Removing stuck pending s) (hpending : pending deletion)
    (hothers : ∀ other, other ∈ s.inFlight.map Task.deletion ↔ pending other ∧ other ≠ deletion)
    (hnodup : (s.inFlight.map Task.deletion).Nodup) : Settling stuck (s.onCleared deletion) := by
  by_cases hwaiting : stuck = true ∨ s.inFlight ≠ []
  · have hbusy := h.completed_busy hpending hothers hnodup hwaiting
    rw [IOSChromeBrowsingDataRemover.onCleared, hbusy.notifyAndDeleteIfDone_eq]
    exact .inl hbusy
  · obtain ⟨hstuck, hnil⟩ := not_or.1 hwaiting
    obtain rfl : stuck = false := Bool.eq_false_iff.2 hstuck
    have hnil := not_ne_iff.1 hnil
    have hlast : ∀ other, ¬ (pending other ∧ other ≠ deletion) := by
      intro other hother
      rw [← hothers, hnil] at hother
      cases hother
    refine .inr ⟨rfl, (h.completed hpending).done hlast, ?_⟩
    rw [IOSChromeBrowsingDataRemover.onCleared, notifyAndDeleteIfDone]
    split <;> simp [notifyAndDelete, setRemoving, hnil]

/-- A task keeps the removal settling. -/
theorem Settling.step (h : Settling stuck s) {task : Task} (hmem : task ∈ s.inFlight) :
    Settling stuck ((machine services).step s task) := by
  rcases h with hbusy | ⟨-, -, hnil⟩
  case inr =>
    rw [hnil] at hmem
    cases hmem
  obtain ⟨hnodup, hnotMem, hsplit⟩ := mem_map_erase hmem hbusy.nodup
  have hremoving : Removing stuck (· ∈ s.inFlight.map Task.deletion)
      { s with inFlight := s.inFlight.erase task } := by
    obtain ⟨hisRemoving, hunderway, hwaiting, hcookies, hstarted, hnot, hstuck⟩ := hbusy.removing
    exact ⟨hisRemoving, hunderway, fun other => by rw [← hwaiting]; cases other <;> rfl, hcookies,
      hstarted, hnot, hstuck⟩
  have hpending : task.deletion ∈ s.inFlight.map Task.deletion := mem_map_of_mem hmem
  show Settling stuck (runTask services _ task)
  rw [runTask_eq]
  cases hnext : task.next services with
  | none =>
    refine hremoving.onCleared hpending (fun other => ?_) hnodup
    rw [hsplit]
    constructor
    · intro hother
      exact ⟨.inr hother, fun heq => hnotMem (heq ▸ hother)⟩
    · rintro ⟨heq | hother, hne⟩
      · exact absurd heq hne
      · exact hother
  | some next =>
    have hdeletion := deletion_next hnext
    refine .inl ⟨(hremoving.postTask next).congr fun other => ?_, ?_, .inr (by simp)⟩
    · rw [hsplit]
      simp [hdeletion, or_comm]
    · simpa [hdeletion, nodup_append] using
        ⟨hnodup, fun other hother heq => hnotMem (by
          rw [← heq]
          exact mem_map_of_mem hother)⟩

/-! ## `RemoveImpl`, one deletion after the other -/

theorem firstTask_deletion : (firstTask services deletion).deletion = deletion := by
  cases deletion with
  | networkingHistory =>
    rw [firstTask]
    split <;> rfl
  | _ => rfl

/-- Those whose callback may be run inside the request have no other task. -/
theorem firstTask_next (h : callbackTime services deletion = .insideRequest) :
    (firstTask services deletion).next services = none := by
  cases deletion with
  | networkingHistory =>
    have hbrowser : services.browserState = .test := by
      by_contra hne
      rw [callbackTime, if_neg hne] at h
      cases h
    rw [firstTask, if_neg (by rw [hbrowser]; decide)]
    rfl
  | history => rfl
  | keywordData => rfl
  | passwords => rfl
  | _ => cases h

theorem start_later (h : callbackTime services deletion = .later) :
    s.start services deletion = ((s.setWaiting true deletion).addEvent
      (.started deletion)).postTask (firstTask services deletion) := by
  rw [start]
  split
  case isTrue hkeyword =>
    subst hkeyword
    rw [h]
    rfl
  case isFalse => rw [startDeletion, h, request]

theorem start_insideRequest (h : callbackTime services deletion = .insideRequest)
    (hne : deletion ≠ .keywordData) :
    s.start services deletion = ((s.setWaiting true deletion).addEvent
      (.started deletion)).onCleared deletion := by
  rw [start, if_neg hne, startDeletion, h, request, runTask_eq, firstTask_next h,
    firstTask_deletion]
  rfl

theorem start_keywordData_insideRequest
    (h : callbackTime services .keywordData = .insideRequest) :
    s.start services .keywordData =
      ((s.addEvent (.started .keywordData)).onCleared .keywordData).setWaiting true
        .keywordData := by
  rw [start, if_pos rfl, h]
  rfl

/-- A deletion whose callback is run later is pending from then on. -/
theorem Removing.start_later (h : Removing stuck (· ∈ s.inFlight.map Task.deletion) s)
    (hnodup : (s.inFlight.map Task.deletion).Nodup) (hnew : .started deletion ∉ s.events)
    (hlater : callbackTime services deletion = .later) :
    Busy stuck (s.start services deletion) := by
  have hpending : deletion ∉ s.inFlight.map Task.deletion := fun hmem =>
    hnew ((h.started_iff _).2 (.inl hmem))
  rw [IOSChromeBrowsingDataRemover.start_later hlater]
  refine ⟨((h.started hnew).postTask _).congr fun other => ?_, ?_, .inr (by simp)⟩
  · simp [addEvent, firstTask_deletion]
  · simpa [addEvent, firstTask_deletion,
      nodup_append] using ⟨hnodup, fun task hmem heq =>
        hpending (heq ▸ mem_map_of_mem hmem)⟩

/-- A deletion that completes inside its request. -/
theorem Busy.startedCompleted (h : Busy stuck s) (hnew : .started deletion ∉ s.events) :
    Busy stuck ((((s.setWaiting true deletion).addEvent (.started deletion)).setWaiting false
      deletion).addEvent (.completed deletion)) := by
  have hpending : deletion ∉ s.inFlight.map Task.deletion := fun hmem =>
    hnew ((h.removing.started_iff _).2 (.inl hmem))
  refine (h.removing.started hnew).completed_busy (.inr rfl) (fun other => ?_) ?_ ?_
  · simp only [addEvent_inFlight, setWaiting_inFlight]
    constructor
    · exact fun hother => ⟨.inl hother, fun heq => hpending (heq ▸ hother)⟩
    · rintro ⟨hother | heq, hne⟩
      · exact hother
      · exact absurd heq hne
  · simpa using h.nodup
  · simpa using h.busy

/-- The flag of the keywords, set after they were loaded. -/
theorem Busy.setWaiting_keywordData (h : Busy stuck s)
    (hcompleted : .completed .keywordData ∈ s.events) :
    Busy true (s.setWaiting true .keywordData) := by
  obtain ⟨hisRemoving, hunderway, hwaiting, hcookies, hstarted, hnot, hstuck⟩ := h.removing
  refine ⟨⟨hisRemoving, hunderway, fun other => ?_, hcookies, hstarted, hnot,
    fun _ => hcompleted⟩, h.nodup, .inl rfl⟩
  by_cases hother : other = .keywordData
  · rw [hother, isWaiting_setWaiting_true]
    simp
  · rw [isWaiting_setWaiting_of_ne hother, hwaiting]
    simp [hother]

/-- Loading the keywords inside `Load` leaves their flag set for good. -/
def leavesFlag (services : RemovalServices) (deletion : Deletion) : Bool :=
  deletion = .keywordData ∧ callbackTime services deletion = .insideRequest

theorem Busy.start (h : Busy stuck s) (hnew : .started deletion ∉ s.events) :
    Busy (stuck || leavesFlag services deletion) (s.start services deletion) := by
  cases htime : callbackTime services deletion with
  | later =>
    have hflag : leavesFlag services deletion = false := by simp [leavesFlag, htime]
    rw [hflag, Bool.or_false]
    exact h.removing.start_later h.nodup hnew htime
  | insideRequest =>
    have hbusy := h.startedCompleted hnew
    by_cases hkeyword : deletion = .keywordData
    · subst hkeyword
      have hflag : leavesFlag services .keywordData = true := by simp [leavesFlag, htime]
      rw [hflag, Bool.or_true, start_keywordData_insideRequest htime]
      have hcleared : (s.addEvent (.started .keywordData)).onCleared .keywordData =
          (((s.setWaiting true .keywordData).addEvent (.started .keywordData)).setWaiting false
            .keywordData).addEvent (.completed .keywordData) :=
        hbusy.notifyAndDeleteIfDone_eq
      rw [hcleared]
      exact hbusy.setWaiting_keywordData (by simp)
    · have hflag : leavesFlag services deletion = false := by simp [leavesFlag, hkeyword]
      rw [hflag, Bool.or_false, start_insideRequest htime hkeyword]
      have hcleared : ((s.setWaiting true deletion).addEvent (.started deletion)).onCleared
          deletion = _ := hbusy.notifyAndDeleteIfDone_eq
      rw [hcleared]
      exact hbusy

/-- What starting a deletion logs. -/
theorem start_events (services : RemovalServices) (s : IOSChromeBrowsingDataRemover)
    (deletion : Deletion) :
    ∃ rest, (s.start services deletion).events = s.events ++ .started deletion :: rest ∧
      ∀ other, .started other ∉ rest := by
  have hcleared (t : IOSChromeBrowsingDataRemover)
      (hevents : t.events = s.events ++ [.started deletion]) :
      ∃ rest, (t.onCleared deletion).events = s.events ++ .started deletion :: rest ∧
        ∀ other, .started other ∉ rest := by
    rw [onCleared, notifyAndDeleteIfDone]
    split
    · exact ⟨[.completed deletion, .removing false, .notified ⟨t.deleteBegin, t.removeMask⟩],
        by cases deletion <;> simp [notifyAndDelete, setRemoving, hevents, setWaiting, addEvent],
        by simp⟩
    · exact ⟨[.completed deletion], by simp [hevents], by simp⟩
  cases htime : callbackTime services deletion with
  | later => exact ⟨[], by simp [start_later htime], by simp⟩
  | insideRequest =>
    by_cases hkeyword : deletion = .keywordData
    · subst hkeyword
      rw [start_keywordData_insideRequest htime, setWaiting_events]
      exact hcleared _ rfl
    · rw [start_insideRequest htime hkeyword]
      exact hcleared _ (by simp)

theorem start_not_started {other : Deletion} (h : .started other ∉ s.events)
    (hne : other ≠ deletion) : .started other ∉ (s.start services deletion).events := by
  obtain ⟨rest, hevents, hnone⟩ := start_events services s deletion
  rw [hevents, mem_append, mem_cons]
  rintro (hmem | heq | hmem)
  · exact h hmem
  · cases heq
    exact hne rfl
  · exact hnone other hmem

theorem Busy.foldl_start {deletions : List Deletion} (hnodup : deletions.Nodup) (h : Busy stuck s)
    (hnew : ∀ deletion ∈ deletions, .started deletion ∉ s.events) :
    Busy (stuck || deletions.any (leavesFlag services))
      (deletions.foldl (IOSChromeBrowsingDataRemover.start services) s) := by
  induction deletions generalizing s stuck with
  | nil => simpa using h
  | cons deletion deletions ih =>
    obtain ⟨hnotMem, hnodup⟩ := nodup_cons.1 hnodup
    obtain ⟨hfirst, hrest⟩ := forall_mem_cons.1 hnew
    rw [foldl_cons, any_cons, ← Bool.or_assoc]
    exact ih hnodup (h.start hfirst) fun other hother =>
      start_not_started (hrest other hother) (ne_of_mem_of_not_mem hother hnotMem)

theorem Settling.notifiesOnceLast (h : Settling false s) : NotifiesOnceLast s := by
  rcases h with hbusy | ⟨-, hdone, -⟩
  · obtain ⟨task, hmem⟩ := exists_mem_of_ne_nil _ (hbusy.busy.resolve_left (by decide))
    have hpending := mem_map_of_mem (f := Task.deletion) hmem
    exact .inl ⟨hbusy.removing.isRemoving, hbusy.removing.underway, task.deletion,
      (hbusy.removing.started_iff _).2 (.inl hpending),
      hbusy.removing.not_completed _ hpending⟩
  · exact .inr ⟨hdone.isRemoving, hdone.finished⟩

end Removing

/-! ## Whole removals -/

section Removal

variable {services : RemovalServices} {deleteBegin : Int} {removeMask : BitVec 32}

/-- What the deletions are started from. -/
def begun (deleteBegin : Int) (removeMask : BitVec 32) : IOSChromeBrowsingDataRemover :=
  { setRemoving { deleteBegin := deleteBegin } true with removeMask := removeMask }

/-- A new remover after `RemoveImpl`. -/
def removal (services : RemovalServices) (deleteBegin : Int) (removeMask : BitVec 32) :
    IOSChromeBrowsingDataRemover :=
  removeImpl services { deleteBegin := deleteBegin } removeMask

@[simp] theorem begun_inFlight : (begun deleteBegin removeMask).inFlight = [] := rfl

theorem removal_eq : removal services deleteBegin removeMask =
    (startedDeletions services removeMask).foldl (start services) (begun deleteBegin removeMask) :=
  removeImpl_eq removeMask

theorem begun_removing :
    Removing false (· ∈ (begun deleteBegin removeMask).inFlight.map Task.deletion)
      (begun deleteBegin removeMask) where
  isRemoving := rfl
  underway := ⟨[], rfl, by simp⟩
  waiting_iff deletion := by cases deletion <;> simp [begun, setRemoving, addEvent, isWaiting]
  cookiesOnce := Nat.zero_le 1
  started_iff deletion := by simp [begun, setRemoving, addEvent]
  not_completed deletion := by simp [begun, setRemoving, addEvent]
  stuck_completed := by simp

theorem begun_not_started (deletion : Deletion) :
    .started deletion ∉ (begun deleteBegin removeMask).events := by
  simp [begun, setRemoving]

theorem startedDeletions_nodup : (startedDeletions services removeMask).Nodup :=
  List.Nodup.filter _ (by decide)

theorem networkingHistory_mem : .networkingHistory ∈ startedDeletions services removeMask :=
  mem_filter.2 ⟨by decide, decide_eq_true trivial⟩

/-- The first deletion is pending while the others are started. -/
theorem removal_busy {first : Deletion} {others : List Deletion}
    (hstarted : startedDeletions services removeMask = first :: others)
    (hlater : callbackTime services first = .later) :
    Busy (others.any (leavesFlag services)) (removal services deleteBegin removeMask) := by
  have hnodup : (first :: others).Nodup := hstarted ▸ startedDeletions_nodup
  obtain ⟨hnotMem, hnodup⟩ := nodup_cons.1 hnodup
  have hfirst : Busy false ((begun deleteBegin removeMask).start services first) :=
    begun_removing.start_later nodup_nil (begun_not_started first) hlater
  rw [removal_eq, hstarted, foldl_cons]
  exact hfirst.foldl_start hnodup fun other hother =>
    start_not_started (begun_not_started other) (ne_of_mem_of_not_mem hother hnotMem)

theorem removal_settling (h : CallbacksInTime services removeMask) :
    Settling false (removal services deleteBegin removeMask) := by
  cases hstarted : startedDeletions services removeMask with
  | nil =>
    have hmem : .networkingHistory ∈ startedDeletions services removeMask := networkingHistory_mem
    rw [hstarted] at hmem
    cases hmem
  | cons first others =>
    have hkeyword : .keywordData ∈ first :: others →
        callbackTime services .keywordData = .later := by
      rw [← hstarted]
      exact h.2
    cases htime : callbackTime services first with
    | later =>
      have hflags : others.any (leavesFlag services) = false := by
        rw [any_eq_false]
        intro other hother hleaves
        obtain ⟨rfl, hinside⟩ : other = .keywordData ∧
          callbackTime services other = .insideRequest := by simpa [leavesFlag] using hleaves
        rw [hkeyword (mem_cons_of_mem _ hother)] at hinside
        cases hinside
      rw [← hflags]
      exact .inl (removal_busy hstarted htime)
    | insideRequest =>
      obtain rfl := h.1 first others hstarted htime
      have hne : first ≠ .keywordData := by
        rintro rfl
        rw [hkeyword mem_cons_self] at htime
        cases htime
      rw [removal_eq, hstarted, foldl_cons, foldl_nil,
        start_insideRequest htime hne]
      exact (begun_removing.started (begun_not_started first)).onCleared (.inr rfl)
        (fun other => by simp) (by simp)

theorem Settling.run {stuck : Bool} {s : IOSChromeBrowsingDataRemover} {tasks : List Task}
    (h : Settling stuck s) (hlegal : (machine services).Legal s tasks) :
    Settling stuck ((machine services).run s tasks) :=
  Lib.Machine.run_invariant (fun _ _ hsettling hmem => hsettling.step hmem) h hlegal

@[simp] theorem onCleared_inFlight (s : IOSChromeBrowsingDataRemover) (deletion : Deletion) :
    (s.onCleared deletion).inFlight = s.inFlight := by
  rw [onCleared, notifyAndDeleteIfDone]
  split <;> simp [notifyAndDelete, setRemoving]

theorem step_inFlight (s : IOSChromeBrowsingDataRemover) (task : Task) :
    ((machine services).step s task).inFlight =
      s.inFlight.erase task ++ (task.next services).toList := by
  show (runTask services _ task).inFlight = _
  rw [runTask_eq]
  cases task.next services <;> simp

/-- The tasks in flight can be run until there are none. -/
theorem exists_drained (services : RemovalServices) (s : IOSChromeBrowsingDataRemover) :
    ∃ tasks, (machine services).Legal s tasks ∧
      ((machine services).run s tasks).inFlight = [] := by
  induction hwork : (s.inFlight.map fun task => task.hops + 1).sum using Nat.strongRecOn
    generalizing s with
  | ind work ih =>
    cases hflight : s.inFlight with
    | nil => exact ⟨[], trivial, hflight⟩
    | cons task tasks =>
      have hmem : task ∈ s.inFlight := hflight ▸ mem_cons_self
      have hless : (((machine services).step s task).inFlight.map fun task =>
          task.hops + 1).sum < work := by
        rw [← hwork, step_inFlight, hflight, erase_cons_head, map_append,
          sum_append, map_cons, sum_cons]
        cases hnext : task.next services with
        | none => simp
        | some next =>
          have hhops := hops_next hnext
          simp
          omega
      obtain ⟨rest, hlegal, hdrained⟩ := ih _ hless _ rfl
      exact ⟨task :: rest, ⟨hmem, hlegal⟩, hdrained⟩

/-- A removal whose keyword flag stays set never notifies. -/
theorem Settling.not_notifiesOnceLast {s : IOSChromeBrowsingDataRemover} (h : Settling true s)
    (hdrained : s.inFlight = []) : ¬ NotifiesOnceLast s := by
  have hbusy := h.resolve_right fun hright => Bool.noConfusion hright.1
  rintro (⟨-, -, deletion, hstarted, hnot⟩ | ⟨hisRemoving, -⟩)
  · rw [hbusy.removing.started_iff, hdrained] at hstarted
    exact hnot (hstarted.resolve_left not_mem_nil)
  · rw [hbusy.removing.isRemoving] at hisRemoving
    cases hisRemoving

/-- What follows a notification shows that it was not the last thing. -/
theorem not_notifiesOnceLast_of_prefix {s : IOSChromeBrowsingDataRemover}
    {before after : List RemovalEvent} {details : NotificationDetails}
    (hevents : s.events = before ++ after) (hnotified : .notified details ∈ before)
    (hafter : after ≠ []) : ¬ NotifiesOnceLast s := by
  rintro (⟨-, hunderway, -⟩ | ⟨-, start, hfinished, hunderway, -⟩)
  · exact not_notified_mem hunderway details (hevents ▸ mem_append_left after hnotified)
  · obtain ⟨rest, last, rfl⟩ := eq_nil_or_concat after |>.resolve_left hafter
    have hsplit : start ++ [.removing false] = before ++ rest := by
      have heq := hevents.symm.trans hfinished
      rw [concat_eq_append, ← append_assoc] at heq
      have hlast := append_inj_left' (heq.trans
        (append_assoc start [.removing false] [_]).symm) rfl
      exact hlast.symm
    have hmem : .notified details ∈ start ++ [RemovalEvent.removing false] :=
      hsplit ▸ mem_append_left rest hnotified
    rcases mem_append.1 hmem with hstart | hremoving
    · exact not_notified_mem hunderway details hstart
    · cases mem_singleton.1 hremoving

/-- A first deletion that completes inside its request is taken for the last. -/
theorem start_notified {first : Deletion} (h : callbackTime services first = .insideRequest) :
    ∃ details, .notified details ∈
      ((begun deleteBegin removeMask).start services first).events := by
  have hdone : Done ((((begun deleteBegin removeMask).setWaiting true first).addEvent
      (.started first)).onCleared first) :=
    ((begun_removing.started (begun_not_started first)).completed (.inr rfl)).done (by simp)
  obtain ⟨details, hnotified⟩ := hdone.exists_notified
  refine ⟨details, ?_⟩
  by_cases hkeyword : first = .keywordData
  · -- The flag that is set too late makes no difference to what is notified.
    subst hkeyword
    rw [start_keywordData_insideRequest h, setWaiting_events]
    exact hnotified
  · rw [start_insideRequest h hkeyword]
    exact hnotified

/-- Starting deletions adds events. -/
theorem foldl_start_events (services : RemovalServices) (s : IOSChromeBrowsingDataRemover)
    (deletions : List Deletion) :
    ∃ rest, (deletions.foldl (start services) s).events = s.events ++ rest ∧
      (deletions ≠ [] → rest ≠ []) := by
  induction deletions generalizing s with
  | nil => exact ⟨[], by simp, fun h => absurd rfl h⟩
  | cons deletion deletions ih =>
    obtain ⟨first, hfirst, -⟩ := start_events services s deletion
    obtain ⟨rest, hrest, -⟩ := ih (s.start services deletion)
    exact ⟨.started deletion :: first ++ rest, by simp [hrest, hfirst], by simp⟩

/-- Whatever the order of the callbacks, the observers are notified once and
last, unless the first of several deletions completes inside its request or the
keywords are loaded inside `Load`. -/
theorem notifies_once_last_iff (services : RemovalServices) (deleteBegin : Int)
    (removeMask : BitVec 32) :
    (∀ tasks, (machine services).Legal (removal services deleteBegin removeMask) tasks →
      NotifiesOnceLast ((machine services).run (removal services deleteBegin removeMask) tasks)) ↔
      CallbacksInTime services removeMask := by
  constructor
  · intro h
    have hfirst : ∀ first others, startedDeletions services removeMask = first :: others →
        callbackTime services first = .insideRequest → others = [] := by
      intro first others hstarted hinside
      by_contra hothers
      obtain ⟨details, hnotified⟩ := start_notified hinside
      obtain ⟨rest, hevents, hrest⟩ := foldl_start_events services
        ((begun deleteBegin removeMask).start services first) others
      refine not_notifiesOnceLast_of_prefix ?_ hnotified (hrest hothers) (h [] trivial)
      rw [Lib.Machine.run, removal_eq, hstarted]
      exact hevents
    refine ⟨hfirst, fun hkeyword => ?_⟩
    cases hinside : callbackTime services .keywordData with
    | later => rfl
    | insideRequest =>
      have hleaves : leavesFlag services .keywordData = true := by simp [leavesFlag, hinside]
      obtain ⟨tasks, hlegal, hdrained⟩ :=
        exists_drained services (removal services deleteBegin removeMask)
      refine absurd (h tasks hlegal) (Settling.not_notifiesOnceLast ?_ hdrained)
      refine Settling.run (.inl ?_) hlegal
      cases hstarted : startedDeletions services removeMask with
      | nil =>
        rw [hstarted] at hkeyword
        cases hkeyword
      | cons first others =>
        cases htime : callbackTime services first with
        | later =>
          have hmem : .keywordData ∈ others := by
            refine (mem_cons.1 (hstarted ▸ hkeyword)).resolve_left fun heq => ?_
            rw [← heq, hinside] at htime
            cases htime
          have hflag : others.any (leavesFlag services) = true :=
            any_eq_true.2 ⟨_, hmem, hleaves⟩
          rw [← hflag]
          exact removal_busy hstarted htime
        | insideRequest =>
          have hboth : ∀ deletion ∈ startedDeletions services removeMask, deletion = first := by
            rw [hstarted, hfirst first others hstarted htime]
            simp
          exact absurd ((hboth _ hkeyword).trans (hboth _ networkingHistory_mem).symm) (by decide)
  · intro h tasks hlegal
    exact ((removal_settling h).run hlegal).notifiesOnceLast

/-- A keywords model without a database is loaded as soon as it is told to. -/
def loadsAtOnce : RemovalServices where
  historyService := some .later
  iosChromeIOThread := true
  keywordsModel := some (.notLoaded .insideRequest)
  webDataService := true
  mainContextGetter := true
  passwordStore := some .later
  diskCacheBackend := true
  browserState := .impl

/-- The history, its host names and origins and the network data, cleared. -/
def historyTasks : List Task :=
  [.onHistoryDeletionDone, .clearHostCache, .onClearedHostnameResolutionCache,
    .doNothingBeforeAutofillOriginURLs, .onClearedAutofillOriginURLs,
    .clearNetworkingHistorySinceOnIOThread, .onClearedNetworkingHistory]

theorem loadsAtOnce_not_notified :
    ¬ ∀ tasks, (machine loadsAtOnce).Legal (removal loadsAtOnce 0 REMOVE_HISTORY) tasks →
      NotifiesOnceLast
        ((machine loadsAtOnce).run (removal loadsAtOnce 0 REMOVE_HISTORY) tasks) := by
  intro h
  have hlegal : (machine loadsAtOnce).Legal (removal loadsAtOnce 0 REMOVE_HISTORY)
      historyTasks := by
    rw [Lib.Machine.Legal]
    decide +kernel
  have hremoving : ((machine loadsAtOnce).run (removal loadsAtOnce 0 REMOVE_HISTORY)
      historyTasks).isRemoving = true := by
    decide +kernel
  have hcompleted : ∀ event ∈ ((machine loadsAtOnce).run (removal loadsAtOnce 0 REMOVE_HISTORY)
      historyTasks).events, ∀ deletion ∈ allDeletions, event = .started deletion →
      .completed deletion ∈ ((machine loadsAtOnce).run (removal loadsAtOnce 0 REMOVE_HISTORY)
        historyTasks).events := by
    decide +kernel
  rcases h historyTasks hlegal with ⟨-, -, deletion, hstarted, hnot⟩ | ⟨hnotRemoving, -⟩
  · exact hnot (hcompleted _ hstarted deletion (by cases deletion <;> decide) rfl)
  · rw [hremoving] at hnotRemoving
    cases hnotRemoving

end Removal

end IOSChromeBrowsingDataRemover

end ChromiumIos
