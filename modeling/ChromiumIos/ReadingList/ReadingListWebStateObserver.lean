import ChromiumIos.ReadingList.ReadingListDownloadService
import ChromiumIos.Ui.PageTransition
import Mathlib.Data.Rat.Defs

/-!
# `ReadingListWebStateObserver`

`reading_list_web_state_observer.mm`: follows the loads of a tab. The entry of a page that loads is
marked read, and where a page fails to load, or is slow, its offline version is opened instead.

- `ReadingListWebStateObserver`: the observer, with the reading list and the web state it looks at.
- `watched`, `lastLoad`, `ticks`, `showsOffline`: what was seen of the loads so far.
- `Correct`: the offline version is for the load it is opened in.
- `machine`: the calls and the changes around them, in any order.
-/

namespace ChromiumIos

open Lib PageTransition

namespace ReadingListWebStateObserver

/-- A URL of a navigation item: `GURL::EmptyGURL`, that of a page, or one that
`OfflineURLForPath` makes. -/
inductive ItemURL (U : Type)
  | empty
  | page (url : U)
  | offline (distilledPath : String) (entryURL distilledURL : U)
deriving DecidableEq, Repr

/-- What is read of a `ReadingListEntry`. -/
structure Entry (U : Type) where
  distilledState : DistillationState
  distilledPath : String
  distilledURL : U
  isRead : Bool
deriving DecidableEq, Repr

/-- What is read of a `web::NavigationItem`. -/
structure Item (U : Type) where
  url : ItemURL U
  virtualURL : ItemURL U
  transitionType : PageTransition
deriving DecidableEq, Repr

/-- What is read of the web state and its navigation manager. -/
structure WebState (U : Type) where
  pendingItem : Option (Item U)
  /-- The item at `GetPendingItemIndex` is the pending one. -/
  pendingIsAtIndex : Bool
  lastCommittedItem : Option (Item U)
  isShowingWebInterstitial : Bool
  isLoading : Bool
  loadingProgress : ℚ
deriving DecidableEq

variable {U : Type}

/-- `reading_list::IsOfflineURL`. -/
def ItemURL.isOffline : ItemURL U → Bool
  | .offline _ _ _ => true
  | _ => false

/-- `GetVirtualURL`. -/
def Item.getVirtualURL (item : Item U) : ItemURL U :=
  match item.virtualURL with
  | .empty => item.url
  | virtualURL => virtualURL

/-- `ShouldObserveItem`. -/
def shouldObserveItem (item : Option (Item U)) : Bool :=
  match item with
  | none => false
  | some item => !item.url.isOffline

/-- The item that is loading. There is no pending item on reload. -/
def WebState.item (web : WebState U) : Option (Item U) :=
  web.pendingItem.or web.lastCommittedItem

/-- `GoToIndex`, at the index of the item. It is the pending item then. -/
def WebState.goToItem (web : WebState U) (item : Item U) : WebState U :=
  { web with
    pendingItem := some { item with
      transitionType := item.transitionType ||| forwardBack }
    pendingIsAtIndex := true }

/-- How `LoadOfflineReadingListEntry` opens the offline version. -/
def WebState.openOffline (web : WebState U) (url virtualURL : ItemURL U) : WebState U :=
  match web.pendingItem with
  | none =>
    match web.lastCommittedItem with
    | none => web
    | some item =>
      let item := { item with url := url, virtualURL := virtualURL }
      { web with lastCommittedItem := some item }.goToItem item
  | some item =>
    if web.pendingIsAtIndex then web.goToItem { item with url := url, virtualURL := virtualURL }
    else
      -- `OpenURL`: a new pending item
      { web with pendingItem := some ⟨url, .empty, item.transitionType⟩ }

/-- A load that starts, with the item it is for. `observed` says whether the observer follows it:
the model is loaded, there is no interstitial and the item is not offline. -/
structure Load (U : Type) where
  item : Option (Item U)
  observed : Bool
  isReload : Bool
  fromOffline : Bool

/-- The URL that is loaded. -/
def Load.url (load : Load U) : ItemURL U :=
  match load.item with
  | none => .empty
  | some item => item.getVirtualURL

/-- Why an offline version is opened: the load failed, its progress was too low at a tick, or the
model is loaded when an error page is shown. -/
inductive Reason (U : Type)
  | loadFailed
  | slow (progress : ℚ)
  | errorPage (shown : ItemURL U)

/-- What has happened. A page that is loaded comes with the entries as they are afterwards. -/
inductive Event (U : Type)
  | started (load : Load U)
  | ticked
  | opened (url : U) (entry : Entry U) (reason : Reason U)
  | loaded (success : Bool) (entries : U → Option (Entry U))

/-! ## What was seen of the loads -/

/-- The load that was started last. -/
def lastLoad : List (Event U) → Option (Load U)
  | [] => none
  | .started load :: _ => some load
  | _ :: before => lastLoad before

/-- The ticks since a load was started. -/
def ticks : List (Event U) → Nat
  | [] => 0
  | .started _ :: _ => 0
  | .ticked :: before => ticks before + 1
  | _ :: before => ticks before

/-- The page that is loading, if the start was observed and no offline version was opened since. -/
def watched : List (Event U) → Option U
  | [] => none
  | .started load :: _ =>
    match load.observed, load.url with
    | true, .page url => some url
    | _, _ => none
  | .ticked :: before => watched before
  | .opened _ _ _ :: _ | .loaded _ _ :: _ => none

/-- The page that is shown, or is about to be, is an offline version. -/
def showsOffline : List (Event U) → Bool
  | [] => false
  | .started load :: _ => load.item.any fun item => item.url.isOffline
  | .opened _ _ _ :: _ => true
  | _ :: before => showsOffline before

/-- An offline version is opened only where there is one, for the page of the last load or the error
page that is shown. A tick opens it only where the progress is too low for the ticks of that load,
and not for a reload that was made from an offline version. -/
def Justified (before : List (Event U)) (url : U) (entry : Entry U) (reason : Reason U) : Prop :=
  entry.distilledState = .processed ∧
    match reason with
    | .errorPage shown => shown = .page url
    | .loadFailed => ∃ load, lastLoad before = some load ∧ load.url = .page url
    | .slow progress => ∃ load, lastLoad before = some load ∧ load.url = .page url ∧
      ¬(load.isReload = true ∧ load.fromOffline = true) ∧ progress < (ticks before : ℚ) * (1 / 4)

end ReadingListWebStateObserver

open ReadingListWebStateObserver

/-- `ReadingListWebStateObserver`, with the reading list and the web state as they are and what has
happened, the last first. -/
structure ReadingListWebStateObserver (U : Type) where
  /-- Of the reading list model. -/
  loaded : Bool
  entries : U → Option (Entry U)
  web : WebState U
  timerRunning : Bool
  pendingUrl : ItemURL U
  tryNumber : Nat
  lastLoadWasOffline : Bool
  lastLoadSucceeded : Bool
  history : List (Event U)

namespace ReadingListWebStateObserver

variable {U : Type}

def note (s : ReadingListWebStateObserver U) (event : Event U) : ReadingListWebStateObserver U :=
  { s with history := event :: s.history }

/-- `ReadingListModel::GetEntryByURL`. -/
def getEntryByURL (s : ReadingListWebStateObserver U) : ItemURL U → Option (Entry U)
  | .page url => s.entries url
  | .empty | .offline _ _ _ => none

/-- `IsUrlAvailableOffline`. -/
def isUrlAvailableOffline (s : ReadingListWebStateObserver U) (url : ItemURL U) : Bool :=
  match s.getEntryByURL url with
  | none => false
  | some entry => entry.distilledState = .processed

/-- `StopCheckingProgress`. -/
def stopCheckingProgress (s : ReadingListWebStateObserver U) : ReadingListWebStateObserver U :=
  { s with pendingUrl := .empty, timerRunning := false }

variable [DecidableEq U] (s : ReadingListWebStateObserver U)

/-- An entry is added, removed or changed. -/
def changeEntry (url : U) (entry : Option (Entry U)) : ReadingListWebStateObserver U :=
  { s with entries := fun other => if other = url then entry else s.entries other }

/-- `ReadingListModel::SetReadStatus`, to read. -/
def setRead (url : ItemURL U) : ReadingListWebStateObserver U :=
  match url with
  | .page url => s.changeEntry url ((s.entries url).map fun entry => { entry with isRead := true })
  | .empty | .offline _ _ _ => s

/-- The load that the web state starts now. -/
def load (fromOffline : Bool) : Load U where
  item := s.web.item
  observed := s.loaded && !s.web.isShowingWebInterstitial && shouldObserveItem s.web.item
  isReload := s.web.pendingItem.isNone ||
    s.web.item.any fun item => coreTypeIs item.transitionType reload
  fromOffline := fromOffline

/-- `StartCheckingLoading`. -/
def startCheckingLoading : ReadingListWebStateObserver U :=
  if !s.loaded || s.web.isShowingWebInterstitial then s.stopCheckingProgress
  else
    let isReload := s.web.pendingItem.isNone
    match s.web.item with
    | none => s.stopCheckingProgress
    | some item =>
      if !shouldObserveItem (some item) then s.stopCheckingProgress
      else
        let lastLoadWasOffline := s.lastLoadWasOffline
        let s := { s with lastLoadWasOffline := false, pendingUrl := item.getVirtualURL }
        let isReload := isReload ||
          coreTypeIs item.transitionType reload
        let reloadingFromOffline := lastLoadWasOffline && isReload
        if reloadingFromOffline || !s.isUrlAvailableOffline s.pendingUrl then s
        else { s with tryNumber := 0, timerRunning := true }

/-- `DidStartLoading`. -/
def didStartLoading (fromOffline : Bool) : ReadingListWebStateObserver U :=
  (s.note (.started (s.load fromOffline))).startCheckingLoading

/-- `LoadOfflineReadingListEntry`. Opening the offline version may start its load at once. (If it
ends at once too, that is no different from its ending later.) -/
def loadOfflineReadingListEntry (reason : Reason U)
    (reenters : Bool) : ReadingListWebStateObserver U :=
  match s.pendingUrl with
  | .empty | .offline _ _ _ => s
  | .page url =>
    match s.entries url with
    | none => s
    | some entry =>
      if entry.distilledState = .processed then
        let s := s.note (.opened url entry reason)
        let offlineURL := .offline entry.distilledPath url entry.distilledURL
        let s := { s with
          lastLoadWasOffline := true
          web := s.web.openOffline offlineURL s.pendingUrl }
        let s := if reenters then s.didStartLoading (showsOffline s.history) else s
        s.setRead (.page url)
      else s

/-- `ReadingListModelLoaded`, once the model is loaded. The load that is under way is not a new
one. -/
def readingListModelLoaded (reenters : Bool) : ReadingListWebStateObserver U :=
  if s.web.isLoading then
    s.didStartLoading ((lastLoad s.history).any fun load => load.fromOffline)
  else if s.lastLoadSucceeded || s.web.isShowingWebInterstitial then s
  else
    match s.web.lastCommittedItem with
    | none => s
    | some item =>
      if !shouldObserveItem (some item) then s
      else
        let currentURL := item.getVirtualURL
        if s.isUrlAvailableOffline currentURL then
          let s := { s with pendingUrl := currentURL }
          (s.loadOfflineReadingListEntry (.errorPage currentURL) reenters).stopCheckingProgress
        else s

/-- `PageLoaded`. -/
def pageLoaded (success reenters : Bool) : ReadingListWebStateObserver U :=
  let s := { s with lastLoadSucceeded := success }
  let s :=
    if s.web.lastCommittedItem.isNone || s.pendingUrl = .empty ||
        (s.getEntryByURL s.pendingUrl).isNone then s
    else if success then s.setRead s.pendingUrl
    else s.loadOfflineReadingListEntry .loadFailed reenters
  let s := s.stopCheckingProgress
  s.note (.loaded success s.entries)

/-- `VerifyIfReadingListEntryStartedLoading`. -/
def verifyIfReadingListEntryStartedLoading (reenters : Bool) : ReadingListWebStateObserver U :=
  let s := s.note .ticked
  if s.pendingUrl = .empty || s.web.item.isNone || !s.isUrlAvailableOffline s.pendingUrl then
    s.stopCheckingProgress
  else
    let s := { s with tryNumber := s.tryNumber + 1 }
    let progress := s.web.loadingProgress
    if progress < (s.tryNumber : ℚ) * (1 / 4) then
      (s.loadOfflineReadingListEntry (.slow progress) reenters).stopCheckingProgress
    else if 3 ≤ s.tryNumber then { s with timerRunning := false }
    else s

/-- The constructor. A model that is loaded says so when the observer is added. -/
def new (web : WebState U) (entries : U → Option (Entry U)) (loaded : Bool) :
    ReadingListWebStateObserver U :=
  let s : ReadingListWebStateObserver U :=
    { loaded := loaded
      entries := entries
      web := web
      timerRunning := false
      pendingUrl := .empty
      tryNumber := 0
      lastLoadWasOffline := false
      lastLoadSucceeded := true
      history := [] }
  if loaded then s.readingListModelLoaded false else s

/-! ## Runs -/

inductive Op (U : Type)
  | didStartLoading
  | tick (reenters : Bool)
  | pageLoaded (success reenters : Bool)
  | readingListModelLoaded (reenters : Bool)
  | changeWebState (web : WebState U)
  | changeEntry (url : U) (entry : Option (Entry U))

def apply : Op U → ReadingListWebStateObserver U
  | .didStartLoading => s.didStartLoading (showsOffline s.history)
  | .tick reenters => s.verifyIfReadingListEntryStartedLoading reenters
  | .pageLoaded success reenters => s.pageLoaded success reenters
  | .readingListModelLoaded reenters =>
    { s with loaded := true }.readingListModelLoaded reenters
  | .changeWebState web => { s with web := web }
  | .changeEntry url entry => s.changeEntry url entry

/-- The timer ticks while it runs, and the model is loaded once. -/
def Pre : Op U → Prop
  | .tick _ => s.timerRunning = true
  | .readingListModelLoaded _ => s.loaded = false
  | .didStartLoading | .pageLoaded _ _ | .changeWebState _ | .changeEntry _ _ => True

instance : ∀ op, Decidable (s.Pre op)
  | .tick _ | .readingListModelLoaded _ => decEq _ _
  | .didStartLoading | .pageLoaded _ _ | .changeWebState _ | .changeEntry _ _ =>
    instDecidableTrue

abbrev machine (U : Type) [DecidableEq U] : Machine (ReadingListWebStateObserver U) (Op U) where
  Pre := Pre
  step := apply

/-- The fallback follows the load: the page that is watched is marked read when it is loaded, and
what was opened is justified. -/
structure Correct : Prop where
  markedRead : ∀ entries before, .loaded true entries :: before <:+ s.history →
    ∀ url, watched before = some url → ∀ entry, entries url = some entry → entry.isRead = true
  justified : ∀ url entry reason before, .opened url entry reason :: before <:+ s.history →
    Justified before url entry reason

end ReadingListWebStateObserver

end ChromiumIos
