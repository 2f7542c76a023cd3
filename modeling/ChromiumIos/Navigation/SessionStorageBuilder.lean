import ChromiumIos.Navigation.SessionController
import ChromiumIos.Web.SessionStorage

/-!
# `SessionStorageBuilder`

`session_storage_builder.mm` and `navigation_item_storage_builder.mm`: from the
session of a `WebStateImpl` to a storage, and back.

- An item is rebuilt as a new item, with a new unique ID; its virtual URL becomes
  the URL and the original request URL too.
- The session controller takes the last committed index up to the last item, and
  the previous index as it is (`extractSessionState_indices`).
-/

namespace ChromiumIos

open Lib

/-! ## Items -/

namespace NavigationItemStorageBuilder

/-- `BuildStorage`. -/
def buildStorage (item : NavigationItemImpl) : CRWNavigationItemStorage where
  virtualURL := item.getVirtualURL
  referrer := item.referrer
  timestamp := item.timestamp
  title := item.title
  displayState := item.pageDisplayState
  shouldSkipRepostFormConfirmation := item.shouldSkipRepostFormConfirmation
  userAgentType := item.userAgentType
  postData := item.postData
  httpRequestHeaders := item.httpRequestHeaders

/-- `BuildNavigationItemImpl`, with the counter of unique IDs. -/
def buildNavigationItemImpl (storage : CRWNavigationItemStorage) (uniqueIdCounter : Int) :
    NavigationItemImpl × Int :=
  let uniqueId := NavigationItemImpl.getUniqueIDInConstructor uniqueIdCounter
  let item : NavigationItemImpl := { NavigationItemImpl.new uniqueId with
    originalRequestUrl := storage.virtualURL
    url := storage.virtualURL
    referrer := storage.referrer
    timestamp := storage.timestamp
    title := storage.title
    pageDisplayState := storage.displayState
    shouldSkipRepostFormConfirmation := storage.shouldSkipRepostFormConfirmation
    userAgentType := storage.userAgentType
    postData := storage.postData
    httpRequestHeaders := storage.httpRequestHeaders }
  (item, uniqueId)

/-- A rebuilt item has the storage it was built from. -/
@[simp] theorem buildStorage_buildNavigationItemImpl (storage : CRWNavigationItemStorage)
    (uniqueIdCounter : Int) :
    buildStorage (buildNavigationItemImpl storage uniqueIdCounter).1 = storage := rfl

/-- The loop of `ExtractSessionState` over the item storages. -/
def buildItems : List CRWNavigationItemStorage → (uniqueIdCounter : Int) →
    List NavigationItemImpl × Int
  | [], uniqueIdCounter => ([], uniqueIdCounter)
  | storage :: rest, uniqueIdCounter =>
    let (item, uniqueIdCounter) := buildNavigationItemImpl storage uniqueIdCounter
    let (items, uniqueIdCounter) := buildItems rest uniqueIdCounter
    (item :: items, uniqueIdCounter)

@[simp] theorem buildStorage_buildItems (storages : List CRWNavigationItemStorage)
    (uniqueIdCounter : Int) : (buildItems storages uniqueIdCounter).1.map buildStorage = storages := by
  induction storages generalizing uniqueIdCounter with
  | nil => rfl
  | cons storage rest ih => simp [buildItems, ih]

@[simp] theorem length_buildItems (storages : List CRWNavigationItemStorage)
    (uniqueIdCounter : Int) : (buildItems storages uniqueIdCounter).1.length = storages.length := by
  rw [← List.length_map buildStorage, buildStorage_buildItems]

end NavigationItemStorageBuilder

/-! ## Sessions -/

/-- `initWithBrowserState:navigationItems:lastCommittedItemIndex:`. The index is
an `NSUInteger`. -/
def CRWSessionController.initWithNavigationItems (items : List NavigationItemImpl)
    (lastCommittedItemIndex : Int) : CRWSessionController where
  navigationManager := none
  lastCommittedItemIndex := min (wrapNSInteger lastCommittedItemIndex) ((items.length : Int) - 1)
  previousItemIndex := -1
  pendingItemIndex := -1
  timeSmoother := .new
  items := items
  ownedPendingItem := none
  ownedTransientItem := none

/-- `setPreviousItemIndex:`. -/
def CRWSessionController.setPreviousItemIndex (s : CRWSessionController) (previousItemIndex : Int) :
    CRWSessionController :=
  { s with previousItemIndex }

/-- `NavigationManagerImpl::SetSessionController` of a new navigation manager:
the session with its back pointer. -/
def NavigationManager.setSessionController (s : CRWSessionController) : CRWSessionController :=
  s.setNavigationManager (some ⟨none, []⟩)

/-- The part of `WebStateImpl` that is stored; the session is the one of its
navigation manager. -/
structure WebStateImpl where
  createdWithOpener : Bool
  sessionController : CRWSessionController
  certificatePolicyCache : SessionCertificatePolicyCacheImpl
  userData : SerializableUserDataManagerImpl

namespace SessionStorageBuilder

/-- A `WebStateImpl` before a session is extracted into it. -/
def emptyWebState : WebStateImpl := ⟨false, .initWithBrowserState, ⟨[]⟩, .new⟩

/-- `BuildStorage`. -/
def buildStorage (webState : WebStateImpl) : CRWSessionStorage where
  hasOpener := webState.createdWithOpener
  lastCommittedItemIndex := webState.sessionController.lastCommittedItemIndex
  previousItemIndex := webState.sessionController.previousItemIndex
  itemStorages := webState.sessionController.items.map NavigationItemStorageBuilder.buildStorage
  certPolicyCacheStorage :=
    some (SessionCertificatePolicyCacheStorageBuilder.buildStorage webState.certificatePolicyCache)
  userData := some webState.userData.createSerializableUserData

/-- `ExtractSessionState`, with the counter of unique IDs. -/
def extractSessionState (webState : WebStateImpl) (storage : CRWSessionStorage)
    (uniqueIdCounter : Int) : WebStateImpl × Int :=
  let (items, uniqueIdCounter) :=
    NavigationItemStorageBuilder.buildItems storage.itemStorages uniqueIdCounter
  let lastCommittedItemIndex := wrapNSUInteger storage.lastCommittedItemIndex
  let sessionController :=
    CRWSessionController.initWithNavigationItems items lastCommittedItemIndex
  let sessionController := sessionController.setPreviousItemIndex storage.previousItemIndex
  ({ createdWithOpener := storage.hasOpener
     sessionController := NavigationManager.setSessionController sessionController
     certificatePolicyCache :=
       SessionCertificatePolicyCacheStorageBuilder.buildSessionCertificatePolicyCache
         storage.certPolicyCacheStorage
     userData := webState.userData.addSerializableUserData storage.userData },
    uniqueIdCounter)

variable (webState : WebStateImpl) (storage : CRWSessionStorage) (uniqueIdCounter : Int)

/-- The items of the extracted session. -/
@[simp] theorem extractSessionState_items :
    (extractSessionState webState storage uniqueIdCounter).1.sessionController.items =
      (NavigationItemStorageBuilder.buildItems storage.itemStorages uniqueIdCounter).1 := rfl

/-- The indices of the extracted session: one is cut off at the last item, one
is taken as it is. -/
theorem extractSessionState_indices
    (hlast : wrapNSInteger storage.lastCommittedItemIndex = storage.lastCommittedItemIndex) :
    (extractSessionState webState storage uniqueIdCounter).1.sessionController.lastCommittedItemIndex =
        min storage.lastCommittedItemIndex ((storage.itemStorages.length : Int) - 1) ∧
      (extractSessionState webState storage uniqueIdCounter).1.sessionController.previousItemIndex =
        storage.previousItemIndex := by
  constructor
  · show min (wrapNSInteger (wrapNSUInteger storage.lastCommittedItemIndex)) _ = _
    rw [wrapNSInteger_wrapNSUInteger, hlast, NavigationItemStorageBuilder.length_buildItems]
  · rfl

end SessionStorageBuilder

end ChromiumIos
