import ChromiumIos.Base.Ints
import ChromiumIos.Ui.PageTransition
import ChromiumIos.Web.Types

/-!
# `NavigationItemImpl`

`navigation_item_impl.mm`: one entry of a session history, with the setters the
session controller and the storage builders call.

Unique IDs come from a counter that the whole process shares. Functions that
create items take its value and return the next one.
-/

namespace ChromiumIos

structure NavigationItemImpl where
  uniqueId : Int
  originalRequestUrl : GURL
  url : GURL
  referrer : Referrer
  virtualUrl : GURL
  title : String16
  pageDisplayState : PageDisplayState
  transitionType : PageTransition
  favicon : FaviconStatus
  ssl : SSLStatus
  timestamp : Time
  userAgentType : UserAgentType
  httpRequestHeaders : Option NSDictionary
  serializedStateObject : Option String16
  isCreatedFromPushState : Bool
  hasStateBeenReplaced : Bool
  isCreatedFromHashChange : Bool
  shouldSkipRepostFormConfirmation : Bool
  postData : Option NSData
  navigationInitiationType : NavigationInitiationType
  isUnsafe : Bool
  cachedDisplayTitle : String16
deriving DecidableEq, Repr

namespace NavigationItemImpl

/-- `GetUniqueIDInConstructor`: increments the counter, an `int`, and returns it. -/
def getUniqueIDInConstructor (uniqueIdCounter : Int) : Int := wrapInt (uniqueIdCounter + 1)

/-- `NavigationItemImpl()`. -/
def new (uniqueId : Int) : NavigationItemImpl where
  uniqueId := uniqueId
  originalRequestUrl := .new
  url := .new
  referrer := .new
  virtualUrl := .new
  title := []
  pageDisplayState := .new
  transitionType := .link
  favicon := ⟨false, .new⟩
  ssl := .new
  timestamp := 0
  userAgentType := .mobile
  httpRequestHeaders := none
  serializedStateObject := none
  isCreatedFromPushState := false
  hasStateBeenReplaced := false
  isCreatedFromHashChange := false
  shouldSkipRepostFormConfirmation := false
  postData := none
  navigationInitiationType := .none
  isUnsafe := false
  cachedDisplayTitle := []

/-- `NavigationItemImpl(const NavigationItemImpl&)`: every field is copied, the
unique ID included. -/
def copy (item : NavigationItemImpl) : NavigationItemImpl where
  uniqueId := item.uniqueId
  originalRequestUrl := item.originalRequestUrl
  url := item.url
  referrer := item.referrer
  virtualUrl := item.virtualUrl
  title := item.title
  pageDisplayState := item.pageDisplayState
  transitionType := item.transitionType
  favicon := item.favicon
  ssl := item.ssl
  timestamp := item.timestamp
  userAgentType := item.userAgentType
  httpRequestHeaders := item.httpRequestHeaders
  serializedStateObject := item.serializedStateObject
  isCreatedFromPushState := item.isCreatedFromPushState
  hasStateBeenReplaced := item.hasStateBeenReplaced
  isCreatedFromHashChange := item.isCreatedFromHashChange
  shouldSkipRepostFormConfirmation := item.shouldSkipRepostFormConfirmation
  postData := item.postData
  navigationInitiationType := item.navigationInitiationType
  isUnsafe := item.isUnsafe
  cachedDisplayTitle := item.cachedDisplayTitle

/-- `SetURL`. -/
def setURL (item : NavigationItemImpl) (url : GURL) : NavigationItemImpl :=
  { item with url, cachedDisplayTitle := [] }

/-- `SetVirtualURL`. -/
def setVirtualURL (item : NavigationItemImpl) (url : GURL) : NavigationItemImpl :=
  { item with
    virtualUrl := if url.eq item.url then .new else url
    cachedDisplayTitle := [] }

/-- `GetVirtualURL`. -/
def getVirtualURL (item : NavigationItemImpl) : GURL :=
  if item.virtualUrl.isEmpty then item.url else item.virtualUrl

/-- `ResetForCommit`. -/
def resetForCommit (item : NavigationItemImpl) : NavigationItemImpl :=
  { item with navigationInitiationType := .none }

end NavigationItemImpl

end ChromiumIos
