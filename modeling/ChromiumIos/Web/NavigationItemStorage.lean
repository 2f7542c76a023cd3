import ChromiumIos.Web.Archive

/-!
# `CRWNavigationItemStorage`

`crw_navigation_item_storage.mm`, with the two encodings it uses of values that
are not objects: the user agent type as a text (`user_agent.mm`) and the page
display state as a dictionary (`page_display_state.mm`).

`CRWNavigationItemStorage.initWithCoder_encodeWithCoder`: a storage whose URLs
are valid or empty comes back from its archive.
-/

namespace ChromiumIos

open Lib

/-! ## The user agent type -/

/-- `GetUserAgentTypeDescription`. -/
def getUserAgentTypeDescription : UserAgentType → String
  | .none => "NONE"
  | .mobile => "MOBILE"
  | .desktop => "DESKTOP"

/-- `GetUserAgentTypeWithDescription`. -/
def getUserAgentTypeWithDescription (description : String) : UserAgentType :=
  if description = "MOBILE" then .mobile
  else if description = "DESKTOP" then .desktop
  else .none

@[simp] theorem getUserAgentTypeWithDescription_description (type : UserAgentType) :
    getUserAgentTypeWithDescription (getUserAgentTypeDescription type) = type := by
  cases type <;> rfl

/-! ## The page display state -/

namespace PageDisplayState

/-! Serialization keys. -/

@[simp] def kXOffsetKey : String := "scrollX"
@[simp] def kYOffsetKey : String := "scrollY"
@[simp] def kMinZoomKey : String := "minZoom"
@[simp] def kMaxZoomKey : String := "maxZoom"
@[simp] def kZoomKey : String := "zoom"

/-- `GetValue`. -/
def getValue (key : String) (serialization : Keyed String Double) : Double :=
  (serialization.get? key).getD .nan

/-- `PageDisplayState(NSDictionary*)`; reading from a `nil` dictionary is reading
from an empty one. -/
def ofSerialization (serialization : Keyed String Double) : PageDisplayState where
  scrollState := ⟨getValue kXOffsetKey serialization, getValue kYOffsetKey serialization⟩
  zoomState := ⟨getValue kMinZoomKey serialization, getValue kMaxZoomKey serialization,
    getValue kZoomKey serialization⟩

/-- `GetSerialization`. -/
def getSerialization (state : PageDisplayState) : Keyed String Double :=
  ((((Keyed.empty.set kXOffsetKey state.scrollState.offsetX).set
    kYOffsetKey state.scrollState.offsetY).set
    kMinZoomKey state.zoomState.minimumZoomScale).set
    kMaxZoomKey state.zoomState.maximumZoomScale).set
    kZoomKey state.zoomState.zoomScale

@[simp] theorem ofSerialization_getSerialization (state : PageDisplayState) :
    ofSerialization state.getSerialization = state := by
  simp [ofSerialization, getSerialization, getValue]

end PageDisplayState

/-! ## The storage of an item -/

structure CRWNavigationItemStorage where
  virtualURL : GURL
  referrer : Referrer
  timestamp : Time
  title : String16
  displayState : PageDisplayState
  shouldSkipRepostFormConfirmation : Bool
  userAgentType : UserAgentType
  postData : Option NSData
  httpRequestHeaders : Option NSDictionary
deriving DecidableEq, Repr

namespace CRWNavigationItemStorage

/-! Keys used to serialize navigation properties. -/

@[simp] def kURLKey : String := "virtualUrlString"
@[simp] def kURLDeperecatedKey : String := "virtualUrl"
@[simp] def kReferrerURLKey : String := "referrerUrlString"
@[simp] def kReferrerURLDeprecatedKey : String := "referrer"
@[simp] def kReferrerPolicyKey : String := "referrerPolicy"
@[simp] def kTimestampKey : String := "timestamp"
@[simp] def kTitleKey : String := "title"
@[simp] def kPageDisplayStateKey : String := "state"
@[simp] def kPOSTDataKey : String := "POSTData"
@[simp] def kHTTPRequestHeadersKey : String := "httpHeaders"
@[simp] def kSkipRepostFormConfirmationKey : String := "skipResubmitDataConfirmation"
@[simp] def kUserAgentTypeKey : String := "userAgentType"
@[simp] def kUseDesktopUserAgentDeprecatedKey : String := "useDesktopUserAgent"

/-- `encodeWithCoder:`. -/
def encodeWithCoder (p : Platform) (storage : CRWNavigationItemStorage) (coder : NSCoder) :
    NSCoder :=
  let coder := coder.encodeString kURLKey storage.virtualURL.spec
  let coder := coder.encodeString kReferrerURLKey storage.referrer.url.spec
  let coder := coder.encodeInt storage.referrer.policy.toInt kReferrerPolicyKey
  let coder := coder.encodeInt64 storage.timestamp.1 kTimestampKey
  let coder := coder.encodeObject (some (.string (p.sysUTF16ToNSString storage.title))) kTitleKey
  let coder := coder.encodeObject (some (.doubles storage.displayState.getSerialization))
    kPageDisplayStateKey
  let coder := coder.encodeBool storage.shouldSkipRepostFormConfirmation
    kSkipRepostFormConfirmationKey
  let coder := coder.encodeString kUserAgentTypeKey
    (getUserAgentTypeDescription storage.userAgentType)
  let coder := coder.encodeObject (storage.postData.map .data) kPOSTDataKey
  coder.encodeObject (storage.httpRequestHeaders.map .strings) kHTTPRequestHeadersKey

/-- `initWithCoder:`. -/
def initWithCoder (p : Platform) (decoder : NSCoder) : CRWNavigationItemStorage :=
  let virtualURL :=
    if decoder.containsValueForKey kURLKey then p.parseURL (decoder.decodeString kURLKey)
    else p.gurlWithNSURL ((decoder.decodeObjectForKey kURLDeperecatedKey).bind (·.toNSURL?))
  let referrer :=
    if decoder.containsValueForKey kReferrerURLKey then
      ⟨p.parseURL (decoder.decodeString kReferrerURLKey),
        .ofInt (decoder.decodeIntForKey kReferrerPolicyKey)⟩
    else
      let referrerURL := (decoder.decodeObjectForKey kReferrerURLDeprecatedKey).bind (·.toNSURL?)
      ⟨p.gurlWithNSURL referrerURL, .default⟩
  let timestamp :=
    if decoder.containsValueForKey kTimestampKey then
      .fromInternalValue (decoder.decodeInt64ForKey kTimestampKey)
    else .null
  let userAgentType :=
    if decoder.containsValueForKey kUserAgentTypeKey then
      getUserAgentTypeWithDescription (decoder.decodeString kUserAgentTypeKey)
    -- older storages have no `NONE`
    else if p.isAppSpecificURL virtualURL then .none
    else if decoder.decodeBoolForKey kUseDesktopUserAgentDeprecatedKey then .desktop
    else .mobile
  let serializedDisplayState :=
    (decoder.decodeObjectForKey kPageDisplayStateKey).bind (·.toDoubles?)
  { virtualURL
    referrer
    timestamp
    userAgentType
    title := p.sysNSStringToUTF16 ((decoder.decodeObjectForKey kTitleKey).bind (·.toNSString?))
    displayState := .ofSerialization (serializedDisplayState.getD .empty)
    shouldSkipRepostFormConfirmation := decoder.decodeBoolForKey kSkipRepostFormConfirmationKey
    postData := (decoder.decodeObjectForKey kPOSTDataKey).bind (·.toNSData?)
    httpRequestHeaders := (decoder.decodeObjectForKey kHTTPRequestHeadersKey).bind (·.toStrings?) }

/-- A storage whose URLs read back from their specs comes back from its
archive. -/
theorem initWithCoder_encodeWithCoder {p : Platform} (hp : p.Documented)
    {storage : CRWNavigationItemStorage}
    (hvirtual : p.parseURL storage.virtualURL.spec = storage.virtualURL)
    (hreferrer : p.parseURL storage.referrer.url.spec = storage.referrer.url) (coder : NSCoder) :
    initWithCoder p (storage.encodeWithCoder p coder) = storage := by
  cases storage with
  | mk virtualURL referrer timestamp title displayState skips userAgentType postData headers =>
    simp [initWithCoder, encodeWithCoder, Keyed.contains, hvirtual, hreferrer, hp.utf16]
    -- left are the two objects that may be `nil`
    constructor
    · cases postData <;> rfl
    · cases headers <;> rfl

end CRWNavigationItemStorage

end ChromiumIos
