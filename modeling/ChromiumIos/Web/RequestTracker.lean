import ChromiumIos.Lib.Pool
import ChromiumIos.Navigation.SessionController
import ChromiumIos.Web.CertificatePolicyCache

/-!
# `RequestTrackerImpl`

`request_tracker_impl.mm` on the IO thread: the records of the requests of a tab,
and a map from the address of a `URLRequest` to the record of a request that is
loading. A record that waits for a decision about its certificate keeps the
callback to run.

- The vector `counts_` owns the records, so it is a pool, and the map holds their
  numbers. An address may be used again once its request was stopped.
- A callback belongs to a request. When it runs, the request may call back into
  the tracker: it goes on, and data is captured, or it is stopped.
- What goes to the UI thread about certificates is logged. The progress and the
  SSL status that are sent there are not part of the model.
-/

namespace ChromiumIos

open Lib

/-- `net::SSLInfo`. -/
structure SSLInfo where
  cert : Option NSData
  certStatus : CertStatus
deriving DecidableEq, Repr

namespace SSLInfo

def new : SSLInfo := ⟨none, 0⟩

def isValid (info : SSLInfo) : Bool := info.cert.isSome

end SSLInfo

/-- The errors `net::MapCertStatusToNetError` is compared with. -/
inductive NetError
  | certNoRevocationMechanism
  | certUnableToCheckRevocation
  | certContainsErrors
  | certRevoked
  | certInvalid
  | sslWeakServerEphemeralDhKey
  | sslPinnedKeyNotInCertChain
  | certCommonNameInvalid
  | certDateInvalid
  | certAuthorityInvalid
  | certWeakSignatureAlgorithm
  | certWeakKey
  | certNameConstraintViolation
  | certValidityTooLong
  | other
deriving DecidableEq, Repr

/-- `net::URLRequest`, when it is started. -/
structure URLRequest where
  address : Nat
  url : GURL
  originalUrl : GURL
  firstPartyForCookies : GURL

/-- `RequestTracker::SSLCallback`: `DoNothing`, or the callback of the request at
an address. The callbacks of requests are numbered. -/
inductive SSLCallback
  | doNothing
  | bound (number : Nat) (request : Nat)
deriving DecidableEq, Repr

/-- What a request may do when its callback runs. -/
inductive Reentry
  | captureExpectedLength (length : UInt64)
  | captureReceivedBytes (sslInfo : SSLInfo) (byteCount : UInt64)
  | stopRequest (sslInfo : SSLInfo)
  | stopRedirectedRequest (sslInfo : SSLInfo)

/-- What the tracker asks of the rest of the process. -/
structure RequestPlatform where
  environment : Environment
  /-- `GURLByRemovingRefFromGURL`. -/
  removeRef : GURL → GURL
  schemeIsCryptographic : GURL → Bool
  schemeIsFile : GURL → Bool
  host : GURL → String
  fingerprint : Fingerprint
  mapCertStatusToNetError : CertStatus → NetError
  /-- What a request does when a callback of it is run. -/
  reenter : Nat → Bool → List Reentry

structure TrackerCounts where
  url : GURL
  firstPartyForCookiesOrigin : GURL
  request : Nat
  sslInfo : SSLInfo
  sslJudgment : Judgment
  allowedByUser : Bool
  sslCallback : Option SSLCallback
  expectedLength : UInt64
  processed : UInt64
  done : Bool
  isSubrequest : Bool

namespace TrackerCounts

/-- `TrackerCounts(tracked_url, tracked_request)`. -/
def new (P : RequestPlatform) (trackedUrl : GURL) (trackedRequest : URLRequest) :
    TrackerCounts where
  url := trackedUrl
  firstPartyForCookiesOrigin := P.environment.getOrigin trackedRequest.firstPartyForCookies
  request := trackedRequest.address
  sslInfo := .new
  sslJudgment := .allowed
  allowedByUser := false
  sslCallback := none
  expectedLength := 0
  processed := 0
  done := false
  isSubrequest := trackedRequest.firstPartyForCookies.isValid &&
    !trackedRequest.url.eq trackedRequest.firstPartyForCookies

/-- `if (ssl_info.is_valid()) counts->ssl_info = ssl_info`. -/
def captureSSLInfo (counts : TrackerCounts) (sslInfo : SSLInfo) : TrackerCounts :=
  if sslInfo.isValid then { counts with sslInfo := sslInfo } else counts

/-- Stores the ssl error. -/
def storeSSLError (counts : TrackerCounts) (sslInfo : SSLInfo) (recoverable : Bool)
    (shouldContinue : SSLCallback) : TrackerCounts :=
  { counts with
    sslInfo := sslInfo
    sslCallback := some shouldContinue
    sslJudgment := if recoverable then .unknown else .denied }

end TrackerCounts

/-- The tasks about certificates that are posted to the UI thread. -/
inductive UITask
  | notifyClearCertificates
  | notifyCertificateUsed (certificate : Option NSData) (host : String) (status : CertStatus)
deriving DecidableEq, Repr

/-- `RequestTrackerImpl`, with what goes on around it. -/
structure RequestTrackerImpl where
  countsByRequest : Nat → Option Nat
  counts : Pool TrackerCounts
  hasMixedContent : Bool
  isLoading : Bool
  newEstimateRound : Bool
  isClosing : Bool
  pageUrl : GURL
  policyCache : CertificatePolicyCache
  posted : List UITask
  /-- The addresses of the requests that were started and not stopped yet. -/
  active : Nat → Bool
  nextCallback : Nat
  /-- The callbacks that were run, each with its argument. -/
  answers : List (Nat × Bool)
  /-- Whether a `DCHECK` failed or something was used that is not there. -/
  failed : Bool

namespace RequestTrackerImpl

/-- A new tracker, after `InitOnIOThread`. -/
def new (policyCache : CertificatePolicyCache) : RequestTrackerImpl where
  countsByRequest := fun _ => none
  counts := .empty
  hasMixedContent := false
  isLoading := false
  newEstimateRound := true
  isClosing := false
  pageUrl := .new
  policyCache := policyCache
  posted := []
  active := fun _ => false
  nextCallback := 0
  answers := []
  failed := false

/-! ## Records and the map -/

variable (s : RequestTrackerImpl)

/-- `DCHECK`. -/
def check (condition : Bool) : RequestTrackerImpl :=
  { s with failed := s.failed || !condition }

/-- Uses the record a pointer points to. -/
def withCounts (p : Nat) (k : TrackerCounts → RequestTrackerImpl) : RequestTrackerImpl :=
  match s.counts.get? p with
  | some counts => k counts
  | none => s.check false

/-- Writes to a record. -/
def modify (s : RequestTrackerImpl) (p : Nat) (f : TrackerCounts → TrackerCounts) :
    RequestTrackerImpl :=
  { s with counts := s.counts.modify p f }

/-- `counts_by_request_.erase(request)`. -/
def eraseRequest (request : Nat) : RequestTrackerImpl :=
  { s with countsByRequest := Function.update s.countsByRequest request none }

def setPolicyCache (policyCache : CertificatePolicyCache) : RequestTrackerImpl :=
  { s with policyCache := policyCache }

/-- Posts tasks to the UI thread. -/
def post (tasks : List UITask) : RequestTrackerImpl :=
  { s with posted := s.posted ++ tasks }

/-- A request uses an address from its start until it is stopped. -/
def activate (request : Nat) : RequestTrackerImpl :=
  { s with active := Function.update s.active request true }

def release (request : Nat) : RequestTrackerImpl :=
  { s with active := Function.update s.active request false }

/-- Starting a new estimate round. Ignore the previous requests. -/
def startEstimateRound : RequestTrackerImpl :=
  if s.newEstimateRound then
    { s with countsByRequest := fun _ => none, newEstimateRound := false }
  else s

variable (P : RequestPlatform) (s : RequestTrackerImpl)

/-- The rest of `StartRequest`. -/
def addCounts (request : URLRequest) : RequestTrackerImpl :=
  let url := request.originalUrl
  { s with
    countsByRequest := Function.update s.countsByRequest request.address (some s.counts.next)
    counts := s.counts.alloc (.new P (P.removeRef url) request)
    hasMixedContent := s.hasMixedContent ||
      (P.schemeIsCryptographic s.pageUrl && !P.schemeIsCryptographic url) }

def startRequest (request : URLRequest) : RequestTrackerImpl :=
  ((s.check ((s.countsByRequest request.address).isNone &&
    !P.schemeIsFile request.url)).startEstimateRound).addCounts P request

/-- The record of a request that is in the map, after `DCHECK(!counts->done)`, is
written to. -/
def captureRequest (request : Nat) (f : TrackerCounts → TrackerCounts) : RequestTrackerImpl :=
  match s.countsByRequest request with
  | none => s
  | some p => s.withCounts p fun counts => (s.check (!counts.done)).modify p f

def captureExpectedLength (request : Nat) (length : UInt64) : RequestTrackerImpl :=
  s.captureRequest request fun counts =>
    { counts with expectedLength := if length < counts.processed then 0 else length }

def captureReceivedBytes (request : Nat) (sslInfo : SSLInfo)
    (byteCount : UInt64) : RequestTrackerImpl :=
  s.captureRequest request fun counts =>
    let counts := counts.captureSSLInfo sslInfo
    let processed := counts.processed + byteCount
    { counts with
      processed := processed
      expectedLength :=
        if 0 < counts.expectedLength ∧ counts.expectedLength < processed then 0
        else counts.expectedLength }

def stopRedirectedRequest (request : Nat) (sslInfo : SSLInfo) : RequestTrackerImpl :=
  match s.countsByRequest request with
  | none => s
  | some _ =>
    (s.captureRequest request fun counts =>
      { counts.captureSSLInfo sslInfo with done := true }).eraseRequest request

def stopRequest (request : Nat) (sslInfo : SSLInfo) : RequestTrackerImpl :=
  match s.countsByRequest request with
  | none => s
  | some _ => s.stopRedirectedRequest request sslInfo

/-! ## Callbacks -/

/-- One call of a request whose callback is running. -/
def reentry (request : Nat) (s : RequestTrackerImpl) : Reentry → RequestTrackerImpl
  | .captureExpectedLength length => s.captureExpectedLength request length
  | .captureReceivedBytes sslInfo byteCount => s.captureReceivedBytes request sslInfo byteCount
  | .stopRequest sslInfo => (s.stopRequest request sslInfo).release request
  | .stopRedirectedRequest sslInfo => (s.stopRedirectedRequest request sslInfo).release request

def logAnswer (number : Nat) (answer : Bool) : RequestTrackerImpl :=
  { s with answers := s.answers ++ [(number, answer)] }

/-- `Run`; a null callback cannot be run. -/
def runCallback (answer : Bool) :
    Option SSLCallback → RequestTrackerImpl
  | none => s.check false
  | some .doNothing => s
  | some (.bound number request) =>
    (P.reenter number answer).foldl (reentry request) (s.logAnswer number answer)

variable (p : Nat)

/-- Runs the callback of a record, which is `DoNothing` afterwards. -/
def answerCounts (answer : Bool) : RequestTrackerImpl :=
  s.withCounts p fun counts =>
    (s.runCallback P answer counts.sslCallback).modify p fun counts =>
      { counts with sslCallback := some .doNothing }

def cancelRequestForCounts : RequestTrackerImpl :=
  s.withCounts p fun counts =>
    (((s.modify p fun counts => { counts with done := true }).eraseRequest
      counts.request).answerCounts P p false)

/-- The fine tuning of a judgment that is not `ALLOWED`. -/
def fineTune (error : NetError) (judgment : Judgment) : Judgment :=
  match error with
  | .certNoRevocationMechanism => .allowed
  | .certUnableToCheckRevocation => .allowed
  | .certContainsErrors | .certRevoked | .certInvalid | .sslWeakServerEphemeralDhKey
  | .sslPinnedKeyNotInCertChain => .denied
  | .certCommonNameInvalid | .certDateInvalid | .certAuthorityInvalid
  | .certWeakSignatureAlgorithm | .certWeakKey | .certNameConstraintViolation
  | .certValidityTooLong => judgment
  | .other => .denied

/-- The judgment of a certificate of a host. -/
def judge (policyCache : CertificatePolicyCache) (cert : NSData)
    (host : String) (certStatus : CertStatus) : Judgment :=
  let judgment := (policyCache.queryPolicy P.fingerprint cert host certStatus).1
  if judgment = .allowed then .allowed
  else fineTune (P.mapCertStatusToNetError certStatus) judgment

/-- What follows from a judgment of a record. -/
def applyJudgment (judgment : Judgment) : RequestTrackerImpl :=
  let s := s.modify p fun counts => { counts with sslJudgment := judgment }
  match judgment with
  | .unknown | .denied => s.cancelRequestForCounts P p
  | .allowed => s.answerCounts P p true

def evaluateSSLCallbackForCounts : RequestTrackerImpl :=
  s.withCounts p fun counts =>
    match counts.sslInfo.cert with
    | none => s
    | some cert =>
      let host := P.host counts.url
      (s.setPolicyCache (s.policyCache.queryPolicy P.fingerprint cert host
        counts.sslInfo.certStatus).2).applyJudgment P p
          (judge P s.policyCache cert host counts.sslInfo.certStatus)

/-- One round of the loop over `counts_`. -/
def reevaluateCallback : RequestTrackerImpl :=
  s.withCounts p fun counts =>
    if counts.sslJudgment = .unknown then s.evaluateSSLCallbackForCounts P p else s

def reevaluateCallbacksForAllCounts : RequestTrackerImpl :=
  if s.isClosing then s else s.counts.pointers.foldl (reevaluateCallback P) s

def onSSLCertificateError (request : Nat)
    (sslInfo : SSLInfo) (recoverable : Bool) (shouldContinue : SSLCallback) :
    RequestTrackerImpl :=
  let s := s.check sslInfo.isValid
  match s.countsByRequest request with
  | none => s
  | some _ =>
    (s.captureRequest request
      (·.storeSSLError sslInfo recoverable shouldContinue)).reevaluateCallbacksForAllCounts P

/-- Notifies the delegate that a judgment has been used. -/
def captureCertificateUsed (request : Nat) (host : String)
    (cert : NSData) (certStatus : CertStatus) : RequestTrackerImpl :=
  match s.countsByRequest request with
  | none => s
  | some p =>
    s.withCounts p fun _ =>
      (s.modify p fun counts =>
        { counts.captureSSLInfo ⟨some cert, certStatus⟩ with allowedByUser := true }).post
          [.notifyCertificateUsed (some cert) host certStatus]

/-- `CaptureCertificatePolicyCache` of a request with a certificate. -/
def captureCertificatePolicyCache (request : Nat)
    (url : GURL) (cert : NSData) (certStatus : CertStatus) (shouldContinue : SSLCallback) :
    RequestTrackerImpl :=
  let host := P.host url
  let (judgment, policyCache) := s.policyCache.queryPolicy P.fingerprint cert host certStatus
  let s := s.setPolicyCache policyCache
  if judgment = .unknown then
    s.onSSLCertificateError P request ⟨some cert, certStatus⟩ true shouldContinue
  else
    ((s.check (judgment = .allowed)).captureCertificateUsed request host cert
      certStatus).runCallback P true (some shouldContinue)

/-! ## Pages -/

/-- The record of the page in `TrimToURL`: the last one of its URL, or the request
of a manifest at the back. -/
def splitPosition (url : GURL) : Option Nat :=
  match s.counts.entries.reverse.find? fun entry => entry.2.url.eq url with
  | some entry => some entry.1
  | none =>
    match s.counts.entries.getLast? with
    | none => none
    | some (p, back) =>
      if P.schemeIsCryptographic url && P.schemeIsCryptographic back.url &&
          (P.environment.getOrigin back.url).eq (P.environment.getOrigin url) &&
          !back.isSubrequest then
        some p
      else none

/-- `new_url_has_mixed_content`. -/
def newUrlHasMixedContent (url : GURL) : Bool :=
  let after := s.counts.entries.reverse.takeWhile fun entry => !entry.2.url.eq url
  (s.counts.entries.any fun entry => entry.2.url.eq url) && P.schemeIsCryptographic url &&
    after.any fun entry => !P.schemeIsCryptographic entry.2.url &&
      entry.2.firstPartyForCookiesOrigin.eq (P.environment.getOrigin url)

def recomputeMixedContent (split : Option Nat) : RequestTrackerImpl :=
  if P.schemeIsCryptographic s.pageUrl && s.hasMixedContent then
    let before := s.counts.entries.takeWhile fun entry => some entry.1 ≠ split
    { s with
      hasMixedContent := before.any fun entry => !P.schemeIsCryptographic entry.2.url &&
        (P.environment.getOrigin s.pageUrl).eq entry.2.firstPartyForCookiesOrigin }
  else s

/-- The certificates of a page that the user allowed, from the back to the split. -/
def certificatesUsed (P : RequestPlatform) (split : Option Nat) :
    List (Nat × TrackerCounts) → List UITask
  | [] => []
  | (p, counts) :: rest =>
    (if counts.allowedByUser then
      [.notifyCertificateUsed counts.sslInfo.cert (P.host counts.url) counts.sslInfo.certStatus]
    else []) ++
    if some p = split then [] else certificatesUsed P split rest

def recomputeCertificatePolicy (split : Option Nat) : RequestTrackerImpl :=
  s.post (.notifyClearCertificates :: certificatesUsed P split s.counts.entries.reverse)

/-- An unfinished request of a previous page is cancelled, if it waits for a
decision, and forgotten. -/
def forgetUnfinished (counts : TrackerCounts) : RequestTrackerImpl :=
  if counts.done then s
  else
    (if counts.sslJudgment = .unknown then s.cancelRequestForCounts P p else s).eraseRequest
      counts.request

def removeCounts : RequestTrackerImpl :=
  { s with counts := s.counts.remove p }

/-- One round of the loop of `TrimToURL`: a record before the split is freed. -/
def trimCounts : RequestTrackerImpl :=
  s.withCounts p fun counts => (s.forgetUnfinished P p counts).removeCounts p

/-- The records before the split, which are trimmed. -/
def trimmedPointers (split : Option Nat) : List Nat :=
  s.counts.pointers.takeWhile fun p => some p ≠ split

/-- The page of a URL is loading. -/
def enterPage (url : GURL) (newUrlHasMixedContent : Bool) : RequestTrackerImpl :=
  { s with
    hasMixedContent := newUrlHasMixedContent
    pageUrl := url
    isLoading := true
    newEstimateRound := true }

/-- `TrimToURL` before the callbacks are reevaluated. -/
def trimPage (fullUrl : GURL) : RequestTrackerImpl :=
  let url := P.removeRef fullUrl
  let newUrlHasMixedContent := s.newUrlHasMixedContent P url
  let split := s.splitPosition P url
  let s := (s.recomputeMixedContent P split).recomputeCertificatePolicy P split
  let s := (s.trimmedPointers split).foldl (trimCounts P) s
  s.enterPage url newUrlHasMixedContent

def trimToURL (fullUrl : GURL) : RequestTrackerImpl :=
  (s.trimPage P fullUrl).reevaluateCallbacksForAllCounts P

def stopPageLoad : RequestTrackerImpl := { s with isLoading := false }

def historyStateChangeToURL (fullUrl : GURL) : RequestTrackerImpl :=
  let url := P.removeRef fullUrl
  if s.isLoading && isHistoryStateChangeValid P.environment url s.pageUrl = some true then
    { s with pageUrl := url }
  else s

/-! ## Runs -/

/-- What can happen on the IO thread. The policies of certificates are changed by
others. -/
inductive Op
  | startRequest (request : URLRequest)
  | captureExpectedLength (request : Nat) (length : UInt64)
  | captureReceivedBytes (request : Nat) (sslInfo : SSLInfo) (byteCount : UInt64)
  | stopRequest (request : Nat) (sslInfo : SSLInfo)
  | stopRedirectedRequest (request : Nat) (sslInfo : SSLInfo)
  | captureCertificatePolicyCache (request : Nat) (url : GURL) (cert : NSData)
      (certStatus : CertStatus)
  | onSSLCertificateError (request : Nat) (sslInfo : SSLInfo) (recoverable : Bool)
  | cancelRequestForCounts (p : Nat)
  | trimToURL (url : GURL)
  | stopPageLoad
  | historyStateChangeToURL (url : GURL)
  | close
  | changePolicies (policyCache : CertificatePolicyCache)

/-- What callers promise: an address is not used by two requests at a time, no
file is loaded, a certificate error comes with a certificate, and a record that is
cancelled has a callback. -/
def Op.Pre : Op → Prop
  | .startRequest request =>
    s.active request.address = false ∧ P.schemeIsFile request.url = false
  | .onSSLCertificateError _ sslInfo _ => sslInfo.isValid = true
  | .cancelRequestForCounts p => ((s.counts.get? p).bind (·.sslCallback)).isSome = true
  | _ => True

instance Op.decidablePre :
    ∀ op : Op, Decidable (op.Pre P s)
  | .startRequest _ => instDecidableAnd
  | .onSSLCertificateError _ _ _ | .cancelRequestForCounts _ => decEq _ _
  | .captureExpectedLength .. | .captureReceivedBytes .. | .stopRequest ..
  | .stopRedirectedRequest .. | .captureCertificatePolicyCache .. | .trimToURL _ | .stopPageLoad
  | .historyStateChangeToURL _ | .close | .changePolicies _ => instDecidableTrue

/-- A new callback of the request at an address. -/
def callbackFor (request : Nat) : SSLCallback :=
  .bound s.nextCallback request

def issueCallback : RequestTrackerImpl :=
  { s with nextCallback := s.nextCallback + 1 }

/-- The effect of one operation. -/
def step : Op → RequestTrackerImpl
  | .startRequest request => (s.startRequest P request).activate request.address
  | .captureExpectedLength request length => s.captureExpectedLength request length
  | .captureReceivedBytes request sslInfo byteCount =>
    s.captureReceivedBytes request sslInfo byteCount
  | .stopRequest request sslInfo => (s.stopRequest request sslInfo).release request
  | .stopRedirectedRequest request sslInfo =>
    (s.stopRedirectedRequest request sslInfo).release request
  | .captureCertificatePolicyCache request url cert certStatus =>
    s.issueCallback.captureCertificatePolicyCache P request url cert certStatus
      (s.callbackFor request)
  | .onSSLCertificateError request sslInfo recoverable =>
    s.issueCallback.onSSLCertificateError P request sslInfo recoverable (s.callbackFor request)
  | .cancelRequestForCounts p => s.cancelRequestForCounts P p
  | .trimToURL url => s.trimToURL P url
  | .stopPageLoad => s.stopPageLoad
  | .historyStateChangeToURL url => s.historyStateChangeToURL P url
  | .close => { s with isClosing := true }
  | .changePolicies policyCache => s.setPolicyCache policyCache

abbrev machine : Machine RequestTrackerImpl Op where
  Pre s op := op.Pre P s
  step s op := s.step P op

end RequestTrackerImpl

end ChromiumIos
