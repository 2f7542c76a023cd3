import ChromiumIos.Web.RequestTracker

/-!
# `HttpProtocolHandlerCore`

`crn_http_protocol_handler.mm` on the IO thread: the bridge from a `URLRequest` to
the client of an `NSURLProtocol`.

- `net_request_` is the only state that tells what may still happen. It is deleted
  by error handlers that run inside other handlers.
- The `URLRequest` is what its documentation says: a phase says which events it may
  send next, and what it reads is given beforehand.
- The tracker answers a question about a certificate at once, or keeps the callback
  and runs it later, once at most.
-/

namespace ChromiumIos

open Lib

/-! ## What the network stack gives -/

/-- The size of the buffer that is read into, and of the blocks for the client. -/
structure BufferSizes where
  ioBufferSize : Nat
  clientMaxBufferSize : Nat
  io_le_clientMax : ioBufferSize ≤ clientMaxBufferSize

/-- `kIOBufferSize` and `kClientMaxBufferSize`. -/
def BufferSizes.source : BufferSizes where
  ioBufferSize := 64 * 1024
  clientMaxBufferSize := 4 * (64 * 1024)
  io_le_clientMax := by decide

/-- The error codes of `net` that are used here. -/
inductive NetErrorCode
  | aborted
  | unexpected
  | blockedByClient
  | connectionReset
  | networkChanged
  | sslProtocolError
  | invalidUrl
  | other (code : Int)
deriving DecidableEq, Repr

/-- The error codes of `NSURLErrorDomain` that are used here. -/
inductive NSURLErrorCode
  | unknown
  | cancelled
  | badURL
  | cannotConnectToHost
  | networkConnectionLost
  | clientCertificateRequired
deriving DecidableEq, Repr

/-- The bytes of one read: some, and no more than fit in the buffer. -/
structure ReadBlock (sizes : BufferSizes) where
  bytes : NSData
  ne_nil : bytes ≠ []
  length_le : bytes.length ≤ sizes.ioBufferSize
deriving DecidableEq

/-- What `Read` returns, with what is then in the buffer. -/
inductive ReadResult (sizes : BufferSizes)
  | bytes (block : ReadBlock sizes)
  | endOfData
  | pending
  | error (code : NetErrorCode)
deriving DecidableEq

inductive LoadFlag
  | doNotSendCookies
  | doNotSaveCookies
  | bypassCache
  | disableCache
  | skipCacheValidation
  | onlyFromCache
  | validateCache
deriving DecidableEq, Repr

/-- What a `URLRequest` waits for. -/
inductive RequestPhase
  | created
  | started
  /-- `SetAuth` or `CancelAuth`, after `OnAuthRequired`. -/
  | authRequired
  /-- `ContinueDespiteLastError` or `Cancel`, after `OnSSLCertificateError`. -/
  | certificateError
  /-- The next `Read`. -/
  | responded
  | readPending
deriving DecidableEq, Repr

/-- What the network has for a request. -/
structure NetworkReply (sizes : BufferSizes) (Response : Type) where
  /-- What `GetNSURLResponseForRequest` makes of it. -/
  response : Response
  responseCode : Int
  sslInfo : SSLInfo
  ignoreCertificateErrors : Bool
  /-- What `Read` returns, call after call; a read is pending after that. -/
  reads : List (ReadResult sizes)
  /-- What a pending read completes with inside the call of `Cancel`, if it does. -/
  abortedRead : Option (ReadResult sizes)
deriving DecidableEq

/-- `net::AuthCredentials`. -/
structure AuthCredentials where
  username : String16
  password : String16
deriving DecidableEq, Repr

/-- `URLRequest`, as far as `net_request_` is used. -/
structure NativeRequest (sizes : BufferSizes) (Response : Type) where
  phase : RequestPhase
  loadFlags : List LoadFlag
  upload : List NSData
  /-- What `SetAuth` was called with last. -/
  credentials : Option AuthCredentials
  reply : NetworkReply sizes Response
deriving DecidableEq

namespace NativeRequest

variable {sizes : BufferSizes} {Response : Type}

/-- `CreateRequest`. -/
def create (reply : NetworkReply sizes Response) : NativeRequest sizes Response :=
  ⟨.created, [], [], none, reply⟩

/-- The request after calls of `Read`: what is left to read, and the last result. -/
def afterReads (request : NativeRequest sizes Response) (reads : List (ReadResult sizes))
    (last : ReadResult sizes) : NativeRequest sizes Response :=
  { request with
    phase := if last = .pending then .readPending else request.phase
    reply := { request.reply with reads := reads } }

/-- `Read`. -/
def read (request : NativeRequest sizes Response) :
    ReadResult sizes × NativeRequest sizes Response :=
  match request.reply.reads with
  | [] => (.pending, request.afterReads [] .pending)
  | result :: reads => (result, request.afterReads reads result)

/-- Goes on from a phase in which the request waits for an answer. -/
def resumeFrom (request : NativeRequest sizes Response) (phase : RequestPhase) :
    NativeRequest sizes Response :=
  if request.phase = phase then { request with phase := .started } else request

def continueDespiteLastError (request : NativeRequest sizes Response) :
    NativeRequest sizes Response :=
  request.resumeFrom .certificateError

def setAuth (request : NativeRequest sizes Response) (credentials : AuthCredentials) :
    NativeRequest sizes Response :=
  { request with credentials := some credentials }.resumeFrom .authRequired

def cancelAuth (request : NativeRequest sizes Response) : NativeRequest sizes Response :=
  request.resumeFrom .authRequired

/-- Passes on what a client answered to a challenge. -/
def answerAuth (request : NativeRequest sizes Response) :
    Option AuthCredentials → NativeRequest sizes Response
  | some credentials => request.setAuth credentials
  | none => request.cancelAuth

end NativeRequest

/-! ## Requests and calls -/

inductive NSURLRequestCachePolicy
  | useProtocolCachePolicy
  | reloadIgnoringLocalCacheData
  | reloadIgnoringLocalAndRemoteCacheData
  | returnCacheDataElseLoad
  | returnCacheDataDontLoad
  | reloadRevalidatingCacheData
deriving DecidableEq, Repr

/-- `NSMutableURLRequest`, with the URL as a `GURL`. -/
structure NSMutableURLRequest where
  url : GURL
  httpMethod : String
  httpBody : NSData
  /-- There is an `HTTPBodyStream`. -/
  httpBodyStream : Bool
  allHTTPHeaderFields : List (String × String)
  httpShouldHandleCookies : Bool
  cachePolicy : NSURLRequestCachePolicy
deriving DecidableEq, Repr

namespace NSMutableURLRequest

/-- `StripPostSpecificHeaders`. -/
def stripPostSpecificHeaders (request : NSMutableURLRequest) : NSMutableURLRequest :=
  { request with
    allHTTPHeaderFields := request.allHTTPHeaderFields.filter fun field =>
      field.1.toLower ∉ ["content-length", "content-type", "origin"] }

/-- The request that follows a redirect. -/
def redirected (request : NSMutableURLRequest) (newUrl : GURL) (httpStatusCode : Int) :
    NSMutableURLRequest :=
  let wasPost := request.httpMethod = "POST"
  let request := { request with url := newUrl }
  if httpStatusCode = 303 ∧ request.httpMethod ≠ "HEAD" ∨
      (httpStatusCode = 301 ∨ httpStatusCode = 302) ∧ wasPost then
    let request := { request with httpMethod := "GET", httpBody := [], httpBodyStream := false }
    if wasPost then request.stripPostSpecificHeaders else request
  else request

/-- `SetLoadFlags`. -/
def loadFlags (request : NSMutableURLRequest) (tracker : Bool) : List LoadFlag :=
  (if request.httpShouldHandleCookies then [] else [.doNotSendCookies, .doNotSaveCookies]) ++
    if tracker then []
    else
      match request.cachePolicy with
      -- The first case falls through to the second one.
      | .reloadIgnoringLocalAndRemoteCacheData => [.bypassCache, .disableCache]
      | .reloadIgnoringLocalCacheData => [.disableCache]
      | .returnCacheDataElseLoad => [.skipCacheValidation]
      | .returnCacheDataDontLoad => [.onlyFromCache, .skipCacheValidation]
      | .reloadRevalidatingCacheData => [.validateCache]
      | .useProtocolCachePolicy => []

end NSMutableURLRequest

/-- The calls of `CRNNetworkClientProtocol` that correspond to `NSURLProtocolClient`. -/
inductive ClientCall (Response : Type)
  | didReceiveResponse (response : Response)
  | didLoadData (data : NSData)
  | wasRedirectedToRequest (request : Option NSMutableURLRequest) (redirectResponse : Response)
  | didFailWithNSErrorCode (nsErrorCode : NSURLErrorCode) (netErrorCode : NetErrorCode)
  | didFinishLoading
deriving DecidableEq, Repr

/-- The calls of `RequestTracker`. -/
inductive TrackerCall
  | startRequest
  | captureHeaders
  | captureExpectedLength (length : Int)
  | captureReceivedBytes (byteCount : Nat)
  | captureCertificatePolicyCache
  | stopRequest
  | stopRedirectedRequest
  | onSSLCertificateError (recoverable : Bool)
deriving DecidableEq, Repr

/-- The callbacks that are given to the tracker. -/
inductive TrackerCallback
  | sslErrorCallback
  | hostStateCallback
deriving DecidableEq, Repr

/-- The events of an `NSStream`; other events do nothing. -/
inductive NSStreamEvent
  | errorOccurred
  | endEncountered
  | hasBytesAvailable (bytes : NSData)
  | other
deriving DecidableEq, Repr

/-- What is asked of the rest of the process. -/
structure HttpPlatform (Response : Type) where
  expectedContentLength : Response → Int
  isCertStatusError : CertStatus → Bool
  isCertStatusMinorError : CertStatus → Bool

/-- `HttpProtocolHandlerCore`. The last two fields record its calls. -/
structure HttpProtocolHandlerCore (sizes : BufferSizes) (Response : Type) where
  request : Option NSMutableURLRequest
  /-- `stream_delegate_` is set, and is the delegate of the stream. -/
  streamDelegate : Bool
  postDataReaders : List NSData
  netRequest : Option (NativeRequest sizes Response)
  /-- `tracker_` is not null. -/
  tracker : Bool
  /-- The callbacks that the tracker keeps. -/
  callbacks : List TrackerCallback
  clientCalls : List (ClientCall Response)
  trackerCalls : List TrackerCall
deriving DecidableEq

/-! ## The read loop -/

section ReadLoop

variable {sizes : BufferSizes}

/-- The variables of the loop of `OnReadCompleted`, with the reads to come. -/
structure ReadLoop (sizes : BufferSizes) where
  /-- `total_bytes_read`, far from the end of a `uint64_t`. -/
  totalBytesRead : Nat
  /-- `bytes_read`, with what is in the buffer. -/
  last : ReadResult sizes
  reads : List (ReadResult sizes)
deriving DecidableEq

/-- The inner loop: reads into `data` as long as it fits. -/
def fillData (data : NSData) (totalBytesRead : Nat) (last : ReadResult sizes)
    (reads : List (ReadResult sizes)) : NSData × ReadLoop sizes :=
  match last with
  | .bytes block =>
    if data.length + block.bytes.length ≤ sizes.clientMaxBufferSize then
      match reads with
      | [] => (data ++ block.bytes, ⟨totalBytesRead + block.bytes.length, .pending, []⟩)
      | next :: reads =>
        fillData (data ++ block.bytes) (totalBytesRead + block.bytes.length) next reads
    else (data, ⟨totalBytesRead, last, reads⟩)
  | _ => (data, ⟨totalBytesRead, last, reads⟩)

/-- The outer loop: the blocks for the client. -/
def readBlocks : Nat → ReadLoop sizes → List NSData × ReadLoop sizes
  | 0, loop => ([], loop)
  | fuel + 1, loop =>
    match loop.last with
    | .bytes _ =>
      let filled := fillData [] loop.totalBytesRead loop.last loop.reads
      let rest := readBlocks fuel filled.2
      (if filled.1.length > 0 then filled.1 :: rest.1 else rest.1, rest.2)
    | _ => ([], loop)

end ReadLoop

namespace HttpProtocolHandlerCore

variable {sizes : BufferSizes} {Response : Type}

/-- `HttpProtocolHandlerCore(request)`. -/
def new (request : NSMutableURLRequest) : HttpProtocolHandlerCore sizes Response where
  request := some request
  streamDelegate := false
  postDataReaders := []
  netRequest := none
  tracker := false
  callbacks := []
  clientCalls := []
  trackerCalls := []

/-! ## Small steps -/

variable (s : HttpProtocolHandlerCore sizes Response)

def tellClient (calls : List (ClientCall Response)) : HttpProtocolHandlerCore sizes Response :=
  { s with clientCalls := s.clientCalls ++ calls }

/-- `if (tracker_) tracker_->…`. -/
def tellTracker (call : TrackerCall) : HttpProtocolHandlerCore sizes Response :=
  if s.tracker then { s with trackerCalls := s.trackerCalls ++ [call] } else s

def setNetRequest
    (netRequest : Option (NativeRequest sizes Response)) : HttpProtocolHandlerCore sizes Response :=
  { s with netRequest := netRequest }

def setPhase (phase : RequestPhase) : HttpProtocolHandlerCore sizes Response :=
  s.setNetRequest (s.netRequest.map fun request => { request with phase := phase })

/-- The tracker keeps a callback. -/
def keepCallback (callback : TrackerCallback) : HttpProtocolHandlerCore sizes Response :=
  { s with callbacks := callback :: s.callbacks }

/-- `StopListeningStream`. -/
def stopListeningStream : HttpProtocolHandlerCore sizes Response :=
  { s with streamDelegate := false }

/-- `StopNetRequest`. -/
def stopNetRequest : HttpProtocolHandlerCore sizes Response :=
  let s := (s.tellTracker .stopRequest).setNetRequest none
  if s.streamDelegate then s.stopListeningStream else s

/-- `IOSErrorCode`. -/
def iosErrorCode : NetErrorCode → NSURLErrorCode
  | .sslProtocolError => .clientCertificateRequired
  | .connectionReset | .networkChanged => .networkConnectionLost
  | .unexpected => .unknown
  | _ => .cannotConnectToHost

/-- `StopRequestWithError`. -/
def stopRequestWithError (nsErrorCode : NSURLErrorCode) (netErrorCode : NetErrorCode) :
    HttpProtocolHandlerCore sizes Response :=
  (s.tellClient [.didFailWithNSErrorCode nsErrorCode netErrorCode]).stopNetRequest

/-! ## Reading -/

/-- The end of `OnReadCompleted`. The loop goes on as long as there are bytes. -/
def readsEnded :
    ReadResult sizes → HttpProtocolHandlerCore sizes Response
  | .bytes _ | .pending => s
  | .endOfData => s.stopNetRequest.tellClient [.didFinishLoading]
  | .error code => s.stopRequestWithError (iosErrorCode code) code

/-- `OnReadCompleted`. Every round of the outer loop uses a read up, so that the
reads to come are enough fuel. -/
def onReadCompleted (bytesRead : ReadResult sizes) : HttpProtocolHandlerCore sizes Response :=
  match s.netRequest with
  | none => s
  | some request =>
    let reads := request.reply.reads
    let read := readBlocks (reads.length + 1) ⟨0, bytesRead, reads⟩
    (((s.tellClient (read.1.map .didLoadData)).setNetRequest
      (some (request.afterReads read.2.reads read.2.last))).tellTracker
      (.captureReceivedBytes read.2.totalBytesRead)).readsEnded read.2.last

/-- The first half of `StartReading`: the tracker and the client get the response. -/
def receiveResponse (P : HttpPlatform Response) (s : HttpProtocolHandlerCore sizes Response)
    (response : Response) : HttpProtocolHandlerCore sizes Response :=
  let s := s.tellTracker .captureHeaders
  let length := P.expectedContentLength response
  let s := if length > 0 then s.tellTracker (.captureExpectedLength length) else s
  s.tellClient [.didReceiveResponse response]

/-- The second half: the first `Read`. -/
def readFirst (request : NativeRequest sizes Response) : HttpProtocolHandlerCore sizes Response :=
  let s := s.setNetRequest (some request.read.2)
  match request.read.1 with
  | .pending => s
  | .bytes block => s.onReadCompleted (.bytes block)
  | .endOfData => s.onReadCompleted .endOfData
  | .error code => s.stopRequestWithError (iosErrorCode code) code

/-- `StartReading`. -/
def startReading (P : HttpPlatform Response) (s : HttpProtocolHandlerCore sizes Response) :
    HttpProtocolHandlerCore sizes Response :=
  match s.netRequest with
  | none => s
  | some request => (s.receiveResponse P request.reply.response).readFirst request

/-! ## Cancelling -/

/-- `Cancel` of the `URLRequest`. A read that is pending may complete inside the
call. -/
def cancelNetRequest : HttpProtocolHandlerCore sizes Response :=
  match s.netRequest with
  | none => s
  | some request =>
    match request.phase, request.reply.abortedRead with
    | .readPending, some result => (s.setPhase .responded).onReadCompleted result
    | _, _ => s

def cancelAfterSSLError : HttpProtocolHandlerCore sizes Response :=
  match s.netRequest with
  | none => s
  | some _ => s.cancelNetRequest.stopRequestWithError .cancelled .blockedByClient

def continueAfterSSLError : HttpProtocolHandlerCore sizes Response :=
  s.setNetRequest (s.netRequest.map (·.continueDespiteLastError))

def cancel : HttpProtocolHandlerCore sizes Response :=
  match s.netRequest with
  | none => s
  | some _ => s.cancelNetRequest.stopNetRequest

/-! ## Callbacks -/

def sslErrorCallback (carryOn : Bool) : HttpProtocolHandlerCore sizes Response :=
  if carryOn then s.continueAfterSSLError else s.cancelAfterSSLError

def hostStateCallback (P : HttpPlatform Response) (s : HttpProtocolHandlerCore sizes Response)
    (carryOn : Bool) : HttpProtocolHandlerCore sizes Response :=
  if carryOn then s.startReading P else s.cancelAfterSSLError

/-- `callback.Run(carryOn)`. -/
def runCallback (P : HttpPlatform Response) (s : HttpProtocolHandlerCore sizes Response)
    (callback : TrackerCallback) (carryOn : Bool) : HttpProtocolHandlerCore sizes Response :=
  match callback with
  | .sslErrorCallback => s.sslErrorCallback carryOn
  | .hostStateCallback => s.hostStateCallback P carryOn

/-- The tracker is given a callback. It runs it at once or keeps it. -/
def giveCallback (P : HttpPlatform Response) (s : HttpProtocolHandlerCore sizes Response)
    (callback : TrackerCallback) (answer : Option Bool) : HttpProtocolHandlerCore sizes Response :=
  match answer with
  | some carryOn => s.runCallback P callback carryOn
  | none => s.keepCallback callback

/-- `CompleteAuthentication`, with the credentials if `auth_ok`. -/
def completeAuthentication
    (credentials : Option AuthCredentials) : HttpProtocolHandlerCore sizes Response :=
  s.setNetRequest (s.netRequest.map (·.answerAuth credentials))

/-! ## `URLRequest::Delegate` -/

/-- Hands the redirected request over to the client. `request_` is not used after
that. -/
def redirectRequest (request : NativeRequest sizes Response) (newUrl : GURL) :
    HttpProtocolHandlerCore sizes Response :=
  let s := if s.streamDelegate then s.stopListeningStream else s
  let redirected := s.request.map (·.redirected newUrl request.reply.responseCode)
  { (s.tellTracker .stopRedirectedRequest).tellClient
      [.wasRedirectedToRequest redirected request.reply.response] with
    request := none }

def onReceivedRedirect (request : NativeRequest sizes Response) (newUrl : GURL) :
    HttpProtocolHandlerCore sizes Response :=
  if !newUrl.isValid then s.stopRequestWithError .badURL .invalidUrl
  else (s.redirectRequest request newUrl).cancelNetRequest.stopNetRequest

/-- `OnAuthRequired`. The client is asked, and may answer inside the call. -/
def onAuthRequired
    (answer : Option (Option AuthCredentials)) : HttpProtocolHandlerCore sizes Response :=
  if s.tracker then
    match answer with
    | some credentials => s.completeAuthentication credentials
    | none => s
  else s.setNetRequest (s.netRequest.map (·.cancelAuth))

def onCertificateRequested : HttpProtocolHandlerCore sizes Response :=
  s.cancelNetRequest.stopRequestWithError .clientCertificateRequired .sslProtocolError

def onSSLCertificateError (P : HttpPlatform Response) (s : HttpProtocolHandlerCore sizes Response)
    (sslInfo : SSLInfo) (fatal : Bool) (answer : Option Bool) :
    HttpProtocolHandlerCore sizes Response :=
  -- High security hosts do not tolerate any issue.
  if fatal then (s.tellTracker (.onSSLCertificateError false)).cancelAfterSSLError
  -- Outside the context of a tab only trivial errors are allowed.
  else if !s.tracker then
    if P.isCertStatusMinorError sslInfo.certStatus then s.continueAfterSSLError
    else s.cancelAfterSSLError
  else (s.tellTracker (.onSSLCertificateError true)).giveCallback P .sslErrorCallback answer

def onResponseStarted (P : HttpPlatform Response) (s : HttpProtocolHandlerCore sizes Response)
    (netError : Option NetErrorCode) (answer : Option Bool) :
    HttpProtocolHandlerCore sizes Response :=
  match s.netRequest with
  | none => s
  | some request =>
    match netError with
    | some code => s.stopRequestWithError (iosErrorCode code) code
    | none =>
      -- A page from the HTTP cache does not trigger `OnSSLCertificateError`.
      if s.tracker && P.isCertStatusError request.reply.sslInfo.certStatus &&
          !request.reply.ignoreCertificateErrors then
        (s.tellTracker .captureCertificatePolicyCache).giveCallback P .hostStateCallback answer
      else s.startReading P

/-! ## Start and the stream -/

/-- `net_request_->Start()`, and `StartRequest` of the tracker. -/
def startNetRequest : HttpProtocolHandlerCore sizes Response :=
  (s.setPhase .started).tellTracker .startRequest

def setUpload (upload : List NSData) : HttpProtocolHandlerCore sizes Response :=
  s.setNetRequest (s.netRequest.map fun request => { request with upload := upload })

def handleStreamEvent :
    NSStreamEvent → HttpProtocolHandlerCore sizes Response
  | .errorOccurred => s.stopListeningStream.stopRequestWithError .unknown .unexpected
  | .endEncountered =>
    let s := s.stopListeningStream
    let s :=
      if s.postDataReaders = [] then s
      else { s.setUpload s.postDataReaders with postDataReaders := [] }
    s.startNetRequest
  | .hasBytesAvailable bytes =>
    if bytes = [] then s else { s with postDataReaders := s.postDataReaders ++ [bytes] }
  | .other => s

/-- What `RequestTracker::GetRequestTracker` finds. -/
inductive TrackerLookup
  | invalid
  | noTracker
  | found
deriving DecidableEq, Repr

/-- `Start`, for a request the network has `reply` for. -/
def start (request : NSMutableURLRequest) (lookup : TrackerLookup)
    (reply : NetworkReply sizes Response) : HttpProtocolHandlerCore sizes Response :=
  let s : HttpProtocolHandlerCore sizes Response :=
    { new request with tracker := lookup = .found }
  if lookup = .invalid then s.tellClient [.didFailWithNSErrorCode .cancelled .aborted]
  else if !request.url.isValid then
    s.tellClient [.didFailWithNSErrorCode .badURL .invalidUrl]
  else
    let netRequest := { NativeRequest.create reply with loadFlags := request.loadFlags s.tracker }
    let s := s.setNetRequest (some netRequest)
    if request.httpBodyStream then { s with streamDelegate := true }
    else if request.httpBody ≠ [] then (s.setUpload [request.httpBody]).startNetRequest
    else s.startNetRequest

/-! ## Runs -/

/-- What can happen to the handler after `Start`. -/
inductive Op (sizes : BufferSizes)
  | receivedRedirect (newUrl : GURL)
  | authRequired (answer : Option (Option AuthCredentials))
  | completeAuthentication (credentials : Option AuthCredentials)
  | certificateRequested
  | sslCertificateError (sslInfo : SSLInfo) (fatal : Bool) (answer : Option Bool)
  | responseStarted (netError : Option NetErrorCode) (answer : Option Bool)
  | readCompleted (bytesRead : ReadResult sizes)
  | streamEvent (event : NSStreamEvent)
  | runCallback (callback : TrackerCallback) (carryOn : Bool)
  | trackerDestroyed
  | cancel

def phase? : Option RequestPhase :=
  s.netRequest.map (·.phase)

/-- What the network stack, the stream and the tracker keep to. A request that was
cancelled by somebody else fails while it waits. -/
def Op.Pre : Op sizes → Prop
  | .receivedRedirect _ | .authRequired _ | .certificateRequested | .sslCertificateError _ _ _ =>
    s.phase? = some .started
  | .responseStarted none _ => s.phase? = some .started
  | .responseStarted (some _) _ =>
    s.phase? = some .started ∨ s.phase? = some .authRequired ∨ s.phase? = some .certificateError
  | .readCompleted bytesRead => s.phase? = some .readPending ∧ bytesRead ≠ .pending
  | .streamEvent _ => s.streamDelegate = true
  | .runCallback callback _ => callback ∈ s.callbacks
  | .completeAuthentication _ | .trackerDestroyed | .cancel => True

instance Op.decidablePre :
    (op : Op sizes) → Decidable (op.Pre s)
  | .receivedRedirect _ | .authRequired _ | .certificateRequested | .sslCertificateError _ _ _ =>
    decEq _ _
  | .responseStarted none _ => decEq _ _
  | .responseStarted (some _) _ => instDecidableOr
  | .readCompleted _ => instDecidableAnd
  | .streamEvent _ => decEq _ _
  | .runCallback _ _ => inferInstanceAs (Decidable (_ ∈ _))
  | .completeAuthentication _ | .trackerDestroyed | .cancel => instDecidableTrue

/-- The request changes its phase before it tells its delegate. -/
def step (P : HttpPlatform Response) (s : HttpProtocolHandlerCore sizes Response) :
    Op sizes → HttpProtocolHandlerCore sizes Response
  | .receivedRedirect newUrl =>
    match s.netRequest with
    | none => s
    | some request => s.onReceivedRedirect request newUrl
  | .authRequired answer => (s.setPhase .authRequired).onAuthRequired answer
  | .completeAuthentication credentials => s.completeAuthentication credentials
  | .certificateRequested => s.onCertificateRequested
  | .sslCertificateError sslInfo fatal answer =>
    (s.setPhase .certificateError).onSSLCertificateError P sslInfo fatal answer
  | .responseStarted netError answer =>
    (s.setPhase .responded).onResponseStarted P netError answer
  | .readCompleted bytesRead => (s.setPhase .responded).onReadCompleted bytesRead
  | .streamEvent event => s.handleStreamEvent event
  | .runCallback callback carryOn =>
    { s with callbacks := s.callbacks.erase callback }.runCallback P callback carryOn
  | .trackerDestroyed => { s with tracker := false }
  | .cancel => s.cancel

abbrev machine (sizes : BufferSizes) (P : HttpPlatform Response) :
    Machine (HttpProtocolHandlerCore sizes Response) (Op sizes) where
  Pre := fun s op => op.Pre s
  step := step P

end HttpProtocolHandlerCore

end ChromiumIos
