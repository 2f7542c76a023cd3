import ChromiumIos.Base.Ints
import ChromiumIos.Lib.Keyed
import ChromiumIos.Lib.Machine
import ChromiumIos.Web.Types

/-!
# `U2FController`

`u2f_controller.mm`: a page asks another app for a security key's answer. The controller makes the
URL that opens the app, and the answer comes back in a callback URL with parameters.

- `U2FPlatform`: what the controller uses of URLs and of JSON.
- `U2FPlatform.JSStringFromReponseURL`: the script for a callback URL.
- `outstanding`: the requests that wait for an answer, by what has happened.
- `machine`: requests and callbacks in any order.
-/

namespace ChromiumIos

open Lib

/-- `web::URLVerificationTrustLevel`. -/
inductive URLVerificationTrustLevel
  | none
  | mixed
  | absolute
deriving DecidableEq, Repr

/-- What `U2FController` takes from libraries and from the app. -/
structure U2FPlatform where
  /-- `GURL(const std::string&)`. -/
  parseURL : String → GURL
  host : GURL → String
  query : GURL → String
  schemeIsCryptographic : GURL → Bool
  /-- `google_util::IsGoogleDomainUrl`, with subdomains and standard ports only. -/
  isGoogleDomainUrl : GURL → Bool
  /-- `net::GetValueForKeyInQuery`: the first value of the key. -/
  getValueForKeyInQuery : GURL → String → Option String
  appendQueryParameter : GURL → String → String → GURL
  /-- `base::GetQuotedJSONString`. -/
  getQuotedJSONString : String → String
  bundleURLScheme : String

/-! ## Numbers -/

/-- `isspace`, in the C locale. -/
def isSpace (c : Char) : Bool :=
  c = ' ' || c = '\t' || c = '\n' || c = '\x0b' || c = '\x0c' || c = '\r'

/-- The sign that a number starts with, and the rest. -/
def splitSign : List Char → Bool × List Char
  | '-' :: rest => (true, rest)
  | '+' :: rest => (false, rest)
  | rest => (false, rest)

/-- `std::stoi`: the number that the text starts with, unless there is none or it is not an
`int`. -/
def stoi (text : String) : Option Int :=
  let (negative, rest) := splitSign (text.toList.dropWhile isSpace)
  let digits := rest.takeWhile Char.isDigit
  let magnitude : Nat := digits.foldl (fun n c => 10 * n + (c.toNat - '0'.toNat)) 0
  let number : Int := if negative then -magnitude else magnitude
  if digits = [] then none
  else if intMin ≤ number ∧ number ≤ intMax then some number
  else none

/-! ## The controller -/

namespace U2FController

/-- A request that was issued, with the URL of its tab. -/
structure U2FRequest where
  requestUUID : String
  originURL : GURL
  tabURL : GURL
deriving DecidableEq, Repr

/-- What has happened. A callback was evaluated while the tab had a current URL, and perhaps a
script was injected. -/
inductive Event
  | issued (request : U2FRequest)
  | evaluated (U2FURL currentTabURL : GURL) (trustLevel : URLVerificationTrustLevel)
      (script : Option String)
deriving DecidableEq, Repr

end U2FController

open U2FController

/-- `U2FController`, with what has happened, the last first. -/
structure U2FController where
  requestToURLMap : Keyed String String
  history : List Event
  exceptionThrown : Bool

namespace U2FPlatform

variable (P : U2FPlatform)

/-- `shouldAllowSourceURL`. -/
def shouldAllowSourceURL (sourceURL : GURL) : Bool :=
  P.isGoogleDomainUrl sourceURL ||
    ["u2fdemo.appspot.com", "chromeiostesting-dot-u2fdemo.appspot.com"].contains (P.host sourceURL)

/-- `CreateXCallbackURLWithParameters`. A map gives its entries in the order of the keys. -/
def createXCallbackURLWithParameters (scheme action : String)
    (successURL errorURL cancelURL : GURL) (parameters : List (String × String)) : GURL :=
  let append url name (value : GURL) :=
    if value.isValid then P.appendQueryParameter url name value.spec else url
  let url := P.parseURL (scheme ++ "://" ++ "x-callback-url" ++ "/" ++ action)
  let url := append url "x-success" successURL
  let url := append url "x-error" errorURL
  let url := append url "x-cancel" cancelURL
  parameters.foldl (fun url pair => P.appendQueryParameter url pair.1 pair.2) url

/-- The URL that the other app opens with its answer. -/
def successOrErrorURL (tabID requestUUID : String) : GURL :=
  let url := P.parseURL (P.bundleURLScheme ++ "://" ++ "u2f-callback" ++ "/")
  let url := P.appendQueryParameter url "tabID" tabID
  let url := P.appendQueryParameter url "requestUUID" requestUUID
  P.appendQueryParameter url "isU2F" "1"

/-- `u2f.callbackMap_[id]({key: value, ...})`. -/
def printCall (quotedRequestID : String) (fields : List (String × String)) : String :=
  "u2f.callbackMap_[" ++ quotedRequestID ++ "](\x7b" ++
    ", ".intercalate (fields.map fun field => field.1 ++ ": " ++ field.2) ++ "\x7d)"

/-- A field of the call that repeats a parameter. -/
def quotedField (url : GURL) (key : String) : String × String :=
  (P.getQuotedJSONString key,
    P.getQuotedJSONString ((P.getValueForKeyInQuery url key).getD ""))

/-- `JSStringFromReponseURL`, which throws where `std::stoi` does. -/
def JSStringFromReponseURL (url : GURL) : Option String :=
  match P.getValueForKeyInQuery url "requestId" with
  | none => some ""
  | some requestID =>
    let quotedRequestID := P.getQuotedJSONString requestID
    match P.getValueForKeyInQuery url "error" with
    | some errorCode =>
      (stoi errorCode).map fun code =>
        printCall quotedRequestID [(P.getQuotedJSONString "errorCode", toString code)]
    | none =>
      if (P.getValueForKeyInQuery url "registrationData").isSome then
        some (printCall quotedRequestID
          [P.quotedField url "registrationData", P.quotedField url "clientData"])
      else if (P.getValueForKeyInQuery url "signatureData").isSome then
        some (printCall quotedRequestID
          [P.quotedField url "keyHandle", P.quotedField url "signatureData",
            P.quotedField url "clientData"])
      else some ""

end U2FPlatform

namespace U2FController

variable (P : U2FPlatform)

def init : U2FController := ⟨.empty, [], false⟩

variable (s : U2FController)

/-- `XCallbackFromRequestURL:originURL:tabURL:tabID:`, with the random UUID. -/
def XCallbackFromRequestURL (requestURL originURL tabURL : GURL)
    (tabID requestUUID : String) : U2FController × GURL :=
  if !P.schemeIsCryptographic originURL then (s, .new)
  else if !P.shouldAllowSourceURL originURL then (s, .new)
  else
    let successOrErrorURL := P.successOrErrorURL tabID requestUUID
    ({ s with
        requestToURLMap := s.requestToURLMap.set requestUUID tabURL.spec
        history := .issued ⟨requestUUID, originURL, tabURL⟩ :: s.history },
      P.createXCallbackURLWithParameters "u2f-x-callback" "auth" successOrErrorURL
        successOrErrorURL .new [("data", P.query requestURL), ("origin", originURL.spec)])

/-- `evaluateU2FResultFromU2FURL:webState:`, with the URL and the trust level of the web state, and
the script that it executes. -/
def evaluateU2FResultFromU2FURL (U2FURL currentTabURL : GURL)
    (trustLevel : URLVerificationTrustLevel) : U2FController × Option String :=
  if P.host U2FURL ≠ "u2f-callback" then (s, none)
  else
    match P.getValueForKeyInQuery U2FURL "requestUUID" with
    | none => (s, none)
    | some requestUUID =>
      match s.requestToURLMap.get? requestUUID with
      | none => (s, none)
      | some originalTabURL =>
        let answered := { s with requestToURLMap := s.requestToURLMap.erase requestUUID }
        if trustLevel = .absolute ∧ (P.parseURL originalTabURL).eq currentTabURL then
          match P.JSStringFromReponseURL U2FURL with
          | none => ({ s with exceptionThrown := true }, none)
          | some script => (answered, some script)
        else (answered, none)

/-! ## Runs -/

inductive Op
  | XCallbackFromRequestURL (requestURL originURL tabURL : GURL) (tabID requestUUID : String)
  | evaluateU2FResultFromU2FURL (U2FURL currentTabURL : GURL)
      (trustLevel : URLVerificationTrustLevel)

def apply : Op → U2FController
  | .XCallbackFromRequestURL requestURL originURL tabURL tabID requestUUID =>
    (s.XCallbackFromRequestURL P requestURL originURL tabURL tabID requestUUID).1
  | .evaluateU2FResultFromU2FURL U2FURL currentTabURL trustLevel =>
    let (s, script) := s.evaluateU2FResultFromU2FURL P U2FURL currentTabURL trustLevel
    { s with history := .evaluated U2FURL currentTabURL trustLevel script :: s.history }

def issuedUUIDs : List String :=
  s.history.filterMap fun
    | .issued request => some request.requestUUID
    | .evaluated _ _ _ _ => none

/-- UUIDs do not repeat. -/
def Pre : Op → Prop
  | .XCallbackFromRequestURL _ _ _ _ requestUUID => requestUUID ∉ s.issuedUUIDs
  | .evaluateU2FResultFromU2FURL _ _ _ => True

instance : ∀ op, Decidable (s.Pre op)
  | .XCallbackFromRequestURL _ _ _ _ _ => instDecidableNot
  | .evaluateU2FResultFromU2FURL _ _ _ => instDecidableTrue

/-- A tab, its navigations and the callbacks that reach it. -/
abbrev machine : Machine U2FController Op where
  Pre := Pre
  step s op := s.apply P op

/-! ## Answers -/

/-- The callback carries the UUID. -/
def carries (U2FURL : GURL) (requestUUID : String) : Bool :=
  P.host U2FURL = "u2f-callback" &&
    P.getValueForKeyInQuery U2FURL "requestUUID" = some requestUUID

/-- The request with the UUID, from when it is issued until a callback carries its UUID. -/
def outstanding : List Event → String → Option U2FRequest
  | [], _ => none
  | .issued request :: before, requestUUID =>
    if request.requestUUID = requestUUID then some request else outstanding before requestUUID
  | .evaluated U2FURL _ _ _ :: before, requestUUID =>
    if carries P U2FURL requestUUID then none else outstanding before requestUUID

/-- Whether the event injects a script for the UUID. -/
def injects (requestUUID : String) : Event → Bool
  | .issued _ => false
  | .evaluated U2FURL _ _ script => script.isSome && carries P U2FURL requestUUID

/-- A value in the call: the number of an error, or the text of a parameter. -/
inductive U2FValue
  | number (code : Int)
  | text (value : String)

def U2FValue.literal : U2FValue → String
  | .number code => toString code
  | .text value => P.getQuotedJSONString value

/-- The call of a page's callback. -/
structure U2FCall where
  requestId : String
  fields : List (String × U2FValue)

def U2FCall.script (call : U2FCall) : String :=
  U2FPlatform.printCall (P.getQuotedJSONString call.requestId)
    (call.fields.map fun field => (P.getQuotedJSONString field.1, field.2.literal P))

/-- The field has the value of its parameter, which is empty if it is missing; the error code is the
number of the parameter `error`. -/
def Repeats (U2FURL : GURL) : String × U2FValue → Prop
  | (key, .number code) => key = "errorCode" ∧
      ∃ error, P.getValueForKeyInQuery U2FURL "error" = some error ∧ stoi error = some code
  | (key, .text value) => value = (P.getValueForKeyInQuery U2FURL key).getD ""

/-- The script is empty, or one call with what the callback says. -/
def IsAnswer (U2FURL : GURL) (script : String) : Prop :=
  script = "" ∨ ∃ call : U2FCall, script = call.script P ∧
    P.getValueForKeyInQuery U2FURL "requestId" = some call.requestId ∧
      ∀ field ∈ call.fields, Repeats P U2FURL field

/-- Answers reach only the page that asked. -/
structure Answered : Prop where
  /-- A script is injected for a request that waits, while its page is shown. -/
  asked : ∀ U2FURL currentTabURL trustLevel script before,
    .evaluated U2FURL currentTabURL trustLevel (some script) :: before <:+ s.history →
      ∃ request, carries P U2FURL request.requestUUID = true ∧
        outstanding P before request.requestUUID = some request ∧
        P.schemeIsCryptographic request.originURL = true ∧
        P.shouldAllowSourceURL request.originURL = true ∧
        trustLevel = .absolute ∧ (P.parseURL request.tabURL.spec).eq currentTabURL = true ∧
        IsAnswer P U2FURL script
  once : ∀ requestUUID, s.history.countP (injects P requestUUID) ≤ 1
  /-- The bookkeeping is that of the requests that wait. -/
  recorded : ∀ requestUUID, s.requestToURLMap.get? requestUUID =
    (outstanding P s.history requestUUID).map (·.tabURL.spec)
  unthrown : s.exceptionThrown = false

end U2FController

end ChromiumIos
