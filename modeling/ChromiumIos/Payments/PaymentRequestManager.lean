import ChromiumIos.Lib.Machine
import ChromiumIos.Lib.PromiseSlots

/-!
# `paymentRequestManager`

`payment_request.js`: what a page calls to show a payment request, and what the app calls to answer
it. The globals hold the pending request, the resolvers of the promises that the page was given, and
the event that lets the page update its request.

- `PaymentRequestManager`: the globals, the requests' shipping fields and what is on its way.
- `Result`: a call may throw, and leaves what it has done until then.
- `machine`: page and app in any order of calls.
-/

namespace ChromiumIos

open Lib

namespace PaymentRequestManager

/-- The globals that hold a `PromiseResolver`. -/
inductive Slot
  | requestPromiseResolver
  | abortPromiseResolver
  | canMakePaymentPromiseResolver
  | responsePromiseResolver
deriving DecidableEq, Repr

/-- How a promise is settled. -/
inductive Outcome (Response : Type)
  | response (paymentResponse : Response)
  | value (value : Bool)
  | done
  | rejected (message : String)
deriving DecidableEq, Repr

end PaymentRequestManager

open PaymentRequestManager

/-- `__gCrWeb.paymentRequestManager`, with payment requests numbered. `timeouts` are the requests of
the events that are about to be dispatched, `dispatched` the types that listeners were told of, and
`updates` counts the promises that were passed to `updateWith` and are not settled. -/
structure PaymentRequestManager (Response Address : Type) where
  pendingRequest : Option Nat
  /-- The type of the event. -/
  updateEvent : Option String
  /-- What the `target` of the event is defined as. -/
  target : Option Nat
  promises : PromiseSlots Slot (Outcome Response)
  shippingOption : Nat → Option String
  shippingAddress : Nat → Option Address
  timeouts : List Nat
  dispatched : List String
  updates : Nat

namespace PaymentRequestManager

variable {Response Address : Type}

def init : PaymentRequestManager Response Address where
  pendingRequest := none
  updateEvent := none
  target := none
  promises := .empty
  shippingOption _ := none
  shippingAddress _ := none
  timeouts := []
  dispatched := []
  updates := 0

/-- What a call leaves, and the error it throws. -/
structure Result (Response Address : Type) where
  state : PaymentRequestManager Response Address
  thrown : Option String

/-- The next statement, unless an error was thrown. -/
def Result.andThen (r : Result Response Address)
    (next : PaymentRequestManager Response Address → Result Response Address) :
    Result Response Address :=
  match r.thrown with
  | some _ => r
  | none => next r.state

variable (s : PaymentRequestManager Response Address)

def returns : Result Response Address := ⟨s, none⟩

def throws (message : String) : Result Response Address :=
  ⟨s, some message⟩

/-- The resolver of a global. -/
def resolver (slot : Slot) : Option Nat :=
  s.promises.slots slot

/-- A new `PromiseResolver` whose promise is returned to the page. -/
def newPromise (slot : Slot) : PaymentRequestManager Response Address :=
  { s with promises := (s.promises.create slot).hand slot }

/-- Settles the promise of a global, and sets the global to null. -/
def settle (s : PaymentRequestManager Response Address) (slot : Slot) (outcome : Outcome Response) :
    PaymentRequestManager Response Address :=
  { s with promises := s.promises.settle slot outcome }

/-- Settles the promise of a global, or throws if there is none. -/
def settleOrThrow (slot : Slot)
    (outcome : Outcome Response) (message : String) : Result Response Address :=
  if (s.resolver slot).isNone then s.throws message else returns (s.settle slot outcome)

def noPromiseToResolve : String := "Internal PaymentRequest error: No Promise to resolve."

def noPromiseToReject : String := "Internal PaymentRequest error: No Promise to reject. "

def paymentResponseMissing : String := "Internal PaymentRequest error: PaymentResponse missing."

def failedToParse : String := "Internal PaymentRequest error: failed to parse PaymentResponse."

def noPendingRequest : String := "Internal PaymentRequest error: No pending request."

def onlyOneUpdate : String :=
  "Internal PaymentRequest error: Only one update may take place at a time."

/-- The request is over. -/
def clearRequest : PaymentRequestManager Response Address :=
  { s with pendingRequest := none, updateEvent := none }

/-! ## What the app calls -/

/-- `rejectRequestPromise`. -/
def rejectRequestPromise (message : String) : Result Response Address :=
  (s.settleOrThrow .requestPromiseResolver (.rejected message) noPromiseToReject).andThen
    fun s => returns s.clearRequest

/-- `paymentResponseData`, as far as `resolveRequestPromise` looks at it. -/
structure ResponseData (Response : Type) where
  /-- Whether it is truthy. -/
  present : Bool
  /-- `parsePaymentResponseData`, if that does not throw. -/
  parsed : Option Response
deriving DecidableEq, Repr

/-- The end of `resolveRequestPromise`; a null resolver has no `resolve`. -/
def resolveWith (paymentResponse : Option Response) : Result Response Address :=
  let s := { s with promises := s.promises.create .responsePromiseResolver }
  let outcome := paymentResponse.elim .done .response
  (s.settleOrThrow .requestPromiseResolver outcome "TypeError").andThen
    fun s => returns s.clearRequest

/-- `resolveRequestPromise`. -/
def resolveRequestPromise (paymentResponseData : ResponseData Response) : Result Response Address :=
  if (s.resolver .requestPromiseResolver).isNone then s.throws noPromiseToResolve
  else
    let checked :=
      if paymentResponseData.present then returns s
      else s.rejectRequestPromise paymentResponseMissing
    checked.andThen fun s =>
      match paymentResponseData.parsed with
      | some paymentResponse => s.resolveWith (some paymentResponse)
      | none =>
        (s.rejectRequestPromise failedToParse).andThen fun s => s.resolveWith none

/-- `resolveAbortPromise`. -/
def resolveAbortPromise : Result Response Address :=
  if (s.resolver .abortPromiseResolver).isNone then returns s
  else returns (s.settle .abortPromiseResolver .done)

/-- `resolveCanMakePaymentPromise`. -/
def resolveCanMakePaymentPromise (value : Bool) : Result Response Address :=
  s.settleOrThrow .canMakePaymentPromiseResolver (.value value) noPromiseToResolve

/-- `rejectCanMakePaymentPromise`. -/
def rejectCanMakePaymentPromise (message : String) : Result Response Address :=
  s.settleOrThrow .canMakePaymentPromiseResolver (.rejected message) noPromiseToReject

/-- `resolveResponsePromise`. -/
def resolveResponsePromise : Result Response Address :=
  s.settleOrThrow .responsePromiseResolver .done noPromiseToResolve

/-- What the two updates share: `update` sets the new value on the request. -/
def updateAndDispatchEvent (type : String)
    (update : PaymentRequestManager Response Address → Nat →
      PaymentRequestManager Response Address) : Result Response Address :=
  let checked :=
    if s.pendingRequest.isSome then returns s
    else s.rejectRequestPromise noPendingRequest
  checked.andThen fun s =>
    let pendingRequest := s.pendingRequest
    let checked :=
      if s.updateEvent.isNone then returns s
      else s.rejectRequestPromise onlyOneUpdate
    checked.andThen fun s =>
      match pendingRequest with
      | none => s.throws "TypeError"
      | some request =>
        let s := update s request
        returns { s with
          updateEvent := some type, target := none, timeouts := s.timeouts ++ [request] }

/-- `updateShippingOptionAndDispatchEvent`. -/
def updateShippingOptionAndDispatchEvent (shippingOptionID : String) : Result Response Address :=
  s.updateAndDispatchEvent "shippingoptionchange" fun s request =>
    { s with shippingOption := Function.update s.shippingOption request (some shippingOptionID) }

/-- `updateShippingAddressAndDispatchEvent`. -/
def updateShippingAddressAndDispatchEvent (shippingAddress : Address) : Result Response Address :=
  s.updateAndDispatchEvent "shippingaddresschange" fun s request =>
    { s with shippingAddress := Function.update s.shippingAddress request (some shippingAddress) }

/-! ## What the page calls

`invokeOnHost` posts a message to the app. It throws where WebKit cannot clone the message, so each
call says whether its message is `sent`. -/

def notCloned : String := "DataCloneError"

/-- `PaymentRequest.prototype.show`. -/
def showRequest (request : Nat) (sent : Bool) : Result Response Address :=
  if s.pendingRequest.isSome then s.throws "Only one PaymentRequest may be shown at a time."
  else
    let s := { s with pendingRequest := some request }
    if sent then returns (s.newPromise .requestPromiseResolver) else s.throws notCloned

/-- `PaymentRequest.prototype.abort`. -/
def abort (sent : Bool) : Result Response Address :=
  let checked :=
    if s.pendingRequest.isSome then returns s
    else s.rejectRequestPromise noPendingRequest
  checked.andThen fun s =>
    if sent then returns (s.newPromise .abortPromiseResolver) else s.throws notCloned

/-- `PaymentRequest.prototype.canMakePayment`. -/
def canMakePayment (sent : Bool) : Result Response Address :=
  if sent then returns (s.newPromise .canMakePaymentPromiseResolver) else s.throws notCloned

/-- `PaymentResponse.prototype.complete`. -/
def complete (sent : Bool) : Result Response Address :=
  if (s.resolver .responsePromiseResolver).isNone then
    s.throws "Internal PaymentRequest error: No Promise to return."
  else if sent then returns { s with promises := s.promises.hand .responsePromiseResolver }
  else s.throws notCloned

/-- `dispatchEvent`, when the timeout has come, to a request that may have listeners. There is no
event to dispatch when it was set to null in the meantime, and its `target` cannot be redefined. -/
def dispatchEvent (i : Nat) (listens : Bool) : Result Response Address :=
  let request := s.timeouts[i]?
  let s := { s with timeouts := s.timeouts.eraseIdx i }
  match s.updateEvent with
  | none => s.throws "TypeError"
  | some type =>
    if !listens then returns s
    else if s.target.isSome && s.target ≠ request then s.throws "TypeError"
    else returns { s with target := request, dispatched := type :: s.dispatched }

/-- `updateWith` waits for its promise. -/
def updateWith : Result Response Address :=
  returns { s with updates := s.updates + 1 }

/-- The promise of `updateWith` is settled: the handlers of `then` and `catch`. The details are
`valid` when it fulfils with a truthy value. -/
def updateSettles (valid sent abortSent : Bool) : Result Response Address :=
  let s := { s with updates := s.updates - 1 }
  if valid && sent then returns { s with updateEvent := none }
  else if abortSent then returns { s with updateEvent := none }
  else s.throws notCloned

/-! ## Runs -/

inductive Op (Response Address : Type)
  | showRequest (request : Nat) (sent : Bool)
  | abort (sent : Bool)
  | canMakePayment (sent : Bool)
  | complete (sent : Bool)
  | updateWith
  | updateSettles (valid sent abortSent : Bool)
  | dispatchEvent (i : Nat) (listens : Bool)
  | resolveRequestPromise (paymentResponseData : ResponseData Response)
  | rejectRequestPromise (message : String)
  | resolveAbortPromise
  | resolveCanMakePaymentPromise (value : Bool)
  | rejectCanMakePaymentPromise (message : String)
  | resolveResponsePromise
  | updateShippingOptionAndDispatchEvent (shippingOptionID : String)
  | updateShippingAddressAndDispatchEvent (shippingAddress : Address)

def apply :
    Op Response Address → Result Response Address
  | .showRequest request sent => s.showRequest request sent
  | .abort sent => s.abort sent
  | .canMakePayment sent => s.canMakePayment sent
  | .complete sent => s.complete sent
  | .updateWith => s.updateWith
  | .updateSettles valid sent abortSent => s.updateSettles valid sent abortSent
  | .dispatchEvent i listens => s.dispatchEvent i listens
  | .resolveRequestPromise paymentResponseData => s.resolveRequestPromise paymentResponseData
  | .rejectRequestPromise message => s.rejectRequestPromise message
  | .resolveAbortPromise => s.resolveAbortPromise
  | .resolveCanMakePaymentPromise value => s.resolveCanMakePaymentPromise value
  | .rejectCanMakePaymentPromise message => s.rejectCanMakePaymentPromise message
  | .resolveResponsePromise => s.resolveResponsePromise
  | .updateShippingOptionAndDispatchEvent shippingOptionID =>
    s.updateShippingOptionAndDispatchEvent shippingOptionID
  | .updateShippingAddressAndDispatchEvent shippingAddress =>
    s.updateShippingAddressAndDispatchEvent shippingAddress

/-- `updateWith` is a property of events that listeners were told of. -/
def Pre : Op Response Address → Prop
  | .updateWith => s.dispatched ≠ []
  | .updateSettles _ _ _ => 0 < s.updates
  | .dispatchEvent i _ => i < s.timeouts.length
  | _ => True

instance : ∀ op, Decidable (s.Pre op)
  | .updateWith => instDecidableNot
  | .updateSettles _ _ _ | .dispatchEvent _ _ => Nat.decLt _ _
  | .showRequest _ _ | .abort _ | .canMakePayment _ | .complete _ | .resolveRequestPromise _
  | .rejectRequestPromise _ | .resolveAbortPromise | .resolveCanMakePaymentPromise _
  | .rejectCanMakePaymentPromise _ | .resolveResponsePromise
  | .updateShippingOptionAndDispatchEvent _ | .updateShippingAddressAndDispatchEvent _ =>
    instDecidableTrue

abbrev machine (Response Address : Type) :
    Machine (PaymentRequestManager Response Address) (Op Response Address) where
  Pre := Pre
  step s op := (s.apply op).state

end PaymentRequestManager

end ChromiumIos
