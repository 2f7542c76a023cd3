import ChromiumIos.Lib.Receiver
import ChromiumIos.Web.Types

/-!
# Payment requests

`payment_request.cc`: a request of a page arrives as a dictionary, and each class fills itself from
its part of it. The required fields are read first, and lists are cleared before they are filled; an
optional field that the dictionary does not have is left as it was.

- `fromDictionaryValue`: one reader a class, over the readers of the classes it is made of.
- `Accepts`: the required fields are there.
- `Keeps`: what of the receiver is left after a dictionary with these fields.
- `PaymentRequest.read_alike_iff`: two receivers are filled alike exactly when they held the same
  there.
-/

namespace ChromiumIos

open Lib

/-! ## Dictionaries -/

/-- `base::Value`, as far as payments are read from it. -/
inductive PaymentValue
  | boolean (value : Bool)
  | string (text : String)
  | dictionary (entries : List (String × PaymentValue))
  | list (values : List PaymentValue)
  | other

/-- `base::DictionaryValue`. -/
abbrev DictionaryValue := List (String × PaymentValue)

/-- `base::UTF8ToUTF16`. -/
def utf8ToUTF16 (text : String) : String16 :=
  text.toList.flatMap fun c =>
    if c.toNat < 0x10000 then [c.toNat.toUInt16]
    else
      -- a surrogate pair
      let rest := c.toNat - 0x10000
      [(0xD800 + rest / 0x400).toUInt16, (0xDC00 + rest % 0x400).toUInt16]

def PaymentValue.getAsDictionary : PaymentValue → Option DictionaryValue
  | .dictionary entries => some entries
  | _ => none

namespace DictionaryValue

def getString (d : DictionaryValue) (key : String) : Option String16 :=
  match d.lookup key with
  | some (.string text) => some (utf8ToUTF16 text)
  | _ => none

def getBoolean (d : DictionaryValue) (key : String) : Option Bool :=
  match d.lookup key with
  | some (.boolean value) => some value
  | _ => none

def getDictionary (d : DictionaryValue) (key : String) : Option DictionaryValue :=
  (d.lookup key).bind PaymentValue.getAsDictionary

def getList (d : DictionaryValue) (key : String) : Option (List PaymentValue) :=
  match d.lookup key with
  | some (.list values) => some values
  | _ => none

end DictionaryValue

/-! ## The classes -/

/-- `kPaymentCurrencyAmountCurrencySystemISO4217`. -/
def currencySystemISO4217 : String := "urn:iso:std:iso:4217"

structure PaymentCurrencyAmount where
  currency : String16 := []
  value : String16 := []
  currencySystem : String16 := utf8ToUTF16 currencySystemISO4217
deriving DecidableEq, Repr

structure PaymentItem where
  label : String16 := []
  amount : PaymentCurrencyAmount := {}
  pending : Bool := false
deriving DecidableEq, Repr

structure PaymentShippingOption where
  id : String16 := []
  label : String16 := []
  amount : PaymentCurrencyAmount := {}
  selected : Bool := false
deriving DecidableEq, Repr

structure PaymentDetailsModifier where
  supportedMethods : List String16 := []
  total : PaymentItem := {}
  additionalDisplayItems : List PaymentItem := []
deriving DecidableEq, Repr

structure PaymentDetails where
  total : PaymentItem := {}
  displayItems : List PaymentItem := []
  shippingOptions : List PaymentShippingOption := []
  modifiers : List PaymentDetailsModifier := []
  error : String16 := []
deriving DecidableEq, Repr

/-- `payments::PaymentShippingType`. -/
inductive PaymentShippingType
  | shipping
  | delivery
  | pickup
deriving DecidableEq, Repr

structure PaymentOptions where
  requestPayerName : Bool := false
  requestPayerEmail : Bool := false
  requestPayerPhone : Bool := false
  requestShipping : Bool := false
  shippingType : PaymentShippingType := .shipping
deriving DecidableEq, Repr

/-- Addresses and method data are classes of another component. -/
structure PaymentRequest (Address MethodData : Type) where
  paymentRequestId : String16
  shippingAddress : Address
  shippingOption : String16
  methodData : List MethodData
  details : PaymentDetails
  options : PaymentOptions
deriving DecidableEq, Repr

/-- `payments::PaymentMethodData`: a new one, and how one is read. -/
structure PaymentMethodDataClass (MethodData : Type) where
  new : MethodData
  fromDictionaryValue : Reader DictionaryValue MethodData

/-! ## An amount -/

namespace PaymentCurrencyAmount

def fromDictionaryValue : Reader DictionaryValue PaymentCurrencyAmount := fun amount value =>
  andThen (required (value.getString "currency")
    (fun amount currency => { amount with currency }) amount) fun amount =>
  andThen (required (value.getString "value")
    (fun amount value => { amount with value }) amount) fun amount =>
  -- Currency_system is optional
  (true, { amount with
    currencySystem := (value.getString "currencySystem").getD amount.currencySystem })

def Accepts (d : DictionaryValue) : Prop :=
  (d.getString "currency").isSome = true ∧ (d.getString "value").isSome = true

def Keeps (d : DictionaryValue) (a b : PaymentCurrencyAmount) : Prop :=
  d.getString "currencySystem" = none → a.currencySystem = b.currencySystem

theorem remembers : Remembers fromDictionaryValue Accepts Keeps where
  fst_iff a d := by
    simp [fromDictionaryValue, andThen_fst_iff, Accepts]
  snd_iff {a b d} hd := by
    obtain ⟨currency, hcurrency⟩ := Option.isSome_iff_exists.1 hd.1
    obtain ⟨value, hvalue⟩ := Option.isSome_iff_exists.1 hd.2
    simp [fromDictionaryValue, hcurrency, hvalue, getD_eq_getD_iff, Keeps]

end PaymentCurrencyAmount

/-! ## Items and shipping options -/

namespace PaymentItem

def fromDictionaryValue : Reader DictionaryValue PaymentItem := fun item value =>
  andThen (required (value.getString "label")
    (fun item label => { item with label }) item) fun item =>
  match value.getDictionary "amount" with
  | none => (false, item)
  | some amountDict =>
    andThen (into (item.amount.fromDictionaryValue amountDict)
      fun amount => { item with amount }) fun item =>
    -- Pending is optional.
    (true, { item with pending := (value.getBoolean "pending").getD item.pending })

def Accepts (d : DictionaryValue) : Prop :=
  (d.getString "label").isSome = true ∧
    ∃ amount, d.getDictionary "amount" = some amount ∧ PaymentCurrencyAmount.Accepts amount

def Keeps (d : DictionaryValue) (a b : PaymentItem) : Prop :=
  (∀ amount, d.getDictionary "amount" = some amount →
    PaymentCurrencyAmount.Keeps amount a.amount b.amount) ∧
  (d.getBoolean "pending" = none → a.pending = b.pending)

theorem remembers : Remembers fromDictionaryValue Accepts Keeps where
  fst_iff a d := by
    cases hamount : d.getDictionary "amount" with
    | none => simp [fromDictionaryValue, andThen_fst_iff, Accepts, hamount]
    | some amount =>
      simp [fromDictionaryValue, andThen_fst_iff, Accepts, hamount,
        PaymentCurrencyAmount.remembers.fst_iff]
  snd_iff {a b d} hd := by
    obtain ⟨hlabel, amount, hamount, haccepts⟩ := hd
    obtain ⟨label, hlabel⟩ := Option.isSome_iff_exists.1 hlabel
    have hread : ∀ a : PaymentCurrencyAmount, (a.fromDictionaryValue amount).1 = true :=
      fun a => PaymentCurrencyAmount.remembers.fst haccepts
    simp [fromDictionaryValue, hlabel, hamount, andThen_of_fst, hread, getD_eq_getD_iff, Keeps,
      PaymentCurrencyAmount.remembers.snd_iff haccepts]

end PaymentItem

namespace PaymentShippingOption

def fromDictionaryValue : Reader DictionaryValue PaymentShippingOption := fun option value =>
  andThen (required (value.getString "id")
    (fun option id => { option with id }) option) fun option =>
  andThen (required (value.getString "label")
    (fun option label => { option with label }) option) fun option =>
  match value.getDictionary "amount" with
  | none => (false, option)
  | some amountDict =>
    andThen (into (option.amount.fromDictionaryValue amountDict)
      fun amount => { option with amount }) fun option =>
    -- Selected is optional.
    (true, { option with selected := (value.getBoolean "selected").getD option.selected })

def Accepts (d : DictionaryValue) : Prop :=
  (d.getString "id").isSome = true ∧ (d.getString "label").isSome = true ∧
    ∃ amount, d.getDictionary "amount" = some amount ∧ PaymentCurrencyAmount.Accepts amount

def Keeps (d : DictionaryValue) (a b : PaymentShippingOption) : Prop :=
  (∀ amount, d.getDictionary "amount" = some amount →
    PaymentCurrencyAmount.Keeps amount a.amount b.amount) ∧
  (d.getBoolean "selected" = none → a.selected = b.selected)

theorem remembers : Remembers fromDictionaryValue Accepts Keeps where
  fst_iff a d := by
    cases hamount : d.getDictionary "amount" with
    | none => simp [fromDictionaryValue, andThen_fst_iff, Accepts, hamount]
    | some amount =>
      simp [fromDictionaryValue, andThen_fst_iff, Accepts, hamount,
        PaymentCurrencyAmount.remembers.fst_iff]
  snd_iff {a b d} hd := by
    obtain ⟨hid, hlabel, amount, hamount, haccepts⟩ := hd
    obtain ⟨id, hid⟩ := Option.isSome_iff_exists.1 hid
    obtain ⟨label, hlabel⟩ := Option.isSome_iff_exists.1 hlabel
    have hread : ∀ a : PaymentCurrencyAmount, (a.fromDictionaryValue amount).1 = true :=
      fun a => PaymentCurrencyAmount.remembers.fst haccepts
    simp [fromDictionaryValue, hid, hlabel, hamount, andThen_of_fst, hread, getD_eq_getD_iff,
      Keeps, PaymentCurrencyAmount.remembers.snd_iff haccepts]

end PaymentShippingOption

/-! ## Details and options -/

namespace PaymentDetails

def fromDictionaryValue : Reader DictionaryValue PaymentDetails := fun details value =>
  let details := { details with displayItems := [], shippingOptions := [], modifiers := [] }
  match value.getDictionary "total" with
  | none => (false, details)
  | some totalDict =>
    andThen (into (details.total.fromDictionaryValue totalDict)
      fun total => { details with total }) fun details =>
    andThen (into (readListIfAny PaymentItem.fromDictionaryValue {} PaymentValue.getAsDictionary
      (value.getList "displayItems") details.displayItems)
      fun displayItems => { details with displayItems }) fun details =>
    andThen (into (readListIfAny PaymentShippingOption.fromDictionaryValue {}
      PaymentValue.getAsDictionary (value.getList "shippingOptions") details.shippingOptions)
      fun shippingOptions => { details with shippingOptions }) fun details =>
    -- Error is optional.
    (true, { details with error := (value.getString "error").getD details.error })

/-- Each entry of the list is a dictionary with the required fields. -/
def AcceptsAll (Accepts : DictionaryValue → Prop) (entries : Option (List PaymentValue)) : Prop :=
  ∀ list ∈ entries, ∀ value ∈ list, ∃ d, value.getAsDictionary = some d ∧ Accepts d

def Accepts (d : DictionaryValue) : Prop :=
  (∃ total, d.getDictionary "total" = some total ∧ PaymentItem.Accepts total) ∧
  AcceptsAll PaymentItem.Accepts (d.getList "displayItems") ∧
  AcceptsAll PaymentShippingOption.Accepts (d.getList "shippingOptions")

def Keeps (d : DictionaryValue) (a b : PaymentDetails) : Prop :=
  (∀ total, d.getDictionary "total" = some total → PaymentItem.Keeps total a.total b.total) ∧
  (d.getString "error" = none → a.error = b.error)

theorem remembers : Remembers fromDictionaryValue Accepts Keeps where
  fst_iff a d := by
    cases htotal : d.getDictionary "total" with
    | none => simp [fromDictionaryValue, Accepts, htotal]
    | some total =>
      simp [fromDictionaryValue, andThen_fst_iff, Accepts, AcceptsAll, htotal,
        PaymentItem.remembers.fst_iff, PaymentItem.remembers.readListIfAny_fst_iff,
        PaymentShippingOption.remembers.readListIfAny_fst_iff]
  snd_iff {a b d} hd := by
    obtain ⟨⟨total, htotal, haccepts⟩, hitems, hoptions⟩ := hd
    have hread : ∀ a : PaymentItem, (a.fromDictionaryValue total).1 = true :=
      fun a => PaymentItem.remembers.fst haccepts
    -- the lists are read into empty ones, so they are the same in both receivers
    have hitems := (PaymentItem.remembers.readListIfAny_fst_iff {} []).2 hitems
    have hoptions := (PaymentShippingOption.remembers.readListIfAny_fst_iff {} []).2 hoptions
    simp [fromDictionaryValue, htotal, andThen_of_fst, hread, hitems, hoptions, getD_eq_getD_iff,
      Keeps, PaymentItem.remembers.snd_iff haccepts]

end PaymentDetails

namespace PaymentOptions

def fromDictionaryValue : Reader DictionaryValue PaymentOptions := fun options value =>
  let options := { options with
    requestPayerName := (value.getBoolean "requestPayerName").getD options.requestPayerName
    requestPayerEmail := (value.getBoolean "requestPayerEmail").getD options.requestPayerEmail
    requestPayerPhone := (value.getBoolean "requestPayerPhone").getD options.requestPayerPhone
    requestShipping := (value.getBoolean "requestShipping").getD options.requestShipping }
  let shippingType := (value.getString "shippingType").getD []
  (true, { options with shippingType :=
    if shippingType = utf8ToUTF16 "delivery" then .delivery
    else if shippingType = utf8ToUTF16 "pickup" then .pickup
    else .shipping })

/-- The shipping type is not among them: it is reset. -/
def Keeps (d : DictionaryValue) (a b : PaymentOptions) : Prop :=
  (d.getBoolean "requestPayerName" = none → a.requestPayerName = b.requestPayerName) ∧
  (d.getBoolean "requestPayerEmail" = none → a.requestPayerEmail = b.requestPayerEmail) ∧
  (d.getBoolean "requestPayerPhone" = none → a.requestPayerPhone = b.requestPayerPhone) ∧
  (d.getBoolean "requestShipping" = none → a.requestShipping = b.requestShipping)

theorem remembers : Remembers fromDictionaryValue (fun _ => True) Keeps where
  fst_iff _ _ := iff_of_true rfl trivial
  snd_iff {a b d} _ := by
    simp [fromDictionaryValue, getD_eq_getD_iff, Keeps]

end PaymentOptions

/-! ## A request -/

namespace PaymentRequest

variable {Address MethodData : Type} (methods : PaymentMethodDataClass MethodData)

def fromDictionaryValue : Reader DictionaryValue (PaymentRequest Address MethodData) :=
  fun request value =>
  let request := { request with methodData := [] }
  match value.getList "methodData" with
  | none => (false, request)
  | some methodDataList =>
    -- At least one method is required.
    if methodDataList.isEmpty then (false, request)
    else
      andThen (into (readList methods.fromDictionaryValue methods.new PaymentValue.getAsDictionary
        methodDataList request.methodData) fun methodData => { request with methodData })
        fun request =>
      match value.getDictionary "details" with
      | none => (false, request)
      | some paymentDetailsDict =>
        andThen (into (request.details.fromDictionaryValue paymentDetailsDict)
          fun details => { request with details }) fun request =>
        -- Options field is optional.
        match value.getDictionary "options" with
        | none => (true, request)
        | some paymentOptions =>
          into (request.options.fromDictionaryValue paymentOptions)
            fun options => { request with options }

def Accepts (d : DictionaryValue) : Prop :=
  (∃ list, d.getList "methodData" = some list ∧ list ≠ [] ∧
    ∀ value ∈ list, ∃ data, value.getAsDictionary = some data ∧
      (methods.fromDictionaryValue methods.new data).1 = true) ∧
  ∃ details, d.getDictionary "details" = some details ∧ PaymentDetails.Accepts details

/-- The first three are not read at all. -/
def Keeps (d : DictionaryValue) (a b : PaymentRequest Address MethodData) : Prop :=
  (a.paymentRequestId = b.paymentRequestId ∧ a.shippingAddress = b.shippingAddress ∧
    a.shippingOption = b.shippingOption) ∧
  (∀ details, d.getDictionary "details" = some details →
    PaymentDetails.Keeps details a.details b.details) ∧
  (∀ options, d.getDictionary "options" = some options →
    PaymentOptions.Keeps options a.options b.options) ∧
  (d.getDictionary "options" = none → a.options = b.options)

theorem remembers : Remembers (fromDictionaryValue methods) (Accepts methods)
    (@Keeps Address MethodData) where
  fst_iff a d := by
    cases hlist : d.getList "methodData" with
    | none => simp [fromDictionaryValue, Accepts, hlist]
    | some list =>
      by_cases hne : list = []
      · simp [fromDictionaryValue, Accepts, hlist, hne]
      cases hdetails : d.getDictionary "details" with
      | none => simp [fromDictionaryValue, Accepts, hlist, hne, hdetails, andThen_fst_iff]
      | some details =>
        cases hoptions : d.getDictionary "options" with
        | none =>
          simp [fromDictionaryValue, Accepts, hlist, hne, hdetails, hoptions, andThen_fst_iff,
            readList_fst_iff, PaymentDetails.remembers.fst_iff]
        | some options =>
          simp [fromDictionaryValue, Accepts, hlist, hne, hdetails, hoptions, andThen_fst_iff,
            readList_fst_iff, PaymentDetails.remembers.fst_iff, PaymentOptions.remembers.fst_iff]
  snd_iff {a b d} hd := by
    obtain ⟨⟨list, hlist, hne, hmethods⟩, details, hdetails, haccepts⟩ := hd
    have hread : ∀ a : PaymentDetails, (a.fromDictionaryValue details).1 = true :=
      fun a => PaymentDetails.remembers.fst haccepts
    have hlistRead : (readList methods.fromDictionaryValue methods.new
        PaymentValue.getAsDictionary list []).1 = true := readList_fst_iff.2 hmethods
    cases hoptions : d.getDictionary "options" with
    | none =>
      simp [fromDictionaryValue, hlist, hne, hdetails, hoptions, andThen_of_fst, hread, hlistRead,
        Keeps, and_assoc, PaymentDetails.remembers.snd_iff haccepts]
    | some options =>
      simp [fromDictionaryValue, hlist, hne, hdetails, hoptions, andThen_of_fst, hread, hlistRead,
        Keeps, and_assoc, PaymentDetails.remembers.snd_iff haccepts,
        PaymentOptions.remembers.snd_iff]

/-- What a receiver held before a dictionary it accepts does not matter exactly as far as the fields
go that the dictionary leaves: two receivers have to agree on these, and on nothing else. -/
theorem read_alike_iff :
    (∀ d a b, ReadAlike PaymentCurrencyAmount.fromDictionaryValue d a b ↔
      (PaymentCurrencyAmount.Accepts d → PaymentCurrencyAmount.Keeps d a b)) ∧
    (∀ d a b, ReadAlike PaymentItem.fromDictionaryValue d a b ↔
      (PaymentItem.Accepts d → PaymentItem.Keeps d a b)) ∧
    (∀ d a b, ReadAlike PaymentShippingOption.fromDictionaryValue d a b ↔
      (PaymentShippingOption.Accepts d → PaymentShippingOption.Keeps d a b)) ∧
    (∀ d a b, ReadAlike PaymentDetails.fromDictionaryValue d a b ↔
      (PaymentDetails.Accepts d → PaymentDetails.Keeps d a b)) ∧
    (∀ d a b, ReadAlike PaymentOptions.fromDictionaryValue d a b ↔ PaymentOptions.Keeps d a b) ∧
    ∀ (d : DictionaryValue) (a b : PaymentRequest Address MethodData),
      ReadAlike (fromDictionaryValue methods) d a b ↔ (Accepts methods d → Keeps d a b) := by
  refine ⟨?amount, ?item, ?shippingOption, ?details, ?options, ?request⟩
  case amount => exact fun _ _ _ => PaymentCurrencyAmount.remembers.readAlike_iff
  case item => exact fun _ _ _ => PaymentItem.remembers.readAlike_iff
  case shippingOption => exact fun _ _ _ => PaymentShippingOption.remembers.readAlike_iff
  case details => exact fun _ _ _ => PaymentDetails.remembers.readAlike_iff
  case options =>
    intro d a b
    exact PaymentOptions.remembers.readAlike_iff.trans (forall_const True)
  case request => exact fun _ _ _ => (remembers methods).readAlike_iff

/-- The error message of an update is still there after a request that has none. -/
theorem error_of_earlier_update :
    let amount : PaymentValue :=
      .dictionary [("currency", .string "USD"), ("value", .string "1.00")]
    let total : PaymentValue := .dictionary [("label", .string "Total"), ("amount", amount)]
    let update : DictionaryValue := [("total", total), ("error", .string "Cannot ship")]
    let request : DictionaryValue := [("total", total)]
    let earlier := (PaymentDetails.fromDictionaryValue {} update).2
    ¬ ReadAlike PaymentDetails.fromDictionaryValue request earlier {} ∧
      (earlier.fromDictionaryValue request).1 = true ∧
      (earlier.fromDictionaryValue request).2.error = utf8ToUTF16 "Cannot ship" := by
  decide +kernel

end PaymentRequest

end ChromiumIos
