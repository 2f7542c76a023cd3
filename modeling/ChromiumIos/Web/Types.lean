import Mathlib.Algebra.GroupWithZero.Nat
import Mathlib.Data.Int.Order.Basic

/-!
# Values of the web layer

The records of `web/public` that navigation items are made of, and the two
types of `url/` and `base/` they use: a `GURL` and a time.

- A `Time` is what an `int64_t` holds.
- `GURL` is the record its accessors read; how a string is parsed into one is a
  parameter of the modules that parse.
- Strings of 16-bit units (`base::string16`, `NSString`) are lists of `UInt16`,
  bytes (`NSData`) lists of `UInt8`.
- A `double` is its 64-bit pattern: these values are stored and compared, never
  computed with.
-/

namespace ChromiumIos

abbrev String16 := List UInt16

abbrev NSData := List UInt8

/-- A dictionary of strings, as a list of its entries. -/
abbrev NSDictionary := List (String16 × String16)

/-- `[NSString length]`. -/
def nsStringLength (text : String) : Nat :=
  (text.toList.map fun c => if c.val < 0x10000 then 1 else 2).sum

/-- `base::Time`, in microseconds. -/
abbrev Time := { us : Int // -9223372036854775808 ≤ us ∧ us < 9223372036854775808 }

namespace Time

/-- `FromInternalValue`, of an integer that wraps around. -/
def fromInternalValue (us : Int) : Time :=
  ⟨(us + 9223372036854775808) % 18446744073709551616 - 9223372036854775808, by omega⟩

theorem fromInternalValue_of_lt {us : Int} (hlow : -9223372036854775808 ≤ us)
    (hhigh : us < 9223372036854775808) : (fromInternalValue us).1 = us := by
  show (us + 9223372036854775808) % 18446744073709551616 - 9223372036854775808 = us
  omega

@[simp] theorem fromInternalValue_val (t : Time) : fromInternalValue t.1 = t :=
  Subtype.ext (fromInternalValue_of_lt t.2.1 t.2.2)

instance (us : Nat) : OfNat Time us := ⟨fromInternalValue us⟩

instance (s t : Time) : Decidable (s ≤ t) := Int.decLe s.1 t.1

instance (s t : Time) : Decidable (s < t) := Int.decLt s.1 t.1

/-- `base::Time()`. -/
def null : Time := 0

/-- `base::Time::Max()`. -/
def max : Time := 9223372036854775807

/-- `+= TimeDelta::FromMicroseconds(1)`. The sum saturates. -/
def addMicrosecond (t : Time) : Time :=
  if h : t.1 + 1 < 9223372036854775808 then ⟨t.1 + 1, by omega⟩ else t

end Time

/-- `GURL`: a canonical URL, or the text that is not one. -/
structure GURL where
  possiblyInvalidSpec : String
  isValid : Bool
deriving DecidableEq, Repr

namespace GURL

/-- `GURL()`. -/
def new : GURL := ⟨"", false⟩

def isEmpty (url : GURL) : Bool := url.possiblyInvalidSpec == ""

/-- `spec()`: an invalid URL gives its text away to `possibly_invalid_spec()`
only. -/
def spec (url : GURL) : String :=
  if url.isValid || url.isEmpty then url.possiblyInvalidSpec else ""

/-- `operator==`. -/
def eq (x y : GURL) : Bool := x.possiblyInvalidSpec == y.possiblyInvalidSpec

end GURL

/-- `web::ReferrerPolicy`, an unscoped enumeration that is read from archives
with a cast from `int`. -/
structure ReferrerPolicy where ofInt ::
  toInt : Int32
deriving DecidableEq, Repr

namespace ReferrerPolicy

def always : ReferrerPolicy := ⟨0⟩
def default : ReferrerPolicy := ⟨1⟩
def noReferrerWhenDowngrade : ReferrerPolicy := ⟨2⟩
def never : ReferrerPolicy := ⟨3⟩
def origin : ReferrerPolicy := ⟨4⟩
def originWhenCrossOrigin : ReferrerPolicy := ⟨5⟩
def sameOrigin : ReferrerPolicy := ⟨6⟩
def strictOrigin : ReferrerPolicy := ⟨7⟩
def strictOriginWhenCrossOrigin : ReferrerPolicy := ⟨8⟩

end ReferrerPolicy

/-- `web::Referrer`. -/
structure Referrer where
  url : GURL
  policy : ReferrerPolicy
deriving DecidableEq, Repr

/-- `Referrer()`. -/
def Referrer.new : Referrer := ⟨.new, .default⟩

/-- `web::UserAgentType`. -/
inductive UserAgentType
  | none
  | mobile
  | desktop
deriving DecidableEq, Repr

/-- `web::NavigationInitiationType`. -/
inductive NavigationInitiationType
  | none
  | userInitiated
  | rendererInitiated
deriving DecidableEq, Repr

/-- `NavigationManager::UserAgentOverrideOption`. -/
inductive UserAgentOverrideOption
  | inherit
  | mobile
  | desktop
deriving DecidableEq, Repr

/-- `web::FaviconStatus`, without the bitmap. -/
structure FaviconStatus where
  valid : Bool
  url : GURL
deriving DecidableEq, Repr

/-- `web::SecurityStyle`. -/
inductive SecurityStyle
  | unknown
  | unauthenticated
  | authenticationBroken
  | warning
  | authenticated
deriving DecidableEq, Repr

/-- `web::SSLStatus`; a certificate is its encoding. -/
structure SSLStatus where
  securityStyle : SecurityStyle
  certificate : Option NSData
  certStatus : UInt32
  connectionStatus : Int
  contentStatus : Int
  certStatusHost : String
deriving DecidableEq, Repr

/-- `SSLStatus()`. -/
def SSLStatus.new : SSLStatus := ⟨.unknown, none, 0, 0, 0, ""⟩

/-- A `double`, by its bits. -/
structure Double where
  bits : UInt64
deriving DecidableEq, Repr

/-- `NAN`. -/
def Double.nan : Double := ⟨0x7FF8000000000000⟩

/-- `web::PageScrollState`. -/
structure PageScrollState where
  offsetX : Double
  offsetY : Double
deriving DecidableEq, Repr

/-- `web::PageZoomState`. -/
structure PageZoomState where
  minimumZoomScale : Double
  maximumZoomScale : Double
  zoomScale : Double
deriving DecidableEq, Repr

/-- `web::PageDisplayState`. -/
structure PageDisplayState where
  scrollState : PageScrollState
  zoomState : PageZoomState
deriving DecidableEq, Repr

/-- `PageDisplayState()`: every value is `NAN`. -/
def PageDisplayState.new : PageDisplayState :=
  ⟨⟨.nan, .nan⟩, ⟨.nan, .nan, .nan⟩⟩

end ChromiumIos
