import ChromiumIos.Lib.Keyed
import ChromiumIos.Web.Types

/-!
# Keyed archives

What `NSKeyedArchiver` stores and `NSKeyedUnarchiver` gives back, and
`nscoder_util.mm`. A coder is the values encoded so far, each under its key; an
object with its own `encodeWithCoder:` is stored as an archive of its own.

`Platform` is what the storage classes take from libraries: how a text becomes a
`GURL`, and the conversions between strings. `Platform.Documented` is what they
rely on.
-/

namespace ChromiumIos

open Lib

/-- An `NSString`, as its UTF-16 units. -/
abbrev NSString := List UInt16

/-- A value in a keyed archive. An `NSSet` is stored like an `NSArray`, in the
order it enumerates its elements. -/
inductive Coded
  | bool (value : Bool)
  | int (value : Int32)
  | int64 (value : Int)
  | bytes (value : String)
  | nil
  | null
  | number (value : Int)
  | string (value : NSString)
  | data (value : NSData)
  | url (absoluteString : String)
  | strings (value : NSDictionary)
  | doubles (value : Keyed String Double)
  | dictionary (value : Keyed String Coded)
  | array (elements : List Coded)
  | object (archive : Keyed String Coded)

abbrev NSCoder := Keyed String Coded

namespace NSCoder

/-! Encoding. -/

@[simp] def encodeBool (coder : NSCoder) (value : Bool) (key : String) : NSCoder :=
  coder.set key (.bool value)

@[simp] def encodeInt (coder : NSCoder) (value : Int32) (key : String) : NSCoder :=
  coder.set key (.int value)

@[simp] def encodeInt64 (coder : NSCoder) (value : Int) (key : String) : NSCoder :=
  coder.set key (.int64 value)

/-- `encodeObject:forKey:`; `none` is `nil`. -/
@[simp] def encodeObject (coder : NSCoder) (object : Option Coded) (key : String) : NSCoder :=
  coder.set key (object.getD .nil)

/-- `nscoder_util::EncodeString`: the bytes of a `std::string`. -/
@[simp] def encodeString (coder : NSCoder) (key : String) (string : String) : NSCoder :=
  coder.set key (.bytes string)

/-! Decoding. A key without a value of the type asked for gives `NO`, zero, `nil`
or no bytes. -/

@[simp] def containsValueForKey (decoder : NSCoder) (key : String) : Bool :=
  decoder.contains key

@[simp] def decodeBoolForKey (decoder : NSCoder) (key : String) : Bool :=
  match decoder.get? key with
  | some (.bool value) => value
  | _ => false

@[simp] def decodeIntForKey (decoder : NSCoder) (key : String) : Int32 :=
  match decoder.get? key with
  | some (.int value) => value
  | _ => 0

@[simp] def decodeInt64ForKey (decoder : NSCoder) (key : String) : Int :=
  match decoder.get? key with
  | some (.int64 value) => value
  | _ => 0

/-- `decodeObjectForKey:`. -/
@[simp] def decodeObjectForKey (decoder : NSCoder) (key : String) : Option Coded :=
  match decoder.get? key with
  | some .nil => none
  | object => object

/-- `nscoder_util::DecodeString`. -/
@[simp] def decodeString (decoder : NSCoder) (key : String) : String :=
  match decoder.get? key with
  | some (.bytes string) => string
  | _ => ""

end NSCoder

namespace Coded

/-! A decoded object as an instance of the class the caller takes it for. -/

@[simp] def toNSString? : Coded → Option NSString
  | .string value => some value
  | _ => none

@[simp] def toNSData? : Coded → Option NSData
  | .data value => some value
  | _ => none

@[simp] def toNSURL? : Coded → Option String
  | .url absoluteString => some absoluteString
  | _ => none

@[simp] def toNumber? : Coded → Option Int
  | .number value => some value
  | _ => none

@[simp] def toStrings? : Coded → Option NSDictionary
  | .strings value => some value
  | _ => none

@[simp] def toDoubles? : Coded → Option (Keyed String Double)
  | .doubles value => some value
  | _ => none

@[simp] def toDictionary? : Coded → Option (Keyed String Coded)
  | .dictionary value => some value
  | _ => none

@[simp] def toArray? : Coded → Option (List Coded)
  | .array elements => some elements
  | _ => none

@[simp] def toArchive? : Coded → Option NSCoder
  | .object archive => some archive
  | _ => none

end Coded

/-- What the storage classes take from libraries. -/
structure Platform where
  /-- `GURL(const std::string&)`. -/
  parseURL : String → GURL
  /-- `net::GURLWithNSURL`, on the absolute string of an `NSURL`. -/
  gurlWithNSURL : Option String → GURL
  /-- `WebClient::IsAppSpecificURL`. -/
  isAppSpecificURL : GURL → Bool
  sysUTF16ToNSString : String16 → NSString
  sysNSStringToUTF16 : Option NSString → String16
  sysUTF8ToNSString : String → NSString
  sysNSStringToUTF8 : NSString → String

/-- What is documented of the libraries: the empty text gives the empty URL, the
spec of a valid URL is canonical, and a `string16` comes back from an
`NSString`. -/
structure Platform.Documented (p : Platform) : Prop where
  parseURL_empty : p.parseURL "" = .new
  parseURL_spec : ∀ text, (p.parseURL text).isValid = true →
    p.parseURL (p.parseURL text).spec = p.parseURL text
  utf16 : ∀ string, p.sysNSStringToUTF16 (some (p.sysUTF16ToNSString string)) = string

/-- A `GURL` is the empty one or made from a text. -/
def Platform.Makes (p : Platform) (url : GURL) : Prop :=
  url = .new ∨ ∃ text, url = p.parseURL text

/-- A `GURL` that is valid or empty: it has a spec. -/
structure Platform.HasSpec (p : Platform) (url : GURL) : Prop where
  made : p.Makes url
  spec : url.isValid = true ∨ url.isEmpty = true

/-- A URL that has a spec is read back from it. -/
theorem Platform.Documented.parseURL_of_hasSpec {p : Platform} (hp : p.Documented) {url : GURL}
    (h : p.HasSpec url) : p.parseURL url.spec = url := by
  obtain ⟨hmade, h⟩ := h
  rcases hmade with rfl | ⟨text, rfl⟩
  · exact hp.parseURL_empty
  · cases hvalid : (p.parseURL text).isValid with
    | true => exact hp.parseURL_spec text hvalid
    | false =>
      have hempty : (p.parseURL text).isEmpty = true := by simpa [hvalid] using h
      -- an empty URL that is not valid is `GURL()`
      have hnew : p.parseURL text = .new := by
        rw [GURL.isEmpty, beq_iff_eq] at hempty
        cases hurl : p.parseURL text with
        | mk possiblyInvalidSpec isValid =>
          rw [hurl] at hvalid hempty
          simp_all [GURL.new]
      rw [hnew]
      exact hp.parseURL_empty

end ChromiumIos
