import Mathlib.Data.List.Basic
import ChromiumIos.Web.Archive

/-!
# The certificate policy cache of a session

`crw_session_certificate_policy_cache_storage.mm`, with the cache itself and the
builder of its storage. A certificate is its encoding.

A certificate storage is archived under three keys, and a decoder gives `nil`
for one without a certificate or a host: `Archivable` says that an allowed
certificate comes back.
-/

namespace ChromiumIos

open Lib

structure CRWSessionCertificateStorage where
  certificate : NSData
  host : String
  status : UInt32
deriving DecidableEq, Repr

namespace CRWSessionCertificateStorage

@[simp] def kCertificateSerializationKey : String := "CertificateSerializationKey"
@[simp] def kHostSerializationKey : String := "HostSerializationKey"
@[simp] def kStatusSerializationKey : String := "StatusSerializationKey"

/-- What both initializers do with the decoded values: `nil` unless there is a
certificate, a host and a status. -/
def ofValues (p : Platform) : (certData : Option NSData) → (hostString : Option NSString) →
    (statusNumber : Option Int) → Option CRWSessionCertificateStorage
  | some certData, some hostString, some statusNumber =>
    if certData.isEmpty || hostString.isEmpty then none
    else some ⟨certData, p.sysNSStringToUTF8 hostString, .ofInt statusNumber⟩
  | _, _, _ => none

/-- `initWithCoder:`. -/
def initWithCoder (p : Platform) (decoder : NSCoder) : Option CRWSessionCertificateStorage :=
  ofValues p ((decoder.decodeObjectForKey kCertificateSerializationKey).bind (·.toNSData?))
    ((decoder.decodeObjectForKey kHostSerializationKey).bind (·.toNSString?))
    ((decoder.decodeObjectForKey kStatusSerializationKey).bind (·.toNumber?))

/-- `initWithDeprecatedSerialization:`. -/
def initWithDeprecatedSerialization (p : Platform) :
    (serialization : List Coded) → Option CRWSessionCertificateStorage
  | [certData, hostString, statusNumber] =>
    ofValues p certData.toNSData? hostString.toNSString? statusNumber.toNumber?
  | _ => none

/-- `encodeWithCoder:`. -/
def encodeWithCoder (p : Platform) (storage : CRWSessionCertificateStorage) (coder : NSCoder) :
    NSCoder :=
  let coder := coder.encodeObject (some (.data storage.certificate)) kCertificateSerializationKey
  let coder := coder.encodeObject (some (.string (p.sysUTF8ToNSString storage.host)))
    kHostSerializationKey
  coder.encodeObject (some (.number storage.status.toNat)) kStatusSerializationKey

/-- There is a certificate, and a host that an `NSString` can hold. -/
structure Archivable (p : Platform) (storage : CRWSessionCertificateStorage) : Prop where
  certificate : storage.certificate ≠ []
  host : p.sysUTF8ToNSString storage.host ≠ []
  utf8 : p.sysNSStringToUTF8 (p.sysUTF8ToNSString storage.host) = storage.host

theorem initWithCoder_encodeWithCoder {p : Platform} {storage : CRWSessionCertificateStorage}
    (h : storage.Archivable p) (coder : NSCoder) :
    initWithCoder p (storage.encodeWithCoder p coder) = some storage := by
  cases storage with
  | mk certificate host status =>
    have hstatus : UInt32.ofInt (status.toNat : Int) = status := by
      have hlt : status.toNat < 4294967296 := status.toNat_lt
      have hmod : ((status.toNat : Int) % 2 ^ 32).toNat = status.toNat := by omega
      rw [UInt32.ofInt, hmod, UInt32.ofNat_toNat]
    simp [initWithCoder, encodeWithCoder, ofValues, h.certificate, h.host, h.utf8, hstatus]

end CRWSessionCertificateStorage

/-- `CRWSessionCertificatePolicyCacheStorage`; the set in the order it is
enumerated. -/
structure CRWSessionCertificatePolicyCacheStorage where
  certificateStorages : List CRWSessionCertificateStorage
deriving DecidableEq, Repr

namespace CRWSessionCertificatePolicyCacheStorage

@[simp] def kCertificateStoragesKey : String := "kCertificateStoragesKey"
@[simp] def kCertificateStoragesDeprecatedKey : String := "allowedCertificates"

/-- `initWithCoder:`. The set holds the elements whose own decoder accepts
them. -/
def initWithCoder (p : Platform) (decoder : NSCoder) : CRWSessionCertificatePolicyCacheStorage :=
  let decodeSet (key : String) : List Coded :=
    ((decoder.decodeObjectForKey key).bind (·.toArray?)).getD []
  let certificateStorages := (decodeSet kCertificateStoragesKey).filterMap fun element =>
    element.toArchive?.bind (CRWSessionCertificateStorage.initWithCoder p)
  if certificateStorages.isEmpty then
    { certificateStorages := (decodeSet kCertificateStoragesDeprecatedKey).filterMap fun element =>
        element.toArray?.bind (CRWSessionCertificateStorage.initWithDeprecatedSerialization p) }
  else { certificateStorages }

/-- `encodeWithCoder:`. -/
def encodeWithCoder (p : Platform) (storage : CRWSessionCertificatePolicyCacheStorage)
    (coder : NSCoder) : NSCoder :=
  coder.encodeObject (some (.array (storage.certificateStorages.map fun certificateStorage =>
    .object (certificateStorage.encodeWithCoder p .empty)))) kCertificateStoragesKey

theorem initWithCoder_encodeWithCoder {p : Platform}
    {storage : CRWSessionCertificatePolicyCacheStorage}
    (h : ∀ certificate ∈ storage.certificateStorages, certificate.Archivable p) :
    initWithCoder p (storage.encodeWithCoder p .empty) = storage := by
  cases storage with
  | mk certificateStorages =>
    have hset : (certificateStorages.map fun certificate =>
        Coded.object (certificate.encodeWithCoder p .empty)).filterMap (fun element =>
          element.toArchive?.bind (CRWSessionCertificateStorage.initWithCoder p)) =
        certificateStorages := by
      rw [List.filterMap_map]
      refine (List.filterMap_congr fun certificate hmem => ?_).trans List.filterMap_some
      exact CRWSessionCertificateStorage.initWithCoder_encodeWithCoder (h certificate hmem) .empty
    -- an empty set is looked for under the deprecated key, where there is none
    simp only [initWithCoder, encodeWithCoder, NSCoder.encodeObject, NSCoder.decodeObjectForKey,
      Keyed.get?_set, if_pos, Option.getD_some, Option.bind_some, Coded.toArray?, hset]
    cases certificateStorages <;> simp

end CRWSessionCertificatePolicyCacheStorage

/-- `SessionCertificatePolicyCacheImpl`. -/
structure SessionCertificatePolicyCacheImpl where
  allowedCerts : List CRWSessionCertificateStorage
deriving DecidableEq, Repr

namespace SessionCertificatePolicyCacheStorageBuilder

/-- `BuildStorage`. -/
def buildStorage (cache : SessionCertificatePolicyCacheImpl) :
    CRWSessionCertificatePolicyCacheStorage :=
  ⟨cache.allowedCerts⟩

/-- `BuildSessionCertificatePolicyCache`; `nil` has no certificate storages. -/
def buildSessionCertificatePolicyCache
    (cacheStorage : Option CRWSessionCertificatePolicyCacheStorage) :
    SessionCertificatePolicyCacheImpl :=
  ⟨(cacheStorage.map (·.certificateStorages)).getD []⟩

end SessionCertificatePolicyCacheStorageBuilder

end ChromiumIos
