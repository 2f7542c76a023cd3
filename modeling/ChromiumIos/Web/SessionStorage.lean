import ChromiumIos.Base.Ints
import ChromiumIos.Web.CertificatePolicyCacheStorage
import ChromiumIos.Web.NavigationItemStorage
import ChromiumIos.Web.SerializableUserData

/-!
# `CRWSessionStorage`

`crw_session_storage.mm`: what is stored of a session, and its coding. Older
archives have the two indices and the certificate policy cache under other keys.

`CRWSessionStorage.initWithCoder_encodeWithCoder` says what comes back of a
storage with user data: everything, with `int` indices, when its items and
certificates come back.
-/

namespace ChromiumIos

open Lib SerializableUserDataImpl

structure CRWSessionStorage where
  hasOpener : Bool
  lastCommittedItemIndex : Int
  previousItemIndex : Int
  itemStorages : List CRWNavigationItemStorage
  certPolicyCacheStorage : Option CRWSessionCertificatePolicyCacheStorage
  userData : Option SerializableUserDataImpl

/-- The `int` an archive has under a key or, if that key is missing, under the
key older archives use. -/
def NSCoder.decodeIntForKeys (decoder : NSCoder) (key deprecatedKey : String) : Int32 :=
  if decoder.containsValueForKey key then decoder.decodeIntForKey key
  else decoder.decodeIntForKey deprecatedKey

namespace CRWSessionStorage

/-! Serialization keys. -/

@[simp] def kCertificatePolicyCacheStorageKey : String := "certificatePolicyCacheStorage"
@[simp] def kCertificatePolicyCacheStorageDeprecatedKey : String := "certificatePolicyManager"
@[simp] def kItemStoragesKey : String := "entries"
@[simp] def kHasOpenerKey : String := "openedByDOM"
@[simp] def kLastCommittedItemIndexKey : String := "lastCommittedItemIndex"
@[simp] def kPreviousItemIndexKey : String := "previousItemIndex"
@[simp] def kLastCommittedItemIndexDeprecatedKey : String := "currentNavigationIndex"
@[simp] def kPreviousItemIndexDeprecatedKey : String := "previousNavigationIndex"

/-- The archives of the item storages. -/
def itemArchives (decoder : NSCoder) : List NSCoder :=
  (((decoder.decodeObjectForKey kItemStoragesKey).bind (·.toArray?)).getD []).filterMap (·.toArchive?)

/-- `initWithCoder:`. -/
def initWithCoder (p : Platform) (decoder : NSCoder) : CRWSessionStorage :=
  let lastCommittedItemIndex := decoder.decodeIntForKeys kLastCommittedItemIndexKey
    kLastCommittedItemIndexDeprecatedKey
  let previousItemIndex := decoder.decodeIntForKeys kPreviousItemIndexKey
    kPreviousItemIndexDeprecatedKey
  let itemStorages := (itemArchives decoder).map (CRWNavigationItemStorage.initWithCoder p)
  let decodeCertPolicyCacheStorage (key : String) : Option CRWSessionCertificatePolicyCacheStorage :=
    ((decoder.decodeObjectForKey key).bind (·.toArchive?)).map
      (CRWSessionCertificatePolicyCacheStorage.initWithCoder p)
  { hasOpener := decoder.decodeBoolForKey kHasOpenerKey
    -- `0` was "no index" once
    lastCommittedItemIndex := if itemStorages.isEmpty then -1 else lastCommittedItemIndex.toInt
    previousItemIndex := previousItemIndex.toInt
    itemStorages
    certPolicyCacheStorage := (decodeCertPolicyCacheStorage kCertificatePolicyCacheStorageKey).or
      (decodeCertPolicyCacheStorage kCertificatePolicyCacheStorageDeprecatedKey)
    userData := some (new.decode decoder) }

/-- `encodeWithCoder:`. The `NSInteger` indices are encoded as `int`s. -/
def encodeWithCoder (p : Platform) (storage : CRWSessionStorage) (coder : NSCoder) : NSCoder :=
  let coder := coder.encodeBool storage.hasOpener kHasOpenerKey
  let coder := coder.encodeInt (.ofInt storage.lastCommittedItemIndex) kLastCommittedItemIndexKey
  let coder := coder.encodeInt (.ofInt storage.previousItemIndex) kPreviousItemIndexKey
  let coder := coder.encodeObject (some (.array (storage.itemStorages.map fun itemStorage =>
    .object (itemStorage.encodeWithCoder p .empty)))) kItemStoragesKey
  let coder := coder.encodeObject (storage.certPolicyCacheStorage.map fun cacheStorage =>
    .object (cacheStorage.encodeWithCoder p .empty)) kCertificatePolicyCacheStorageKey
  match storage.userData with
  | some userData => userData.encode coder
  | none => coder

@[simp] theorem length_initWithCoder (p : Platform) (decoder : NSCoder) :
    (initWithCoder p decoder).itemStorages.length = (itemArchives decoder).length :=
  List.length_map _

/-- The last committed index of a decoded storage is the archive's if there are
items. -/
theorem initWithCoder_lastCommittedItemIndex (p : Platform) (decoder : NSCoder) :
    (initWithCoder p decoder).lastCommittedItemIndex =
      if itemArchives decoder = [] then -1
      else (decoder.decodeIntForKeys kLastCommittedItemIndexKey
        kLastCommittedItemIndexDeprecatedKey).toInt := by
  simp [initWithCoder]

/-- A decoded index is an `int`. -/
theorem initWithCoder_range (p : Platform) (decoder : NSCoder) :
    intMin ≤ (initWithCoder p decoder).lastCommittedItemIndex ∧
      (initWithCoder p decoder).lastCommittedItemIndex ≤ intMax := by
  rw [initWithCoder_lastCommittedItemIndex]
  split
  · decide
  · exact int32_range _

/-- What comes back from the archive of a storage whose indices are `int`s and
whose items and certificates come back. -/
theorem initWithCoder_encodeWithCoder {p : Platform} {storage : CRWSessionStorage}
    {userData : SerializableUserDataImpl} (huser : storage.userData = some userData)
    (hlast : intMin ≤ storage.lastCommittedItemIndex ∧ storage.lastCommittedItemIndex ≤ intMax)
    (hprevious : intMin ≤ storage.previousItemIndex ∧ storage.previousItemIndex ≤ intMax)
    (hitems : ∀ item ∈ storage.itemStorages,
      CRWNavigationItemStorage.initWithCoder p (item.encodeWithCoder p .empty) = item)
    (hempty : storage.itemStorages = [] → storage.lastCommittedItemIndex = -1)
    (hcerts : ∀ cacheStorage ∈ storage.certPolicyCacheStorage,
      ∀ certificate ∈ cacheStorage.certificateStorages, certificate.Archivable p) :
    initWithCoder p (storage.encodeWithCoder p .empty) =
      { storage with userData := some ⟨userData.data, getLegacyKeyConversion⟩ } := by
  obtain ⟨hasOpener, last, previous, itemStorages, certPolicyCacheStorage, _⟩ := storage
  subst huser
  -- every key is read back, and the keys of older archives are missing
  simp [initWithCoder, encodeWithCoder, itemArchives, NSCoder.decodeIntForKeys, Keyed.contains,
    encode, decode, new,
    kSerializedUserDataKey,
    getDecodedLegacyValues, getLegacyKeyConversion]
  refine ⟨?_, wrapInt_eq hprevious.1 hprevious.2, ?_, ?_⟩
  · split
    · next hnil => exact (hempty hnil).symm
    · exact wrapInt_eq hlast.1 hlast.2
  · exact (List.map_congr_left hitems).trans (List.map_id _)
  · cases certPolicyCacheStorage with
    | none => rfl
    | some cacheStorage =>
      have hcache := CRWSessionCertificatePolicyCacheStorage.initWithCoder_encodeWithCoder
        (hcerts cacheStorage rfl)
      exact congrArg some hcache

end CRWSessionStorage

end ChromiumIos
