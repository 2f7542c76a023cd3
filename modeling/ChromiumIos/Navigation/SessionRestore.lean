import ChromiumIos.Navigation.SessionInvariant
import ChromiumIos.Navigation.SessionStorageBuilder

/-!
# Storing a session and restoring it

- `restored_indices_in_range`: what an archive has to hold for the indices of the
  restored session to be in range. The last committed index is cut off from above
  only, the previous index is not checked at all; an archive with a previous index
  past its items restores a session that reads past its vector
  (`truncatedArchive_out_of_range`).
- `session_storage_round_trip`: a session comes back from its archive, if its
  URLs are valid or empty and its allowed certificates can be archived. An invalid
  URL has no spec and comes back empty (`invalidURL_not_restored`).
- `restarting_valid`: the session index invariant over runs with restarts.
-/

namespace ChromiumIos

open Lib List CRWSessionStorage

/-! ## Restoring any archive -/

namespace CRWSessionController

/-- The last committed and the previous index are `-1` or positions. -/
structure IndicesInRange (s : CRWSessionController) : Prop where
  last : Cursor s.items.length s.lastCommittedItemIndex
  previous : Cursor s.items.length s.previousItemIndex

instance (s : CRWSessionController) : Decidable s.IndicesInRange :=
  decidable_of_iff (Cursor s.items.length s.lastCommittedItemIndex ∧
      Cursor s.items.length s.previousItemIndex)
    ⟨fun ⟨hlast, hprevious⟩ => ⟨hlast, hprevious⟩, fun ⟨hlast, hprevious⟩ => ⟨hlast, hprevious⟩⟩

/-- The positions of the vector that `lastCommittedItem`, `previousItem` and
`backwardItems` read; `OnNavigationItemCommitted` uses the first two. -/
def accessorReads (s : CRWSessionController) : List Int :=
  (if s.lastCommittedItemIndex = -1 then [] else [s.lastCommittedItemIndex]) ++
    (if s.previousItemIndex = -1 ∨ s.items = [] then [] else [s.previousItemIndex]) ++
    -- the loop reads from the last committed item down to the first
    (if s.lastCommittedItemIndex > -1 then
      (List.range (s.lastCommittedItemIndex.toNat + 1)).map fun index : Nat => (index : Int)
    else [])

/-- With its indices in range, no accessor reads past the vector. -/
theorem IndicesInRange.reads {s : CRWSessionController} (h : s.IndicesInRange) :
    ∀ index ∈ s.accessorReads, InRange s.items.length index := by
  intro index hmem
  obtain ⟨hlast, hprevious⟩ := h
  rw [accessorReads, mem_append, mem_append] at hmem
  rcases hmem with (hread | hread) | hread
  · split at hread
    · cases hread
    · next hne =>
      rw [mem_singleton.1 hread]
      exact (cursor_iff.1 hlast).resolve_left hne
  · split at hread
    · cases hread
    · next hne =>
      rw [mem_singleton.1 hread]
      exact (cursor_iff.1 hprevious).resolve_left fun heq => hne (.inl heq)
  · split at hread
    · obtain ⟨position, hposition, rfl⟩ := mem_map.1 hread
      rw [mem_range] at hposition
      obtain ⟨-, hlt⟩ := hlast
      exact ⟨by omega, by omega⟩
    · cases hread

end CRWSessionController

namespace SessionStorageBuilder

/-- What an archive has to hold for its session to be restored with its indices
in range: a previous index that is `-1` or a position and, if there are items, a
last committed index that is not below `-1`. -/
structure RestoresInRange (decoder : NSCoder) : Prop where
  previous : Cursor (itemArchives decoder).length
    (decoder.decodeIntForKeys kPreviousItemIndexKey
      kPreviousItemIndexDeprecatedKey).toInt
  last : itemArchives decoder = [] ∨
    -1 ≤ (decoder.decodeIntForKeys kLastCommittedItemIndexKey
      kLastCommittedItemIndexDeprecatedKey).toInt

/-- The restored session has its indices in range, so that no accessor reads past
its items, exactly when the archive restores in range. -/
theorem restored_indices_in_range (p : Platform) (decoder : NSCoder) (webState : WebStateImpl)
    (uniqueIdCounter : Int) :
    let s := (extractSessionState webState (initWithCoder p decoder)
      uniqueIdCounter).1.sessionController
    (s.IndicesInRange ↔ RestoresInRange decoder) ∧
      (s.IndicesInRange → ∀ index ∈ s.accessorReads, InRange s.items.length index) := by
  intro s
  refine ⟨?_, CRWSessionController.IndicesInRange.reads⟩
  obtain ⟨hlow, hhigh⟩ := initWithCoder_range p decoder
  obtain ⟨hlast, hprevious⟩ := extractSessionState_indices webState
    (initWithCoder p decoder) uniqueIdCounter (wrapNSInteger_eq hlow hhigh)
  have hlength : s.items.length = (itemArchives decoder).length := by
    simp [s]
  rw [length_initWithCoder,
    initWithCoder_lastCommittedItemIndex] at hlast
  constructor
  · rintro ⟨⟨hge, -⟩, hcursor⟩
    refine ⟨?_, ?_⟩
    · rw [hlength, hprevious] at hcursor
      exact hcursor
    · rw [hlast] at hge
      by_cases hnil : itemArchives decoder = []
      · exact .inl hnil
      · rw [if_neg hnil] at hge
        exact .inr (by omega)
  · rintro ⟨hcursor, hends⟩
    refine ⟨?_, ?_⟩
    · rw [hlength, hlast]
      by_cases hnil : itemArchives decoder = []
      · rw [if_pos hnil, hnil]
        decide
      · have hge := hends.resolve_left hnil
        have hpos := length_pos_iff.2 hnil
        rw [if_neg hnil]
        exact ⟨by omega, by omega⟩
    · rw [hlength, hprevious]
      exact hcursor

/-- Libraries that leave texts as they are. Every text is a URL, apart from the
empty one and one with a port that is no number. -/
def plainPlatform : Platform where
  parseURL text := ⟨text, text != "" && text != "http://a.com:port/"⟩
  gurlWithNSURL absoluteString := ⟨absoluteString.getD "", absoluteString.isSome⟩
  isAppSpecificURL _ := false
  sysUTF16ToNSString string := string
  sysNSStringToUTF16 string := string.getD []
  sysUTF8ToNSString string := string.toList.map fun char => .ofNat char.toNat
  sysNSStringToUTF8 string := .ofList (string.map fun unit => .ofNat unit.toNat)

/-- An archive of a session of five items that holds one of them only. -/
def truncatedArchive : NSCoder :=
  let coder : NSCoder := .empty
  let coder := coder.encodeInt 4 kLastCommittedItemIndexKey
  let coder := coder.encodeInt 3 kPreviousItemIndexKey
  coder.encodeObject (some (.array [.object .empty])) kItemStoragesKey

/-- The last committed index is cut off at the one item, the previous index is
not, and `previousItem` reads at `3`. -/
theorem truncatedArchive_out_of_range :
    let s := (extractSessionState emptyWebState
      (initWithCoder plainPlatform truncatedArchive) 0).1.sessionController
    s.items.length = 1 ∧ s.lastCommittedItemIndex = 0 ∧ s.previousItemIndex = 3 ∧
      3 ∈ s.accessorReads ∧ ¬ s.IndicesInRange := by
  decide

/-! ## The round trip -/

/-- An item's virtual and referrer URLs have a spec. -/
structure ItemHasSpecs (p : Platform) (item : NavigationItemImpl) : Prop where
  virtualURL : p.HasSpec item.getVirtualURL
  referrer : p.HasSpec item.referrer.url

/-- What is stored of an item is the same. -/
structure SameContents (item restored : NavigationItemImpl) : Prop where
  virtualURL : restored.getVirtualURL = item.getVirtualURL
  referrer : restored.referrer = item.referrer
  timestamp : restored.timestamp = item.timestamp
  title : restored.title = item.title
  displayState : restored.pageDisplayState = item.pageDisplayState
  postData : restored.postData = item.postData
  httpRequestHeaders : restored.httpRequestHeaders = item.httpRequestHeaders
  userAgentType : restored.userAgentType = item.userAgentType

theorem SameContents.of_buildStorage {item restored : NavigationItemImpl}
    (h : NavigationItemStorageBuilder.buildStorage item =
      NavigationItemStorageBuilder.buildStorage restored) : SameContents item restored := by
  have hfields := CRWNavigationItemStorage.mk.inj h
  obtain ⟨hvirtual, hreferrer, htime, htitle, hdisplay, -, hagent, hpost, hheaders⟩ := hfields
  exact ⟨hvirtual.symm, hreferrer.symm, htime.symm, htitle.symm, hdisplay.symm, hpost.symm,
    hheaders.symm, hagent.symm⟩

/-- The storage of an extracted session is the storage it was extracted from, if
the last committed index is one of its items or `-1`. -/
theorem buildStorage_extractSessionState {storage : CRWSessionStorage}
    {cacheStorage : CRWSessionCertificatePolicyCacheStorage} {userData : SerializableUserDataImpl}
    (hcert : storage.certPolicyCacheStorage = some cacheStorage)
    (huser : storage.userData = some userData)
    (hwrap : wrapNSInteger storage.lastCommittedItemIndex = storage.lastCommittedItemIndex)
    (hlast : storage.lastCommittedItemIndex < storage.itemStorages.length) (webState : WebStateImpl)
    (uniqueIdCounter : Int) :
    buildStorage (extractSessionState webState storage uniqueIdCounter).1 =
      { storage with userData := some (.ofData userData.data) } := by
  obtain ⟨hfirst, hprevious⟩ :=
    extractSessionState_indices webState storage uniqueIdCounter hwrap
  have hmin : min storage.lastCommittedItemIndex ((storage.itemStorages.length : Int) - 1) =
      storage.lastCommittedItemIndex := by omega
  rw [hmin] at hfirst
  obtain ⟨hasOpener, last, previous, itemStorages, _, _⟩ := storage
  subst hcert huser
  have hitems := NavigationItemStorageBuilder.buildStorage_buildItems itemStorages uniqueIdCounter
  rw [buildStorage, hfirst, hprevious, extractSessionState_items, hitems]
  rfl

section RoundTrip

variable {p : Platform} {webState : WebStateImpl}

/-- The indices of a stored session are `int`s. -/
theorem index_range (hcount : webState.sessionController.items.length ≤ intMax) {index : Int}
    (h : Cursor webState.sessionController.items.length index) : intMin ≤ index ∧ index ≤ intMax := by
  have hmin : intMin ≤ -1 := by decide
  obtain ⟨hlow, hlt⟩ := h
  omega

/-- The archive of a session gives its storage back. -/
theorem initWithCoder_buildStorage (hp : p.Documented) (hvalid : webState.sessionController.Valid)
    (hcount : webState.sessionController.items.length ≤ intMax)
    (hitems : ∀ item ∈ webState.sessionController.items, ItemHasSpecs p item)
    (hcerts : ∀ certificate ∈ webState.certificatePolicyCache.allowedCerts,
      certificate.Archivable p) :
    initWithCoder p ((buildStorage webState).encodeWithCoder p .empty) =
      { buildStorage webState with
        userData := some ⟨webState.userData.data, getLegacyKeyConversion⟩ } := by
  have huser : (buildStorage webState).userData =
      some webState.userData.createSerializableUserData := rfl
  refine initWithCoder_encodeWithCoder huser (index_range hcount hvalid.last)
    (index_range hcount hvalid.previous) ?_ ?_ ?_
  · intro itemStorage hmem
    obtain ⟨item, hitem, rfl⟩ := mem_map.1 hmem
    obtain ⟨hvirtual, hreferrer⟩ := hitems item hitem
    exact CRWNavigationItemStorage.initWithCoder_encodeWithCoder hp
      (hp.parseURL_of_hasSpec hvirtual) (hp.parseURL_of_hasSpec hreferrer) .empty
  · intro hnil
    exact hvalid.last_eq.2 (map_eq_nil_iff.1 hnil)
  · rintro cacheStorage ⟨⟩
    exact hcerts

/-- **Round trip**: restoring the archive of a session gives a session with the
same items, as far as they are stored, and the same indices, and its storage is
the one that was archived. -/
theorem session_storage_round_trip (hp : p.Documented) (hvalid : webState.sessionController.Valid)
    (hcount : webState.sessionController.items.length ≤ intMax)
    (hitems : ∀ item ∈ webState.sessionController.items, ItemHasSpecs p item)
    (hcerts : ∀ certificate ∈ webState.certificatePolicyCache.allowedCerts,
      certificate.Archivable p) (created : WebStateImpl) (uniqueIdCounter : Int) :
    let storage := buildStorage webState
    let archive := storage.encodeWithCoder p .empty
    let restored := (extractSessionState created (initWithCoder p archive)
      uniqueIdCounter).1
    List.Forall₂ SameContents webState.sessionController.items restored.sessionController.items ∧
      restored.sessionController.lastCommittedItemIndex =
        webState.sessionController.lastCommittedItemIndex ∧
      restored.sessionController.previousItemIndex =
        webState.sessionController.previousItemIndex ∧
      buildStorage restored = storage := by
  intro storage archive restored
  have hdecoded := initWithCoder_buildStorage hp hvalid hcount hitems hcerts
  have hrestored : buildStorage restored = storage := by
    obtain ⟨hlow, hhigh⟩ := index_range hcount hvalid.last
    have hlast : webState.sessionController.lastCommittedItemIndex <
        (buildStorage webState).itemStorages.length := by
      rw [buildStorage, length_map]
      exact hvalid.last.2
    show buildStorage (extractSessionState created (initWithCoder p archive)
      uniqueIdCounter).1 = storage
    rw [hdecoded]
    exact buildStorage_extractSessionState rfl rfl (wrapNSInteger_eq hlow hhigh) hlast created
      uniqueIdCounter
  refine ⟨?_, congrArg lastCommittedItemIndex hrestored,
    congrArg previousItemIndex hrestored, hrestored⟩
  -- equal storages are equal contents, item by item
  have hitemStorages := congrArg itemStorages hrestored.symm
  rw [← forall₂_eq_eq_eq] at hitemStorages
  have hitemwise := forall₂_map_right_iff.1 (forall₂_map_left_iff.1 hitemStorages)
  exact hitemwise.imp fun _ _ => SameContents.of_buildStorage

end RoundTrip

theorem plainPlatform_documented : plainPlatform.Documented where
  parseURL_empty := rfl
  parseURL_spec := by
    intro text hvalid
    have hspec : (plainPlatform.parseURL text).spec = text := by
      rw [GURL.spec, hvalid]
      rfl
    rw [hspec]
  utf16 := fun _ => rfl

theorem plainPlatform_hasSpec {text : String} (h : (plainPlatform.parseURL text).isValid = true) :
    plainPlatform.HasSpec (plainPlatform.parseURL text) :=
  ⟨.inr ⟨text, rfl⟩, .inl h⟩

/-- A session with the given items, the last of them committed, and one allowed
certificate for `host`. -/
def webStateWith (items : List NavigationItemImpl) (host : String) : WebStateImpl where
  createdWithOpener := true
  sessionController := { CRWSessionController.initWithBrowserState with
    items
    lastCommittedItemIndex := (items.length : Int) - 1 }
  certificatePolicyCache := ⟨[⟨[48, 130], host, 1⟩]⟩
  userData := .addSerializableData .new (.string [65]) "TabID"

/-- An item with a title, `POST` data and a header. -/
def formItem (uniqueId : Int) (text : String) : NavigationItemImpl :=
  { NavigationItemImpl.new uniqueId with
    url := plainPlatform.parseURL text
    referrer := ⟨plainPlatform.parseURL "http://a.com/", .never⟩
    title := [84]
    userAgentType := .desktop
    postData := some [1]
    httpRequestHeaders := some [([72], [86])] }

theorem formItem_hasSpecs (uniqueId : Int) {text : String}
    (h : (plainPlatform.parseURL text).isValid = true) :
    ItemHasSpecs plainPlatform (formItem uniqueId text) :=
  ⟨plainPlatform_hasSpec h, plainPlatform_hasSpec (by decide)⟩

/-- A session of two items comes back. -/
theorem session_storage_round_trip_two_items :
    let webState := webStateWith [formItem 1 "http://a.com/1", formItem 2 "http://a.com/2"] "a.com"
    let archive := (buildStorage webState).encodeWithCoder plainPlatform .empty
    let restored := (extractSessionState emptyWebState
      (initWithCoder plainPlatform archive) 7).1
    List.Forall₂ SameContents webState.sessionController.items restored.sessionController.items ∧
      restored.sessionController.lastCommittedItemIndex = 1 ∧
      restored.sessionController.previousItemIndex = -1 ∧
      buildStorage restored = buildStorage webState := by
  intro webState
  have hitems : ∀ item ∈ webState.sessionController.items, ItemHasSpecs plainPlatform item := by
    intro item hmem
    rcases mem_cons.1 hmem with rfl | hmem
    · exact formItem_hasSpecs 1 (by decide)
    · rcases mem_cons.1 hmem with rfl | hmem
      · exact formItem_hasSpecs 2 (by decide)
      · cases hmem
  have hcerts : ∀ certificate ∈ webState.certificatePolicyCache.allowedCerts,
      certificate.Archivable plainPlatform := by
    intro certificate hmem
    obtain rfl := mem_singleton.1 hmem
    exact ⟨by decide, by decide, by decide⟩
  exact session_storage_round_trip plainPlatform_documented (by decide) (by decide) hitems hcerts
    emptyWebState 7

/-- An invalid URL comes back empty, and an allowed certificate without a host
does not come back. -/
theorem invalidURL_not_restored :
    let archived (webState : WebStateImpl) := (extractSessionState emptyWebState
      (initWithCoder plainPlatform
        ((buildStorage webState).encodeWithCoder plainPlatform .empty)) 7).1
    let invalid := webStateWith [formItem 1 "http://a.com:port/"] "a.com"
    let hostless := webStateWith [formItem 1 "http://a.com/1"] ""
    (invalid.sessionController.Valid ∧
        (archived invalid).sessionController.items.map (·.getVirtualURL) ≠
          invalid.sessionController.items.map (·.getVirtualURL)) ∧
      hostless.sessionController.Valid ∧
        (buildStorage (archived hostless)).certPolicyCacheStorage ≠
          (buildStorage hostless).certPolicyCacheStorage := by
  decide

/-! ## Runs with restarts -/

/-- A call, or the session is archived with a stored `WebState` and restored into a created one. -/
inductive RestartOp
  | op (op : Op)
  | restart (stored created : WebStateImpl) (uniqueIdCounter : Int)

/-- `BuildStorage`, the archive and `ExtractSessionState`. -/
def restart (p : Platform) (s : CRWSessionController) (stored created : WebStateImpl)
    (uniqueIdCounter : Int) : Process :=
  let archive := (buildStorage { stored with sessionController := s }).encodeWithCoder p .empty
  let restored :=
    extractSessionState created (initWithCoder p archive) uniqueIdCounter
  ⟨restored.1.sessionController, restored.2⟩

def restarting (env : Environment) (p : Platform) : Machine Process RestartOp where
  Pre s
    | .op op => s.InBounds op
    | .restart .. => s.session.items.length ≤ intMax
  step s
    | .op op => s.apply env op
    | .restart stored created uniqueIdCounter =>
      restart p s.session stored created uniqueIdCounter

/-- Whatever becomes of the items, there are as many as before, and the indices are the same. -/
theorem restart_valid (p : Platform) {s : CRWSessionController} (h : s.Valid)
    (hcount : s.items.length ≤ intMax) (stored created : WebStateImpl) (uniqueIdCounter : Int) :
    (restart p s stored created uniqueIdCounter).session.Valid := by
  let storage := buildStorage { stored with sessionController := s }
  let decoded := initWithCoder p (storage.encodeWithCoder p .empty)
  have hwrap : ∀ index, Cursor s.items.length index →
      index.bmod 4294967296 = index ∧ wrapNSInteger index = index := by
    rintro index ⟨hlow, hhigh⟩
    have hmin : intMin ≤ -1 := by decide
    exact ⟨wrapInt_eq (by omega) (by omega), wrapNSInteger_eq (by omega) (by omega)⟩
  obtain ⟨hlength, hlast, hprevious⟩ : decoded.itemStorages.length = s.items.length ∧
      decoded.lastCommittedItemIndex = s.lastCommittedItemIndex ∧
      decoded.previousItemIndex = s.previousItemIndex := by
    simp [decoded, storage, buildStorage, initWithCoder,
      encodeWithCoder, itemArchives, NSCoder.decodeIntForKeys,
      Keyed.contains, SerializableUserDataImpl.encode,
      SerializableUserDataImpl.kSerializedUserDataKey]
    refine ⟨?_, (hwrap _ h.previous).1⟩
    split
    · next hnil => exact (h.last_eq.2 hnil).symm
    · exact (hwrap _ h.last).1
  obtain ⟨hlast', hprevious'⟩ := extractSessionState_indices created decoded uniqueIdCounter
    (by rw [hlast]; exact (hwrap _ h.last).2)
  rw [hlast, hlength, Int.min_eq_left (Int.le_sub_one_of_lt h.last.2)] at hlast'
  rw [hprevious] at hprevious'
  have hitems := (NavigationItemStorageBuilder.length_buildItems decoded.itemStorages
    uniqueIdCounter).trans hlength
  show (extractSessionState created decoded uniqueIdCounter).1.sessionController.Valid
  constructor
  · rw [extractSessionState_items, hitems, hlast']
    exact h.last
  · rw [extractSessionState_items, hlast', ← length_eq_zero_iff, hitems, length_eq_zero_iff]
    exact h.last_eq
  · rw [extractSessionState_items, hitems, hprevious']
    exact h.previous
  · exact ⟨Int.le_refl _, Int.lt_of_lt_of_le (show (-1 : Int) < 0 by decide) (Int.natCast_nonneg _)⟩

/-- The session index invariant survives restarts: it holds after every run of calls in bounds, the
session being archived and restored any number of times in between. -/
theorem restarting_valid (env : Environment) (p : Platform) {ops : List RestartOp}
    (hops : (restarting env p).Legal .new ops) :
    let s := ((restarting env p).run .new ops).session
    s.Valid ∧ ∀ index ∈ s.accessorReads, InRange s.items.length index := by
  intro s
  have hvalid : s.Valid := by
    refine Machine.run_invariant (M := restarting env p) (I := fun t => t.session.Valid)
      (fun t op h hop => ?_) Process.valid_new hops
    cases op with
    | op op => exact Process.apply_valid env h hop
    | restart stored created uniqueIdCounter =>
      exact restart_valid p h hop stored created uniqueIdCounter
  exact ⟨hvalid, CRWSessionController.IndicesInRange.reads ⟨hvalid.last, hvalid.previous⟩⟩

/-- Two pages, a restart, and the way back to the first. -/
theorem restarting_valid_two_pages :
    let ops := (Process.loadPage "1" ++ Process.loadPage "2").map .op ++
      [.restart emptyWebState emptyWebState 0, .op (.call (.goToItemAtIndex 0 true))]
    let s := ((restarting Process.plainEnvironment plainPlatform).run .new ops).session
    (s.Valid ∧ ∀ index ∈ s.accessorReads, InRange s.items.length index) ∧
      s.items.length = 2 ∧ s.previousItemIndex = 1 := by
  intro ops s
  have hcount : (2 : Int) ≤ intMax := by decide
  exact ⟨restarting_valid _ _ ⟨trivial, trivial, trivial, trivial, hcount, trivial, trivial⟩,
    by decide, by decide⟩

end SessionStorageBuilder

end ChromiumIos
