import ChromiumIos.Lib.ComparisonSort
import ChromiumIos.Net.CookieCache
import ChromiumIos.Net.CookieCreationTimeManager

/-!
# The cookie store of iOS

`cookie_store_ios.mm`: a cookie store over `NSHTTPCookieStorage`, with the
creation times that the system store does not keep. While cookies are not
allowed they are stashed in a `CookieMonster`.

- `get_spec`: a cookie that a getter returns comes from the system store, with
  the creation time on record.
- `delete_only_that_cookie_iff`: when the deletion of a returned cookie leaves
  all the others.
-/

namespace ChromiumIos

open Lib List CookieCreationTimeManager NSHTTPCookieStorage

inductive NSHTTPCookieAcceptPolicy
  | always
  | never
  | onlyFromMainDocumentDomain
deriving DecidableEq, Repr

/-- `CookieMonster`, which replaces a cookie that agrees with a new one in
domain, path and name. -/
structure CookieMonster where
  cookies : List CanonicalCookie
  distinct : (cookies.map (·.identity)).Nodup

/-- What the store uses of Foundation, of `base::Time` and of `CookieMonster`. -/
structure CookiePlatform (Options : Type) where
  fromCFAbsoluteTime : CFAbsoluteTime → Time
  /-- Which cookies `cookiesForURL:` returns. -/
  isForURL : GURL → NSHTTPCookie → Bool
  /-- `sortedArrayUsingFunction:context:`. -/
  sortedArray : List NSHTTPCookie → ComparisonSort NSHTTPCookie
  /-- Which cookies `CookieMonster::GetCookieListWithOptionsAsync` returns. -/
  isInListWithOptions : GURL → Options → CanonicalCookie → Bool
  /-- Which cookies `CookieMonster::GetAllCookiesForURLAsync` returns. -/
  isInAllForURL : GURL → CanonicalCookie → Bool

/-- What is documented of them: an array is sorted by comparing its elements,
and the years from 2001 on are after the start of `base::Time`. -/
structure CookiePlatform.Lawful {Options : Type} (P : CookiePlatform Options) : Prop where
  sorts : ∀ cookies, (P.sortedArray cookies).Sorts cookies
  pos : ∀ absoluteTime, 2 ≤ absoluteTime → 0 < P.fromCFAbsoluteTime absoluteTime

/-- The order of `hook_map_`. -/
def hookOrder (key : CookieKey) : String ×ₗ Bool ×ₗ String :=
  toLex (key.1.possiblyInvalidSpec, toLex (key.1.isValid, key.2))

structure CookieStoreIOS where
  systemStore : NSHTTPCookieStorage
  cookieAcceptPolicy : NSHTTPCookieAcceptPolicy
  creationTimeManager : CookieCreationTimeManager
  cookieMonster : CookieMonster
  cookieCache : CookieCache
  /-- The keys of `hook_map_`, and the callbacks in the list of each. -/
  hookMap : OrderedSet hookOrder
  callbacks : CookieKey → List Nat
  /-- Whether `flush_closure_` is scheduled. -/
  flushScheduled : Bool

variable {Options : Type}

/-- The creation times of some cookies, asked for one after the other. -/
def withCreationTimes (P : CookiePlatform Options) :
    List NSHTTPCookie → CookieCreationTimeManager →
      List (NSHTTPCookie × Time) × CookieCreationTimeManager
  | [], manager => ([], manager)
  | cookie :: cookies, manager =>
    let (time, manager) := manager.getCreationTime P.fromCFAbsoluteTime cookie
    let (rest, manager) := withCreationTimes P cookies manager
    ((cookie, time) :: rest, manager)

/-- `CompareCookies`. -/
def compareCookies (P : CookiePlatform Options) (manager : CookieCreationTimeManager)
    (cookieA cookieB : NSHTTPCookie) : Ordering × CookieCreationTimeManager :=
  if nsStringLength cookieA.path < nsStringLength cookieB.path then (.gt, manager)
  else if nsStringLength cookieB.path < nsStringLength cookieA.path then (.lt, manager)
  else
    let (createdA, manager) := manager.getCreationTime P.fromCFAbsoluteTime cookieA
    let (createdB, manager) := manager.getCreationTime P.fromCFAbsoluteTime cookieB
    (if createdA < createdB then .lt else if createdA > createdB then .gt else .eq, manager)

/-- `GetCookiesForURL`, sorted by decreasing path length, then creation time. -/
def getCookiesForURL (P : CookiePlatform Options) (systemStore : NSHTTPCookieStorage) (url : GURL)
    (manager : CookieCreationTimeManager) : List NSHTTPCookie × CookieCreationTimeManager :=
  (P.sortedArray (systemStore.cookies.filter (P.isForURL url))).run (compareCookies P) manager

/-- `GetAllCookies`, sorted likewise. -/
def getAllCookies (P : CookiePlatform Options) (systemStore : NSHTTPCookieStorage)
    (manager : CookieCreationTimeManager) : List NSHTTPCookie × CookieCreationTimeManager :=
  (P.sortedArray systemStore.cookies).run (compareCookies P) manager

/-- `IsCookieCreatedBetween`. A null `timeEnd` means end-of-time. -/
def isCookieCreatedBetween (timeBegin timeEnd : Time) (_cookie : NSHTTPCookie)
    (creationTime : Time) : Bool :=
  timeBegin ≤ creationTime ∧ (timeEnd = 0 ∨ creationTime ≤ timeEnd)

namespace CookieStoreIOS

/-- `SystemCookiesAllowed`. -/
def systemCookiesAllowed (s : CookieStoreIOS) : Bool := s.cookieAcceptPolicy ≠ .never

variable (P : CookiePlatform Options) (s : CookieStoreIOS)

/-- `CanonicalCookieListFromSystemCookies`. -/
def canonicalCookieListFromSystemCookies
    (cookies : List NSHTTPCookie) : List CanonicalCookie × CookieStoreIOS :=
  let (withTimes, manager) := withCreationTimes P cookies s.creationTimeManager
  (withTimes.map fun (cookie, created) => canonicalCookieFromSystemCookie cookie created,
    { s with creationTimeManager := manager })

/-- `GetAllCookiesAsync`. -/
def getAllCookiesAsync : List CanonicalCookie × CookieStoreIOS :=
  if s.systemCookiesAllowed then
    let (cookies, manager) := getAllCookies P s.systemStore s.creationTimeManager
    { s with creationTimeManager := manager }.canonicalCookieListFromSystemCookies P cookies
  else (s.cookieMonster.cookies, s)

/-- `GetCookieListWithOptionsAsync`. -/
def getCookieListWithOptionsAsync (url : GURL)
    (options : Options) : List CanonicalCookie × CookieStoreIOS :=
  if s.systemCookiesAllowed then
    let (cookies, manager) := getCookiesForURL P s.systemStore url s.creationTimeManager
    { s with creationTimeManager := manager }.canonicalCookieListFromSystemCookies P cookies
  else (s.cookieMonster.cookies.filter (P.isInListWithOptions url options), s)

/-- Deletes a cookie of the system store, and its creation time. -/
def deleteSystemCookie (cookie : NSHTTPCookie) : CookieStoreIOS :=
  { s with
    systemStore := s.systemStore.deleteCookie cookie
    creationTimeManager := s.creationTimeManager.deleteCreationTime cookie }

/-- `DeleteCookiesWithFilter`, with the number that the callback gets. -/
def deleteCookiesWithFilter (filter : NSHTTPCookie → Time → Bool) : Nat × CookieStoreIOS :=
  let (withTimes, manager) := withCreationTimes P s.systemStore.cookies s.creationTimeManager
  let toDelete := (withTimes.filter fun (cookie, created) => filter cookie created).map (·.1)
  (toDelete.length, toDelete.foldl deleteSystemCookie { s with creationTimeManager := manager })

/-- `DeleteCanonicalCookieAsync`. -/
def deleteCanonicalCookieAsync (cookie : CanonicalCookie) : Nat × CookieStoreIOS :=
  s.deleteCookiesWithFilter P (isCookieCreatedBetween cookie.creationDate cookie.creationDate)

/-- The two getters that return cookies. -/
inductive Getter (Options : Type)
  | getAllCookies
  | getCookieListWithOptions (url : GURL) (options : Options)

def get :
    Getter Options → List CanonicalCookie × CookieStoreIOS
  | .getAllCookies => s.getAllCookiesAsync P
  | .getCookieListWithOptions url options => s.getCookieListWithOptionsAsync P url options

end CookieStoreIOS

/-! ## Creation times that are asked for -/

section CreationTimes

variable {P : CookiePlatform Options} {cookies : List NSHTTPCookie}
  {manager : CookieCreationTimeManager}

open CookieCreationTimeManager (Ready)

theorem fst_withCreationTimes_cons (cookie : NSHTTPCookie) :
    (withCreationTimes P (cookie :: cookies) manager).1 =
      (cookie, (manager.getCreationTime P.fromCFAbsoluteTime cookie).1) ::
        (withCreationTimes P cookies (manager.getCreationTime P.fromCFAbsoluteTime cookie).2).1 :=
  rfl

theorem snd_withCreationTimes_cons (cookie : NSHTTPCookie) :
    (withCreationTimes P (cookie :: cookies) manager).2 =
      (withCreationTimes P cookies (manager.getCreationTime P.fromCFAbsoluteTime cookie).2).2 :=
  rfl

theorem map_fst_withCreationTimes (P : CookiePlatform Options) (cookies : List NSHTTPCookie)
    (manager : CookieCreationTimeManager) :
    (withCreationTimes P cookies manager).1.map (·.1) = cookies := by
  induction cookies generalizing manager with
  | nil => rfl
  | cons cookie cookies ih => rw [fst_withCreationTimes_cons, map_cons, ih]

/-- The cookies are those that get a time. -/
theorem mem_withCreationTimes (P : CookiePlatform Options) (manager : CookieCreationTimeManager)
    {cookie : NSHTTPCookie} :
    (∃ p ∈ (withCreationTimes P cookies manager).1, p.1 = cookie) ↔ cookie ∈ cookies := by
  rw [← mem_map, map_fst_withCreationTimes]

/-- The times of some of the cookies there is room for are read. -/
theorem ready_withCreationTimes {all : List NSHTTPCookie} (hsub : cookies ⊆ all)
    (h : Ready P.fromCFAbsoluteTime all manager) :
    Ready P.fromCFAbsoluteTime all (withCreationTimes P cookies manager).2 := by
  induction cookies generalizing manager with
  | nil => exact h
  | cons cookie cookies ih =>
    obtain ⟨hmem, hsub⟩ := cons_subset.1 hsub
    rw [snd_withCreationTimes_cons]
    exact ih hsub (h.getCreationTime hmem)

theorem extends_withCreationTimes (P : CookiePlatform Options) (cookies : List NSHTTPCookie)
    (manager : CookieCreationTimeManager) :
    manager.Extends (withCreationTimes P cookies manager).2 := by
  induction cookies generalizing manager with
  | nil => exact .refl manager
  | cons cookie cookies ih =>
    rw [snd_withCreationTimes_cons]
    exact (extends_getCreationTime manager _ cookie).trans (ih _)

/-- The times are on record afterwards. -/
theorem recorded_withCreationTimes {p : NSHTTPCookie × Time}
    (hp : p ∈ (withCreationTimes P cookies manager).1) :
    (withCreationTimes P cookies manager).2.creationTimes.get? (getCookieUniqueID p.1) =
      some p.2 := by
  induction cookies generalizing manager with
  | nil => cases hp
  | cons cookie cookies ih =>
    rw [fst_withCreationTimes_cons] at hp
    rw [snd_withCreationTimes_cons]
    rcases mem_cons.1 hp with rfl | hmem
    · apply extends_withCreationTimes
      rw [get?_getCreationTime, if_pos rfl]
    · exact ih hmem

/-- What was not on record before is not before the null time. -/
theorem nonneg_withCreationTimes (hP : P.Lawful) {all : List NSHTTPCookie} (hsub : cookies ⊆ all)
    (h : Ready P.fromCFAbsoluteTime all manager) {p : NSHTTPCookie × Time}
    (hp : p ∈ (withCreationTimes P cookies manager).1)
    (hnone : manager.creationTimes.get? (getCookieUniqueID p.1) = none) : 0 ≤ p.2 := by
  induction cookies generalizing manager with
  | nil => cases hp
  | cons cookie cookies ih =>
    obtain ⟨hmem, hsub⟩ := cons_subset.1 hsub
    have hget := get?_getCreationTime manager P.fromCFAbsoluteTime
      cookie (getCookieUniqueID p.1)
    have hrecorded := recorded_withCreationTimes hp
    rw [fst_withCreationTimes_cons] at hp
    by_cases hid : getCookieUniqueID p.1 = getCookieUniqueID cookie
    · -- the time is that of this cookie, or of one with its text
      rw [if_pos hid] at hget
      rw [snd_withCreationTimes_cons, extends_withCreationTimes P cookies _ _ _ hget] at hrecorded
      rw [hid] at hnone
      have hunrecorded : manager.unrecorded cookie = true := Option.isNone_iff_eq_none.2 hnone
      rw [← Option.some.inj hrecorded]
      exact nonneg_getCreationTime hP.pos hunrecorded
        (h.room.hasLater hmem hunrecorded)
    · rw [if_neg hid, hnone] at hget
      rcases mem_cons.1 hp with rfl | hp
      · exact absurd rfl hid
      · exact ih hsub (h.getCreationTime hmem) hp hget

theorem ready_compareCookies {all : List NSHTTPCookie} {a b : NSHTTPCookie} (ha : a ∈ all)
    (hb : b ∈ all) (h : Ready P.fromCFAbsoluteTime all manager) :
    Ready P.fromCFAbsoluteTime all (compareCookies P manager a b).2 := by
  rw [compareCookies]
  split
  · exact h
  · split
    · exact h
    · exact (h.getCreationTime ha).getCreationTime hb

/-- A sort of some of the cookies there is room for. -/
theorem ready_run {all : List NSHTTPCookie} {sort : ComparisonSort NSHTTPCookie}
    (hsort : sort.Sorts cookies) (hsub : cookies ⊆ all)
    (h : Ready P.fromCFAbsoluteTime all manager) :
    Ready P.fromCFAbsoluteTime all (sort.run (compareCookies P) manager).2 :=
  ComparisonSort.run_invariant
    (fun _ _ ha _ hb hready => ready_compareCookies (hsub ha) (hsub hb) hready) hsort h

end CreationTimes

/-! ## Deletion of a cookie that was returned -/

namespace CookieStoreIOS

/-- What the source says of a store: creation times are unique, with room for those
not read yet, and while cookies are not allowed, the system store is empty. -/
structure WellFormed (P : CookiePlatform Options) (s : CookieStoreIOS) : Prop where
  creationTimes : Ready P.fromCFAbsoluteTime s.systemStore.cookies
    s.creationTimeManager
  stashed : s.systemCookiesAllowed = false → s.systemStore.cookies = []

/-- The creation time on record for a cookie of the system store. -/
def recordedTime (s : CookieStoreIOS) (cookie : NSHTTPCookie) : Option Time :=
  s.creationTimeManager.creationTimes.get? (getCookieUniqueID cookie)

/-- What keeps the other cookies of the store from being deleted with `cookie`:
their texts differ and, where `cookie` has the null time, their times are on
record and before it. -/
def SetApart (s : CookieStoreIOS) (cookie : CanonicalCookie) : Prop :=
  ∀ other ∈ s.systemStore.cookies, other.identity ≠ cookie.identity →
    getCookieUniqueID other ≠ uniqueIDOf cookie.name cookie.domain cookie.path ∧
      (cookie.creationDate = 0 → ∃ time, s.recordedTime other = some time ∧ time < 0)

variable {P : CookiePlatform Options} {s : CookieStoreIOS}

/-- `cookie` is a cookie of the system store, with the time on record. -/
def Lists (s : CookieStoreIOS) (cookies : List NSHTTPCookie) (cookie : CanonicalCookie) : Prop :=
  ∃ systemCookie ∈ cookies,
    cookie = canonicalCookieFromSystemCookie systemCookie cookie.creationDate ∧
      s.recordedTime systemCookie = some cookie.creationDate

theorem creationTimeManager_canonicalCookieListFromSystemCookies (cookies : List NSHTTPCookie) :
    (s.canonicalCookieListFromSystemCookies P cookies).2.creationTimeManager =
      (withCreationTimes P cookies s.creationTimeManager).2 := rfl

theorem lists_canonicalCookieListFromSystemCookies {cookies : List NSHTTPCookie}
    {cookie : CanonicalCookie}
    (hcookie : cookie ∈ (s.canonicalCookieListFromSystemCookies P cookies).1) :
    (s.canonicalCookieListFromSystemCookies P cookies).2.Lists cookies cookie := by
  obtain ⟨p, hp, rfl⟩ := mem_map.1 hcookie
  refine ⟨p.1, ?_, rfl, ?_⟩
  · exact (mem_withCreationTimes P s.creationTimeManager).1 ⟨p, hp, rfl⟩
  · rw [recordedTime, creationTimeManager_canonicalCookieListFromSystemCookies]
    exact recorded_withCreationTimes hp

/-- What a getter does after it has sorted some cookies of the system store. -/
theorem sorted_spec (h : s.WellFormed P) (sort : ComparisonSort NSHTTPCookie)
    {cookies : List NSHTTPCookie} (hsort : sort.Sorts cookies)
    (hcookies : cookies ⊆ s.systemStore.cookies) :
    let sorted := sort.run (compareCookies P) s.creationTimeManager
    let r :=
      { s with creationTimeManager := sorted.2 }.canonicalCookieListFromSystemCookies P sorted.1
    r.2.systemStore = s.systemStore ∧ r.2.WellFormed P ∧
      ∀ cookie ∈ r.1, r.2.Lists s.systemStore.cookies cookie := by
  intro sorted r
  have hsorted : sorted.1 ⊆ s.systemStore.cookies :=
    fun cookie hmem => hcookies ((ComparisonSort.run_perm hsort _).subset hmem)
  have hready := ready_withCreationTimes hsorted (ready_run hsort hcookies h.creationTimes)
  refine ⟨rfl, ⟨hready, h.stashed⟩, fun cookie hcookie => ?_⟩
  obtain ⟨systemCookie, hmem, hlists⟩ := lists_canonicalCookieListFromSystemCookies hcookie
  exact ⟨systemCookie, hsorted hmem, hlists⟩

/-- A getter leaves the system store as it is, and while cookies are allowed it
returns cookies of the system store. -/
theorem get_spec (hP : P.Lawful) (h : s.WellFormed P) (getter : Getter Options) :
    (s.get P getter).2.systemStore = s.systemStore ∧ (s.get P getter).2.WellFormed P ∧
      (s.systemCookiesAllowed = true →
        ∀ cookie ∈ (s.get P getter).1, (s.get P getter).2.Lists s.systemStore.cookies cookie) := by
  cases hallowed : s.systemCookiesAllowed with
  | false =>
    cases getter with
    | getAllCookies =>
      rw [get, getAllCookiesAsync, if_neg (by simp [hallowed])]
      exact ⟨rfl, h, fun htrue => absurd htrue Bool.false_ne_true⟩
    | getCookieListWithOptions url options =>
      rw [get, getCookieListWithOptionsAsync, if_neg (by simp [hallowed])]
      exact ⟨rfl, h, fun htrue => absurd htrue Bool.false_ne_true⟩
  | true =>
    cases getter with
    | getAllCookies =>
      rw [get, getAllCookiesAsync, if_pos hallowed]
      obtain ⟨hstore, hwf, hlists⟩ := sorted_spec (P := P) h _ (hP.sorts s.systemStore.cookies)
        (List.Subset.refl _)
      exact ⟨hstore, hwf, fun _ => hlists⟩
    | getCookieListWithOptions url options =>
      rw [get, getCookieListWithOptionsAsync, if_pos hallowed]
      obtain ⟨hstore, hwf, hlists⟩ := sorted_spec (P := P) h _
        (hP.sorts (s.systemStore.cookies.filter (P.isForURL url))) (filter_subset_self _)
      exact ⟨hstore, hwf, fun _ => hlists⟩

theorem systemStore_foldl_deleteSystemCookie (s : CookieStoreIOS) (toDelete : List NSHTTPCookie) :
    (toDelete.foldl deleteSystemCookie s).systemStore =
      toDelete.foldl deleteCookie s.systemStore := by
  induction toDelete generalizing s with
  | nil => rfl
  | cons cookie rest ih => exact ih _

/-- The filter decides on each cookie of the system store, with the creation time
that it has once all have one. -/
theorem cookies_deleteCookiesWithFilter (filter : NSHTTPCookie → Time → Bool) :
    (s.deleteCookiesWithFilter P filter).2.systemStore.cookies =
      s.systemStore.cookies.filter fun cookie =>
        ((withCreationTimes P s.systemStore.cookies s.creationTimeManager).2.creationTimes.get?
          (getCookieUniqueID cookie)).all fun created => !filter cookie created := by
  rw [deleteCookiesWithFilter]
  simp only
  rw [systemStore_foldl_deleteSystemCookie, cookies_foldl_deleteCookie]
  refine filter_congr fun cookie hcookie => ?_
  have hstore : ∀ p ∈ (withCreationTimes P s.systemStore.cookies s.creationTimeManager).1,
      p.1 ∈ s.systemStore.cookies :=
    fun p hp => (mem_withCreationTimes P s.creationTimeManager).1 ⟨p, hp, rfl⟩
  obtain ⟨p, hp, rfl⟩ := (mem_withCreationTimes P s.creationTimeManager).2 hcookie
  rw [recorded_withCreationTimes hp, Option.all_some, Bool.eq_iff_iff, decide_eq_true_iff,
    Bool.not_eq_true']
  constructor
  · intro hall
    by_contra hfilter
    refine hall p.1 (mem_map_of_mem (mem_filter.2 ⟨hp, ?_⟩)) rfl
    simpa using hfilter
  · intro hfilter other hother heq
    obtain ⟨q, hq, rfl⟩ := mem_map.1 hother
    obtain ⟨hq, hdelete⟩ := mem_filter.1 hq
    -- a cookie of the store with this identity is this cookie, with this time
    have hsame := eq_of_identity_eq (hstore p hp) (hstore q hq) heq
    have htime := recorded_withCreationTimes hq
    rw [← hsame, recorded_withCreationTimes hp] at htime
    have hdelete' : filter q.1 q.2 = true := hdelete
    rw [← hsame, ← Option.some.inj htime, hfilter] at hdelete'
    cases hdelete'

/-- Outside the range that a creation date gives, a null one without an end. -/
theorem outside_iff (date time : Time) :
    ¬ (date ≤ time ∧ (date = 0 ∨ time ≤ date)) ↔ ¬ time = date ∧ (date = 0 → time < 0) := by
  rcases lt_trichotomy time date with hlt | rfl | hgt
  · simp only [hlt.not_ge, false_and, not_false_eq_true, hlt.ne, true_and, true_iff]
    exact fun heq => heq ▸ hlt
  · simp
  · simp only [hgt.le, hgt.not_ge, or_false, true_and, hgt.ne', not_false_eq_true]
    exact ⟨fun hne heq => absurd heq hne, fun h heq => (h heq).not_ge (heq ▸ hgt.le)⟩

/-- The deletion of a cookie on record keeps the cookies with another text that,
if it has the null time, have times before it on record. -/
theorem mem_deleteCanonicalCookieAsync (hP : P.Lawful) (h : s.WellFormed P)
    {cookie : CanonicalCookie} (hlists : s.Lists s.systemStore.cookies cookie) {other : NSHTTPCookie}
    (hother : other ∈ s.systemStore.cookies) :
    other ∈ (s.deleteCanonicalCookieAsync P cookie).2.systemStore.cookies ↔
      getCookieUniqueID other ≠ uniqueIDOf cookie.name cookie.domain cookie.path ∧
        (cookie.creationDate = 0 → ∃ time, s.recordedTime other = some time ∧ time < 0) := by
  obtain ⟨systemCookie, hmem, heq, hrecorded⟩ := hlists
  have hid : getCookieUniqueID systemCookie = uniqueIDOf cookie.name cookie.domain cookie.path := by
    rw [heq]
    rfl
  obtain ⟨p, hp, rfl⟩ := (mem_withCreationTimes P s.creationTimeManager).2 hother
  have hready : Ready P.fromCFAbsoluteTime s.systemStore.cookies _ :=
    ready_withCreationTimes (List.Subset.refl _) h.creationTimes
  have hextends := extends_withCreationTimes P s.systemStore.cookies s.creationTimeManager
  have htime := recorded_withCreationTimes hp
  have hcookie := hextends _ _ hrecorded
  rw [hid] at hcookie
  have hid : getCookieUniqueID p.1 = uniqueIDOf cookie.name cookie.domain cookie.path ↔
      p.2 = cookie.creationDate := by
    constructor
    · intro heq'
      rw [heq', hcookie] at htime
      exact (Option.some.inj htime).symm
    · intro heq'
      exact hready.valid.injective _ _ _ htime (heq' ▸ hcookie)
  have hnull : (∃ time, s.recordedTime p.1 = some time ∧ time < 0) ↔ p.2 < 0 := by
    constructor
    · rintro ⟨time, hold, hlt⟩
      rw [hextends _ _ hold] at htime
      exact Option.some.inj htime ▸ hlt
    · intro hlt
      cases hold : s.recordedTime p.1 with
      | none =>
        exact absurd hlt (nonneg_withCreationTimes hP (List.Subset.refl _) h.creationTimes hp
          hold).not_gt
      | some time =>
        rw [hextends _ _ hold] at htime
        exact ⟨time, rfl, Option.some.inj htime ▸ hlt⟩
  rw [deleteCanonicalCookieAsync, cookies_deleteCookiesWithFilter, mem_filter,
    and_iff_right hother, htime, Option.all_some, ne_eq, hid, hnull, isCookieCreatedBetween]
  simp only [Bool.not_eq_true', decide_eq_false_iff_not]
  exact outside_iff cookie.creationDate p.2

/-- The same for the whole store. -/
theorem deleteCanonicalCookieAsync_iff (hP : P.Lawful) (h : s.WellFormed P)
    {cookie : CanonicalCookie} (hlists : s.Lists s.systemStore.cookies cookie) :
    (s.deleteCanonicalCookieAsync P cookie).2.systemStore.cookies =
        s.systemStore.cookies.filter (fun other =>
          ¬ (other.identity = cookie.identity ∧ other.value = cookie.value)) ↔
      s.SetApart cookie := by
  have hsame : ∀ other ∈ s.systemStore.cookies, other.identity = cookie.identity →
      other.value = cookie.value ∧
        getCookieUniqueID other = uniqueIDOf cookie.name cookie.domain cookie.path := by
    intro other hother hidentity
    obtain ⟨systemCookie, hmem, heq, -⟩ := hlists
    rw [heq] at hidentity ⊢
    rw [eq_of_identity_eq hother hmem hidentity]
    exact ⟨rfl, rfl⟩
  have hdelete : ∀ other ∈ s.systemStore.cookies,
      (other ∈ (s.deleteCanonicalCookieAsync P cookie).2.systemStore.cookies ↔ _) :=
    fun other hother => mem_deleteCanonicalCookieAsync hP h hlists hother
  constructor
  · intro heq other hother hne
    rw [← hdelete other hother, heq, mem_filter, decide_eq_true_iff]
    exact ⟨hother, fun hboth => hne hboth.1⟩
  · intro hapart
    rw [deleteCanonicalCookieAsync, cookies_deleteCookiesWithFilter] at hdelete ⊢
    refine filter_congr fun other hother => ?_
    have hkept := hdelete other hother
    rw [mem_filter, and_iff_right hother] at hkept
    rw [Bool.eq_iff_iff, hkept, decide_eq_true_iff]
    by_cases hidentity : other.identity = cookie.identity
    · obtain ⟨hvalue, htext⟩ := hsame other hother hidentity
      simp [hidentity, hvalue, htext]
    · simp only [hidentity, false_and, not_false_eq_true, iff_true]
      exact hapart other hother hidentity

/-- **Deletion of a returned cookie**: it removes that cookie and no other one of
the system store if and only if the others are set apart. -/
theorem delete_only_that_cookie_iff (hP : P.Lawful) (h : s.WellFormed P) (getter : Getter Options)
    (cookie : CanonicalCookie) (hcookie : cookie ∈ (s.get P getter).1) :
    ((s.get P getter).2.deleteCanonicalCookieAsync P cookie).2.systemStore.cookies =
        s.systemStore.cookies.filter (fun other =>
          ¬ (other.identity = cookie.identity ∧ other.value = cookie.value)) ↔
      (s.get P getter).2.SetApart cookie := by
  obtain ⟨hstore, hwf, hlists⟩ := get_spec hP h getter
  rw [← hstore] at hlists ⊢
  cases hallowed : s.systemCookiesAllowed with
  | true => exact deleteCanonicalCookieAsync_iff hP hwf (hlists hallowed cookie hcookie)
  | false =>
    -- there is nothing to delete in the system store
    have hempty := h.stashed hallowed
    rw [← hstore] at hempty
    rw [deleteCanonicalCookieAsync, cookies_deleteCookiesWithFilter, SetApart, hempty]
    simp

/-! ### Two cookies without a date -/

/-- A platform that sorts by insertion and converts seconds since 2001; a date out of
range is the first or the last time. -/
def plainPlatform : CookiePlatform Unit where
  fromCFAbsoluteTime absoluteTime :=
    let us := (absoluteTime * 1000000).floor + 12622780800000000
    ⟨max (-9223372036854775808) (min us 9223372036854775807), by omega⟩
  isForURL _ _ := true
  sortedArray := ComparisonSort.insertion
  isInListWithOptions _ _ _ := true
  isInAllForURL _ _ := true

theorem lawful_plainPlatform : plainPlatform.Lawful where
  sorts := ComparisonSort.insertion_sorts
  pos absoluteTime h := by
    have hmul : 0 ≤ absoluteTime * 1000000 :=
      Rat.mul_nonneg (Rat.le_trans (by decide) h) (by decide)
    have hfloor : 0 ≤ (absoluteTime * 1000000).floor := Rat.le_floor_iff.2 hmul
    show 0 < max (-9223372036854775808)
      (min ((absoluteTime * 1000000).floor + 12622780800000000) 9223372036854775807)
    omega

/-- A store whose system store has two such cookies. -/
def twoCookies : CookieStoreIOS where
  systemStore := ⟨[cookieWithProperties "a" "1", cookieWithProperties "b" "2"], by decide⟩
  cookieAcceptPolicy := .always
  creationTimeManager := .new
  cookieMonster := ⟨[], nodup_nil⟩
  cookieCache := .new
  hookMap := .empty
  callbacks _ := []
  flushScheduled := false

theorem wellFormed_twoCookies : twoCookies.WellFormed plainPlatform where
  creationTimes := by
    refine ⟨valid_new, fun cookie hcookie _ =>
      ⟨[0, 1], by decide, fun u hu => ⟨?_, OrderedSet.notMem_empty u⟩, by decide⟩⟩
    have hdate : getCreationTimeFromObject plainPlatform.fromCFAbsoluteTime cookie = 0 := by
      revert cookie
      decide
    rw [hdate]
    revert u
    decide
  stashed := by decide

theorem delete_only_that_cookie_iff_twoCookies :
    let r := twoCookies.get plainPlatform .getAllCookies
    let cookie := canonicalCookieFromSystemCookie (cookieWithProperties "a" "1") 0
    (r.2.deleteCanonicalCookieAsync plainPlatform cookie).2.systemStore.cookies =
        twoCookies.systemStore.cookies.filter (fun other =>
          ¬ (other.identity = cookie.identity ∧ other.value = cookie.value)) ↔
      r.2.SetApart cookie :=
  delete_only_that_cookie_iff lawful_plainPlatform wellFormed_twoCookies .getAllCookies _
    (by decide)

/-- The first of two such cookies has the null time, which stands for no end: its
deletion takes the other one too. -/
theorem delete_takes_the_other_cookie :
    let r := twoCookies.get plainPlatform .getAllCookies
    ∃ cookie ∈ r.1, cookie.identity = (cookieWithProperties "a" "1").identity ∧
      cookieWithProperties "b" "2" ∈ twoCookies.systemStore.cookies ∧
      (r.2.deleteCanonicalCookieAsync plainPlatform cookie).2.systemStore.cookies = [] := by
  refine ⟨canonicalCookieFromSystemCookie (cookieWithProperties "a" "1") 0, ?_, ?_, ?_, ?_⟩
  · decide
  · rfl
  · decide
  · decide

end CookieStoreIOS

end ChromiumIos
