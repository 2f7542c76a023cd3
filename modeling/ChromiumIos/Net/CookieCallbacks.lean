import Mathlib.Data.Finset.Erase
import Mathlib.Data.Finset.Lattice.Lemmas
import ChromiumIos.Net.CookieStoreIOS

/-!
# Callbacks for cookie changes

The notifications of `cookie_store_ios.mm` and `cookie_store_ios_persistent.mm`:
callbacks are registered for a URL and a name, and called for the difference
between what the cache has and what is read from a store. A synchronized store
reads from the system store, a persistent one from its `CookieMonster`.

- `step_spec`: what one operation does for one callback.
- `callbacks_report_exactly_iff`: a callback reports exactly the later changes if
  and only if the cache was primed when it was registered.
-/

namespace ChromiumIos

open Lib List CookieStoreIOS CookieCache

/-- `CookieStore::ChangeCause`, as far as it is used here. -/
inductive ChangeCause
  | inserted
  | unknownDeletion
deriving DecidableEq, Repr

/-- What a `CookieChangedCallback` is called with. -/
structure CookieChange where
  cookie : CanonicalCookie
  cause : ChangeCause
deriving DecidableEq, Repr

variable {Options : Type}

/-! ## What the store reads -/

variable (P : CookiePlatform Options)

/-- The cookies named `key.2` that would be sent with a request for `key.1`. -/
def systemCookiesFor (systemStore : NSHTTPCookieStorage) (key : CookieKey) : List NSHTTPCookie :=
  systemStore.cookies.filter fun cookie => P.isForURL key.1 cookie ∧ cookie.name = key.2

def NSHTTPCookie.cookieAndValue (cookie : NSHTTPCookie) : CookieAndValue :=
  (cookie.identity, cookie.value)

/-- The same, as the cache compares them. -/
def systemMatching (systemStore : NSHTTPCookieStorage) (key : CookieKey) : Finset CookieAndValue :=
  ((systemCookiesFor P systemStore key).map (·.cookieAndValue)).toFinset

/-- `OnlyCookiesWithName`. -/
def onlyCookiesWithName (cookies : List CanonicalCookie) (name : String) : List CanonicalCookie :=
  cookies.filter fun cookie => cookie.name = name

/-- What `GetAllCookiesForURLAsync` returns. -/
def CookieMonster.getAllCookiesForURL (monster : CookieMonster)
    (url : GURL) : List CanonicalCookie :=
  monster.cookies.filter (P.isInAllForURL url)

/-- The cookies of the `CookieMonster` for a key, as the cache compares them. -/
def monsterMatching (monster : CookieMonster) (key : CookieKey) : Finset CookieAndValue :=
  cookiesAndValues (onlyCookiesWithName (monster.getAllCookiesForURL P key.1) key.2)

namespace CookieStoreIOS

/-! ## Registration and updates -/

variable (P : CookiePlatform Options) (s : CookieStoreIOS)

/-- `GetSystemCookies`. -/
def getSystemCookies (key : CookieKey) : List CanonicalCookie × CookieStoreIOS :=
  s.canonicalCookieListFromSystemCookies P (systemCookiesFor P s.systemStore key)

/-- `UpdateCacheForCookieFromSystem`. -/
def updateCacheForCookieFromSystem (key : CookieKey) : CookieCacheUpdate × CookieStoreIOS :=
  let (systemCookies, s) := s.getSystemCookies P key
  let update := s.cookieCache.update key systemCookies
  (update, { s with cookieCache := update.cache })

/-- `RunCallbacksForCookies`: the calls, each with its callback. -/
def runCallbacksForCookies (key : CookieKey) (cookies : List CanonicalCookie)
    (cause : ChangeCause) : List (Nat × CookieChange) :=
  cookies.flatMap fun cookie => (s.callbacks key).map fun callback => (callback, ⟨cookie, cause⟩)

/-- The calls after an update of the cache. -/
def runCallbacksForUpdate (key : CookieKey) (update : CookieCacheUpdate) :
    List (Nat × CookieChange) :=
  if update.changed then
    s.runCallbacksForCookies key update.removedCookies .unknownDeletion ++
      s.runCallbacksForCookies key update.addedCookies .inserted
  else []

/-- One round of the loop of `OnSystemCookiesChanged`. -/
def updateHook (p : List (Nat × CookieChange) × CookieStoreIOS)
    (key : CookieKey) : List (Nat × CookieChange) × CookieStoreIOS :=
  let (update, s) := p.2.updateCacheForCookieFromSystem P key
  (p.1 ++ s.runCallbacksForUpdate key update, s)

/-- `OnSystemCookiesChanged` of a synchronized store. It schedules a flush. -/
def onSystemCookiesChanged : List (Nat × CookieChange) × CookieStoreIOS :=
  let (calls, s) := s.hookMap.elems.foldl (updateHook P) ([], s)
  (calls, { s with flushScheduled := true })

/-- `GotCookieListFor`. -/
def gotCookieListFor (key : CookieKey) (cookies : List CanonicalCookie) :
    List (Nat × CookieChange) × CookieStoreIOS :=
  let update := s.cookieCache.update key (onlyCookiesWithName cookies key.2)
  (s.runCallbacksForUpdate key update, { s with cookieCache := update.cache })

/-- `AddCallbackForCookie`. Whatever the store is, the cache is filled from the
system store, and only for the first callback of a key. -/
def addCallbackForCookie (key : CookieKey) (callback : Nat) : CookieStoreIOS :=
  let s :=
    if key ∈ s.hookMap.elems then s
    else
      let s := (s.updateCacheForCookieFromSystem P key).2
      { s with
        hookMap := s.hookMap.insert key
        callbacks := Function.update s.callbacks key [] }
  { s with callbacks := Function.update s.callbacks key (s.callbacks key ++ [callback]) }

/-- The destruction of the subscription of a callback. -/
def removeCallback (callback : Nat) : CookieStoreIOS :=
  { s with callbacks := fun key => (s.callbacks key).filter fun other => other ≠ callback }

/-- What a list of canonical cookies keeps of the system cookies. -/
theorem map_canonicalCookieListFromSystemCookies {β : Type} (f : CanonicalCookie → β)
    (g : NSHTTPCookie → β)
    (hfg : ∀ cookie time, f (canonicalCookieFromSystemCookie cookie time) = g cookie)
    (P : CookiePlatform Options) (s : CookieStoreIOS) (cookies : List NSHTTPCookie) :
    (s.canonicalCookieListFromSystemCookies P cookies).1.map f = cookies.map g := by
  calc (s.canonicalCookieListFromSystemCookies P cookies).1.map f
      = ((withCreationTimes P cookies s.creationTimeManager).1.map (·.1)).map g := by
        simp only [canonicalCookieListFromSystemCookies, map_map]
        exact map_congr_left fun p _ => hfg p.1 p.2
    _ = cookies.map g := by rw [map_fst_withCreationTimes]

/-- `WriteToCookieMonster` of a synchronized store. -/
def writeToCookieMonster : CookieStoreIOS :=
  { (s.canonicalCookieListFromSystemCookies P s.systemStore.cookies).2 with
    cookieMonster := ⟨(s.canonicalCookieListFromSystemCookies P s.systemStore.cookies).1, by
      rw [map_canonicalCookieListFromSystemCookies _ (·.identity) fun _ _ => rfl]
      exact s.systemStore.distinct⟩ }

/-- `FlushStore`; the `CookieMonster` of a persistent store is not written to. -/
def flushStore (persistent : Bool) : CookieStoreIOS :=
  let s := if s.systemCookiesAllowed ∧ ¬ persistent then s.writeToCookieMonster P else s
  { s with flushScheduled := false }

end CookieStoreIOS

/-- What a callback is called with. -/
def callsTo (callback : Nat) (calls : List (Nat × CookieChange)) : List CookieChange :=
  (calls.filter fun call => call.1 = callback).map (·.2)

/-! ## Runs -/

/-- A store with what goes on around it: the reads that its `CookieMonster` has
not answered yet, and the calls that were made. Callbacks are numbered. -/
structure CookieStoreProcess where
  persistent : Bool
  store : CookieStoreIOS
  nextCallback : Nat
  pendingReads : List CookieKey
  calls : List (Nat × CookieChange)

namespace CookieStoreProcess

/-- A store without callbacks. -/
def start (persistent : Bool) (systemStore : NSHTTPCookieStorage)
    (cookieAcceptPolicy : NSHTTPCookieAcceptPolicy) (manager : CookieCreationTimeManager)
    (cookieMonster : CookieMonster) : CookieStoreProcess where
  persistent := persistent
  store :=
    { systemStore := systemStore
      cookieAcceptPolicy := cookieAcceptPolicy
      creationTimeManager := manager
      cookieMonster := cookieMonster
      cookieCache := .new
      hookMap := .empty
      callbacks := fun _ => []
      flushScheduled := false }
  nextCallback := 0
  pendingReads := []
  calls := []

/-- What can happen. Cookies are written by the store or by others, with or
without a change of the creation times. -/
inductive Op
  | addCallbackForCookie (key : CookieKey)
  | removeCallback (callback : Nat)
  | writeSystemStore (systemStore : NSHTTPCookieStorage)
      (cookieAcceptPolicy : NSHTTPCookieAcceptPolicy) (manager : CookieCreationTimeManager)
  | writeCookieMonster (cookieMonster : CookieMonster)
  | onSystemCookiesChanged
  | updateCachesFromCookieMonster
  | gotCookieListFor (key : CookieKey)
  | flushStore

/-- Only the operations of a persistent store wrap their callbacks, and only a
read that was asked for is answered. -/
def Pre (s : CookieStoreProcess) : Op → Prop
  | .updateCachesFromCookieMonster => s.persistent = true
  | .gotCookieListFor key => key ∈ s.pendingReads
  | _ => True

variable (P : CookiePlatform Options)

def step (s : CookieStoreProcess) : Op → CookieStoreProcess
  | .addCallbackForCookie key =>
    { s with
      store := s.store.addCallbackForCookie P key s.nextCallback
      nextCallback := s.nextCallback + 1 }
  | .removeCallback callback => { s with store := s.store.removeCallback callback }
  | .writeSystemStore systemStore cookieAcceptPolicy manager =>
    { s with
      store := { s.store with
        systemStore := systemStore
        cookieAcceptPolicy := cookieAcceptPolicy
        creationTimeManager := manager } }
  | .writeCookieMonster cookieMonster =>
    { s with store := { s.store with cookieMonster := cookieMonster } }
  | .onSystemCookiesChanged =>
    -- a persistent store overrides it with nothing
    if s.persistent then s
    else
      { s with
        store := (s.store.onSystemCookiesChanged P).2
        calls := s.calls ++ (s.store.onSystemCookiesChanged P).1 }
  | .updateCachesFromCookieMonster =>
    { s with pendingReads := s.pendingReads ++ s.store.hookMap.elems }
  | .gotCookieListFor key =>
    let cookies := s.store.cookieMonster.getAllCookiesForURL P key.1
    { s with
      store := (s.store.gotCookieListFor key cookies).2
      calls := s.calls ++ (s.store.gotCookieListFor key cookies).1
      pendingReads := s.pendingReads.erase key }
  | .flushStore => { s with store := s.store.flushStore P s.persistent }

def machine : Machine CookieStoreProcess Op where
  Pre := Pre
  step := step P

/-- The cookies for a key in the store that the cache is updated from. -/
def matching (s : CookieStoreProcess) (key : CookieKey) : Finset CookieAndValue :=
  if s.persistent then monsterMatching P s.store.cookieMonster key
  else systemMatching P s.store.systemStore key

/-- The operation reads the cookies for a key into the cache. -/
def UpdatesCache (s : CookieStoreProcess) (key : CookieKey) : Op → Prop
  | .onSystemCookiesChanged => s.persistent = false
  | .gotCookieListFor key' => key' = key
  | _ => False

/-- What a callback was called with. -/
def received (s : CookieStoreProcess) (callback : Nat) : List CookieChange :=
  callsTo callback s.calls

end CookieStoreProcess

/-- A set of cookies after a notification. -/
def applyChange (cookies : Finset CookieAndValue) (change : CookieChange) :
    Finset CookieAndValue :=
  match change.cause with
  | .inserted => insert change.cookie.cookieAndValue cookies
  | .unknownDeletion => cookies.erase change.cookie.cookieAndValue

/-! ## What an update reports -/

/-- `changes` tell of the cookies in `old` only, then of those in `new` only. -/
def Reports (old new : Finset CookieAndValue) (changes : List CookieChange) : Prop :=
  ∃ removed added : List CanonicalCookie,
    changes = removed.map (⟨·, .unknownDeletion⟩) ++ added.map (⟨·, .inserted⟩) ∧
      cookiesAndValues removed = old \ new ∧ cookiesAndValues added = new \ old

theorem reports_refl (cookies : Finset CookieAndValue) : Reports cookies cookies [] :=
  ⟨[], [], rfl, (Finset.sdiff_self cookies).symm, (Finset.sdiff_self cookies).symm⟩

theorem foldl_unknownDeletion (removed : List CanonicalCookie) (cookies : Finset CookieAndValue) :
    (removed.map (⟨·, .unknownDeletion⟩)).foldl applyChange cookies =
      cookies \ cookiesAndValues removed := by
  induction removed generalizing cookies with
  | nil => exact Finset.sdiff_empty.symm
  | cons cookie removed ih =>
    rw [map_cons, foldl_cons, ih]
    ext c
    simp only [applyChange, cookiesAndValues, map_cons, toFinset_cons, Finset.mem_sdiff,
      Finset.mem_erase, Finset.mem_insert, not_or]
    tauto

theorem foldl_inserted (added : List CanonicalCookie) (cookies : Finset CookieAndValue) :
    (added.map (⟨·, .inserted⟩)).foldl applyChange cookies = cookies ∪ cookiesAndValues added := by
  induction added generalizing cookies with
  | nil => exact (Finset.union_empty cookies).symm
  | cons cookie added ih =>
    rw [map_cons, foldl_cons, ih]
    ext c
    simp only [applyChange, cookiesAndValues, map_cons, toFinset_cons, Finset.mem_union,
      Finset.mem_insert]
    tauto

/-- Who knows the old cookies and follows the notifications knows the new ones. -/
theorem Reports.foldl {old new : Finset CookieAndValue} {changes : List CookieChange}
    (h : Reports old new changes) : changes.foldl applyChange old = new := by
  obtain ⟨removed, added, rfl, hremoved, hadded⟩ := h
  rw [foldl_append, foldl_unknownDeletion, foldl_inserted, hremoved, hadded]
  ext c
  simp only [Finset.mem_union, Finset.mem_sdiff]
  tauto

/-- A cookie is told of exactly when it comes or goes. -/
theorem Reports.mem_iff {old new : Finset CookieAndValue} {changes : List CookieChange}
    (h : Reports old new changes) (c : CookieAndValue) :
    (∃ change ∈ changes, change.cookie.cookieAndValue = c) ↔ ¬ (c ∈ old ↔ c ∈ new) := by
  obtain ⟨removed, added, rfl, hremoved, hadded⟩ := h
  have hiff : (∃ change ∈ removed.map (⟨·, .unknownDeletion⟩) ++ added.map (⟨·, .inserted⟩),
      (change : CookieChange).cookie.cookieAndValue = c) ↔
        c ∈ cookiesAndValues removed ∨ c ∈ cookiesAndValues added := by
    simp only [mem_append, mem_map, mem_cookiesAndValues]
    constructor
    · rintro ⟨change, ⟨cookie, hcookie, rfl⟩ | ⟨cookie, hcookie, rfl⟩, hc⟩
      · exact .inl ⟨cookie, hcookie, hc⟩
      · exact .inr ⟨cookie, hcookie, hc⟩
    · rintro (⟨cookie, hcookie, hc⟩ | ⟨cookie, hcookie, hc⟩)
      · exact ⟨_, .inl ⟨cookie, hcookie, rfl⟩, hc⟩
      · exact ⟨_, .inr ⟨cookie, hcookie, rfl⟩, hc⟩
  rw [hiff, hremoved, hadded, Finset.mem_sdiff, Finset.mem_sdiff]
  tauto

/-- The changes that the callbacks of a key are told of. -/
def CookieCacheUpdate.changes (update : CookieCacheUpdate) : List CookieChange :=
  update.removedCookies.map (⟨·, .unknownDeletion⟩) ++ update.addedCookies.map (⟨·, .inserted⟩)

theorem reports_update {cache : CookieCache} {key : CookieKey} {cookies : List CanonicalCookie}
    (h : (cookies.map (·.identity)).Nodup) :
    Reports (cache.cached key) (cached (cache.update key cookies).cache key)
      (cache.update key cookies).changes := by
  rw [cached_update h]
  exact ⟨_, _, rfl, removedCookies_update h, addedCookies_update h⟩

/-! ## The calls of one callback -/

theorem callsTo_append (callback : Nat) (calls calls' : List (Nat × CookieChange)) :
    callsTo callback (calls ++ calls') = callsTo callback calls ++ callsTo callback calls' := by
  rw [callsTo, filter_append, map_append]
  rfl

variable {callback : Nat}

theorem callsTo_eq_nil {calls : List (Nat × CookieChange)}
    (h : ∀ call ∈ calls, call.1 ≠ callback) : callsTo callback calls = [] := by
  rw [callsTo, map_eq_nil_iff, filter_eq_nil_iff]
  intro call hcall
  simpa using h call hcall

namespace CookieStoreIOS

variable {P : CookiePlatform Options} {s : CookieStoreIOS} {key : CookieKey}

theorem mem_runCallbacksForCookies {cookies : List CanonicalCookie}
    {cause : ChangeCause} {call : Nat × CookieChange}
    (h : call ∈ s.runCallbacksForCookies key cookies cause) : call.1 ∈ s.callbacks key := by
  obtain ⟨cookie, -, hcall⟩ := mem_flatMap.1 h
  obtain ⟨callback, hcallback, rfl⟩ := mem_map.1 hcall
  exact hcallback

theorem mem_runCallbacksForUpdate {update : CookieCacheUpdate}
    {call : Nat × CookieChange} (h : call ∈ s.runCallbacksForUpdate key update) :
    call.1 ∈ s.callbacks key := by
  rw [runCallbacksForUpdate] at h
  split at h
  · rcases mem_append.1 h with hcall | hcall
    · exact mem_runCallbacksForCookies hcall
    · exact mem_runCallbacksForCookies hcall
  · cases h

theorem callsTo_runCallbacksForCookies
    (hnodup : (s.callbacks key).Nodup) (hcallback : callback ∈ s.callbacks key)
    (cookies : List CanonicalCookie) (cause : ChangeCause) :
    callsTo callback (s.runCallbacksForCookies key cookies cause) = cookies.map (⟨·, cause⟩) := by
  induction cookies with
  | nil => rfl
  | cons cookie cookies ih =>
    have hone : callsTo callback
        ((s.callbacks key).map fun callback => (callback, ⟨cookie, cause⟩)) =
        [⟨cookie, cause⟩] := by
      rw [callsTo, filter_map, map_map]
      have hfilter : (s.callbacks key).filter (fun other => other = callback) = [callback] := by
        rw [filter_eq, count_eq_one_of_mem hnodup hcallback]
        rfl
      simp only [Function.comp_def, hfilter, map_cons, map_nil]
    rw [runCallbacksForCookies, flatMap_cons, callsTo_append, hone, map_cons,
      singleton_append, ← ih]
    rfl

/-- A callback of the key is told of all changes. -/
theorem callsTo_runCallbacksForUpdate
    (hnodup : (s.callbacks key).Nodup) (hcallback : callback ∈ s.callbacks key)
    (cache : CookieCache) (cookies : List CanonicalCookie) :
    callsTo callback (s.runCallbacksForUpdate key (cache.update key cookies)) =
      (cache.update key cookies).changes := by
  rw [runCallbacksForUpdate]
  split
  · rw [callsTo_append, callsTo_runCallbacksForCookies hnodup hcallback,
      callsTo_runCallbacksForCookies hnodup hcallback]
    rfl
  · next hsame =>
    obtain ⟨hremoved, hadded⟩ := update_of_not_changed (Bool.eq_false_iff.2 hsame)
    rw [CookieCacheUpdate.changes, hremoved, hadded]
    rfl

theorem hookOrder_inj {key key' : CookieKey} (h : hookOrder key = hookOrder key') : key = key' := by
  obtain ⟨⟨spec, isValid⟩, name⟩ := key
  obtain ⟨⟨spec', isValid'⟩, name'⟩ := key'
  simpa [hookOrder, and_assoc] using h

/-! ### Updates from the system store -/

/-- Everything that an update from the system store leaves as it is. -/
structure SameHooks (s s' : CookieStoreIOS) : Prop where
  systemStore : s'.systemStore = s.systemStore
  cookieMonster : s'.cookieMonster = s.cookieMonster
  hookMap : s'.hookMap = s.hookMap
  callbacks : s'.callbacks = s.callbacks

theorem SameHooks.trans {s s' s'' : CookieStoreIOS} (h : s.SameHooks s') (h' : s'.SameHooks s'') :
    s.SameHooks s'' where
  systemStore := h'.systemStore.trans h.systemStore
  cookieMonster := h'.cookieMonster.trans h.cookieMonster
  hookMap := h'.hookMap.trans h.hookMap
  callbacks := h'.callbacks.trans h.callbacks

section

variable (P s) (key : CookieKey)

theorem sameHooks_updateCacheForCookieFromSystem : s.SameHooks (s.updateCacheForCookieFromSystem P key).2 :=
  ⟨rfl, rfl, rfl, rfl⟩

theorem cookiesAndValues_getSystemCookies :
    cookiesAndValues (s.getSystemCookies P key).1 = systemMatching P s.systemStore key := by
  rw [cookiesAndValues, getSystemCookies,
    map_canonicalCookieListFromSystemCookies _ NSHTTPCookie.cookieAndValue fun _ _ => rfl]
  rfl

theorem nodup_getSystemCookies : ((s.getSystemCookies P key).1.map (·.identity)).Nodup := by
  rw [getSystemCookies,
    map_canonicalCookieListFromSystemCookies _ NSHTTPCookie.identity fun _ _ => rfl]
  exact s.systemStore.distinct.sublist (filter_sublist.map _)

theorem cached_updateCacheForCookieFromSystem :
    (s.updateCacheForCookieFromSystem P key).2.cookieCache.cached key =
      systemMatching P s.systemStore key := by
  rw [← cookiesAndValues_getSystemCookies]
  exact cached_update (nodup_getSystemCookies P s key)

theorem reports_updateCacheForCookieFromSystem : Reports (s.cookieCache.cached key)
      ((s.updateCacheForCookieFromSystem P key).2.cookieCache.cached key)
      (s.updateCacheForCookieFromSystem P key).1.changes :=
  reports_update (nodup_getSystemCookies P s key)

end

/-- The hooks of other keys. -/
theorem foldl_updateHook (l : List CookieKey) (p : List (Nat × CookieChange) × CookieStoreIOS) :
    p.2.SameHooks (l.foldl (updateHook P) p).2 ∧
      (∀ key, key ∉ l → (l.foldl (updateHook P) p).2.cookieCache key = p.2.cookieCache key) ∧
      ∃ calls, (l.foldl (updateHook P) p).1 = p.1 ++ calls ∧
        ∀ call ∈ calls, ∃ key ∈ l, call.1 ∈ p.2.callbacks key := by
  induction l generalizing p with
  | nil =>
    refine ⟨⟨rfl, rfl, rfl, rfl⟩, fun key _ => rfl, [], (append_nil _).symm, ?_⟩
    exact fun call hcall => absurd hcall not_mem_nil
  | cons key l ih =>
    obtain ⟨hhooks, hcache, calls, hcalls, hto⟩ := ih (updateHook P p key)
    have hhooks' := sameHooks_updateCacheForCookieFromSystem P p.2 key
    refine ⟨hhooks'.trans hhooks, fun key' hkey' => ?_, ?_⟩
    · obtain ⟨hne, hrest⟩ := not_or.1 (mt mem_cons.2 hkey')
      rw [foldl_cons, hcache key' hrest]
      exact update_other hne
    · refine ⟨p.2.runCallbacksForUpdate key (p.2.updateCacheForCookieFromSystem P key).1 ++ calls,
        ?_, ?_⟩
      · rw [foldl_cons, hcalls, ← append_assoc]
        rfl
      · intro call hcall
        rcases mem_append.1 hcall with hhead | htail
        · exact ⟨key, mem_cons_self, mem_runCallbacksForUpdate hhead⟩
        · obtain ⟨key', hkey', hcallback⟩ := hto call htail
          exact ⟨key', mem_cons_of_mem _ hkey', hcallback⟩

theorem nodup_hookMap (s : CookieStoreIOS) : s.hookMap.elems.Nodup :=
  s.hookMap.sorted.imp fun hlt heq => hlt.ne (congrArg hookOrder heq)

/-- What `OnSystemCookiesChanged` does for one callback. -/
theorem onSystemCookiesChanged_spec
    (hkey : key ∈ s.hookMap.elems) (hnodup : (s.callbacks key).Nodup)
    (hcallback : callback ∈ s.callbacks key)
    (honly : ∀ key', callback ∈ s.callbacks key' → key' = key) :
    (s.onSystemCookiesChanged P).2.cookieCache.cached key = systemMatching P s.systemStore key ∧
      Reports (s.cookieCache.cached key)
        ((s.onSystemCookiesChanged P).2.cookieCache.cached key)
        (callsTo callback (s.onSystemCookiesChanged P).1) := by
  obtain ⟨l₁, l₂, hl⟩ := append_of_mem hkey
  have hdistinct := s.nodup_hookMap
  rw [hl] at hdistinct
  obtain ⟨-, hnodup₂, hdisjoint⟩ := nodup_append.1 hdistinct
  have hkey₁ : key ∉ l₁ := fun hmem => hdisjoint key hmem key mem_cons_self rfl
  have hkey₂ : key ∉ l₂ := (nodup_cons.1 hnodup₂).1
  -- the hooks before that of the key, that hook, and the hooks behind it
  obtain ⟨hhooks₁, hcache₁, calls₁, hcalls₁, hto₁⟩ := foldl_updateHook (P := P) l₁ ([], s)
  generalize hp₁ : l₁.foldl (updateHook P) ([], s) = p₁ at hhooks₁ hcache₁ hcalls₁
  obtain ⟨hhooks₂, hcache₂, calls₂, hcalls₂, hto₂⟩ :=
    foldl_updateHook (P := P) l₂ (updateHook P p₁ key)
  have hhooks := hhooks₁.trans (sameHooks_updateCacheForCookieFromSystem P p₁.2 key)
  have hfold : s.hookMap.elems.foldl (updateHook P) ([], s) =
      l₂.foldl (updateHook P) (updateHook P p₁ key) := by
    rw [hl, foldl_append, foldl_cons, hp₁]
  have hcache : (s.onSystemCookiesChanged P).2.cookieCache.cached key =
      (p₁.2.updateCacheForCookieFromSystem P key).2.cookieCache.cached key := by
    have hlast := hcache₂ key hkey₂
    rw [← hfold] at hlast
    exact cached_congr hlast
  have hbefore : p₁.2.cookieCache.cached key = s.cookieCache.cached key :=
    cached_congr (hcache₁ key hkey₁)
  have hcalls : callsTo callback (s.onSystemCookiesChanged P).1 =
      (p₁.2.updateCacheForCookieFromSystem P key).1.changes := by
    have hothers₁ : callsTo callback calls₁ = [] := by
      refine callsTo_eq_nil fun call hcall heq => ?_
      obtain ⟨key', hkey', hto⟩ := hto₁ call hcall
      exact hkey₁ (honly key' (heq ▸ hto) ▸ hkey')
    have hothers₂ : callsTo callback calls₂ = [] := by
      refine callsTo_eq_nil fun call hcall heq => ?_
      obtain ⟨key', hkey', hto⟩ := hto₂ call hcall
      have hcallbacks : (updateHook P p₁ key).2.callbacks = s.callbacks := hhooks.callbacks
      rw [hcallbacks, heq] at hto
      exact hkey₂ (honly key' hto ▸ hkey')
    have hown : callsTo callback
        ((p₁.2.updateCacheForCookieFromSystem P key).2.runCallbacksForUpdate key
          (p₁.2.updateCacheForCookieFromSystem P key).1) =
          (p₁.2.updateCacheForCookieFromSystem P key).1.changes := by
      refine callsTo_runCallbacksForUpdate ?_ ?_ _ _
      · rw [hhooks.callbacks]
        exact hnodup
      · rw [hhooks.callbacks]
        exact hcallback
    rw [onSystemCookiesChanged]
    simp only
    rw [hfold, hcalls₂, callsTo_append, hothers₂, append_nil, updateHook]
    simp only
    rw [hcalls₁, nil_append, callsTo_append, hothers₁, nil_append, hown]
  rw [hcalls, hcache, ← hbefore, cached_updateCacheForCookieFromSystem]
  refine ⟨by rw [hhooks₁.systemStore], ?_⟩
  rw [← cached_updateCacheForCookieFromSystem]
  exact reports_updateCacheForCookieFromSystem P p₁.2 key

/-- What `GotCookieListFor` does for one callback of its key. -/
theorem gotCookieListFor_spec (monster : CookieMonster) {key : CookieKey} {callback : Nat}
    (hnodup : (s.callbacks key).Nodup) (hcallback : callback ∈ s.callbacks key) :
    let r := s.gotCookieListFor key (monster.getAllCookiesForURL P key.1)
    r.2.cookieCache.cached key = monsterMatching P monster key ∧
      Reports (s.cookieCache.cached key) (r.2.cookieCache.cached key) (callsTo callback r.1) := by
  have hdistinct : ((onlyCookiesWithName (monster.getAllCookiesForURL P key.1) key.2).map
      (·.identity)).Nodup :=
    monster.distinct.sublist ((filter_sublist.trans filter_sublist).map _)
  refine ⟨cached_update hdistinct, ?_⟩
  rw [gotCookieListFor]
  simp only
  rw [callsTo_runCallbacksForUpdate hnodup hcallback]
  exact reports_update hdistinct

/-! ### Registration -/

theorem mem_hookMap_addCallbackForCookie {key' : CookieKey} :
    key' ∈ (s.addCallbackForCookie P key callback).hookMap.elems ↔
      key' ∈ s.hookMap.elems ∨ key' = key := by
  rw [addCallbackForCookie]
  split
  · next hkey => exact (or_iff_left_of_imp fun heq => heq ▸ hkey).symm
  · next hkey =>
    simp only
    rw [← OrderedSet.mem_def, OrderedSet.mem_insert]
    refine or_congr_right (and_iff_left fun other hother heq => hkey ?_)
    rw [← hookOrder_inj heq]
    exact hother

theorem callbacks_addCallbackForCookie
    (hunhooked : key ∉ s.hookMap.elems → s.callbacks key = []) (callback : Nat)
    (key' : CookieKey) :
    (s.addCallbackForCookie P key callback).callbacks key' =
      s.callbacks key' ++ if key' = key then [callback] else [] := by
  rw [addCallbackForCookie]
  split
  · by_cases heq : key' = key
    · simp [heq]
    · simp [heq]
  · next hkey =>
    by_cases heq : key' = key
    · simp [heq, hunhooked hkey]
    · have hcallbacks : (s.updateCacheForCookieFromSystem P key).2.callbacks = s.callbacks := rfl
      simp [heq, hcallbacks]

/-- What the cache has for a key once a callback for it is registered. -/
theorem cached_addCallbackForCookie (key : CookieKey) (callback : Nat) :
    (s.addCallbackForCookie P key callback).cookieCache.cached key =
      if key ∈ s.hookMap.elems then s.cookieCache.cached key
      else systemMatching P s.systemStore key := by
  rw [addCallbackForCookie]
  split
  · rfl
  · exact cached_updateCacheForCookieFromSystem P s key

end CookieStoreIOS

namespace CookieStoreProcess

variable {P : CookiePlatform Options} {s : CookieStoreProcess}

/-- Callbacks have numbers of their own, one each, and are called under a hooked
key only; only a persistent store reads its `CookieMonster`. -/
structure WellNumbered (s : CookieStoreProcess) : Prop where
  calls : ∀ call ∈ s.calls, call.1 < s.nextCallback
  callbacks : ∀ key, ∀ callback ∈ s.store.callbacks key, callback < s.nextCallback
  hooked : ∀ key, key ∉ s.store.hookMap.elems → s.store.callbacks key = []
  nodup : ∀ key, (s.store.callbacks key).Nodup
  disjoint : ∀ key key' callback, callback ∈ s.store.callbacks key →
    callback ∈ s.store.callbacks key' → key = key'
  reads : s.pendingReads ≠ [] → s.persistent = true

theorem wellNumbered_start (persistent : Bool) (systemStore : NSHTTPCookieStorage)
    (cookieAcceptPolicy : NSHTTPCookieAcceptPolicy) (manager : CookieCreationTimeManager)
    (cookieMonster : CookieMonster) :
    (start persistent systemStore cookieAcceptPolicy manager cookieMonster).WellNumbered where
  calls _ hcall := absurd hcall not_mem_nil
  callbacks _ _ hcallback := absurd hcallback not_mem_nil
  hooked _ _ := rfl
  nodup _ := nodup_nil
  disjoint _ _ _ hcallback := absurd hcallback not_mem_nil
  reads hne := absurd rfl hne

/-- A step that registers nothing and calls registered callbacks. -/
theorem WellNumbered.of_same (h : s.WellNumbered) {s' : CookieStoreProcess}
    (hnext : s'.nextCallback = s.nextCallback)
    (hhookMap : s'.store.hookMap = s.store.hookMap)
    (hcallbacks : s'.store.callbacks = s.store.callbacks)
    (hcalls : ∀ call ∈ s'.calls, call ∈ s.calls ∨ ∃ key, call.1 ∈ s.store.callbacks key)
    (hreads : s'.pendingReads ≠ [] → s'.persistent = true) : s'.WellNumbered where
  calls := by
    intro call hcall
    rw [hnext]
    rcases hcalls call hcall with hold | ⟨key, hkey⟩
    · exact h.calls call hold
    · exact h.callbacks key _ hkey
  callbacks := by
    rw [hnext, hcallbacks]
    exact h.callbacks
  hooked := by
    rw [hhookMap, hcallbacks]
    exact h.hooked
  nodup := by
    rw [hcallbacks]
    exact h.nodup
  disjoint := by
    rw [hcallbacks]
    exact h.disjoint
  reads := hreads

theorem WellNumbered.mem_callbacks (h : s.WellNumbered) (key : CookieKey) {key' : CookieKey}
    {callback : Nat} :
    callback ∈ (s.step P (.addCallbackForCookie key)).store.callbacks key' ↔
      callback ∈ s.store.callbacks key' ∨ key' = key ∧ callback = s.nextCallback := by
  simp only [step, callbacks_addCallbackForCookie (h.hooked key), mem_append]
  by_cases heq : key' = key
  · simp [heq]
  · simp [heq]

theorem WellNumbered.addCallbackForCookie (h : s.WellNumbered) (key : CookieKey) :
    (s.step P (.addCallbackForCookie key)).WellNumbered where
  calls call hcall := Nat.lt_succ_of_lt (h.calls call hcall)
  callbacks := by
    intro key' callback hcallback
    rcases (h.mem_callbacks key).1 hcallback with hold | ⟨-, rfl⟩
    · exact Nat.lt_succ_of_lt (h.callbacks key' callback hold)
    · exact Nat.lt_succ_self _
  hooked := by
    intro key' hkey'
    simp only [step] at hkey' ⊢
    rw [mem_hookMap_addCallbackForCookie, not_or] at hkey'
    rw [callbacks_addCallbackForCookie (h.hooked key), if_neg hkey'.2,
      append_nil, h.hooked key' hkey'.1]
  nodup := by
    intro key'
    simp only [step, callbacks_addCallbackForCookie (h.hooked key)]
    split
    · refine nodup_append.2 ⟨h.nodup key', nodup_singleton _, ?_⟩
      rintro callback hcallback other hother rfl
      rw [mem_singleton.1 hother] at hcallback
      exact Nat.lt_irrefl _ (h.callbacks key' _ hcallback)
    · rw [append_nil]
      exact h.nodup key'
  disjoint := by
    intro key₁ key₂ callback h₁ h₂
    -- the number is new, so that no other key has it
    have hfresh : ∀ key', s.nextCallback ∉ s.store.callbacks key' :=
      fun key' hmem => Nat.lt_irrefl _ (h.callbacks key' _ hmem)
    rcases (h.mem_callbacks key).1 h₁ with hold₁ | ⟨rfl, hnew₁⟩
    · rcases (h.mem_callbacks key).1 h₂ with hold₂ | ⟨-, hnew₂⟩
      · exact h.disjoint key₁ key₂ callback hold₁ hold₂
      · exact absurd (hnew₂ ▸ hold₁) (hfresh key₁)
    · rcases (h.mem_callbacks key₁).1 h₂ with hold₂ | ⟨heq, -⟩
      · exact absurd (hnew₁ ▸ hold₂) (hfresh key₂)
      · exact heq.symm
  reads := h.reads

theorem WellNumbered.removeCallback (h : s.WellNumbered) (callback : Nat) :
    (s.step P (.removeCallback callback)).WellNumbered where
  calls := h.calls
  callbacks key other hother := h.callbacks key other (mem_filter.1 hother).1
  hooked := by
    intro key hkey
    simp only [step, CookieStoreIOS.removeCallback]
    rw [h.hooked key hkey, filter_nil]
  nodup key := (h.nodup key).sublist filter_sublist
  disjoint key key' other hother hother' :=
    h.disjoint key key' other (mem_filter.1 hother).1 (mem_filter.1 hother').1
  reads := h.reads

theorem WellNumbered.step (h : s.WellNumbered) {op : Op} (hpre : s.Pre op) :
    (s.step P op).WellNumbered := by
  cases op with
  | addCallbackForCookie key => exact h.addCallbackForCookie key
  | removeCallback callback => exact h.removeCallback callback
  | writeSystemStore systemStore cookieAcceptPolicy manager =>
    exact h.of_same rfl rfl rfl (fun _ hcall => .inl hcall) h.reads
  | writeCookieMonster cookieMonster =>
    exact h.of_same rfl rfl rfl (fun _ hcall => .inl hcall) h.reads
  | onSystemCookiesChanged =>
    rw [CookieStoreProcess.step]
    split
    · exact h
    · obtain ⟨hhooks, -, calls, hcalls, hto⟩ :=
        foldl_updateHook (P := P) s.store.hookMap.elems ([], s.store)
      refine h.of_same rfl hhooks.hookMap hhooks.callbacks (fun call hcall => ?_) h.reads
      rcases mem_append.1 hcall with hold | hnew
      · exact .inl hold
      · rw [onSystemCookiesChanged] at hnew
        simp only at hnew
        rw [hcalls] at hnew
        obtain ⟨key, -, hkey⟩ := hto call hnew
        exact .inr ⟨key, hkey⟩
  | updateCachesFromCookieMonster =>
    exact h.of_same rfl rfl rfl (fun _ hcall => .inl hcall) fun _ => hpre
  | gotCookieListFor key =>
    refine h.of_same rfl rfl rfl (fun call hcall => ?_) fun _ => ?_
    · rcases mem_append.1 hcall with hold | hnew
      · exact .inl hold
      · exact .inr ⟨key, mem_runCallbacksForUpdate hnew⟩
    · exact h.reads (ne_nil_of_mem hpre)
  | flushStore =>
    rw [CookieStoreProcess.step, flushStore]
    split
    · exact h.of_same rfl rfl rfl (fun _ hcall => .inl hcall) h.reads
    · exact h.of_same rfl rfl rfl (fun _ hcall => .inl hcall) h.reads

/-! ## One step, as a callback sees it -/

/-- The cookies that the cache has for a key. -/
def cached (s : CookieStoreProcess) (key : CookieKey) : Finset CookieAndValue :=
  s.store.cookieCache.cached key

/-- What a step does for a callback of a key: it is told of the difference in the
cache, which changes only when it is read from the store. -/
structure StepFor (P : CookiePlatform Options) (s : CookieStoreProcess) (op : Op)
    (key : CookieKey) (callback : Nat) (changes : List CookieChange) : Prop where
  registered : callback ∈ (s.step P op).store.callbacks key
  received : (s.step P op).received callback = s.received callback ++ changes
  reports : Reports (s.cached key) ((s.step P op).cached key) changes
  updated : s.UpdatesCache key op → (s.step P op).cached key = (s.step P op).matching P key
  unchanged : ¬ s.UpdatesCache key op → (s.step P op).cached key = s.cached key

/-- A step that neither calls the callback nor touches what the cache has for the
key. -/
theorem StepFor.quiet {op : Op} {key : CookieKey} {callback : Nat}
    (hregistered : callback ∈ (s.step P op).store.callbacks key)
    (hreceived : (s.step P op).received callback = s.received callback)
    (hcached : (s.step P op).cached key = s.cached key) (hquiet : ¬ s.UpdatesCache key op) :
    StepFor P s op key callback [] where
  registered := hregistered
  received := by rw [hreceived, append_nil]
  reports := by
    rw [hcached]
    exact reports_refl _
  updated hupdates := absurd hupdates hquiet
  unchanged _ := hcached

theorem WellNumbered.mem_hookMap (h : s.WellNumbered) {key : CookieKey} {callback : Nat}
    (hcallback : callback ∈ s.store.callbacks key) : key ∈ s.store.hookMap.elems := by
  by_contra hkey
  rw [h.hooked key hkey] at hcallback
  cases hcallback

/-- A persistent store does not listen to the system store. -/
theorem WellNumbered.onSystemCookiesChanged_spec (h : s.WellNumbered) {key : CookieKey}
    {callback : Nat} (hcallback : callback ∈ s.store.callbacks key) :
    ∃ changes, StepFor P s .onSystemCookiesChanged key callback changes := by
  have hkey := h.mem_hookMap hcallback
  cases hpersistent : s.persistent with
  | true =>
    have hsame : s.step P .onSystemCookiesChanged = s := if_pos hpersistent
    refine ⟨[], .quiet ?_ ?_ ?_ fun hupdates => ?_⟩
    · rw [hsame]
      exact hcallback
    · rw [hsame]
    · rw [hsame]
    · exact Bool.false_ne_true (hupdates.symm.trans hpersistent)
  | false =>
    have hstep : s.step P .onSystemCookiesChanged =
        { s with
          store := (s.store.onSystemCookiesChanged P).2
          calls := s.calls ++ (s.store.onSystemCookiesChanged P).1 } :=
      if_neg (by simp [hpersistent])
    obtain ⟨hhooks, -⟩ :=
      foldl_updateHook (P := P) s.store.hookMap.elems ([], s.store)
    obtain ⟨hcached, hreports⟩ := CookieStoreIOS.onSystemCookiesChanged_spec (P := P) hkey
      (h.nodup key) hcallback fun key' hkey' => h.disjoint key' key callback hkey' hcallback
    refine ⟨callsTo callback (s.store.onSystemCookiesChanged P).1, ?_⟩
    constructor
    · rw [hstep]
      exact hhooks.callbacks ▸ hcallback
    · rw [hstep]
      exact callsTo_append callback _ _
    · rw [hstep]
      exact hreports
    · intro _
      rw [hstep, matching, if_neg (by simp [hpersistent])]
      have hstore : (s.store.onSystemCookiesChanged P).2.systemStore = s.store.systemStore :=
        hhooks.systemStore
      exact hcached.trans (by rw [hstore])
    · exact fun hquiet => absurd hpersistent hquiet

/-- Only the callbacks of the key are called. -/
theorem WellNumbered.gotCookieListFor_spec (h : s.WellNumbered) {key key' : CookieKey}
    (hpre : s.Pre (.gotCookieListFor key')) {callback : Nat}
    (hcallback : callback ∈ s.store.callbacks key) :
    ∃ changes, StepFor P s (.gotCookieListFor key') key callback changes := by
  by_cases heq : key' = key
  · subst heq
    obtain ⟨hcached, hreports⟩ := CookieStoreIOS.gotCookieListFor_spec (P := P)
      s.store.cookieMonster (h.nodup key') hcallback
    refine ⟨_, hcallback, callsTo_append callback _ _, hreports, fun _ => ?_, fun hquiet => ?_⟩
    · rw [matching, if_pos]
      · exact hcached
      · exact h.reads (ne_nil_of_mem hpre)
    · exact absurd rfl hquiet
  · refine ⟨[], .quiet hcallback ?_ ?_ heq⟩
    · rw [received, CookieStoreProcess.step]
      simp only
      rw [callsTo_append]
      refine (congrArg _ (callsTo_eq_nil fun call hcall hto => ?_)).trans (append_nil _)
      refine heq (h.disjoint key' key callback ?_ hcallback)
      exact hto ▸ mem_runCallbacksForUpdate hcall
    · exact cached_congr (update_other fun heq' => heq heq'.symm)

/-- **Step lemma**: what one operation does for one callback. -/
theorem WellNumbered.step_spec (h : s.WellNumbered) {op : Op} (hpre : s.Pre op) {key : CookieKey}
    {callback : Nat} (hcallback : callback ∈ s.store.callbacks key)
    (hkeep : op ≠ .removeCallback callback) : ∃ changes, StepFor P s op key callback changes := by
  have hkey := h.mem_hookMap hcallback
  cases op with
  | addCallbackForCookie key' =>
    refine ⟨[], .quiet ((h.mem_callbacks key').2 (.inl hcallback)) rfl ?_ id⟩
    simp only [cached, CookieStoreProcess.step, CookieStoreIOS.addCallbackForCookie]
    split
    · rfl
    · next hunhooked =>
      have hne : key ≠ key' := fun heq => hunhooked (heq ▸ hkey)
      exact cached_congr (update_other hne)
  | removeCallback other =>
    refine ⟨[], .quiet (mem_filter.2 ⟨hcallback, ?_⟩) rfl rfl id⟩
    exact decide_eq_true fun heq => hkeep (heq ▸ rfl)
  | writeSystemStore systemStore cookieAcceptPolicy manager =>
    exact ⟨[], .quiet hcallback rfl rfl id⟩
  | writeCookieMonster cookieMonster => exact ⟨[], .quiet hcallback rfl rfl id⟩
  | onSystemCookiesChanged => exact h.onSystemCookiesChanged_spec hcallback
  | updateCachesFromCookieMonster => exact ⟨[], .quiet hcallback rfl rfl id⟩
  | gotCookieListFor key' => exact h.gotCookieListFor_spec hpre hcallback
  | flushStore =>
    refine ⟨[], .quiet ?_ rfl ?_ id⟩
    · simp only [CookieStoreProcess.step, flushStore]
      split
      · exact hcallback
      · exact hcallback
    · simp only [cached, CookieStoreProcess.step, flushStore]
      split
      · rfl
      · rfl

/-! ## Whole runs -/

/-- The state after the registration of a callback for `key`, which gets the
number `s.nextCallback`. -/
def registered (P : CookiePlatform Options) (s : CookieStoreProcess) (key : CookieKey) :
    CookieStoreProcess := s.step P (.addCallbackForCookie key)

/-- The callback that is registered for `key` reports exactly the later changes:
whatever follows, while it stays registered, the notifications turn the cookies
that were there at first into those that an update of the cache reads, and none is
about a cookie that has been there all along or never. -/
def ReportsExactly (P : CookiePlatform Options) (s : CookieStoreProcess) (key : CookieKey) : Prop :=
  ∀ ops, (machine P).Along (fun s' op => s'.Pre op ∧ op ≠ .removeCallback s.nextCallback)
      (s.registered P key) ops →
    let s' := (machine P).run (s.registered P key) ops
    (∀ op, s'.Pre op → s'.UpdatesCache key op →
      ((s'.step P op).received s.nextCallback).foldl applyChange (s.matching P key) =
        (s'.step P op).matching P key) ∧
    ∀ cookie,
      (machine P).Along (fun s'' op => cookie ∈ (s''.step P op).matching P key ↔
        cookie ∈ s.matching P key) (s.registered P key) ops →
      ∀ change ∈ s'.received s.nextCallback, change.cookie.cookieAndValue ≠ cookie

/-- A registration leaves the cache with the cookies of the store that it is updated
from: the key is hooked and no change was missed, or it is not and the system
store, which the cache is filled from, has the same cookies. -/
def Primed (P : CookiePlatform Options) (s : CookieStoreProcess) (key : CookieKey) : Prop :=
  if key ∈ s.store.hookMap.elems then s.cached key = s.matching P key
  else systemMatching P s.store.systemStore key = s.matching P key

theorem cached_registered (key : CookieKey) :
    (s.registered P key).cached key = s.matching P key ↔ s.Primed P key := by
  rw [cached, registered, step, cached_addCallbackForCookie, Primed]
  split
  · rfl
  · rfl

theorem matching_registered (key : CookieKey) :
    (s.registered P key).matching P key = s.matching P key := by
  rw [matching, matching, registered, step, addCallbackForCookie]
  split
  · rfl
  · rfl

/-- What a run keeps of a callback that is registered in a primed state. -/
structure Follows (P : CookiePlatform Options) (existing : Finset CookieAndValue)
    (key : CookieKey) (callback : Nat) (s : CookieStoreProcess) : Prop where
  wellNumbered : s.WellNumbered
  registered : callback ∈ s.store.callbacks key
  received : (s.received callback).foldl applyChange existing = s.cached key

theorem Follows.step {existing : Finset CookieAndValue} {key : CookieKey} {callback : Nat}
    (h : Follows P existing key callback s) {op : Op} (hpre : s.Pre op)
    (hkeep : op ≠ .removeCallback callback) : Follows P existing key callback (s.step P op) := by
  obtain ⟨changes, hstep⟩ := h.wellNumbered.step_spec (P := P) hpre h.registered hkeep
  refine ⟨h.wellNumbered.step hpre, hstep.registered, ?_⟩
  rw [hstep.received, foldl_append, h.received]
  exact hstep.reports.foldl

theorem WellNumbered.received_registered (h : s.WellNumbered) (key : CookieKey) :
    (s.registered P key).received s.nextCallback = [] :=
  callsTo_eq_nil fun call hcall heq => Nat.lt_irrefl _ (heq ▸ h.calls call hcall)

theorem WellNumbered.mem_callbacks_registered (h : s.WellNumbered) (key : CookieKey) :
    s.nextCallback ∈ (s.registered P key).store.callbacks key :=
  (h.mem_callbacks key).2 (.inr ⟨rfl, rfl⟩)

theorem WellNumbered.follows_registered (h : s.WellNumbered) {key : CookieKey}
    (hprimed : s.Primed P key) :
    Follows P (s.matching P key) key s.nextCallback (s.registered P key) where
  wellNumbered := h.step trivial
  registered := h.mem_callbacks_registered key
  received := by
    rw [h.received_registered, (cached_registered key).2 hprimed]
    rfl

/-- What a run keeps of a cookie that never comes or goes. -/
structure Ignores (existing : Finset CookieAndValue) (key : CookieKey) (callback : Nat)
    (cookie : CookieAndValue) (s : CookieStoreProcess) : Prop where
  wellNumbered : s.WellNumbered
  registered : callback ∈ s.store.callbacks key
  cached : cookie ∈ s.cached key ↔ cookie ∈ existing
  received : ∀ change ∈ s.received callback, change.cookie.cookieAndValue ≠ cookie

theorem Ignores.step {existing : Finset CookieAndValue} {key : CookieKey} {callback : Nat}
    {cookie : CookieAndValue} (h : Ignores existing key callback cookie s) {op : Op}
    (hpre : s.Pre op) (hkeep : op ≠ .removeCallback callback)
    (hmatching : cookie ∈ (s.step P op).matching P key ↔ cookie ∈ existing) :
    Ignores existing key callback cookie (s.step P op) := by
  obtain ⟨changes, hstep⟩ := h.wellNumbered.step_spec (P := P) hpre h.registered hkeep
  have hcached : cookie ∈ (s.step P op).cached key ↔ cookie ∈ existing := by
    by_cases hupdates : s.UpdatesCache key op
    · rw [hstep.updated hupdates, hmatching]
    · rw [hstep.unchanged hupdates, h.cached]
  refine ⟨h.wellNumbered.step hpre, hstep.registered, hcached, fun change hchange heq => ?_⟩
  rw [hstep.received] at hchange
  rcases mem_append.1 hchange with hold | hnew
  · exact h.received change hold heq
  · exact (hstep.reports.mem_iff cookie).1 ⟨change, hnew, heq⟩ (h.cached.trans hcached.symm)

theorem WellNumbered.reportsExactly (h : s.WellNumbered) {key : CookieKey}
    (hprimed : s.Primed P key) : s.ReportsExactly P key := by
  intro ops hops
  constructor
  · intro op hpre hupdates
    have hfollows := (machine P).run_invariant
      (I := Follows P (s.matching P key) key s.nextCallback)
      (fun _ _ h hop => h.step hop.1 hop.2) (h.follows_registered hprimed) hops
    have hkeep : op ≠ .removeCallback s.nextCallback := by
      rintro rfl
      exact hupdates
    obtain ⟨changes, hstep⟩ :=
      hfollows.wellNumbered.step_spec (P := P) hpre hfollows.registered hkeep
    rw [← hstep.updated hupdates]
    exact (hfollows.step hpre hkeep).received
  · intro cookie hsame
    have hstart : Ignores (s.matching P key) key s.nextCallback cookie (s.registered P key) := by
      refine ⟨h.step trivial, h.mem_callbacks_registered key, ?_, fun change hchange => ?_⟩
      · rw [(cached_registered key).2 hprimed]
      · rw [h.received_registered] at hchange
        cases hchange
    have hignores := (machine P).run_invariant
      (I := Ignores (s.matching P key) key s.nextCallback cookie)
      (fun _ _ h hop => h.step hop.1.1 hop.1.2 hop.2) hstart ((machine P).along_and hops hsame)
    exact hignores.received

/-! ### A registration that is not primed -/

/-- Reading cookies changes none. -/
theorem matching_step_of_updatesCache {key : CookieKey} {op : Op}
    (hupdates : s.UpdatesCache key op) : (s.step P op).matching P key = s.matching P key := by
  cases op with
  | onSystemCookiesChanged =>
    obtain ⟨hhooks, -⟩ :=
      foldl_updateHook (P := P) s.store.hookMap.elems ([], s.store)
    have hstore : (s.store.onSystemCookiesChanged P).2.systemStore = s.store.systemStore :=
      hhooks.systemStore
    have hpersistent : s.persistent = false := hupdates
    simp only [step, matching, hpersistent, Bool.false_eq_true, if_false, hstore]
  | gotCookieListFor key' => rfl
  | addCallbackForCookie | removeCallback | writeSystemStore | writeCookieMonster
  | updateCachesFromCookieMonster | flushStore => exact absurd hupdates id

/-- An update tells of every cookie that the cache did not have right. -/
theorem WellNumbered.exists_change (h : s.WellNumbered) {op : Op} (hpre : s.Pre op)
    {key : CookieKey} {callback : Nat} (hcallback : callback ∈ s.store.callbacks key)
    (hupdates : s.UpdatesCache key op) {cookie : CookieAndValue}
    (hwrong : ¬ (cookie ∈ s.cached key ↔ cookie ∈ s.matching P key)) :
    ∃ change ∈ (s.step P op).received callback, change.cookie.cookieAndValue = cookie := by
  have hkeep : op ≠ .removeCallback callback := by
    rintro rfl
    exact hupdates
  obtain ⟨changes, hstep⟩ := h.step_spec (P := P) hpre hcallback hkeep
  rw [← matching_step_of_updatesCache hupdates, ← hstep.updated hupdates] at hwrong
  obtain ⟨change, hchange, heq⟩ := (hstep.reports.mem_iff cookie).2 hwrong
  refine ⟨change, ?_, heq⟩
  rw [hstep.received]
  exact mem_append_right _ hchange

/-- Where a registration is not primed, the next update tells of a cookie that
did not change. -/
theorem WellNumbered.not_reportsExactly (h : s.WellNumbered) {key : CookieKey}
    (hprimed : ¬ s.Primed P key) : ¬ s.ReportsExactly P key := by
  intro hexactly
  rw [← cached_registered, Finset.ext_iff, not_forall] at hprimed
  obtain ⟨cookie, hwrong⟩ := hprimed
  rw [← matching_registered (P := P)] at hwrong
  have hwell : (s.registered P key).WellNumbered := h.step trivial
  have hcallback := h.mem_callbacks_registered (P := P) key
  cases hpersistent : s.persistent with
  | false =>
    -- one notification of the system store is enough
    have hupdates : (s.registered P key).UpdatesCache key .onSystemCookiesChanged := hpersistent
    obtain ⟨change, hchange, heq⟩ := hwell.exists_change (P := P)
      (show (s.registered P key).Pre .onSystemCookiesChanged from trivial) hcallback hupdates hwrong
    refine (hexactly [.onSystemCookiesChanged] ?_).2 cookie ?_ change hchange heq
    · exact ⟨⟨trivial, Op.noConfusion⟩, trivial⟩
    · have hsame := matching_step_of_updatesCache (P := P) hupdates
      rw [matching_registered] at hsame
      exact ⟨iff_of_eq (congrArg (cookie ∈ ·) hsame), trivial⟩
  | true =>
    -- the `CookieMonster` is asked first, and answers then
    have hread : key ∈ ((s.registered P key).step P .updateCachesFromCookieMonster).pendingReads :=
      mem_append_right _ (hwell.mem_hookMap hcallback)
    have hstep : ((s.registered P key).step P .updateCachesFromCookieMonster).WellNumbered :=
      hwell.step hpersistent
    have hpre : ((s.registered P key).step P .updateCachesFromCookieMonster).Pre
      (.gotCookieListFor key) := hread
    obtain ⟨change, hchange, heq⟩ := hstep.exists_change (P := P) hpre hcallback rfl hwrong
    refine (hexactly [.updateCachesFromCookieMonster, .gotCookieListFor key] ?_).2 cookie ?_ change
      hchange heq
    · exact ⟨⟨hpersistent, Op.noConfusion⟩, ⟨hread, Op.noConfusion⟩, trivial⟩
    · have hmatching := matching_registered (P := P) (s := s) key
      exact ⟨by rw [← hmatching]; rfl, by rw [← hmatching]; rfl, trivial⟩

/-- **Callbacks report exactly the later changes** if and only if they are
registered in a primed state, for every state of the two stores, whatever came
before the registration. -/
theorem callbacks_report_exactly_iff (P : CookiePlatform Options) (persistent : Bool)
    (systemStore : NSHTTPCookieStorage) (cookieAcceptPolicy : NSHTTPCookieAcceptPolicy)
    (manager : CookieCreationTimeManager) (cookieMonster : CookieMonster) (ops : List Op)
    (hops : (machine P).Legal
      (start persistent systemStore cookieAcceptPolicy manager cookieMonster) ops)
    (key : CookieKey) :
    let s := (machine P).run
      (start persistent systemStore cookieAcceptPolicy manager cookieMonster) ops
    s.ReportsExactly P key ↔ s.Primed P key := by
  intro s
  have hwell : s.WellNumbered :=
    (machine P).run_invariant (I := WellNumbered) (fun _ _ h hpre => h.step hpre)
      (wellNumbered_start persistent systemStore cookieAcceptPolicy manager cookieMonster) hops
  constructor
  · intro hexactly
    by_contra hprimed
    exact hwell.not_reportsExactly hprimed hexactly
  · exact hwell.reportsExactly

/-! ### A persistent store -/

/-- A cookie that a persistent store has in its `CookieMonster`. -/
def sessionCookie : CanonicalCookie where
  name := "session"
  value := "1"
  domain := "example.com"
  path := "/"
  creationDate := 13000000000000000
  expiryDate := 0
  lastAccessDate := 0
  secure := false
  httpOnly := false
  sameSite := .noRestriction
  priority := .medium

/-- A persistent store with that cookie; there is none in the system store. -/
def persistentStore : CookieStoreProcess :=
  start true .empty .always .new ⟨[sessionCookie], nodup_singleton _⟩

def sessionKey : CookieKey := (⟨"https://example.com/", true⟩, "session")

/-- A cookie that is there when a callback is registered, and stays, is reported as
inserted at the next update of the cache. -/
theorem existing_cookie_is_reported_as_inserted :
    let s := persistentStore.registered plainPlatform sessionKey
    let ops : List Op := [.updateCachesFromCookieMonster, .gotCookieListFor sessionKey]
    (machine plainPlatform).Legal s ops ∧
      sessionCookie.cookieAndValue ∈
        persistentStore.matching plainPlatform sessionKey ∧
      ((machine plainPlatform).run s ops).matching plainPlatform
          sessionKey =
        persistentStore.matching plainPlatform sessionKey ∧
      ((machine plainPlatform).run s ops).received persistentStore.nextCallback =
        [⟨sessionCookie, .inserted⟩] := by
  refine ⟨⟨rfl, ?_, trivial⟩, ?_, rfl, ?_⟩
  · exact mem_singleton.2 rfl
  · decide
  · decide

theorem callbacks_report_exactly_iff_persistentStore :
    let s := (machine plainPlatform).run persistentStore
      [.addCallbackForCookie sessionKey]
    s.ReportsExactly plainPlatform sessionKey ↔
      s.Primed plainPlatform sessionKey :=
  callbacks_report_exactly_iff plainPlatform true .empty .always .new
    ⟨[sessionCookie], nodup_singleton _⟩ [.addCallbackForCookie sessionKey]
    ⟨trivial, trivial⟩ sessionKey

end CookieStoreProcess

end ChromiumIos
