import Mathlib.Data.Finset.SDiff
import Mathlib.Data.Prod.Lex
import Mathlib.Data.String.Basic
import ChromiumIos.Lib.OrderedSet
import ChromiumIos.Net.SystemCookieUtil

/-!
# The cookie cache

`cookie_cache.cc`: for each URL and name, the set of the cookies last seen, and
the difference that a new list of cookies makes.

Two cookies of a set differ in domain, path or name; what is compared between two
sets is the value as well (`CookieAndValue`).

- `cached_update`: what is in the cache after an update.
- `removedCookies_update`, `addedCookies_update`: what an update reports.
- `update_difference`: the same for a list in which cookies agree.
-/

namespace ChromiumIos

open Lib CanonicalCookie OrderedSet

/-- `CookieCache::CookieKey`. -/
abbrev CookieKey := GURL × String

/-- Domain, path, name and value: what the cache compares. -/
abbrev CookieAndValue := CookieIdentity × String

namespace CanonicalCookie

def cookieAndValue (cookie : CanonicalCookie) : CookieAndValue := (cookie.identity, cookie.value)

/-- The order of a `CookieSet`. -/
def cookieOrder (cookie : CanonicalCookie) : String ×ₗ String ×ₗ String :=
  toLex (cookie.domain, toLex (cookie.path, cookie.name))

/-- The order in which two sets are compared. -/
def cookieAndValueOrder (cookie : CanonicalCookie) : (String ×ₗ String ×ₗ String) ×ₗ String :=
  toLex (cookie.cookieOrder, cookie.value)

theorem cookieOrder_eq_iff {a b : CanonicalCookie} :
    a.cookieOrder = b.cookieOrder ↔ a.identity = b.identity := by
  simp [cookieOrder, identity]

theorem cookieAndValueOrder_eq_iff {a b : CanonicalCookie} :
    a.cookieAndValueOrder = b.cookieAndValueOrder ↔ a.cookieAndValue = b.cookieAndValue := by
  simp [cookieAndValueOrder, cookieAndValue, cookieOrder_eq_iff]

end CanonicalCookie

/-! ## The cache -/

/-- `CookieCache::CookieSet`. -/
abbrev CookieSet := OrderedSet cookieOrder

/-- What the cache compares of the cookies of a list. -/
def cookiesAndValues (cookies : List CanonicalCookie) : Finset CookieAndValue :=
  (cookies.map (·.cookieAndValue)).toFinset

theorem mem_cookiesAndValues {cookies : List CanonicalCookie} {c : CookieAndValue} :
    c ∈ cookiesAndValues cookies ↔ ∃ cookie ∈ cookies, cookie.cookieAndValue = c := by
  rw [cookiesAndValues, List.mem_toFinset, List.mem_map]

/-- Cookies in the order of a set are in the order of a comparison of sets. -/
theorem CookieSet.pairwise_cookieAndValueOrder (set : CookieSet) :
    set.elems.Pairwise fun a b => a.cookieAndValueOrder < b.cookieAndValueOrder := by
  refine set.sorted.imp fun {a b} hlt => ?_
  rw [cookieAndValueOrder, cookieAndValueOrder,
    Prod.Lex.toLex_lt_toLex]
  exact .inl hlt

/-- No cookie of a set is reported twice. -/
theorem CookieSet.nodup_cookieAndValue (set : CookieSet) :
    (set.elems.map (·.cookieAndValue)).Nodup := by
  refine List.pairwise_map.2 (set.pairwise_cookieAndValueOrder.imp fun hlt heq => hlt.ne ?_)
  exact cookieAndValueOrder_eq_iff.2 heq

/-- The cookies of `set` that `other` does not have with that value, gathered in
a set again. -/
def CookieSet.changes (set other : CookieSet) : CookieSet :=
  .ofList _ (setDifference cookieAndValueOrder set.elems other.elems)

theorem CookieSet.cookiesAndValues_changes (set other : CookieSet) :
    cookiesAndValues (set.changes other).elems =
      cookiesAndValues set.elems \ cookiesAndValues other.elems := by
  have hdistinct : (setDifference cookieAndValueOrder set.elems
      other.elems).Pairwise fun a b => a.cookieOrder ≠ b.cookieOrder :=
    (set.sorted.imp fun hlt => hlt.ne).sublist (setDifference_sublist _ _ _)
  have hmem : ∀ cookie, cookie ∈ (set.changes other).elems ↔ cookie ∈ set.elems ∧
      ∀ b ∈ other.elems, b.cookieAndValue ≠ cookie.cookieAndValue := by
    intro cookie
    rw [← mem_def, changes, mem_ofList hdistinct,
      mem_setDifference set.pairwise_cookieAndValueOrder other.pairwise_cookieAndValueOrder]
    simp only [ne_eq, cookieAndValueOrder_eq_iff]
  ext c
  rw [Finset.mem_sdiff, mem_cookiesAndValues, mem_cookiesAndValues, mem_cookiesAndValues]
  constructor
  · rintro ⟨cookie, hcookie, rfl⟩
    obtain ⟨hset, hother⟩ := (hmem cookie).1 hcookie
    exact ⟨⟨cookie, hset, rfl⟩, fun ⟨b, hb, heq⟩ => hother b hb heq⟩
  · rintro ⟨⟨cookie, hset, rfl⟩, hother⟩
    exact ⟨cookie, (hmem cookie).2 ⟨hset, fun b hb heq => hother ⟨b, hb, heq⟩⟩, rfl⟩

/-- `CookieCache`: the set under each key, empty where none was stored. -/
abbrev CookieCache := CookieKey → CookieSet

/-- What `CookieCache::Update` returns and writes. -/
structure CookieCacheUpdate where
  changed : Bool
  removedCookies : List CanonicalCookie
  addedCookies : List CanonicalCookie
  cache : CookieCache

namespace CookieCache

def new : CookieCache := fun _ => .empty

/-- The cookies under a key, as the cache compares them. -/
def cached (cache : CookieCache) (key : CookieKey) : Finset CookieAndValue :=
  cookiesAndValues (cache key).elems

/-- `Update`. -/
def update (cache : CookieCache) (key : CookieKey) (newCookies : List CanonicalCookie) :
    CookieCacheUpdate :=
  let oldSet := cache key
  let newSet : CookieSet := .ofList _ newCookies
  let addedCookies := newSet.changes oldSet
  let removedCookies := oldSet.changes newSet
  if addedCookies.elems = [] ∧ removedCookies.elems = [] then
    { changed := false, removedCookies := [], addedCookies := [], cache := cache }
  else
    { changed := true
      removedCookies := removedCookies.elems
      addedCookies := addedCookies.elems
      cache := Function.update cache key newSet }

variable {cache : CookieCache} {key : CookieKey} {newCookies : List CanonicalCookie}

theorem cached_congr {cache cache' : CookieCache} {key : CookieKey}
    (h : cache key = cache' key) : cache.cached key = cache'.cached key := by
  rw [cached, cached, h]

theorem update_other {other : CookieKey} (h : other ≠ key) :
    (cache.update key newCookies).cache other = cache other := by
  rw [update]
  split
  · rfl
  · exact Function.update_of_ne h _ _

theorem cookiesAndValues_eq_empty {cookies : List CanonicalCookie} :
    cookiesAndValues cookies = ∅ ↔ cookies = [] := by
  rw [cookiesAndValues, List.toFinset_eq_empty_iff, List.map_eq_nil_iff]

theorem cookiesAndValues_ofList (h : (newCookies.map (·.identity)).Nodup) :
    cookiesAndValues (ofList cookieOrder newCookies).elems =
      cookiesAndValues newCookies := by
  have hdistinct : newCookies.Pairwise fun a b => a.cookieOrder ≠ b.cookieOrder := by
    refine (List.pairwise_map.1 h).imp fun hne heq => hne ?_
    exact cookieOrder_eq_iff.1 heq
  ext c
  simp only [mem_cookiesAndValues, ← mem_def, mem_ofList hdistinct]

/-- Of cookies that agree in domain, path and name, the first one is kept. -/
theorem cookiesAndValues_ofList_eq :
    cookiesAndValues (ofList cookieOrder newCookies).elems =
      cookiesAndValues (firsts cookieOrder newCookies) := by
  ext c
  simp only [mem_cookiesAndValues, ← mem_def, mem_ofList_iff]

/-- After an update the cache has the new set. -/
theorem cached_update_eq :
    cached (cache.update key newCookies).cache key =
      cookiesAndValues (ofList cookieOrder newCookies).elems := by
  rw [update]
  split
  · next hsame =>
    obtain ⟨hadded, hremoved⟩ := hsame
    -- without a difference either way, the old set will do
    refine Finset.Subset.antisymm ?_ ?_
    · rw [← Finset.sdiff_eq_empty_iff_subset, cached, ← CookieSet.cookiesAndValues_changes,
        cookiesAndValues_eq_empty]
      exact hremoved
    · rw [← Finset.sdiff_eq_empty_iff_subset, cached, ← CookieSet.cookiesAndValues_changes,
        cookiesAndValues_eq_empty]
      exact hadded
  · simp only [cached, Function.update_self]

theorem removedCookies_update_eq :
    cookiesAndValues (cache.update key newCookies).removedCookies = cache.cached key \
      cookiesAndValues (ofList cookieOrder newCookies).elems := by
  rw [cached, ← CookieSet.cookiesAndValues_changes, update]
  split
  · next hsame => rw [hsame.2]
  · rfl

theorem addedCookies_update_eq :
    cookiesAndValues (cache.update key newCookies).addedCookies =
      cookiesAndValues (ofList cookieOrder newCookies).elems \
        cache.cached key := by
  rw [cached, ← CookieSet.cookiesAndValues_changes, update]
  split
  · next hsame => rw [hsame.1]
  · rfl

/-- After an update the cache has the new cookies. -/
theorem cached_update (h : (newCookies.map (·.identity)).Nodup) :
    cached (cache.update key newCookies).cache key = cookiesAndValues newCookies := by
  rw [cached_update_eq, cookiesAndValues_ofList h]

/-- What is reported as removed. -/
theorem removedCookies_update (h : (newCookies.map (·.identity)).Nodup) :
    cookiesAndValues (cache.update key newCookies).removedCookies =
      cache.cached key \ cookiesAndValues newCookies := by
  rw [removedCookies_update_eq, cookiesAndValues_ofList h]

/-- What is reported as added. -/
theorem addedCookies_update (h : (newCookies.map (·.identity)).Nodup) :
    cookiesAndValues (cache.update key newCookies).addedCookies =
      cookiesAndValues newCookies \ cache.cached key := by
  rw [addedCookies_update_eq, cookiesAndValues_ofList h]

theorem update_of_not_changed (h : (cache.update key newCookies).changed = false) :
    (cache.update key newCookies).removedCookies = [] ∧
      (cache.update key newCookies).addedCookies = [] := by
  rw [update] at h ⊢
  split
  · exact ⟨rfl, rfl⟩
  · next hdiffer =>
    rw [if_neg hdiffer] at h
    cases h

theorem nodup_update :
    ((cache.update key newCookies).removedCookies.map (·.cookieAndValue)).Nodup ∧
      ((cache.update key newCookies).addedCookies.map (·.cookieAndValue)).Nodup := by
  rw [update]
  split
  · exact ⟨List.nodup_nil, List.nodup_nil⟩
  · exact ⟨CookieSet.nodup_cookieAndValue _, CookieSet.nodup_cookieAndValue _⟩

theorem changed_update_iff :
    (cache.update key newCookies).changed = true ↔
      (cache.update key newCookies).removedCookies ≠ [] ∨
        (cache.update key newCookies).addedCookies ≠ [] := by
  rw [update]
  split
  · simp
  · next hdiffer =>
    refine ⟨fun _ => ?_, fun _ => rfl⟩
    by_contra hnone
    push Not at hnone
    exact hdiffer ⟨hnone.2, hnone.1⟩

/-- **Difference law**: an update reports the differences between the old set
and the new one, which has the first cookie of each domain, path and name, and
tells whether there are any. Afterwards the cache has the new set under the key;
when there is no difference it is what it was. -/
theorem update_difference (cache : CookieCache) (key : CookieKey)
    (newCookies : List CanonicalCookie) :
    let updated := cache.update key newCookies
    let oldSet := cache.cached key
    let newSet := cookiesAndValues (firsts cookieOrder newCookies)
    let removed := cookiesAndValues updated.removedCookies
    let added := cookiesAndValues updated.addedCookies
    (updated.changed = true ↔ oldSet ≠ newSet) ∧
      (removed = oldSet \ newSet ∧ (updated.removedCookies.map (·.cookieAndValue)).Nodup) ∧
      (added = newSet \ oldSet ∧ (updated.addedCookies.map (·.cookieAndValue)).Nodup) ∧
      ((oldSet \ removed) ∪ added = cached updated.cache key ∧ cached updated.cache key = newSet) ∧
      (∀ other, other ≠ key → updated.cache other = cache other) ∧
      (updated.changed = false → updated.cache = cache) := by
  intro updated oldSet newSet removed added
  have hnewSet : newSet =
      cookiesAndValues (ofList cookieOrder newCookies).elems :=
    cookiesAndValues_ofList_eq.symm
  have hremoved : removed = oldSet \ newSet := by
    rw [hnewSet]
    exact removedCookies_update_eq
  have hadded : added = newSet \ oldSet := by
    rw [hnewSet]
    exact addedCookies_update_eq
  have hcached : cached updated.cache key = newSet := by
    rw [hnewSet]
    exact cached_update_eq
  refine ⟨?_, ⟨hremoved, nodup_update.1⟩, ⟨hadded, nodup_update.2⟩, ⟨?_, hcached⟩,
    fun other hother => update_other hother, fun hsame => ?_⟩
  · rw [changed_update_iff, Ne, Ne, ← cookiesAndValues_eq_empty, ← cookiesAndValues_eq_empty]
    show ¬ removed = ∅ ∨ ¬ added = ∅ ↔ _
    rw [hremoved, hadded, Finset.sdiff_eq_empty_iff_subset, Finset.sdiff_eq_empty_iff_subset,
      ← not_and_or, ← Finset.Subset.antisymm_iff]
  · rw [hcached, hremoved, hadded]
    ext c
    by_cases hold : c ∈ oldSet <;> by_cases hnew : c ∈ newSet <;> simp [hold, hnew]
  · show (cache.update key newCookies).cache = cache
    have hsame' : (cache.update key newCookies).changed = false := hsame
    rw [update] at hsame' ⊢
    split
    · rfl
    · next hdiffer =>
      rw [if_neg hdiffer] at hsame'
      cases hsame'

end CookieCache

end ChromiumIos
