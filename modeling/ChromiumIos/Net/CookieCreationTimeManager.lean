import Mathlib.Order.Bounds.Basic
import ChromiumIos.Lib.Keyed
import ChromiumIos.Lib.Machine
import ChromiumIos.Lib.OrderedSet
import ChromiumIos.Net.SystemCookieUtil

/-!
# Creation times of cookies

`cookie_creation_time_manager.mm`: the creation time of each cookie, under a text
that identifies it, with the set of the times in use. A cookie without a time
gets one when it is asked for.

- `Valid`: the set is the set of values of the map, and no two cookies share a
  time.
- `makeUniqueCreationTime_isLeast_iff`: the first time from a given one on that is
  not in use, if there is one. Behind the last time the search wraps around.
- `HasRoom`: the times of some cookies can be read in any order.
- `creation_times_unique`: both after every run that does not exhaust the times, with
  the `DCHECK`s of every further operation.
-/

namespace ChromiumIos

open Lib

/-- `GetCreationTimeFromObject`; `fromCFAbsoluteTime` is the conversion of
`base::Time`. A date of 1.0 or less stands for a missing one. -/
def getCreationTimeFromObject (fromCFAbsoluteTime : CFAbsoluteTime → Time)
    (cookie : NSHTTPCookie) : Time :=
  match cookie.created with
  | none => 0
  | some absoluteTime => if absoluteTime < 2 then 0 else fromCFAbsoluteTime absoluteTime

/-- The text of `GetCookieUniqueID`. -/
def uniqueIDOf (name domain path : String) : String := name ++ ";" ++ domain ++ ";" ++ path

/-- `GetCookieUniqueID`. -/
def getCookieUniqueID (cookie : NSHTTPCookie) : String :=
  uniqueIDOf cookie.name cookie.domain cookie.path

/-- A cookie made from properties, which gets the date 1.0. -/
def cookieWithProperties (name value : String) : NSHTTPCookie where
  name := name
  value := value
  domain := "example.com"
  path := "/"
  created := some 1
  expiresDate := none
  isSecure := false
  isHTTPOnly := false
  isSessionOnly := true

structure CookieCreationTimeManager where
  creationTimes : Keyed String Time
  uniqueTimes : OrderedSet (fun time : Time => time)

namespace CookieCreationTimeManager

def new : CookieCreationTimeManager := ⟨.empty, .empty⟩

variable (m : CookieCreationTimeManager)

/-- `SetCreationTime`. -/
def setCreationTime (cookie : NSHTTPCookie) (creationTime : Time) : CookieCreationTimeManager :=
  -- a cookie that is overridden gives its time back
  let uniqueTimes := match m.creationTimes.get? (getCookieUniqueID cookie) with
    | some time => m.uniqueTimes.erase time
    | none => m.uniqueTimes
  { uniqueTimes := uniqueTimes.insert creationTime
    creationTimes := m.creationTimes.set (getCookieUniqueID cookie) creationTime }

/-- The time that the loop of `MakeUniqueCreationTime` goes on with. One is added to the
`int64_t` inside. -/
def nextTime (time : Time) : Time := .fromInternalValue (time.1 + 1)

/-- The loop of `MakeUniqueCreationTime`, on the times from the iterator on. -/
def nextAvailable : (it : List Time) → (time : Time) → Time
  | _ :: next :: it, time =>
    if next = nextTime time then nextAvailable (next :: it) (nextTime time) else nextTime time
  | _, time => nextTime time

/-- `MakeUniqueCreationTime`. -/
def makeUniqueCreationTime (creationTime : Time) : Time :=
  match m.uniqueTimes.find creationTime with
  | [] => creationTime
  | it => nextAvailable it creationTime

/-- `GetCreationTime`. -/
def getCreationTime (fromCFAbsoluteTime : CFAbsoluteTime → Time) (m : CookieCreationTimeManager)
    (cookie : NSHTTPCookie) : Time × CookieCreationTimeManager :=
  match m.creationTimes.get? (getCookieUniqueID cookie) with
  | some time => (time, m)
  | none =>
    let nativeCreationTime :=
      m.makeUniqueCreationTime (getCreationTimeFromObject fromCFAbsoluteTime cookie)
    (nativeCreationTime, m.setCreationTime cookie nativeCreationTime)

/-- `DeleteCreationTime`. -/
def deleteCreationTime (cookie : NSHTTPCookie) : CookieCreationTimeManager :=
  match m.creationTimes.get? (getCookieUniqueID cookie) with
  | some time =>
    { uniqueTimes := m.uniqueTimes.erase time
      creationTimes := m.creationTimes.erase (getCookieUniqueID cookie) }
  | none => m

/-- `Clear`. -/
def clear (_ : CookieCreationTimeManager) : CookieCreationTimeManager := new

/-! ## The `DCHECK`s -/

/-- The former time of a cookie is in use once. -/
def ErasesOne (cookie : NSHTTPCookie) : Prop :=
  ∀ time ∈ m.creationTimes.get? (getCookieUniqueID cookie), m.uniqueTimes.erased time = 1

/-- The checks of `SetCreationTime`. -/
structure SetChecks (cookie : NSHTTPCookie) (creationTime : Time) : Prop where
  unused : m.uniqueTimes.find creationTime = []
  erasesOne : m.ErasesOne cookie

/-- The check at the head of the loop of `MakeUniqueCreationTime`: the iterator
stands on `time`. -/
def NextAvailableChecks : (it : List Time) → (time : Time) → Prop
  | [], _ => False
  | [current], time => time = current
  | current :: next :: it, time =>
    time = current ∧ (next = nextTime time → NextAvailableChecks (next :: it) (nextTime time))

/-- The checks of `MakeUniqueCreationTime`. -/
def MakeUniqueChecks (creationTime : Time) : Prop :=
  m.uniqueTimes.find creationTime ≠ [] →
    NextAvailableChecks (m.uniqueTimes.find creationTime) creationTime

/-! ## The invariant -/

/-- The map and the set mirror each other, and no two cookies share a time. -/
structure Valid : Prop where
  times : ∀ time, time ∈ m.uniqueTimes ↔ ∃ id, m.creationTimes.get? id = some time
  injective : ∀ id id' time, m.creationTimes.get? id = some time →
    m.creationTimes.get? id' = some time → id = id'

theorem valid_new : new.Valid where
  times time := by simp [new]
  injective id id' time h := by simp [new] at h

variable {m : CookieCreationTimeManager}

theorem find_eq_nil_iff {time : Time} : m.uniqueTimes.find time = [] ↔ time ∉ m.uniqueTimes := by
  rw [OrderedSet.find_eq_nil_iff]
  exact ⟨fun h hmem => h time hmem rfl, fun h a ha heq => h (heq ▸ ha)⟩

theorem Valid.erasesOne (h : m.Valid) (cookie : NSHTTPCookie) : m.ErasesOne cookie := by
  intro time htime
  exact OrderedSet.erased_eq_one ((h.times time).2 ⟨_, htime⟩)

/-- Inserting a time that is not in use. -/
theorem mem_insert_iff {s : OrderedSet (fun time : Time => time)} {time other : Time}
    (h : time ∉ s) :
    other ∈ s.insert time ↔ other ∈ s ∨ other = time := by
  rw [OrderedSet.mem_insert, and_iff_left]
  exact fun a ha heq => h (heq ▸ ha)

/-- The times in use without the one of a cookie. -/
theorem Valid.mem_erase (h : m.Valid) {id : String} {time : Time}
    (htime : m.creationTimes.get? id = some time) (other : Time) :
    other ∈ m.uniqueTimes.erase time ↔
      ∃ id', id' ≠ id ∧ m.creationTimes.get? id' = some other := by
  rw [OrderedSet.mem_erase, h.times]
  constructor
  · rintro ⟨⟨id', hid'⟩, hne⟩
    refine ⟨id', fun heq => hne ?_, hid'⟩
    rw [heq, htime] at hid'
    exact (Option.some.inj hid').symm
  · rintro ⟨id', hne, hid'⟩
    refine ⟨⟨id', hid'⟩, fun heq => hne ?_⟩
    exact h.injective id' id time (heq ▸ hid') htime

/-- A time that is not in use keeps the manager valid, whether or not the cookie
overrides another. -/
theorem Valid.setCreationTime (h : m.Valid) (cookie : NSHTTPCookie) {time : Time}
    (hfree : time ∉ m.uniqueTimes) : (m.setCreationTime cookie time).Valid := by
  have hfree' : ∀ id, m.creationTimes.get? id ≠ some time :=
    fun id hid => hfree ((h.times time).2 ⟨id, hid⟩)
  constructor
  · intro other
    -- what is in the set when the former time of the cookie is out of it
    have hothers : other ∈ (match m.creationTimes.get? (getCookieUniqueID cookie) with
        | some time => m.uniqueTimes.erase time
        | none => m.uniqueTimes) ↔
        ∃ id, id ≠ getCookieUniqueID cookie ∧ m.creationTimes.get? id = some other := by
      cases hold : m.creationTimes.get? (getCookieUniqueID cookie) with
      | some old => exact h.mem_erase hold other
      | none =>
        simp only
        rw [h.times]
        refine exists_congr fun id => (and_iff_right_of_imp fun hid heq => ?_).symm
        rw [heq, hold] at hid
        cases hid
    have hunused : time ∉ (match m.creationTimes.get? (getCookieUniqueID cookie) with
        | some time => m.uniqueTimes.erase time
        | none => m.uniqueTimes) := by
      split
      · exact fun hmem => hfree (OrderedSet.mem_erase.1 hmem).1
      · exact hfree
    rw [CookieCreationTimeManager.setCreationTime]
    simp only
    rw [mem_insert_iff hunused, hothers]
    constructor
    · rintro (⟨id, hne, hid⟩ | rfl)
      · exact ⟨id, by rw [Keyed.get?_set, if_neg hne, hid]⟩
      · exact ⟨getCookieUniqueID cookie, by rw [Keyed.get?_set, if_pos rfl]⟩
    · rintro ⟨id, hid⟩
      rw [Keyed.get?_set] at hid
      split at hid
      · exact .inr (Option.some.inj hid).symm
      · next hne => exact .inl ⟨id, hne, hid⟩
  -- a time that was free is the time of one cookie only
  · intro id id' other hid hid'
    rw [CookieCreationTimeManager.setCreationTime, Keyed.get?_set] at hid hid'
    split at hid
    · next heq =>
      split at hid'
      · next heq' => rw [heq, heq']
      · exact absurd (hid'.trans hid.symm) (hfree' id')
    · split at hid'
      · exact absurd (hid.trans hid'.symm) (hfree' id)
      · exact h.injective id id' other hid hid'

theorem Valid.deleteCreationTime (h : m.Valid) (cookie : NSHTTPCookie) :
    (m.deleteCreationTime cookie).Valid := by
  rw [CookieCreationTimeManager.deleteCreationTime]
  cases hold : m.creationTimes.get? (getCookieUniqueID cookie) with
  | none => exact h
  | some time =>
    constructor
    · intro other
      simp only
      rw [h.mem_erase hold]
      refine exists_congr fun id => ?_
      rw [Keyed.get?_erase]
      split
      · next heq => simp [heq]
      · next hne => simp [hne]
    · intro id id' other hid hid'
      simp only [Keyed.get?_erase] at hid hid'
      split at hid
      · cases hid
      · split at hid'
        · cases hid'
        · exact h.injective id id' other hid hid'

/-! ## The first time that is not in use -/

theorem nextTime_of_lt {time u : Time} (h : time < u) : (nextTime time).1 = time.1 + 1 := by
  have hlt : time.1 < u.1 := h
  have := time.2
  have := u.2
  exact Time.fromInternalValue_of_lt (by omega) (by omega)

theorem lt_nextTime {time u : Time} (h : time < u) : time < nextTime time := by
  rw [← Subtype.coe_lt_coe, nextTime_of_lt h]
  omega

theorem nextTime_le {time u v : Time} (h : time < u) (h' : time < v) : nextTime time ≤ v := by
  rw [← Subtype.coe_le_coe, nextTime_of_lt h]
  exact h'

/-- Where the loop ends when it finds a time: it skips the times in use without a gap. -/
theorem nextAvailable_isLeast {it : List Time} {time : Time}
    (hit : (time :: it).Pairwise (· < ·)) (hfree : ∃ u, time < u ∧ u ∉ it) :
    IsLeast {u | time < u ∧ u ∉ it} (nextAvailable (time :: it) time) := by
  obtain ⟨u, hu, hunused⟩ := hfree
  induction it generalizing time with
  | nil => exact ⟨⟨lt_nextTime hu, List.not_mem_nil⟩, fun v hv => nextTime_le hu hv.1⟩
  | cons next it ih =>
    obtain ⟨hlt, hit'⟩ := List.pairwise_cons.1 hit
    have hnext := hlt next List.mem_cons_self
    rw [List.mem_cons, not_or] at hunused
    rw [nextAvailable]
    split
    · next heq =>
      have hle : ∀ v, time < v → v ≠ next → next < v := fun v hv hne =>
        lt_of_le_of_ne (heq ▸ nextTime_le hu hv) (Ne.symm hne)
      obtain ⟨⟨hgt, hnotMem⟩, hleast⟩ := ih hit' (hle u hu hunused.1) hunused.2
      rw [← heq]
      refine ⟨⟨hnext.trans hgt, ?_⟩, fun v hv => ?_⟩
      · rw [List.mem_cons, not_or]
        exact ⟨hgt.ne', hnotMem⟩
      · have hv' := not_or.1 (mt List.mem_cons.2 hv.2)
        exact hleast ⟨hle v hv.1 hv'.1, hv'.2⟩
    · next hne =>
      have hgap : nextTime time < next := lt_of_le_of_ne (nextTime_le hu hnext) (Ne.symm hne)
      refine ⟨⟨lt_nextTime hu, fun hmem => ?_⟩, fun v hv => nextTime_le hu hv.1⟩
      -- the times behind the gap are larger
      rcases List.mem_cons.1 hmem with heq | hmem
      · exact hgap.ne heq
      · exact (hgap.trans ((List.pairwise_cons.1 hit').1 _ hmem)).ne rfl

theorem nextAvailable_checks {it : List Time} {time : Time} :
    NextAvailableChecks (time :: it) time := by
  induction it generalizing time with
  | nil => exact rfl
  | cons next it ih =>
    refine ⟨rfl, fun heq => ?_⟩
    rw [heq]
    exact ih

theorem makeUniqueChecks (m : CookieCreationTimeManager) (time : Time) :
    m.MakeUniqueChecks time := by
  intro hne
  cases hfind : m.uniqueTimes.find time with
  | nil => exact absurd hfind hne
  | cons current it =>
    obtain ⟨rfl, -, -⟩ := OrderedSet.find_eq_cons hfind
    exact nextAvailable_checks

/-- A time from a given one on is free. -/
def HasLater (m : CookieCreationTimeManager) (time : Time) : Prop :=
  ∃ u, time ≤ u ∧ u ∉ m.uniqueTimes

/-- `MakeUniqueCreationTime` gives the least time from a given one on that is not
in use, if there is one. -/
theorem makeUniqueCreationTime_isLeast_iff (m : CookieCreationTimeManager) (time : Time) :
    IsLeast {u | time ≤ u ∧ u ∉ m.uniqueTimes} (m.makeUniqueCreationTime time) ↔
      m.HasLater time := by
  refine ⟨fun h => ⟨_, h.1⟩, ?_⟩
  rintro ⟨u, hle, hunused⟩
  rw [makeUniqueCreationTime]
  cases hfind : m.uniqueTimes.find time with
  | nil => exact ⟨⟨le_refl _, find_eq_nil_iff.1 hfind⟩, fun u hu => hu.1⟩
  | cons current it =>
    obtain ⟨rfl, hsorted, hmem⟩ := OrderedSet.find_eq_cons hfind
    have hcurrent : current ∈ m.uniqueTimes := by
      by_contra h
      rw [find_eq_nil_iff.2 h] at hfind
      cases hfind
    have hlater : ∀ v, current ≤ v → v ∉ m.uniqueTimes → current < v ∧ v ∉ it :=
      fun v hv hnot => ⟨lt_of_le_of_ne hv fun heq => hnot (heq ▸ hcurrent),
        fun hin => hnot ((hmem v).1 hin).1⟩
    obtain ⟨⟨hgt, hnotMem⟩, hleast⟩ := nextAvailable_isLeast hsorted ⟨u, hlater u hle hunused⟩
    exact ⟨⟨hgt.le, fun h => hnotMem ((hmem _).2 ⟨h, hgt⟩)⟩,
      fun v hv => hleast (hlater v hv.1 hv.2)⟩

theorem HasLater.notMem {time : Time} (h : m.HasLater time) :
    m.makeUniqueCreationTime time ∉ m.uniqueTimes :=
  ((m.makeUniqueCreationTime_isLeast_iff time).2 h).1.2

theorem HasLater.le {time : Time} (h : m.HasLater time) : time ≤ m.makeUniqueCreationTime time :=
  ((m.makeUniqueCreationTime_isLeast_iff time).2 h).1.1

/-! ## Reading a time -/

/-- Reading the time of a cookie records that time and changes no other. -/
theorem get?_getCreationTime (m : CookieCreationTimeManager)
    (fromCFAbsoluteTime : CFAbsoluteTime → Time) (cookie : NSHTTPCookie) (id : String) :
    (m.getCreationTime fromCFAbsoluteTime cookie).2.creationTimes.get? id =
      if id = getCookieUniqueID cookie then some (m.getCreationTime fromCFAbsoluteTime cookie).1
      else m.creationTimes.get? id := by
  rw [CookieCreationTimeManager.getCreationTime]
  cases hold : m.creationTimes.get? (getCookieUniqueID cookie) with
  | some time =>
    simp only
    split
    · next heq => rw [heq, hold]
    · rfl
  | none => exact Keyed.get?_set _ _ _ _

/-- Whether a cookie has no time on record. -/
def unrecorded (m : CookieCreationTimeManager) (cookie : NSHTTPCookie) : Bool :=
  (m.creationTimes.get? (getCookieUniqueID cookie)).isNone

theorem unrecorded_getCreationTime {fromCFAbsoluteTime : CFAbsoluteTime → Time}
    {cookie other : NSHTTPCookie} :
    (m.getCreationTime fromCFAbsoluteTime cookie).2.unrecorded other = true ↔
      getCookieUniqueID other ≠ getCookieUniqueID cookie ∧ m.unrecorded other = true := by
  rw [unrecorded, get?_getCreationTime]
  split
  · next heq => simp [heq]
  · next hne => simp [hne, unrecorded]

/-- A cookie that has no time gets one from the null time on. -/
theorem nonneg_getCreationTime {fromCFAbsoluteTime : CFAbsoluteTime → Time}
    (hpos : ∀ absoluteTime, 2 ≤ absoluteTime → 0 < fromCFAbsoluteTime absoluteTime)
    {cookie : NSHTTPCookie} (hnone : m.unrecorded cookie = true)
    (hlater : m.HasLater (getCreationTimeFromObject fromCFAbsoluteTime cookie)) :
    0 ≤ (m.getCreationTime fromCFAbsoluteTime cookie).1 := by
  have hnative : 0 ≤ getCreationTimeFromObject fromCFAbsoluteTime cookie := by
    rw [getCreationTimeFromObject]
    split
    · exact le_refl 0
    · next absoluteTime _ =>
      split
      · exact le_refl 0
      · next hge => exact (hpos absoluteTime (Rat.not_lt.1 hge)).le
  rw [CookieCreationTimeManager.getCreationTime, Option.isNone_iff_eq_none.1 hnone]
  exact hnative.trans hlater.le

/-- The times on record stay on record. -/
def Extends (m m' : CookieCreationTimeManager) : Prop :=
  ∀ id time, m.creationTimes.get? id = some time → m'.creationTimes.get? id = some time

theorem Extends.refl (m : CookieCreationTimeManager) : m.Extends m := fun _ _ h => h

theorem Extends.trans {m m' m'' : CookieCreationTimeManager} (h : m.Extends m')
    (h' : m'.Extends m'') : m.Extends m'' := fun id time hid => h' id time (h id time hid)

theorem extends_getCreationTime (m : CookieCreationTimeManager)
    (fromCFAbsoluteTime : CFAbsoluteTime → Time) (cookie : NSHTTPCookie) :
    m.Extends (m.getCreationTime fromCFAbsoluteTime cookie).2 := by
  intro id time hid
  rw [get?_getCreationTime]
  split
  · next heq =>
    subst heq
    rw [CookieCreationTimeManager.getCreationTime, hid]
  · exact hid

theorem Valid.getCreationTime (h : m.Valid) {fromCFAbsoluteTime : CFAbsoluteTime → Time}
    {cookie : NSHTTPCookie} (hlater : m.unrecorded cookie = true →
      m.HasLater (getCreationTimeFromObject fromCFAbsoluteTime cookie)) :
    (m.getCreationTime fromCFAbsoluteTime cookie).2.Valid := by
  rw [CookieCreationTimeManager.getCreationTime]
  split
  · exact h
  · next hnone => exact h.setCreationTime cookie (hlater (Option.isNone_iff_eq_none.2 hnone)).notMem

/-! ## Room for times -/

section Room

variable {fromCFAbsoluteTime : CFAbsoluteTime → Time} {cookies : List NSHTTPCookie}
  {cookie : NSHTTPCookie}

/-- From the date of each of the cookies on there are free times for all of them that have none. -/
def HasRoom (fromCFAbsoluteTime : CFAbsoluteTime → Time) (m : CookieCreationTimeManager)
    (cookies : List NSHTTPCookie) : Prop :=
  ∀ cookie ∈ cookies, m.unrecorded cookie = true → ∃ free : List Time, free.Nodup ∧
    (∀ u ∈ free, getCreationTimeFromObject fromCFAbsoluteTime cookie ≤ u ∧ u ∉ m.uniqueTimes) ∧
    (cookies.filter m.unrecorded).length ≤ free.length

theorem HasRoom.hasLater (h : HasRoom fromCFAbsoluteTime m cookies) (hmem : cookie ∈ cookies)
    (hnone : m.unrecorded cookie = true) :
    m.HasLater (getCreationTimeFromObject fromCFAbsoluteTime cookie) := by
  obtain ⟨free, -, hfree, hlength⟩ := h cookie hmem hnone
  have hpos := List.length_pos_of_mem (List.mem_filter.2 ⟨hmem, hnone⟩)
  obtain ⟨u, hu⟩ := List.exists_mem_of_length_pos (Nat.lt_of_lt_of_le hpos hlength)
  exact ⟨u, hfree u hu⟩

/-- A valid manager with room for some cookies. -/
structure Ready (fromCFAbsoluteTime : CFAbsoluteTime → Time) (cookies : List NSHTTPCookie)
    (m : CookieCreationTimeManager) : Prop where
  valid : m.Valid
  room : HasRoom fromCFAbsoluteTime m cookies

/-- A time that is read is not free any more, and its cookie needs none. -/
theorem HasRoom.getCreationTime (h : HasRoom fromCFAbsoluteTime m cookies)
    (hmem : cookie ∈ cookies) :
    HasRoom fromCFAbsoluteTime (m.getCreationTime fromCFAbsoluteTime cookie).2 cookies := by
  cases hold : m.creationTimes.get? (getCookieUniqueID cookie) with
  | some time =>
    rw [CookieCreationTimeManager.getCreationTime, hold]
    exact h
  | none =>
    have hnone : m.unrecorded cookie = true := Option.isNone_iff_eq_none.2 hold
    let time := m.makeUniqueCreationTime (getCreationTimeFromObject fromCFAbsoluteTime cookie)
    have htimes : (m.getCreationTime fromCFAbsoluteTime cookie).2.uniqueTimes =
        m.uniqueTimes.insert time := by
      simp only [CookieCreationTimeManager.getCreationTime, hold,
        CookieCreationTimeManager.setCreationTime]
      rfl
    intro other hother hother'
    obtain ⟨free, hnodup, hfree, hlength⟩ :=
      h other hother (unrecorded_getCreationTime.1 hother').2
    refine ⟨free.erase time, hnodup.erase time, fun u hu => ?_, ?_⟩
    · obtain ⟨hne, hu⟩ := hnodup.mem_erase_iff.1 hu
      rw [htimes, mem_insert_iff (h.hasLater hmem hnone).notMem, not_or]
      exact ⟨(hfree u hu).1, (hfree u hu).2, hne⟩
    · have hsub : cookies.filter (m.getCreationTime fromCFAbsoluteTime cookie).2.unrecorded =
          (cookies.filter m.unrecorded).filter
            (m.getCreationTime fromCFAbsoluteTime cookie).2.unrecorded := by
        rw [List.filter_filter]
        refine List.filter_congr fun other _ => (Bool.and_eq_left_iff_imp.2 ?_).symm
        exact fun hother => (unrecorded_getCreationTime.1 hother).2
      have hlt : ((cookies.filter m.unrecorded).filter
          (m.getCreationTime fromCFAbsoluteTime cookie).2.unrecorded).length <
            (cookies.filter m.unrecorded).length :=
        List.length_filter_lt_length_iff_exists.2 ⟨cookie, List.mem_filter.2 ⟨hmem, hnone⟩,
          fun hstill => (unrecorded_getCreationTime.1 hstill).1 rfl⟩
      rw [← hsub] at hlt
      have := List.le_length_erase (a := time) (l := free)
      omega

theorem Ready.getCreationTime (h : Ready fromCFAbsoluteTime cookies m) (hmem : cookie ∈ cookies) :
    Ready fromCFAbsoluteTime cookies (m.getCreationTime fromCFAbsoluteTime cookie).2 :=
  ⟨h.valid.getCreationTime (h.room.hasLater hmem), h.room.getCreationTime hmem⟩

end Room

/-! ## Runs -/

/-- One call of the manager. -/
inductive Op
  | setCreationTime (cookie : NSHTTPCookie) (time : Time)
  | getCreationTime (cookie : NSHTTPCookie)
  | deleteCreationTime (cookie : NSHTTPCookie)
  | clear

/-- The effect of a call; a time that is set is made unique first. -/
def apply (fromCFAbsoluteTime : CFAbsoluteTime → Time) (m : CookieCreationTimeManager) :
    Op → CookieCreationTimeManager
  | .setCreationTime cookie time => m.setCreationTime cookie (m.makeUniqueCreationTime time)
  | .getCreationTime cookie => (m.getCreationTime fromCFAbsoluteTime cookie).2
  | .deleteCreationTime cookie => m.deleteCreationTime cookie
  | .clear => m.clear

/-- The `DCHECK`s a call passes. -/
def Checks (fromCFAbsoluteTime : CFAbsoluteTime → Time) (m : CookieCreationTimeManager) :
    Op → Prop
  | .setCreationTime cookie time =>
    m.MakeUniqueChecks time ∧ m.SetChecks cookie (m.makeUniqueCreationTime time)
  | .getCreationTime cookie =>
    m.unrecorded cookie = true →
      let native := getCreationTimeFromObject fromCFAbsoluteTime cookie
      m.MakeUniqueChecks native ∧ m.SetChecks cookie (m.makeUniqueCreationTime native)
  | .deleteCreationTime cookie => m.ErasesOne cookie
  | .clear => True

/-- A manager under calls, none of which has a precondition. -/
def machine (fromCFAbsoluteTime : CFAbsoluteTime → Time) :
    Machine CookieCreationTimeManager Op where
  Pre _ _ := True
  step := apply fromCFAbsoluteTime

/-- The times are not exhausted: a call that makes a time unique has a free one to find. -/
def FindsTime (fromCFAbsoluteTime : CFAbsoluteTime → Time) (m : CookieCreationTimeManager) :
    Op → Prop
  | .setCreationTime _ time => m.HasLater time
  | .getCreationTime cookie =>
    m.unrecorded cookie = true → m.HasLater (getCreationTimeFromObject fromCFAbsoluteTime cookie)
  | .deleteCreationTime _ | .clear => True

variable {fromCFAbsoluteTime : CFAbsoluteTime → Time}

theorem Valid.apply (h : m.Valid) {op : Op} (hop : m.FindsTime fromCFAbsoluteTime op) :
    (m.apply fromCFAbsoluteTime op).Valid := by
  cases op with
  | setCreationTime cookie time => exact h.setCreationTime cookie (HasLater.notMem hop)
  | getCreationTime cookie => exact h.getCreationTime hop
  | deleteCreationTime cookie => exact h.deleteCreationTime cookie
  | clear => exact valid_new

theorem Valid.setChecks (h : m.Valid) (cookie : NSHTTPCookie) {time : Time}
    (hlater : m.HasLater time) :
    m.MakeUniqueChecks time ∧ m.SetChecks cookie (m.makeUniqueCreationTime time) :=
  ⟨makeUniqueChecks m time, find_eq_nil_iff.2 hlater.notMem, h.erasesOne cookie⟩

theorem Valid.checks (h : m.Valid) {op : Op} (hop : m.FindsTime fromCFAbsoluteTime op) :
    m.Checks fromCFAbsoluteTime op := by
  cases op with
  | setCreationTime cookie time => exact h.setChecks cookie hop
  | getCreationTime cookie => exact fun hnone => h.setChecks cookie (hop hnone)
  | deleteCreationTime cookie => exact h.erasesOne cookie
  | clear => trivial

/-- A manager whose calls all found a time is valid. -/
theorem valid_run {ops : List Op}
    (hops : (machine fromCFAbsoluteTime).Along (FindsTime fromCFAbsoluteTime) new ops) :
    ((machine fromCFAbsoluteTime).run new ops).Valid :=
  Machine.run_invariant (fun _ _ h hop => h.apply hop) valid_new hops

/-- **Unique creation times**: after every run whose calls found a time, the map is
injective, the set is the set of its values, and every further call that finds a time
passes its checks; `MakeUniqueCreationTime` gives the least time that is not in use if
and only if there is one. -/
theorem creation_times_unique (ops : List Op)
    (hops : (machine fromCFAbsoluteTime).Along (FindsTime fromCFAbsoluteTime) new ops) :
    let m := (machine fromCFAbsoluteTime).run new ops
    (∀ id id' time, m.creationTimes.get? id = some time →
      m.creationTimes.get? id' = some time → id = id') ∧
    (∀ time, time ∈ m.uniqueTimes ↔ ∃ id, m.creationTimes.get? id = some time) ∧
    (∀ op, m.FindsTime fromCFAbsoluteTime op → m.Checks fromCFAbsoluteTime op) ∧
    ∀ time, IsLeast {u | time ≤ u ∧ u ∉ m.uniqueTimes} (m.makeUniqueCreationTime time) ↔
      ∃ u, time ≤ u ∧ u ∉ m.uniqueTimes :=
  ⟨(valid_run hops).injective, (valid_run hops).times, fun _ hop => (valid_run hops).checks hop,
    makeUniqueCreationTime_isLeast_iff _⟩

/-! ### Times that are asked for twice -/

/-- Three cookies, of which the first two are set at one time. -/
def threeCookies (time : Time) : List Op :=
  [.setCreationTime (cookieWithProperties "a" "1") time,
    .setCreationTime (cookieWithProperties "b" "2") time,
    .getCreationTime (cookieWithProperties "c" "3")]

theorem creation_times_unique_threeCookies :
    let m := (machine fun _ => 0).run new (threeCookies 5)
    m.creationTimes.get? "b;example.com;/" = some 6 ∧
      ∀ id, m.creationTimes.get? id = some 6 → id = "b;example.com;/" := by
  have hops : (machine fun _ => 0).Along (FindsTime fun _ => 0) new (threeCookies 5) :=
    ⟨⟨9, by decide, find_eq_nil_iff.1 (by decide +kernel)⟩,
      ⟨9, by decide, find_eq_nil_iff.1 (by decide +kernel)⟩,
      fun _ => ⟨9, by decide, find_eq_nil_iff.1 (by decide +kernel)⟩, trivial⟩
  intro m
  have hb : m.creationTimes.get? "b;example.com;/" = some 6 := by decide +kernel
  exact ⟨hb, fun id hid => (creation_times_unique _ hops).1 id _ 6 hid hb⟩

/-- Behind the last time the search wraps around. A third cookie of that time finds the
second one's in use. -/
theorem creation_times_wrap_around :
    let set (name : String) : Op := .setCreationTime (cookieWithProperties name "1") .max
    let m := (machine fun _ => 0).run new [set "a", set "b"]
    ¬ m.Checks (fun _ => 0) (set "c") ∧
      ¬ ∀ id id' time, (m.apply (fun _ => 0) (set "c")).creationTimes.get? id = some time →
        (m.apply (fun _ => 0) (set "c")).creationTimes.get? id' = some time → id = id' := by
  intro set m
  refine ⟨fun h => ?_, fun h => ?_⟩
  · exact absurd h.2.unused (by decide +kernel)
  · exact absurd (h "b;example.com;/" "c;example.com;/" (nextTime .max) (by decide +kernel)
      (by decide +kernel)) (by decide)

end CookieCreationTimeManager

end ChromiumIos
