import Mathlib.Data.List.Nodup
import ChromiumIos.Web.Types

/-!
# System cookies

The cookies of `NSHTTPCookieStorage`, the cookies of `net/cookies`, and
`system_cookie_util.mm`, which makes one of the other. Texts are those that
`base::SysNSStringToUTF8` gives, dates are `base::Time`s.

`NSHTTPCookieStorage` replaces a cookie that has the name, the domain and the
path of a new one: its contents carry that no two cookies agree in all three.
-/

namespace ChromiumIos

/-- `CFAbsoluteTime`: seconds since January 1st, 2001. -/
abbrev CFAbsoluteTime := Rat

structure NSHTTPCookie where
  name : String
  value : String
  domain : String
  path : String
  /-- The number under `Created` in the properties, if there is one. -/
  created : Option CFAbsoluteTime
  expiresDate : Option Time
  isSecure : Bool
  isHTTPOnly : Bool
  isSessionOnly : Bool
deriving DecidableEq, Repr

inductive CookieSameSite
  | noRestriction
  | laxMode
  | strictMode
deriving DecidableEq, Repr

inductive CookiePriority
  | low
  | medium
  | high
deriving DecidableEq, Repr

/-- `net::CanonicalCookie`. -/
structure CanonicalCookie where
  name : String
  value : String
  domain : String
  path : String
  creationDate : Time
  expiryDate : Time
  lastAccessDate : Time
  secure : Bool
  httpOnly : Bool
  sameSite : CookieSameSite
  priority : CookiePriority
deriving DecidableEq, Repr

/-- `CanonicalCookieFromSystemCookie`. A cookie without an expiry date gets the
null time. -/
def canonicalCookieFromSystemCookie (cookie : NSHTTPCookie) (creationTime : Time) :
    CanonicalCookie where
  name := cookie.name
  value := cookie.value
  domain := cookie.domain
  path := cookie.path
  creationDate := creationTime
  expiryDate := cookie.expiresDate.getD 0
  lastAccessDate := 0
  secure := cookie.isSecure
  httpOnly := cookie.isHTTPOnly
  sameSite := .noRestriction
  priority := .medium

/-- What tells cookies apart in a store. -/
abbrev CookieIdentity := String × String × String

namespace NSHTTPCookie

def identity (cookie : NSHTTPCookie) : CookieIdentity := (cookie.domain, cookie.path, cookie.name)

end NSHTTPCookie

namespace CanonicalCookie

def identity (cookie : CanonicalCookie) : CookieIdentity :=
  (cookie.domain, cookie.path, cookie.name)

end CanonicalCookie

/-- `NSHTTPCookieStorage`. -/
structure NSHTTPCookieStorage where
  cookies : List NSHTTPCookie
  distinct : (cookies.map (·.identity)).Nodup

namespace NSHTTPCookieStorage

def empty : NSHTTPCookieStorage := ⟨[], List.nodup_nil⟩

/-- `deleteCookie:`. -/
def deleteCookie (store : NSHTTPCookieStorage) (cookie : NSHTTPCookie) : NSHTTPCookieStorage :=
  ⟨store.cookies.filter fun other => other.identity ≠ cookie.identity,
    store.distinct.sublist (List.filter_sublist.map _)⟩

/-- A cookie of the store is told apart by its identity. -/
theorem eq_of_identity_eq {store : NSHTTPCookieStorage} {a b : NSHTTPCookie}
    (ha : a ∈ store.cookies) (hb : b ∈ store.cookies) (h : a.identity = b.identity) : a = b :=
  List.inj_on_of_nodup_map store.distinct ha hb h

/-- Deleting some of its cookies leaves the others. -/
theorem cookies_foldl_deleteCookie (store : NSHTTPCookieStorage) (toDelete : List NSHTTPCookie) :
    (toDelete.foldl deleteCookie store).cookies =
      store.cookies.filter fun cookie => ∀ other ∈ toDelete, cookie.identity ≠ other.identity := by
  induction toDelete generalizing store with
  | nil =>
    refine (List.filter_eq_self.2 fun cookie _ => ?_).symm
    simp
  | cons cookie rest ih =>
    rw [List.foldl_cons, ih, deleteCookie, List.filter_filter]
    refine List.filter_congr fun other _ => ?_
    simp [Bool.and_comm]

end NSHTTPCookieStorage

end ChromiumIos
