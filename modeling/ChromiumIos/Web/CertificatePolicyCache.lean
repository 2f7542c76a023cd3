import Mathlib.Data.List.Induction
import Mathlib.Data.List.Perm.Basic
import ChromiumIos.Web.CertificatePolicyCacheStorage

/-!
# Certificate policies

`cert_policy.cc` and `certificate_policy_cache.cc`: for each host, the status that
each certificate is allowed with, and what
`session_certificate_policy_cache_impl.mm` writes there of a session.

- `check_eq_allowed_iff`: a certificate is allowed for an error that is part of
  its status.
- `statusFor_update`: the status that is written last counts.
- `allowed_in_every_order_iff`: which certificates of a session are allowed
  whatever the order of its set.
-/

namespace ChromiumIos

open Lib List

/-- `net::CertStatus`. -/
abbrev CertStatus := UInt32

abbrev SHA256HashValue := BitVec 256

/-- `CertPolicy::Judgment`. -/
inductive Judgment
  | unknown
  | allowed
  | denied
deriving DecidableEq, Repr

/-- `X509Certificate::CalculateChainFingerprint256` of a certificate and its
intermediates. -/
abbrev Fingerprint := NSData → SHA256HashValue

structure CertPolicy where
  allowed : Keyed SHA256HashValue CertStatus

namespace CertPolicy

def new : CertPolicy := ⟨.empty⟩

/-- `Check`. -/
def check (fingerprint : Fingerprint) (p : CertPolicy) (cert : NSData) (error : CertStatus) :
    Judgment :=
  match p.allowed.get? (fingerprint cert) with
  | some status =>
    if status &&& error ≠ 0 ∧ ~~~(status &&& error) ^^^ ~~~error = 0 then .allowed else .unknown
  | none => .unknown

/-- `Allow`. A status that the certificate was saved with is replaced. -/
def allow (fingerprint : Fingerprint) (p : CertPolicy) (cert : NSData) (error : CertStatus) :
    CertPolicy :=
  ⟨p.allowed.set (fingerprint cert) error⟩

/-- The error is one, and a part of the status. -/
def Covers (status error : CertStatus) : Prop := error ≠ 0 ∧ status &&& error = error

theorem check_eq_allowed_iff {fingerprint : Fingerprint} {p : CertPolicy} {cert : NSData}
    {error : CertStatus} :
    p.check fingerprint cert error = .allowed ↔
      ∃ status, p.allowed.get? (fingerprint cert) = some status ∧ Covers status error := by
  have hbits : ∀ status : CertStatus,
      (status &&& error ≠ 0 ∧ ~~~(status &&& error) ^^^ ~~~error = 0) ↔ Covers status error := by
    intro status
    rw [UInt32.xor_eq_zero_iff, UInt32.not_inj, Covers]
    refine and_congr_left fun heq => ?_
    rw [heq]
  rw [check]
  cases p.allowed.get? (fingerprint cert) with
  | none => simp
  | some status =>
    simp only
    by_cases hcovers : Covers status error
    · rw [if_pos ((hbits status).2 hcovers)]
      exact ⟨fun _ => ⟨status, rfl, hcovers⟩, fun _ => rfl⟩
    · rw [if_neg (mt (hbits status).1 hcovers)]
      simp [hcovers]

/-- No certificate is denied. -/
theorem check_eq_allowed_of_ne {fingerprint : Fingerprint} {p : CertPolicy} {cert : NSData}
    {error : CertStatus} (h : p.check fingerprint cert error ≠ .unknown) :
    p.check fingerprint cert error = .allowed := by
  rw [check] at h ⊢
  cases hstatus : p.allowed.get? (fingerprint cert) with
  | none => simp only [hstatus, ne_eq, not_true_eq_false] at h
  | some status =>
    simp only [hstatus] at h ⊢
    split at h
    · rename_i hcovers
      rw [if_pos hcovers]
    · exact absurd rfl h

end CertPolicy

structure CertificatePolicyCache where
  certPolicyForHost : Keyed String CertPolicy

namespace CertificatePolicyCache

/-- `cert_policy_for_host_[host]`: a host without a policy gets a new one. -/
def policyFor (cache : CertificatePolicyCache) (host : String) : CertPolicy :=
  (cache.certPolicyForHost.get? host).getD .new

/-- `AllowCertForHost`. -/
def allowCertForHost (fingerprint : Fingerprint) (cache : CertificatePolicyCache) (cert : NSData)
    (host : String) (error : CertStatus) : CertificatePolicyCache :=
  ⟨cache.certPolicyForHost.set host ((cache.policyFor host).allow fingerprint cert error)⟩

/-- `QueryPolicy`, which writes the policy it asks for. -/
def queryPolicy (fingerprint : Fingerprint) (cache : CertificatePolicyCache) (cert : NSData)
    (host : String) (error : CertStatus) : Judgment × CertificatePolicyCache :=
  ((cache.policyFor host).check fingerprint cert error,
    ⟨cache.certPolicyForHost.set host (cache.policyFor host)⟩)

/-- A query changes no policy. -/
theorem policyFor_queryPolicy (fingerprint : Fingerprint) (cache : CertificatePolicyCache)
    (cert : NSData) (host : String) (error : CertStatus) (other : String) :
    (cache.queryPolicy fingerprint cert host error).2.policyFor other = cache.policyFor other := by
  rw [queryPolicy, policyFor, Keyed.get?_set]
  by_cases hother : other = host
  · rw [if_pos hother, hother]
    rfl
  · rw [if_neg hother]
    rfl

/-- The status that a certificate is allowed with for a host. -/
def statusFor (fingerprint : Fingerprint) (cache : CertificatePolicyCache) (cert : NSData)
    (host : String) : Option CertStatus :=
  (cache.policyFor host).allowed.get? (fingerprint cert)

end CertificatePolicyCache

namespace SessionCertificatePolicyCacheImpl

def new : SessionCertificatePolicyCacheImpl := ⟨[]⟩

/-- `RegisterAllowedCertificate`. The storage is a new object, which equals no
other one of the set. -/
def registerAllowedCertificate (impl : SessionCertificatePolicyCacheImpl)
    (storage : CRWSessionCertificateStorage) : SessionCertificatePolicyCacheImpl :=
  ⟨impl.allowedCerts ++ [storage]⟩

/-- `UpdateCertificatePolicyCache`, where `order` is the order in which the set is
enumerated. -/
def updateCertificatePolicyCache (fingerprint : Fingerprint)
    (order : List CRWSessionCertificateStorage) (cache : CertificatePolicyCache) :
    CertificatePolicyCache :=
  order.foldl (fun cache cert =>
    cache.allowCertForHost fingerprint cert.certificate cert.host cert.status) cache

theorem allowedCerts_foldl (impl : SessionCertificatePolicyCacheImpl)
    (storages : List CRWSessionCertificateStorage) :
    (storages.foldl registerAllowedCertificate impl).allowedCerts =
      impl.allowedCerts ++ storages := by
  induction storages generalizing impl with
  | nil => exact (append_nil _).symm
  | cons storage storages ih =>
    rw [foldl_cons, ih, registerAllowedCertificate, append_assoc, singleton_append]

end SessionCertificatePolicyCacheImpl

/-! ## What a session writes -/

section Update

open SessionCertificatePolicyCacheImpl

variable {fingerprint : Fingerprint} {cache : CertificatePolicyCache} {cert : NSData}
  {host : String}

/-- The storage is about the certificate and the host. -/
def CRWSessionCertificateStorage.IsFor (fingerprint : Fingerprint) (cert : NSData) (host : String)
    (storage : CRWSessionCertificateStorage) : Prop :=
  fingerprint storage.certificate = fingerprint cert ∧ storage.host = host

theorem statusFor_allowCertForHost (storage : CRWSessionCertificateStorage) :
    (storage.IsFor fingerprint cert host →
      (cache.allowCertForHost fingerprint storage.certificate storage.host
        storage.status).statusFor fingerprint cert host = some storage.status) ∧
    (¬ storage.IsFor fingerprint cert host →
      (cache.allowCertForHost fingerprint storage.certificate storage.host
        storage.status).statusFor fingerprint cert host =
          cache.statusFor fingerprint cert host) := by
  simp only [CertificatePolicyCache.statusFor, CertificatePolicyCache.policyFor,
    CertificatePolicyCache.allowCertForHost, Keyed.get?_set, CRWSessionCertificateStorage.IsFor]
  constructor
  · rintro ⟨hcert, rfl⟩
    simp [CertPolicy.allow, hcert]
  · intro hother
    by_cases hhost : host = storage.host
    · have hcert : fingerprint cert ≠ fingerprint storage.certificate :=
        fun heq => hother ⟨heq.symm, hhost.symm⟩
      simp [CertPolicy.allow, hhost, hcert]
    · simp [hhost]

/-- The status that is written last counts: it is that of a storage of the
session, if one is about the certificate and the host. -/
theorem statusFor_update (fingerprint : Fingerprint) (cache : CertificatePolicyCache)
    (cert : NSData) (host : String) (order : List CRWSessionCertificateStorage) :
    (∃ storage ∈ order, storage.IsFor fingerprint cert host ∧
      (updateCertificatePolicyCache fingerprint order cache).statusFor fingerprint cert host =
        some storage.status) ∨
    (∀ storage ∈ order, ¬ storage.IsFor fingerprint cert host) := by
  induction order using reverseRecOn with
  | nil => exact .inr fun storage hstorage => absurd hstorage not_mem_nil
  | append_singleton order last ih =>
    rw [updateCertificatePolicyCache, foldl_append, foldl_cons, foldl_nil]
    by_cases hlast : last.IsFor fingerprint cert host
    · exact .inl ⟨last, mem_append_right _ mem_cons_self, hlast,
        (statusFor_allowCertForHost last).1 hlast⟩
    · rcases ih with ⟨storage, hstorage, hfor, hstatus⟩ | hnone
      · refine .inl ⟨storage, mem_append_left _ hstorage, hfor, ?_⟩
        rw [(statusFor_allowCertForHost last).2 hlast]
        exact hstatus
      · refine .inr fun storage hstorage => ?_
        rcases mem_append.1 hstorage with hbefore | hsingle
        · exact hnone storage hbefore
        · rw [mem_singleton.1 hsingle]
          exact hlast

/-- **Certificates of a session**: after a session was written to a cache, a
certificate that was registered is allowed for every order of the set if and only
if its status is an error and a part of every status that was registered for the
certificate and the host. -/
theorem allowed_in_every_order_iff (fingerprint : Fingerprint)
    (registrations : List CRWSessionCertificateStorage) (cache : CertificatePolicyCache)
    (storage : CRWSessionCertificateStorage) (hstorage : storage ∈ registrations) :
    (∀ order, order.Perm (registrations.foldl registerAllowedCertificate .new).allowedCerts →
      ((updateCertificatePolicyCache fingerprint order cache).queryPolicy fingerprint
        storage.certificate storage.host storage.status).1 = .allowed) ↔
    ∀ other ∈ registrations, other.IsFor fingerprint storage.certificate storage.host →
      CertPolicy.Covers other.status storage.status := by
  have hcerts : (registrations.foldl registerAllowedCertificate .new).allowedCerts =
      registrations := allowedCerts_foldl .new registrations
  rw [hcerts]
  have hquery : ∀ order, ((updateCertificatePolicyCache fingerprint order cache).queryPolicy
      fingerprint storage.certificate storage.host storage.status).1 = .allowed ↔
        ∃ status, (updateCertificatePolicyCache fingerprint order cache).statusFor fingerprint
          storage.certificate storage.host = some status ∧
            CertPolicy.Covers status storage.status :=
    fun order => CertPolicy.check_eq_allowed_iff
  simp only [hquery]
  constructor
  · intro hall other hother hfor
    -- in an order that ends with the other storage, its status counts
    obtain ⟨status, hstatus, hcovers⟩ := hall (registrations.erase other ++ [other])
      ((perm_append_singleton other _).trans (perm_cons_erase hother).symm)
    rw [updateCertificatePolicyCache, foldl_append, foldl_cons, foldl_nil,
      (statusFor_allowCertForHost other).1 hfor] at hstatus
    rw [Option.some.inj hstatus]
    exact hcovers
  · intro hcovers order hperm
    rcases statusFor_update fingerprint cache storage.certificate storage.host order with
      ⟨other, hother, hfor, hstatus⟩ | hnone
    · exact ⟨other.status, hstatus, hcovers other (hperm.subset hother) hfor⟩
    · exact absurd ⟨rfl, rfl⟩ (hnone storage (hperm.symm.subset hstorage))

/-- A certificate that was allowed with an expired date, then with an unknown
authority: after the second status is written, the first one is not allowed. -/
theorem replaced_status_is_unknown :
    let registrations : List CRWSessionCertificateStorage :=
      [⟨[48], "example.com", 2⟩, ⟨[48], "example.com", 4⟩]
    registrations.Perm (registrations.foldl registerAllowedCertificate .new).allowedCerts ∧
      ((updateCertificatePolicyCache (fun _ => 0) registrations ⟨.empty⟩).queryPolicy (fun _ => 0)
        [48] "example.com" 2).1 = .unknown := by
  refine ⟨?_, ?_⟩
  · rw [allowedCerts_foldl]
    exact .refl _
  · decide

theorem allowed_in_every_order_iff_two :
    let registrations : List CRWSessionCertificateStorage :=
      [⟨[48], "example.com", 2⟩, ⟨[48], "example.com", 6⟩]
    (∀ order, order.Perm (registrations.foldl registerAllowedCertificate .new).allowedCerts →
      ((updateCertificatePolicyCache (fun _ => 0) order ⟨.empty⟩).queryPolicy (fun _ => 0)
        [48] "example.com" 2).1 = .allowed) ↔
    ∀ other ∈ registrations, other.IsFor (fun _ => 0) [48] "example.com" →
      CertPolicy.Covers other.status 2 :=
  allowed_in_every_order_iff (fun _ => 0) [⟨[48], "example.com", 2⟩, ⟨[48], "example.com", 6⟩]
    ⟨.empty⟩ ⟨[48], "example.com", 2⟩ mem_cons_self

end Update

end ChromiumIos
