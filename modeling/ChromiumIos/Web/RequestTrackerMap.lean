import ChromiumIos.Web.RequestTracker

/-!
# The request map is sound

What an entry of `counts_by_request_` points to: a record that the tracker owns,
of that request, which is not done. The records may be finished and freed by the
loops of the tracker, and a callback that they run may stop its request.

- `Keeps`: what the tracker leaves as it is when it writes to its records and runs
  callbacks.
- `sound_step`: each operation keeps the map sound.
- `request_map_sound`: so it is in every state that is reached.
-/

namespace ChromiumIos

open Lib List Pool Option

namespace RequestTrackerImpl

variable {P : RequestPlatform}

theorem countsByRequest_eraseRequest (s : RequestTrackerImpl) (request other : Nat) :
    (s.eraseRequest request).countsByRequest other =
      if other = request then none else s.countsByRequest other :=
  Function.update_apply s.countsByRequest request none other

/-! ## What is left as it is -/

/-- From `s` to `t`, records were written to and callbacks were run: none was
added or freed, and no entry was added to the map. -/
structure Keeps (s t : RequestTrackerImpl) : Prop where
  pointers : t.counts.pointers = s.counts.pointers
  mapped : ∀ request p, t.countsByRequest request = some p → s.countsByRequest request = some p
  isClosing : t.isClosing = s.isClosing
  nextCallback : t.nextCallback = s.nextCallback
  answers : s.answers <+: t.answers

namespace Keeps

theorem refl (s : RequestTrackerImpl) : Keeps s s :=
  ⟨rfl, fun _ _ h => h, rfl, rfl, prefix_refl _⟩

theorem trans {s t u : RequestTrackerImpl} (hst : Keeps s t) (htu : Keeps t u) : Keeps s u where
  pointers := htu.pointers.trans hst.pointers
  mapped request p h := hst.mapped request p (htu.mapped request p h)
  isClosing := htu.isClosing.trans hst.isClosing
  nextCallback := htu.nextCallback.trans hst.nextCallback
  answers := hst.answers.trans htu.answers

/-- A loop keeps what each of its rounds keeps. -/
theorem foldl {α : Type} {f : RequestTrackerImpl → α → RequestTrackerImpl}
    (hf : ∀ s a, Keeps s (f s a)) (as : List α) (s : RequestTrackerImpl) :
    Keeps s (as.foldl f s) := by
  induction as generalizing s with
  | nil => exact .refl s
  | cons a as ih => exact (hf s a).trans (ih (f s a))

section

variable (s : RequestTrackerImpl)
include s

theorem check (condition : Bool) : Keeps s (s.check condition) :=
  ⟨rfl, fun _ _ h => h, rfl, rfl, prefix_refl _⟩

theorem modify (p : Nat) (f : TrackerCounts → TrackerCounts) : Keeps s (s.modify p f) :=
  ⟨pointers_modify _ _ _, fun _ _ h => h, rfl, rfl, prefix_refl _⟩

theorem eraseRequest (request : Nat) : Keeps s (s.eraseRequest request) where
  pointers := rfl
  mapped other p h := by
    rw [countsByRequest_eraseRequest] at h
    by_cases hother : other = request
    · rw [if_pos hother] at h
      cases h
    · rwa [if_neg hother] at h
  isClosing := rfl
  nextCallback := rfl
  answers := prefix_refl _

theorem release (request : Nat) : Keeps s (s.release request) :=
  ⟨rfl, fun _ _ h => h, rfl, rfl, prefix_refl _⟩

theorem setPolicyCache (policyCache : CertificatePolicyCache) :
    Keeps s (s.setPolicyCache policyCache) :=
  ⟨rfl, fun _ _ h => h, rfl, rfl, prefix_refl _⟩

theorem logAnswer (number : Nat) (answer : Bool) : Keeps s (s.logAnswer number answer) :=
  ⟨rfl, fun _ _ h => h, rfl, rfl, prefix_append _ _⟩

theorem post (tasks : List UITask) : Keeps s (s.post tasks) :=
  ⟨rfl, fun _ _ h => h, rfl, rfl, prefix_refl _⟩

end

theorem withCounts {s : RequestTrackerImpl} {p : Nat} {k : TrackerCounts → RequestTrackerImpl}
    (hk : ∀ counts, Keeps s (k counts)) : Keeps s (s.withCounts p k) := by
  rw [RequestTrackerImpl.withCounts]
  cases s.counts.get? p with
  | none => exact check s false
  | some counts => exact hk counts

theorem captureRequest (s : RequestTrackerImpl) (request : Nat)
    (f : TrackerCounts → TrackerCounts) : Keeps s (s.captureRequest request f) := by
  rw [RequestTrackerImpl.captureRequest]
  cases s.countsByRequest request with
  | none => exact refl s
  | some p => exact withCounts fun counts => (check s _).trans (modify _ p f)

theorem stopRedirectedRequest (s : RequestTrackerImpl) (request : Nat) (sslInfo : SSLInfo) :
    Keeps s (s.stopRedirectedRequest request sslInfo) := by
  rw [RequestTrackerImpl.stopRedirectedRequest]
  cases s.countsByRequest request with
  | none => exact refl s
  | some p => exact (captureRequest s request _).trans (eraseRequest _ request)

theorem stopRequest (s : RequestTrackerImpl) (request : Nat) (sslInfo : SSLInfo) :
    Keeps s (s.stopRequest request sslInfo) := by
  rw [RequestTrackerImpl.stopRequest]
  cases s.countsByRequest request with
  | none => exact refl s
  | some p => exact stopRedirectedRequest s request sslInfo

theorem reentry (request : Nat) (s : RequestTrackerImpl) (r : Reentry) :
    Keeps s (s.reentry request r) := by
  cases r with
  | captureExpectedLength length => exact captureRequest s request _
  | captureReceivedBytes sslInfo byteCount => exact captureRequest s request _
  | stopRequest sslInfo => exact (stopRequest s request sslInfo).trans (release _ request)
  | stopRedirectedRequest sslInfo =>
    exact (stopRedirectedRequest s request sslInfo).trans (release _ request)

section

variable (s : RequestTrackerImpl)
include s

theorem runCallback (answer : Bool) (callback : Option SSLCallback) :
    Keeps s (s.runCallback P answer callback) := by
  rcases callback with - | - | ⟨number, request⟩
  · exact check s false
  · exact refl s
  · exact (logAnswer s number answer).trans (foldl (reentry request) _ _)

theorem answerCounts (p : Nat) (answer : Bool) : Keeps s (s.answerCounts P p answer) :=
  withCounts fun _ => (runCallback s answer _).trans (modify _ p _)

theorem cancelRequestForCounts (p : Nat) : Keeps s (s.cancelRequestForCounts P p) :=
  withCounts fun _ => ((modify s p _).trans (eraseRequest _ _)).trans (answerCounts _ p false)

theorem applyJudgment (p : Nat) (judgment : Judgment) : Keeps s (s.applyJudgment P p judgment) := by
  refine (modify s p fun counts => { counts with sslJudgment := judgment }).trans ?_
  cases judgment with
  | unknown => exact cancelRequestForCounts _ p
  | denied => exact cancelRequestForCounts _ p
  | allowed => exact answerCounts _ p true

theorem evaluateSSLCallbackForCounts (p : Nat) : Keeps s (s.evaluateSSLCallbackForCounts P p) := by
  refine withCounts fun counts => ?_
  cases counts.sslInfo.cert with
  | none => exact refl s
  | some cert => exact (setPolicyCache s _).trans (applyJudgment _ p _)

theorem forgetUnfinished (p : Nat) (counts : TrackerCounts) :
    Keeps s (s.forgetUnfinished P p counts) := by
  unfold RequestTrackerImpl.forgetUnfinished
  split
  · exact refl s
  · split
    · exact (cancelRequestForCounts s p).trans (eraseRequest _ _)
    · exact eraseRequest s _

theorem reevaluateCallback (p : Nat) : Keeps s (s.reevaluateCallback P p) := by
  refine withCounts fun counts => ?_
  by_cases hunknown : counts.sslJudgment = .unknown
  · rw [if_pos hunknown]
    exact evaluateSSLCallbackForCounts s p
  · rw [if_neg hunknown]
    exact refl s

theorem reevaluateCallbacksForAllCounts : Keeps s (s.reevaluateCallbacksForAllCounts P) := by
  rw [RequestTrackerImpl.reevaluateCallbacksForAllCounts]
  cases s.isClosing with
  | true => exact refl s
  | false => exact foldl reevaluateCallback _ s

theorem onSSLCertificateError (request : Nat) (sslInfo : SSLInfo)
    (recoverable : Bool) (shouldContinue : SSLCallback) :
    Keeps s (s.onSSLCertificateError P request sslInfo recoverable shouldContinue) := by
  refine (check s sslInfo.isValid).trans ?_
  cases h : (s.check sslInfo.isValid).countsByRequest request with
  | none =>
    simp only [RequestTrackerImpl.onSSLCertificateError, h]
    exact refl _
  | some p =>
    simp only [RequestTrackerImpl.onSSLCertificateError, h]
    exact (captureRequest _ request _).trans (reevaluateCallbacksForAllCounts _)

theorem captureCertificateUsed (request : Nat) (host : String)
    (cert : NSData) (certStatus : CertStatus) :
    Keeps s (s.captureCertificateUsed request host cert certStatus) := by
  rw [RequestTrackerImpl.captureCertificateUsed]
  cases s.countsByRequest request with
  | none => exact refl s
  | some p => exact withCounts fun _ => (modify s p _).trans (post _ _)

theorem captureCertificatePolicyCache (request : Nat) (url : GURL)
    (cert : NSData) (certStatus : CertStatus) (shouldContinue : SSLCallback) :
    Keeps s (s.captureCertificatePolicyCache P request url cert certStatus shouldContinue) := by
  unfold RequestTrackerImpl.captureCertificatePolicyCache
  simp only
  split
  · exact (setPolicyCache s _).trans (onSSLCertificateError _ request _ true shouldContinue)
  · exact ((setPolicyCache s _).trans (check _ _)).trans
      ((captureCertificateUsed _ request _ cert certStatus).trans (runCallback _ true _))

end

end Keeps

/-! ## Soundness -/

/-- A record that waits for a decision has a certificate and a callback. -/
def Answerable (counts : TrackerCounts) : Prop :=
  counts.sslJudgment = .unknown →
    counts.sslCallback.isSome = true ∧ counts.sslInfo.isValid = true

/-- The pointer is to a record of the request that is not done. -/
def Live (s : RequestTrackerImpl) (request p : Nat) : Prop :=
  ∃ counts, s.counts.get? p = some counts ∧ counts.request = request ∧ counts.done = false

/-- The map is sound, and no check failed. -/
structure Sound (s : RequestTrackerImpl) : Prop where
  live : ∀ {request p}, s.countsByRequest request = some p → s.Live request p
  active : ∀ {request p}, s.countsByRequest request = some p → s.active request = true
  answerable : ∀ {p counts}, s.counts.get? p = some counts → Answerable counts
  holds : s.failed = false

/-- A record is added under a number that was never used. -/
theorem get?_addCounts (s : RequestTrackerImpl) (request : URLRequest) (q : Nat) :
    (s.addCounts P request).counts.get? q =
      if q = s.counts.next then some (.new P (P.removeRef request.originalUrl) request)
      else s.counts.get? q :=
  get?_alloc _ _ _

theorem get?_addCounts_cases {s : RequestTrackerImpl} {request : URLRequest} {q : Nat}
    {c : TrackerCounts} (h : (s.addCounts P request).counts.get? q = some c) :
    c = .new P (P.removeRef request.originalUrl) request ∨ s.counts.get? q = some c := by
  rw [get?_addCounts] at h
  split at h
  · exact .inl (some.inj h).symm
  · exact .inr h

namespace Sound

variable {s : RequestTrackerImpl} {p : Nat} {f : TrackerCounts → TrackerCounts}

theorem new (policyCache : CertificatePolicyCache) : Sound (.new policyCache) where
  live h := by cases h
  active h := by cases h
  answerable h := by cases h
  holds := rfl

theorem check (h : Sound s) {condition : Bool} (hcondition : condition = true) :
    Sound (s.check condition) where
  live := h.live
  active := h.active
  answerable := h.answerable
  holds := by
    rw [RequestTrackerImpl.check, h.holds, hcondition]
    rfl

/-- A record that is written to can be answered, if the new one can be. -/
theorem answerable_modify (h : Sound s)
    (hf : ∀ counts, s.counts.get? p = some counts → Answerable (f counts)) {q : Nat}
    {counts : TrackerCounts} (hq : (s.modify p f).counts.get? q = some counts) :
    Answerable counts := by
  rw [RequestTrackerImpl.modify, get?_modify] at hq
  by_cases hqp : q = p
  · rw [if_pos hqp, hqp] at hq
    obtain ⟨old, hold, rfl⟩ := map_eq_some_iff.1 hq
    exact hf old hold
  · rw [if_neg hqp] at hq
    exact h.answerable hq

theorem modify (h : Sound s)
    (hf : ∀ counts, s.counts.get? p = some counts → (f counts).request = counts.request ∧
      (f counts).done = counts.done ∧ Answerable (f counts)) :
    Sound (s.modify p f) where
  live := by
    intro request q hq
    obtain ⟨counts, hcounts, hrequest, hdone⟩ := h.live hq
    rw [Live, RequestTrackerImpl.modify, get?_modify]
    by_cases hqp : q = p
    · obtain ⟨hrequest', hdone', -⟩ := hf counts (hqp ▸ hcounts)
      rw [if_pos hqp, hcounts]
      exact ⟨f counts, rfl, hrequest'.trans hrequest, hdone'.trans hdone⟩
    · rw [if_neg hqp]
      exact ⟨counts, hcounts, hrequest, hdone⟩
  active := h.active
  answerable := h.answerable_modify fun counts hcounts => (hf counts hcounts).2.2
  holds := h.holds

/-- The entry that is erased is the only one for the record. -/
theorem modify_eraseRequest {counts : TrackerCounts} (h : Sound s)
    (hp : s.counts.get? p = some counts) (hanswerable : Answerable (f counts)) :
    Sound ((s.modify p f).eraseRequest counts.request) where
  live := by
    intro request q hq
    rw [countsByRequest_eraseRequest] at hq
    by_cases hrequest : request = counts.request
    · rw [if_pos hrequest] at hq
      cases hq
    · rw [if_neg hrequest] at hq
      obtain ⟨other, hother, hkey, hdone⟩ := h.live hq
      have hqp : q ≠ p := by
        rintro rfl
        rw [hp] at hother
        cases hother
        exact hrequest hkey.symm
      refine ⟨other, ?_, hkey, hdone⟩
      rw [RequestTrackerImpl.eraseRequest, RequestTrackerImpl.modify, get?_modify, if_neg hqp]
      exact hother
  active hq := h.active ((Keeps.eraseRequest _ _).mapped _ _ hq)
  answerable := by
    refine h.answerable_modify fun old hold => ?_
    rw [hp] at hold
    cases hold
    exact hanswerable
  holds := h.holds

theorem eraseRequest (h : Sound s) (request : Nat) : Sound (s.eraseRequest request) where
  live hq := h.live ((Keeps.eraseRequest s request).mapped _ _ hq)
  active hq := h.active ((Keeps.eraseRequest s request).mapped _ _ hq)
  answerable := h.answerable
  holds := h.holds

theorem issueCallback (h : Sound s) : Sound s.issueCallback :=
  ⟨h.live, h.active, h.answerable, h.holds⟩

theorem setPolicyCache (h : Sound s) (policyCache : CertificatePolicyCache) :
    Sound (s.setPolicyCache policyCache) :=
  ⟨h.live, h.active, h.answerable, h.holds⟩

theorem logAnswer (h : Sound s) (number : Nat) (answer : Bool) :
    Sound (s.logAnswer number answer) :=
  ⟨h.live, h.active, h.answerable, h.holds⟩

theorem release {request : Nat} (h : Sound s) (hrequest : s.countsByRequest request = none) :
    Sound (s.release request) where
  live := h.live
  active := by
    intro other q hq
    have hother : other ≠ request := by
      rintro rfl
      rw [RequestTrackerImpl.release, hrequest] at hq
      cases hq
    exact (Function.update_of_ne hother false s.active).trans (h.active hq)
  answerable := h.answerable
  holds := h.holds

theorem captureRequest {request : Nat} (h : Sound s)
    (hf : ∀ counts, Answerable counts → (f counts).request = counts.request ∧
      (f counts).done = counts.done ∧ Answerable (f counts)) :
    Sound (s.captureRequest request f) := by
  rw [RequestTrackerImpl.captureRequest]
  cases hmap : s.countsByRequest request with
  | none => exact h
  | some p =>
    obtain ⟨counts, hcounts, -, hdone⟩ := h.live hmap
    simp only [withCounts, hcounts, hdone]
    refine (h.check rfl).modify fun old hold => ?_
    exact hf old (h.answerable hold)

theorem answerable_captureSSLInfo {counts : TrackerCounts} (h : Answerable counts)
    (sslInfo : SSLInfo) : Answerable (counts.captureSSLInfo sslInfo) := by
  intro hunknown
  rw [TrackerCounts.captureSSLInfo] at hunknown ⊢
  cases hvalid : sslInfo.isValid with
  | true =>
    rw [hvalid, if_pos rfl] at hunknown
    rw [if_pos rfl]
    exact ⟨(h hunknown).1, hvalid⟩
  | false =>
    rw [hvalid] at hunknown
    exact h hunknown

theorem captureReceivedBytes (h : Sound s) (request : Nat) (sslInfo : SSLInfo)
    (byteCount : UInt64) : Sound (s.captureReceivedBytes request sslInfo byteCount) := by
  refine h.captureRequest fun counts hcounts => ⟨?_, ?_, answerable_captureSSLInfo hcounts sslInfo⟩
  · rw [TrackerCounts.captureSSLInfo]
    split <;> rfl
  · rw [TrackerCounts.captureSSLInfo]
    split <;> rfl

end Sound

/-! ## Stopping a request -/

theorem countsByRequest_stopRedirectedRequest (s : RequestTrackerImpl) (request : Nat)
    (sslInfo : SSLInfo) :
    (s.stopRedirectedRequest request sslInfo).countsByRequest request = none := by
  rw [stopRedirectedRequest]
  cases hmap : s.countsByRequest request with
  | none => exact hmap
  | some p => exact (countsByRequest_eraseRequest _ request request).trans (if_pos rfl)

theorem stopRequest_eq (s : RequestTrackerImpl) (request : Nat) (sslInfo : SSLInfo) :
    s.stopRequest request sslInfo = s.stopRedirectedRequest request sslInfo := by
  rw [stopRequest, stopRedirectedRequest]
  cases s.countsByRequest request with
  | none => rfl
  | some p => rfl

namespace Sound

variable {s : RequestTrackerImpl} {p : Nat}

theorem stopRedirectedRequest (h : Sound s) (request : Nat) (sslInfo : SSLInfo) :
    Sound (s.stopRedirectedRequest request sslInfo) := by
  rw [RequestTrackerImpl.stopRedirectedRequest]
  cases hmap : s.countsByRequest request with
  | none => exact h
  | some p =>
    obtain ⟨counts, hcounts, rfl, hdone⟩ := h.live hmap
    simp only [RequestTrackerImpl.captureRequest, hmap, withCounts, hcounts, hdone]
    exact (h.check rfl).modify_eraseRequest hcounts
      (answerable_captureSSLInfo (h.answerable hcounts) sslInfo)

/-- A request may stop while its callback runs. -/
theorem reentry (h : Sound s) (request : Nat) (r : Reentry) : Sound (s.reentry request r) := by
  cases r with
  | captureExpectedLength length =>
    exact h.captureRequest fun counts hcounts => ⟨rfl, rfl, hcounts⟩
  | captureReceivedBytes sslInfo byteCount =>
    exact h.captureReceivedBytes request sslInfo byteCount
  | stopRequest sslInfo =>
    rw [RequestTrackerImpl.reentry, stopRequest_eq]
    exact (h.stopRedirectedRequest request sslInfo).release
      (countsByRequest_stopRedirectedRequest s request sslInfo)
  | stopRedirectedRequest sslInfo =>
    exact (h.stopRedirectedRequest request sslInfo).release
      (countsByRequest_stopRedirectedRequest s request sslInfo)

theorem runCallback (h : Sound s) (answer : Bool) {callback : Option SSLCallback}
    (hcallback : callback.isSome = true) : Sound (s.runCallback P answer callback) := by
  rcases callback with - | - | ⟨number, request⟩
  · cases hcallback
  · exact h
  · rw [RequestTrackerImpl.runCallback]
    have hlog : Sound (s.logAnswer number answer) := h.logAnswer number answer
    generalize s.logAnswer number answer = t at hlog
    induction P.reenter number answer generalizing t with
    | nil => exact hlog
    | cons r rs ih => exact ih _ (hlog.reentry request r)

theorem answerCounts {counts : TrackerCounts} (h : Sound s) (answer : Bool)
    (hp : s.counts.get? p = some counts) (hcallback : counts.sslCallback.isSome = true) :
    Sound (s.answerCounts P p answer) := by
  simp only [RequestTrackerImpl.answerCounts, withCounts, hp]
  refine (h.runCallback answer hcallback).modify fun old hold => ⟨rfl, rfl, fun hunknown => ?_⟩
  exact ⟨rfl, ((h.runCallback answer hcallback).answerable hold hunknown).2⟩

theorem cancelRequestForCounts {counts : TrackerCounts} (h : Sound s)
    (hp : s.counts.get? p = some counts) (hcallback : counts.sslCallback.isSome = true) :
    Sound (s.cancelRequestForCounts P p) := by
  simp only [RequestTrackerImpl.cancelRequestForCounts, withCounts, hp]
  have hwaiting := h.answerable hp
  have hanswerable : Answerable { counts with done := true } := fun hunknown => hwaiting hunknown
  have herase : Sound ((s.modify p fun counts => { counts with done := true }).eraseRequest
      counts.request) := h.modify_eraseRequest hp hanswerable
  have hget : ((s.modify p fun counts => { counts with done := true }).eraseRequest
      counts.request).counts.get? p = some { counts with done := true } := by
    rw [RequestTrackerImpl.eraseRequest, RequestTrackerImpl.modify, get?_modify, if_pos rfl,
      hp]
    rfl
  exact herase.answerCounts false hget hcallback

theorem applyJudgment {counts : TrackerCounts} (h : Sound s) (judgment : Judgment)
    (hp : s.counts.get? p = some counts) (hcallback : counts.sslCallback.isSome = true)
    (hvalid : counts.sslInfo.isValid = true) : Sound (s.applyJudgment P p judgment) := by
  unfold RequestTrackerImpl.applyJudgment
  have hmodify : Sound (s.modify p fun counts => { counts with sslJudgment := judgment }) := by
    refine h.modify fun old hold => ⟨rfl, rfl, fun _ => ?_⟩
    rw [hp] at hold
    cases hold
    exact ⟨hcallback, hvalid⟩
  have hget : (s.modify p fun counts => { counts with sslJudgment := judgment }).counts.get? p =
      some { counts with sslJudgment := judgment } := by
    rw [RequestTrackerImpl.modify, get?_modify, if_pos rfl, hp]
    rfl
  cases judgment with
  | unknown => exact hmodify.cancelRequestForCounts hget hcallback
  | denied => exact hmodify.cancelRequestForCounts hget hcallback
  | allowed => exact hmodify.answerCounts true hget hcallback

/-- One round of the loop, for a record that the tracker still owns. -/
theorem reevaluateCallback (h : Sound s) (hp : p ∈ s.counts.pointers) :
    Sound (s.reevaluateCallback P p) := by
  obtain ⟨counts, hcounts⟩ := isSome_iff_exists.1 (isSome_get?_iff.2 hp)
  simp only [RequestTrackerImpl.reevaluateCallback, evaluateSSLCallbackForCounts, withCounts,
    hcounts]
  by_cases hunknown : counts.sslJudgment = .unknown
  · rw [if_pos hunknown]
    obtain ⟨hcallback, hvalid⟩ := h.answerable hcounts hunknown
    cases hcert : counts.sslInfo.cert with
    | none => exact h
    | some cert => exact (h.setPolicyCache _).applyJudgment _ hcounts hcallback hvalid
  · rw [if_neg hunknown]
    exact h

/-- **Loop rule**: what each round keeps, for the records that are left to visit,
the loop over all records keeps. They are still there when they are visited. -/
theorem foldl_reevaluateCallback {I : List Nat → RequestTrackerImpl → Prop}
    (hI : ∀ p ps t, Sound t → I (p :: ps) t → I ps (t.reevaluateCallback P p)) (h : Sound s)
    (ps : List Nat) (hps : ∀ p ∈ ps, p ∈ s.counts.pointers) (hs : I ps s) :
    Sound (ps.foldl (RequestTrackerImpl.reevaluateCallback P) s) ∧
      I [] (ps.foldl (RequestTrackerImpl.reevaluateCallback P) s) := by
  induction ps generalizing s with
  | nil => exact ⟨h, hs⟩
  | cons p ps ih =>
    refine ih (h.reevaluateCallback (hps p mem_cons_self)) (fun q hq => ?_)
      (hI p ps s h hs)
    rw [(Keeps.reevaluateCallback s p).pointers]
    exact hps q (mem_cons_of_mem p hq)

theorem reevaluateCallbacksForAllCounts (h : Sound s) :
    Sound (s.reevaluateCallbacksForAllCounts P) := by
  rw [RequestTrackerImpl.reevaluateCallbacksForAllCounts]
  cases s.isClosing with
  | true => exact h
  | false =>
    exact (foldl_reevaluateCallback (I := fun _ _ => True) (fun _ _ _ _ _ => trivial) h
      s.counts.pointers (fun _ hp => hp) trivial).1

theorem onSSLCertificateError (h : Sound s) (request : Nat) {sslInfo : SSLInfo}
    (recoverable : Bool) (shouldContinue : SSLCallback) (hvalid : sslInfo.isValid = true) :
    Sound (s.onSSLCertificateError P request sslInfo recoverable shouldContinue) := by
  rw [RequestTrackerImpl.onSSLCertificateError]
  have hcheck : Sound (s.check sslInfo.isValid) := h.check hvalid
  generalize s.check sslInfo.isValid = t at hcheck
  cases hmap : t.countsByRequest request with
  | none => exact hcheck
  | some p =>
    refine reevaluateCallbacksForAllCounts (captureRequest hcheck fun counts _ => ?_)
    exact ⟨rfl, rfl, fun _ => ⟨rfl, hvalid⟩⟩

theorem post (h : Sound s) (tasks : List UITask) : Sound (s.post tasks) :=
  ⟨h.live, h.active, h.answerable, h.holds⟩

theorem captureCertificateUsed (h : Sound s) (request : Nat) (host : String) (cert : NSData)
    (certStatus : CertStatus) : Sound (s.captureCertificateUsed request host cert certStatus) := by
  rw [RequestTrackerImpl.captureCertificateUsed]
  cases hmap : s.countsByRequest request with
  | none => exact h
  | some p =>
    obtain ⟨counts, hcounts, -⟩ := h.live hmap
    simp only [withCounts, hcounts]
    refine Sound.post (Sound.modify h ?_) _
    intro old hold
    exact ⟨rfl, rfl, fun hunknown => ⟨(h.answerable hold hunknown).1, rfl⟩⟩

theorem captureCertificatePolicyCache (h : Sound s) (request : Nat) (url : GURL) (cert : NSData)
    (certStatus : CertStatus) (shouldContinue : SSLCallback) :
    Sound (s.captureCertificatePolicyCache P request url cert certStatus shouldContinue) := by
  unfold RequestTrackerImpl.captureCertificatePolicyCache
  have hcache : Sound (s.setPolicyCache
      (s.policyCache.queryPolicy P.fingerprint cert (P.host url) certStatus).2) :=
    h.setPolicyCache _
  simp only
  by_cases hunknown :
      (s.policyCache.queryPolicy P.fingerprint cert (P.host url) certStatus).1 = .unknown
  · rw [if_pos hunknown]
    exact hcache.onSSLCertificateError request true shouldContinue rfl
  · rw [if_neg hunknown]
    have hallowed := decide_eq_true (CertPolicy.check_eq_allowed_of_ne hunknown)
    exact ((hcache.check hallowed).captureCertificateUsed request _ cert certStatus).runCallback
      true rfl

/-! ## Starting a request -/

theorem startEstimateRound (h : Sound s) : Sound s.startEstimateRound := by
  rw [RequestTrackerImpl.startEstimateRound]
  split
  · exact ⟨(fun hq => by cases hq), (fun hq => by cases hq), h.answerable, h.holds⟩
  · exact h

theorem addCounts (h : Sound s) (request : URLRequest) :
    Sound ((s.addCounts P request).activate request.address) where
  live := by
    intro address q hq
    have hmap : (s.addCounts P request).countsByRequest address =
        if address = request.address then some s.counts.next else s.countsByRequest address :=
      Function.update_apply s.countsByRequest request.address (some s.counts.next) address
    have hget := get?_addCounts (P := P) s request q
    rw [Live]
    change (s.addCounts P request).countsByRequest address = some q at hq
    rw [hmap] at hq
    by_cases haddress : address = request.address
    · rw [if_pos haddress] at hq
      refine ⟨.new P (P.removeRef request.originalUrl) request, ?_, haddress.symm, rfl⟩
      exact hget.trans (if_pos (some.inj hq).symm)
    · rw [if_neg haddress] at hq
      obtain ⟨counts, hcounts, hlive⟩ := h.live hq
      refine ⟨counts, ?_, hlive⟩
      exact (hget.trans (if_neg (Nat.ne_of_lt (lt_next_of_get? hcounts)))).trans hcounts
  active := by
    intro address q hq
    by_cases haddress : address = request.address
    · rw [haddress]
      exact Function.update_self _ _ _
    · have hq' : s.countsByRequest address = some q :=
        (Function.update_of_ne haddress _ s.countsByRequest).symm.trans hq
      exact (Function.update_of_ne haddress true s.active).trans (h.active hq')
  answerable := by
    intro q counts hq
    rcases get?_addCounts_cases (P := P) hq with rfl | hold
    · rintro ⟨⟩
    · exact h.answerable hold
  holds := h.holds

theorem startRequest {request : URLRequest} (h : Sound s)
    (hactive : s.active request.address = false) (hfile : P.schemeIsFile request.url = false) :
    Sound ((s.startRequest P request).activate request.address) := by
  have hnone : s.countsByRequest request.address = none := by
    cases hmap : s.countsByRequest request.address with
    | none => rfl
    | some p =>
      rw [h.active hmap] at hactive
      cases hactive
  refine (h.check ?_).startEstimateRound.addCounts request
  rw [hnone, hfile]
  rfl

/-! ## Trimming -/

/-- A record without an entry can be freed. -/
theorem removeCounts (h : Sound s) (hp : ∀ request, s.countsByRequest request ≠ some p) :
    Sound (s.removeCounts p) where
  live := by
    intro request q hq
    obtain ⟨counts, hcounts, hlive⟩ := h.live hq
    have hqp : q ≠ p := by
      rintro rfl
      exact hp request hq
    refine ⟨counts, ?_, hlive⟩
    rw [RequestTrackerImpl.removeCounts, get?_remove, if_neg hqp]
    exact hcounts
  active := h.active
  answerable := by
    intro q counts hq
    rw [RequestTrackerImpl.removeCounts, get?_remove] at hq
    by_cases hqp : q = p
    · rw [if_pos hqp] at hq
      cases hq
    · rw [if_neg hqp] at hq
      exact h.answerable hq
  holds := h.holds

/-- No entry for a record is left: it would be one of the request in it. -/
theorem countsByRequest_forgetUnfinished {counts : TrackerCounts} (h : Sound s)
    (hp : s.counts.get? p = some counts) (request : Nat) :
    (s.forgetUnfinished P p counts).countsByRequest request ≠ some p := by
  intro hmap
  obtain ⟨other, hother, hrequest, hdone⟩ :=
    h.live ((Keeps.forgetUnfinished s p counts).mapped _ _ hmap)
  rw [hp] at hother
  cases hother
  rw [RequestTrackerImpl.forgetUnfinished, hdone, if_neg Bool.false_ne_true,
    countsByRequest_eraseRequest, if_pos hrequest.symm] at hmap
  cases hmap

theorem forgetUnfinished {counts : TrackerCounts} (h : Sound s)
    (hp : s.counts.get? p = some counts) : Sound (s.forgetUnfinished P p counts) := by
  rw [RequestTrackerImpl.forgetUnfinished]
  split
  · exact h
  · split
    · rename_i hunknown
      exact (h.cancelRequestForCounts hp (h.answerable hp hunknown).1).eraseRequest _
    · exact h.eraseRequest _

theorem trimCounts (h : Sound s) (hp : p ∈ s.counts.pointers) : Sound (s.trimCounts P p) := by
  obtain ⟨counts, hcounts⟩ := isSome_iff_exists.1 (isSome_get?_iff.2 hp)
  simp only [RequestTrackerImpl.trimCounts, withCounts, hcounts]
  exact (h.forgetUnfinished hcounts).removeCounts (h.countsByRequest_forgetUnfinished hcounts)

end Sound

theorem pointers_trimCounts {s : RequestTrackerImpl} {p : Nat} (hp : p ∈ s.counts.pointers) :
    (s.trimCounts P p).counts.pointers = s.counts.pointers.filter (· ≠ p) := by
  obtain ⟨counts, hcounts⟩ := isSome_iff_exists.1 (isSome_get?_iff.2 hp)
  simp only [trimCounts, withCounts, hcounts, removeCounts, pointers_remove,
    (Keeps.forgetUnfinished s p counts).pointers]

namespace Sound

variable {s : RequestTrackerImpl}

/-- The loop of `TrimToURL`: the records that are left to visit are still there. -/
theorem foldl_trimCounts {ps : List Nat} (h : Sound s) (hnodup : ps.Nodup)
    (hps : ∀ p ∈ ps, p ∈ s.counts.pointers) :
    Sound (ps.foldl (RequestTrackerImpl.trimCounts P) s) := by
  induction ps generalizing s with
  | nil => exact h
  | cons p ps ih =>
    obtain ⟨hfresh, hnodup⟩ := nodup_cons.1 hnodup
    have hp : p ∈ s.counts.pointers := hps p mem_cons_self
    refine ih (h.trimCounts hp) hnodup fun q hq => ?_
    rw [pointers_trimCounts hp, mem_filter]
    refine ⟨hps q (mem_cons_of_mem p hq), decide_eq_true ?_⟩
    rintro rfl
    exact hfresh hq

theorem recomputeMixedContent (h : Sound s) (split : Option Nat) :
    Sound (s.recomputeMixedContent P split) := by
  rw [RequestTrackerImpl.recomputeMixedContent]
  split
  · exact ⟨h.live, h.active, h.answerable, h.holds⟩
  · exact h

theorem enterPage (h : Sound s) (url : GURL) (newUrlHasMixedContent : Bool) :
    Sound (s.enterPage url newUrlHasMixedContent) :=
  ⟨h.live, h.active, h.answerable, h.holds⟩

theorem trimPage (h : Sound s) (fullUrl : GURL) : Sound (s.trimPage P fullUrl) := by
  refine enterPage (foldl_trimCounts ?_ ?_ ?_) _ _
  · exact (h.recomputeMixedContent _).post _
  · exact (pointers_nodup _).sublist (takeWhile_sublist _)
  · exact fun p hp => (takeWhile_sublist _).subset hp

theorem historyStateChangeToURL (h : Sound s) (fullUrl : GURL) :
    Sound (s.historyStateChangeToURL P fullUrl) := by
  unfold RequestTrackerImpl.historyStateChangeToURL
  simp only
  split
  · exact ⟨h.live, h.active, h.answerable, h.holds⟩
  · exact h

/-- Each operation keeps the map sound. -/
theorem step (h : Sound s) (op : Op) (hpre : op.Pre P s) : Sound (s.step P op) := by
  cases op with
  | startRequest request => exact h.startRequest hpre.1 hpre.2
  | captureExpectedLength request length =>
    exact h.reentry request (.captureExpectedLength length)
  | captureReceivedBytes request sslInfo byteCount =>
    exact h.captureReceivedBytes request sslInfo byteCount
  | stopRequest request sslInfo => exact h.reentry request (.stopRequest sslInfo)
  | stopRedirectedRequest request sslInfo =>
    exact h.reentry request (.stopRedirectedRequest sslInfo)
  | captureCertificatePolicyCache request url cert certStatus =>
    exact h.issueCallback.captureCertificatePolicyCache request url cert certStatus _
  | onSSLCertificateError request sslInfo recoverable =>
    exact h.issueCallback.onSSLCertificateError request recoverable _ hpre
  | cancelRequestForCounts p =>
    obtain ⟨callback, hcallback⟩ := isSome_iff_exists.1 hpre
    obtain ⟨counts, hcounts, hsome⟩ := bind_eq_some_iff.1 hcallback
    exact h.cancelRequestForCounts hcounts (isSome_of_eq_some hsome)
  | trimToURL url => exact (h.trimPage url).reevaluateCallbacksForAllCounts
  | stopPageLoad => exact ⟨h.live, h.active, h.answerable, h.holds⟩
  | historyStateChangeToURL url => exact h.historyStateChangeToURL url
  | close => exact ⟨h.live, h.active, h.answerable, h.holds⟩
  | changePolicies policyCache => exact h.setPolicyCache policyCache

end Sound

/-- **Request map**: in every state that is reached, an entry of the map points to
a record of that request which the tracker owns and which is not done, and no
check failed on the way. -/
theorem request_map_sound (P : RequestPlatform) (policyCache : CertificatePolicyCache)
    (ops : List Op) (hlegal : (machine P).Legal (.new policyCache) ops) :
    (∀ request p, ((machine P).run (.new policyCache) ops).countsByRequest request = some p →
      ((machine P).run (.new policyCache) ops).Live request p) ∧
    ((machine P).run (.new policyCache) ops).failed = false := by
  have hsound : Sound ((machine P).run (.new policyCache) ops) :=
    (machine P).run_invariant (I := Sound) (fun _ op h hpre => h.step op hpre) (.new policyCache)
      hlegal
  exact ⟨fun _ _ hmap => hsound.live hmap, hsound.holds⟩

/-- URLs without references, whose certificates have expired. A request whose
callback is run with `false` stops. -/
def plainRequestPlatform : RequestPlatform where
  environment :=
    { urlRewriters := []
      isAppSpecificURL := fun _ => false
      getOrigin := fun url => url
      hasRef := fun _ => false
      equalsIgnoringRef := GURL.eq }
  removeRef := fun url => url
  schemeIsCryptographic := fun _ => true
  schemeIsFile := fun _ => false
  host := GURL.spec
  fingerprint := fun _ => 0
  mapCertStatusToNetError := fun _ => .certDateInvalid
  reenter := fun _ answer => if answer then [] else [.stopRequest .new]

/-- A request of a page of its own. -/
def pageRequest (address : Nat) (spec : String) : URLRequest :=
  ⟨address, ⟨spec, true⟩, ⟨spec, true⟩, ⟨spec, true⟩⟩

/-- Three requests, two of them at one address. -/
def reusedAddressOps : List Op :=
  [.startRequest (pageRequest 1 "https://a/"), .trimToURL ⟨"https://a/", true⟩,
    .startRequest (pageRequest 2 "https://b/"), .stopRequest 1 .new,
    .startRequest (pageRequest 1 "https://c/")]

theorem request_map_sound_reused :
    let s := (machine plainRequestPlatform).run (.new ⟨.empty⟩) reusedAddressOps
    (∀ request p, s.countsByRequest request = some p → s.Live request p) ∧ s.failed = false :=
  request_map_sound plainRequestPlatform ⟨.empty⟩ reusedAddressOps
    (by decide)

end RequestTrackerImpl

end ChromiumIos
