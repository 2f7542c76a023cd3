import ChromiumIos.Web.RequestTrackerCallbacks

/-!
# The answer to a certificate error

What holds of the callbacks in every state that is reached, and when the callback
of a certificate error is run.

- `Settled.step`: while the tracker is not closing no callback waits between two
  operations, and none is run twice.
- `certificate_error_answered_iff`: the callback of an error is run exactly once if
  and only if the request is in the map and the tracker is not closing.
-/

namespace ChromiumIos

open Lib

namespace RequestTrackerImpl

variable {P : RequestPlatform}

/-- What holds between two operations. -/
structure Settled (s : RequestTrackerImpl) : Prop where
  sound : Sound s
  numbered : Numbered s.nextCallback s
  quiet : s.isClosing = false → ∀ p, s.QuietAt p

theorem Captured.quietAt {s t : RequestTrackerImpl} (h : Captured s t) {p : Nat}
    (hp : s.QuietAt p) : t.QuietAt p := by
  intro d hd
  obtain ⟨c, hc, hcd⟩ := h.of_get? hd
  exact hcd.quiet (hp c hc)

variable {s : RequestTrackerImpl}

theorem quietAt_cancelRequestForCounts {p q : Nat} (hq : s.QuietAt q) :
    (s.cancelRequestForCounts P p).QuietAt q := by
  intro d hd
  obtain ⟨c, hc⟩ := (Keeps.cancelRequestForCounts s p).get? hd
  by_cases hqp : q = p
  · rw [hqp] at hc hd
    obtain ⟨e, he, -, -, hcallback, hdone⟩ := get?_cancelRequestForCounts (P := P) hc
    rw [hd] at he
    cases he
    exact fun _ => ⟨hdone, hcallback⟩
  · obtain ⟨e, he, hce⟩ := (OthersKept.cancelRequestForCounts (P := P) s p).counts hqp hc
    rw [hd] at he
    cases he
    exact hce.quiet (hq c hc)

theorem quietAt_addCounts {q : Nat} (request : URLRequest)
    (hq : s.QuietAt q) : (s.addCounts P request).QuietAt q := by
  intro d hd
  rcases get?_addCounts_cases hd with rfl | hold
  · rintro ⟨⟩
  · exact hq d hold

/-- The record that a certificate error is stored in. -/
theorem Sound.storeSSLError {s : RequestTrackerImpl} {p : Nat} {c : TrackerCounts} (h : Sound s)
    {sslInfo : SSLInfo} (hvalid : sslInfo.isValid = true) (hdone : c.done = false)
    (recoverable : Bool) (shouldContinue : SSLCallback) :
    Sound (((s.check sslInfo.isValid).check (!c.done)).modify p
      (·.storeSSLError sslInfo recoverable shouldContinue)) := by
  refine Sound.modify ((h.check hvalid).check (by rw [hdone]; rfl)) ?_
  intro counts _
  exact ⟨rfl, rfl, fun _ => ⟨rfl, hvalid⟩⟩

theorem quiet_onSSLCertificateError (h : Sound s)
    (hopen : s.isClosing = false) (hquiet : ∀ p, s.QuietAt p) (request : Nat) {sslInfo : SSLInfo}
    (hvalid : sslInfo.isValid = true) (recoverable : Bool) (shouldContinue : SSLCallback)
    (p : Nat) :
    (s.onSSLCertificateError P request sslInfo recoverable shouldContinue).QuietAt p := by
  cases hmap : s.countsByRequest request with
  | none =>
    rw [onSSLCertificateError_of_none hmap]
    exact hquiet p
  | some q =>
    obtain ⟨c, hc, -, hdone⟩ := h.live hmap
    rw [onSSLCertificateError_of_some hmap hc]
    exact quiet_reevaluateCallbacksForAllCounts
      (h.storeSSLError hvalid hdone recoverable shouldContinue) hopen p

namespace Settled

variable {s : RequestTrackerImpl}

theorem new (policyCache : CertificatePolicyCache) : Settled (.new policyCache) :=
  ⟨.new policyCache, .new policyCache, fun _ _ c hc => by cases hc⟩

/-- A request captures data or stops. -/
theorem captured {t : RequestTrackerImpl} (h : Settled s) (hsound : Sound t)
    (hst : Captured s t) : Settled t where
  sound := hsound
  numbered := by
    rw [hst.keeps.nextCallback]
    exact h.numbered.captured hst
  quiet hopen p := hst.quietAt (h.quiet (hst.keeps.isClosing.symm.trans hopen) p)

theorem startRequest (h : Settled s) {request : URLRequest}
    (hpre : (Op.startRequest request).Pre P s) : Settled (s.step P (.startRequest request)) where
  sound := h.sound.step _ hpre
  numbered := by
    have hnumbered := h.numbered.startRequest (P := P) request
    rwa [← (Follows.startRequest s request).nextCallback] at hnumbered
  quiet := by
    intro hopen p
    have hopen' : s.isClosing = false := (Follows.startRequest s request).isClosing ▸ hopen
    refine quietAt_addCounts (s := (s.check _).startEstimateRound) request ?_
    unfold startEstimateRound
    split <;> exact h.quiet hopen' p

theorem onSSLCertificateError (h : Settled s) (request : Nat) {sslInfo : SSLInfo}
    (hvalid : sslInfo.isValid = true) (recoverable : Bool) :
    Settled (s.step P (.onSSLCertificateError request sslInfo recoverable)) where
  sound := h.sound.step _ hvalid
  numbered := by
    have hkeeps := Keeps.onSSLCertificateError (P := P)
      s.issueCallback request sslInfo recoverable
      (s.callbackFor request)
    rw [show (s.step P (.onSSLCertificateError request sslInfo recoverable)).nextCallback =
      s.nextCallback + 1 from hkeeps.nextCallback]
    exact h.numbered.issueCallback.onSSLCertificateError h.sound.issueCallback request sslInfo
      recoverable
  quiet hopen p := by
    have hopen' : s.isClosing = false :=
      (Keeps.onSSLCertificateError (P := P) s.issueCallback request
        sslInfo recoverable (s.callbackFor request)).isClosing ▸ hopen
    exact quiet_onSSLCertificateError h.sound.issueCallback hopen' (h.quiet hopen') request hvalid
      recoverable _ p

theorem captureCertificatePolicyCache (h : Settled s) (request : Nat) (url : GURL) (cert : NSData)
    (certStatus : CertStatus) :
    Settled (s.step P (.captureCertificatePolicyCache request url cert certStatus)) where
  sound := h.sound.step _ trivial
  numbered := by
    have hkeeps := Keeps.captureCertificatePolicyCache (P := P)
      s.issueCallback request url cert certStatus
      (s.callbackFor request)
    rw [show (s.step P (.captureCertificatePolicyCache request url cert certStatus)).nextCallback =
      s.nextCallback + 1 from hkeeps.nextCallback]
    exact h.numbered.issueCallback.captureCertificatePolicyCache h.sound.issueCallback request url
      cert certStatus
  quiet hopen p := by
    have hopen' : s.isClosing = false :=
      (Keeps.captureCertificatePolicyCache (P := P) s.issueCallback
        request url cert certStatus (s.callbackFor request)).isClosing ▸ hopen
    simp only [RequestTrackerImpl.step, RequestTrackerImpl.captureCertificatePolicyCache]
    split
    · exact quiet_onSSLCertificateError (h.sound.issueCallback.setPolicyCache _) hopen'
        (h.quiet hopen') request rfl true _ p
    · refine (captured_runCallback P _ true s.nextCallback request).quietAt ?_
      exact (Captured.captureCertificateUsed _ request _ cert certStatus).quietAt
        (h.quiet hopen' p)

theorem cancelRequestForCounts (h : Settled s) {p : Nat}
    (hpre : (Op.cancelRequestForCounts p).Pre P s) :
    Settled (s.step P (.cancelRequestForCounts p)) where
  sound := h.sound.step _ hpre
  numbered := by
    have hnumbered := h.numbered.cancelRequestForCounts (P := P) p
    rwa [← (Keeps.cancelRequestForCounts (P := P) s p).nextCallback] at hnumbered
  quiet hopen q := by
    have hopen' : s.isClosing = false :=
      (Keeps.cancelRequestForCounts (P := P) s p).isClosing ▸ hopen
    exact quietAt_cancelRequestForCounts (h.quiet hopen' q)

theorem trimToURL (h : Settled s) (url : GURL) : Settled (s.step P (.trimToURL url)) where
  sound := h.sound.step _ trivial
  numbered := by
    have hnumbered := (h.numbered.trimPage (P := P) url).reevaluateCallbacksForAllCounts (P := P)
    rwa [← (Follows.trimToURL (P := P) s url).nextCallback] at hnumbered
  quiet hopen p := by
    have hopen' : (s.trimPage P url).isClosing = false :=
      (Keeps.reevaluateCallbacksForAllCounts (P := P) _).isClosing ▸ hopen
    exact quiet_reevaluateCallbacksForAllCounts (h.sound.trimPage url) hopen' p

/-- Each operation leaves the callbacks settled. -/
theorem step (h : Settled s) (op : Op) (hpre : op.Pre P s) : Settled (s.step P op) := by
  have hsound := h.sound.step op hpre
  cases op with
  | startRequest request => exact h.startRequest hpre
  | captureExpectedLength request length =>
    exact h.captured hsound (.reentry request s (.captureExpectedLength length))
  | captureReceivedBytes request sslInfo byteCount =>
    exact h.captured hsound (.reentry request s (.captureReceivedBytes sslInfo byteCount))
  | stopRequest request sslInfo =>
    exact h.captured hsound (.reentry request s (.stopRequest sslInfo))
  | stopRedirectedRequest request sslInfo =>
    exact h.captured hsound (.reentry request s (.stopRedirectedRequest sslInfo))
  | captureCertificatePolicyCache request url cert certStatus =>
    exact h.captureCertificatePolicyCache request url cert certStatus
  | onSSLCertificateError request sslInfo recoverable =>
    exact h.onSSLCertificateError request hpre recoverable
  | cancelRequestForCounts p => exact h.cancelRequestForCounts hpre
  | trimToURL url => exact h.trimToURL url
  | stopPageLoad => exact ⟨hsound, h.numbered.of_eq rfl rfl, h.quiet⟩
  | historyStateChangeToURL url =>
    simp only [RequestTrackerImpl.step, historyStateChangeToURL] at hsound ⊢
    split
    · exact ⟨⟨h.sound.live, h.sound.active, h.sound.answerable, h.sound.holds⟩,
        h.numbered.of_eq rfl rfl, h.quiet⟩
    · exact h
  | close => exact ⟨hsound, h.numbered.of_eq rfl rfl, fun hopen => by cases hopen⟩
  | changePolicies policyCache => exact ⟨hsound, h.numbered.setPolicyCache policyCache, h.quiet⟩

/-- In every state that is reached the callbacks are settled. -/
theorem run (policyCache : CertificatePolicyCache) {ops : List Op}
    (hlegal : (machine P).Legal (.new policyCache) ops) :
    Settled ((machine P).run (.new policyCache) ops) :=
  (machine P).run_invariant (I := Settled) (fun _ op h hpre => h.step op hpre) (.new policyCache)
    hlegal

end Settled

/-! ## The answer -/

/-- How often a callback was run. -/
def timesRun (s : RequestTrackerImpl) (number : Nat) : Nat := s.answered.count number

/-- The callback was run, or it waits in the record. -/
def Pending (number p : Nat) (s : RequestTrackerImpl) : Prop :=
  number ∈ s.answered ∨
    ∃ c request, s.counts.get? p = some c ∧ c.sslJudgment = .unknown ∧
      c.sslCallback = some (.bound number request)

theorem mem_answered_of_isPrefix {s t : RequestTrackerImpl} (h : s.answers <+: t.answers)
    {number : Nat} (hnumber : number ∈ s.answered) : number ∈ t.answered :=
  (h.map (·.1)).subset hnumber

variable {s : RequestTrackerImpl}

/-- A judgment runs the callback that waits in the record. -/
theorem mem_answered_applyJudgment {p number request : Nat}
    {c : TrackerCounts} (judgment : Judgment) (hc : s.counts.get? p = some c)
    (hcallback : c.sslCallback = some (.bound number request)) :
    number ∈ (s.applyJudgment P p judgment).answered := by
  have hanswer : ∀ (t : RequestTrackerImpl) (d : TrackerCounts) (answer : Bool),
      t.counts.get? p = some d → d.sslCallback = c.sslCallback →
        number ∈ (t.answerCounts P p answer).answered := by
    intro t d answer hd hsame
    rw [answered, answers_answerCounts answer hd, hsame, hcallback, List.map_append]
    exact List.mem_append_right _ List.mem_cons_self
  have hjudged := get?_modify_self hc fun counts => { counts with sslJudgment := judgment }
  have hcancel : number ∈ ((s.modify p fun counts =>
      { counts with sslJudgment := judgment }).cancelRequestForCounts P p).answered := by
    simp only [cancelRequestForCounts, withCounts, hjudged]
    exact hanswer _ _ false
      (get?_modify_self hjudged fun counts => { counts with done := true }) rfl
  cases judgment with
  | unknown => exact hcancel
  | denied => exact hcancel
  | allowed => exact hanswer _ _ true hjudged rfl

/-- One round of the loop runs the callback, or leaves it waiting. -/
theorem pending_reevaluateCallback (h : Sound s) {number p : Nat}
    (hpending : s.Pending number p) (q : Nat) : (s.reevaluateCallback P q).Pending number p := by
  rcases hpending with hanswered | ⟨c, request, hc, hunknown, hcallback⟩
  · exact .inl (mem_answered_of_isPrefix (Keeps.reevaluateCallback s q).answers hanswered)
  · by_cases hqp : p = q
    · rw [← hqp]
      obtain ⟨cert, hcert⟩ := Option.isSome_iff_exists.1 (h.answerable hc hunknown).2
      simp only [reevaluateCallback, evaluateSSLCallbackForCounts, withCounts, hc, hunknown,
        if_true, hcert]
      exact .inl (mem_answered_applyJudgment (s := s.setPolicyCache _) _ hc hcallback)
    · obtain ⟨d, hd, hcd⟩ := (OthersKept.reevaluateCallback (P := P) s q).counts hqp hc
      exact .inr ⟨d, request, hd, hcd.sslJudgment.trans hunknown, hcd.sslCallback.trans hcallback⟩

/-- The loop runs the callback that waits in a record. -/
theorem mem_answered_reevaluateCallbacksForAllCounts (h : Sound s)
    (hopen : s.isClosing = false) {number p : Nat} (hpending : s.Pending number p) :
    number ∈ (s.reevaluateCallbacksForAllCounts P).answered := by
  have hquiet := quiet_reevaluateCallbacksForAllCounts (P := P) h hopen p
  rw [reevaluateCallbacksForAllCounts, hopen, if_neg Bool.false_ne_true] at hquiet ⊢
  have hloop := Sound.foldl_reevaluateCallback (P := P) (I := fun _ t => t.Pending number p)
    (fun q _ t ht hwaits => pending_reevaluateCallback ht hwaits q) h s.counts.pointers
    (fun _ hq => hq) hpending
  rcases hloop.2 with hanswered | ⟨c, request, hc, hunknown, hcallback⟩
  · exact hanswered
  · -- nothing waits after the loop
    rw [(hquiet c hc hunknown).2] at hcallback
    cases hcallback

/-- What was answered stays so. -/
theorem answers_step (s : RequestTrackerImpl) (op : Op) : s.answers <+: (s.step P op).answers := by
  cases op with
  | startRequest request => exact (Follows.startRequest s request).answers
  | captureExpectedLength request length =>
    exact (Keeps.reentry request s (.captureExpectedLength length)).answers
  | captureReceivedBytes request sslInfo byteCount =>
    exact (Keeps.reentry request s (.captureReceivedBytes sslInfo byteCount)).answers
  | stopRequest request sslInfo => exact (Keeps.reentry request s (.stopRequest sslInfo)).answers
  | stopRedirectedRequest request sslInfo =>
    exact (Keeps.reentry request s (.stopRedirectedRequest sslInfo)).answers
  | captureCertificatePolicyCache request url cert certStatus =>
    exact (Keeps.captureCertificatePolicyCache s.issueCallback request url cert
      certStatus _).answers
  | onSSLCertificateError request sslInfo recoverable =>
    exact (Keeps.onSSLCertificateError s.issueCallback request sslInfo recoverable _).answers
  | cancelRequestForCounts p => exact (Keeps.cancelRequestForCounts s p).answers
  | trimToURL url => exact (Follows.trimToURL s url).answers
  | historyStateChangeToURL url =>
    simp only [step, historyStateChangeToURL]
    split <;> exact List.prefix_refl _
  | stopPageLoad | close | changePolicies policyCache => exact List.prefix_refl _

theorem answers_run (s : RequestTrackerImpl) (ops : List Op) :
    s.answers <+: ((machine P).run s ops).answers := by
  induction ops generalizing s with
  | nil => exact List.prefix_refl _
  | cons op ops ih => exact (answers_step s op).trans (ih _)

/-- A new callback was not run. -/
theorem Settled.timesRun_nextCallback (h : Settled s) : s.timesRun s.nextCallback = 0 :=
  List.count_eq_zero.2 fun hmem => Nat.lt_irrefl _ (h.numbered.lt_next _ hmem)

/-- The error of a request in the map is answered, unless the tracker is closing. -/
theorem mem_answered_onSSLCertificateError (h : Settled s)
    {request p : Nat} {sslInfo : SSLInfo} (hvalid : sslInfo.isValid = true)
    (hmap : s.countsByRequest request = some p) (hopen : s.isClosing = false) :
    s.nextCallback ∈ (s.step P (.onSSLCertificateError request sslInfo true)).answered := by
  obtain ⟨c, hc, -, hdone⟩ := h.sound.issueCallback.live hmap
  have hstep : s.step P (.onSSLCertificateError request sslInfo true) =
      (((s.issueCallback.check sslInfo.isValid).check (!c.done)).modify p
        (·.storeSSLError sslInfo true (s.callbackFor request))).reevaluateCallbacksForAllCounts P :=
    onSSLCertificateError_of_some (s := s.issueCallback) hmap hc sslInfo true _
  rw [hstep]
  refine mem_answered_reevaluateCallbacksForAllCounts (p := p)
    (h.sound.issueCallback.storeSSLError hvalid hdone true _) hopen (.inr ?_)
  exact ⟨_, request, get?_modify_self hc _, rfl, rfl⟩

/-- The error of another request, or one while the tracker is closing, is not. -/
theorem answers_onSSLCertificateError (h : Settled s) {request : Nat}
    {sslInfo : SSLInfo}
    (hnot : s.countsByRequest request = none ∨ s.isClosing = true) :
    (s.step P (.onSSLCertificateError request sslInfo true)).answers = s.answers := by
  cases hmap : s.countsByRequest request with
  | none =>
    have hstep : s.step P (.onSSLCertificateError request sslInfo true) =
        s.issueCallback.check sslInfo.isValid :=
      onSSLCertificateError_of_none (s := s.issueCallback) hmap sslInfo true _
    rw [hstep]
    rfl
  | some p =>
    have hclosing : s.isClosing = true := hnot.resolve_left fun hnone => by
      rw [hmap] at hnone
      cases hnone
    obtain ⟨c, hc, -⟩ := h.sound.issueCallback.live hmap
    have hstep : s.step P (.onSSLCertificateError request sslInfo true) =
        (((s.issueCallback.check sslInfo.isValid).check (!c.done)).modify p
          (·.storeSSLError sslInfo true (s.callbackFor request))).reevaluateCallbacksForAllCounts
            P :=
      onSSLCertificateError_of_some (s := s.issueCallback) hmap hc sslInfo true _
    rw [hstep, reevaluateCallbacksForAllCounts]
    exact (congrArg answers (if_pos hclosing)).trans rfl

/-- **Answers**: in every state that is reached, the callback of a recoverable
certificate error is run exactly once when the call returns, and is not run again
whatever happens, if and only if the request is in the map and the tracker is not
closing. -/
theorem certificate_error_answered_iff (P : RequestPlatform) (policyCache : CertificatePolicyCache)
    (ops : List Op) (hlegal : (machine P).Legal (.new policyCache) ops) (request : Nat)
    (sslInfo : SSLInfo) (hvalid : sslInfo.isValid = true) :
    let s := (machine P).run (.new policyCache) ops
    let t := s.step P (.onSSLCertificateError request sslInfo true)
    (t.timesRun s.nextCallback = 1 ∧ ∀ later, (machine P).Legal t later →
      ((machine P).run t later).timesRun s.nextCallback = 1) ↔
    (s.countsByRequest request).isSome = true ∧ s.isClosing = false := by
  intro s t
  have hs : Settled s := .run policyCache hlegal
  have ht : Settled t := hs.onSSLCertificateError request hvalid true
  constructor
  · rintro ⟨hrun, -⟩
    by_contra hnot
    -- in all other cases the tracker returns early
    have hanswers : t.answers = s.answers := by
      refine answers_onSSLCertificateError hs ?_
      cases hmap : s.countsByRequest request with
      | none => exact .inl rfl
      | some p =>
        cases hclosing : s.isClosing with
        | true => exact .inr rfl
        | false => exact absurd ⟨Option.isSome_of_eq_some hmap, hclosing⟩ hnot
    have hzero : t.timesRun s.nextCallback = 0 := by
      rw [timesRun, answered, hanswers]
      exact hs.timesRun_nextCallback
    omega
  · rintro ⟨hsome, hopen⟩
    obtain ⟨p, hmap⟩ := Option.isSome_iff_exists.1 hsome
    have hmem : s.nextCallback ∈ t.answered :=
      mem_answered_onSSLCertificateError hs hvalid hmap hopen
    -- answers are only added, and never twice under one number
    refine ⟨List.count_eq_one_of_mem ht.numbered.nodup hmem, fun later hlater => ?_⟩
    have hlater' : Settled ((machine P).run t later) :=
      (machine P).run_invariant (I := Settled) (fun _ op h hpre => h.step op hpre) ht hlater
    exact List.count_eq_one_of_mem hlater'.numbered.nodup
      (mem_answered_of_isPrefix (answers_run t later) hmem)

/-- A request of the last page is still loading when the first request of the next
one is started: nobody answers its certificate error. -/
def forgottenRequestOps : List Op :=
  [.startRequest (pageRequest 1 "https://a/"), .trimToURL ⟨"https://a/", true⟩,
    .startRequest (pageRequest 2 "https://b/")]

theorem forgotten_request_is_not_answered :
    let s := (machine plainRequestPlatform).run (.new ⟨.empty⟩) forgottenRequestOps
    let t := s.step plainRequestPlatform (.onSSLCertificateError 1 ⟨some [48], 2⟩ true)
    (machine plainRequestPlatform).Along (fun s op => op.Pre plainRequestPlatform s) (.new ⟨.empty⟩)
        forgottenRequestOps ∧
      s.active 1 = true ∧ t.timesRun s.nextCallback = 0 := by
  decide

theorem certificate_error_answered_iff_reused :
    let s := (machine plainRequestPlatform).run (.new ⟨.empty⟩) reusedAddressOps
    let t := s.step plainRequestPlatform (.onSSLCertificateError 1 ⟨some [48], 2⟩ true)
    (t.timesRun s.nextCallback = 1 ∧ ∀ later, (machine plainRequestPlatform).Legal t later →
      ((machine plainRequestPlatform).run t later).timesRun s.nextCallback = 1) ↔
    (s.countsByRequest 1).isSome = true ∧ s.isClosing = false :=
  certificate_error_answered_iff plainRequestPlatform ⟨.empty⟩ reusedAddressOps
    (by decide) 1 ⟨some [48], 2⟩ rfl

end RequestTrackerImpl

end ChromiumIos
