import ChromiumIos.Web.RequestTrackerMap

/-!
# The callbacks of a request tracker

Which callbacks the records hold, and when they are run. A certificate error
parks a callback in the record that the map has for the request, and the loop over
all records runs it.

- `Captured`: what a request may change while its callback runs.
- `Numbered`: a callback is held by one record at most, and is not held any more
  once it was run.
- `quiet_reevaluateCallbacksForAllCounts`: the loop leaves no callback waiting.
-/

namespace ChromiumIos

open Lib List

namespace RequestTrackerImpl

variable {P : RequestPlatform}

/-! ## What a request changes while its callback runs -/

/-- A record after its request captured data or stopped. -/
structure SameCallback (c d : TrackerCounts) : Prop where
  request : d.request = c.request
  sslJudgment : d.sslJudgment = c.sslJudgment
  sslCallback : d.sslCallback = c.sslCallback
  done : c.done = true → d.done = true

theorem SameCallback.refl (c : TrackerCounts) : SameCallback c c := ⟨rfl, rfl, rfl, fun h => h⟩

theorem SameCallback.trans {c d e : TrackerCounts} (hcd : SameCallback c d)
    (hde : SameCallback d e) : SameCallback c e where
  request := hde.request.trans hcd.request
  sslJudgment := hde.sslJudgment.trans hcd.sslJudgment
  sslCallback := hde.sslCallback.trans hcd.sslCallback
  done h := hde.done (hcd.done h)

/-- The records other than that of `p` keep their callbacks. -/
structure OthersKept (p : Nat) (s t : RequestTrackerImpl) : Prop where
  counts : ∀ {q c}, q ≠ p → s.counts.get? q = some c →
    ∃ d, t.counts.get? q = some d ∧ SameCallback c d

theorem OthersKept.refl (p : Nat) (s : RequestTrackerImpl) : OthersKept p s s :=
  ⟨fun _ hc => ⟨_, hc, .refl _⟩⟩

theorem OthersKept.trans {p : Nat} {s t u : RequestTrackerImpl} (hst : OthersKept p s t)
    (htu : OthersKept p t u) : OthersKept p s u where
  counts hq hc := by
    obtain ⟨d, hd, hcd⟩ := hst.counts hq hc
    obtain ⟨e, he, hde⟩ := htu.counts hq hd
    exact ⟨e, he, hcd.trans hde⟩

theorem get?_modify_self {s : RequestTrackerImpl} {p : Nat} {c : TrackerCounts}
    (hc : s.counts.get? p = some c) (f : TrackerCounts → TrackerCounts) :
    (s.modify p f).counts.get? p = some (f c) := by
  rw [modify, Pool.get?_modify, if_pos rfl, hc]
  rfl

theorem OthersKept.modify (s : RequestTrackerImpl) (p : Nat) (f : TrackerCounts → TrackerCounts) :
    OthersKept p s (s.modify p f) where
  counts := by
    intro q c hq hc
    refine ⟨c, ?_, .refl c⟩
    rw [RequestTrackerImpl.modify, Pool.get?_modify, if_neg hq]
    exact hc

/-- From `s` to `t`, requests captured data or stopped. -/
structure Captured (s t : RequestTrackerImpl) : Prop where
  keeps : Keeps s t
  counts : ∀ {p c}, s.counts.get? p = some c → ∃ d, t.counts.get? p = some d ∧ SameCallback c d
  answers : t.answers = s.answers

namespace Captured

theorem refl (s : RequestTrackerImpl) : Captured s s := ⟨.refl s, fun h => ⟨_, h, .refl _⟩, rfl⟩

theorem trans {s t u : RequestTrackerImpl} (hst : Captured s t) (htu : Captured t u) :
    Captured s u where
  keeps := hst.keeps.trans htu.keeps
  counts hc := by
    obtain ⟨d, hd, hcd⟩ := hst.counts hc
    obtain ⟨e, he, hde⟩ := htu.counts hd
    exact ⟨e, he, hcd.trans hde⟩
  answers := htu.answers.trans hst.answers

/-- Where a record comes from. -/
theorem of_get? {s t : RequestTrackerImpl} (h : Captured s t) {p : Nat} {d : TrackerCounts}
    (hd : t.counts.get? p = some d) : ∃ c, s.counts.get? p = some c ∧ SameCallback c d := by
  have hp : p ∈ s.counts.pointers := h.keeps.pointers ▸ Pool.mem_pointers_of_get? hd
  obtain ⟨c, hc⟩ := Option.isSome_iff_exists.1 (Pool.isSome_get?_iff.2 hp)
  obtain ⟨e, he, hce⟩ := h.counts hc
  rw [hd] at he
  cases he
  exact ⟨c, hc, hce⟩

/-- The request of a record captures data. -/
theorem modify (s : RequestTrackerImpl) (p : Nat) {f : TrackerCounts → TrackerCounts}
    (hf : ∀ c, SameCallback c (f c)) : Captured s (s.modify p f) where
  keeps := .modify s p f
  counts := by
    intro q c hc
    by_cases hq : q = p
    · rw [hq] at hc ⊢
      exact ⟨f c, get?_modify_self hc f, hf c⟩
    · exact (OthersKept.modify s p f).counts hq hc
  answers := rfl

theorem check (s : RequestTrackerImpl) (condition : Bool) : Captured s (s.check condition) :=
  ⟨.check s condition, fun h => ⟨_, h, .refl _⟩, rfl⟩

theorem captureRequest (s : RequestTrackerImpl) (request : Nat) {f : TrackerCounts → TrackerCounts}
    (hf : ∀ c, SameCallback c (f c)) : Captured s (s.captureRequest request f) := by
  rw [RequestTrackerImpl.captureRequest]
  cases s.countsByRequest request with
  | none => exact refl s
  | some p =>
    simp only [withCounts]
    cases s.counts.get? p with
    | none => exact check s false
    | some counts => exact (check s _).trans (modify _ p hf)

theorem sameCallback_captureSSLInfo (c : TrackerCounts) (sslInfo : SSLInfo) :
    SameCallback c (c.captureSSLInfo sslInfo) := by
  unfold TrackerCounts.captureSSLInfo
  split <;> exact ⟨rfl, rfl, rfl, fun h => h⟩

theorem stopRedirectedRequest (s : RequestTrackerImpl) (request : Nat) (sslInfo : SSLInfo) :
    Captured s (s.stopRedirectedRequest request sslInfo) := by
  unfold RequestTrackerImpl.stopRedirectedRequest
  cases s.countsByRequest request with
  | none => exact refl s
  | some p =>
    refine (captureRequest s request fun c => ?_).trans
      ⟨.eraseRequest _ request, fun h => ⟨_, h, .refl _⟩, rfl⟩
    have hinfo := sameCallback_captureSSLInfo c sslInfo
    exact ⟨hinfo.request, hinfo.sslJudgment, hinfo.sslCallback, fun _ => rfl⟩

theorem release (s : RequestTrackerImpl) (request : Nat) : Captured s (s.release request) :=
  ⟨.release s request, fun h => ⟨_, h, .refl _⟩, rfl⟩

theorem reentry (request : Nat) (s : RequestTrackerImpl) (r : Reentry) :
    Captured s (s.reentry request r) := by
  cases r with
  | captureExpectedLength length =>
    exact captureRequest s request fun _ => ⟨rfl, rfl, rfl, fun h => h⟩
  | captureReceivedBytes sslInfo byteCount =>
    refine captureRequest s request fun c => ?_
    have hinfo := sameCallback_captureSSLInfo c sslInfo
    exact ⟨hinfo.request, hinfo.sslJudgment, hinfo.sslCallback, hinfo.done⟩
  | stopRequest sslInfo =>
    rw [RequestTrackerImpl.reentry, stopRequest_eq]
    exact (stopRedirectedRequest s request sslInfo).trans (release _ request)
  | stopRedirectedRequest sslInfo =>
    exact (stopRedirectedRequest s request sslInfo).trans (release _ request)

theorem captureCertificateUsed (s : RequestTrackerImpl) (request : Nat) (host : String)
    (cert : NSData) (certStatus : CertStatus) :
    Captured s (s.captureCertificateUsed request host cert certStatus) := by
  rw [RequestTrackerImpl.captureCertificateUsed]
  cases s.countsByRequest request with
  | none => exact refl s
  | some p =>
    simp only [withCounts]
    cases s.counts.get? p with
    | none => exact check s false
    | some counts =>
      refine (modify s p fun c => ?_).trans ⟨.post _ _, fun h => ⟨_, h, .refl _⟩, rfl⟩
      have hinfo := sameCallback_captureSSLInfo c ⟨some cert, certStatus⟩
      exact ⟨hinfo.request, hinfo.sslJudgment, hinfo.sslCallback, hinfo.done⟩

end Captured

/-- The callback of a request is run: it is logged, and the request may go on. -/
theorem captured_runCallback (P : RequestPlatform) (s : RequestTrackerImpl) (answer : Bool)
    (number request : Nat) :
    Captured (s.logAnswer number answer)
      (s.runCallback P answer (some (.bound number request))) := by
  rw [runCallback]
  generalize s.logAnswer number answer = t
  induction P.reenter number answer generalizing t with
  | nil => exact .refl t
  | cons r rs ih => exact (Captured.reentry request t r).trans (ih _)

/-- Running a callback changes none of the callbacks that are held. -/
theorem get?_runCallback {s : RequestTrackerImpl} {p : Nat} {c : TrackerCounts} (answer : Bool)
    (callback : Option SSLCallback) (hc : s.counts.get? p = some c) :
    ∃ d, (s.runCallback P answer callback).counts.get? p = some d ∧ SameCallback c d := by
  rcases callback with - | - | ⟨number, request⟩
  · exact ⟨c, hc, .refl c⟩
  · exact ⟨c, hc, .refl c⟩
  · exact (captured_runCallback P s answer number request).counts hc

/-! ## What an answer changes -/

theorem OthersKept.withCounts {s : RequestTrackerImpl} {p q : Nat}
    {k : TrackerCounts → RequestTrackerImpl} (hk : ∀ counts, OthersKept q s (k counts)) :
    OthersKept q s (s.withCounts p k) := by
  rw [RequestTrackerImpl.withCounts]
  cases s.counts.get? p with
  | none => exact ⟨fun _ hc => ⟨_, hc, .refl _⟩⟩
  | some counts => exact hk counts

theorem OthersKept.answerCounts (s : RequestTrackerImpl) (p : Nat) (answer : Bool) :
    OthersKept p s (s.answerCounts P p answer) := by
  refine withCounts fun counts => OthersKept.trans ?_ (modify _ p _)
  exact ⟨fun _ hc => get?_runCallback answer counts.sslCallback hc⟩

theorem get?_answerCounts {s : RequestTrackerImpl} {p : Nat} {c : TrackerCounts} (answer : Bool)
    (hc : s.counts.get? p = some c) :
    ∃ d, (s.answerCounts P p answer).counts.get? p = some d ∧ d.request = c.request ∧
      d.sslJudgment = c.sslJudgment ∧ d.sslCallback = some .doNothing ∧
      (c.done = true → d.done = true) := by
  simp only [answerCounts, withCounts, hc]
  obtain ⟨d, hd, hcd⟩ := get?_runCallback (P := P) answer c.sslCallback hc
  exact ⟨{ d with sslCallback := some .doNothing }, get?_modify_self hd _, hcd.request,
    hcd.sslJudgment, rfl, hcd.done⟩

theorem OthersKept.cancelRequestForCounts (s : RequestTrackerImpl) (p : Nat) :
    OthersKept p s (s.cancelRequestForCounts P p) := by
  refine withCounts fun counts => OthersKept.trans ?_ (answerCounts _ p false)
  exact ⟨fun hq hc => (modify s p fun counts => { counts with done := true }).counts hq hc⟩

theorem get?_cancelRequestForCounts {s : RequestTrackerImpl} {p : Nat} {c : TrackerCounts}
    (hc : s.counts.get? p = some c) :
    ∃ d, (s.cancelRequestForCounts P p).counts.get? p = some d ∧ d.request = c.request ∧
      d.sslJudgment = c.sslJudgment ∧ d.sslCallback = some .doNothing ∧ d.done = true := by
  simp only [cancelRequestForCounts, withCounts, hc]
  have hdone := get?_modify_self hc fun counts => { counts with done := true }
  obtain ⟨d, hd, hrequest, hjudgment, hcallback, hd'⟩ := get?_answerCounts (P := P)
    (s := (s.modify p fun counts => { counts with done := true }).eraseRequest c.request) false
    hdone
  exact ⟨d, hd, hrequest, hjudgment, hcallback, hd' rfl⟩

theorem OthersKept.applyJudgment (s : RequestTrackerImpl) (p : Nat) (judgment : Judgment) :
    OthersKept p s (s.applyJudgment P p judgment) := by
  refine (modify s p fun counts => { counts with sslJudgment := judgment }).trans ?_
  cases judgment with
  | unknown => exact cancelRequestForCounts _ p
  | denied => exact cancelRequestForCounts _ p
  | allowed => exact answerCounts _ p true

theorem OthersKept.reevaluateCallback (s : RequestTrackerImpl) (p : Nat) :
    OthersKept p s (s.reevaluateCallback P p) := by
  refine withCounts fun _ => ?_
  split
  · refine withCounts fun counts => ?_
    cases counts.sslInfo.cert with
    | none => exact refl p s
    | some cert => exact ⟨fun hq hc => (applyJudgment (s.setPolicyCache _) p _).counts hq hc⟩
  · exact refl p s

/-! ## No callback waits -/

/-- A record that no callback waits in: the request was cancelled. -/
def Quiet (c : TrackerCounts) : Prop :=
  c.sslJudgment = .unknown → c.done = true ∧ c.sslCallback = some .doNothing

theorem SameCallback.quiet {c d : TrackerCounts} (h : SameCallback c d) (hc : Quiet c) :
    Quiet d := by
  intro hunknown
  rw [h.sslJudgment] at hunknown
  obtain ⟨hdone, hcallback⟩ := hc hunknown
  exact ⟨h.done hdone, h.sslCallback.trans hcallback⟩

/-- After a judgment the record is quiet: it was allowed, or it is cancelled. -/
theorem quiet_applyJudgment {s : RequestTrackerImpl} {p : Nat} {c : TrackerCounts}
    (judgment : Judgment) (hc : s.counts.get? p = some c) :
    ∃ d, (s.applyJudgment P p judgment).counts.get? p = some d ∧ Quiet d := by
  unfold applyJudgment
  have hjudged := get?_modify_self hc fun counts => { counts with sslJudgment := judgment }
  have hcancel : ∃ d, ((s.modify p fun counts =>
      { counts with sslJudgment := judgment }).cancelRequestForCounts P p).counts.get? p = some d ∧
        Quiet d := by
    obtain ⟨d, hd, -, -, hcallback, hdone⟩ := get?_cancelRequestForCounts (P := P) hjudged
    exact ⟨d, hd, fun _ => ⟨hdone, hcallback⟩⟩
  cases judgment with
  | unknown => exact hcancel
  | denied => exact hcancel
  | allowed =>
    obtain ⟨d, hd, -, hallowed, -⟩ := get?_answerCounts (P := P) true hjudged
    refine ⟨d, hd, fun hunknown => ?_⟩
    rw [hallowed] at hunknown
    cases hunknown

/-- Nothing waits in the record of a pointer. -/
def QuietAt (s : RequestTrackerImpl) (p : Nat) : Prop :=
  ∀ c, s.counts.get? p = some c → Quiet c

/-- The record that a kept pointer points to. -/
theorem Keeps.get? {s t : RequestTrackerImpl} (h : Keeps s t) {p : Nat} {d : TrackerCounts}
    (hd : t.counts.get? p = some d) : ∃ c, s.counts.get? p = some c :=
  Option.isSome_iff_exists.1
    (Pool.isSome_get?_iff.2 (h.pointers ▸ Pool.mem_pointers_of_get? hd))

/-- One round of the loop makes its record quiet, and leaves the others so. -/
theorem quietAt_reevaluateCallback {s : RequestTrackerImpl} (h : Sound s) {p q : Nat}
    (hq : q = p ∨ s.QuietAt q) : (s.reevaluateCallback P p).QuietAt q := by
  intro d hd
  obtain ⟨c, hc⟩ := (Keeps.reevaluateCallback s p).get? hd
  by_cases hqp : q = p
  · rw [hqp] at hc hd
    simp only [reevaluateCallback, evaluateSSLCallbackForCounts, withCounts, hc] at hd
    by_cases hunknown : c.sslJudgment = .unknown
    · rw [if_pos hunknown] at hd
      -- a record that waits has a certificate to judge
      obtain ⟨cert, hcert⟩ := Option.isSome_iff_exists.1 (h.answerable hc hunknown).2
      simp only [hcert] at hd
      obtain ⟨e, he, hquiet⟩ := quiet_applyJudgment (P := P) (s := s.setPolicyCache
        (s.policyCache.queryPolicy P.fingerprint cert (P.host c.url) c.sslInfo.certStatus).2)
        (judge P s.policyCache cert (P.host c.url) c.sslInfo.certStatus) hc
      rw [he] at hd
      cases hd
      exact hquiet
    · rw [if_neg hunknown, hc] at hd
      cases hd
      exact fun h => absurd h hunknown
  · obtain ⟨e, he, hce⟩ := (OthersKept.reevaluateCallback (P := P) s p).counts hqp hc
    rw [he] at hd
    cases hd
    exact hce.quiet (hq.resolve_left hqp c hc)

/-- The loop visits every record. -/
theorem quiet_reevaluateCallbacksForAllCounts {s : RequestTrackerImpl} (h : Sound s)
    (hopen : s.isClosing = false) (p : Nat) :
    (s.reevaluateCallbacksForAllCounts P).QuietAt p := by
  rw [reevaluateCallbacksForAllCounts, hopen, if_neg Bool.false_ne_true]
  have hloop := Sound.foldl_reevaluateCallback (P := P) (I := fun ps t => p ∈ ps ∨ t.QuietAt p)
    ?_ h s.counts.pointers (fun _ hq => hq) ?_
  · exact hloop.2.resolve_left not_mem_nil
  · rintro q ps t ht (hmem | hquiet)
    · rcases mem_cons.1 hmem with rfl | hrest
      · exact .inr (quietAt_reevaluateCallback ht (.inl rfl))
      · exact .inl hrest
    · exact .inr (quietAt_reevaluateCallback ht (.inr hquiet))
  · by_cases hp : p ∈ s.counts.pointers
    · exact .inl hp
    · exact .inr fun c hc => absurd (Pool.mem_pointers_of_get? hc) hp

theorem onSSLCertificateError_of_none {s : RequestTrackerImpl} {request : Nat}
    (hmap : s.countsByRequest request = none) (sslInfo : SSLInfo) (recoverable : Bool)
    (shouldContinue : SSLCallback) :
    s.onSSLCertificateError P request sslInfo recoverable shouldContinue =
      s.check sslInfo.isValid := by
  have hmap' : (s.check sslInfo.isValid).countsByRequest request = none := hmap
  simp only [onSSLCertificateError, hmap']

theorem onSSLCertificateError_of_some {s : RequestTrackerImpl} {request p : Nat}
    {c : TrackerCounts} (hmap : s.countsByRequest request = some p)
    (hc : s.counts.get? p = some c) (sslInfo : SSLInfo) (recoverable : Bool)
    (shouldContinue : SSLCallback) :
    s.onSSLCertificateError P request sslInfo recoverable shouldContinue =
      (((s.check sslInfo.isValid).check (!c.done)).modify p
        (·.storeSSLError sslInfo recoverable shouldContinue)).reevaluateCallbacksForAllCounts
          P := by
  have hmap' : (s.check sslInfo.isValid).countsByRequest request = some p := hmap
  have hc' : (s.check sslInfo.isValid).counts.get? p = some c := hc
  simp only [onSSLCertificateError, captureRequest, withCounts, hmap', hc']

/-- What is logged when a callback is run. -/
def logOf (answer : Bool) : Option SSLCallback → List (Nat × Bool)
  | some (.bound number _) => [(number, answer)]
  | some .doNothing | none => []

theorem answers_runCallback (s : RequestTrackerImpl) (answer : Bool)
    (callback : Option SSLCallback) :
    (s.runCallback P answer callback).answers = s.answers ++ logOf answer callback := by
  rcases callback with - | - | ⟨number, request⟩
  · exact (append_nil _).symm
  · exact (append_nil _).symm
  · exact (captured_runCallback P s answer number request).answers

theorem answers_answerCounts {s : RequestTrackerImpl} {p : Nat} {c : TrackerCounts} (answer : Bool)
    (hc : s.counts.get? p = some c) :
    (s.answerCounts P p answer).answers = s.answers ++ logOf answer c.sslCallback := by
  simp only [answerCounts, withCounts, hc]
  exact answers_runCallback s answer c.sslCallback

/-- The numbers of the callbacks that were run. -/
def answered (s : RequestTrackerImpl) : List Nat := s.answers.map (·.1)

/-- Callbacks are numbered below `next`: one that is held by a record is the
callback of its request, it is held by no other record, and it was not run. -/
structure Numbered (next : Nat) (s : RequestTrackerImpl) : Prop where
  held : ∀ {p c number request}, s.counts.get? p = some c →
    c.sslCallback = some (.bound number request) →
      number < next ∧ request = c.request ∧ number ∉ s.answered
  inj : ∀ {p q c d number request request'}, s.counts.get? p = some c →
    s.counts.get? q = some d → c.sslCallback = some (.bound number request) →
      d.sslCallback = some (.bound number request') → p = q
  lt_next : ∀ number ∈ s.answered, number < next
  nodup : s.answered.Nodup

namespace Numbered

variable {next : Nat} {s t : RequestTrackerImpl}

theorem new (policyCache : CertificatePolicyCache) : Numbered 0 (.new policyCache) where
  held h := by cases h
  inj h := by cases h
  lt_next _ h := absurd h not_mem_nil
  nodup := nodup_nil

section

variable (h : Numbered next s)
include h

/-- No callback was run, and none was given to a record. -/
theorem of_held (hheld : ∀ {q d number request}, t.counts.get? q = some d →
      d.sslCallback = some (.bound number request) →
        ∃ c, s.counts.get? q = some c ∧ c.request = d.request ∧
          c.sslCallback = some (.bound number request))
    (hanswers : t.answers = s.answers) : Numbered next t where
  held hd hbound := by
    obtain ⟨c, hc, hrequest, hcallback⟩ := hheld hd hbound
    rw [answered, hanswers, ← hrequest]
    exact h.held hc hcallback
  inj hd he hdbound hebound := by
    obtain ⟨c, hc, -, hccallback⟩ := hheld hd hdbound
    obtain ⟨c', hc', -, hccallback'⟩ := hheld he hebound
    exact h.inj hc hc' hccallback hccallback'
  lt_next := by
    rw [answered, hanswers]
    exact h.lt_next
  nodup := by
    rw [answered, hanswers]
    exact h.nodup

/-- The records and the answers are what they were. -/
theorem of_eq (hcounts : t.counts = s.counts)
    (hanswers : t.answers = s.answers) : Numbered next t :=
  h.of_held (fun hd hbound => ⟨_, hcounts ▸ hd, rfl, hbound⟩) hanswers

theorem setPolicyCache (policyCache : CertificatePolicyCache) :
    Numbered next (s.setPolicyCache policyCache) := h.of_eq rfl rfl

theorem issueCallback : Numbered next s.issueCallback := h.of_eq rfl rfl

theorem captured (hst : Captured s t) : Numbered next t := by
  refine h.of_held (fun hd hbound => ?_) hst.answers
  obtain ⟨c, hc, hcd⟩ := hst.of_get? hd
  exact ⟨c, hc, hcd.request.symm, hcd.sslCallback.symm.trans hbound⟩

/-- A record that is written to keeps its callback. -/
theorem modify (p : Nat) {f : TrackerCounts → TrackerCounts}
    (hf : ∀ c, (f c).request = c.request ∧ (f c).sslCallback = c.sslCallback) :
    Numbered next (s.modify p f) := by
  refine h.of_held (fun {q d number request} hd hbound => ?_) rfl
  rw [RequestTrackerImpl.modify, Pool.get?_modify] at hd
  by_cases hq : q = p
  · rw [if_pos hq] at hd
    obtain ⟨c, hc, rfl⟩ := Option.map_eq_some_iff.1 hd
    exact ⟨c, hc, (hf c).1.symm, (hf c).2.symm.trans hbound⟩
  · rw [if_neg hq] at hd
    exact ⟨d, hd, rfl, hbound⟩

/-- A callback that no record holds is run. -/
theorem of_answered (number : Nat) (hheld : ∀ {q d number' request}, t.counts.get? q = some d →
      d.sslCallback = some (.bound number' request) → number' ≠ number ∧
        ∃ c, s.counts.get? q = some c ∧ c.request = d.request ∧
          c.sslCallback = some (.bound number' request))
    (hlt : number < next) (hfresh : number ∉ s.answered)
    (hanswered : t.answered = s.answered ++ [number]) : Numbered next t where
  held hd hbound := by
    obtain ⟨hne, c, hc, hrequest, hcallback⟩ := hheld hd hbound
    obtain ⟨hlt', hrequest', hfresh'⟩ := h.held hc hcallback
    rw [hanswered, ← hrequest, mem_append, mem_singleton]
    refine ⟨hlt', hrequest', ?_⟩
    rintro (hold | heq)
    · exact hfresh' hold
    · exact hne heq
  inj hd he hdbound hebound := by
    obtain ⟨-, c, hc, -, hccallback⟩ := hheld hd hdbound
    obtain ⟨-, c', hc', -, hccallback'⟩ := hheld he hebound
    exact h.inj hc hc' hccallback hccallback'
  lt_next := by
    intro number' hmem
    rw [hanswered, mem_append, mem_singleton] at hmem
    rcases hmem with hold | rfl
    · exact h.lt_next number' hold
    · exact hlt
  nodup := by
    rw [hanswered]
    exact h.nodup.append (nodup_singleton _) (disjoint_singleton.2 hfresh)

/-- The callback of a record is run and dropped. -/
theorem answerCounts {p : Nat} {c : TrackerCounts} (answer : Bool)
    (hc : s.counts.get? p = some c) : Numbered next (s.answerCounts P p answer) := by
  have hanswers := answers_answerCounts (P := P) answer hc
  -- a record that holds a callback afterwards is another one, and held it before
  have hheld : ∀ {q d number request}, (s.answerCounts P p answer).counts.get? q = some d →
      d.sslCallback = some (.bound number request) → q ≠ p ∧
        ∃ e, s.counts.get? q = some e ∧ e.request = d.request ∧
          e.sslCallback = some (.bound number request) := by
    intro q d number request hd hbound
    have hq : q ≠ p := by
      rintro rfl
      obtain ⟨d', hd', -, -, hnothing, -⟩ := get?_answerCounts (P := P) answer hc
      rw [hd] at hd'
      cases hd'
      rw [hbound] at hnothing
      cases hnothing
    obtain ⟨e, he⟩ := (Keeps.answerCounts s p answer).get? hd
    obtain ⟨d', hd', hed⟩ := (OthersKept.answerCounts (P := P) s p answer).counts hq he
    rw [hd] at hd'
    cases hd'
    exact ⟨hq, e, he, hed.request.symm, hed.sslCallback.symm.trans hbound⟩
  rcases hcallback : c.sslCallback with - | - | ⟨number, request⟩
  · rw [hcallback] at hanswers
    exact h.of_held (fun hd hbound => (hheld hd hbound).2) (hanswers.trans (append_nil _))
  · rw [hcallback] at hanswers
    exact h.of_held (fun hd hbound => (hheld hd hbound).2) (hanswers.trans (append_nil _))
  · obtain ⟨hlt, -, hfresh⟩ := h.held hc hcallback
    refine h.of_answered number (fun {q d number' request'} hd hbound => ?_) hlt hfresh
      ?_
    · obtain ⟨hq, e, he, hrequest, hecallback⟩ := hheld hd hbound
      refine ⟨?_, e, he, hrequest, hecallback⟩
      rintro rfl
      exact hq (h.inj he hc hecallback hcallback)
    · rw [answered, hanswers, hcallback, map_append]
      rfl

theorem cancelRequestForCounts (p : Nat) : Numbered next (s.cancelRequestForCounts P p) := by
  unfold RequestTrackerImpl.cancelRequestForCounts withCounts
  cases hc : s.counts.get? p with
  | none => exact h.of_eq rfl rfl
  | some c =>
    have hdone := h.modify p (f := fun counts => { counts with done := true }) fun _ => ⟨rfl, rfl⟩
    exact (hdone.of_eq (t := (s.modify p fun counts => { counts with done := true }).eraseRequest
      c.request) rfl rfl).answerCounts false (get?_modify_self hc _)

theorem applyJudgment {p : Nat} {c : TrackerCounts} (judgment : Judgment)
    (hc : s.counts.get? p = some c) : Numbered next (s.applyJudgment P p judgment) := by
  have hjudged := h.modify p (f := fun counts => { counts with sslJudgment := judgment })
    fun _ => ⟨rfl, rfl⟩
  cases judgment with
  | unknown => exact hjudged.cancelRequestForCounts p
  | denied => exact hjudged.cancelRequestForCounts p
  | allowed => exact hjudged.answerCounts true (get?_modify_self hc _)

theorem reevaluateCallback (p : Nat) : Numbered next (s.reevaluateCallback P p) := by
  simp only [RequestTrackerImpl.reevaluateCallback, evaluateSSLCallbackForCounts, withCounts]
  cases hc : s.counts.get? p with
  | none => exact h.of_eq rfl rfl
  | some c =>
    simp only
    split
    · cases c.sslInfo.cert with
      | none => exact h
      | some cert => exact (h.setPolicyCache _).applyJudgment _ hc
    · exact h

end

theorem foldl {α : Type} {f : RequestTrackerImpl → α → RequestTrackerImpl}
    (hf : ∀ s a, Numbered next s → Numbered next (f s a)) (h : Numbered next s) (as : List α) :
    Numbered next (as.foldl f s) := by
  induction as generalizing s with
  | nil => exact h
  | cons a as ih => exact ih (hf s a h)

section

variable (h : Numbered next s)
include h

theorem reevaluateCallbacksForAllCounts : Numbered next (s.reevaluateCallbacksForAllCounts P) := by
  rw [RequestTrackerImpl.reevaluateCallbacksForAllCounts]
  split
  · exact h
  · exact h.foldl (fun _ p ht => ht.reevaluateCallback p) _

theorem succ : Numbered (next + 1) s :=
  ⟨fun hc hbound => ⟨Nat.lt_succ_of_lt (h.held hc hbound).1, (h.held hc hbound).2⟩, h.inj,
    fun number hmem => Nat.lt_succ_of_lt (h.lt_next number hmem), h.nodup⟩

/-- A record gets a new callback. -/
theorem park {p : Nat} {c : TrackerCounts} (hc : s.counts.get? p = some c)
    {f : TrackerCounts → TrackerCounts} (hrequest : (f c).request = c.request)
    (hcallback : (f c).sslCallback = some (.bound next c.request)) :
    Numbered (next + 1) (s.modify p f) := by
  -- the callback of a record is the new one, or an old one
  have hheld : ∀ {q d number request}, (s.modify p f).counts.get? q = some d →
      d.sslCallback = some (.bound number request) →
        (q = p ∧ d = f c ∧ number = next ∧ request = c.request) ∨
        (s.counts.get? q = some d ∧ number < next) := by
    intro q d number request hd hbound
    rw [RequestTrackerImpl.modify, Pool.get?_modify] at hd
    by_cases hq : q = p
    · rw [if_pos hq, hq, hc] at hd
      cases hd
      rw [hcallback] at hbound
      cases hbound
      exact .inl ⟨hq, rfl, rfl, rfl⟩
    · rw [if_neg hq] at hd
      exact .inr ⟨hd, (h.held hd hbound).1⟩
  refine ⟨fun hd hbound => ?_, fun hd he hdbound hebound => ?_, fun number hmem => ?_, h.nodup⟩
  · rcases hheld hd hbound with ⟨-, rfl, rfl, rfl⟩ | ⟨hold, -⟩
    · refine ⟨Nat.lt_succ_self _, hrequest.symm, fun hmem => ?_⟩
      exact Nat.lt_irrefl _ (h.lt_next _ hmem)
    · obtain ⟨hlt, hrest⟩ := h.held hold hbound
      exact ⟨Nat.lt_succ_of_lt hlt, hrest⟩
  · rcases hheld hd hdbound with ⟨hq, -, hnumber, -⟩ | ⟨hold, hlt⟩
    · rcases hheld he hebound with ⟨hq', -⟩ | ⟨-, hlt'⟩
      · exact hq.trans hq'.symm
      · omega
    · rcases hheld he hebound with ⟨-, -, hnumber, -⟩ | ⟨hold', -⟩
      · omega
      · exact h.inj hold hold' hdbound hebound
  · exact Nat.lt_succ_of_lt (h.lt_next number hmem)

/-- A new callback is run at once. -/
theorem runCallback (answer : Bool) (request : Nat) :
    Numbered (next + 1) (s.runCallback P answer (some (.bound next request))) := by
  refine Numbered.captured ?_ (captured_runCallback P s answer next request)
  refine h.succ.of_answered next (fun hd hbound => ⟨?_, _, hd, rfl, hbound⟩)
    (Nat.lt_succ_self _) ?_ ?_
  · exact Nat.ne_of_lt (h.held hd hbound).1
  · exact fun hmem => Nat.lt_irrefl _ (h.lt_next _ hmem)
  · rw [answered, logAnswer, map_append]
    rfl

theorem check (condition : Bool) : Numbered next (s.check condition) :=
  h.of_eq rfl rfl

theorem onSSLCertificateError (hsound : Sound s) (request : Nat)
    (sslInfo : SSLInfo) (recoverable : Bool) :
    Numbered (next + 1)
      (s.onSSLCertificateError P request sslInfo recoverable (.bound next request)) := by
  cases hmap : s.countsByRequest request with
  | none =>
    rw [onSSLCertificateError_of_none hmap]
    exact (h.check _).succ
  | some p =>
    obtain ⟨c, hc, rfl, -⟩ := hsound.live hmap
    rw [onSSLCertificateError_of_some hmap hc]
    exact (((h.check _).check _).park (p := p) hc rfl rfl).reevaluateCallbacksForAllCounts

theorem captureCertificatePolicyCache (hsound : Sound s) (request : Nat)
    (url : GURL) (cert : NSData) (certStatus : CertStatus) :
    Numbered (next + 1)
      (s.captureCertificatePolicyCache P request url cert certStatus (.bound next request)) := by
  unfold RequestTrackerImpl.captureCertificatePolicyCache
  simp only
  split
  · exact (h.setPolicyCache _).onSSLCertificateError (hsound.setPolicyCache _) request _ true
  · exact (((h.setPolicyCache _).check _).captured
      (.captureCertificateUsed _ request _ cert certStatus)).runCallback true request

theorem removeCounts (p : Nat) : Numbered next (s.removeCounts p) := by
  refine h.of_held (fun {q d number request} hd hbound => ⟨d, ?_, rfl, hbound⟩) rfl
  rw [RequestTrackerImpl.removeCounts, Pool.get?_remove] at hd
  by_cases hq : q = p
  · rw [if_pos hq] at hd
    cases hd
  · rwa [if_neg hq] at hd

theorem trimCounts (p : Nat) : Numbered next (s.trimCounts P p) := by
  simp only [RequestTrackerImpl.trimCounts, withCounts]
  cases s.counts.get? p with
  | none => exact h.check false
  | some counts =>
    refine removeCounts ?_ p
    unfold forgetUnfinished
    split
    · exact h
    · split
      · exact (h.cancelRequestForCounts p).of_eq rfl rfl
      · exact h.of_eq rfl rfl

theorem recomputeMixedContent (split : Option Nat) :
    Numbered next (s.recomputeMixedContent P split) := by
  unfold RequestTrackerImpl.recomputeMixedContent
  split
  · exact h.of_eq rfl rfl
  · exact h

theorem post (tasks : List UITask) : Numbered next (s.post tasks) :=
  h.of_eq rfl rfl

theorem enterPage (url : GURL) (newUrlHasMixedContent : Bool) :
    Numbered next (s.enterPage url newUrlHasMixedContent) := h.of_eq rfl rfl

theorem trimPage (fullUrl : GURL) : Numbered next (s.trimPage P fullUrl) := by
  refine enterPage (foldl (fun _ p ht => ht.trimCounts p) ?_ _) _ _
  exact (h.recomputeMixedContent _).post _

theorem startEstimateRound : Numbered next s.startEstimateRound := by
  unfold RequestTrackerImpl.startEstimateRound
  split
  · exact h.of_eq rfl rfl
  · exact h

/-- A new record has no callback. -/
theorem addCounts (request : URLRequest) : Numbered next (s.addCounts P request) := by
  refine h.of_held (fun {q d number r} hd hbound => ⟨d, ?_, rfl, hbound⟩) rfl
  rcases get?_addCounts_cases (P := P) hd with rfl | hold
  · cases hbound
  · exact hold

theorem startRequest (request : URLRequest) :
    Numbered next ((s.startRequest P request).activate request.address) :=
  (((h.check _).startEstimateRound).addCounts request).of_eq rfl rfl

end

end Numbered

/-! ## Steps -/

/-- The answers and the numbers of callbacks are not touched. -/
structure Follows (s t : RequestTrackerImpl) : Prop where
  isClosing : t.isClosing = s.isClosing
  nextCallback : t.nextCallback = s.nextCallback
  answers : s.answers <+: t.answers

theorem Keeps.follows {s t : RequestTrackerImpl} (h : Keeps s t) : Follows s t :=
  ⟨h.isClosing, h.nextCallback, h.answers⟩

namespace Follows

theorem refl (s : RequestTrackerImpl) : Follows s s := ⟨rfl, rfl, prefix_refl _⟩

theorem trans {s t u : RequestTrackerImpl} (hst : Follows s t) (htu : Follows t u) :
    Follows s u where
  isClosing := htu.isClosing.trans hst.isClosing
  nextCallback := htu.nextCallback.trans hst.nextCallback
  answers := hst.answers.trans htu.answers

theorem trimCounts (s : RequestTrackerImpl) (p : Nat) : Follows s (s.trimCounts P p) := by
  simp only [RequestTrackerImpl.trimCounts, withCounts]
  cases s.counts.get? p with
  | none => exact ⟨rfl, rfl, prefix_refl _⟩
  | some counts =>
    exact (Keeps.forgetUnfinished s p counts).follows.trans ⟨rfl, rfl, prefix_refl _⟩

theorem foldl_trimCounts (ps : List Nat) (s : RequestTrackerImpl) :
    Follows s (ps.foldl (RequestTrackerImpl.trimCounts P) s) := by
  induction ps generalizing s with
  | nil => exact .refl s
  | cons p ps ih => exact (trimCounts s p).trans (ih _)

section

variable (s : RequestTrackerImpl)
include s

theorem recomputeMixedContent (split : Option Nat) :
    Follows s (s.recomputeMixedContent P split) := by
  unfold RequestTrackerImpl.recomputeMixedContent
  split
  · exact ⟨rfl, rfl, prefix_refl _⟩
  · exact refl s

theorem enterPage (url : GURL) (newUrlHasMixedContent : Bool) :
    Follows s (s.enterPage url newUrlHasMixedContent) :=
  ⟨rfl, rfl, prefix_refl _⟩

theorem trimPage (fullUrl : GURL) : Follows s (s.trimPage P fullUrl) :=
  (((recomputeMixedContent s _).trans (Keeps.post _ _).follows).trans
    (foldl_trimCounts _ _)).trans (enterPage _ _ _)

theorem trimToURL (fullUrl : GURL) : Follows s (s.trimToURL P fullUrl) :=
  (trimPage s fullUrl).trans (Keeps.reevaluateCallbacksForAllCounts _).follows

theorem startEstimateRound : Follows s s.startEstimateRound := by
  unfold RequestTrackerImpl.startEstimateRound
  split
  · exact ⟨rfl, rfl, prefix_refl _⟩
  · exact refl _

theorem addCounts (request : URLRequest) : Follows s (s.addCounts P request) :=
  ⟨rfl, rfl, prefix_refl _⟩

theorem startRequest (request : URLRequest) : Follows s (s.startRequest P request) :=
  ((Keeps.check s _).follows.trans (startEstimateRound _)).trans (addCounts _ request)

end

end Follows

end RequestTrackerImpl

end ChromiumIos
