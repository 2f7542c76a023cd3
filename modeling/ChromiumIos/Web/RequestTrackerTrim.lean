import ChromiumIos.Web.RequestTrackerAnswers

/-!
# What trimming forgets

`TrimToURL` erases entries of the map by the address in a record, twice: for the
unfinished records it frees, and for the records that are cancelled when they are
judged again. An address may have a new request by then.

- `foldl_erases`: a loop that erases the entries of the records it visits.
- `mapped_trimPage` and `mapped_reevaluateCallbacksForAllCounts`: which entries the
  two loops leave.
- `trim_keeps_request_iff`: a request of the new page stays mapped if and only if no
  record that one of the loops drops has its address.
-/

namespace ChromiumIos

open Lib List Pool

namespace RequestTrackerImpl

variable {P : RequestPlatform}

/-! ## Loops that erase entries -/

/-- One round writes to its record only, and erases the entry of the address in the
record if `D` holds of it. -/
structure Erases (D : TrackerCounts → Prop) (p : Nat) (c : TrackerCounts)
    (s t : RequestTrackerImpl) : Prop where
  mapped : ∀ {request q}, t.countsByRequest request = some q ↔
    s.countsByRequest request = some q ∧ (c.request = request → ¬ D c)
  others : ∀ {q}, q ≠ p → t.counts.get? q = s.counts.get? q

/-- A loop that erases entries leaves those that no record it visits is about. -/
theorem foldl_erases {I : RequestTrackerImpl → Prop} {D : TrackerCounts → Prop}
    {f : RequestTrackerImpl → Nat → RequestTrackerImpl}
    (hf : ∀ t p c, I t → t.counts.get? p = some c → I (f t p) ∧ Erases D p c t (f t p))
    {s : RequestTrackerImpl} {ps : List Nat} (hs : I s) (hnodup : ps.Nodup)
    (hps : ∀ p ∈ ps, p ∈ s.counts.pointers) :
    I (ps.foldl f s) ∧
      (∀ request q, (ps.foldl f s).countsByRequest request = some q ↔
        s.countsByRequest request = some q ∧
          ∀ p ∈ ps, ∀ c, s.counts.get? p = some c → c.request = request → ¬ D c) ∧
      ∀ q ∉ ps, (ps.foldl f s).counts.get? q = s.counts.get? q := by
  induction ps generalizing s with
  | nil => exact ⟨hs, fun _ _ => ⟨fun h => ⟨h, by simp⟩, And.left⟩, fun _ _ => rfl⟩
  | cons p ps ih =>
    obtain ⟨hfresh, hnodup⟩ := nodup_cons.1 hnodup
    obtain ⟨c, hc⟩ := Option.isSome_iff_exists.1
      (isSome_get?_iff.2 (hps p mem_cons_self))
    obtain ⟨hround, herases⟩ := hf s p c hs hc
    -- the records that are left to visit are as they were
    have hothers : ∀ q ∈ ps, (f s p).counts.get? q = s.counts.get? q := by
      intro q hq
      refine herases.others ?_
      rintro rfl
      exact hfresh hq
    obtain ⟨hI, hmapped, hrest⟩ := ih hround hnodup fun q hq => by
      rw [← isSome_get?_iff, hothers q hq, isSome_get?_iff]
      exact hps q (mem_cons_of_mem p hq)
    refine ⟨hI, fun request q => ?_, fun q hq => ?_⟩
    · rw [foldl_cons, hmapped, herases.mapped, forall_mem_cons]
      constructor
      · rintro ⟨⟨hmap, hfirst⟩, hothers'⟩
        refine ⟨hmap, fun d hd => ?_, fun r hr d hd => hothers' r hr d ((hothers r hr).trans hd)⟩
        rw [hc] at hd
        cases hd
        exact hfirst
      · rintro ⟨hmap, hfirst, hothers'⟩
        exact ⟨⟨hmap, hfirst c hc⟩, fun r hr d hd => hothers' r hr d ((hothers r hr).symm.trans hd)⟩
    · rw [mem_cons, not_or] at hq
      rw [foldl_cons, hrest q hq.2]
      exact herases.others hq.1

/-! ## A callback of a request that is not mapped -/

/-- The records, the map and the policies are what they were. -/
structure SameRecords (s t : RequestTrackerImpl) : Prop where
  counts : t.counts = s.counts
  countsByRequest : t.countsByRequest = s.countsByRequest
  policyCache : t.policyCache = s.policyCache

theorem SameRecords.trans {s t u : RequestTrackerImpl} (hst : SameRecords s t)
    (htu : SameRecords t u) : SameRecords s u :=
  ⟨htu.counts.trans hst.counts, htu.countsByRequest.trans hst.countsByRequest,
    htu.policyCache.trans hst.policyCache⟩

/-- A request that is not in the map changes nothing. -/
theorem SameRecords.reentry {s : RequestTrackerImpl} {request : Nat}
    (hrequest : s.countsByRequest request = none) (r : Reentry) :
    SameRecords s (s.reentry request r) := by
  cases r with
  | captureExpectedLength length =>
    simp only [RequestTrackerImpl.reentry, captureExpectedLength, captureRequest, hrequest]
    exact ⟨rfl, rfl, rfl⟩
  | captureReceivedBytes sslInfo byteCount =>
    simp only [RequestTrackerImpl.reentry, captureReceivedBytes, captureRequest, hrequest]
    exact ⟨rfl, rfl, rfl⟩
  | stopRequest sslInfo =>
    simp only [RequestTrackerImpl.reentry, stopRequest, hrequest]
    exact ⟨rfl, rfl, rfl⟩
  | stopRedirectedRequest sslInfo =>
    simp only [RequestTrackerImpl.reentry, stopRedirectedRequest, hrequest]
    exact ⟨rfl, rfl, rfl⟩

/-- Neither does its callback. -/
theorem SameRecords.runCallback {s : RequestTrackerImpl} {callback : Option SSLCallback}
    (answer : Bool)
    (hcallback : ∀ number request, callback = some (.bound number request) →
      s.countsByRequest request = none) :
    SameRecords s (s.runCallback P answer callback) := by
  rcases callback with - | - | ⟨number, request⟩
  · exact ⟨rfl, rfl, rfl⟩
  · exact ⟨rfl, rfl, rfl⟩
  · have hrequest : (s.logAnswer number answer).countsByRequest request = none :=
      hcallback number request rfl
    have hlog : SameRecords s (s.logAnswer number answer) := ⟨rfl, rfl, rfl⟩
    rw [RequestTrackerImpl.runCallback]
    generalize s.logAnswer number answer = t at hrequest hlog
    induction P.reenter number answer generalizing t with
    | nil => exact hlog
    | cons r rs ih =>
      have hsame := SameRecords.reentry hrequest r
      refine ih _ ?_ (hlog.trans hsame)
      rw [hsame.countsByRequest]
      exact hrequest

variable {s : RequestTrackerImpl}

/-- A record is answered whose callback, if any, is that of a request that is not
mapped. -/
theorem sameRecords_answerCounts {p : Nat} {c : TrackerCounts}
    (answer : Bool) (hc : s.counts.get? p = some c)
    (hcallback : ∀ number request, c.sslCallback = some (.bound number request) →
      s.countsByRequest request = none) :
    (s.answerCounts P p answer).countsByRequest = s.countsByRequest ∧
      (s.answerCounts P p answer).policyCache = s.policyCache ∧
      ∀ {q}, q ≠ p → (s.answerCounts P p answer).counts.get? q = s.counts.get? q := by
  have hsame := SameRecords.runCallback (P := P) answer hcallback
  simp only [answerCounts, withCounts, hc]
  refine ⟨hsame.countsByRequest, hsame.policyCache, fun {q} hq => ?_⟩
  rw [modify, get?_modify, if_neg hq, hsame.counts]

/-- A record is cancelled whose callback, if any, is that of its request. -/
theorem erases_cancelRequestForCounts {p : Nat} {c : TrackerCounts}
    (hc : s.counts.get? p = some c)
    (hcallback : ∀ number request, c.sslCallback = some (.bound number request) →
      request = c.request) :
    (s.cancelRequestForCounts P p).policyCache = s.policyCache ∧
      Erases (fun _ => True) p c s (s.cancelRequestForCounts P p) := by
  simp only [cancelRequestForCounts, withCounts, hc]
  obtain ⟨hmap, hpolicy, hothers⟩ := sameRecords_answerCounts (P := P)
    (s := (s.modify p fun counts => { counts with done := true }).eraseRequest c.request) false
    (get?_modify_self hc fun counts => { counts with done := true }) fun number request hbound => by
      rw [countsByRequest_eraseRequest, if_pos (hcallback number request hbound)]
  refine ⟨hpolicy, fun {request q} => ?_, fun {q} hq => (hothers hq).trans ?_⟩
  · rw [hmap, countsByRequest_eraseRequest]
    by_cases hrequest : request = c.request
    · simp [hrequest]
    · rw [if_neg hrequest]
      exact ⟨fun h => ⟨h, fun heq => absurd heq.symm hrequest⟩, And.left⟩
  · rw [eraseRequest, modify, get?_modify, if_neg hq]

/-! ## Trimming -/

/-- The round that frees a record drops the request in it if it is unfinished. -/
theorem erases_trimCounts {next p : Nat} {c : TrackerCounts}
    (hnumbered : Numbered next s) (hc : s.counts.get? p = some c) :
    (s.trimCounts P p).policyCache = s.policyCache ∧
      Erases (fun c => c.done = false) p c s (s.trimCounts P p) := by
  simp only [trimCounts, withCounts, hc]
  have hremove : ∀ {t : RequestTrackerImpl} {q}, q ≠ p →
      (t.removeCounts p).counts.get? q = t.counts.get? q := by
    intro t q hq
    rw [removeCounts, get?_remove, if_neg hq]
  cases hdone : c.done with
  | true =>
    rw [forgetUnfinished, hdone, if_pos rfl]
    refine ⟨rfl, fun {request q} => ?_, hremove⟩
    simp [removeCounts, hdone]
  | false =>
    -- an unfinished record is freed with its entry, whatever ran before that
    have herase : ∀ t : RequestTrackerImpl, (∀ {request q}, t.countsByRequest request = some q →
          s.countsByRequest request = some q) →
        (∀ {request q}, c.request ≠ request → s.countsByRequest request = some q →
          t.countsByRequest request = some q) →
        (∀ {q}, q ≠ p → t.counts.get? q = s.counts.get? q) →
        Erases (fun c => c.done = false) p c s ((t.eraseRequest c.request).removeCounts p) := by
      intro t hfewer hkept hothers
      refine ⟨fun {request q} => ?_, fun hq => (hremove hq).trans (hothers hq)⟩
      rw [show ((t.eraseRequest c.request).removeCounts p).countsByRequest request =
        (t.eraseRequest c.request).countsByRequest request from rfl, countsByRequest_eraseRequest]
      by_cases hrequest : request = c.request
      · simp [hrequest, hdone]
      · rw [if_neg hrequest]
        have hne : c.request ≠ request := fun heq => hrequest heq.symm
        exact ⟨fun h => ⟨hfewer h, fun heq => absurd heq hne⟩, fun h => hkept hne h.1⟩
    rw [forgetUnfinished, hdone, if_neg Bool.false_ne_true]
    split
    · obtain ⟨hpolicy, hcancel⟩ := erases_cancelRequestForCounts (P := P) hc
        fun number request hbound => (hnumbered.held hc hbound).2.1
      refine ⟨hpolicy, herase _ (fun h => (hcancel.mapped.1 h).1) (fun hne h => ?_) hcancel.others⟩
      exact hcancel.mapped.2 ⟨h, fun heq => absurd heq hne⟩
    · exact ⟨rfl, herase s (fun h => h) (fun _ h => h) fun _ => rfl⟩

/-- What stays true while records are trimmed. -/
structure Trimming (s t : RequestTrackerImpl) : Prop where
  sound : Sound t
  numbered : Numbered s.nextCallback t
  policyCache : t.policyCache = s.policyCache
  isClosing : t.isClosing = s.isClosing
  quiet : s.isClosing = false → ∀ q, t.QuietAt q

theorem Trimming.trimCounts {s t : RequestTrackerImpl} {p : Nat} {c : TrackerCounts}
    (h : Trimming s t) (hc : t.counts.get? p = some c) :
    Trimming s (t.trimCounts P p) ∧ Erases (fun c => c.done = false) p c t (t.trimCounts P p) := by
  obtain ⟨hpolicy, herases⟩ := erases_trimCounts (P := P) h.numbered hc
  refine ⟨⟨h.sound.trimCounts (mem_pointers_of_get? hc), h.numbered.trimCounts p,
    hpolicy.trans h.policyCache, (Follows.trimCounts t p).isClosing.trans h.isClosing,
    fun hopen q d hd => ?_⟩, herases⟩
  by_cases hq : q = p
  · -- the record is not there any more
    have hmem := mem_pointers_of_get? hd
    rw [hq, pointers_trimCounts (mem_pointers_of_get? hc), mem_filter] at hmem
    simp at hmem
  · rw [herases.others hq] at hd
    exact h.quiet hopen q d hd

/-! ## Judging again -/

/-- The certificate of a record is not allowed. -/
def Rejected (P : RequestPlatform) (policyCache : CertificatePolicyCache) (c : TrackerCounts) :
    Prop :=
  ∃ cert, c.sslInfo.cert = some cert ∧
    judge P policyCache cert (P.host c.url) c.sslInfo.certStatus ≠ .allowed

/-- The caches have the same policies. -/
def SamePolicies (cache cache' : CertificatePolicyCache) : Prop :=
  ∀ host, cache'.policyFor host = cache.policyFor host

theorem SamePolicies.judge {cache cache' : CertificatePolicyCache} (h : SamePolicies cache cache')
    (cert : NSData) (host : String) (certStatus : CertStatus) :
    judge P cache' cert host certStatus = judge P cache cert host certStatus := by
  have hquery : (cache'.queryPolicy P.fingerprint cert host certStatus).1 =
      (cache.queryPolicy P.fingerprint cert host certStatus).1 :=
    congrArg (·.check P.fingerprint cert certStatus) (h host)
  simp only [RequestTrackerImpl.judge]
  rw [hquery]

theorem SamePolicies.rejected {cache cache' : CertificatePolicyCache}
    (h : SamePolicies cache cache') (c : TrackerCounts) :
    Rejected P cache' c ↔ Rejected P cache c := by
  simp only [Rejected, h.judge]

/-- What is dropped when a quiet record is judged. -/
theorem erases_applyJudgment {p : Nat} {c : TrackerCounts}
    (judgment : Judgment) (hc : s.counts.get? p = some c)
    (hcallback : c.sslCallback = some .doNothing) :
    (s.applyJudgment P p judgment).policyCache = s.policyCache ∧
      Erases (fun _ => judgment ≠ .allowed) p c s (s.applyJudgment P p judgment) := by
  have hjudged := get?_modify_self hc fun counts => { counts with sslJudgment := judgment }
  have hnothing : ∀ number request,
      c.sslCallback ≠ some (.bound number request) := by
    rintro number request hbound
    rw [hcallback] at hbound
    cases hbound
  have hothers : ∀ {q}, q ≠ p → (s.modify p fun counts =>
      { counts with sslJudgment := judgment }).counts.get? q = s.counts.get? q := by
    intro q hq
    rw [modify, get?_modify, if_neg hq]
  -- `UNKNOWN` and `DENIED` both cancel the request
  have hcancel : judgment ≠ .allowed → ((s.modify p fun counts =>
      { counts with sslJudgment := judgment }).cancelRequestForCounts P p).policyCache =
        s.policyCache ∧
      Erases (fun _ => judgment ≠ .allowed) p c s ((s.modify p fun counts =>
        { counts with sslJudgment := judgment }).cancelRequestForCounts P p) := by
    intro hnot
    obtain ⟨hpolicy, herases⟩ := erases_cancelRequestForCounts (P := P) hjudged
      fun number request hbound => absurd hbound (hnothing number request)
    refine ⟨hpolicy, fun {request q} => herases.mapped.trans ?_, fun hq =>
      (herases.others hq).trans (hothers hq)⟩
    exact and_congr_right fun _ => by simp [hnot]
  cases judgment with
  | unknown => exact hcancel (by decide)
  | denied => exact hcancel (by decide)
  | allowed =>
    obtain ⟨hmap, hpolicy, hrest⟩ := sameRecords_answerCounts (P := P) true hjudged
      fun number request hbound => absurd hbound (hnothing number request)
    refine ⟨hpolicy, fun {request q} => ?_, fun hq => (hrest hq).trans (hothers hq)⟩
    show (RequestTrackerImpl.answerCounts P _ p true).countsByRequest request = some q ↔ _
    rw [hmap]
    simp [modify]

/-- The round that judges a record drops the request in it if it is rejected. -/
theorem erases_reevaluateCallback {p : Nat} {c : TrackerCounts}
    (hquiet : s.QuietAt p) (hc : s.counts.get? p = some c) :
    SamePolicies s.policyCache (s.reevaluateCallback P p).policyCache ∧
      Erases (fun c => c.sslJudgment = .unknown ∧ Rejected P s.policyCache c) p c s
        (s.reevaluateCallback P p) := by
  simp only [reevaluateCallback, evaluateSSLCallbackForCounts, withCounts, hc]
  by_cases hunknown : c.sslJudgment = .unknown
  · rw [if_pos hunknown]
    cases hcert : c.sslInfo.cert with
    | none =>
      refine ⟨fun _ => rfl, fun {request q} => ⟨fun h => ⟨h, fun _ hdrop => ?_⟩, And.left⟩,
        fun _ => rfl⟩
      obtain ⟨-, cert, hsome, -⟩ := hdrop
      rw [hcert] at hsome
      cases hsome
    | some cert =>
      obtain ⟨hpolicy, herases⟩ := erases_applyJudgment (P := P)
        (s := s.setPolicyCache (s.policyCache.queryPolicy P.fingerprint cert (P.host c.url)
          c.sslInfo.certStatus).2)
        (judge P s.policyCache cert (P.host c.url) c.sslInfo.certStatus) hc (hquiet c hc hunknown).2
      refine ⟨fun host => ?_, fun {request q} => herases.mapped.trans ?_, herases.others⟩
      · rw [hpolicy]
        exact CertificatePolicyCache.policyFor_queryPolicy P.fingerprint s.policyCache cert
          (P.host c.url) c.sslInfo.certStatus host
      · refine and_congr_right fun _ => forall_congr' fun _ => not_congr ?_
        simp [Rejected, hunknown, hcert]
  · rw [if_neg hunknown]
    refine ⟨fun _ => rfl, fun {request q} => ⟨fun h => ⟨h, fun _ hdrop => ?_⟩, And.left⟩,
      fun _ => rfl⟩
    exact hunknown hdrop.1

/-! ## The two loops -/

theorem pointers_foldl_trimCounts {ps : List Nat} (hnodup : ps.Nodup)
    (hps : ∀ p ∈ ps, p ∈ s.counts.pointers) :
    (ps.foldl (trimCounts P) s).counts.pointers = s.counts.pointers.filter (· ∉ ps) := by
  induction ps generalizing s with
  | nil => simp
  | cons p ps ih =>
    obtain ⟨hfresh, hnodup⟩ := nodup_cons.1 hnodup
    have hpointers := pointers_trimCounts (P := P) (hps p mem_cons_self)
    have hleft : ∀ q ∈ ps, q ∈ (s.trimCounts P p).counts.pointers := by
      intro q hq
      rw [hpointers, mem_filter]
      refine ⟨hps q (mem_cons_of_mem p hq), decide_eq_true ?_⟩
      rintro rfl
      exact hfresh hq
    rw [foldl_cons, ih hnodup hleft, hpointers, filter_filter]
    refine filter_congr fun q _ => ?_
    simp [mem_cons, not_or, Bool.and_comm]

/-- The records at or after the split, which are kept. -/
def keptPointers (s : RequestTrackerImpl) (split : Option Nat) : List Nat :=
  s.counts.pointers.dropWhile fun p => some p ≠ split

theorem mem_keptPointers_iff {split : Option Nat} {p : Nat} :
    p ∈ s.keptPointers split ↔ p ∈ s.counts.pointers ∧ p ∉ s.trimmedPointers split := by
  have happend : s.trimmedPointers split ++ s.keptPointers split = s.counts.pointers :=
    takeWhile_append_dropWhile
  have hdisjoint : (s.trimmedPointers split).Disjoint (s.keptPointers split) :=
    disjoint_of_nodup_append (happend ▸ s.counts.pointers_nodup)
  rw [← happend, mem_append]
  constructor
  · intro hp
    exact ⟨.inr hp, fun htrimmed => hdisjoint htrimmed hp⟩
  · rintro ⟨htrimmed | hkept, hnot⟩
    · exact absurd htrimmed hnot
    · exact hkept

/-- The entries that the loop of `TrimToURL` leaves. -/
theorem mapped_trimPage (h : Settled s) (fullUrl : GURL) :
    let split := s.splitPosition P (P.removeRef fullUrl)
    Trimming s (s.trimPage P fullUrl) ∧
      (∀ request q, (s.trimPage P fullUrl).countsByRequest request = some q ↔
        s.countsByRequest request = some q ∧ ∀ p ∈ s.trimmedPointers split, ∀ c,
          s.counts.get? p = some c → c.request = request → c.done = true) ∧
      ∀ q c, (s.trimPage P fullUrl).counts.get? q = some c ↔
        q ∈ s.keptPointers split ∧ s.counts.get? q = some c := by
  intro split
  -- the loop starts from `t`, which has the records and the entries of `s`
  obtain ⟨t, ht⟩ : ∃ t, t = (s.recomputeMixedContent P split).recomputeCertificatePolicy P split :=
    ⟨_, rfl⟩
  have hsame : SameRecords s t ∧ t.isClosing = s.isClosing := by
    rw [ht]
    unfold recomputeMixedContent recomputeCertificatePolicy
    split <;> exact ⟨⟨rfl, rfl, rfl⟩, rfl⟩
  have htrimming : Trimming s t :=
    { sound := ht ▸ (h.sound.recomputeMixedContent split).post _
      numbered := ht ▸ (h.numbered.recomputeMixedContent split).post _
      policyCache := hsame.1.policyCache
      isClosing := hsame.2
      quiet := fun hopen q c hc => h.quiet hopen q c (hsame.1.counts ▸ hc) }
  have hnodup : (t.trimmedPointers split).Nodup :=
    t.counts.pointers_nodup.sublist (takeWhile_sublist _)
  have hps : ∀ p ∈ t.trimmedPointers split, p ∈ t.counts.pointers :=
    fun p hp => (takeWhile_sublist _).subset hp
  obtain ⟨hend, hmapped, hrest⟩ := foldl_erases (I := Trimming s)
    (fun u p c hu hc => hu.trimCounts (P := P) hc) htrimming hnodup hps
  have hpointers := pointers_foldl_trimCounts (P := P) hnodup hps
  -- behind the loop only the fields of the page are written
  have hpage : s.trimPage P fullUrl = ((t.trimmedPointers split).foldl (trimCounts P) t).enterPage
      (P.removeRef fullUrl) (s.newUrlHasMixedContent P (P.removeRef fullUrl)) := by
    rw [ht]
    rfl
  have htrimmed : t.trimmedPointers split = s.trimmedPointers split := by
    rw [trimmedPointers, trimmedPointers, hsame.1.counts]
  rw [hpage]
  refine ⟨⟨hend.sound.enterPage _ _, hend.numbered.enterPage _ _, hend.policyCache,
    hend.isClosing, hend.quiet⟩, fun request q => ?_, fun q c => ?_⟩
  · show ((t.trimmedPointers split).foldl (trimCounts P) t).countsByRequest request = some q ↔ _
    rw [hmapped, hsame.1.countsByRequest, htrimmed, hsame.1.counts]
    simp only [Bool.not_eq_false]
  · show ((t.trimmedPointers split).foldl (trimCounts P) t).counts.get? q = some c ↔ _
    constructor
    · intro hc
      have hmem := mem_pointers_of_get? hc
      rw [hpointers, mem_filter, decide_eq_true_eq] at hmem
      rw [hrest q hmem.2, hsame.1.counts] at hc
      rw [hsame.1.counts, htrimmed] at hmem
      exact ⟨mem_keptPointers_iff.2 hmem, hc⟩
    · rintro ⟨hkept, hc⟩
      have hnot := (mem_keptPointers_iff.1 hkept).2
      rw [← htrimmed] at hnot
      rw [hrest q hnot, hsame.1.counts]
      exact hc

/-- The entries that the loop over all callbacks leaves. -/
theorem mapped_reevaluateCallbacksForAllCounts (h : Sound s)
    (hquiet : ∀ q, s.QuietAt q) (hopen : s.isClosing = false) (request q : Nat) :
    (s.reevaluateCallbacksForAllCounts P).countsByRequest request = some q ↔
      s.countsByRequest request = some q ∧ ∀ p c, s.counts.get? p = some c →
        c.request = request → c.sslJudgment = .unknown → ¬ Rejected P s.policyCache c := by
  have hround : ∀ t p c, (Sound t ∧ (∀ q, t.QuietAt q) ∧ SamePolicies s.policyCache t.policyCache) →
      t.counts.get? p = some c →
        (Sound (t.reevaluateCallback P p) ∧ (∀ q, (t.reevaluateCallback P p).QuietAt q) ∧
          SamePolicies s.policyCache (t.reevaluateCallback P p).policyCache) ∧
        Erases (fun c => c.sslJudgment = .unknown ∧ Rejected P s.policyCache c) p c t
          (t.reevaluateCallback P p) := by
    rintro t p c ⟨hsound, hquiet', hpolicies⟩ hc
    obtain ⟨hround, herases⟩ := erases_reevaluateCallback (P := P) (hquiet' p) hc
    refine ⟨⟨hsound.reevaluateCallback (mem_pointers_of_get? hc),
      fun q => quietAt_reevaluateCallback hsound (.inr (hquiet' q)),
      fun host => (hround host).trans (hpolicies host)⟩, fun {request q} => ?_, herases.others⟩
    rw [herases.mapped, hpolicies.rejected]
  obtain ⟨-, hmapped, -⟩ := foldl_erases hround ⟨h, hquiet, fun _ => rfl⟩
    s.counts.pointers_nodup (fun p hp => hp)
  rw [reevaluateCallbacksForAllCounts, hopen, if_neg Bool.false_ne_true, hmapped]
  refine and_congr_right fun _ => ⟨fun hnot p c hc hrequest hunknown hrejected => ?_,
    fun hnot p _ c hc hrequest hdrop => hnot p c hc hrequest hdrop.1 hdrop.2⟩
  exact hnot p (mem_pointers_of_get? hc) c hc hrequest ⟨hunknown, hrejected⟩

/-- **Trimming**: in every state that is reached, a request that is mapped to a
record at or after the split stays mapped to it if and only if no unfinished record
before the split has its address and, unless the tracker is closing, none that is
kept has its address, was cancelled and is rejected again. -/
theorem trim_keeps_request_iff (P : RequestPlatform) (policyCache : CertificatePolicyCache)
    (ops : List Op) (hlegal : (machine P).Legal (.new policyCache) ops) (url : GURL)
    (request p : Nat) :
    let s := (machine P).run (.new policyCache) ops
    let split := s.splitPosition P (P.removeRef url)
    s.countsByRequest request = some p → p ∈ s.keptPointers split →
      ((s.step P (.trimToURL url)).countsByRequest request = some p ↔
        (∀ q ∈ s.trimmedPointers split, ∀ c, s.counts.get? q = some c → c.request = request →
          c.done = true) ∧
        (s.isClosing = true ∨ ∀ q ∈ s.keptPointers split, ∀ c, s.counts.get? q = some c →
          c.request = request → c.sslJudgment = .unknown → ¬ Rejected P s.policyCache c)) := by
  intro s split hmap _
  have hs : Settled s := .run policyCache hlegal
  obtain ⟨htrimming, hmapped, hkept⟩ := mapped_trimPage (P := P) hs url
  show (reevaluateCallbacksForAllCounts P (s.trimPage P url)).countsByRequest request = some p ↔ _
  cases hclosing : s.isClosing with
  | true =>
    have hclosing' : (s.trimPage P url).isClosing = true := htrimming.isClosing.trans hclosing
    rw [reevaluateCallbacksForAllCounts, if_pos hclosing', hmapped]
    simp [hmap, split]
  | false =>
    rw [mapped_reevaluateCallbacksForAllCounts htrimming.sound (htrimming.quiet hclosing)
      (htrimming.isClosing.trans hclosing), hmapped, htrimming.policyCache]
    simp only [hkept, hmap, true_and, Bool.false_eq_true, false_or, and_imp]
    exact and_congr_right fun _ => ⟨fun h q hq c hc => h q c hq hc, fun h q c hq hc => h q hq c hc⟩

/-- The record of a request that was stopped after it had lost its entry is still
unfinished: it drops the new request at its address. -/
theorem stopped_request_drops_new_one :
    let s := (machine plainRequestPlatform).run (.new ⟨.empty⟩) reusedAddressOps
    (machine plainRequestPlatform).Along (fun s op => op.Pre plainRequestPlatform s) (.new ⟨.empty⟩)
        reusedAddressOps ∧
      s.countsByRequest 1 = some 2 ∧
      2 ∈ s.keptPointers (s.splitPosition plainRequestPlatform ⟨"https://b/", true⟩) ∧
      (s.step plainRequestPlatform (.trimToURL ⟨"https://b/", true⟩)).countsByRequest 1 = none := by
  decide

theorem trim_keeps_request_iff_reused :
    let s := (machine plainRequestPlatform).run (.new ⟨.empty⟩) reusedAddressOps
    let split := s.splitPosition plainRequestPlatform ⟨"https://b/", true⟩
    (s.step plainRequestPlatform (.trimToURL ⟨"https://b/", true⟩)).countsByRequest 2 = some 1 ↔
      (∀ q ∈ s.trimmedPointers split, ∀ c, s.counts.get? q = some c → c.request = 2 →
        c.done = true) ∧
      (s.isClosing = true ∨ ∀ q ∈ s.keptPointers split, ∀ c, s.counts.get? q = some c →
        c.request = 2 → c.sslJudgment = .unknown →
          ¬ Rejected plainRequestPlatform s.policyCache c) :=
  trim_keeps_request_iff plainRequestPlatform ⟨.empty⟩ reusedAddressOps
    (by decide) ⟨"https://b/", true⟩ 2 1 (by decide) (by decide)

end RequestTrackerImpl

end ChromiumIos
