import ChromiumIos.Payments.PaymentRequestManager

/-!
# Promises of payment requests

- `Kept`: a request is pending exactly as long as the promise of `show` is, it is updated only while
  it is pending, and every promise the page was given is settled once, or still can be.
- `Inv`: what the calls keep for that.
- `kept_iff`: it holds in a run if and only if no call comes too early for the one before it.
-/

namespace ChromiumIos

open Lib PromiseSlots Option

namespace PaymentRequestManager

variable {Response Address : Type} {s : PaymentRequestManager Response Address}

structure Kept (s : PaymentRequestManager Response Address) : Prop where
  paired : s.pendingRequest.isSome = (s.resolver .requestPromiseResolver).isSome
  updating : s.updateEvent.isSome = true → s.pendingRequest.isSome = true
  answered : s.promises.Answered

/-- The promises of `show`, `abort` and `canMakePayment` are given to the page at once. -/
structure Inv (s : PaymentRequestManager Response Address) : Prop extends Kept s where
  sound : s.promises.Sound
  given : ∀ slot ≠ .responsePromiseResolver, ∀ promise, s.resolver slot = some promise →
    promise ∈ s.promises.handed

theorem inv_init : Inv (init : PaymentRequestManager Response Address) where
  paired := rfl
  updating := nofun
  answered := answered_empty
  sound := sound_empty
  given _ _ _ := nofun

/-! ## Promises are settled -/

theorem settleOrThrow_state (slot : Slot) (outcome : Outcome Response) (message : String) :
    (s.settleOrThrow slot outcome message).state = s.settle slot outcome := by
  rw [settleOrThrow]
  split
  · next hnone =>
    have hslot : s.promises.slots slot = none := isNone_iff_eq_none.1 hnone
    show s = { s with promises := s.promises.settle slot outcome }
    rw [PromiseSlots.settle, hslot]
  · rfl

theorem Inv.settle (h : Inv s) {slot : Slot} (hslot : slot ≠ .requestPromiseResolver)
    (outcome : Outcome Response) : Inv (s.settle slot outcome) where
  paired := by
    have hrequest : (s.settle slot outcome).resolver .requestPromiseResolver =
        s.resolver .requestPromiseResolver :=
      ext fun _ => slots_settle.trans (and_iff_right (Ne.symm hslot))
    rw [hrequest]
    exact h.paired
  updating := h.updating
  answered := h.answered.settle h.sound slot outcome
  sound := h.sound.settle slot outcome
  given other hother promise hpromise := by
    have hgiven := h.given other hother promise (slots_settle.1 hpromise).2
    rwa [← handed_settle slot outcome] at hgiven

/-- The request is over with its promise. -/
theorem Inv.close (h : Inv s) (outcome : Outcome Response) :
    Inv (s.settle .requestPromiseResolver outcome).clearRequest where
  paired := by
    have hnone : (s.settle .requestPromiseResolver outcome).resolver .requestPromiseResolver =
        none :=
      eq_none_iff_forall_ne_some.2 fun _ hsome => (slots_settle.1 hsome).1 rfl
    exact (congrArg isSome hnone).symm
  updating := nofun
  answered := h.answered.settle h.sound _ outcome
  sound := h.sound.settle _ outcome
  given other hother promise hpromise := by
    have hgiven := h.given other hother promise (slots_settle.1 hpromise).2
    rwa [← handed_settle _ outcome] at hgiven

/-- Without a resolver nothing is rejected, and with one the request is over. -/
theorem reject_cases (s : PaymentRequestManager Response Address) (message : String) :
    (s.resolver .requestPromiseResolver = none ∧
      s.rejectRequestPromise message = s.throws noPromiseToReject) ∨
    (s.resolver .requestPromiseResolver ≠ none ∧ s.rejectRequestPromise message =
      returns (s.settle .requestPromiseResolver (.rejected message)).clearRequest) := by
  cases hslot : s.resolver .requestPromiseResolver with
  | none =>
    refine .inl ⟨rfl, ?_⟩
    rw [rejectRequestPromise, settleOrThrow, hslot]
    rfl
  | some promise =>
    refine .inr ⟨nofun, ?_⟩
    rw [rejectRequestPromise, settleOrThrow, hslot]
    rfl

theorem Inv.reject (h : Inv s) (message : String) : Inv (s.rejectRequestPromise message).state := by
  rcases reject_cases s message with ⟨-, heq⟩ | ⟨-, heq⟩
  · rw [heq]
    exact h
  · rw [heq]
    exact h.close _

/-- Without a pending request there is nothing to reject. -/
theorem Kept.reject_of_none (h : Kept s) (hpending : s.pendingRequest = none) (message : String) :
    s.rejectRequestPromise message = s.throws noPromiseToReject := by
  have hresolver : s.resolver .requestPromiseResolver = none := by
    rw [← not_isSome_iff_eq_none, ← h.paired, hpending]
    exact Bool.false_ne_true
  exact (reject_cases s message).elim (·.2) fun hsome => absurd hresolver hsome.1

/-- A pending request has a resolver. -/
theorem Kept.resolver_of_some (h : Kept s) {request : Nat}
    (hpending : s.pendingRequest = some request) :
    ∃ promise, s.resolver .requestPromiseResolver = some promise := by
  have hpaired := h.paired
  rw [hpending] at hpaired
  exact isSome_iff_exists.1 hpaired.symm

/-! ## Promises are created -/

theorem resolver_newPromise {slot other : Slot} (hne : other ≠ slot) :
    (s.newPromise slot).resolver other = s.resolver other :=
  slots_create_of_ne hne

theorem Inv.given_newPromise (h : Inv s) (slot : Slot) : ∀ other ≠ .responsePromiseResolver,
    ∀ promise, (s.newPromise slot).resolver other = some promise →
      promise ∈ (s.newPromise slot).promises.handed := by
  intro other hother promise hpromise
  rcases slots_create.1 hpromise with ⟨rfl, -⟩ | ⟨-, hold⟩
  · exact List.mem_append_left _ (mem_toList.2 hpromise)
  · exact List.mem_append_right _ (h.given other hother promise hold)

/-- A promise for a global that is null. -/
theorem Inv.newPromise (h : Inv s) {slot : Slot} (hslot : slot ≠ .requestPromiseResolver)
    (hnone : s.resolver slot = none) : Inv (s.newPromise slot) where
  paired := by
    rw [resolver_newPromise (Ne.symm hslot)]
    exact h.paired
  updating := h.updating
  answered := by
    refine (answered_create h.answered fun promise hmem => ?_).hand slot
    exact absurd (hnone.symm.trans hmem) nofun
  sound := (h.sound.create slot).hand slot
  given := h.given_newPromise slot

theorem Inv.showNew (h : Inv s) (hpending : s.pendingRequest = none) (request : Nat) :
    Inv ({ s with pendingRequest := some request }.newPromise .requestPromiseResolver) where
  paired := by
    have hnew : (s.promises.create .requestPromiseResolver).slots .requestPromiseResolver =
        some s.promises.next := slots_create_self _
    exact (congrArg isSome hnew).symm
  updating := fun _ => rfl
  answered := by
    refine (answered_create h.answered fun promise hmem => ?_).hand _
    have hpaired := h.paired
    rw [hpending, show s.resolver .requestPromiseResolver = some promise from hmem] at hpaired
    exact absurd hpaired Bool.false_ne_true
  sound := (h.sound.create _).hand _
  given := h.given_newPromise _

/-- The resolver for `complete` replaces one that the page was not given. -/
theorem Inv.newResponse (h : Inv s)
    (hungiven : ∀ promise ∈ s.resolver .responsePromiseResolver, promise ∉ s.promises.handed) :
    Inv { s with promises := s.promises.create .responsePromiseResolver } where
  paired := h.paired
  updating := h.updating
  answered := answered_create h.answered hungiven
  sound := h.sound.create _
  given other hother promise hpromise := by
    rcases slots_create.1 hpromise with ⟨rfl, -⟩ | ⟨-, hold⟩
    · exact absurd rfl hother
    · exact h.given other hother promise hold

/-! ## The calls -/

/-- The end of `resolveRequestPromise` with a resolver. -/
theorem Inv.resolveWith (h : Inv s) (paymentResponse : Option Response)
    (hungiven : ∀ promise ∈ s.resolver .responsePromiseResolver, promise ∉ s.promises.handed) :
    Inv (s.resolveWith paymentResponse).state := by
  have hnew := h.newResponse hungiven
  have hresolver : ({ s with
      promises := s.promises.create .responsePromiseResolver } : PaymentRequestManager Response
        Address).resolver .requestPromiseResolver = s.resolver .requestPromiseResolver :=
    slots_create_of_ne Slot.noConfusion
  cases hslot : s.resolver .requestPromiseResolver with
  | none =>
    rw [PaymentRequestManager.resolveWith, settleOrThrow, hresolver, hslot]
    exact hnew
  | some promise =>
    rw [PaymentRequestManager.resolveWith, settleOrThrow, hresolver, hslot]
    exact hnew.close _

/-- `resolveRequestPromise` does nothing without a resolver, rejects missing data that cannot be
parsed, and makes a resolver for `complete` otherwise, from the globals or when they are null. -/
theorem resolve_cases (s : PaymentRequestManager Response Address) (data : ResponseData Response) :
    (s.resolver .requestPromiseResolver = none ∧ (s.resolveRequestPromise data).state = s) ∨
    (s.resolver .requestPromiseResolver ≠ none ∧ data.present = false ∧ data.parsed = none ∧
      ∃ outcome, (s.resolveRequestPromise data).state =
        (s.settle .requestPromiseResolver outcome).clearRequest) ∨
    (s.resolver .requestPromiseResolver ≠ none ∧ (data.present = true ∨ data.parsed ≠ none) ∧
      ∃ t paymentResponse, (t = s ∨ ∃ outcome,
        t = (s.settle .requestPromiseResolver outcome).clearRequest) ∧
          (s.resolveRequestPromise data).state = (t.resolveWith paymentResponse).state) := by
  obtain ⟨present, parsed⟩ := data
  cases hslot : s.resolver .requestPromiseResolver with
  | none =>
    refine .inl ⟨rfl, ?_⟩
    rw [resolveRequestPromise, hslot]
    rfl
  | some promise =>
    have hreject : ∀ message, s.rejectRequestPromise message =
        returns (s.settle .requestPromiseResolver (.rejected message)).clearRequest :=
      fun message => ((reject_cases s message).resolve_left fun hnone =>
        absurd (hnone.1.symm.trans hslot) nofun).2
    have hnone : ∀ outcome, ((s.settle .requestPromiseResolver outcome).clearRequest).resolver
        .requestPromiseResolver = none :=
      fun outcome => eq_none_iff_forall_ne_some.2 fun _ hsome =>
        (slots_settle.1 hsome).1 rfl
    refine .inr ?_
    simp only [resolveRequestPromise, hslot, isNone_some, Bool.false_eq_true, if_false]
    cases present with
    | true =>
      refine .inr ⟨nofun, .inl rfl, ?_⟩
      cases parsed with
      | some response => exact ⟨s, some response, .inl rfl, rfl⟩
      | none =>
        exact ⟨_, none, .inr ⟨.rejected failedToParse, rfl⟩,
          by simp [returns, Result.andThen, hreject]⟩
    | false =>
      cases parsed with
      | some response =>
        exact .inr ⟨nofun, .inr nofun, _, some response,
          .inr ⟨.rejected paymentResponseMissing, rfl⟩, by simp [returns, Result.andThen, hreject]⟩
      | none =>
        refine .inl ⟨nofun, rfl, rfl, .rejected paymentResponseMissing, ?_⟩
        have hagain := fun message => ((reject_cases (s.settle .requestPromiseResolver
          (.rejected paymentResponseMissing)).clearRequest message).resolve_right
            fun hsome => hsome.1 (hnone _)).2
        simp [returns, Result.andThen, hreject, hagain, throws]

/-- Only the globals and the promises matter. -/
theorem Inv.congr (h : Inv s) {t : PaymentRequestManager Response Address}
    (hpending : t.pendingRequest = s.pendingRequest) (hpromises : t.promises = s.promises)
    (hevent : t.updateEvent.isSome = true → t.pendingRequest.isSome = true) : Inv t where
  paired := by
    rw [hpending, resolver, hpromises]
    exact h.paired
  updating := hevent
  answered := hpromises ▸ h.answered
  sound := hpromises ▸ h.sound
  given slot hslot promise hpromise := by
    rw [resolver, hpromises] at hpromise
    rw [hpromises]
    exact h.given slot hslot promise hpromise

/-- An update needs a pending request. While another one is going on it rejects the request, and
sets the event all the same. -/
theorem update_cases (h : Kept s) (type : String) (update : PaymentRequestManager Response Address →
    Nat → PaymentRequestManager Response Address) :
    (s.pendingRequest = none ∧ (s.updateAndDispatchEvent type update).state = s) ∨
    ∃ request t, s.pendingRequest = some request ∧
      (s.updateEvent = none ∧ t = s ∨
        s.updateEvent ≠ none ∧
          t = (s.settle .requestPromiseResolver (.rejected onlyOneUpdate)).clearRequest) ∧
      (s.updateAndDispatchEvent type update).state =
        { update t request with
          updateEvent := some type
          target := none
          timeouts := (update t request).timeouts ++ [request] } := by
  cases hpending : s.pendingRequest with
  | none =>
    refine .inl ⟨rfl, ?_⟩
    rw [updateAndDispatchEvent, hpending]
    simp [h.reject_of_none hpending, Result.andThen, throws]
  | some request =>
    refine .inr ⟨request, ?_⟩
    cases hevent : s.updateEvent with
    | none =>
      refine ⟨s, rfl, .inl ⟨rfl, rfl⟩, ?_⟩
      simp [updateAndDispatchEvent, hpending, hevent, returns, Result.andThen]
    | some event =>
      refine ⟨_, rfl, .inr ⟨nofun, rfl⟩, ?_⟩
      obtain ⟨promise, hresolver⟩ := h.resolver_of_some hpending
      have hreject := ((reject_cases s onlyOneUpdate).resolve_left fun hnone =>
        absurd (hnone.1.symm.trans hresolver) nofun).2
      simp [updateAndDispatchEvent, hpending, hevent, returns, Result.andThen, hreject]

theorem Inv.update (h : Inv s) (type : String) {update : PaymentRequestManager Response Address →
      Nat → PaymentRequestManager Response Address}
    (hupdate : ∀ t request, (update t request).pendingRequest = t.pendingRequest ∧
      (update t request).promises = t.promises)
    (hevent : s.pendingRequest ≠ none → s.updateEvent = none) :
    Inv (s.updateAndDispatchEvent type update).state := by
  rcases update_cases h.toKept type update with
    ⟨-, heq⟩ | ⟨request, t, hpending, ⟨-, rfl⟩ | ⟨hsome, -⟩, heq⟩
  · rw [heq]
    exact h
  · rw [heq]
    refine h.congr (hupdate _ request).1 (hupdate _ request).2 fun _ => ?_
    show (update _ request).pendingRequest.isSome = true
    rw [(hupdate _ request).1, hpending]
    rfl
  · exact absurd (hevent (by rw [hpending]; exact nofun)) hsome

/-- The event of a second update outlives the request. -/
theorem not_kept_update (h : Inv s) (type : String) {update : PaymentRequestManager Response
      Address → Nat → PaymentRequestManager Response Address}
    (hupdate : ∀ t request, (update t request).pendingRequest = t.pendingRequest ∧
      (update t request).promises = t.promises)
    (hpending : s.pendingRequest ≠ none) (hevent : s.updateEvent ≠ none) :
    ¬Kept (s.updateAndDispatchEvent type update).state := by
  intro hkept
  rcases update_cases h.toKept type update with
    ⟨hnone, -⟩ | ⟨request, t, -, ⟨hnone, -⟩ | ⟨-, rfl⟩, heq⟩
  · exact hpending hnone
  · exact hevent hnone
  · rw [heq] at hkept
    have hsome := hkept.updating rfl
    change ((update _ request).pendingRequest).isSome = true at hsome
    rw [(hupdate _ request).1] at hsome
    exact absurd hsome nofun

/-! ## When promises are kept -/

/-- `show` has its message sent, `abort` and `canMakePayment` are not called while an earlier call
waits, the host resolves a request only when no `complete` waits, and it updates a request only when
no update is going on. Missing data that cannot be parsed does no harm. -/
def Orderly (s : PaymentRequestManager Response Address) : Op Response Address → Prop
  | .showRequest _ sent => s.pendingRequest = none → sent = true
  | .abort sent => s.pendingRequest ≠ none → sent = true → s.resolver .abortPromiseResolver = none
  | .canMakePayment sent => sent = true → s.resolver .canMakePaymentPromiseResolver = none
  | .resolveRequestPromise data =>
    s.resolver .requestPromiseResolver ≠ none → (data.present = true ∨ data.parsed ≠ none) →
      ∀ promise ∈ s.resolver .responsePromiseResolver, promise ∉ s.promises.handed
  | .updateShippingOptionAndDispatchEvent _ => s.pendingRequest ≠ none → s.updateEvent = none
  | .updateShippingAddressAndDispatchEvent _ => s.pendingRequest ≠ none → s.updateEvent = none
  | _ => True

instance (s : PaymentRequestManager Response Address) : ∀ op, Decidable (s.Orderly op)
  | .showRequest _ _ | .abort _ | .canMakePayment _ => instDecidableForall
  | .resolveRequestPromise _ | .updateShippingOptionAndDispatchEvent _ => instDecidableForall
  | .updateShippingAddressAndDispatchEvent _ => instDecidableForall
  | .complete _ | .updateWith | .updateSettles _ _ _ | .dispatchEvent _ _
  | .rejectRequestPromise _ | .resolveAbortPromise | .resolveCanMakePaymentPromise _
  | .rejectCanMakePaymentPromise _ | .resolveResponsePromise => instDecidableTrue

theorem inv_step (op : Op Response Address) (h : Inv s) (horderly : s.Orderly op) :
    Inv (s.apply op).state := by
  cases op with
  | showRequest request sent =>
    show Inv (s.showRequest request sent).state
    rw [showRequest]
    split
    · exact h
    · next hpending =>
      have hnone : s.pendingRequest = none := not_isSome_iff_eq_none.1 hpending
      rw [horderly hnone]
      exact h.showNew hnone request
  | abort sent =>
    show Inv (s.abort sent).state
    cases hpending : s.pendingRequest with
    | none =>
      rw [abort, hpending]
      simpa [h.toKept.reject_of_none hpending, Result.andThen, throws] using h
    | some request =>
      rw [abort, hpending]
      cases sent with
      | false => exact h
      | true => exact h.newPromise nofun (horderly (by rw [hpending]; exact nofun) rfl)
  | canMakePayment sent =>
    cases sent with
    | false => exact h
    | true => exact h.newPromise nofun (horderly rfl)
  | complete sent =>
    show Inv (s.complete sent).state
    rw [complete]
    split
    · exact h
    · cases sent with
      | false => exact h
      | true =>
        exact
          { h with
            answered := h.answered.hand _
            sound := h.sound.hand _
            given := fun slot hslot promise hpromise =>
              List.mem_append_right _ (h.given slot hslot promise hpromise) }
  | updateWith => exact h.congr rfl rfl h.updating
  | updateSettles valid sent abortSent =>
    show Inv (s.updateSettles valid sent abortSent).state
    rw [updateSettles]
    dsimp only
    split
    · exact h.congr rfl rfl nofun
    · split
      · exact h.congr rfl rfl nofun
      · exact h.congr rfl rfl h.updating
  | dispatchEvent i listens =>
    show Inv (s.dispatchEvent i listens).state
    rw [dispatchEvent]
    dsimp only
    split
    · exact h.congr rfl rfl h.updating
    · split_ifs <;> exact h.congr rfl rfl h.updating
  | resolveRequestPromise data =>
    rcases resolve_cases s data with ⟨-, heq⟩ | ⟨-, -, -, outcome, heq⟩ |
      ⟨hsome, hdata, t, paymentResponse, ht, heq⟩
    · exact heq.symm ▸ h
    · exact heq.symm ▸ h.close outcome
    · have hungiven := horderly hsome hdata
      show Inv (s.resolveRequestPromise data).state
      rw [heq]
      rcases ht with rfl | ⟨outcome, rfl⟩
      · exact h.resolveWith paymentResponse hungiven
      · refine (h.close outcome).resolveWith paymentResponse fun promise hpromise hmem => ?_
        refine hungiven promise (slots_settle.1 hpromise).2 ?_
        have hhanded : (s.promises.settle .requestPromiseResolver outcome).handed =
            s.promises.handed := handed_settle _ outcome
        exact hhanded ▸ hmem
  | rejectRequestPromise message => exact h.reject message
  | resolveAbortPromise =>
    show Inv s.resolveAbortPromise.state
    rw [resolveAbortPromise]
    split
    · exact h
    · exact h.settle (by decide) _
  | resolveCanMakePaymentPromise value =>
    exact (settleOrThrow_state ..).symm ▸ h.settle (by decide) _
  | rejectCanMakePaymentPromise message =>
    exact (settleOrThrow_state ..).symm ▸ h.settle (by decide) _
  | resolveResponsePromise =>
    exact (settleOrThrow_state ..).symm ▸ h.settle (by decide) _
  | updateShippingOptionAndDispatchEvent shippingOptionID =>
    exact h.update _ (fun _ _ => ⟨rfl, rfl⟩) horderly
  | updateShippingAddressAndDispatchEvent shippingAddress =>
    exact h.update _ (fun _ _ => ⟨rfl, rfl⟩) horderly

/-- A new promise for a global drops the one that waits. -/
theorem not_kept_newPromise (h : Inv s) {slot : Slot} (hslot : slot ≠ .responsePromiseResolver)
    (hsome : s.resolver slot ≠ none) : ¬Kept (s.newPromise slot) := by
  obtain ⟨promise, hpromise⟩ := ne_none_iff_exists'.1 hsome
  have hlost := isLost_create h.sound hpromise (h.given slot hslot promise hpromise)
  exact fun hkept => (hlost.hand slot).not_answered hkept.answered

/-- So does a new resolver for `complete`, if the page waits for the old one. -/
theorem not_kept_resolveWith (h : Inv s) {promise : Nat}
    (hpromise : s.resolver .responsePromiseResolver = some promise)
    (hmem : promise ∈ s.promises.handed) (paymentResponse : Option Response) :
    ¬Kept (s.resolveWith paymentResponse).state := by
  have hlost := isLost_create h.sound hpromise hmem
  intro hkept
  have hanswered := hkept.answered
  rw [resolveWith, settleOrThrow] at hanswered
  split at hanswered
  · exact hlost.not_answered hanswered
  · exact (hlost.settle _ _).not_answered hanswered

theorem not_kept_step (op : Op Response Address) (h : Inv s) (hdisorderly : ¬s.Orderly op) :
    ¬Kept (s.apply op).state := by
  cases op with
  | showRequest request sent =>
    obtain ⟨hpending, hsent⟩ := Classical.not_imp.1 hdisorderly
    intro hkept
    have hpaired := hkept.paired
    have hresolver := h.paired
    rw [hpending] at hresolver
    simp only [apply, showRequest, hpending, hsent] at hpaired
    exact absurd (hpaired.trans hresolver.symm) nofun
  | abort sent =>
    obtain ⟨hpending, hrest⟩ := Classical.not_imp.1 hdisorderly
    obtain ⟨rfl, hsome⟩ := Classical.not_imp.1 hrest
    obtain ⟨request, hpending⟩ := ne_none_iff_exists'.1 hpending
    show ¬Kept (s.abort true).state
    rw [abort, hpending]
    exact not_kept_newPromise h nofun hsome
  | canMakePayment sent =>
    obtain ⟨rfl, hsome⟩ := Classical.not_imp.1 hdisorderly
    exact not_kept_newPromise h nofun hsome
  | resolveRequestPromise data =>
    obtain ⟨hsome, hrest⟩ := Classical.not_imp.1 hdisorderly
    obtain ⟨hdata, hgiven⟩ := Classical.not_imp.1 hrest
    obtain ⟨promise, hpromise, hmem⟩ : ∃ promise, s.resolver .responsePromiseResolver =
        some promise ∧ promise ∈ s.promises.handed := by
      by_contra hnone
      exact hgiven fun promise hpromise hmem => hnone ⟨promise, hpromise, hmem⟩
    show ¬Kept (s.resolveRequestPromise data).state
    rcases resolve_cases s data with ⟨hnone, -⟩ | ⟨-, habsent, hunparsed, -⟩ |
      ⟨-, -, t, paymentResponse, ht, heq⟩
    · exact absurd hnone hsome
    · rw [habsent, hunparsed] at hdata
      exact hdata.elim nofun fun hne => absurd rfl hne
    · rw [heq]
      rcases ht with rfl | ⟨outcome, rfl⟩
      · exact not_kept_resolveWith h hpromise hmem paymentResponse
      · refine not_kept_resolveWith (h.close outcome)
          (slots_settle.2 ⟨by decide, hpromise⟩) ?_ paymentResponse
        have hhanded : (s.promises.settle .requestPromiseResolver outcome).handed =
            s.promises.handed := handed_settle _ outcome
        exact hhanded.symm ▸ hmem
  | updateShippingOptionAndDispatchEvent shippingOptionID =>
    obtain ⟨hpending, hevent⟩ := Classical.not_imp.1 hdisorderly
    exact not_kept_update h _ (fun _ _ => ⟨rfl, rfl⟩) hpending hevent
  | updateShippingAddressAndDispatchEvent shippingAddress =>
    obtain ⟨hpending, hevent⟩ := Classical.not_imp.1 hdisorderly
    exact not_kept_update h _ (fun _ _ => ⟨rfl, rfl⟩) hpending hevent
  | complete | updateWith | updateSettles | dispatchEvent | rejectRequestPromise
  | resolveAbortPromise | resolveCanMakePaymentPromise | rejectCanMakePaymentPromise
  | resolveResponsePromise => exact absurd trivial hdisorderly

/-- In a run the promises are kept if and only if all its calls are orderly. -/
theorem promises_kept_iff {ops : List (Op Response Address)}
    (hlegal : (machine Response Address).Legal init ops) :
    (∀ before, before <+: ops → Kept ((machine Response Address).run init before)) ↔
      (machine Response Address).Along Orderly init ops :=
  Machine.always_iff_along (M := machine Response Address) (I := Inv) (fun _ h => h.toKept)
    (fun _ op h _ => inv_step op h) (fun _ op h _ => not_kept_step op h) inv_init hlegal

/-- A request that is updated, paid and completed, and then another one that the page aborts. -/
theorem promises_kept_iff_paid :
    let ops : List (Op Unit Unit) := [.canMakePayment true, .resolveCanMakePaymentPromise true,
      .showRequest 0 true, .updateShippingOptionAndDispatchEvent "express", .dispatchEvent 0 true,
      .updateWith, .updateSettles true true true, .resolveRequestPromise ⟨true, some ()⟩,
      .complete true, .resolveResponsePromise, .showRequest 1 true, .abort true,
      .rejectRequestPromise "", .resolveAbortPromise]
    (machine Unit Unit).Legal init ops ∧
      ∀ before, before <+: ops → Kept ((machine Unit Unit).run init before) := by
  intro ops
  have hlegal : (machine Unit Unit).Legal init ops := by decide +kernel
  have horderly : (machine Unit Unit).Along Orderly init ops := by decide +kernel
  exact ⟨hlegal, (promises_kept_iff hlegal).2 horderly⟩

/-- A second update while the first one goes on rejects the request, and leaves an event behind. -/
theorem second_update_not_kept :
    let ops : List (Op Unit Unit) := [.showRequest 0 true,
      .updateShippingOptionAndDispatchEvent "standard",
      .updateShippingOptionAndDispatchEvent "express"]
    (machine Unit Unit).Legal init ops ∧ ¬Kept ((machine Unit Unit).run init ops) := by
  refine ⟨by decide +kernel, fun hkept => ?_⟩
  exact absurd (hkept.updating (by decide +kernel)) (by decide +kernel)

end PaymentRequestManager

end ChromiumIos
