import ChromiumIos.Lib.Machine
import Mathlib.Data.List.Perm.Basic

/-!
# `DOMAlteringLock`

`dom_altering_lock.mm`: a feature that alters the page first acquires the lock. A holder that can
give it up is asked to, and has the completion handler run once it has released it.

- `machine`: the lock under any order of `Acquire`, `Release` and finished releases. A lock action
  is the last thing that each function runs, so that its own calls are steps of their own.
- `AnsweredOnce`: every lock action is run once, or its feature is still waiting.
- `exclusive_iff`: the lock is exclusive if and only if no other feature has got it when a holder
  finishes its release.
-/

namespace ChromiumIos

open Lib List

/-- A holder that was asked to release the lock, for an `Acquire` of another feature. -/
structure ReleaseRequest (F : Type) where
  holder : F
  feature : F
  call : Nat
deriving DecidableEq, Repr

/-- The lock. The `Acquire` calls are numbered, `altering` has the features between a
`lockAction(YES)` and their release, and `lockActions` the answers that were given. -/
structure DOMAlteringLock (F : Type) where
  currentDomAlteringFeature : Option F
  releaseRequests : List (ReleaseRequest F)
  calls : Nat
  altering : List F
  lockActions : List (Nat × Bool)
  dcheckFailed : Bool
deriving DecidableEq, Repr

namespace DOMAlteringLock

variable {F : Type} [DecidableEq F]

def new : DOMAlteringLock F := ⟨none, [], 0, [], [], false⟩

/-- `lockAction(YES)`. -/
def lockActionYes (lock : DOMAlteringLock F) (feature : F) (call : Nat) : DOMAlteringLock F :=
  { lock with
    altering := feature :: lock.altering
    lockActions := lock.lockActions ++ [(call, true)] }

/-- `Acquire`; `canReleaseDOMLock` is the answer of the current holder. -/
def acquire (lock : DOMAlteringLock F) (feature : F) (canReleaseDOMLock : Bool) :
    DOMAlteringLock F :=
  let call := lock.calls
  let lock := { lock with calls := call + 1 }
  match lock.currentDomAlteringFeature with
  | some holder =>
    if holder = feature then lock.lockActionYes feature call
    else if !canReleaseDOMLock then
      { lock with lockActions := lock.lockActions ++ [(call, false)] }
    else { lock with releaseRequests := lock.releaseRequests ++ [⟨holder, feature, call⟩] }
  | none => { lock with currentDomAlteringFeature := some feature }.lockActionYes feature call

/-- `Release`. -/
def release (lock : DOMAlteringLock F) (feature : F) : DOMAlteringLock F :=
  { lock with
    currentDomAlteringFeature :=
      if lock.currentDomAlteringFeature = some feature then none
      else lock.currentDomAlteringFeature
    altering := lock.altering.filter (· ≠ feature) }

/-- The completion handler of a release, with its `DCHECK`. -/
def completionHandler (lock : DOMAlteringLock F) (request : ReleaseRequest F) :
    DOMAlteringLock F :=
  { lock with
    dcheckFailed := lock.dcheckFailed || lock.currentDomAlteringFeature.isSome
    currentDomAlteringFeature := some request.feature }.lockActionYes request.feature request.call

/-- A holder has restored the page: it calls `Release` and then the completion handler. -/
def finishRelease (lock : DOMAlteringLock F) (i : Nat) : DOMAlteringLock F :=
  match lock.releaseRequests[i]? with
  | none => lock
  | some request =>
    ({ lock with releaseRequests := lock.releaseRequests.eraseIdx i }.release
      request.holder).completionHandler request

inductive Op (F : Type)
  | acquire (feature : F) (canReleaseDOMLock : Bool)
  | release (feature : F)
  | finishRelease (i : Nat)

def apply (lock : DOMAlteringLock F) : Op F → DOMAlteringLock F
  | .acquire feature canReleaseDOMLock => lock.acquire feature canReleaseDOMLock
  | .release feature => lock.release feature
  | .finishRelease i => lock.finishRelease i

/-- Every order of calls and finished releases. -/
def machine (F : Type) [DecidableEq F] : Machine (DOMAlteringLock F) (Op F) where
  Pre _ _ := True
  step := apply

/-! ## Every lock action is run once -/

/-- The calls that were answered, and those that wait for a release, are all calls so far, each of
them once. -/
def AnsweredOnce (lock : DOMAlteringLock F) : Prop :=
  (lock.lockActions.map Prod.fst ++ lock.releaseRequests.map ReleaseRequest.call).Perm
    (range lock.calls)

variable {lock : DOMAlteringLock F}

theorem answeredOnce_acquire (h : lock.AnsweredOnce) (feature : F)
    (canReleaseDOMLock : Bool) : (lock.acquire feature canReleaseDOMLock).AnsweredOnce := by
  have hcall := h.append_right [lock.calls]
  rw [← range_succ] at hcall
  -- the call is answered at once
  have hanswered : ∀ yes, ((lock.lockActions ++ [(lock.calls, yes)]).map Prod.fst ++
      lock.releaseRequests.map ReleaseRequest.call).Perm (range (lock.calls + 1)) := by
    intro yes
    rw [map_append, append_assoc]
    refine (Perm.append_left _ perm_append_comm).trans ?_
    rw [← append_assoc]
    exact hcall
  rw [acquire]
  cases lock.currentDomAlteringFeature with
  | none => exact hanswered true
  | some holder =>
    simp only
    split
    · exact hanswered true
    · split
      · exact hanswered false
      · show (lock.lockActions.map Prod.fst ++ (lock.releaseRequests ++
          [ReleaseRequest.mk holder feature lock.calls]).map ReleaseRequest.call).Perm _
        rw [map_append, ← append_assoc]
        exact hcall

theorem answeredOnce_finishRelease (h : lock.AnsweredOnce) (i : Nat) :
    (lock.finishRelease i).AnsweredOnce := by
  rw [finishRelease]
  cases hrequest : lock.releaseRequests[i]? with
  | none => exact h
  | some request =>
    obtain ⟨hi, hget⟩ := List.getElem?_eq_some_iff.1 hrequest
    show ((lock.lockActions ++ [(request.call, true)]).map Prod.fst ++
      (lock.releaseRequests.eraseIdx i).map ReleaseRequest.call).Perm _
    rw [map_append, append_assoc]
    refine (Perm.append_left _ ?_).trans h
    have hperm := (getElem_cons_eraseIdx_perm hi).map ReleaseRequest.call
    rw [hget] at hperm
    exact hperm

omit [DecidableEq F] in
theorem answeredOnce_new : (new : DOMAlteringLock F).AnsweredOnce := Perm.refl []

theorem answeredOnce_step (lock : DOMAlteringLock F) (op : Op F) (h : lock.AnsweredOnce) :
    ((machine F).step lock op).AnsweredOnce := by
  cases op with
  | acquire feature canReleaseDOMLock => exact answeredOnce_acquire h feature canReleaseDOMLock
  | release feature => exact h
  | finishRelease i => exact answeredOnce_finishRelease h i

/-! ## The lock is exclusive -/

/-- No feature but the current one may alter the page, and no `DCHECK` has failed. -/
structure Exclusive (lock : DOMAlteringLock F) : Prop where
  current : ∀ feature ∈ lock.altering, lock.currentDomAlteringFeature = some feature
  checked : lock.dcheckFailed = false

/-- When a holder finishes its release, the lock is free or still its own. -/
def Undisturbed (lock : DOMAlteringLock F) : Op F → Prop
  | .finishRelease i => ∀ request ∈ lock.releaseRequests[i]?,
      ∀ feature ∈ lock.currentDomAlteringFeature, feature = request.holder
  | _ => True

theorem exclusive_acquire (h : lock.Exclusive) (feature : F)
    (canReleaseDOMLock : Bool) : (lock.acquire feature canReleaseDOMLock).Exclusive := by
  rw [acquire]
  cases hcurrent : lock.currentDomAlteringFeature with
  | none =>
    refine ⟨fun other hmem => ?_, h.checked⟩
    rcases mem_cons.1 hmem with rfl | hmem
    · rfl
    · exact nomatch hcurrent.symm.trans (h.current other hmem)
  | some holder =>
    have hholder : ∀ other ∈ lock.altering, some holder = some other := fun other hmem =>
      hcurrent.symm.trans (h.current other hmem)
    simp only
    split
    · next heq =>
      refine ⟨fun other hmem => ?_, h.checked⟩
      rcases mem_cons.1 hmem with rfl | hmem
      · exact congrArg some heq
      · exact hholder other hmem
    · split
      · exact ⟨hholder, h.checked⟩
      · exact ⟨hholder, h.checked⟩

theorem exclusive_release (h : lock.Exclusive) (feature : F) :
    (lock.release feature).Exclusive := by
  refine ⟨fun other hmem => ?_, h.checked⟩
  obtain ⟨hmem, hne⟩ := mem_filter.1 hmem
  have hcurrent := h.current other hmem
  show (if lock.currentDomAlteringFeature = some feature then none
    else lock.currentDomAlteringFeature) = some other
  rw [hcurrent, if_neg fun heq => of_decide_eq_true hne (Option.some.inj heq)]

/-- The holder has released the lock when nobody else has got it. -/
theorem release_of_undisturbed (h : lock.Exclusive) {holder : F}
    (hholder : ∀ feature ∈ lock.currentDomAlteringFeature, feature = holder) :
    (lock.release holder).currentDomAlteringFeature = none ∧
      (lock.release holder).altering = [] := by
  have hfree : (lock.release holder).currentDomAlteringFeature = none := by
    cases hcurrent : lock.currentDomAlteringFeature with
    | none =>
      show (if lock.currentDomAlteringFeature = some holder then none
        else lock.currentDomAlteringFeature) = none
      rw [hcurrent]
      rfl
    | some feature =>
      show (if lock.currentDomAlteringFeature = some holder then none
        else lock.currentDomAlteringFeature) = none
      rw [hcurrent, hholder feature hcurrent]
      exact if_pos rfl
  refine ⟨hfree, eq_nil_iff_forall_not_mem.2 fun other hmem => ?_⟩
  exact nomatch hfree.symm.trans ((exclusive_release h holder).current other hmem)

theorem exclusive_step (lock : DOMAlteringLock F) (op : Op F) (h : lock.Exclusive)
    (hop : lock.Undisturbed op) : ((machine F).step lock op).Exclusive := by
  cases op with
  | acquire feature canReleaseDOMLock => exact exclusive_acquire h feature canReleaseDOMLock
  | release feature => exact exclusive_release h feature
  | finishRelease i =>
    show (lock.finishRelease i).Exclusive
    rw [finishRelease]
    cases hrequest : lock.releaseRequests[i]? with
    | none => exact h
    | some request =>
      have hwaiting : Exclusive { lock with releaseRequests := lock.releaseRequests.eraseIdx i } :=
        ⟨h.current, h.checked⟩
      obtain ⟨hfree, hnobody⟩ := release_of_undisturbed hwaiting (hop request hrequest)
      refine ⟨fun other hmem => ?_, ?_⟩
      · rcases mem_cons.1 hmem with rfl | hmem
        · rfl
        · rw [hnobody] at hmem
          cases hmem
      · show (lock.dcheckFailed || Option.isSome _) = false
        rw [h.checked, Bool.false_or]
        exact congrArg Option.isSome hfree

/-- Somebody else has got the lock: the `DCHECK` fails. -/
theorem not_exclusive_step (lock : DOMAlteringLock F) (op : Op F)
    (hop : ¬lock.Undisturbed op) : ¬((machine F).step lock op).Exclusive := by
  cases op with
  | acquire feature canReleaseDOMLock => exact absurd trivial hop
  | release feature => exact absurd trivial hop
  | finishRelease i =>
    intro hexclusive
    refine hop fun request hrequest feature hcurrent => ?_
    by_contra hne
    have hchecked := hexclusive.checked
    change (lock.finishRelease i).dcheckFailed = false at hchecked
    rw [finishRelease, hrequest] at hchecked
    change (lock.dcheckFailed || (if lock.currentDomAlteringFeature = some request.holder then none
      else lock.currentDomAlteringFeature).isSome) = false at hchecked
    rw [hcurrent, if_neg fun heq => hne (Option.some.inj heq), Option.isSome_some,
      Bool.or_true] at hchecked
    cases hchecked

/-- **The lock**: in every order of calls and releases each lock action is run once, or its feature
waits. No two features may alter the page, and no `DCHECK` fails, if and only if the lock is free
or still its own whenever a holder finishes its release. -/
theorem exclusive_iff (ops : List (Op F)) :
    ((machine F).run new ops).AnsweredOnce ∧
      ((∀ before, before <+: ops → ((machine F).run new before).Exclusive) ↔
        (machine F).Along Undisturbed new ops) := by
  constructor
  · exact Machine.run_invariant_of_step answeredOnce_step answeredOnce_new ops
  · exact Machine.always_iff_along (fun _ h => h) (fun s a h _ => exclusive_step s a h)
      (fun s a _ _ => not_exclusive_step s a) ⟨nofun, rfl⟩
      (Machine.along_of_forall _ (fun _ _ => trivial) _ _)

/-- Two features ask one holder. The first one has the lock when the holder finishes for the
second one: both may alter the page. -/
theorem two_requests_not_exclusive :
    let ops : List (Op Nat) :=
      [.acquire 0 true, .acquire 1 true, .acquire 2 true, .finishRelease 0, .finishRelease 0]
    ((machine Nat).run new ops).altering = [2, 1] ∧ ¬((machine Nat).run new ops).Exclusive :=
  ⟨by decide, fun hexclusive => absurd hexclusive.checked (by decide)⟩

end DOMAlteringLock

end ChromiumIos
