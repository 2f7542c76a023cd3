import Mathlib.Data.List.Infix
import Mathlib.Data.List.Nodup
import Mathlib.Data.List.Range
import ChromiumIos.Lib.Machine

/-!
# The pausable proxy of a protocol handler

`CRNHTTPProtocolHandlerProxyWithClientThread`: the network stack posts its
events to the client thread; there they are delivered to the client of the
`NSURLProtocol` at once, or queued while the proxy is paused.

- `step_inv`: the queue holds what arrived and was not delivered, as long as no
  queued delivery calls `resume`.
- `delivers_in_order_iff`: every event is delivered once and in order if and only
  if no queued delivery calls `resume`.
-/

namespace ChromiumIos

open Lib

/-- An `NSInvocation`. Every event that is posted gets an object of its own. -/
structure NSInvocation (Event : Type) where
  object : Nat
  event : Event
deriving DecidableEq, Repr

/-- A delivery in progress: the client has been called and has not returned. -/
inductive Delivery
  /-- Called by `invokeOnClientThread`. -/
  | direct
  /-- Called by the loop of `runInvocationQueueOnClientThread`. -/
  | queued
deriving DecidableEq, Repr

/-- The proxy as it is seen on the client thread, with the invocations on their
way to that thread. The last three fields only record what happened. -/
structure ProxyWithClientThread (Event : Type) where
  /-- `_protocol` is not nil. -/
  hasProtocol : Bool
  paused : Bool
  /-- `none` once the array is reset. -/
  queuedInvocations : Option (List (NSInvocation Event))
  /-- Performed on the client thread in this order. -/
  inbox : List (NSInvocation Event)
  /-- The deliveries in progress, the innermost first. -/
  deliveries : List Delivery
  /-- An element of an empty array was removed, which raises an exception. -/
  rangeException : Bool
  posted : List (NSInvocation Event)
  arrived : List (NSInvocation Event)
  delivered : List (NSInvocation Event)
deriving DecidableEq, Repr

namespace ProxyWithClientThread

variable {Event : Type}

/-- `initWithProtocol`. -/
def initWithProtocol : ProxyWithClientThread Event where
  hasProtocol := true
  paused := false
  queuedInvocations := some []
  inbox := []
  deliveries := []
  rangeException := false
  posted := []
  arrived := []
  delivered := []

/-! ## Operations -/

variable (s : ProxyWithClientThread Event)

/-- `[invocation invoke]`, up to the client. The methods that it invokes call
`[_protocol client]`, which does nothing when there is no protocol. -/
def invoke (delivery : Delivery) (invocation : NSInvocation Event) : ProxyWithClientThread Event :=
  { s with
    deliveries := delivery :: s.deliveries
    delivered := if s.hasProtocol then s.delivered ++ [invocation] else s.delivered }

/-- `runInvocationQueueOnClientThread`, up to the next call of the client; the
loop goes on in `finish`. -/
def runInvocationQueueOnClientThread : ProxyWithClientThread Event :=
  match s.queuedInvocations with
  | some (invocation :: _) => if s.paused then s else s.invoke .queued invocation
  | _ => s

/-- `[_queuedInvocations removeObjectAtIndex:0]`. -/
def removeFirstInvocation : ProxyWithClientThread Event :=
  match s.queuedInvocations with
  | none => s
  | some [] => { s with rangeException := true }
  | some (_ :: rest) => { s with queuedInvocations := some rest }

/-- The innermost delivery returns. The loop that made it removes the invocation
and goes on. -/
def finish : ProxyWithClientThread Event :=
  match s.deliveries with
  | [] => s
  | .direct :: outer => { s with deliveries := outer }
  | .queued :: outer =>
    ({ s with deliveries := outer }.removeFirstInvocation).runInvocationQueueOnClientThread

/-- The methods that are called from any thread, up to `postToClientThread`. What
they saw of the protocol may be out of date when it is being invalidated. -/
def postToClientThread (event : Event) (sawProtocol : Bool) : ProxyWithClientThread Event :=
  if sawProtocol then
    let invocation := ⟨s.posted.length, event⟩
    { s with inbox := s.inbox ++ [invocation], posted := s.posted ++ [invocation] }
  else s

/-- `invokeOnClientThread`, for the next invocation that was posted. -/
def invokeOnClientThread : ProxyWithClientThread Event :=
  match s.inbox with
  | [] => s
  | invocation :: inbox =>
    let s := { s with inbox := inbox, arrived := s.arrived ++ [invocation] }
    if s.paused then { s with queuedInvocations := s.queuedInvocations.map (· ++ [invocation]) }
    else s.invoke .direct invocation

def pause : ProxyWithClientThread Event :=
  { s with paused := true }

def resume : ProxyWithClientThread Event :=
  { s with paused := false }.runInvocationQueueOnClientThread

def invalidate : ProxyWithClientThread Event :=
  { s with hasProtocol := false, queuedInvocations := none }

/-! ## Runs -/

/-- What can happen to a proxy. While a delivery is in progress, `pause`, `resume`
and `invalidate` are calls made by the client. -/
inductive Op (Event : Type)
  | post (event : Event) (sawProtocol : Bool)
  | arrive
  | finish
  | pause
  | resume
  | invalidate
deriving DecidableEq, Repr

/-- Invocations arrive as tasks of the client thread, so not during a delivery. -/
def Op.Pre : Op Event → Prop
  | .post _ sawProtocol =>
    s.rangeException = false ∧ (s.hasProtocol = true → sawProtocol = true)
  | .arrive => s.rangeException = false ∧ s.deliveries = []
  | .finish => s.rangeException = false ∧ s.deliveries ≠ []
  | .pause | .resume | .invalidate => s.rangeException = false

instance Op.decidablePre :
    (op : Op Event) → Decidable (op.Pre s)
  | .post _ _ | .arrive => instDecidableAnd
  | .finish =>
    @instDecidableAnd _ _ _ (@instDecidableNot _ (decidable_of_iff _ List.isEmpty_iff))
  | .pause | .resume | .invalidate => decEq _ _

def step : Op Event → ProxyWithClientThread Event
  | .post event sawProtocol => s.postToClientThread event sawProtocol
  | .arrive => s.invokeOnClientThread
  | .finish => s.finish
  | .pause => s.pause
  | .resume => s.resume
  | .invalidate => s.invalidate

abbrev machine (Event : Type) : Machine (ProxyWithClientThread Event) (Op Event) where
  Pre := Op.Pre
  step := step

/-- The state after a run from the start. -/
def after (ops : List (Op Event)) : ProxyWithClientThread Event :=
  (machine Event).run initWithProtocol ops

/-- Every event is delivered once and in order. -/
structure DeliversInOrder (ops : List (Op Event)) : Prop where
  in_order : ∀ before, before <+: ops → (after before).delivered <+: (after before).posted
  complete : ∀ before, before <+: ops → (after before).hasProtocol = true →
    (after before).paused = false → (after before).deliveries = [] →
    (after before).delivered = (after before).arrived
  silent : ∀ before later, ops = before ++ .invalidate :: later →
    (after ops).delivered = (after before).delivered

/-- The client does not resume the proxy from inside a queued delivery. -/
def NoNestedResume (op : Op Event) : Prop :=
  s.hasProtocol = true → Delivery.queued ∈ s.deliveries → op ≠ .resume

/-! ## One step of the loop -/

section

variable {s : ProxyWithClientThread Event}

theorem invoke_delivered (h : s.hasProtocol = true)
    (delivery : Delivery) (invocation : NSInvocation Event) :
    (s.invoke delivery invocation).delivered = s.delivered ++ [invocation] :=
  if_pos h

theorem invoke_delivered_of_invalid (h : s.hasProtocol = false)
    (delivery : Delivery) (invocation : NSInvocation Event) :
    (s.invoke delivery invocation).delivered = s.delivered :=
  if_neg (by simp [h])

theorem runInvocationQueue_of_none
    (h : s.queuedInvocations = none) : s.runInvocationQueueOnClientThread = s := by
  simp only [runInvocationQueueOnClientThread, h]

theorem runInvocationQueue_of_nil
    (h : s.queuedInvocations = some []) : s.runInvocationQueueOnClientThread = s := by
  simp only [runInvocationQueueOnClientThread, h]

theorem runInvocationQueue_of_paused (h : s.paused = true) :
    s.runInvocationQueueOnClientThread = s := by
  unfold runInvocationQueueOnClientThread
  split
  · exact if_pos h
  · rfl

theorem runInvocationQueue_of_cons
    {invocation : NSInvocation Event} {rest : List (NSInvocation Event)}
    (h : s.queuedInvocations = some (invocation :: rest)) (hpaused : s.paused = false) :
    s.runInvocationQueueOnClientThread = s.invoke .queued invocation := by
  simp [runInvocationQueueOnClientThread, h, hpaused]

end

/-- The loop only calls the client. -/
theorem runInvocationQueue_eq :
    ∃ deliveries delivered, s.runInvocationQueueOnClientThread =
      { s with deliveries := deliveries, delivered := delivered } := by
  unfold runInvocationQueueOnClientThread
  split
  · split
    · exact ⟨_, _, rfl⟩
    · exact ⟨_, _, rfl⟩
  · exact ⟨_, _, rfl⟩

/-- Without an array there is nothing to remove and nothing to run. -/
theorem finish_of_none {s : ProxyWithClientThread Event} (h : s.queuedInvocations = none) :
    s.finish = { s with deliveries := s.deliveries.tail } := by
  unfold finish
  split <;> rename_i hdeliveries
  · rw [hdeliveries]
    cases s
    cases hdeliveries
    rfl
  · simp [hdeliveries]
  · have hremove : ({ s with deliveries := s.deliveries.tail }).removeFirstInvocation =
        { s with deliveries := s.deliveries.tail } := by
      simp only [removeFirstInvocation, h]
    rw [hdeliveries, List.tail_cons] at hremove ⊢
    rw [hremove, runInvocationQueue_of_none (by exact h)]

theorem invokeOnClientThread_of_nil {s : ProxyWithClientThread Event} (h : s.inbox = []) :
    s.invokeOnClientThread = s := by
  simp only [invokeOnClientThread, h]

section

variable {s : ProxyWithClientThread Event} {invocation : NSInvocation Event}
  {inbox : List (NSInvocation Event)} (h : s.inbox = invocation :: inbox)
include h

theorem invokeOnClientThread_of_paused (hpaused : s.paused = true) : s.invokeOnClientThread =
      { s with
        inbox := inbox
        arrived := s.arrived ++ [invocation]
        queuedInvocations := s.queuedInvocations.map (· ++ [invocation]) } := by
  simp only [invokeOnClientThread, h]
  exact if_pos hpaused

theorem invokeOnClientThread_of_running (hpaused : s.paused = false) : s.invokeOnClientThread =
      { s with inbox := inbox, arrived := s.arrived ++ [invocation] }.invoke
        .direct invocation := by
  simp only [invokeOnClientThread, h]
  exact if_neg (by simp [hpaused])

end

/-! ## The queue -/

/-- What arrived and was not delivered is in the queue. During a queued delivery
the queue begins with the invocation that is being delivered. -/
inductive Consistent : Prop
  | idle (queue : List (NSInvocation Event)) (hprotocol : s.hasProtocol = true)
      (hdeliveries : s.deliveries = []) (hqueue : s.queuedInvocations = some queue)
      (harrived : s.arrived = s.delivered ++ queue) (hpaused : s.paused = false → queue = [])
  | direct (hprotocol : s.hasProtocol = true) (hdeliveries : s.deliveries = [.direct])
      (hqueue : s.queuedInvocations = some []) (harrived : s.arrived = s.delivered)
  | queued (earlier : List (NSInvocation Event)) (invocation : NSInvocation Event)
      (rest : List (NSInvocation Event)) (hprotocol : s.hasProtocol = true)
      (hdeliveries : s.deliveries = [.queued])
      (hqueue : s.queuedInvocations = some (invocation :: rest))
      (hdelivered : s.delivered = earlier ++ [invocation])
      (harrived : s.arrived = s.delivered ++ rest)
  | invalidated (hprotocol : s.hasProtocol = false) (hqueue : s.queuedInvocations = none)
      (harrived : s.delivered <+: s.arrived)

/-- Pausing and the invocations on their way do not matter. -/
theorem Consistent.congr {s t : ProxyWithClientThread Event} (h : Consistent s)
    (hprotocol : t.hasProtocol = s.hasProtocol) (hdeliveries : t.deliveries = s.deliveries)
    (hqueue : t.queuedInvocations = s.queuedInvocations) (harrived : t.arrived = s.arrived)
    (hdelivered : t.delivered = s.delivered) (hpaused : t.paused = false → s.paused = false) :
    Consistent t := by
  cases h with
  | idle queue hp hd hq ha hempty =>
    refine .idle queue (hprotocol.trans hp) (hdeliveries.trans hd) (hqueue.trans hq) ?_ ?_
    · rw [harrived, hdelivered, ha]
    · exact fun hrunning => hempty (hpaused hrunning)
  | direct hp hd hq ha =>
    refine .direct (hprotocol.trans hp) (hdeliveries.trans hd) (hqueue.trans hq) ?_
    rw [harrived, hdelivered, ha]
  | queued earlier invocation rest hp hd hq hlast ha =>
    refine .queued earlier invocation rest (hprotocol.trans hp) (hdeliveries.trans hd)
      (hqueue.trans hq) (hdelivered.trans hlast) ?_
    rw [harrived, hdelivered, ha]
  | invalidated hp hq ha =>
    refine .invalidated (hprotocol.trans hp) (hqueue.trans hq) ?_
    rwa [harrived, hdelivered]

section

variable {s : ProxyWithClientThread Event}

/-- The loop, between two deliveries. -/
theorem consistent_runInvocationQueue
    {queue : List (NSInvocation Event)} (hprotocol : s.hasProtocol = true)
    (hdeliveries : s.deliveries = []) (hqueue : s.queuedInvocations = some queue)
    (harrived : s.arrived = s.delivered ++ queue) :
    Consistent s.runInvocationQueueOnClientThread := by
  cases queue with
  | nil =>
    rw [runInvocationQueue_of_nil hqueue]
    exact .idle [] hprotocol hdeliveries hqueue harrived fun _ => rfl
  | cons invocation rest =>
    cases hpaused : s.paused with
    | true =>
      rw [runInvocationQueue_of_paused hpaused]
      exact .idle _ hprotocol hdeliveries hqueue harrived (by simp [hpaused])
    | false =>
      rw [runInvocationQueue_of_cons hqueue hpaused]
      have hdelivered := invoke_delivered hprotocol .queued invocation
      refine .queued s.delivered invocation rest hprotocol ?_ hqueue hdelivered ?_
      · exact congrArg (Delivery.queued :: ·) hdeliveries
      · rw [hdelivered, List.append_assoc]
        exact harrived

theorem consistent_finish (h : Consistent s) : Consistent s.finish := by
  cases h with
  | idle queue hprotocol hdeliveries hqueue harrived hpaused =>
    simp only [finish, hdeliveries]
    exact .idle queue hprotocol hdeliveries hqueue harrived hpaused
  | direct hprotocol hdeliveries hqueue harrived =>
    simp only [finish, hdeliveries]
    exact .idle [] hprotocol rfl hqueue (by simpa using harrived) fun _ => rfl
  | queued earlier invocation rest hprotocol hdeliveries hqueue hdelivered harrived =>
    simp only [finish, hdeliveries, removeFirstInvocation, hqueue]
    exact consistent_runInvocationQueue hprotocol rfl rfl harrived
  | invalidated hprotocol hqueue harrived =>
    rw [finish_of_none hqueue]
    exact .invalidated hprotocol hqueue harrived

theorem consistent_resume (h : Consistent s)
    (hnested : NoNestedResume s .resume) : Consistent s.resume := by
  cases h with
  | idle queue hprotocol hdeliveries hqueue harrived hpaused =>
    exact consistent_runInvocationQueue hprotocol hdeliveries hqueue harrived
  | direct hprotocol hdeliveries hqueue harrived =>
    rw [resume, runInvocationQueue_of_nil (by exact hqueue)]
    exact .direct hprotocol hdeliveries hqueue harrived
  | queued earlier invocation rest hprotocol hdeliveries hqueue hdelivered harrived =>
    exact absurd rfl (hnested hprotocol (by simp [hdeliveries]))
  | invalidated hprotocol hqueue harrived =>
    rw [resume, runInvocationQueue_of_none (by exact hqueue)]
    exact .invalidated hprotocol hqueue harrived

theorem consistent_invokeOnClientThread (h : Consistent s)
    (hidle : s.deliveries = []) : Consistent s.invokeOnClientThread := by
  cases hinbox : s.inbox with
  | nil =>
    rw [invokeOnClientThread_of_nil hinbox]
    exact h
  | cons invocation inbox =>
    cases h with
    | idle queue hprotocol hdeliveries hqueue harrived hpaused =>
      cases hp : s.paused with
      | true =>
        rw [invokeOnClientThread_of_paused hinbox hp, hqueue]
        -- it waits behind what is in the queue
        refine .idle (queue ++ [invocation]) hprotocol hdeliveries rfl ?_ ?_
        · simp [harrived]
        · exact fun hrunning => absurd (hp.symm.trans hrunning) (by decide)
      | false =>
        -- nothing waits while the proxy is not paused, so it may be delivered at once
        obtain rfl := hpaused hp
        rw [invokeOnClientThread_of_running hinbox hp]
        refine .direct hprotocol (congrArg (Delivery.direct :: ·) hdeliveries) hqueue ?_
        rw [invoke_delivered (by exact hprotocol)]
        simp [invoke, harrived]
    | direct hprotocol hdeliveries => simp [hidle] at hdeliveries
    | queued earlier invocation rest hprotocol hdeliveries => simp [hidle] at hdeliveries
    | invalidated hprotocol hqueue harrived =>
      have hlonger : s.delivered <+: s.arrived ++ [invocation] :=
        harrived.trans (List.prefix_append _ _)
      cases hp : s.paused with
      | true =>
        rw [invokeOnClientThread_of_paused hinbox hp, hqueue]
        exact .invalidated hprotocol rfl hlonger
      | false =>
        rw [invokeOnClientThread_of_running hinbox hp]
        refine .invalidated hprotocol hqueue ?_
        rw [invoke_delivered_of_invalid (by exact hprotocol)]
        exact hlonger

theorem consistent_invalidate (h : Consistent s) : Consistent s.invalidate := by
  refine .invalidated rfl rfl ?_
  cases h with
  | idle queue hprotocol hdeliveries hqueue harrived hpaused => exact ⟨queue, harrived.symm⟩
  | direct hprotocol hdeliveries hqueue harrived => exact ⟨[], by simp [invalidate, harrived]⟩
  | queued earlier invocation rest hprotocol hdeliveries hqueue hdelivered harrived =>
    exact ⟨rest, harrived.symm⟩
  | invalidated hprotocol hqueue harrived => exact harrived

end

/-! ## Every step -/

/-- The invariant of a proxy. -/
structure Inv : Prop where
  consistent : Consistent s
  accounted : s.posted = s.arrived ++ s.inbox
  numbered : s.posted.map (·.object) = List.range s.posted.length
  no_exception : s.rangeException = false

theorem inv_init : Inv (initWithProtocol : ProxyWithClientThread Event) where
  consistent := .idle [] rfl rfl rfl rfl fun _ => rfl
  accounted := rfl
  numbered := rfl
  no_exception := rfl

section

variable {s : ProxyWithClientThread Event} (h : Inv s)
include h

theorem Inv.nodup : s.posted.Nodup := by
  refine List.Nodup.of_map (·.object) ?_
  rw [h.numbered]
  exact List.nodup_range

theorem Inv.delivered_isPrefix : s.delivered <+: s.posted := by
  rw [h.accounted]
  refine List.IsPrefix.trans ?_ (List.prefix_append _ _)
  cases h.consistent with
  | idle queue hprotocol hdeliveries hqueue harrived hpaused => exact ⟨queue, harrived.symm⟩
  | direct hprotocol hdeliveries hqueue harrived => exact ⟨[], by simp [harrived]⟩
  | queued earlier invocation rest hprotocol hdeliveries hqueue hdelivered harrived =>
    exact ⟨rest, harrived.symm⟩
  | invalidated hprotocol hqueue harrived => exact harrived

theorem Inv.delivered_eq (hprotocol : s.hasProtocol = true) (hpaused : s.paused = false)
    (hdeliveries : s.deliveries = []) : s.delivered = s.arrived := by
  cases h.consistent with
  | idle queue _ _ hqueue harrived hempty =>
    obtain rfl := hempty hpaused
    simpa using harrived.symm
  | direct _ hdirect => simp [hdeliveries] at hdirect
  | queued _ _ _ _ hqueued => simp [hdeliveries] at hqueued
  | invalidated hinvalid => simp [hprotocol] at hinvalid

/-- The loop never finds the array empty when a delivery returns. -/
theorem Inv.finish : Inv s.finish := by
  have hconsistent := consistent_finish h.consistent
  suffices hframe : ∃ queue deliveries delivered, s.finish =
      { s with
        queuedInvocations := queue
        deliveries := deliveries
        delivered := delivered } by
    obtain ⟨queue, deliveries, delivered, hfinish⟩ := hframe
    rw [hfinish] at hconsistent ⊢
    exact ⟨hconsistent, h.accounted, h.numbered, h.no_exception⟩
  cases h.consistent with
  | idle queue hprotocol hdeliveries =>
    simp only [ProxyWithClientThread.finish, hdeliveries]
    exact ⟨_, _, _, rfl⟩
  | direct hprotocol hdeliveries =>
    simp only [ProxyWithClientThread.finish, hdeliveries]
    exact ⟨_, _, _, rfl⟩
  | queued earlier invocation rest hprotocol hdeliveries hqueue =>
    simp only [ProxyWithClientThread.finish, hdeliveries, removeFirstInvocation, hqueue]
    obtain ⟨deliveries, delivered, heq⟩ := runInvocationQueue_eq
      { s with deliveries := [], queuedInvocations := some rest }
    exact ⟨_, _, _, heq⟩
  | invalidated hprotocol hqueue => exact ⟨_, _, _, finish_of_none hqueue⟩

theorem Inv.resume (hnested : NoNestedResume s .resume) : Inv s.resume := by
  have hconsistent := consistent_resume h.consistent hnested
  obtain ⟨deliveries, delivered, heq⟩ := runInvocationQueue_eq { s with paused := false }
  rw [ProxyWithClientThread.resume, heq] at hconsistent ⊢
  exact ⟨hconsistent, h.accounted, h.numbered, h.no_exception⟩

theorem Inv.invokeOnClientThread (hidle : s.deliveries = []) : Inv s.invokeOnClientThread := by
  have hconsistent := consistent_invokeOnClientThread h.consistent hidle
  cases hinbox : s.inbox with
  | nil =>
    rw [invokeOnClientThread_of_nil hinbox]
    exact h
  | cons invocation inbox =>
    have haccounted : s.posted = s.arrived ++ [invocation] ++ inbox := by
      rw [h.accounted, hinbox, List.append_assoc, List.singleton_append]
    cases hpaused : s.paused with
    | true =>
      rw [invokeOnClientThread_of_paused hinbox hpaused] at hconsistent ⊢
      exact ⟨hconsistent, haccounted, h.numbered, h.no_exception⟩
    | false =>
      rw [invokeOnClientThread_of_running hinbox hpaused] at hconsistent ⊢
      exact ⟨hconsistent, haccounted, h.numbered, h.no_exception⟩

theorem Inv.postToClientThread (event : Event)
    (sawProtocol : Bool) : Inv (s.postToClientThread event sawProtocol) := by
  unfold ProxyWithClientThread.postToClientThread
  split
  · constructor
    · exact h.consistent.congr rfl rfl rfl rfl rfl id
    · simp [h.accounted]
    · simp [h.numbered, List.range_succ]
    · exact h.no_exception
  · exact h

theorem Inv.pause : Inv s.pause := by
  refine ⟨?_, h.accounted, h.numbered, h.no_exception⟩
  exact h.consistent.congr rfl rfl rfl rfl rfl (by simp [ProxyWithClientThread.pause])

end

theorem step_inv {s : ProxyWithClientThread Event} {op : Op Event} (h : Inv s) (hpre : op.Pre s)
    (hnested : NoNestedResume s op) : Inv (s.step op) := by
  cases op with
  | post event sawProtocol => exact h.postToClientThread event sawProtocol
  | arrive => exact h.invokeOnClientThread hpre.2
  | finish => exact h.finish
  | pause => exact h.pause
  | resume => exact h.resume hnested
  | invalidate =>
    exact ⟨consistent_invalidate h.consistent, h.accounted, h.numbered, h.no_exception⟩

/-! ## After `invalidate` -/

/-- Nothing is left to deliver, and no protocol to deliver to. -/
structure Invalid : Prop where
  no_protocol : s.hasProtocol = false
  no_queue : s.queuedInvocations = none

theorem Invalid.step {s : ProxyWithClientThread Event} (h : Invalid s) (op : Op Event) :
    Invalid (s.step op) ∧ (s.step op).delivered = s.delivered := by
  cases op with
  | post event sawProtocol =>
    cases sawProtocol with
    | true => exact ⟨⟨h.no_protocol, h.no_queue⟩, rfl⟩
    | false => exact ⟨h, rfl⟩
  | arrive =>
    simp only [ProxyWithClientThread.step]
    cases hinbox : s.inbox with
    | nil =>
      rw [invokeOnClientThread_of_nil hinbox]
      exact ⟨h, rfl⟩
    | cons invocation inbox =>
      cases hpaused : s.paused with
      | true =>
        rw [invokeOnClientThread_of_paused hinbox hpaused, h.no_queue]
        exact ⟨⟨h.no_protocol, rfl⟩, rfl⟩
      | false =>
        rw [invokeOnClientThread_of_running hinbox hpaused]
        refine ⟨⟨h.no_protocol, h.no_queue⟩, ?_⟩
        exact invoke_delivered_of_invalid (by exact h.no_protocol) _ _
  | finish =>
    rw [ProxyWithClientThread.step, finish_of_none h.no_queue]
    exact ⟨⟨h.no_protocol, h.no_queue⟩, rfl⟩
  | pause => exact ⟨⟨h.no_protocol, h.no_queue⟩, rfl⟩
  | resume =>
    simp only [ProxyWithClientThread.step, resume]
    rw [runInvocationQueue_of_none (by exact h.no_queue)]
    exact ⟨⟨h.no_protocol, h.no_queue⟩, rfl⟩
  | invalidate => exact ⟨⟨rfl, rfl⟩, rfl⟩

theorem silent_after_invalidate (before later : List (Op Event)) :
    (after (before ++ .invalidate :: later)).delivered = (after before).delivered := by
  have hrun := Machine.run_invariant_of_step (M := machine Event)
    (I := fun t => Invalid t ∧ t.delivered = (after before).delivered)
    (fun s op h => ⟨(h.1.step op).1, (h.1.step op).2.trans h.2⟩)
    (s := (after before).invalidate) ⟨⟨rfl, rfl⟩, rfl⟩ later
  rw [after, Machine.run_append]
  exact hrun.2

/-! ## Duplicates -/

/-- The invocation that is being delivered is still in the queue: `resume` delivers
it again. -/
theorem nested_resume_duplicates {s : ProxyWithClientThread Event} {op : Op Event} (h : Inv s)
    (hnested : ¬NoNestedResume s op) : ¬(s.step op).delivered <+: (s.step op).posted := by
  simp only [NoNestedResume, not_forall, not_not] at hnested
  obtain ⟨hprotocol, hmem, rfl⟩ := hnested
  cases h.consistent with
  | idle _ _ hdeliveries => simp [hdeliveries] at hmem
  | direct _ hdeliveries => simp [hdeliveries] at hmem
  | invalidated hinvalid => simp [hprotocol] at hinvalid
  | queued earlier invocation rest _ _ hqueue hdelivered _ =>
    -- The loop of the outer `resume` has not removed its invocation yet.
    have hresume : s.resume = { s with paused := false }.invoke .queued invocation :=
      runInvocationQueue_of_cons hqueue rfl
    simp only [step, hresume, invoke_delivered (s := { s with paused := false }) hprotocol]
    intro hinitial
    have hnodup : (earlier ++ [invocation] ++ [invocation]).Nodup := by
      rw [← hdelivered]
      exact hinitial.sublist.nodup h.nodup
    rw [List.append_assoc] at hnodup
    simpa using hnodup.of_append_right

/-- Every event is delivered once and in order if and only if the client does not
call `resume` from inside the delivery of a queued event. -/
theorem delivers_in_order_iff (ops : List (Op Event))
    (hlegal : (machine Event).Legal initWithProtocol ops) :
    DeliversInOrder ops ↔ (machine Event).Along NoNestedResume initWithProtocol ops := by
  constructor
  · intro h
    exact Machine.along_of_detected (I := Inv)
      (P := fun s => s.delivered <+: s.posted)
      (fun s op hs hpre hnested => step_inv hs hpre hnested)
      (fun s op hs _ hnested => nested_resume_duplicates hs hnested)
      inv_init hlegal h.in_order
  · intro hnested
    have hinv : ∀ before, before <+: ops → Inv (after before) := by
      intro before hinitial
      exact Machine.run_invariant (I := Inv) (fun s op hs h => step_inv hs h.1 h.2) inv_init
        (((machine Event).along_and hlegal hnested).of_isPrefix hinitial)
    constructor
    · intro before hinitial
      exact (hinv before hinitial).delivered_isPrefix
    · intro before hinitial
      exact (hinv before hinitial).delivered_eq
    · rintro before later rfl
      exact silent_after_invalidate before later

/-- Two events are queued; the client pauses and resumes the proxy outside its
deliveries only. -/
def pausedOps : List (Op String) :=
  [.pause, .post "response" true, .post "data" true, .arrive, .arrive, .resume, .pause, .finish,
    .resume, .finish]

theorem delivers_in_order_paused : DeliversInOrder pausedOps :=
  (delivers_in_order_iff pausedOps
    (by decide)).2
    (show (machine String).Along
      (fun s op => s.hasProtocol = true → Delivery.queued ∈ s.deliveries → op ≠ .resume) _ _
      by decide)

/-- The client pauses and resumes the proxy from inside the first event. -/
def nestedOps : List (Op String) :=
  [.pause, .post "response" true, .post "data" true, .arrive, .arrive, .resume, .pause, .resume]

theorem nested_resume_delivers_twice :
    (machine String).Legal initWithProtocol nestedOps ∧
      (after nestedOps).delivered = [⟨0, "response"⟩, ⟨0, "response"⟩] ∧
      ¬DeliversInOrder nestedOps := by
  have hdelivered : (after nestedOps).delivered = [⟨0, "response"⟩, ⟨0, "response"⟩] := by decide
  refine ⟨?_, hdelivered, ?_⟩
  · decide
  · rintro ⟨hin_order, -, -⟩
    have hinitial := hin_order nestedOps (List.prefix_refl _)
    rw [hdelivered] at hinitial
    revert hinitial
    decide

end ProxyWithClientThread

end ChromiumIos
