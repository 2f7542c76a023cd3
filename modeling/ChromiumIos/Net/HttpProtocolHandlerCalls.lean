import Mathlib.Data.Nat.Basic
import ChromiumIos.Net.HttpProtocolHandlerCore

/-!
# The calls of `HttpProtocolHandlerCore` on its client

The order that is asked of an `NSURLProtocol`: a response, its data, and one call
that ends the load, or that call alone.

- `readBlocks_last`: the read loop ends, with the reads to come as fuel.
- `step_stage`: how far the calls are, for each state of `net_request_`.
- `client_calls_in_order`: the calls are in this order in every run, and there are
  none after `Cancel`.
-/

namespace ChromiumIos

open Lib HttpProtocolHandlerCore NativeRequest

variable {sizes : BufferSizes} {Response : Type}

/-! ## The order of the calls -/

namespace ClientCall

/-- The calls that end a load before there is a response. -/
def EndsRequest : ClientCall Response → Prop
  | .wasRedirectedToRequest _ _ | .didFailWithNSErrorCode _ _ => True
  | _ => False

/-- The calls that end a load after the response. -/
def EndsLoading : ClientCall Response → Prop
  | .didFailWithNSErrorCode _ _ | .didFinishLoading => True
  | _ => False

end ClientCall

/-- A response and some of its data. -/
def LoadingCalls (calls : List (ClientCall Response)) : Prop :=
  ∃ (response : Response) (blocks : List NSData),
    calls = .didReceiveResponse response :: blocks.map .didLoadData

/-- The order of the calls on a client, up to some point. -/
inductive CallOrder : List (ClientCall Response) → Prop
  | nothing : CallOrder []
  | ended (call : ClientCall Response) (hends : call.EndsRequest) : CallOrder [call]
  | loading {calls : List (ClientCall Response)} (hloading : LoadingCalls calls) :
    CallOrder calls
  | loaded {calls : List (ClientCall Response)} (hloading : LoadingCalls calls)
    (call : ClientCall Response) (hends : call.EndsLoading) : CallOrder (calls ++ [call])

theorem LoadingCalls.append_data {calls : List (ClientCall Response)} (h : LoadingCalls calls)
    (blocks : List NSData) : LoadingCalls (calls ++ blocks.map .didLoadData) := by
  obtain ⟨response, earlier, rfl⟩ := h
  exact ⟨response, earlier ++ blocks, by simp⟩

/-- A request can fail at any time before its load ended. -/
theorem CallOrder.fail {calls : List (ClientCall Response)} (h : calls = [] ∨ LoadingCalls calls)
    (nsErrorCode : NSURLErrorCode) (netErrorCode : NetErrorCode) :
    CallOrder (calls ++ [.didFailWithNSErrorCode nsErrorCode netErrorCode]) := by
  rcases h with rfl | hloading
  · exact .ended _ trivial
  · exact .loaded hloading _ trivial

/-! ## Phases -/

namespace NativeRequest

theorem phase_resumeFrom (request : NativeRequest sizes Response) (phase : RequestPhase) :
    (request.resumeFrom phase).phase =
      if request.phase = phase then .started else request.phase := by
  unfold resumeFrom
  split
  · rfl
  · rfl

theorem phase_answerAuth (request : NativeRequest sizes Response)
    (credentials : Option AuthCredentials) : (request.answerAuth credentials).phase =
      if request.phase = .authRequired then .started else request.phase := by
  cases credentials with
  | some credentials => exact phase_resumeFrom _ _
  | none => exact phase_resumeFrom _ _

theorem phase_resumeFrom_ne {request : NativeRequest sizes Response} {phase : RequestPhase}
    (h : request.phase ≠ .readPending) : (request.resumeFrom phase).phase ≠ .readPending := by
  rw [phase_resumeFrom]
  split
  · decide
  · exact h

end NativeRequest

/-! ## The read loop -/

theorem reads_fillData_le (data : NSData) (totalBytesRead : Nat) (last : ReadResult sizes)
    (reads : List (ReadResult sizes)) :
    (fillData data totalBytesRead last reads).2.reads.length ≤ reads.length := by
  induction reads generalizing data totalBytesRead last with
  | nil =>
    unfold fillData
    split
    · split
      · exact le_rfl
      · exact le_rfl
    · exact le_rfl
  | cons next reads ih =>
    unfold fillData
    split
    · split
      · exact Nat.le_trans (ih _ _ _) (Nat.le_succ _)
      · exact le_rfl
    · exact le_rfl

/-- A round that begins with bytes reads at least once: they fit in an empty block. -/
theorem fillData_progress (totalBytesRead : Nat) (block : ReadBlock sizes)
    (reads : List (ReadResult sizes)) :
    (fillData [] totalBytesRead (.bytes block) reads).2.last = .pending ∨
      (fillData [] totalBytesRead (.bytes block) reads).2.reads.length < reads.length := by
  have hfits : ([] : NSData).length + block.bytes.length ≤ sizes.clientMaxBufferSize := by
    simpa using Nat.le_trans block.length_le sizes.io_le_clientMax
  unfold fillData
  simp only [if_pos hfits]
  cases reads with
  | nil => exact .inl rfl
  | cons next reads => exact .inr (Nat.lt_succ_of_le (reads_fillData_le _ _ _ _))

/-- The loop ends: with enough fuel it does not stop at bytes. -/
theorem readBlocks_last {fuel : Nat} {loop : ReadLoop sizes}
    (hfuel : loop.reads.length < fuel ∨ ∀ block, loop.last ≠ .bytes block)
    (block : ReadBlock sizes) : (readBlocks fuel loop).2.last ≠ .bytes block := by
  induction fuel generalizing loop with
  | zero => exact hfuel.elim (fun h => absurd h (Nat.not_lt_zero _)) fun h => h block
  | succ fuel ih =>
    unfold readBlocks
    split
    · rename_i first hlast
      refine ih ?_
      have hfuel := hfuel.resolve_right fun h => h first hlast
      rw [hlast]
      rcases fillData_progress loop.totalBytesRead first loop.reads with hpending | hless
      · exact .inr fun _ h => by simp [hpending] at h
      · exact .inl (Nat.lt_of_lt_of_le hless (Nat.le_of_lt_succ hfuel))
    · rename_i hlast
      exact hlast block

namespace HttpProtocolHandlerCore

/-! ## What the small steps change -/

section Fields

variable (s : HttpProtocolHandlerCore sizes Response)

@[simp] theorem clientCalls_tellClient (calls : List (ClientCall Response)) :
    (s.tellClient calls).clientCalls = s.clientCalls ++ calls := rfl

@[simp] theorem clientCalls_setNetRequest (request : Option (NativeRequest sizes Response)) :
    (s.setNetRequest request).clientCalls = s.clientCalls := rfl

@[simp] theorem clientCalls_stopListeningStream :
    s.stopListeningStream.clientCalls = s.clientCalls := rfl

variable (call : TrackerCall)

/-- The tracker is told. -/
theorem tellTracker_eq :
    ∃ trackerCalls, s.tellTracker call = { s with trackerCalls := trackerCalls } := by
  unfold tellTracker
  split
  · exact ⟨_, rfl⟩
  · exact ⟨_, rfl⟩

@[simp] theorem clientCalls_tellTracker : (s.tellTracker call).clientCalls = s.clientCalls := by
  obtain ⟨_, heq⟩ := s.tellTracker_eq call
  rw [heq]

@[simp] theorem netRequest_tellTracker : (s.tellTracker call).netRequest = s.netRequest := by
  obtain ⟨_, heq⟩ := s.tellTracker_eq call
  rw [heq]

@[simp] theorem streamDelegate_tellTracker :
    (s.tellTracker call).streamDelegate = s.streamDelegate := by
  obtain ⟨_, heq⟩ := s.tellTracker_eq call
  rw [heq]

@[simp] theorem callbacks_tellTracker : (s.tellTracker call).callbacks = s.callbacks := by
  obtain ⟨_, heq⟩ := s.tellTracker_eq call
  rw [heq]

@[simp] theorem clientCalls_stopNetRequest : s.stopNetRequest.clientCalls = s.clientCalls := by
  unfold stopNetRequest
  dsimp only
  split
  · simp
  · simp

end Fields

/-! ## Without a request -/

variable (s : HttpProtocolHandlerCore sizes Response)

/-- The handler is done. -/
structure Stopped : Prop where
  no_request : s.netRequest = none
  no_stream : s.streamDelegate = false

theorem stopped_stopNetRequest : Stopped s.stopNetRequest := by
  unfold stopNetRequest
  dsimp only
  split
  · exact ⟨rfl, rfl⟩
  · rename_i hstream
    exact ⟨rfl, by simpa using hstream⟩

section

variable {s : HttpProtocolHandlerCore sizes Response}

theorem Stopped.tellClient (h : Stopped s)
    (calls : List (ClientCall Response)) : Stopped (s.tellClient calls) :=
  ⟨h.no_request, h.no_stream⟩

theorem Stopped.cancel (h : Stopped s) : s.cancel = s := by
  simp only [HttpProtocolHandlerCore.cancel, h.no_request]

theorem Stopped.phase? (h : Stopped s) : s.phase? = none := by
  simp [HttpProtocolHandlerCore.phase?, h.no_request]

/-- Every callback checks `net_request_` first. -/
theorem Stopped.runCallback
    (P : HttpPlatform Response) (h : Stopped s) (callback : TrackerCallback) (carryOn : Bool) :
    s.runCallback P callback carryOn = s := by
  have hcancel : s.cancelAfterSSLError = s := by
    simp only [cancelAfterSSLError, h.no_request]
  cases callback with
  | sslErrorCallback =>
    cases carryOn with
    | true =>
      cases s
      obtain rfl := h.no_request
      rfl
    | false => exact hcancel
  | hostStateCallback =>
    cases carryOn with
    | true =>
      show s.startReading P = s
      simp only [startReading, h.no_request]
    | false => exact hcancel

/-- A handler that is done stays done, and does not call its client. -/
theorem Stopped.step (P : HttpPlatform Response) (h : Stopped s) {op : Op sizes} (hpre : op.Pre s) :
    Stopped (s.step P op) ∧ (s.step P op).clientCalls = s.clientCalls := by
  cases op with
  | receivedRedirect newUrl => simp [Op.Pre, h.phase?] at hpre
  | authRequired answer => simp [Op.Pre, h.phase?] at hpre
  | certificateRequested => simp [Op.Pre, h.phase?] at hpre
  | sslCertificateError sslInfo fatal answer => simp [Op.Pre, h.phase?] at hpre
  | responseStarted netError answer => cases netError <;> simp [Op.Pre, h.phase?] at hpre
  | readCompleted bytesRead => simp [Op.Pre, h.phase?] at hpre
  | streamEvent event => simp [Op.Pre, h.no_stream] at hpre
  | completeAuthentication credentials =>
    refine ⟨⟨?_, h.no_stream⟩, rfl⟩
    simp [HttpProtocolHandlerCore.step, completeAuthentication, setNetRequest, h.no_request]
  | runCallback callback carryOn =>
    have hstopped : Stopped { s with callbacks := s.callbacks.erase callback } :=
      ⟨h.no_request, h.no_stream⟩
    rw [HttpProtocolHandlerCore.step, hstopped.runCallback]
    exact ⟨hstopped, rfl⟩
  | trackerDestroyed => exact ⟨⟨h.no_request, h.no_stream⟩, rfl⟩
  | cancel =>
    rw [HttpProtocolHandlerCore.step, h.cancel]
    exact ⟨h, rfl⟩

end

/-! ## Before the response -/

/-- Nothing was called yet and nothing is kept; only the request is there. -/
structure Quiet (request : NativeRequest sizes Response) : Prop where
  has_request : s.netRequest = some request
  no_stream : s.streamDelegate = false
  no_callbacks : s.callbacks = []
  no_calls : s.clientCalls = []

theorem Quiet.map {s : HttpProtocolHandlerCore sizes Response}
    {request : NativeRequest sizes Response} (h : Quiet s request)
    (f : NativeRequest sizes Response → NativeRequest sizes Response) :
    Quiet (s.setNetRequest (s.netRequest.map f)) (f request) :=
  ⟨by simp [setNetRequest, h.has_request], h.no_stream, h.no_callbacks, h.no_calls⟩

theorem Quiet.tellTracker {s : HttpProtocolHandlerCore sizes Response}
    {request : NativeRequest sizes Response} (h : Quiet s request) (call : TrackerCall) :
    Quiet (s.tellTracker call) request := by
  obtain ⟨_, heq⟩ := s.tellTracker_eq call
  rw [heq]
  exact ⟨h.has_request, h.no_stream, h.no_callbacks, h.no_calls⟩

/-- The phase in which a request waits for a callback. -/
def waitsFor : TrackerCallback → RequestPhase
  | .sslErrorCallback => .certificateError
  | .hostStateCallback => .responded

/-- A request that is waiting for its response. The only callback that may be kept
is the one it waits for. -/
structure Waiting (request : NativeRequest sizes Response) : Prop where
  has_request : s.netRequest = some request
  not_reading : request.phase ≠ .readPending
  stream : s.streamDelegate = true → request.phase = .created
  callbacks : s.callbacks = [] ∨
    ∃ callback, s.callbacks = [callback] ∧ request.phase = waitsFor callback
  no_calls : s.clientCalls = []

/-- A request that waits for more data. -/
structure Reading (request : NativeRequest sizes Response) : Prop where
  has_request : s.netRequest = some request
  reading : request.phase = .readPending
  no_stream : s.streamDelegate = false
  no_callbacks : s.callbacks = []
  calls : LoadingCalls s.clientCalls

/-- How far the calls are, for each state of `net_request_`. -/
inductive Stage : Prop
  | waiting (request : NativeRequest sizes Response) (h : Waiting s request)
  | reading (request : NativeRequest sizes Response) (h : Reading s request)
  | stopped (h : Stopped s) (hcalls : CallOrder s.clientCalls)

section

variable {s : HttpProtocolHandlerCore sizes Response}

theorem Stage.callOrder (h : Stage s) : CallOrder s.clientCalls := by
  cases h with
  | waiting request h =>
    rw [h.no_calls]
    exact .nothing
  | reading request h => exact .loading h.calls
  | stopped h hcalls => exact hcalls

variable {request : NativeRequest sizes Response}

theorem Quiet.stage (h : Quiet s request) (hphase : request.phase ≠ .readPending) : Stage s := by
  refine .waiting request ⟨h.has_request, hphase, ?_, .inl h.no_callbacks, h.no_calls⟩
  simp [h.no_stream]

theorem Waiting.no_stream (h : Waiting s request)
    (hphase : request.phase ≠ .created) : s.streamDelegate = false := by
  cases hstream : s.streamDelegate with
  | true => exact absurd (h.stream hstream) hphase
  | false => rfl

theorem Waiting.no_callbacks (h : Waiting s request)
    (hphase : ∀ callback, request.phase ≠ waitsFor callback) : s.callbacks = [] := by
  rcases h.callbacks with hnone | ⟨callback, -, hwaits⟩
  · exact hnone
  · exact absurd hwaits (hphase callback)

theorem Waiting.quiet (h : Waiting s request)
    (hphase : request.phase = .started) : Quiet s request := by
  refine ⟨h.has_request, h.no_stream ?_, h.no_callbacks ?_, h.no_calls⟩
  · simp [hphase]
  · rintro (_ | _) <;> simp [hphase, waitsFor]

/-- Only a waiting request is in a phase other than `readPending`. -/
theorem Stage.waiting_of_phase (h : Stage s)
    {phase : RequestPhase} (hphase : s.phase? = some phase) (hne : phase ≠ .readPending) :
    ∃ request, Waiting s request ∧ request.phase = phase := by
  cases h with
  | waiting request h =>
    rw [phase?, h.has_request] at hphase
    exact ⟨request, h, Option.some.inj hphase⟩
  | reading request h =>
    rw [phase?, h.has_request] at hphase
    exact absurd ((Option.some.inj hphase).symm.trans h.reading) hne
  | stopped h => simp [h.phase?] at hphase

/-! ## Stopping -/

theorem stage_stopRequestWithError
    (hcalls : s.clientCalls = [] ∨ LoadingCalls s.clientCalls) (nsErrorCode : NSURLErrorCode)
    (netErrorCode : NetErrorCode) : Stage (s.stopRequestWithError nsErrorCode netErrorCode) := by
  refine .stopped (stopped_stopNetRequest _) ?_
  rw [stopRequestWithError, clientCalls_stopNetRequest]
  exact .fail hcalls _ _

/-- Only a pending read can complete inside `Cancel`. -/
theorem cancelNetRequest_of_ne (hrequest : s.netRequest = some request)
    (hphase : request.phase ≠ .readPending) : s.cancelNetRequest = s := by
  simp only [cancelNetRequest, hrequest]
  split
  · rename_i hreading _
    exact absurd hreading hphase
  · rfl

theorem Quiet.cancelAfterSSLError {request : NativeRequest sizes Response} (h : Quiet s request)
    (hphase : request.phase ≠ .readPending) : Stage s.cancelAfterSSLError := by
  simp only [HttpProtocolHandlerCore.cancelAfterSSLError, h.has_request,
    cancelNetRequest_of_ne h.has_request hphase]
  exact stage_stopRequestWithError (.inl h.no_calls) _ _

/-! ## Reading -/

section

variable {request : NativeRequest sizes Response} (hrequest : s.netRequest = some request)
  (hstream : s.streamDelegate = false) (hcallbacks : s.callbacks = [])
  (hcalls : LoadingCalls s.clientCalls)
include hrequest hstream hcallbacks hcalls

/-- The end of the loop, with the request as the loop left it. -/
theorem stage_readsEnded {last : ReadResult sizes} (hlast : ∀ block, last ≠ .bytes block)
    (hphase : last = .pending → request.phase = .readPending) : Stage (s.readsEnded last) := by
  cases last with
  | bytes block => exact absurd rfl (hlast block)
  | endOfData =>
    refine .stopped ((stopped_stopNetRequest s).tellClient _) ?_
    rw [readsEnded, clientCalls_tellClient, clientCalls_stopNetRequest]
    exact .loaded hcalls _ trivial
  | pending => exact .reading request ⟨hrequest, hphase rfl, hstream, hcallbacks, hcalls⟩
  | error code => exact stage_stopRequestWithError (.inr hcalls) _ _

theorem stage_onReadCompleted (bytesRead : ReadResult sizes) :
    Stage (s.onReadCompleted bytesRead) := by
  simp only [onReadCompleted, hrequest]
  have hlast : ∀ block, (readBlocks (request.reply.reads.length + 1)
      ⟨0, bytesRead, request.reply.reads⟩).2.last ≠ .bytes block :=
    readBlocks_last (.inl (Nat.lt_succ_self _))
  -- only where the loop ends matters from here on
  generalize readBlocks _ _ = read at hlast ⊢
  have hafter := netRequest_tellTracker ((s.tellClient (read.1.map .didLoadData)).setNetRequest
    (some (request.afterReads read.2.reads read.2.last)))
    (.captureReceivedBytes read.2.totalBytesRead)
  refine stage_readsEnded hafter ?_ ?_ ?_ hlast fun hpending => if_pos hpending
  · rw [streamDelegate_tellTracker]
    exact hstream
  · rw [callbacks_tellTracker]
    exact hcallbacks
  · rw [clientCalls_tellTracker]
    exact hcalls.append_data _

end

end

theorem phase_read_of_pending {request : NativeRequest sizes Response}
    (h : request.read.1 = .pending) : request.read.2.phase = .readPending := by
  unfold NativeRequest.read at h ⊢
  split at h
  · rfl
  · exact if_pos h

theorem stage_readFirst {s : HttpProtocolHandlerCore sizes Response}
    (request : NativeRequest sizes Response) (hstream : s.streamDelegate = false)
    (hcallbacks : s.callbacks = []) (hcalls : LoadingCalls s.clientCalls) :
    Stage (s.readFirst request) := by
  have hrequest : (s.setNetRequest (some request.read.2)).netRequest = some request.read.2 := rfl
  unfold readFirst
  dsimp only
  split
  · rename_i hread
    exact .reading _ ⟨hrequest, phase_read_of_pending hread, hstream, hcallbacks, hcalls⟩
  · exact stage_onReadCompleted hrequest hstream hcallbacks hcalls _
  · exact stage_onReadCompleted hrequest hstream hcallbacks hcalls _
  · refine stage_stopRequestWithError ?_ _ _
    exact .inr hcalls

variable (P : HttpPlatform Response)

theorem receiveResponse_eq (s : HttpProtocolHandlerCore sizes Response) (response : Response) :
    ∃ trackerCalls, s.receiveResponse P response =
      { s with
        trackerCalls := trackerCalls
        clientCalls := s.clientCalls ++ [.didReceiveResponse response] } := by
  obtain ⟨_, hheaders⟩ := s.tellTracker_eq .captureHeaders
  unfold receiveResponse
  dsimp only
  split
  · obtain ⟨_, hlength⟩ := (s.tellTracker .captureHeaders).tellTracker_eq
      (.captureExpectedLength (P.expectedContentLength response))
    rw [hlength, hheaders]
    exact ⟨_, rfl⟩
  · rw [hheaders]
    exact ⟨_, rfl⟩

section

variable {s : HttpProtocolHandlerCore sizes Response}

section

variable {request : NativeRequest sizes Response}

/-- The response is the first call. -/
theorem Quiet.startReading (P : HttpPlatform Response) (h : Quiet s request) :
    Stage (s.startReading P) := by
  obtain ⟨trackerCalls, heq⟩ := receiveResponse_eq P s request.reply.response
  simp only [HttpProtocolHandlerCore.startReading, h.has_request, heq, h.no_calls]
  exact stage_readFirst request h.no_stream h.no_callbacks ⟨_, [], rfl⟩

theorem Quiet.startNetRequest (h : Quiet s request) : Stage s.startNetRequest :=
  ((h.map _).tellTracker .startRequest).stage (by simp)

/-! ## Callbacks -/

theorem Quiet.continueAfterSSLError (h : Quiet s request)
    (hphase : request.phase ≠ .readPending) : Stage s.continueAfterSSLError := by
  refine (h.map (·.continueDespiteLastError)).stage ?_
  exact phase_resumeFrom_ne hphase

theorem Quiet.runCallback (P : HttpPlatform Response) (h : Quiet s request)
    (hphase : request.phase ≠ .readPending) (callback : TrackerCallback) (carryOn : Bool) :
    Stage (s.runCallback P callback carryOn) := by
  cases callback with
  | sslErrorCallback =>
    cases carryOn with
    | true => exact h.continueAfterSSLError hphase
    | false => exact h.cancelAfterSSLError hphase
  | hostStateCallback =>
    cases carryOn with
    | true => exact h.startReading P
    | false => exact h.cancelAfterSSLError hphase

theorem Quiet.giveCallback (P : HttpPlatform Response) (h : Quiet s request)
    (callback : TrackerCallback) (hphase : request.phase = waitsFor callback)
    (answer : Option Bool) : Stage (s.giveCallback P callback answer) := by
  have hne : request.phase ≠ .readPending := by
    rw [hphase]
    cases callback <;> decide
  cases answer with
  | some carryOn => exact h.runCallback P hne callback carryOn
  | none =>
    refine .waiting request ⟨h.has_request, hne, ?_, .inr ⟨callback, ?_, hphase⟩, h.no_calls⟩
    · simp [HttpProtocolHandlerCore.giveCallback, keepCallback, h.no_stream]
    · simp [HttpProtocolHandlerCore.giveCallback, keepCallback, h.no_callbacks]

/-- Running the callback that is kept leaves nothing kept. -/
theorem Waiting.runCallback (P : HttpPlatform Response) (h : Waiting s request)
    {callback : TrackerCallback} (hkept : callback ∈ s.callbacks) (carryOn : Bool) :
    Stage ({ s with callbacks := s.callbacks.erase callback }.runCallback P callback carryOn) := by
  rcases h.callbacks with hnone | ⟨kept, hcallbacks, hwaits⟩
  · simp [hnone] at hkept
  · rw [hcallbacks, List.mem_singleton] at hkept
    subst hkept
    have hstream : s.streamDelegate = false := by
      refine h.no_stream ?_
      rw [hwaits]
      cases callback <;> decide
    have hquiet : Quiet { s with callbacks := s.callbacks.erase callback } request :=
      ⟨h.has_request, hstream, by simp [hcallbacks], h.no_calls⟩
    exact hquiet.runCallback P h.not_reading callback carryOn

end

/-! ## Every event -/

/-- The answer to a challenge counts only in the phase that waits for it. -/
theorem Stage.completeAuthentication (h : Stage s)
    (credentials : Option AuthCredentials) : Stage (s.completeAuthentication credentials) := by
  cases h with
  | waiting request h =>
    have hrequest : (s.completeAuthentication credentials).netRequest =
        some (request.answerAuth credentials) := congrArg (Option.map _) h.has_request
    refine .waiting _ ⟨hrequest, ?_, ?_, ?_, h.no_calls⟩
    · rw [phase_answerAuth]
      split
      · decide
      · exact h.not_reading
    · intro hstream
      rw [phase_answerAuth, h.stream hstream]
      rfl
    -- no callback is kept in the phase that waits for the answer
    · rcases h.callbacks with hnone | ⟨callback, hkept, hwaits⟩
      · exact .inl hnone
      · refine .inr ⟨callback, hkept, ?_⟩
        rw [phase_answerAuth, hwaits]
        cases callback <;> rfl
  | reading request h =>
    have hrequest : (s.completeAuthentication credentials).netRequest =
        some (request.answerAuth credentials) := congrArg (Option.map _) h.has_request
    refine .reading _ ⟨hrequest, ?_, h.no_stream, h.no_callbacks, h.calls⟩
    rw [phase_answerAuth, h.reading]
    rfl
  | stopped h hcalls =>
    exact .stopped ⟨congrArg (Option.map _) h.no_request, h.no_stream⟩ hcalls

theorem redirectRequest_eq
    (hstream : s.streamDelegate = false) (request : NativeRequest sizes Response) (newUrl : GURL) :
    ∃ trackerCalls redirected, s.redirectRequest request newUrl =
      { s with
        request := none
        trackerCalls := trackerCalls
        clientCalls := s.clientCalls ++
          [.wasRedirectedToRequest redirected request.reply.response] } := by
  obtain ⟨trackerCalls, heq⟩ := s.tellTracker_eq .stopRedirectedRequest
  have hif : (if s.streamDelegate then s.stopListeningStream else s) = s :=
    if_neg (by simp [hstream])
  refine ⟨trackerCalls, s.request.map (·.redirected newUrl request.reply.responseCode), ?_⟩
  rw [redirectRequest]
  simp only [hif, heq]
  rfl

section

variable {request : NativeRequest sizes Response}

theorem Quiet.onReceivedRedirect (h : Quiet s request)
    (hphase : request.phase ≠ .readPending) (newUrl : GURL) :
    Stage (s.onReceivedRedirect request newUrl) := by
  unfold HttpProtocolHandlerCore.onReceivedRedirect
  split
  · exact stage_stopRequestWithError (.inl h.no_calls) _ _
  · obtain ⟨trackerCalls, redirected, heq⟩ := redirectRequest_eq h.no_stream request newUrl
    have hrequest : (s.redirectRequest request newUrl).netRequest = some request := by
      rw [heq]
      exact h.has_request
    refine .stopped (stopped_stopNetRequest _) ?_
    rw [clientCalls_stopNetRequest, cancelNetRequest_of_ne hrequest hphase, heq, h.no_calls]
    exact .ended _ trivial

theorem Quiet.onAuthRequired (h : Quiet s request)
    (hphase : request.phase ≠ .readPending) (answer : Option (Option AuthCredentials)) :
    Stage (s.onAuthRequired answer) := by
  unfold HttpProtocolHandlerCore.onAuthRequired
  split
  · cases answer with
    | some credentials => exact (h.stage hphase).completeAuthentication credentials
    | none => exact h.stage hphase
  · exact (h.map (·.cancelAuth)).stage (phase_resumeFrom_ne hphase)

theorem Quiet.onCertificateRequested (h : Quiet s request)
    (hphase : request.phase ≠ .readPending) : Stage s.onCertificateRequested := by
  rw [HttpProtocolHandlerCore.onCertificateRequested, cancelNetRequest_of_ne h.has_request hphase]
  exact stage_stopRequestWithError (.inl h.no_calls) _ _

theorem Quiet.onSSLCertificateError (P : HttpPlatform Response) (h : Quiet s request)
    (hphase : request.phase = .certificateError) (sslInfo : SSLInfo) (fatal : Bool)
    (answer : Option Bool) : Stage (s.onSSLCertificateError P sslInfo fatal answer) := by
  have hne : request.phase ≠ .readPending := by simp [hphase]
  unfold HttpProtocolHandlerCore.onSSLCertificateError
  split
  · exact (h.tellTracker _).cancelAfterSSLError hne
  · split
    · split
      · exact h.continueAfterSSLError hne
      · exact h.cancelAfterSSLError hne
    · exact (h.tellTracker _).giveCallback P .sslErrorCallback hphase answer

/-- A response that is not an error. -/
theorem Quiet.onResponseStarted (P : HttpPlatform Response) (h : Quiet s request)
    (hphase : request.phase = .responded) (answer : Option Bool) :
    Stage (s.onResponseStarted P none answer) := by
  simp only [HttpProtocolHandlerCore.onResponseStarted, h.has_request]
  split
  · exact (h.tellTracker _).giveCallback P .hostStateCallback hphase answer
  · exact h.startReading P

/-- A response that is an error, which may come while a callback is kept. -/
theorem Waiting.onResponseStarted_error (h : Waiting s request)
    (code : NetErrorCode) (answer : Option Bool) :
    Stage ((s.setPhase .responded).onResponseStarted P (some code) answer) := by
  have hrequest : (s.setPhase .responded).netRequest = some { request with phase := .responded } :=
    congrArg (Option.map _) h.has_request
  simp only [onResponseStarted, hrequest]
  refine stage_stopRequestWithError ?_ _ _
  exact .inl h.no_calls

end

theorem Stage.waiting_of_responseStarted (h : Stage s) {code : NetErrorCode} {answer : Option Bool}
    (hpre : (Op.responseStarted (some code) answer : Op sizes).Pre s) :
    ∃ request, Waiting s request := by
  have hphase : ∃ phase, s.phase? = some phase ∧ phase ≠ .readPending := by
    rcases hpre with hphase | hphase | hphase
    · exact ⟨_, hphase, by decide⟩
    · exact ⟨_, hphase, by decide⟩
    · exact ⟨_, hphase, by decide⟩
  obtain ⟨phase, hphase, hne⟩ := hphase
  obtain ⟨request, hwaiting, -⟩ := h.waiting_of_phase hphase hne
  exact ⟨request, hwaiting⟩

/-- The stream is read before the request is started. -/
theorem Waiting.handleStreamEvent {request : NativeRequest sizes Response} (h : Waiting s request)
    (hstream : s.streamDelegate = true) (event : NSStreamEvent) :
    Stage (s.handleStreamEvent event) := by
  have hcreated := h.stream hstream
  have hcallbacks : s.callbacks = [] := by
    refine h.no_callbacks ?_
    rintro (_ | _) <;> simp [hcreated, waitsFor]
  cases event with
  | errorOccurred =>
    refine stage_stopRequestWithError ?_ _ _
    exact .inl h.no_calls
  | endEncountered =>
    have hquiet : Quiet s.stopListeningStream request :=
      ⟨h.has_request, rfl, hcallbacks, h.no_calls⟩
    simp only [HttpProtocolHandlerCore.handleStreamEvent]
    split
    · exact hquiet.startNetRequest
    · have huploaded := hquiet.map fun request =>
        { request with upload := s.stopListeningStream.postDataReaders }
      have hcleared : Quiet
          { s.stopListeningStream.setUpload s.stopListeningStream.postDataReaders with
            postDataReaders := [] } _ :=
        ⟨huploaded.has_request, huploaded.no_stream, huploaded.no_callbacks, huploaded.no_calls⟩
      exact hcleared.startNetRequest
  | hasBytesAvailable bytes =>
    simp only [HttpProtocolHandlerCore.handleStreamEvent]
    split
    · exact .waiting request h
    · exact .waiting request ⟨h.has_request, h.not_reading, h.stream, h.callbacks, h.no_calls⟩
  | other => exact .waiting request h

/-- A read that completes, also inside `Cancel`. -/
theorem Reading.onReadCompleted {request : NativeRequest sizes Response} (h : Reading s request)
    (bytesRead : ReadResult sizes) : Stage ((s.setPhase .responded).onReadCompleted bytesRead) := by
  have hrequest : (s.setPhase .responded).netRequest = some { request with phase := .responded } :=
    congrArg (Option.map _) h.has_request
  exact stage_onReadCompleted hrequest h.no_stream h.no_callbacks h.calls bytesRead

theorem Stage.cancel (h : Stage s) : Stage s.cancel := by
  cases h with
  | waiting request h =>
    simp only [HttpProtocolHandlerCore.cancel, h.has_request,
      cancelNetRequest_of_ne h.has_request h.not_reading]
    refine .stopped (stopped_stopNetRequest s) ?_
    rw [clientCalls_stopNetRequest, h.no_calls]
    exact .nothing
  | reading request h =>
    simp only [HttpProtocolHandlerCore.cancel, h.has_request]
    refine .stopped (stopped_stopNetRequest _) ?_
    rw [clientCalls_stopNetRequest]
    simp only [cancelNetRequest, h.has_request, h.reading]
    split
    · exact (h.onReadCompleted _).callOrder
    · exact .loading h.calls
  | stopped h hcalls =>
    rw [h.cancel]
    exact .stopped h hcalls

/-! ## Runs -/

theorem step_stage (h : Stage s) {op : Op sizes} (hpre : op.Pre s) : Stage (s.step P op) := by
  -- In the phase that most events come in there is nothing but the request.
  have hquiet : s.phase? = some .started →
      ∃ request, Quiet s request ∧ request.phase = .started := by
    intro hphase
    obtain ⟨request, hwaiting, hstarted⟩ := h.waiting_of_phase hphase (by decide)
    exact ⟨request, hwaiting.quiet hstarted, hstarted⟩
  cases op with
  | receivedRedirect newUrl =>
    obtain ⟨request, hquiet, hphase⟩ := hquiet hpre
    simp only [step, hquiet.has_request]
    exact hquiet.onReceivedRedirect (by simp [hphase]) newUrl
  | authRequired answer =>
    obtain ⟨request, hquiet, -⟩ := hquiet hpre
    exact (hquiet.map _).onAuthRequired (by simp) answer
  | completeAuthentication credentials => exact h.completeAuthentication credentials
  | certificateRequested =>
    obtain ⟨request, hquiet, hphase⟩ := hquiet hpre
    exact hquiet.onCertificateRequested (by simp [hphase])
  | sslCertificateError sslInfo fatal answer =>
    obtain ⟨request, hquiet, -⟩ := hquiet hpre
    exact (hquiet.map _).onSSLCertificateError P rfl sslInfo fatal answer
  | responseStarted netError answer =>
    cases netError with
    | none =>
      obtain ⟨request, hquiet, -⟩ := hquiet hpre
      exact (hquiet.map _).onResponseStarted P rfl answer
    | some code =>
      obtain ⟨request, hwaiting⟩ := h.waiting_of_responseStarted hpre
      exact hwaiting.onResponseStarted_error P code answer
  | readCompleted bytesRead =>
    cases h with
    | waiting request h =>
      have hphase := hpre.1
      rw [phase?, h.has_request] at hphase
      exact absurd (Option.some.inj hphase) h.not_reading
    | reading request h => exact h.onReadCompleted bytesRead
    | stopped h => simp [Op.Pre, h.phase?] at hpre
  | streamEvent event =>
    cases h with
    | waiting request h => exact h.handleStreamEvent hpre event
    | reading request h => exact absurd (hpre.symm.trans h.no_stream) (by decide)
    | stopped h => exact absurd (hpre.symm.trans h.no_stream) (by decide)
  | runCallback callback carryOn =>
    cases h with
    | waiting request h => exact h.runCallback P hpre carryOn
    | reading request h => simp [Op.Pre, h.no_callbacks] at hpre
    | stopped h hcalls =>
      obtain ⟨hstopped, hsame⟩ := h.step P hpre
      exact .stopped hstopped (by rwa [hsame])
  | trackerDestroyed =>
    cases h with
    | waiting request h =>
      exact .waiting request ⟨h.has_request, h.not_reading, h.stream, h.callbacks, h.no_calls⟩
    | reading request h =>
      exact .reading request ⟨h.has_request, h.reading, h.no_stream, h.no_callbacks, h.calls⟩
    | stopped h hcalls => exact .stopped ⟨h.no_request, h.no_stream⟩ hcalls
  | cancel => exact h.cancel

end

theorem stage_start (request : NSMutableURLRequest) (lookup : TrackerLookup)
    (reply : NetworkReply sizes Response) : Stage (start request lookup reply) := by
  unfold start
  dsimp only
  split
  · exact .stopped ⟨rfl, rfl⟩ (.ended _ trivial)
  · split
    · exact .stopped ⟨rfl, rfl⟩ (.ended _ trivial)
    · generalize hcreated : NativeRequest.mk _ _ _ _ _ = netRequest
      have hphase : netRequest.phase = .created := by
        rw [← hcreated]
        rfl
      have hquiet : Quiet
          ({ new request with tracker := decide (lookup = TrackerLookup.found) }.setNetRequest
            (some netRequest)) netRequest :=
        ⟨rfl, rfl, rfl, rfl⟩
      split
      -- the request is started when its stream has been read
      · exact .waiting netRequest ⟨rfl, by simp [hphase], fun _ => hphase, .inl rfl, rfl⟩
      · split
        · exact (hquiet.map _).startNetRequest
        · exact hquiet.startNetRequest

theorem stopped_cancel (s : HttpProtocolHandlerCore sizes Response) (h : Stage s) :
    Stopped s.cancel := by
  cases h with
  | waiting request h =>
    simp only [cancel, h.has_request]
    exact stopped_stopNetRequest _
  | reading request h =>
    simp only [cancel, h.has_request]
    exact stopped_stopNetRequest _
  | stopped h _ =>
    rw [h.cancel]
    exact h

/-- Only a read that completes inside `Cancel` is told to the client there. -/
theorem clientCalls_cancel {s : HttpProtocolHandlerCore sizes Response}
    (h : ∀ request, s.netRequest = some request → request.reply.abortedRead = none) :
    s.cancel.clientCalls = s.clientCalls := by
  unfold cancel
  split
  · rfl
  · rename_i request hrequest
    have hcancel : s.cancelNetRequest = s := by
      simp only [cancelNetRequest, hrequest, h request hrequest]
      split
      · rename_i habsurd
        cases habsurd
      · rfl
    rw [clientCalls_stopNetRequest, hcancel]

/-- What is asked of the calls of a run. -/
structure CallsInOrder (P : HttpPlatform Response) (s : HttpProtocolHandlerCore sizes Response)
    (ops : List (Op sizes)) : Prop where
  order : CallOrder ((machine sizes P).run s ops).clientCalls
  silent : ∀ before later, ops = before ++ .cancel :: later →
    ((machine sizes P).run s ops).clientCalls =
      ((machine sizes P).run s (before ++ [.cancel])).clientCalls
  cancel_silent : ∀ before later, ops = before ++ .cancel :: later →
    (∀ request, ((machine sizes P).run s before).netRequest = some request →
      request.reply.abortedRead = none) →
    ((machine sizes P).run s (before ++ [.cancel])).clientCalls =
      ((machine sizes P).run s before).clientCalls

theorem silent_of_stopped {s : HttpProtocolHandlerCore sizes Response}
    (h : Stopped s) {ops : List (Op sizes)} (hlegal : (machine sizes P).Legal s ops) :
    ((machine sizes P).run s ops).clientCalls = s.clientCalls := by
  have hrun := Machine.run_invariant (M := machine sizes P)
    (I := fun t => Stopped t ∧ t.clientCalls = s.clientCalls)
    (fun t op ht hpre => ⟨(ht.1.step P hpre).1, (ht.1.step P hpre).2.trans ht.2⟩)
    ⟨h, rfl⟩ hlegal
  exact hrun.2

/-- In every run after `Start`, the calls on the client are in the order of an
`NSURLProtocol`, and there is none after `Cancel`. -/
theorem client_calls_in_order (P : HttpPlatform Response) (request : NSMutableURLRequest)
    (lookup : TrackerLookup) (reply : NetworkReply sizes Response) (ops : List (Op sizes))
    (hlegal : (machine sizes P).Legal (start request lookup reply) ops) :
    CallsInOrder P (start request lookup reply) ops := by
  have hstage : ∀ before, before <+: ops →
      Stage ((machine sizes P).run (start request lookup reply) before) := by
    intro before hinitial
    exact Machine.run_invariant (I := Stage) (fun s op h hpre => step_stage P h hpre)
      (stage_start request lookup reply) (hlegal.of_isPrefix hinitial)
  constructor
  · exact (hstage ops (List.prefix_refl ops)).callOrder
  · rintro before later rfl
    -- `Cancel` leaves a handler that is done
    rw [List.append_cons] at hlegal ⊢
    rw [Machine.run_append]
    refine silent_of_stopped P ?_ (Machine.along_append.1 hlegal).2
    rw [Machine.run_append]
    exact stopped_cancel _ (hstage before (List.prefix_append _ _))
  · rintro before later rfl hnone
    rw [Machine.run_append]
    exact clientCalls_cancel hnone

def certificateErrorPlatform : HttpPlatform String where
  expectedContentLength := fun _ => 3
  isCertStatusError := fun _ => true
  isCertStatusMinorError := fun _ => false

def pageURLRequest : NSMutableURLRequest where
  url := ⟨"https://a.test/", true⟩
  httpMethod := "GET"
  httpBody := []
  httpBodyStream := false
  allHTTPHeaderFields := []
  httpShouldHandleCookies := true
  cachePolicy := .useProtocolCachePolicy

def pageReply : NetworkReply .source String where
  response := "200"
  responseCode := 200
  sslInfo := .new
  ignoreCertificateErrors := false
  reads := [.bytes ⟨[1, 2], by decide, by decide⟩, .pending, .endOfData]
  abortedRead := none

/-- A page whose certificate has an error that the user accepts. -/
def acceptedOps : List (Op .source) :=
  [.sslCertificateError .new false none, .runCallback .sslErrorCallback true,
    .responseStarted none none, .runCallback .hostStateCallback true,
    .readCompleted (.bytes ⟨[3], by decide, by decide⟩), .cancel]

theorem client_calls_in_order_accepted :
    CallsInOrder certificateErrorPlatform (start pageURLRequest .found pageReply) acceptedOps ∧
      ((machine .source certificateErrorPlatform).run (start pageURLRequest .found pageReply)
        acceptedOps).clientCalls =
        [.didReceiveResponse "200", .didLoadData [1, 2], .didLoadData [3], .didFinishLoading] :=
  ⟨client_calls_in_order certificateErrorPlatform pageURLRequest .found pageReply acceptedOps
    (by decide),
    by decide⟩

end HttpProtocolHandlerCore

end ChromiumIos
