import Mathlib.Algebra.BigOperators.Group.List.Basic
import ChromiumIos.Net.HttpProtocolHandlerCalls

/-!
# The body of a response

`StartReading` and `OnReadCompleted` read into one buffer, and hand the bytes over in blocks. What
a read left in the buffer when a block was full belongs to the next block.

- `fillData_spec`, `readBlocks_spec`: the blocks are the bytes up to the first result that gives
  none, and no byte is lost between two blocks.
- `Loads`: what a step of the handler adds to the data of the client and to the counts of the
  tracker. It composes, and `loads_step` is one case for each event.
- `response_body_reassembled`: over a whole run, the blocks are the bytes that were read.
-/

namespace ChromiumIos

open Lib List

variable {sizes : BufferSizes} {Response : Type}

/-! ## The read loop -/

/-- The bytes of the reads, up to the first that gives none. -/
def bytesUntilStop : List (ReadResult sizes) → NSData
  | .bytes block :: reads => block.bytes ++ bytesUntilStop reads
  | _ => []

theorem bytesUntilStop_of_ne {last : ReadResult sizes} (h : ∀ block, last ≠ .bytes block)
    (reads : List (ReadResult sizes)) : bytesUntilStop (last :: reads) = [] := by
  cases last with
  | bytes block => exact absurd rfl (h block)
  | endOfData | pending | error code => rfl

/-- What is still to be read in the middle of the loop, the buffer included. -/
def ReadLoop.bytesLeft (loop : ReadLoop sizes) : NSData :=
  bytesUntilStop (loop.last :: loop.reads)

/-- One block: what it grows by is taken from the bytes that are left, and is counted. -/
theorem fillData_spec (data : NSData) (total : Nat) (last : ReadResult sizes)
    (reads : List (ReadResult sizes)) :
    let filled := fillData data total last reads
    filled.1 ++ filled.2.bytesLeft = data ++ bytesUntilStop (last :: reads) ∧
    total + filled.1.length = filled.2.totalBytesRead + data.length ∧
    data.length ≤ filled.1.length ∧
    (data.length ≤ sizes.clientMaxBufferSize →
      filled.1.length ≤ sizes.clientMaxBufferSize) := by
  dsimp only
  induction reads generalizing data total last with
  | nil =>
    cases last with
    | bytes block =>
      rw [fillData]
      by_cases hfits : data.length + block.bytes.length ≤ sizes.clientMaxBufferSize
      · rw [if_pos hfits]
        dsimp only
        rw [length_append]
        refine ⟨?_, by omega, by omega, fun _ => hfits⟩
        simp [ReadLoop.bytesLeft, bytesUntilStop]
      · -- the block is full: the last read stays in the buffer
        rw [if_neg hfits]
        exact ⟨rfl, rfl, Nat.le_refl _, id⟩
    | endOfData | pending | error code => exact ⟨rfl, rfl, Nat.le_refl _, id⟩
  | cons next reads ih =>
    cases last with
    | bytes block =>
      rw [fillData]
      by_cases hfits : data.length + block.bytes.length ≤ sizes.clientMaxBufferSize
      · rw [if_pos hfits]
        obtain ⟨hbytes, hcount, hgrows, hmax⟩ :=
          ih (data ++ block.bytes) (total + block.bytes.length) next
        rw [length_append] at hcount hgrows hmax
        refine ⟨?_, by omega, by omega, fun _ => hmax hfits⟩
        rw [hbytes, append_assoc]
        rfl
      · rw [if_neg hfits]
        exact ⟨rfl, rfl, Nat.le_refl _, id⟩
    | endOfData | pending | error code => exact ⟨rfl, rfl, Nat.le_refl _, id⟩

/-- The block of a round that begins with bytes is not empty: they fit in it. -/
theorem fillData_ne_nil (total : Nat) (block : ReadBlock sizes)
    (reads : List (ReadResult sizes)) : (fillData [] total (.bytes block) reads).1 ≠ [] := by
  have hfits : ([] : NSData).length + block.bytes.length ≤ sizes.clientMaxBufferSize := by
    simpa using Nat.le_trans block.length_le sizes.io_le_clientMax
  have hpos := length_pos_of_ne_nil block.ne_nil
  unfold fillData
  simp only [if_pos hfits]
  cases reads with
  | nil => exact ne_nil_of_length_pos hpos
  | cons next reads =>
    refine ne_nil_of_length_pos (Nat.lt_of_lt_of_le hpos ?_)
    exact (fillData_spec ([] ++ block.bytes) _ next reads).2.2.1

/-- A round of the outer loop makes progress: it hands bytes over, and reads at least once. -/
structure RoundProgresses (total : Nat) (block : ReadBlock sizes)
    (reads : List (ReadResult sizes)) : Prop where
  data : (fillData [] total (.bytes block) reads).1 ≠ []
  counted : total < (fillData [] total (.bytes block) reads).2.totalBytesRead
  reads : (fillData [] total (.bytes block) reads).2.last = .pending ∨
    (fillData [] total (.bytes block) reads).2.reads.length < reads.length

theorem roundProgresses (total : Nat) (block : ReadBlock sizes)
    (reads : List (ReadResult sizes)) : RoundProgresses total block reads where
  data := fillData_ne_nil total block reads
  counted := by
    have hcount := (fillData_spec [] total (.bytes block) reads).2.1
    have hpos := length_pos_of_ne_nil (fillData_ne_nil total block reads)
    simp only [length_nil] at hcount
    omega
  reads := fillData_progress total block reads

/-- What the client may get as one block. -/
def IsBlock (sizes : BufferSizes) (data : NSData) : Prop :=
  data ≠ [] ∧ data.length ≤ sizes.clientMaxBufferSize

/-- The blocks of the outer loop are the bytes it takes off those that are left. -/
theorem readBlocks_spec (fuel : Nat) (loop : ReadLoop sizes) :
    (readBlocks fuel loop).1.flatten ++ (readBlocks fuel loop).2.bytesLeft = loop.bytesLeft ∧
    (readBlocks fuel loop).2.totalBytesRead =
      loop.totalBytesRead + (readBlocks fuel loop).1.flatten.length ∧
    ∀ data ∈ (readBlocks fuel loop).1, IsBlock sizes data := by
  induction fuel generalizing loop with
  | zero => exact ⟨rfl, rfl, fun _ h => absurd h not_mem_nil⟩
  | succ fuel ih =>
    obtain ⟨total, last, reads⟩ := loop
    cases last with
    | bytes block =>
      obtain ⟨hbytes, hcount, -, hmax⟩ := fillData_spec [] total (.bytes block) reads
      have hdata := fillData_ne_nil total block reads
      obtain ⟨hrest, htotal, hblocks⟩ := ih (fillData [] total (.bytes block) reads).2
      rw [readBlocks]
      dsimp only
      rw [if_pos (length_pos_of_ne_nil hdata)]
      refine ⟨?_, ?_, ?_⟩
      · rw [flatten_cons, append_assoc, hrest, hbytes]
        rfl
      · rw [flatten_cons, length_append, htotal]
        simp only [length_nil] at hcount
        omega
      · intro data hmem
        rcases mem_cons.1 hmem with rfl | hlater
        · exact ⟨hdata, hmax (Nat.zero_le _)⟩
        · exact hblocks data hlater
    | endOfData | pending | error code =>
      exact ⟨rfl, rfl, fun _ h => absurd h not_mem_nil⟩

/-! ## What is loaded -/

/-- The data of a call of `didLoadData`. -/
def ClientCall.data? : ClientCall Response → Option NSData
  | .didLoadData data => some data
  | _ => none

/-- The count of a call of `CaptureReceivedBytes`. -/
def TrackerCall.byteCount? : TrackerCall → Option Nat
  | .captureReceivedBytes byteCount => some byteCount
  | _ => none

namespace HttpProtocolHandlerCore

variable (s : HttpProtocolHandlerCore sizes Response)

/-- The data blocks that were passed to `didLoadData`. -/
def loadedData : List NSData :=
  s.clientCalls.filterMap ClientCall.data?

/-- The byte counts that were reported to the tracker. -/
def receivedByteCounts : List Nat :=
  s.trackerCalls.filterMap TrackerCall.byteCount?

@[simp] theorem tracker_tellTracker
    (call : TrackerCall) : (s.tellTracker call).tracker = s.tracker := by
  obtain ⟨_, heq⟩ := s.tellTracker_eq call
  rw [heq]

theorem receivedByteCounts_tellTracker {s : HttpProtocolHandlerCore sizes Response}
    (h : s.tracker = true) (call : TrackerCall) :
    (s.tellTracker call).receivedByteCounts =
      s.receivedByteCounts ++ [call].filterMap TrackerCall.byteCount? := by
  rw [tellTracker, if_pos h, receivedByteCounts, filterMap_append]
  rfl

/-- From `s` to `t` some bytes are handed over in blocks, and counted as long as the tracker is
there. -/
structure Loads (bytes : NSData) (s t : HttpProtocolHandlerCore sizes Response) : Prop where
  data : ∃ blocks, t.loadedData = s.loadedData ++ blocks ∧ blocks.flatten = bytes ∧
    ∀ data ∈ blocks, IsBlock sizes data
  counts : t.tracker = true → s.tracker = true ∧
    t.receivedByteCounts.sum = s.receivedByteCounts.sum + bytes.length

namespace Loads

variable {s t u : HttpProtocolHandlerCore sizes Response}

/-- A step that neither reads nor counts. -/
theorem of_eq (hdata : t.loadedData = s.loadedData)
    (hcounts : t.receivedByteCounts = s.receivedByteCounts)
    (htracker : t.tracker = true → s.tracker = true) : Loads [] s t where
  data := ⟨[], by rw [hdata, append_nil], rfl, fun _ h => absurd h not_mem_nil⟩
  counts h := ⟨htracker h, congrArg List.sum hcounts⟩

theorem refl (s : HttpProtocolHandlerCore sizes Response) : Loads [] s s := of_eq rfl rfl id

theorem trans {first second : NSData} (h : Loads first s t) (h' : Loads second t u) :
    Loads (first ++ second) s u where
  data := by
    obtain ⟨blocks, hdata, hflat, hblocks⟩ := h.data
    obtain ⟨later, hdata', hflat', hlater⟩ := h'.data
    refine ⟨blocks ++ later, ?_, ?_, ?_⟩
    · rw [hdata', hdata, append_assoc]
    · rw [flatten_append, hflat, hflat']
    · intro data hmem
      exact (mem_append.1 hmem).elim (hblocks data) (hlater data)
  counts htracker := by
    obtain ⟨ht, hlater⟩ := h'.counts htracker
    obtain ⟨hs, hearlier⟩ := h.counts ht
    refine ⟨hs, ?_⟩
    rw [hlater, hearlier, length_append, Nat.add_assoc]

theorem then_quiet {bytes : NSData} (h : Loads bytes s t) (h' : Loads [] t u) : Loads bytes s u :=
  append_nil bytes ▸ h.trans h'

theorem after_quiet {bytes : NSData} (h : Loads [] s t) (h' : Loads bytes t u) : Loads bytes s u :=
  h.trans h'

section

variable (s)

theorem tellClient {call : ClientCall Response}
    (h : call.data? = none) : Loads [] s (s.tellClient [call]) := by
  refine of_eq ?_ rfl id
  rw [loadedData, clientCalls_tellClient, filterMap_append, filterMap_cons_none h,
    filterMap_nil, append_nil]
  rfl

theorem tellTracker (call : TrackerCall)
    (h : call.byteCount? = none) : Loads [] s (s.tellTracker call) := by
  rw [HttpProtocolHandlerCore.tellTracker]
  split
  · refine of_eq rfl ?_ id
    rw [receivedByteCounts, filterMap_append, filterMap_cons_none h,
      filterMap_nil, append_nil]
    rfl
  · exact refl s

theorem setNetRequest (netRequest : Option (NativeRequest sizes Response)) :
    Loads [] s (s.setNetRequest netRequest) :=
  of_eq rfl rfl id

theorem setPhase (phase : RequestPhase) : Loads [] s (s.setPhase phase) :=
  setNetRequest s _

theorem stopNetRequest : Loads [] s s.stopNetRequest := by
  have hstop := (tellTracker s .stopRequest rfl).then_quiet (setNetRequest _ none)
  rw [HttpProtocolHandlerCore.stopNetRequest]
  split
  · exact hstop.then_quiet (of_eq rfl rfl id)
  · exact hstop

theorem stopRequestWithError (nsErrorCode : NSURLErrorCode) (netErrorCode : NetErrorCode) :
    Loads [] s (s.stopRequestWithError nsErrorCode netErrorCode) :=
  (tellClient s rfl).then_quiet (stopNetRequest _)

theorem startNetRequest : Loads [] s s.startNetRequest :=
  (setPhase s .started).then_quiet (tellTracker _ .startRequest rfl)

theorem readsEnded (last : ReadResult sizes) : Loads [] s (s.readsEnded last) := by
  cases last with
  | bytes block => exact refl s
  | pending => exact refl s
  | endOfData => exact (stopNetRequest s).then_quiet (tellClient _ rfl)
  | error code => exact stopRequestWithError s _ _

/-- The blocks are passed to the client, and what they hold is reported to the tracker. -/
theorem blocks {blocks : List NSData} (hblocks : ∀ data ∈ blocks, IsBlock sizes data)
    (netRequest : Option (NativeRequest sizes Response)) :
    Loads blocks.flatten s (((s.tellClient (blocks.map .didLoadData)).setNetRequest
      netRequest).tellTracker (.captureReceivedBytes blocks.flatten.length)) where
  data := by
    refine ⟨blocks, ?_, rfl, hblocks⟩
    have hmap : (blocks.map (.didLoadData : NSData → ClientCall Response)).filterMap
        ClientCall.data? = blocks := by
      rw [filterMap_map]
      exact filterMap_some
    rw [loadedData, clientCalls_tellTracker, clientCalls_setNetRequest, clientCalls_tellClient,
      filterMap_append, hmap]
    rfl
  counts htracker := by
    rw [tracker_tellTracker] at htracker
    refine ⟨htracker, ?_⟩
    rw [receivedByteCounts_tellTracker htracker, sum_append]
    rfl

end

theorem onReadCompleted {request : NativeRequest sizes Response}
    (h : s.netRequest = some request) (bytesRead : ReadResult sizes) :
    Loads (bytesUntilStop (bytesRead :: request.reply.reads)) s (s.onReadCompleted bytesRead) := by
  obtain ⟨hbytes, hcount, hblocks⟩ :=
    readBlocks_spec (request.reply.reads.length + 1) ⟨0, bytesRead, request.reply.reads⟩
  have hlast : ∀ block, (readBlocks (request.reply.reads.length + 1)
      ⟨0, bytesRead, request.reply.reads⟩).2.last ≠ .bytes block :=
    readBlocks_last (.inl (Nat.lt_succ_self _))
  simp only [HttpProtocolHandlerCore.onReadCompleted, h]
  -- the loop has stopped: no bytes are left in the buffer
  rw [ReadLoop.bytesLeft, bytesUntilStop_of_ne hlast, append_nil, ReadLoop.bytesLeft] at hbytes
  rw [Nat.zero_add] at hcount
  rw [← hbytes, hcount]
  exact (blocks s hblocks _).then_quiet (readsEnded _ _)

end Loads

/-! ## What is read -/

/-- What `Read` gives when the handler calls it. -/
def pendingReads : List (ReadResult sizes) :=
  match s.netRequest with
  | none => []
  | some request => request.reply.reads

/-- The same when a pending read completes inside `Cancel`. -/
def abortedReads : List (ReadResult sizes) :=
  match s.netRequest with
  | none => []
  | some request =>
    match request.phase, request.reply.abortedRead with
    | .readPending, some result => result :: request.reply.reads
    | _, _ => []

/-- The tracker is asked about the certificate of a response before it is read. -/
def asksTracker (P : HttpPlatform Response) (s : HttpProtocolHandlerCore sizes Response) : Bool :=
  match s.netRequest with
  | none => false
  | some request => s.tracker && P.isCertStatusError request.reply.sslInfo.certStatus &&
      !request.reply.ignoreCertificateErrors

/-- The results of reading in an event, synchronous or not: the handler reads up to one that gives
no bytes. Other events do not come while a read is pending. -/
def readResults (P : HttpPlatform Response) (s : HttpProtocolHandlerCore sizes Response) :
    Op sizes → List (ReadResult sizes)
  | .responseStarted none answer =>
    if s.asksTracker P && answer ≠ some true then [] else s.pendingReads
  | .runCallback .hostStateCallback true => s.pendingReads
  | .readCompleted bytesRead => bytesRead :: s.pendingReads
  | .cancel => s.abortedReads
  | _ => []

namespace Loads

variable {s : HttpProtocolHandlerCore sizes Response}

theorem readFirst (s : HttpProtocolHandlerCore sizes Response)
    (request : NativeRequest sizes Response) :
    Loads (bytesUntilStop request.reply.reads) s (s.readFirst request) := by
  cases hreads : request.reply.reads with
  | nil =>
    have hread : request.read = (.pending, request.afterReads [] .pending) := by
      rw [NativeRequest.read, hreads]
    rw [HttpProtocolHandlerCore.readFirst, hread]
    exact setNetRequest s _
  | cons result reads =>
    have hread : request.read = (result, request.afterReads reads result) := by
      rw [NativeRequest.read, hreads]
    have hset := setNetRequest s (some (request.afterReads reads result))
    have hrequest : (s.setNetRequest (some (request.afterReads reads result))).netRequest =
        some (request.afterReads reads result) := rfl
    rw [HttpProtocolHandlerCore.readFirst, hread]
    cases result with
    | bytes block => exact hset.after_quiet (onReadCompleted hrequest (.bytes block))
    | endOfData => exact hset.after_quiet (onReadCompleted hrequest .endOfData)
    | pending => exact hset
    | error code => exact hset.then_quiet (stopRequestWithError _ _ _)

theorem receiveResponse (P : HttpPlatform Response) (s : HttpProtocolHandlerCore sizes Response)
    (response : Response) : Loads [] s (s.receiveResponse P response) := by
  have hheaders := tellTracker s .captureHeaders rfl
  rw [HttpProtocolHandlerCore.receiveResponse]
  split
  · exact (hheaders.then_quiet (tellTracker _ _ rfl)).then_quiet (tellClient _ rfl)
  · exact hheaders.then_quiet (tellClient _ rfl)

theorem startReading (P : HttpPlatform Response) (s : HttpProtocolHandlerCore sizes Response) :
    Loads (bytesUntilStop s.pendingReads) s (s.startReading P) := by
  rw [HttpProtocolHandlerCore.startReading, pendingReads]
  cases s.netRequest with
  | none => exact refl s
  | some request => exact (receiveResponse P s _).after_quiet (readFirst _ request)

/-- Outside of a pending read, `Cancel` reads nothing. -/
theorem abortedReads_of_ne {request : NativeRequest sizes Response}
    (hrequest : s.netRequest = some request) (hphase : request.phase ≠ .readPending) :
    s.abortedReads = [] := by
  simp only [abortedReads, hrequest]
  split
  · next hreading _ => exact absurd hreading hphase
  · rfl

theorem cancelNetRequest (s : HttpProtocolHandlerCore sizes Response) :
    Loads (bytesUntilStop s.abortedReads) s s.cancelNetRequest := by
  cases hrequest : s.netRequest with
  | none =>
    simp only [HttpProtocolHandlerCore.cancelNetRequest, abortedReads, hrequest]
    exact refl s
  | some request =>
    by_cases hphase : request.phase = .readPending
    · cases haborted : request.reply.abortedRead with
      | none =>
        simp only [HttpProtocolHandlerCore.cancelNetRequest, abortedReads, hrequest, haborted,
          hphase]
        exact refl s
      | some result =>
        simp only [HttpProtocolHandlerCore.cancelNetRequest, abortedReads, hrequest, haborted,
          hphase]
        have hset : (s.setPhase .responded).netRequest =
            some { request with phase := .responded } := congrArg (Option.map _) hrequest
        exact (setNetRequest s _).after_quiet (onReadCompleted hset result)
    · rw [cancelNetRequest_of_ne hrequest hphase, abortedReads_of_ne hrequest hphase]
      exact refl s

theorem cancelAfterSSLError {request : NativeRequest sizes Response}
    (hrequest : s.netRequest = some request) (hphase : request.phase ≠ .readPending) :
    Loads [] s s.cancelAfterSSLError := by
  simp only [HttpProtocolHandlerCore.cancelAfterSSLError, hrequest]
  rw [cancelNetRequest_of_ne hrequest hphase]
  exact stopRequestWithError s _ _

theorem cancel (s : HttpProtocolHandlerCore sizes Response) :
    Loads (bytesUntilStop s.abortedReads) s s.cancel := by
  rw [HttpProtocolHandlerCore.cancel]
  cases hrequest : s.netRequest with
  | none =>
    rw [abortedReads, hrequest]
    exact refl s
  | some request => exact (cancelNetRequest s).then_quiet (stopNetRequest _)

/-! ## Every event -/

section

variable (P : HttpPlatform Response) {request : NativeRequest sizes Response}
  (hrequest : s.netRequest = some request) (hphase : request.phase ≠ .readPending)
include P hrequest hphase

/-- A callback that does not let the request go on cancels it while nothing is read. -/
theorem runCallback (callback : TrackerCallback) (carryOn : Bool) : Loads (bytesUntilStop
      (if callback = .hostStateCallback ∧ carryOn = true then s.pendingReads else [])) s
      (s.runCallback P callback carryOn) := by
  cases callback with
  | sslErrorCallback =>
    cases carryOn with
    | true => exact setNetRequest s _
    | false => exact cancelAfterSSLError hrequest hphase
  | hostStateCallback =>
    cases carryOn with
    | true => exact startReading P s
    | false => exact cancelAfterSSLError hrequest hphase

theorem giveCallback (callback : TrackerCallback) (answer : Option Bool) : Loads (bytesUntilStop
      (if callback = .hostStateCallback ∧ answer = some true then s.pendingReads else [])) s
      (s.giveCallback P callback answer) := by
  cases answer with
  | none =>
    rw [if_neg (by simp)]
    exact of_eq rfl rfl id
  | some carryOn =>
    simp only [Option.some_inj]
    exact runCallback P hrequest hphase callback carryOn

theorem onResponseStarted (answer : Option Bool) :
    Loads (bytesUntilStop (if s.asksTracker P && answer ≠ some true then [] else s.pendingReads))
      s (s.onResponseStarted P none answer) := by
  have hasks : s.asksTracker P = (s.tracker && P.isCertStatusError request.reply.sslInfo.certStatus
      && !request.reply.ignoreCertificateErrors) := by
    simp only [asksTracker, hrequest]
  simp only [HttpProtocolHandlerCore.onResponseStarted, hrequest]
  rw [← hasks]
  cases s.asksTracker P with
  | true =>
    have hrequest' : (s.tellTracker .captureCertificatePolicyCache).netRequest = some request := by
      rw [netRequest_tellTracker, hrequest]
    have hgiven := (tellTracker s .captureCertificatePolicyCache rfl).after_quiet
      (giveCallback P hrequest' hphase .hostStateCallback answer)
    rw [pendingReads, hrequest'] at hgiven
    rw [if_pos rfl, pendingReads, hrequest]
    by_cases hanswer : answer = some true
    · simpa [hanswer] using hgiven
    · simpa [hanswer] using hgiven
  | false => exact startReading P s

end

theorem redirectRequest (s : HttpProtocolHandlerCore sizes Response)
    (request : NativeRequest sizes Response) (newUrl : GURL) :
    Loads [] s (s.redirectRequest request newUrl) ∧
      (s.redirectRequest request newUrl).netRequest = s.netRequest := by
  have hstream : Loads [] s (if s.streamDelegate then s.stopListeningStream else s) ∧
      (if s.streamDelegate then s.stopListeningStream else s).netRequest = s.netRequest := by
    split
    · exact ⟨of_eq rfl rfl id, rfl⟩
    · exact ⟨refl s, rfl⟩
  obtain ⟨hstream, hrequest⟩ := hstream
  have htold := hstream.then_quiet (tellTracker _ .stopRedirectedRequest rfl)
  constructor
  · refine (htold.then_quiet (tellClient _ ?_)).then_quiet (of_eq rfl rfl id)
    rfl
  · exact (netRequest_tellTracker _ _).trans hrequest

theorem onReceivedRedirect {request : NativeRequest sizes Response}
    (hrequest : s.netRequest = some request) (hphase : request.phase ≠ .readPending)
    (newUrl : GURL) : Loads [] s (s.onReceivedRedirect request newUrl) := by
  rw [HttpProtocolHandlerCore.onReceivedRedirect]
  split
  · exact stopRequestWithError s _ _
  · obtain ⟨hredirect, hsame⟩ := redirectRequest s request newUrl
    rw [cancelNetRequest_of_ne (hsame.trans hrequest) hphase]
    exact hredirect.then_quiet (stopNetRequest _)

theorem onAuthRequired (s : HttpProtocolHandlerCore sizes Response)
    (answer : Option (Option AuthCredentials)) : Loads [] s (s.onAuthRequired answer) := by
  unfold HttpProtocolHandlerCore.onAuthRequired
  split
  · cases answer with
    | none => exact refl s
    | some credentials => exact setNetRequest s _
  · exact setNetRequest s _

theorem onSSLCertificateError (P : HttpPlatform Response)
    {request : NativeRequest sizes Response} (hrequest : s.netRequest = some request)
    (hphase : request.phase ≠ .readPending) (sslInfo : SSLInfo) (fatal : Bool)
    (answer : Option Bool) : Loads [] s (s.onSSLCertificateError P sslInfo fatal answer) := by
  have htold : ∀ call, (s.tellTracker call).netRequest = some request := fun call =>
    (netRequest_tellTracker s call).trans hrequest
  rw [HttpProtocolHandlerCore.onSSLCertificateError]
  split
  · exact (tellTracker s _ rfl).then_quiet (cancelAfterSSLError (htold _) hphase)
  · split
    · split
      · exact setNetRequest s _
      · exact cancelAfterSSLError hrequest hphase
    · have hgiven := giveCallback P (htold (.onSSLCertificateError true)) hphase .sslErrorCallback
        answer
      rw [if_neg (by simp)] at hgiven
      exact (tellTracker s _ rfl).then_quiet hgiven

theorem handleStreamEvent (s : HttpProtocolHandlerCore sizes Response) (event : NSStreamEvent) :
    Loads [] s (s.handleStreamEvent event) := by
  cases event with
  | errorOccurred =>
    have hstop : Loads [] s s.stopListeningStream := of_eq rfl rfl id
    exact hstop.then_quiet (stopRequestWithError _ _ _)
  | endEncountered =>
    refine then_quiet ?_ (startNetRequest _)
    dsimp only
    split
    · exact of_eq rfl rfl id
    · exact of_eq rfl rfl id
  | hasBytesAvailable bytes =>
    rw [HttpProtocolHandlerCore.handleStreamEvent]
    split
    · exact refl s
    · exact of_eq rfl rfl id
  | other => exact refl s

end Loads

theorem pendingReads_setPhase (phase : RequestPhase) :
    (s.setPhase phase).pendingReads = s.pendingReads := by
  rw [pendingReads, pendingReads, setPhase, setNetRequest]
  cases s.netRequest with
  | none => rfl
  | some request => rfl

theorem asksTracker_setPhase (P : HttpPlatform Response)
    (s : HttpProtocolHandlerCore sizes Response) (phase : RequestPhase) :
    (s.setPhase phase).asksTracker P = s.asksTracker P := by
  rw [asksTracker, asksTracker, setPhase, setNetRequest]
  cases s.netRequest with
  | none => rfl
  | some request => rfl

variable {s : HttpProtocolHandlerCore sizes Response}

theorem netRequest_setPhase
    {request : NativeRequest sizes Response} (h : s.netRequest = some request)
    (phase : RequestPhase) :
    (s.setPhase phase).netRequest = some { request with phase := phase } :=
  congrArg (Option.map _) h

/-- What an event reads is what it hands over. -/
theorem loads_step (P : HttpPlatform Response) (h : Stage s) {op : Op sizes} (hpre : op.Pre s) :
    Loads (bytesUntilStop (s.readResults P op)) s (s.step P op) := by
  -- a request that changes its phase first does not wait for a read any more
  have hphase : ∀ {phase : RequestPhase}, s.phase? = some phase → phase ≠ .readPending →
      ∃ request, s.netRequest = some request ∧ request.phase ≠ .readPending := by
    intro phase hphase hne
    obtain ⟨request, hwaiting, rfl⟩ := h.waiting_of_phase hphase hne
    exact ⟨request, hwaiting.has_request, hne⟩
  cases op with
  | receivedRedirect newUrl =>
    obtain ⟨request, hrequest, hne⟩ := hphase hpre (by decide)
    simp only [step, hrequest]
    exact Loads.onReceivedRedirect hrequest hne newUrl
  | authRequired answer =>
    exact (Loads.setPhase s .authRequired).then_quiet (Loads.onAuthRequired _ answer)
  | completeAuthentication credentials => exact Loads.setNetRequest s _
  | certificateRequested =>
    obtain ⟨request, hrequest, hne⟩ := hphase hpre (by decide)
    rw [step, onCertificateRequested, cancelNetRequest_of_ne hrequest hne]
    exact Loads.stopRequestWithError s _ _
  | sslCertificateError sslInfo fatal answer =>
    obtain ⟨request, hrequest, -⟩ := hphase hpre (by decide)
    refine Loads.after_quiet (Loads.setPhase s .certificateError) ?_
    exact Loads.onSSLCertificateError P (netRequest_setPhase hrequest .certificateError) (by simp)
      sslInfo fatal answer
  | responseStarted netError answer =>
    refine Loads.after_quiet (Loads.setPhase s .responded) ?_
    cases netError with
    | none =>
      obtain ⟨request, hrequest, -⟩ := hphase hpre (by decide)
      have hread := Loads.onResponseStarted P (netRequest_setPhase hrequest .responded) (by simp)
        answer
      rw [asksTracker_setPhase, pendingReads_setPhase] at hread
      exact hread
    | some code =>
      show Loads [] (s.setPhase .responded)
        ((s.setPhase .responded).onResponseStarted P (some code) answer)
      rw [onResponseStarted]
      split
      · exact Loads.refl _
      · exact Loads.stopRequestWithError _ _ _
  | readCompleted bytesRead =>
    cases h with
    | waiting request h =>
      have hreading := hpre.1
      rw [phase?, h.has_request] at hreading
      exact absurd (Option.some.inj hreading) h.not_reading
    | reading request h =>
      have hread := Loads.onReadCompleted (netRequest_setPhase h.has_request .responded) bytesRead
      rw [readResults, pendingReads, h.has_request]
      exact (Loads.setPhase s .responded).after_quiet hread
    | stopped h => simp [Op.Pre, h.phase?] at hpre
  | streamEvent event => exact Loads.handleStreamEvent s event
  | runCallback callback carryOn =>
    cases h with
    | waiting request h =>
      have hrequest :
          ({ s with callbacks := s.callbacks.erase callback } :
            HttpProtocolHandlerCore sizes Response).netRequest = some request := h.has_request
      have hrun := Loads.runCallback P hrequest h.not_reading callback carryOn
      have herased : Loads [] s { s with callbacks := s.callbacks.erase callback } :=
        Loads.of_eq rfl rfl id
      refine herased.after_quiet ?_
      cases callback with
      | sslErrorCallback => exact hrun
      | hostStateCallback =>
        cases carryOn with
        | true => exact hrun
        | false => exact hrun
    | reading request h => simp [Op.Pre, h.no_callbacks] at hpre
    | stopped h hcalls =>
      have hstopped : Stopped { s with callbacks := s.callbacks.erase callback } :=
        ⟨h.no_request, h.no_stream⟩
      have hnone : s.pendingReads = [] := by rw [pendingReads, h.no_request]
      have hread : bytesUntilStop (s.readResults P (.runCallback callback carryOn)) = [] := by
        cases callback with
        | sslErrorCallback => rfl
        | hostStateCallback =>
          cases carryOn with
          | true => rw [readResults, hnone]; rfl
          | false => rfl
      rw [hread, step, hstopped.runCallback]
      exact Loads.of_eq rfl rfl id
  | trackerDestroyed => exact Loads.of_eq rfl rfl fun h => absurd h Bool.false_ne_true
  | cancel => exact Loads.cancel s

/-! ## The whole response -/

/-- The bytes that are read in a run, in order. -/
def received (P : HttpPlatform Response) (s : HttpProtocolHandlerCore sizes Response)
    (ops : List (Op sizes)) : NSData :=
  (((machine sizes P).observe (fun s op => [s.readResults P op])
    (fun body results => body ++ bytesUntilStop results)).run (s, []) ops).2

/-- The client got a body in blocks, and a tracker that is still there got its length. -/
structure Reassembles (s : HttpProtocolHandlerCore sizes Response) (body : NSData) : Prop where
  data : s.loadedData.flatten = body
  blocks : ∀ data ∈ s.loadedData, IsBlock sizes data
  counts : s.tracker = true → s.receivedByteCounts.sum = body.length

theorem Loads.reassembles {s t : HttpProtocolHandlerCore sizes Response} {body : NSData}
    (h : Loads body s t) (hdata : s.loadedData = []) (hcounts : s.receivedByteCounts = []) :
    Reassembles t body := by
  obtain ⟨blocks, hblocks, hflat, hsizes⟩ := h.data
  rw [hdata, nil_append] at hblocks
  refine ⟨hblocks ▸ hflat, hblocks ▸ hsizes, fun htracker => ?_⟩
  rw [(h.counts htracker).2, hcounts, sum_nil, Nat.zero_add]

theorem loads_startNetRequest (hclient : s.clientCalls = []) (htracker : s.trackerCalls = []) :
    s.startNetRequest.loadedData = [] ∧ s.startNetRequest.receivedByteCounts = [] := by
  constructor
  · rw [loadedData, startNetRequest, clientCalls_tellTracker, setPhase, clientCalls_setNetRequest,
      hclient]
    rfl
  · rw [receivedByteCounts, startNetRequest, tellTracker]
    split
    · rw [setPhase, setNetRequest, htracker]
      rfl
    · rw [setPhase, setNetRequest, htracker]
      rfl

/-- Nothing is loaded before the request is started. -/
theorem loads_start (request : NSMutableURLRequest) (lookup : TrackerLookup)
    (reply : NetworkReply sizes Response) :
    (start request lookup reply).loadedData = [] ∧
      (start request lookup reply).receivedByteCounts = [] := by
  unfold start
  dsimp only
  split
  · exact ⟨rfl, rfl⟩
  · split
    · exact ⟨rfl, rfl⟩
    · split
      · exact ⟨rfl, rfl⟩
      · split
        · exact loads_startNetRequest rfl rfl
        · exact loads_startNetRequest rfl rfl

/-- In every run after `Start`, the blocks that the client gets are the bytes that were read, and
the tracker is told of as many. Each round of the loop makes progress, and the loop ends. -/
theorem response_body_reassembled (P : HttpPlatform Response) (request : NSMutableURLRequest)
    (lookup : TrackerLookup) (reply : NetworkReply sizes Response) (ops : List (Op sizes))
    (hlegal : (machine sizes P).Legal (start request lookup reply) ops) :
    Reassembles ((machine sizes P).run (start request lookup reply) ops)
      (received P (start request lookup reply) ops) ∧
    (∀ total (block : ReadBlock sizes) reads, RoundProgresses total block reads) ∧
    ∀ bytesRead (reads : List (ReadResult sizes)) block,
      (readBlocks (reads.length + 1) ⟨0, bytesRead, reads⟩).2.last ≠ .bytes block := by
  refine ⟨?_, roundProgresses, fun bytesRead reads => readBlocks_last (.inl (Nat.lt_succ_self _))⟩
  obtain ⟨hdata, hcounts⟩ := loads_start request lookup reply
  have hloads : Loads (received P (start request lookup reply) ops) (start request lookup reply)
      ((machine sizes P).run (start request lookup reply) ops) := by
    refine Machine.run_coupled (I := Stage)
      (R := fun s body => Loads body (start request lookup reply) s)
      (fun s op h hpre => step_stage P h hpre) ?_ (stage_start request lookup reply)
      (Loads.refl _) hlegal
    intro s body op hstage hpre hbody
    exact hbody.trans (loads_step P hstage hpre)
  exact hloads.reassembles hdata hcounts

/-- What the accepted page gives: two bytes at once, and a third later. -/
theorem response_body_reassembled_accepted :
    Reassembles ((machine .source certificateErrorPlatform).run
      (start pageURLRequest .found pageReply) acceptedOps) [1, 2, 3] :=
  (response_body_reassembled certificateErrorPlatform pageURLRequest .found pageReply acceptedOps
    (by decide)).1

end HttpProtocolHandlerCore

end ChromiumIos
