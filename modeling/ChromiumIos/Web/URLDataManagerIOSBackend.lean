import ChromiumIos.Base.Ints
import ChromiumIos.Lib.Machine
import Mathlib.Data.List.Infix

/-!
# `URLDataManagerIOSBackend`

`url_data_manager_ios_backend.mm`: a job asks a data source for bytes through the backend and
hands them out by reads. The answer of the source may come before or after a read, or not at
all; a job that is killed is removed from the backend.

- `Caller`: what the reader of a job is promised, event by event.
- `completeRead_delivers_iff`: how much of the data one read gets.
- `Follows.dataAvailable`, `Follows.readRawData`: the steps of a job.
- `contract_iff`: what a run needs for every job to keep its promise.
-/

namespace ChromiumIos

open Lib List Option

namespace URLDataManager

/-- `net::ERR_IO_PENDING`. -/
def errIoPending : Int := -1

/-- `net::ERR_FAILED`. -/
def errFailed : Int := -2

abbrev Bytes := List UInt8

/-- What is seen of a job from outside. -/
inductive Event
  | startError
  | headersComplete (mimeType : String)
  /-- The data source answers the request of the job; `none` is a failure. -/
  | sent (bytes : Option Bytes)
  /-- `DCHECK(!pending_buf_.get())` fails. -/
  | stalePendingBuf
  /-- A call of `ReadRawData`, with what it returns and has copied into the buffer. -/
  | read (buf : Nat) (bufSize result : Int) (copied : Bytes)
  /-- A call of `ReadRawDataComplete`, with what was copied into which buffer for it. -/
  | readRawDataComplete (result : Int) (buf : Option Nat) (copied : Bytes)
  | killed
deriving DecidableEq, Repr

/-! ## What the reader is promised -/

/-- What the reader of a job knows. -/
structure Caller where
  /-- The answer of the source, if it came before the job was killed. -/
  data : Option (Option Bytes)
  /-- All bytes that were handed out. -/
  handed : Bytes
  /-- The read that returned `ERR_IO_PENDING` and has not been completed. -/
  waiting : Option (Nat × Int)
  killed : Bool
deriving DecidableEq, Repr

namespace Caller

def new : Caller := ⟨none, [], none, false⟩

/-- A read of `bufSize` bytes gets the bytes that come next. -/
def Delivers (c : Caller) (d : Bytes) (bufSize result : Int) (copied : Bytes) : Prop :=
  copied = (d.drop c.handed.length).take bufSize.toNat ∧ result = copied.length

instance (c : Caller) (d : Bytes) (bufSize result : Int) (copied : Bytes) :
    Decidable (c.Delivers d bufSize result copied) :=
  instDecidableAnd

def Accepts (c : Caller) : Event → Prop
  | .startError | .sent _ | .killed => True
  | .headersComplete _ => c.killed = false
  | .stalePendingBuf => False
  | .read _ bufSize result copied =>
    match c.data with
    | none => result = errIoPending ∧ copied = []
    | some none => (result = errIoPending → c.killed = true) ∧ copied = []
    | some (some d) => c.Delivers d bufSize result copied
  | .readRawDataComplete result buf copied =>
    c.killed = false ∧
      match c.waiting, c.data with
      | some (waitingBuf, bufSize), some (some d) =>
        buf = some waitingBuf ∧ c.Delivers d bufSize result copied
      | some _, some none => result = errFailed ∧ buf = none ∧ copied = []
      | _, _ => False

instance (c : Caller) : ∀ event, Decidable (c.Accepts event)
  | .startError | .sent _ | .killed => instDecidableTrue
  | .headersComplete _ => decEq _ _
  | .stalePendingBuf => instDecidableFalse
  | .read _ bufSize result copied =>
    match h : c.data with
    | none => decidable_of_iff (result = errIoPending ∧ copied = []) (by simp [Accepts, h])
    | some none =>
      decidable_of_iff ((result = errIoPending → c.killed = true) ∧ copied = [])
        (by simp [Accepts, h])
    | some (some d) =>
      decidable_of_iff (c.Delivers d bufSize result copied) (by simp [Accepts, h])
  | .readRawDataComplete result buf copied =>
    match hw : c.waiting, hd : c.data with
    | some (waitingBuf, bufSize), some (some d) =>
      decidable_of_iff
        (c.killed = false ∧ buf = some waitingBuf ∧ c.Delivers d bufSize result copied)
        (by simp [Accepts, hw, hd])
    | some _, some none =>
      decidable_of_iff (c.killed = false ∧ result = errFailed ∧ buf = none ∧ copied = [])
        (by simp [Accepts, hw, hd])
    | some _, none => isFalse (by simp [Accepts, hw, hd])
    | none, _ => isFalse (by simp [Accepts, hw])

def see (c : Caller) : Event → Caller
  | .startError | .headersComplete _ | .stalePendingBuf => c
  | .sent bytes => if c.data = none ∧ c.killed = false then { c with data := some bytes } else c
  | .read buf bufSize result copied =>
    { c with
      handed := c.handed ++ copied
      waiting := if result = errIoPending then some (buf, bufSize) else c.waiting }
  | .readRawDataComplete _ _ copied => { c with handed := c.handed ++ copied, waiting := none }
  | .killed => { c with killed := true }

end Caller

/-- The reader, as a machine that is driven by what it sees. -/
abbrev caller : Machine Caller Event := ⟨Caller.Accepts, Caller.see⟩

/-- What the reader knows after a log. -/
def seen (log : List Event) : Caller := caller.run .new log

/-- A log keeps the promise: every read and every completion is as the reader expects it, the
bytes handed out are the bytes of the data in order, and no read is left waiting once the
source has answered. -/
structure Contract (log : List Event) : Prop where
  accepted : caller.Legal .new log
  inOrder : ∀ d, (seen log).data = some (some d) → (seen log).handed <+: d
  answered : (seen log).waiting ≠ none → (seen log).data = none ∨ (seen log).killed = true

end URLDataManager

open URLDataManager

/-! ## The job -/

structure URLRequestChromeJob where
  /-- The data that is served, once it has been fetched. -/
  data : Option Bytes
  dataOffset : Nat
  pendingBuf : Option Nat
  pendingBufSize : Int
  mimeType : String
  /-- Whether `backend_` is set. -/
  backend : Bool
  /-- Whether weak pointers to the job are valid. -/
  weakPtrs : Bool
  /-- The request that the data source was given for the job. -/
  requestId : Option Nat
  log : List Event
deriving DecidableEq, Repr

namespace URLRequestChromeJob

def new : URLRequestChromeJob := ⟨none, 0, none, 0, "", false, true, none, []⟩

def add (job : URLRequestChromeJob) (event : Event) : URLRequestChromeJob :=
  { job with log := job.log ++ [event] }

/-- What `CompleteRead` returns and copies from the data at an offset. -/
def completeRead (data : Bytes) (dataOffset : Nat) (bufSize : Int) : Int × Bytes :=
  -- A `size_t` that is converted to an `int`.
  let remaining := wrapInt ((data.length - dataOffset : Nat) : Int)
  let bufSize := if bufSize > remaining then remaining else bufSize
  if bufSize > 0 then (bufSize, (data.drop dataOffset).take bufSize.toNat) else (bufSize, [])

def mimeTypeAvailable (job : URLRequestChromeJob) (mimeType : String) : URLRequestChromeJob :=
  { job with mimeType }.add (.headersComplete mimeType)

def dataAvailable (job : URLRequestChromeJob) : Option Bytes → URLRequestChromeJob
  | some bytes =>
    let job := { job with data := some bytes }
    match job.pendingBuf with
    | some buf =>
      let read := completeRead bytes job.dataOffset job.pendingBufSize
      { job with dataOffset := job.dataOffset + read.1.toNat, pendingBuf := none }.add
        (.readRawDataComplete read.1 (some buf) read.2)
    | none => job
  | none => job.add (.readRawDataComplete errFailed none [])

def readRawData (job : URLRequestChromeJob) (buf : Nat) (bufSize : Int) : URLRequestChromeJob :=
  match job.data with
  | none =>
    let job := if job.pendingBuf = none then job else job.add .stalePendingBuf
    { job with pendingBuf := some buf, pendingBufSize := bufSize }.add
      (.read buf bufSize errIoPending [])
  | some data =>
    let read := completeRead data job.dataOffset bufSize
    { job with dataOffset := job.dataOffset + read.1.toNat }.add
      (.read buf bufSize read.1 read.2)

end URLRequestChromeJob

/-! ## The backend and its jobs -/

structure URLDataManagerIOSBackend (J : Type) where
  nextRequestId : Nat
  pendingRequests : List (Nat × J)
deriving DecidableEq, Repr

namespace URLDataManagerIOSBackend

variable {J : Type} [DecidableEq J]

def removeRequest (backend : URLDataManagerIOSBackend J) (job : J) :
    URLDataManagerIOSBackend J :=
  match backend.pendingRequests.find? fun entry => entry.2 = job with
  | none => backend
  | some found =>
    { backend with
      pendingRequests := backend.pendingRequests.filter fun entry => entry.1 ≠ found.1 }

/-- The backend with all jobs. -/
structure World (J : Type) where
  backend : URLDataManagerIOSBackend J
  jobs : J → URLRequestChromeJob

inductive Op (J : Type)
  /-- `Start`; `serviced` is whether the URL is valid and has a source that services it. -/
  | start (job : J) (serviced : Bool)
  /-- The task that `GetMimeTypeOnUI` posts. -/
  | mimeTypeAvailable (job : J) (mimeType : String)
  | dataAvailable (requestId : Nat) (bytes : Option Bytes)
  | readRawData (job : J) (buf : Nat) (bufSize : Int)
  | kill (job : J)

namespace World

def update (w : World J) (job : J) (f : URLRequestChromeJob → URLRequestChromeJob) : World J :=
  { w with jobs := Function.update w.jobs job (f (w.jobs job)) }

variable (w : World J)

def start (job : J) (serviced : Bool) : World J :=
  if serviced then
    let requestId := w.backend.nextRequestId
    { w with
      backend := {
        nextRequestId := requestId + 1
        pendingRequests := w.backend.pendingRequests ++ [(requestId, job)] } }.update job
      fun job => { job with backend := true, requestId := some requestId }
  else
    w.update job fun job => { job with backend := true }.add .startError

def mimeTypeAvailable (w : World J) (job : J) (mimeType : String) : World J :=
  -- The task is bound to a weak pointer.
  if (w.jobs job).weakPtrs then w.update job fun job => job.mimeTypeAvailable mimeType else w

/-- The source answers a request, pending or not. -/
def send (requestId : Nat) (bytes : Option Bytes) : World J :=
  { w with jobs := fun job =>
      if (w.jobs job).requestId = some requestId then (w.jobs job).add (.sent bytes)
      else w.jobs job }

def dataAvailable (w : World J) (requestId : Nat) (bytes : Option Bytes) : World J :=
  let w := w.send requestId bytes
  match w.backend.pendingRequests.find? fun entry => entry.1 = requestId with
  | none => w
  | some (_, job) =>
    let pendingRequests := w.backend.pendingRequests.filter fun entry => entry.1 ≠ requestId
    { w with backend := { w.backend with pendingRequests } }.update job
      fun job => job.dataAvailable bytes

def kill (job : J) : World J :=
  { w with
    backend := if (w.jobs job).backend then w.backend.removeRequest job else w.backend }.update
    job fun job => { job with weakPtrs := false }.add .killed

def step : Op J → World J
  | .start job serviced => w.start job serviced
  | .mimeTypeAvailable job mimeType => w.mimeTypeAvailable job mimeType
  | .dataAvailable requestId bytes => w.dataAvailable requestId bytes
  | .readRawData job buf bufSize => w.update job fun job => job.readRawData buf bufSize
  | .kill job => w.kill job

/-- A job is started once, and its request ID is an `int`; reads are for at least one byte, and one
at a time. -/
def Pre : Op J → Prop
  | .start job serviced =>
    (w.jobs job).backend = false ∧ (serviced = true → w.backend.nextRequestId < intMax)
  | .mimeTypeAvailable job _ => (w.jobs job).requestId ≠ none
  | .dataAvailable _ _ => True
  | .readRawData job _ bufSize =>
    (w.jobs job).requestId ≠ none ∧ (seen (w.jobs job).log).waiting = none ∧
      0 < bufSize ∧ bufSize ≤ intMax
  | .kill job => (w.jobs job).backend = true

/-- No job yet. -/
def new : World J := ⟨⟨0, []⟩, fun _ => .new⟩

end World

abbrev machine (J : Type) [DecidableEq J] : Machine (World J) (Op J) := ⟨World.Pre, World.step⟩

/-! ## How much one read gets -/

end URLDataManagerIOSBackend

namespace URLRequestChromeJob

/-- The rest of the data is counted right, or is still enough for the read. -/
def Whole (data : Bytes) (dataOffset : Nat) (bufSize : Int) : Prop :=
  ((data.length - dataOffset : Nat) : Int) ≤ intMax ∨
    bufSize ≤ wrapInt ((data.length - dataOffset : Nat) : Int)

instance (data : Bytes) (dataOffset : Nat) (bufSize : Int) :
    Decidable (Whole data dataOffset bufSize) :=
  instDecidableOr

/-- A read that is for less than what is left. -/
theorem completeRead_of_le {data : Bytes} {dataOffset : Nat} {bufSize : Int} (hpos : 0 < bufSize)
    (hle : bufSize ≤ wrapInt ((data.length - dataOffset : Nat) : Int)) :
    completeRead data dataOffset bufSize =
      (bufSize, (data.drop dataOffset).take bufSize.toNat) := by
  rw [completeRead]
  rw [if_neg (Int.not_lt.2 hle), if_pos hpos]

/-- A read that gets all that is left. -/
theorem completeRead_of_lt {data : Bytes} {dataOffset : Nat} {bufSize : Int}
    (hrest : ((data.length - dataOffset : Nat) : Int) ≤ intMax)
    (hlt : ((data.length - dataOffset : Nat) : Int) < bufSize) :
    completeRead data dataOffset bufSize =
      (((data.length - dataOffset : Nat) : Int), data.drop dataOffset) := by
  have hwrap : wrapInt ((data.length - dataOffset : Nat) : Int) =
      (data.length - dataOffset : Nat) :=
    wrapInt_of_index (Int.le_trans (by decide) (Int.natCast_nonneg _)) hrest
  rw [completeRead]
  rw [hwrap, if_pos hlt]
  by_cases hpos : ((data.length - dataOffset : Nat) : Int) > 0
  · rw [if_pos hpos, Int.toNat_natCast, ← length_drop, take_length]
  · have hnone : (data.drop dataOffset).length = 0 := by
      rw [length_drop]
      omega
    rw [if_neg hpos, length_eq_zero_iff.1 hnone]

/-- A read gets the bytes that come next exactly if the rest is counted right. -/
theorem completeRead_delivers_iff (c : Caller) (data : Bytes) {bufSize : Int} (hpos : 0 < bufSize)
    (hmax : bufSize ≤ intMax) :
    c.Delivers data bufSize (completeRead data c.handed.length bufSize).1
        (completeRead data c.handed.length bufSize).2 ↔
      Whole data c.handed.length bufSize := by
  have hwrap := wrapInt_natCast_le (data.length - c.handed.length)
  have hlength : ((data.drop c.handed.length).take bufSize.toNat).length =
      min bufSize.toNat (data.length - c.handed.length) := by
    rw [length_take, length_drop]
  by_cases hle : bufSize ≤ wrapInt ((data.length - c.handed.length : Nat) : Int)
  · rw [completeRead_of_le hpos hle]
    refine iff_of_true ⟨rfl, ?_⟩ (.inr hle)
    rw [hlength]
    omega
  · by_cases hrest : ((data.length - c.handed.length : Nat) : Int) ≤ intMax
    · have heq : wrapInt ((data.length - c.handed.length : Nat) : Int) =
          (data.length - c.handed.length : Nat) :=
        wrapInt_of_index (Int.le_trans (by decide) (Int.natCast_nonneg _)) hrest
      have hlt : ((data.length - c.handed.length : Nat) : Int) < bufSize := by
        rw [← heq]
        exact Int.not_le.1 hle
      rw [completeRead_of_lt hrest hlt]
      refine iff_of_true ⟨?_, ?_⟩ (.inl hrest)
      · refine (take_of_length_le ?_).symm
        rw [length_drop]
        omega
      · rw [length_drop]
    · -- The rest is too long for an `int`: fewer bytes are counted than the read asks for.
      refine iff_of_false ?_ (not_or.2 ⟨hrest, hle⟩)
      rintro ⟨hcopied, hresult⟩
      have hgt : bufSize > wrapInt ((data.length - c.handed.length : Nat) : Int) :=
        Int.not_le.1 hle
      have hrv : (completeRead data c.handed.length bufSize).1 =
          wrapInt ((data.length - c.handed.length : Nat) : Int) := by
        rw [completeRead, if_pos hgt]
        generalize wrapInt ((data.length - c.handed.length : Nat) : Int) = remaining
        split <;> rfl
      have hcount : wrapInt ((data.length - c.handed.length : Nat) : Int) =
          (min bufSize.toNat (data.length - c.handed.length) : Nat) := by
        rw [← hlength, ← hcopied, ← hrv]
        exact hresult
      omega

end URLRequestChromeJob

namespace URLDataManager

/-! ## Logs -/

theorem seen_append (log : List Event) (event : Event) :
    seen (log ++ [event]) = (seen log).see event :=
  Machine.run_append (M := caller) .new log [event]

theorem legal_append {log : List Event} {event : Event} :
    caller.Legal .new (log ++ [event]) ↔ caller.Legal .new log ∧ (seen log).Accepts event := by
  refine Machine.along_append.trans (and_congr_right fun _ => ?_)
  exact and_iff_left trivial

end URLDataManager

namespace URLRequestChromeJob

variable {job : URLRequestChromeJob}

/-- The job is in step with what its reader knows. -/
structure Follows (job : URLRequestChromeJob) : Prop where
  accepted : caller.Legal .new job.log
  weakPtrs : job.weakPtrs = !(seen job.log).killed
  data : job.data = (seen job.log).data.join
  offset : job.dataOffset = (seen job.log).handed.length
  inOrder : (seen job.log).handed <+: job.data.getD []
  waiting : ∀ buf bufSize, (seen job.log).waiting = some (buf, bufSize) →
    job.pendingBuf = some buf ∧ job.pendingBufSize = bufSize ∧ 0 < bufSize ∧ bufSize ≤ intMax
  /-- A buffer that is kept is waited for, or is left over from a failure. -/
  pendingBuf : job.pendingBuf ≠ none → (seen job.log).waiting ≠ none ∨
    (seen job.log).data = some none
  failed : (seen job.log).data = some none → job.pendingBuf ≠ none
  answered : (seen job.log).waiting ≠ none → (seen job.log).data = none ∨
    (seen job.log).killed = true

theorem Follows.contract (h : Follows job) : Contract job.log := by
  refine ⟨h.accepted, fun d hd => ?_, h.answered⟩
  have hprefix := h.inOrder
  rw [h.data, hd] at hprefix
  exact hprefix

theorem follows_new : Follows new :=
  ⟨trivial, rfl, rfl, rfl, nil_prefix, fun _ _ hwaiting => (nomatch hwaiting),
    fun hbuf => absurd rfl hbuf, fun hdata => (nomatch hdata), fun hwaiting => absurd rfl hwaiting⟩

/-- An event that changes nothing the reader knows. -/
theorem Follows.add (h : Follows job) {event : Event} (haccepts : (seen job.log).Accepts event)
    (hsee : (seen job.log).see event = seen job.log) : Follows (job.add event) := by
  have hseen : seen (job.add event).log = seen job.log := (seen_append _ _).trans hsee
  constructor
  · exact legal_append.2 ⟨h.accepted, haccepts⟩
  all_goals rw [hseen]
  · exact h.weakPtrs
  · exact h.data
  · exact h.offset
  · exact h.inOrder
  · exact h.waiting
  · exact h.pendingBuf
  · exact h.failed
  · exact h.answered

/-- The answer of the source to a request that is no longer pending. -/
theorem Follows.sent_late (h : Follows job) (bytes : Option Bytes)
    (hlate : ¬((seen job.log).data = none ∧ (seen job.log).killed = false)) :
    Follows (job.add (.sent bytes)) :=
  h.add trivial (if_neg hlate)

theorem Follows.mimeTypeAvailable (h : Follows job) (hweak : job.weakPtrs = true)
    (mimeType : String) : Follows (job.mimeTypeAvailable mimeType) := by
  have hkilled : (seen job.log).killed = false := by
    rw [h.weakPtrs] at hweak
    simpa using hweak
  have hset : Follows { job with mimeType } :=
    ⟨h.accepted, h.weakPtrs, h.data, h.offset, h.inOrder, h.waiting, h.pendingBuf, h.failed,
      h.answered⟩
  exact hset.add hkilled rfl

theorem Follows.kill (h : Follows job) :
    Follows ({ job with weakPtrs := false }.add .killed) := by
  have hseen : seen ({ job with weakPtrs := false }.add .killed).log =
      { seen job.log with killed := true } := seen_append _ _
  constructor
  · exact legal_append.2 ⟨h.accepted, trivial⟩
  all_goals rw [hseen]
  · rfl
  · exact h.data
  · exact h.offset
  · exact h.inOrder
  · exact h.waiting
  · exact h.pendingBuf
  · exact h.failed
  · exact fun _ => .inr rfl

/-! ### The answer of the source -/

theorem Follows.handed_nil (h : Follows job) (hdata : job.data = none) :
    (seen job.log).handed = [] := by
  have hprefix := h.inOrder
  rw [hdata] at hprefix
  exact prefix_nil.1 hprefix

/-- What the job needs of the answer to its pending request: a failure comes while a read is
waiting, and data is not too long for the read that is waiting. -/
def AnsweredWell (job : URLRequestChromeJob) : Option Bytes → Prop
  | none => job.pendingBuf ≠ none
  | some bytes => job.pendingBuf ≠ none → Whole bytes 0 job.pendingBufSize

instance (job : URLRequestChromeJob) : ∀ bytes, Decidable (job.AnsweredWell bytes)
  | none => instDecidableNot
  | some _ => instDecidableForall

/-- The reader when its data is completed: what was handed out, and what comes next. -/
theorem prefix_append_deliver {handed d : Bytes} (h : handed <+: d) (n : Nat) :
    handed ++ (d.drop handed.length).take n <+: d := by
  obtain ⟨rest, rfl⟩ := h
  rw [drop_left]
  exact (prefix_append_right_inj _).2 (List.take_prefix _ _)

theorem seen_sent (bytes : Option Bytes) (hdata : (seen job.log).data = none)
    (hkilled : (seen job.log).killed = false) :
    seen (job.add (.sent bytes)).log = { seen job.log with data := some bytes } :=
  (seen_append _ _).trans (if_pos ⟨hdata, hkilled⟩)

/-- **The answer**: the job stays in step with its reader if it is answered well. -/
theorem Follows.dataAvailable (h : Follows job) {bytes : Option Bytes}
    (hdata : (seen job.log).data = none) (hkilled : (seen job.log).killed = false)
    (hwell : job.AnsweredWell bytes) : Follows ((job.add (.sent bytes)).dataAvailable bytes) := by
  have hjob : job.data = none := by rw [h.data, hdata, join_none]
  have hnil := h.handed_nil hjob
  have hsent := seen_sent bytes hdata hkilled
  have hlegal : caller.Legal .new (job.add (.sent bytes)).log :=
    legal_append.2 ⟨h.accepted, trivial⟩
  have hwaits : job.pendingBuf ≠ none → (seen job.log).waiting ≠ none := fun hbuf =>
    (h.pendingBuf hbuf).resolve_right (by rw [hdata]; exact nofun)
  cases bytes with
  | none =>
    -- The read fails; its buffer is kept.
    obtain ⟨⟨buf, bufSize⟩, hwaiting⟩ := ne_none_iff_exists'.1 (hwaits hwell)
    have hseen : seen ((job.add (.sent none)).dataAvailable none).log =
        { seen job.log with data := some none, waiting := none } := by
      refine (seen_append _ _).trans ?_
      rw [hsent, Caller.see, append_nil]
    constructor
    · refine legal_append.2 ⟨hlegal, ?_⟩
      rw [hsent, Caller.Accepts, hwaiting]
      exact ⟨hkilled, rfl, rfl, rfl⟩
    all_goals rw [hseen]
    · exact h.weakPtrs
    · exact hjob
    · exact h.offset
    · exact h.inOrder
    · exact fun _ _ hnone => (nomatch hnone)
    · exact fun _ => .inr rfl
    · exact fun _ => hwell
    · exact fun hnone => absurd rfl hnone
  | some d =>
    cases hbuf : job.pendingBuf with
    | none =>
      -- No read is waiting: the data is there for the reads to come.
      have hidle : (seen job.log).waiting = none := by
        cases hwaiting : (seen job.log).waiting with
        | none => rfl
        | some read =>
          have hsome := (h.waiting read.1 read.2 hwaiting).1
          rw [hbuf] at hsome
          cases hsome
      have hanswer : (job.add (.sent (some d))).dataAvailable (some d) =
          { job.add (.sent (some d)) with data := some d } := by
        simp [URLRequestChromeJob.dataAvailable, URLRequestChromeJob.add, hbuf]
      rw [hanswer]
      constructor
      · exact hlegal
      all_goals
        show _
        dsimp only
        rw [hsent]
      · exact h.weakPtrs
      · rfl
      · exact h.offset
      · rw [hnil]
        exact nil_prefix
      · intro buf bufSize hwaiting
        rw [hidle] at hwaiting
        cases hwaiting
      · exact fun hsome => absurd hbuf hsome
      · exact fun hfailed => (nomatch hfailed)
      · exact fun hwaiting => absurd hidle hwaiting
    | some buf =>
      -- The waiting read is completed.
      obtain ⟨⟨waitingBuf, bufSize⟩, hwaiting⟩ := ne_none_iff_exists'.1
        (hwaits (by rw [hbuf]; exact nofun))
      obtain ⟨hwaitingBuf, hsize, hpos, hmax⟩ := h.waiting waitingBuf bufSize hwaiting
      obtain rfl : buf = waitingBuf := some.inj (hbuf.symm.trans hwaitingBuf)
      have hwhole : Whole d (seen job.log).handed.length bufSize := by
        rw [hnil, ← hsize]
        exact hwell (by rw [hbuf]; exact nofun)
      have hdelivers := (completeRead_delivers_iff (seen job.log) d hpos hmax).2 hwhole
      generalize hread : completeRead d (seen job.log).handed.length bufSize = read at hdelivers
      obtain ⟨hcopied, hresult⟩ := hdelivers
      have hanswer : (job.add (.sent (some d))).dataAvailable (some d) =
          { job.add (.sent (some d)) with
            data := some d, dataOffset := job.dataOffset + read.1.toNat, pendingBuf := none }.add
            (.readRawDataComplete read.1 (some buf) read.2) := by
        rw [← hread, ← h.offset, ← hsize]
        simp [URLRequestChromeJob.dataAvailable, URLRequestChromeJob.add, hbuf]
      have hseen : seen ((job.add (.sent (some d))).dataAvailable (some d)).log =
          { seen job.log with
            data := some (some d)
            handed := (seen job.log).handed ++ read.2
            waiting := none } := by
        rw [hanswer]
        refine (seen_append _ _).trans ?_
        rw [show seen _ = _ from hsent]
        rfl
      constructor
      · rw [hanswer]
        refine legal_append.2 ⟨hlegal, ?_⟩
        rw [show seen _ = _ from hsent, Caller.Accepts, hwaiting]
        exact ⟨hkilled, rfl, hcopied, hresult⟩
      all_goals rw [hseen]
      · rw [hanswer]
        exact h.weakPtrs
      · rw [hanswer]
        rfl
      · rw [hanswer]
        show job.dataOffset + read.1.toNat = _
        rw [h.offset, hresult, length_append, Int.toNat_natCast]
      · rw [hanswer, hcopied]
        refine prefix_append_deliver ?_ _
        rw [hnil]
        exact nil_prefix
      · exact fun _ _ hnone => (nomatch hnone)
      · rw [hanswer]
        exact fun hnone => absurd rfl hnone
      · exact fun hfailed => (nomatch hfailed)
      · exact fun hnone => absurd rfl hnone

theorem Follows.not_contract_dataAvailable (h : Follows job) {bytes : Option Bytes}
    (hdata : (seen job.log).data = none) (hkilled : (seen job.log).killed = false)
    (hbad : ¬job.AnsweredWell bytes) :
    ¬Contract ((job.add (.sent bytes)).dataAvailable bytes).log := by
  intro hcontract
  have hjob : job.data = none := by rw [h.data, hdata, join_none]
  have hsent := seen_sent bytes hdata hkilled
  cases bytes with
  | none =>
    -- A read is completed that nobody has made.
    have hidle : (seen job.log).waiting = none := by
      cases hwaiting : (seen job.log).waiting with
      | none => rfl
      | some read =>
        have hsome := (h.waiting read.1 read.2 hwaiting).1
        have hbuf : job.pendingBuf ≠ none := by
          rw [hsome]
          exact nofun
        exact absurd hbuf hbad
    have haccepts := (legal_append.1 hcontract.accepted).2
    rw [hsent, Caller.Accepts, hidle] at haccepts
    exact haccepts.2
  | some d =>
    obtain ⟨hbuf, hpart⟩ := Classical.not_imp.1 hbad
    obtain ⟨buf, hbuf⟩ := ne_none_iff_exists'.1 hbuf
    have hwaits : (seen job.log).waiting ≠ none :=
      (h.pendingBuf (by rw [hbuf]; exact nofun)).resolve_right (by rw [hdata]; exact nofun)
    obtain ⟨⟨waitingBuf, bufSize⟩, hwaiting⟩ := ne_none_iff_exists'.1 hwaits
    obtain ⟨-, hsize, hpos, hmax⟩ := h.waiting waitingBuf bufSize hwaiting
    have hanswer : ((job.add (.sent (some d))).dataAvailable (some d)).log =
        (job.add (.sent (some d))).log ++
          [.readRawDataComplete (completeRead d job.dataOffset job.pendingBufSize).1 (some buf)
            (completeRead d job.dataOffset job.pendingBufSize).2] := by
      simp [URLRequestChromeJob.dataAvailable, URLRequestChromeJob.add, hbuf]
    have hlegal := hcontract.accepted
    rw [hanswer] at hlegal
    have haccepts := (legal_append.1 hlegal).2
    rw [hsent, Caller.Accepts, hwaiting, h.offset, hsize] at haccepts
    have hwhole := (completeRead_delivers_iff (seen job.log) d hpos hmax).1 haccepts.2.2
    rw [h.handed_nil hjob, ← hsize] at hwhole
    exact hpart hwhole

/-! ### Reads -/

/-- What the job needs of a read: the source has not failed, and what is left is not too long
for the read. -/
def ReadsWell (job : URLRequestChromeJob) (bufSize : Int) : Prop :=
  (seen job.log).data ≠ some none ∧
    Whole (job.data.getD []) job.dataOffset bufSize

instance (job : URLRequestChromeJob) (bufSize : Int) : Decidable (job.ReadsWell bufSize) :=
  instDecidableAnd

/-- **A read**: the job stays in step with its reader if the read is well. -/
theorem Follows.readRawData (h : Follows job) (buf : Nat) {bufSize : Int}
    (hidle : (seen job.log).waiting = none) (hpos : 0 < bufSize) (hmax : bufSize ≤ intMax)
    (hwell : job.ReadsWell bufSize) : Follows (job.readRawData buf bufSize) := by
  have hbuf : job.pendingBuf = none := by
    by_contra hsome
    exact (h.pendingBuf hsome).elim (fun hwaiting => hwaiting hidle) hwell.1
  cases hjob : job.data with
  | none =>
    have hdata : (seen job.log).data = none := by
      have hjoin := h.data
      rw [hjob] at hjoin
      exact (join_eq_none_iff.1 hjoin.symm).resolve_right hwell.1
    have hread : job.readRawData buf bufSize =
        { job with pendingBuf := some buf, pendingBufSize := bufSize }.add
          (.read buf bufSize errIoPending []) := by
      unfold URLRequestChromeJob.readRawData
      split
      · rw [if_pos hbuf]
      · next hd =>
        rw [hjob] at hd
        cases hd
    have hseen : seen (job.readRawData buf bufSize).log =
        { seen job.log with waiting := some (buf, bufSize) } := by
      rw [hread]
      refine (seen_append _ _).trans ?_
      rw [Caller.see, append_nil, if_pos rfl]
    rw [hread] at hseen ⊢
    constructor
    · refine legal_append.2 ⟨h.accepted, ?_⟩
      show (seen job.log).Accepts _
      rw [Caller.Accepts, hdata]
      exact ⟨rfl, rfl⟩
    all_goals rw [hseen]
    · exact h.weakPtrs
    · exact h.data
    · exact h.offset
    · exact h.inOrder
    · intro waitingBuf waitingSize hwaiting
      obtain ⟨rfl, rfl⟩ := Prod.mk.inj (some.inj hwaiting)
      exact ⟨rfl, rfl, hpos, hmax⟩
    · exact fun _ => .inl nofun
    · exact fun hfailed => absurd hfailed hwell.1
    · exact fun _ => .inl hdata
  | some d =>
    have hdata : (seen job.log).data = some (some d) := by
      have hjoin := h.data
      rw [hjob] at hjoin
      exact join_eq_some_iff.1 hjoin.symm
    have hwhole : Whole d (seen job.log).handed.length bufSize := by
      have hrest := hwell.2
      rwa [hjob, h.offset] at hrest
    have hdelivers := (completeRead_delivers_iff (seen job.log) d hpos hmax).2 hwhole
    generalize hcomplete : completeRead d (seen job.log).handed.length bufSize = read at hdelivers
    obtain ⟨hcopied, hresult⟩ := hdelivers
    have hread : job.readRawData buf bufSize =
        { job with dataOffset := job.dataOffset + read.1.toNat }.add
          (.read buf bufSize read.1 read.2) := by
      unfold URLRequestChromeJob.readRawData
      split
      · next hd =>
        rw [hjob] at hd
        cases hd
      · next data hd =>
        obtain rfl : d = data := some.inj (hjob.symm.trans hd)
        rw [h.offset, hcomplete]
    have hseen : seen (job.readRawData buf bufSize).log =
        { seen job.log with handed := (seen job.log).handed ++ read.2 } := by
      rw [hread]
      refine (seen_append _ _).trans ?_
      have hcount : read.1 ≠ errIoPending := by
        rw [hresult]
        exact fun heq => absurd (Int.natCast_nonneg read.2.length) (heq ▸ by decide)
      rw [Caller.see, if_neg hcount]
    rw [hread] at hseen ⊢
    constructor
    · refine legal_append.2 ⟨h.accepted, ?_⟩
      show (seen job.log).Accepts _
      rw [Caller.Accepts, hdata]
      exact ⟨hcopied, hresult⟩
    all_goals rw [hseen]
    · exact h.weakPtrs
    · exact h.data
    · show job.dataOffset + read.1.toNat = _
      rw [h.offset, hresult, length_append, Int.toNat_natCast]
    · show _ <+: job.data.getD []
      have hprefix := h.inOrder
      rw [hjob] at hprefix
      rw [hjob, hcopied]
      exact prefix_append_deliver hprefix _
    · exact h.waiting
    · exact h.pendingBuf
    · exact h.failed
    · exact h.answered

theorem Follows.not_contract_readRawData (h : Follows job) (buf : Nat) {bufSize : Int}
    (hpos : 0 < bufSize) (hmax : bufSize ≤ intMax) (hbad : ¬job.ReadsWell bufSize) :
    ¬Contract (job.readRawData buf bufSize).log := by
  intro hcontract
  by_cases hfailed : (seen job.log).data = some none
  · -- The buffer of the read that failed is still there.
    have hjob : job.data = none := by rw [h.data, hfailed, join_some]
    have hlegal := hcontract.accepted
    rw [URLRequestChromeJob.readRawData, hjob] at hlegal
    dsimp only at hlegal
    rw [if_neg (h.failed hfailed)] at hlegal
    exact (legal_append.1 (legal_append.1 hlegal).1).2
  · have hpart : ¬Whole (job.data.getD []) job.dataOffset bufSize :=
      fun hwhole => hbad ⟨hfailed, hwhole⟩
    cases hjob : job.data with
    | none =>
      rw [hjob] at hpart
      exact hpart (.inl (by simp [intMax]))
    | some d =>
      have hdata : (seen job.log).data = some (some d) := by
        have hjoin := h.data
        rw [hjob] at hjoin
        exact join_eq_some_iff.1 hjoin.symm
      have hlegal := hcontract.accepted
      rw [URLRequestChromeJob.readRawData, hjob] at hlegal
      have haccepts : (seen job.log).Accepts _ := (legal_append.1 hlegal).2
      rw [Caller.Accepts, hdata, h.offset] at haccepts
      rw [hjob, h.offset] at hpart
      exact hpart ((completeRead_delivers_iff (seen job.log) d hpos hmax).1 haccepts)

/-- What neither a read nor an answer that is passed on changes. -/
structure Kept (job job' : URLRequestChromeJob) : Prop where
  requestId : job'.requestId = job.requestId
  backend : job'.backend = job.backend
  data : (seen job'.log).data = (seen job.log).data
  killed : (seen job'.log).killed = (seen job.log).killed

theorem readRawData_kept (job : URLRequestChromeJob) (buf : Nat) (bufSize : Int) :
    Kept job (job.readRawData buf bufSize) := by
  have hread : ∀ log result copied,
      (seen (log ++ [.read buf bufSize result copied])).data = (seen log).data ∧
        (seen (log ++ [.read buf bufSize result copied])).killed = (seen log).killed := by
    intro log result copied
    rw [seen_append]
    exact ⟨rfl, rfl⟩
  unfold URLRequestChromeJob.readRawData
  split
  · split
    · exact ⟨rfl, rfl, (hread _ _ _).1, (hread _ _ _).2⟩
    · have hstale : seen (job.add .stalePendingBuf).log = seen job.log := seen_append _ _
      exact ⟨rfl, rfl, (hread _ _ _).1.trans (by rw [hstale]),
        (hread _ _ _).2.trans (by rw [hstale])⟩
  · exact ⟨rfl, rfl, (hread _ _ _).1, (hread _ _ _).2⟩

theorem dataAvailable_kept (job : URLRequestChromeJob) (bytes : Option Bytes) :
    Kept job (job.dataAvailable bytes) := by
  have hcomplete : ∀ log result buf copied,
      (seen (log ++ [.readRawDataComplete result buf copied])).data = (seen log).data ∧
        (seen (log ++ [.readRawDataComplete result buf copied])).killed = (seen log).killed := by
    intro log result buf copied
    rw [seen_append]
    exact ⟨rfl, rfl⟩
  cases bytes with
  | none => exact ⟨rfl, rfl, (hcomplete _ _ _ _).1, (hcomplete _ _ _ _).2⟩
  | some d =>
    unfold URLRequestChromeJob.dataAvailable
    dsimp only
    split
    · exact ⟨rfl, rfl, (hcomplete _ _ _ _).1, (hcomplete _ _ _ _).2⟩
    · exact ⟨rfl, rfl, rfl, rfl⟩

end URLRequestChromeJob

/-! ## All jobs -/

namespace URLDataManagerIOSBackend

variable {J : Type} [DecidableEq J]

namespace World

variable {w : World J}

@[simp] theorem jobs_update_self (w : World J) (job : J)
    (f : URLRequestChromeJob → URLRequestChromeJob) :
    (w.update job f).jobs job = f (w.jobs job) :=
  Function.update_self _ _ _

theorem jobs_update_of_ne (w : World J) {job other : J} (hne : other ≠ job)
    (f : URLRequestChromeJob → URLRequestChromeJob) :
    (w.update job f).jobs other = w.jobs other :=
  Function.update_of_ne hne _ _

/-- What the backend has of its jobs. -/
structure Inv (w : World J) : Prop where
  follows : ∀ job, (w.jobs job).Follows
  /-- A request is pending as long as the reader of its job knows no answer and is not gone. -/
  pending : ∀ requestId job, (requestId, job) ∈ w.backend.pendingRequests ↔
    (w.jobs job).requestId = some requestId ∧ (seen (w.jobs job).log).data = none ∧
      (seen (w.jobs job).log).killed = false
  fresh : ∀ job requestId, (w.jobs job).requestId = some requestId →
    requestId < w.backend.nextRequestId
  distinct : ∀ job other requestId, (w.jobs job).requestId = some requestId →
    (w.jobs other).requestId = some requestId → job = other
  /-- A job that has not been started has not been seen. -/
  unstarted : ∀ job, (w.jobs job).backend = false →
    (w.jobs job).requestId = none ∧ seen (w.jobs job).log = .new

omit [DecidableEq J] in
theorem inv_new : (new : World J).Inv where
  follows _ := URLRequestChromeJob.follows_new
  pending _ _ := iff_of_false (fun h => nomatch h) fun h => nomatch h.1
  fresh _ _ h := nomatch h
  distinct _ _ _ h := nomatch h
  unstarted _ _ := ⟨rfl, rfl⟩

/-- What has to be shown of a step that changes one job. -/
theorem Inv.change (h : w.Inv) {w' : World J} (job : J)
    (hother : ∀ other, other ≠ job → w'.jobs other = w.jobs other)
    (hfollows : (w'.jobs job).Follows)
    (hothers : ∀ requestId other, other ≠ job →
      ((requestId, other) ∈ w'.backend.pendingRequests ↔
        (requestId, other) ∈ w.backend.pendingRequests))
    (hpending : ∀ requestId, (requestId, job) ∈ w'.backend.pendingRequests ↔
      (w'.jobs job).requestId = some requestId ∧ (seen (w'.jobs job).log).data = none ∧
        (seen (w'.jobs job).log).killed = false)
    (hnext : w.backend.nextRequestId ≤ w'.backend.nextRequestId)
    (hrequest : (w'.jobs job).requestId = (w.jobs job).requestId ∨
      (w'.jobs job).requestId = some w.backend.nextRequestId ∧
        w.backend.nextRequestId < w'.backend.nextRequestId)
    (hstarted : (w'.jobs job).backend = true) : w'.Inv := by
  have hfresh : ∀ requestId, (w'.jobs job).requestId = some requestId →
      requestId < w'.backend.nextRequestId := by
    intro requestId hid
    rcases hrequest with hold | ⟨hnew, hlt⟩
    · exact Nat.lt_of_lt_of_le (h.fresh job requestId (hold ▸ hid)) hnext
    · exact some.inj (hnew.symm.trans hid) ▸ hlt
  have hdistinct : ∀ requestId other, other ≠ job → (w'.jobs job).requestId = some requestId →
      (w.jobs other).requestId ≠ some requestId := by
    intro requestId other hne hid hotherId
    rcases hrequest with hold | ⟨hnew, -⟩
    · exact hne (h.distinct other job requestId hotherId (hold ▸ hid))
    · obtain rfl := some.inj (hnew.symm.trans hid)
      exact Nat.lt_irrefl _ (h.fresh other _ hotherId)
  constructor
  · intro other
    by_cases heq : other = job
    · exact heq ▸ hfollows
    · rw [hother other heq]
      exact h.follows other
  · intro requestId other
    by_cases heq : other = job
    · exact heq ▸ hpending requestId
    · rw [hother other heq]
      exact (hothers requestId other heq).trans (h.pending requestId other)
  · intro other requestId hid
    by_cases heq : other = job
    · exact hfresh requestId (heq ▸ hid)
    · rw [hother other heq] at hid
      exact Nat.lt_of_lt_of_le (h.fresh other requestId hid) hnext
  · intro other another requestId hid hanother
    by_cases heq : other = job
    · by_cases hanotherEq : another = job
      · exact heq.trans hanotherEq.symm
      · rw [heq] at hid
        rw [hother another hanotherEq] at hanother
        exact absurd hanother (hdistinct requestId another hanotherEq hid)
    · by_cases hanotherEq : another = job
      · rw [hanotherEq] at hanother
        rw [hother other heq] at hid
        exact absurd hid (hdistinct requestId other heq hanother)
      · rw [hother other heq] at hid
        rw [hother another hanotherEq] at hanother
        exact h.distinct other another requestId hid hanother
  · intro other hbackend
    by_cases heq : other = job
    · rw [heq, hstarted] at hbackend
      cases hbackend
    · rw [hother other heq] at hbackend ⊢
      exact h.unstarted other hbackend

/-- A step of a started job that is neither an answer nor the end. -/
theorem Inv.update (h : w.Inv) {job : J} {f : URLRequestChromeJob → URLRequestChromeJob}
    (hfollows : (f (w.jobs job)).Follows)
    (hrequest : (f (w.jobs job)).requestId = (w.jobs job).requestId)
    (hbackend : (f (w.jobs job)).backend = true)
    (hdata : (seen (f (w.jobs job)).log).data = (seen (w.jobs job).log).data)
    (hkilled : (seen (f (w.jobs job)).log).killed = (seen (w.jobs job).log).killed) :
    (w.update job f).Inv := by
  have hself := jobs_update_self w job f
  refine h.change job (fun other hne => jobs_update_of_ne w hne f) ?_ (fun _ _ _ => Iff.rfl)
    (fun requestId => ?_) (Nat.le_refl _) (.inl ?_) ?_
  all_goals rw [hself]
  · exact hfollows
  · rw [hrequest, hdata, hkilled]
    exact h.pending requestId job
  · exact hrequest
  · exact hbackend

omit [DecidableEq J] in
theorem Inv.backend_of_requestId (h : w.Inv) {job : J}
    (hrequest : (w.jobs job).requestId ≠ none) : (w.jobs job).backend = true := by
  cases hbackend : (w.jobs job).backend with
  | false => exact absurd (h.unstarted job hbackend).1 hrequest
  | true => rfl

/-! ### Start and end -/

theorem Inv.start (h : w.Inv) {job : J} (hpre : (w.jobs job).backend = false) (serviced : Bool) :
    (w.start job serviced).Inv := by
  obtain ⟨hnone, hseen⟩ := h.unstarted job hpre
  have hjob := h.follows job
  have hnot : ∀ requestId, (requestId, job) ∉ w.backend.pendingRequests := by
    intro requestId hmem
    have hid := ((h.pending requestId job).1 hmem).1
    rw [hnone] at hid
    cases hid
  cases serviced with
  | false =>
    have hset : URLRequestChromeJob.Follows { w.jobs job with backend := true } :=
      ⟨hjob.accepted, hjob.weakPtrs, hjob.data, hjob.offset, hjob.inOrder, hjob.waiting,
        hjob.pendingBuf, hjob.failed, hjob.answered⟩
    have hself : (w.start job false).jobs job =
        { w.jobs job with backend := true }.add .startError :=
      Function.update_self _ _ _
    refine h.change job (fun other hne => Function.update_of_ne hne _ _) ?_ (fun _ _ _ => Iff.rfl)
      (fun requestId => ?_) (Nat.le_refl _) (.inl ?_) ?_
    all_goals rw [hself]
    · exact hset.add trivial rfl
    · refine iff_of_false (hnot requestId) fun hid => ?_
      exact absurd (hnone.symm.trans hid.1) nofun
    · rfl
    · rfl
  | true =>
    have hset : URLRequestChromeJob.Follows { w.jobs job with
        backend := true, requestId := some w.backend.nextRequestId } :=
      ⟨hjob.accepted, hjob.weakPtrs, hjob.data, hjob.offset, hjob.inOrder, hjob.waiting,
        hjob.pendingBuf, hjob.failed, hjob.answered⟩
    have hself : (w.start job true).jobs job =
        { w.jobs job with backend := true, requestId := some w.backend.nextRequestId } :=
      Function.update_self _ _ _
    refine h.change job (fun other hne => Function.update_of_ne hne _ _) ?_
      (fun requestId other hne => ?_) (fun requestId => ?_) (Nat.le_succ _)
      (.inr ⟨by rw [hself], Nat.lt_succ_self _⟩) (by rw [hself])
    · rw [hself]
      exact hset
    · refine mem_append.trans (or_iff_left fun hmem => hne ?_)
      exact (Prod.mk.inj (mem_singleton.1 hmem)).2
    · rw [hself]
      show _ ↔ some w.backend.nextRequestId = some requestId ∧
        (seen (w.jobs job).log).data = none ∧ (seen (w.jobs job).log).killed = false
      rw [hseen]
      refine mem_append.trans ((or_iff_right (hnot requestId)).trans ?_)
      rw [mem_singleton, some_inj]
      exact ⟨fun heq => ⟨(Prod.mk.inj heq).1.symm, rfl, rfl⟩, fun hid => by rw [hid.1]⟩

/-- The request of a job that is killed is removed, and no other. -/
theorem Inv.mem_removeRequest (h : w.Inv) {job other : J} {requestId : Nat} :
    (requestId, other) ∈ (w.backend.removeRequest job).pendingRequests ↔
      (requestId, other) ∈ w.backend.pendingRequests ∧ other ≠ job := by
  unfold removeRequest
  split
  · next hnone =>
    refine (and_iff_left_of_imp fun hmem heq => ?_).symm
    exact absurd (decide_eq_true heq) (find?_eq_none.1 hnone _ hmem)
  · next found hfound =>
    obtain ⟨foundId, foundJob⟩ := found
    have hjob := find?_some hfound
    obtain rfl : foundJob = job := of_decide_eq_true hjob
    have hid := ((h.pending foundId foundJob).1 (mem_of_find?_eq_some hfound)).1
    refine mem_filter.trans (and_congr_right fun hmem => ?_)
    have hother := ((h.pending requestId other).1 hmem).1
    refine decide_eq_true_iff.trans (not_congr ⟨?_, ?_⟩)
    · rintro rfl
      exact h.distinct other foundJob _ hother hid
    · rintro rfl
      exact some.inj (hother.symm.trans hid)

theorem Inv.kill (h : w.Inv) {job : J} (hpre : (w.jobs job).backend = true) :
    (w.kill job).Inv := by
  have hkill : w.kill job = ⟨w.backend.removeRequest job, Function.update w.jobs job
      ({ w.jobs job with weakPtrs := false }.add .killed)⟩ := by
    rw [World.kill, if_pos hpre]
    rfl
  have hseen : seen ({ w.jobs job with weakPtrs := false }.add .killed).log =
      { seen (w.jobs job).log with killed := true } := seen_append _ _
  have hnext : (w.backend.removeRequest job).nextRequestId = w.backend.nextRequestId := by
    unfold removeRequest
    split <;> rfl
  have hself : (w.kill job).jobs job = { w.jobs job with weakPtrs := false }.add .killed :=
    Function.update_self _ _ _
  refine h.change job (fun other hne => Function.update_of_ne hne _ _) ?_
    (fun requestId other hne => ?_) (fun requestId => ?_) ?_ (.inl ?_) ?_
  · rw [hself]
    exact (h.follows job).kill
  · rw [hkill]
    exact h.mem_removeRequest.trans (and_iff_left hne)
  · rw [hself, hseen, hkill]
    exact iff_of_false (fun hmem => (h.mem_removeRequest.1 hmem).2 rfl)
      fun hid => Bool.noConfusion hid.2.2
  · rw [hkill]
    exact Nat.le_of_eq hnext.symm
  · rw [hself]
    rfl
  · rw [hself]
    exact hpre

/-! ### Reads -/

theorem Inv.readRawData (h : w.Inv) {job : J} {buf : Nat} {bufSize : Int}
    (hpre : w.Pre (.readRawData job buf bufSize))
    (hwell : (w.jobs job).ReadsWell bufSize) :
    (w.update job fun job => job.readRawData buf bufSize).Inv := by
  obtain ⟨hrequest, hidle, hpos, hmax⟩ := hpre
  have hkept := (w.jobs job).readRawData_kept buf bufSize
  exact h.update ((h.follows job).readRawData buf hidle hpos hmax hwell) hkept.requestId
    (hkept.backend.trans (h.backend_of_requestId hrequest)) hkept.data hkept.killed

theorem Inv.mimeTypeAvailable (h : w.Inv) {job : J} (hpre : (w.jobs job).requestId ≠ none)
    (mimeType : String) : (w.mimeTypeAvailable job mimeType).Inv := by
  rw [World.mimeTypeAvailable]
  split
  · next hweak =>
    have hseen : seen ((w.jobs job).mimeTypeAvailable mimeType).log = seen (w.jobs job).log :=
      seen_append _ _
    exact h.update ((h.follows job).mimeTypeAvailable hweak mimeType) rfl
      (h.backend_of_requestId hpre) (by rw [hseen]) (by rw [hseen])
  · exact h

/-! ### Answers -/

/-- The answer to a request concerns the one job that made it. -/
theorem Inv.send_eq (h : w.Inv) {job : J} {requestId : Nat}
    (hrequest : (w.jobs job).requestId = some requestId) (bytes : Option Bytes) :
    w.send requestId bytes = w.update job fun job => job.add (.sent bytes) := by
  refine congrArg (World.mk w.backend) (funext fun other => ?_)
  by_cases heq : other = job
  · rw [heq, if_pos hrequest, Function.update_self]
  · have hne : (w.jobs other).requestId ≠ some requestId :=
      fun hother => heq (h.distinct other job requestId hother hrequest)
    rw [if_neg hne, Function.update_of_ne heq]

omit [DecidableEq J] in
/-- The answer to a request that nobody made. -/
theorem send_eq_self {requestId : Nat} (hnone : ∀ job, (w.jobs job).requestId ≠ some requestId)
    (bytes : Option Bytes) : w.send requestId bytes = w :=
  congrArg (World.mk w.backend) (funext fun job => if_neg (hnone job))

/-- The answer to a request that is no longer pending. -/
theorem Inv.send (h : w.Inv) {requestId : Nat}
    (hnot : ∀ job, (requestId, job) ∉ w.backend.pendingRequests) (bytes : Option Bytes) :
    (w.send requestId bytes).Inv := by
  by_cases hsome : ∃ job, (w.jobs job).requestId = some requestId
  · obtain ⟨job, hrequest⟩ := hsome
    have hlate : ¬((seen (w.jobs job).log).data = none ∧ (seen (w.jobs job).log).killed = false) :=
      fun hlive => hnot job ((h.pending requestId job).2 ⟨hrequest, hlive⟩)
    have hseen : seen ((w.jobs job).add (.sent bytes)).log = seen (w.jobs job).log :=
      (seen_append _ _).trans (if_neg hlate)
    have hstarted : (w.jobs job).backend = true :=
      h.backend_of_requestId (by rw [hrequest]; exact nofun)
    rw [h.send_eq hrequest]
    exact h.update ((h.follows job).sent_late bytes hlate) rfl hstarted (by rw [hseen])
      (by rw [hseen])
  · rw [send_eq_self (not_exists.1 hsome)]
    exact h

/-- The step of the backend when the request is pending. -/
theorem Inv.dataAvailable_eq (h : w.Inv) {requestId : Nat} {job : J}
    (hmem : (requestId, job) ∈ w.backend.pendingRequests) (bytes : Option Bytes) :
    w.dataAvailable requestId bytes =
      ⟨{ w.backend with
          pendingRequests := w.backend.pendingRequests.filter fun entry => entry.1 ≠ requestId },
        Function.update w.jobs job (((w.jobs job).add (.sent bytes)).dataAvailable bytes)⟩ := by
  obtain ⟨hrequest, -, -⟩ := (h.pending requestId job).1 hmem
  have hfound : w.backend.pendingRequests.find? (fun entry => entry.1 = requestId) =
      some (requestId, job) := by
    cases hfind : w.backend.pendingRequests.find? fun entry => entry.1 = requestId with
    | none => exact absurd (decide_eq_true rfl) (find?_eq_none.1 hfind _ hmem)
    | some found =>
      obtain ⟨foundId, foundJob⟩ := found
      have hid := find?_some hfind
      obtain rfl : foundId = requestId := of_decide_eq_true hid
      have hother := ((h.pending foundId foundJob).1 (mem_of_find?_eq_some hfind)).1
      rw [h.distinct foundJob job foundId hother hrequest]
  rw [World.dataAvailable, h.send_eq hrequest]
  dsimp only [World.update]
  rw [hfound]
  dsimp only
  rw [Function.update_self, Function.update_idem]

theorem Inv.dataAvailable (h : w.Inv) {requestId : Nat} {bytes : Option Bytes}
    (hwell : ∀ entry ∈ w.backend.pendingRequests, entry.1 = requestId →
      (w.jobs entry.2).AnsweredWell bytes) : (w.dataAvailable requestId bytes).Inv := by
  by_cases hsome : ∃ job, (requestId, job) ∈ w.backend.pendingRequests
  · obtain ⟨job, hmem⟩ := hsome
    obtain ⟨hrequest, hdata, hkilled⟩ := (h.pending requestId job).1 hmem
    have hanswer := h.dataAvailable_eq hmem bytes
    have hself : (w.dataAvailable requestId bytes).jobs job =
        ((w.jobs job).add (.sent bytes)).dataAvailable bytes := by
      rw [hanswer]
      exact Function.update_self _ _ _
    have hkept := ((w.jobs job).add (.sent bytes)).dataAvailable_kept bytes
    have hbackend : (w.dataAvailable requestId bytes).backend = { w.backend with
        pendingRequests := w.backend.pendingRequests.filter fun entry => entry.1 ≠ requestId } := by
      rw [hanswer]
    refine h.change job (fun other hne => ?_) ?_ (fun otherId other hne => ?_)
      (fun otherId => ?_) ?_ (.inl ?_) ?_
    · rw [hanswer]
      exact Function.update_of_ne hne _ _
    · rw [hself]
      exact (h.follows job).dataAvailable hdata hkilled (hwell _ hmem rfl)
    · rw [hbackend]
      refine mem_filter.trans (and_iff_left_of_imp fun hother => decide_eq_true ?_)
      rintro rfl
      exact hne (h.distinct other job _ ((h.pending _ other).1 hother).1 hrequest)
    · rw [hbackend, hself, hkept.data, URLRequestChromeJob.seen_sent bytes hdata hkilled]
      refine iff_of_false (fun hother => ?_) fun hid => nomatch hid.2.1
      obtain ⟨hother, hne⟩ := mem_filter.1 hother
      have hsame := ((h.pending otherId job).1 hother).1
      exact of_decide_eq_true hne (some.inj (hsame.symm.trans hrequest))
    · rw [hbackend]
    · rw [hself]
      exact hkept.requestId
    · rw [hself, hkept.backend]
      exact h.backend_of_requestId (by rw [hrequest]; exact nofun)
  · have hnot := not_exists.1 hsome
    have hfind : w.backend.pendingRequests.find? (fun entry => entry.1 = requestId) = none := by
      refine find?_eq_none.2 fun entry hentry hid => hnot entry.2 ?_
      rwa [← show entry.1 = requestId from of_decide_eq_true hid]
    have hsend : w.dataAvailable requestId bytes = w.send requestId bytes := by
      rw [World.dataAvailable]
      dsimp only [World.send]
      rw [hfind]
    rw [hsend]
    exact h.send hnot bytes

theorem Inv.not_contract_dataAvailable (h : w.Inv) {requestId : Nat} {bytes : Option Bytes}
    (hbad : ¬∀ entry ∈ w.backend.pendingRequests, entry.1 = requestId →
      (w.jobs entry.2).AnsweredWell bytes) :
    ∃ job, ¬Contract ((w.dataAvailable requestId bytes).jobs job).log := by
  push Not at hbad
  obtain ⟨⟨foundId, job⟩, hmem, rfl, hbad⟩ := hbad
  obtain ⟨-, hdata, hkilled⟩ := (h.pending foundId job).1 hmem
  refine ⟨job, ?_⟩
  rw [h.dataAvailable_eq hmem]
  dsimp only
  rw [Function.update_self]
  exact (h.follows job).not_contract_dataAvailable hdata hkilled hbad

/-! ## The whole run -/

/-- What a run needs of a step, for every job to keep its promise. -/
def Clean (w : World J) : Op J → Prop
  | .dataAvailable requestId bytes => ∀ entry ∈ w.backend.pendingRequests, entry.1 = requestId →
    (w.jobs entry.2).AnsweredWell bytes
  | .readRawData job _ bufSize => (w.jobs job).ReadsWell bufSize
  | .start .. | .mimeTypeAvailable .. | .kill _ => True

/-- **Step**: what the backend has of its jobs is kept by a clean step. -/
theorem Inv.step (h : w.Inv) {op : Op J} (hpre : w.Pre op) (hclean : w.Clean op) :
    (w.step op).Inv := by
  cases op with
  | start job serviced => exact h.start hpre.1 serviced
  | mimeTypeAvailable job mimeType => exact h.mimeTypeAvailable hpre mimeType
  | dataAvailable requestId bytes => exact h.dataAvailable hclean
  | readRawData job buf bufSize => exact h.readRawData hpre hclean
  | kill job => exact h.kill hpre

/-- **Detection**: a step that is not clean breaks the promise of a job. -/
theorem Inv.not_contract (h : w.Inv) {op : Op J} (hpre : w.Pre op) (hbad : ¬w.Clean op) :
    ¬∀ job, Contract ((w.step op).jobs job).log := by
  intro hcontract
  cases op with
  | dataAvailable requestId bytes =>
    obtain ⟨job, hbroken⟩ := h.not_contract_dataAvailable hbad
    exact hbroken (hcontract job)
  | readRawData job buf bufSize =>
    obtain ⟨-, -, hpos, hmax⟩ := hpre
    refine (h.follows job).not_contract_readRawData buf hpos hmax hbad ?_
    have hself := jobs_update_self w job fun job => job.readRawData buf bufSize
    exact hself ▸ hcontract job
  | start | mimeTypeAvailable | kill => exact hbad trivial

end World

open URLDataManagerIOSBackend.World

/-- **Every job keeps its promise** in every state of a run exactly if every step is clean: no
failure comes to a job while no read is waiting, no read is made after a failure, and what is
left of the data is not miscounted. -/
theorem contract_iff (ops : List (Op J)) (hlegal : (machine J).Legal new ops) :
    (∀ before, before <+: ops → ∀ job, Contract (((machine J).run new before).jobs job).log) ↔
      (machine J).Along Clean new ops :=
  Machine.always_iff_along (M := machine J) (I := Inv) (C := World.Pre)
    (fun _ h job => (h.follows job).contract)
    (fun _ _ h hpre hclean => h.step hpre hclean)
    (fun _ _ h hpre hbad => h.not_contract hpre hbad) inv_new hlegal

instance (w : World J) : ∀ op, Decidable (w.Pre op)
  | .start _ _ => instDecidableAnd
  | .mimeTypeAvailable _ _ => instDecidableNot
  | .dataAvailable _ _ => instDecidableTrue
  | .readRawData _ _ _ => instDecidableAnd
  | .kill _ => decEq _ _

instance (w : World J) : ∀ op, Decidable (w.Clean op)
  | .dataAvailable _ _ => List.decidableBAll _ _
  | .readRawData job _ bufSize => inferInstanceAs (Decidable ((w.jobs job).ReadsWell bufSize))
  | .start .. | .mimeTypeAvailable .. | .kill _ => instDecidableTrue

/-- Two jobs: one reads three bytes by two, before and after they come, and a third time; the
other fails while its read is waiting. -/
theorem readsAndFailure_contract :
    Contract (((machine Nat).run new [.start 0 true, .start 1 true,
        .mimeTypeAvailable 0 "text/html", .readRawData 0 7 2, .readRawData 1 8 4,
        .dataAvailable 1 none, .dataAvailable 0 (some [1, 2, 3]), .readRawData 0 7 2,
        .readRawData 0 7 2, .kill 0, .dataAvailable 0 none]).jobs 0).log :=
  (contract_iff _ (by decide)).2 (by decide) _ prefix_rfl 0

/-- The source fails before the first read: a read is completed that nobody has made. -/
theorem failure_before_read_not_contract :
    (machine Nat).Legal new [.start 0 true, .mimeTypeAvailable 0 "text/html",
        .dataAvailable 0 none] ∧
      ¬Contract (((machine Nat).run new [.start 0 true, .mimeTypeAvailable 0 "text/html",
        .dataAvailable 0 none]).jobs 0).log :=
  ⟨by decide, fun h => absurd h.accepted (by decide)⟩

end URLDataManagerIOSBackend

end ChromiumIos
