import Mathlib.Tactic.Linarith
import Mathlib.Tactic.Positivity
import ChromiumIos.Web.RequestTrackerMap

/-!
# The progress of a page

`EstimatedProgress` in `request_tracker_impl.mm`: the records of the tracker are
counted, and a value for the progress bar is derived from three ratios of the
counts. A notification is queued for each change, and the last one in the queue
sends the progress.

- The counts are 64 bits wide and wrap around. The progress is an exact rational.
- `estimatedProgress_raises`: whatever the ratios are, a value that is sent is
  above the one before it and below 1.
- `dividesByZero_iff`: when a ratio has no denominator, in terms of what the
  records hold.
- `progress_increasing_iff`: the progress of a page increases within its bounds
  and no ratio divides by zero exactly as long as no such sum wraps to zero.
-/

namespace ChromiumIos

open Lib

/-! ## Counts -/

structure PageCounts where
  /-- Count of finished requests. -/
  finished : UInt64
  /-- Total byte count of the finished requests. -/
  finishedBytes : UInt64
  unfinished : UInt64
  /-- Count of unfinished requests with unknown size. -/
  unfinishedNoEstimate : UInt64
  unfinishedNoEstimateBytesDone : UInt64
  unfinishedEstimatedBytesLeft : UInt64
  unfinishedEstimateBytesDone : UInt64
  /-- Size of the request with the most bytes on the page. -/
  largestByteSizeKnown : UInt64
deriving DecidableEq, Repr

namespace PageCounts

def new : PageCounts := ⟨0, 0, 0, 0, 0, 0, 0, 0⟩

/-- `if (largest_byte_size_known < size) largest_byte_size_known = size`. -/
def noteSize (page : PageCounts) (size : UInt64) : PageCounts :=
  if page.largestByteSizeKnown < size then { page with largestByteSizeKnown := size } else page

/-- One round of the loop of `pageCounts`. -/
def add (page : PageCounts) (counts : TrackerCounts) : PageCounts :=
  if counts.done then
    { page with
      finished := page.finished + 1
      finishedBytes := page.finishedBytes + counts.processed }.noteSize counts.processed
  else if counts.expectedLength ≠ 0 then
    { page with
      unfinished := page.unfinished + 1
      unfinishedEstimateBytesDone := page.unfinishedEstimateBytesDone + counts.processed
      unfinishedEstimatedBytesLeft :=
        page.unfinishedEstimatedBytesLeft + counts.expectedLength }.noteSize counts.expectedLength
  else
    { page with
      unfinished := page.unfinished + 1
      unfinishedNoEstimate := page.unfinishedNoEstimate + 1
      unfinishedNoEstimateBytesDone :=
        page.unfinishedNoEstimateBytesDone + counts.processed }

/-- The quotient of two counts, unless it divides by zero. -/
def ratio (numerator denominator : UInt64) : Option ℚ :=
  if denominator = 0 then none
  else some ((numerator.toNat : ℚ) / (denominator.toNat : ℚ))

/-- The finished vs the unfinished counts of resources loaded. -/
def unfinishedRatio (page : PageCounts) : Option ℚ :=
  ratio page.finished (page.unfinished + page.finished)

/-- The bytes left vs the bytes already downloaded where no estimates of the final size are
known. -/
def noEstimateRatio (page : PageCounts) : Option ℚ :=
  if page.unfinishedNoEstimateBytesDone = 0 then some 0
  else ratio (page.unfinishedNoEstimate * page.largestByteSizeKnown)
    (page.finishedBytes + page.unfinishedNoEstimateBytesDone)

/-- The same for the resources with available estimated size. -/
def estimateRatio (page : PageCounts) : Option ℚ :=
  if page.unfinishedEstimatedBytesLeft = 0 then page.noEstimateRatio
  else ratio page.unfinishedEstimateBytesDone
    (page.unfinishedEstimateBytesDone + page.unfinishedEstimatedBytesLeft)

/-- Reassembles all of this; the result is no number if one of the two ratios is none. -/
def total (page : PageCounts) : Option ℚ := do
  let unfinishedRatio ← page.unfinishedRatio
  let estimateRatio ← page.estimateRatio
  return 1 / 10 + unfinishedRatio * (6 / 10) + estimateRatio * (3 / 10)

/-- 10% of what's left. -/
def maxBump (previous : ℚ) : ℚ := (1 - previous) / 10

/-- The previous estimate is bumped up to the total. -/
def bump (previous : ℚ) : Option ℚ → Option ℚ
  -- Infinity and NaN fail both comparisons.
  | none => some (previous + maxBump previous)
  | some total =>
    if previous ≥ total then none
    else if previous + maxBump previous > total then some total
    else some (previous + maxBump previous)

/-- `EstimatedProgress`: the new estimate, or none for `-1.0f`. -/
def estimatedProgress (page : PageCounts) (previous : ℚ) : Option ℚ :=
  if page.unfinished = 0 ∧ previous = 0 then none
  else if previous = 0 then some (1 / 10)
  else if page.unfinished = 0 then some (previous + (1 - previous) * (6 / 10))
  else bump previous page.total

/-- `EstimatedProgress` goes on to its ratios, and one of them divides by zero. -/
def dividesByZero (page : PageCounts) (previous : ℚ) : Bool :=
  page.unfinished ≠ 0 ∧ previous ≠ 0 ∧
    (page.unfinishedRatio.isNone ∨ page.noEstimateRatio.isNone ∨ page.estimateRatio.isNone)

end PageCounts

/-! ## The next estimate -/

namespace PageCounts

theorem bump_raises {previous estimate : ℚ} {total : Option ℚ} (h : previous < 1)
    (hbump : bump previous total = some estimate) : previous < estimate ∧ estimate < 1 := by
  have hmax : previous < previous + maxBump previous ∧ previous + maxBump previous < 1 := by
    rw [maxBump]
    constructor <;> linarith
  cases total with
  | none =>
    cases hbump
    exact hmax
  | some total =>
    rw [bump] at hbump
    by_cases hreached : previous ≥ total
    · rw [if_pos hreached] at hbump
      cases hbump
    · rw [if_neg hreached] at hbump
      by_cases hnear : previous + maxBump previous > total
      · -- The total is sent itself, which is below what a bump leads to.
        rw [if_pos hnear] at hbump
        cases hbump
        exact ⟨lt_of_not_ge hreached, hnear.trans hmax.2⟩
      · rw [if_neg hnear] at hbump
        cases hbump
        exact hmax

/-- Whatever the counts are, the progress rises and stays below 1. -/
theorem estimatedProgress_raises {page : PageCounts} {previous estimate : ℚ}
    (hhigh : previous < 1) (h : page.estimatedProgress previous = some estimate) :
    previous < estimate ∧ estimate < 1 := by
  rw [estimatedProgress] at h
  by_cases hnone : page.unfinished = 0 ∧ previous = 0
  · rw [if_pos hnone] at h
    cases h
  rw [if_neg hnone] at h
  by_cases hfirst : previous = 0
  · rw [if_pos hfirst] at h
    cases h
    constructor <;> linarith
  rw [if_neg hfirst] at h
  by_cases hdone : page.unfinished = 0
  · rw [if_pos hdone] at h
    cases h
    constructor <;> linarith
  rw [if_neg hdone] at h
  exact bump_raises hhigh h

/-! ## Counts as sums -/

/-- The size of the records of a kind, which does not wrap around. -/
def totalOf (kind : TrackerCounts → Bool) (size : TrackerCounts → UInt64)
    (records : List TrackerCounts) : Nat :=
  ((records.filter kind).map fun counts => (size counts).toNat).sum

variable {kind : TrackerCounts → Bool} {size : TrackerCounts → UInt64}

theorem totalOf_cons (counts : TrackerCounts) (records : List TrackerCounts) :
    totalOf kind size (counts :: records) =
      (if kind counts then (size counts).toNat else 0) + totalOf kind size records := by
  rw [totalOf, List.filter_cons]
  split
  · rfl
  · exact (Nat.zero_add _).symm

/-- A field to which the records of a kind add their sizes is the total of these, modulo
`2 ^ 64`. -/
theorem toNat_foldl_add {field : PageCounts → UInt64}
    (hfield : ∀ page counts,
      field (add page counts) = field page + if kind counts then size counts else 0)
    (records : List TrackerCounts) (page : PageCounts) :
    (field (records.foldl add page)).toNat =
      ((field page).toNat + totalOf kind size records) % 2 ^ 64 := by
  induction records generalizing page with
  | nil => exact (Nat.mod_eq_of_lt (field page).toNat_lt).symm
  | cons counts records ih =>
    rw [List.foldl_cons, ih, hfield, totalOf_cons, UInt64.toNat_add]
    split
    · omega
    · rw [UInt64.toNat_zero]
      omega

theorem noteSize_eq (page : PageCounts) (size : UInt64) :
    page.noteSize size = { page with
      largestByteSizeKnown :=
        if page.largestByteSizeKnown < size then size else page.largestByteSizeKnown } := by
  rw [noteSize]
  split <;> rfl

end PageCounts

namespace TrackerCounts

/-- An unfinished request with an estimated size. -/
def isEstimated (counts : TrackerCounts) : Bool := !counts.done && counts.expectedLength != 0

def isUnestimated (counts : TrackerCounts) : Bool := !counts.done && counts.expectedLength == 0

end TrackerCounts

namespace PageCounts

open TrackerCounts

variable (page : PageCounts) (counts : TrackerCounts)

theorem kind_cases :
    (counts.done = true ∧ counts.isEstimated = false ∧ counts.isUnestimated = false) ∨
    (counts.done = false ∧ counts.expectedLength ≠ 0 ∧
      counts.isEstimated = true ∧ counts.isUnestimated = false) ∨
    (counts.done = false ∧ counts.expectedLength = 0 ∧
      counts.isEstimated = false ∧ counts.isUnestimated = true) := by
  rw [isEstimated, isUnestimated]
  cases counts.done with
  | true => simp
  | false =>
    by_cases hlength : counts.expectedLength = 0
    · simp [hlength]
    · simp [hlength]

theorem add_finished :
    (page.add counts).finished = page.finished + if counts.done then 1 else 0 := by
  rcases kind_cases counts with h | h | h <;> simp [add, noteSize_eq, h]

theorem add_finishedBytes :
    (page.add counts).finishedBytes =
      page.finishedBytes + if counts.done then counts.processed else 0 := by
  rcases kind_cases counts with h | h | h <;> simp [add, noteSize_eq, h]

theorem add_unfinished :
    (page.add counts).unfinished = page.unfinished + if !counts.done then 1 else 0 := by
  rcases kind_cases counts with h | h | h <;> simp [add, noteSize_eq, h]

theorem add_unfinishedNoEstimateBytesDone :
    (page.add counts).unfinishedNoEstimateBytesDone =
      page.unfinishedNoEstimateBytesDone +
        if counts.isUnestimated then counts.processed else 0 := by
  rcases kind_cases counts with h | h | h <;> simp [add, noteSize_eq, h]

theorem add_unfinishedEstimatedBytesLeft :
    (page.add counts).unfinishedEstimatedBytesLeft =
      page.unfinishedEstimatedBytesLeft +
        if counts.isEstimated then counts.expectedLength else 0 := by
  rcases kind_cases counts with h | h | h <;> simp [add, noteSize_eq, h]

theorem add_unfinishedEstimateBytesDone :
    (page.add counts).unfinishedEstimateBytesDone =
      page.unfinishedEstimateBytesDone +
        if counts.isEstimated then counts.processed else 0 := by
  rcases kind_cases counts with h | h | h <;> simp [add, noteSize_eq, h]

/-- The counts of some records. -/
def ofRecords (records : List TrackerCounts) : PageCounts := records.foldl add .new

/-- No denominator is a sum that wraps to zero, unless the sum that guards it does. -/
def KeepsDenominators (records : List TrackerCounts) : Prop :=
  ¬2 ^ 64 ∣ records.length ∧
  (2 ^ 64 ∣ totalOf isUnestimated (·.processed) records ∨
    ¬2 ^ 64 ∣ totalOf (·.done) (·.processed) records +
      totalOf isUnestimated (·.processed) records) ∧
  (2 ^ 64 ∣ totalOf isEstimated (·.expectedLength) records ∨
    ¬2 ^ 64 ∣ totalOf isEstimated (·.processed) records +
      totalOf isEstimated (·.expectedLength) records)

theorem eq_zero_iff_dvd {n : UInt64} {sum : Nat} (h : n.toNat = sum % 2 ^ 64) :
    n = 0 ↔ 2 ^ 64 ∣ sum := by
  rw [Nat.dvd_iff_mod_eq_zero, ← h, ← UInt64.toNat_inj, UInt64.toNat_zero]

/-- The sum of two counts wraps around as the sum of what they count does. -/
theorem toNat_add_of {m n : UInt64} {a b : Nat} (hm : m.toNat = a % 2 ^ 64)
    (hn : n.toNat = b % 2 ^ 64) : (m + n).toNat = (a + b) % 2 ^ 64 := by
  rw [UInt64.toNat_add, hm, hn, ← Nat.add_mod]

section OfRecords

variable {records : List TrackerCounts} {field : PageCounts → UInt64}

theorem toNat_ofRecords (records : List TrackerCounts)
    (hfield : ∀ page counts,
      field (add page counts) = field page + if kind counts then size counts else 0)
    (hnew : field .new = 0) :
    (field (ofRecords records)).toNat = totalOf kind size records % 2 ^ 64 := by
  rw [ofRecords, toNat_foldl_add hfield, hnew, UInt64.toNat_zero, Nat.zero_add]

/-- Every record is finished or not. -/
theorem totalOf_done_add (records : List TrackerCounts) :
    totalOf (fun counts => !counts.done) (fun _ => 1) records +
      totalOf (·.done) (fun _ => 1) records = records.length := by
  induction records with
  | nil => rfl
  | cons counts records ih =>
    rw [totalOf_cons, totalOf_cons, List.length_cons, ← ih, UInt64.toNat_one]
    cases counts.done with
    | true => simp only [Bool.not_true, Bool.false_eq_true, if_true, if_false]; omega
    | false => simp only [Bool.not_false, Bool.false_eq_true, if_true, if_false]; omega

theorem isNone_ratio {numerator denominator : UInt64} :
    (ratio numerator denominator).isNone = true ↔ denominator = 0 := by
  rw [ratio]
  split <;> simp [*]

theorem isNone_unfinishedRatio :
    (ofRecords records).unfinishedRatio.isNone = true ↔ 2 ^ 64 ∣ records.length := by
  rw [unfinishedRatio, isNone_ratio, ← totalOf_done_add records]
  exact eq_zero_iff_dvd (toNat_add_of (toNat_ofRecords records add_unfinished rfl)
    (toNat_ofRecords records add_finished rfl))

theorem isNone_noEstimateRatio :
    (ofRecords records).noEstimateRatio.isNone = true ↔
      ¬(2 ^ 64 ∣ totalOf isUnestimated (·.processed) records ∨
        ¬2 ^ 64 ∣ totalOf (·.done) (·.processed) records +
          totalOf isUnestimated (·.processed) records) := by
  have hdone := toNat_ofRecords records add_unfinishedNoEstimateBytesDone rfl
  rw [noEstimateRatio, not_or, not_not, ← eq_zero_iff_dvd hdone,
    ← eq_zero_iff_dvd (toNat_add_of (toNat_ofRecords records add_finishedBytes rfl) hdone)]
  split
  · next h => simp [h]
  · next h => rw [isNone_ratio]; exact (and_iff_right h).symm

theorem isNone_estimateRatio :
    (ofRecords records).estimateRatio.isNone = true ↔
      (2 ^ 64 ∣ totalOf isEstimated (·.expectedLength) records ∧
        (ofRecords records).noEstimateRatio.isNone = true) ∨
      ¬(2 ^ 64 ∣ totalOf isEstimated (·.expectedLength) records ∨
        ¬2 ^ 64 ∣ totalOf isEstimated (·.processed) records +
          totalOf isEstimated (·.expectedLength) records) := by
  have hleft := toNat_ofRecords records add_unfinishedEstimatedBytesLeft rfl
  have hsum := toNat_add_of (toNat_ofRecords records add_unfinishedEstimateBytesDone rfl) hleft
  rw [estimateRatio, not_or, not_not, ← eq_zero_iff_dvd hleft, ← eq_zero_iff_dvd hsum]
  split
  · next h => simp only [h, not_true_eq_false, true_and, false_and, or_false]
  · next h => simp only [h, isNone_ratio, not_false_eq_true, true_and, false_and, false_or]

/-- One of the ratios divides by zero. -/
theorem isNone_ratios_iff :
    ((ofRecords records).unfinishedRatio.isNone = true ∨
      (ofRecords records).noEstimateRatio.isNone = true ∨
      (ofRecords records).estimateRatio.isNone = true) ↔ ¬KeepsDenominators records := by
  rw [isNone_estimateRatio, isNone_unfinishedRatio, isNone_noEstimateRatio, KeepsDenominators]
  tauto

/-- `EstimatedProgress` divides by zero when it goes on to its ratios and the records do not keep
their denominators. -/
theorem dividesByZero_iff {previous : ℚ} :
    (ofRecords records).dividesByZero previous = true ↔
      (previous ≠ 0 ∧ ¬2 ^ 64 ∣ totalOf (fun counts => !counts.done) (fun _ => 1) records) ∧
        ¬KeepsDenominators records := by
  rw [dividesByZero, decide_eq_true_iff, isNone_ratios_iff, Ne,
    eq_zero_iff_dvd (toNat_ofRecords records add_unfinished rfl), ← and_assoc]
  exact and_congr_left fun _ => and_comm

end OfRecords

end PageCounts

/-! ## What is sent -/

namespace RequestTrackerImpl

/-- The records, from the front to the back. -/
def records (s : RequestTrackerImpl) : List TrackerCounts := s.counts.entries.map (·.2)

def pageCounts (s : RequestTrackerImpl) : PageCounts := s.records.foldl .add .new

/-- How often an operation calls `Notify`. The callbacks that are run, and the requests that are
cancelled, may call it any number of times. -/
def Op.Notifies (s : RequestTrackerImpl) : Op → Nat → Prop
  | .startRequest _, n => n = 1
  | .captureExpectedLength request _, n | .captureReceivedBytes request _ _, n
  | .stopRequest request _, n => n = (s.countsByRequest request).toList.length
  | .cancelRequestForCounts _, n | .trimToURL _, n => 1 ≤ n
  | .stopRedirectedRequest _ _, n | .stopPageLoad, n | .historyStateChangeToURL _, n
  | .close, n | .changePolicies _, n => n = 0
  | .captureCertificatePolicyCache .., _ | .onSSLCertificateError .., _ => True

instance Op.decidableNotifies (s : RequestTrackerImpl) :
    ∀ (op : Op) (n : Nat), Decidable (op.Notifies s n)
  | .startRequest _, _ => decEq _ _
  | .captureExpectedLength _ _, _ | .captureReceivedBytes _ _ _, _
  | .stopRequest _ _, _ => decEq _ _
  | .cancelRequestForCounts _, _ | .trimToURL _, _ => Nat.decLe _ _
  | .stopRedirectedRequest _ _, _ | .stopPageLoad, _ | .historyStateChangeToURL _, _
  | .close, _ | .changePolicies _, _ => decEq _ _
  | .captureCertificatePolicyCache .., _ | .onSSLCertificateError .., _ =>
    instDecidableTrue

/-- `TrimToURL` starts the estimate over. -/
def Op.startsPage : Op → Bool
  | .trimToURL _ => true
  | _ => false

end RequestTrackerImpl

/-- `RequestTrackerImpl` with its estimate of the progress. -/
structure ProgressTracker where
  tracker : RequestTrackerImpl
  previousEstimate : ℚ
  notificationDepth : Nat
  /-- The progress that was sent to the UI thread since the last `TrimToURL`. -/
  sent : List ℚ
  /-- Whether a ratio was taken with zero as its denominator. -/
  dividedByZero : Bool

namespace ProgressTracker

def new (policyCache : CertificatePolicyCache) : ProgressTracker where
  tracker := .new policyCache
  previousEstimate := 0
  notificationDepth := 0
  sent := []
  dividedByZero := false

variable (s : ProgressTracker)

/-- `Notify`, a number of times. -/
def notify (n : Nat) : ProgressTracker :=
  if s.tracker.isClosing then s else { s with notificationDepth := s.notificationDepth + n }

/-- `previous_estimate_ = 0.0f`. -/
def startPage : ProgressTracker :=
  { s with previousEstimate := 0, sent := [] }

/-- Posts an estimate that is not `-1.0f`. -/
def send : Option ℚ → ProgressTracker
  | none => s
  | some estimate => { s with previousEstimate := estimate, sent := s.sent ++ [estimate] }

def notifyProgress : ProgressTracker :=
  let page := s.tracker.pageCounts
  { s with
    dividedByZero := s.dividedByZero || page.dividesByZero s.previousEstimate }.send
      (page.estimatedProgress s.previousEstimate)

def stackNotification : ProgressTracker :=
  if s.tracker.isClosing then s
  else
    let s := { s with notificationDepth := s.notificationDepth - 1 }
    -- Another notification is already queued.
    if s.notificationDepth ≠ 0 then s
    else if s.tracker.isLoading then s.notifyProgress
    else s

/-- The tracker does something, or a notification that was queued is run. -/
inductive Op
  | tracker (op : RequestTrackerImpl.Op) (notifications : Nat)
  | stackNotification

def Op.Pre (P : RequestPlatform) (s : ProgressTracker) : Op → Prop
  | .tracker op notifications => op.Pre P s.tracker ∧ op.Notifies s.tracker notifications
  | .stackNotification => s.tracker.isClosing = false → 0 < s.notificationDepth

instance Op.decidablePre (P : RequestPlatform) (s : ProgressTracker) :
    ∀ op : Op, Decidable (op.Pre P s)
  | .tracker _ _ => instDecidableAnd
  | .stackNotification => instDecidableForall

def step (P : RequestPlatform) (s : ProgressTracker) : Op → ProgressTracker
  | .tracker op notifications =>
    let s := { s with tracker := s.tracker.step P op }.notify notifications
    if op.startsPage then s.startPage else s
  | .stackNotification => s.stackNotification

abbrev machine (P : RequestPlatform) : Machine ProgressTracker Op where
  Pre s op := op.Pre P s
  step s op := s.step P op

/-! ## Runs -/

variable {P : RequestPlatform} {s : ProgressTracker}

/-- What is sent for a page rises up to the previous estimate. -/
structure Rising (s : ProgressTracker) : Prop where
  previous_lt : s.previousEstimate < 1
  increasing : s.sent.Pairwise (· < ·)
  bounds : ∀ estimate ∈ s.sent, 0 < estimate ∧ estimate ≤ s.previousEstimate
  previous_nonneg : 0 ≤ s.previousEstimate

namespace Rising

theorem congr {t : ProgressTracker} (h : Rising s)
    (hprevious : t.previousEstimate = s.previousEstimate) (hsent : t.sent = s.sent) :
    Rising t where
  previous_lt := hprevious ▸ h.previous_lt
  increasing := hsent ▸ h.increasing
  bounds := hprevious ▸ hsent ▸ h.bounds
  previous_nonneg := hprevious ▸ h.previous_nonneg

theorem startPage (s : ProgressTracker) : Rising s.startPage where
  previous_lt := zero_lt_one
  increasing := List.Pairwise.nil
  bounds _ h := absurd h List.not_mem_nil
  previous_nonneg := le_refl 0

theorem notify (h : Rising s) (n : Nat) : Rising (s.notify n) := by
  rw [ProgressTracker.notify]
  split
  · exact h
  · exact h.congr rfl rfl

theorem send (h : Rising s) {estimate : Option ℚ}
    (hestimate : ∀ e, estimate = some e → s.previousEstimate < e ∧ e < 1) :
    Rising (s.send estimate) := by
  cases estimate with
  | none => exact h
  | some e =>
    obtain ⟨hrise, hhigh⟩ := hestimate e rfl
    refine ⟨hhigh, ?_, ?_, h.previous_nonneg.trans hrise.le⟩
    · refine List.pairwise_append.2 ⟨h.increasing, List.pairwise_singleton _ _, ?_⟩
      intro old hold new hnew
      rw [List.mem_singleton.1 hnew]
      exact (h.bounds old hold).2.trans_lt hrise
    · intro v hv
      rcases List.mem_append.1 hv with hold | hnew
      · exact ⟨(h.bounds v hold).1, (h.bounds v hold).2.trans hrise.le⟩
      · rw [List.mem_singleton.1 hnew]
        exact ⟨h.previous_nonneg.trans_lt hrise, le_refl e⟩

theorem notifyProgress (h : Rising s) : Rising s.notifyProgress := by
  have hflagged : Rising { s with
      dividedByZero := s.dividedByZero || s.tracker.pageCounts.dividesByZero s.previousEstimate } :=
    h.congr rfl rfl
  exact hflagged.send fun e he => PageCounts.estimatedProgress_raises h.previous_lt he

theorem stackNotification (h : Rising s) : Rising s.stackNotification := by
  have hdequeued : Rising { s with notificationDepth := s.notificationDepth - 1 } :=
    h.congr rfl rfl
  rw [ProgressTracker.stackNotification]
  split
  · exact h
  · dsimp only
    split
    · exact hdequeued
    · split
      · exact hdequeued.notifyProgress
      · exact hdequeued

theorem step (h : Rising s) (op : Op) : Rising (s.step P op) := by
  cases op with
  | tracker op notifications =>
    have htracker : Rising { s with tracker := s.tracker.step P op } := h.congr rfl rfl
    rw [ProgressTracker.step]
    split
    · exact startPage _
    · exact htracker.notify notifications
  | stackNotification => exact h.stackNotification

end Rising

/-- The last notification of the queue goes on to the ratios. -/
def Estimates (s : ProgressTracker) : Prop :=
  s.tracker.isClosing = false ∧ s.notificationDepth = 1 ∧ s.tracker.isLoading = true ∧
  s.previousEstimate ≠ 0 ∧
  ¬2 ^ 64 ∣ PageCounts.totalOf (fun counts => !counts.done) (fun _ => 1) s.tracker.records

/-- No ratio of an operation has zero as its denominator. -/
def Op.KeepsDenominators (s : ProgressTracker) : Op → Prop
  | .tracker _ _ => True
  | .stackNotification => s.Estimates → PageCounts.KeepsDenominators s.tracker.records

theorem dividedByZero_notify (s : ProgressTracker) (n : Nat) :
    (s.notify n).dividedByZero = s.dividedByZero := by
  rw [notify]
  split <;> rfl

theorem dividedByZero_send (s : ProgressTracker) (estimate : Option ℚ) :
    (s.send estimate).dividedByZero = s.dividedByZero := by
  cases estimate with
  | none => rfl
  | some e => rfl

theorem dividedByZero_notifyProgress (s : ProgressTracker) :
    s.notifyProgress.dividedByZero = true ↔
      s.dividedByZero = true ∨ s.tracker.pageCounts.dividesByZero s.previousEstimate = true := by
  rw [notifyProgress, dividedByZero_send, Bool.or_eq_true]

theorem dividedByZero_stackNotification (hpre : Op.Pre P s .stackNotification) :
    s.stackNotification.dividedByZero = true ↔
      s.dividedByZero = true ∨ ¬Op.KeepsDenominators s .stackNotification := by
  rw [Op.KeepsDenominators, Classical.not_imp, Estimates, stackNotification]
  cases hclosing : s.tracker.isClosing with
  | true => simp
  | false =>
    have hdepth : 0 < s.notificationDepth := hpre hclosing
    by_cases hlast : s.notificationDepth = 1
    · cases hloading : s.tracker.isLoading with
      | true =>
        have hpage := dividedByZero_notifyProgress { s with notificationDepth := 0 }
        rw [RequestTrackerImpl.pageCounts, ← PageCounts.ofRecords,
          PageCounts.dividesByZero_iff] at hpage
        simpa [hlast, hloading] using hpage
      | false => simp [hlast, hloading]
    · have hqueued : s.notificationDepth - 1 ≠ 0 := by omega
      simp [hlast, hqueued]

theorem dividedByZero_step {op : Op} (hpre : op.Pre P s) :
    (s.step P op).dividedByZero = true ↔
      s.dividedByZero = true ∨ ¬op.KeepsDenominators s := by
  cases op with
  | tracker op notifications =>
    have hnotify := dividedByZero_notify { s with tracker := s.tracker.step P op } notifications
    rw [Op.KeepsDenominators, not_true_eq_false, or_false, ← hnotify, step]
    split <;> exact Iff.rfl
  | stackNotification => exact dividedByZero_stackNotification hpre

/-! ## The progress of a page -/

theorem rising_new (policyCache : CertificatePolicyCache) : Rising (.new policyCache) where
  previous_lt := zero_lt_one
  increasing := List.Pairwise.nil
  bounds _ h := absurd h List.not_mem_nil
  previous_nonneg := le_refl 0

/-- The progress that is sent for a page rises, strictly between 0 and 1. -/
def SendsProgress (s : ProgressTracker) : Prop :=
  s.sent.Pairwise (· < ·) ∧ ∀ estimate ∈ s.sent, 0 < estimate ∧ estimate < 1

theorem Rising.sendsProgress (h : Rising s) : s.SendsProgress :=
  ⟨h.increasing, fun e he => ⟨(h.bounds e he).1, (h.bounds e he).2.trans_lt h.previous_lt⟩⟩

/-- It does so in every run, whatever the ratios are. -/
theorem sendsProgress_run (P : RequestPlatform) (policyCache : CertificatePolicyCache)
    (ops : List Op) : ((machine P).run (.new policyCache) ops).SendsProgress := by
  have hrun : Rising ((machine P).run (.new policyCache) ops) :=
    Machine.run_invariant_of_step (I := Rising) (fun _ op h => h.step op)
      (rising_new policyCache) ops
  exact hrun.sendsProgress

/-- The progress of a page increases within its bounds, and no ratio divides by zero, exactly as
long as no denominator is a sum that wraps to zero. -/
theorem progress_increasing_iff (P : RequestPlatform) (policyCache : CertificatePolicyCache)
    (ops : List Op) (h : (machine P).Legal (.new policyCache) ops) :
    (∀ before, before <+: ops →
      let s := (machine P).run (.new policyCache) before
      s.SendsProgress ∧ s.dividedByZero = false) ↔
    (machine P).Along (fun s op => op.KeepsDenominators s) (.new policyCache) ops := by
  refine Machine.always_iff_along (I := fun s => Rising s ∧ s.dividedByZero = false)
    (P := fun s => s.SendsProgress ∧ s.dividedByZero = false) ?_ ?_ ?_
    ⟨rising_new policyCache, rfl⟩ h
  · rintro s ⟨hrising, hzero⟩
    exact ⟨hrising.sendsProgress, hzero⟩
  · rintro s op ⟨hrising, hzero⟩ hpre hkeeps
    refine ⟨hrising.step op, Bool.eq_false_iff.2 fun hdivided => ?_⟩
    rcases (dividedByZero_step hpre).1 hdivided with hold | hnew
    · rw [hzero] at hold
      cases hold
    · exact hnew hkeeps
  · rintro s op - hpre hwraps ⟨-, hzero⟩
    rw [show (machine P).step s op = s.step P op from rfl,
      (dividedByZero_step hpre).2 (.inr hwraps)] at hzero
    cases hzero

/-- The expected length of a response of `2 ^ 63 - 1` bytes. -/
def longestLength : UInt64 := 9223372036854775807

/-- Two subresources of a page, of which one byte each has arrived. -/
def twoLongResponses : List Op :=
  [.tracker (.startRequest (RequestTrackerImpl.pageRequest 1 "https://a/")) 1,
    .tracker (.trimToURL ⟨"https://a/", true⟩) 1,
    .tracker (.startRequest (RequestTrackerImpl.pageRequest 2 "https://b/")) 1,
    .tracker (.startRequest (RequestTrackerImpl.pageRequest 3 "https://c/")) 1,
    .stackNotification, .stackNotification, .stackNotification, .stackNotification,
    .tracker (.captureExpectedLength 2 longestLength) 1,
    .tracker (.captureReceivedBytes 2 .new 1) 1,
    .tracker (.captureExpectedLength 3 longestLength) 1,
    .tracker (.captureReceivedBytes 3 .new 1) 1,
    .stackNotification, .stackNotification, .stackNotification, .stackNotification]

/-- The last of them takes a ratio of two bytes to `2 ^ 64` bytes, which wraps to zero. -/
theorem long_responses_divide_by_zero :
    (machine RequestTrackerImpl.plainRequestPlatform).Along
      (fun s op => op.Pre RequestTrackerImpl.plainRequestPlatform s) (.new ⟨.empty⟩)
      twoLongResponses ∧
    ((machine RequestTrackerImpl.plainRequestPlatform).run (.new ⟨.empty⟩)
      twoLongResponses).dividedByZero = true := by
  decide +kernel

theorem progress_increasing_two_responses :
    (∀ before, before <+: twoLongResponses.dropLast →
      let s := (machine RequestTrackerImpl.plainRequestPlatform).run (.new ⟨.empty⟩) before
      s.SendsProgress ∧ s.dividedByZero = false) ↔
    (machine RequestTrackerImpl.plainRequestPlatform).Along
      (fun s op => op.KeepsDenominators s) (.new ⟨.empty⟩) twoLongResponses.dropLast :=
  progress_increasing_iff RequestTrackerImpl.plainRequestPlatform ⟨.empty⟩
    twoLongResponses.dropLast
    (by decide +kernel)

end ProgressTracker

end ChromiumIos
