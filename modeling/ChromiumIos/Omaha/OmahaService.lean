import Mathlib.Algebra.Ring.Int.Defs
import Mathlib.Order.Lattice
import ChromiumIos.Lib.Machine
import ChromiumIos.Omaha.ResponseParser

/-!
# `OmahaService`

`omaha_service.mm`: pings of the update server, retried with an exponential back-off,
and the state of it that is kept in the user defaults when the process ends.

Times are in microseconds.

- `Keeps`: a start of the process keeps the time of the next try.
- `BackOffSurvives`: all starts do, and no ping is sent before the time that the last
  attempt computed.
- `back_off_survives_iff`: that is so in every state of a run if and only if each start
  finds the time at most five hours away and the version sent before.
-/

namespace ChromiumIos

open Lib

universe u

/-- `base::TimeDelta::FromHours`. -/
def fromHours (hours : Int) : Int := hours * 3600000000

/-- `kHoursBetweenRequests`, as a time. -/
def kTimeBetweenRequests : Int := fromHours 5

namespace OmahaService

/-- What the service asks of others. -/
structure Platform (Version : Type u) where
  currentVersion : Version
  /-- `kDefaultLastSentVersion`. -/
  defaultVersion : Version
  updateServerURLIsValid : Bool
  applicationId : String
  gurl : String → GURL
  /-- Only false for tests. -/
  schedule : Bool

/-- The `NSUserDefaults`. -/
structure Defaults (Version : Type u) where
  nextTriesTime : Int
  currentPingTime : Int
  numberOfTries : Nat
  lastSentTime : Int
  lastSentVersion : Option Version
  retryRequestId : Option String
deriving DecidableEq, Repr

/-- A request that was sent, with the time that the last attempt had computed. -/
structure Ping where
  time : Int
  installEvent : Bool
  requestId : String
  requestAge : Option Int
  due : Option Int
deriving DecidableEq, Repr

/-- A start of the process, with what the last attempt had computed and what it left. -/
structure Launch where
  due : Option Int
  nextTriesTime : Int
deriving DecidableEq, Repr

/-- The answer of the server. Its elements are told of before it is known whether the
document is well formed. -/
structure Response where
  responseCode : Int
  elements : List Element
  wellFormed : Bool
deriving DecidableEq, Repr

/-- What is random in a ping: an identifier, and what `GetBackOff` returns for a number
of tries. -/
structure Chance where
  randomId : String
  backOff : Nat → Int

inductive Phase
  | notRunning
  | initialized
  | started
deriving DecidableEq, Repr

end OmahaService

open OmahaService in
structure OmahaService (Version : Type u) where
  defaults : Defaults Version
  phase : Phase
  nextTriesTime : Int
  currentPingTime : Int
  lastSentTime : Int
  numberOfTries : Nat
  lastSentVersion : Version
  sendingInstallEvent : Bool
  fetcher : Bool
  /-- The time at which `timer_` fires. -/
  timer : Option Int
  upgradesRecommended : List UpgradeRecommendedDetails
  /-- The time of the last operation. -/
  clock : Int
  /-- The time that the last attempt computed. -/
  due : Option Int
  pings : List Ping
  launches : List Launch
deriving DecidableEq, Repr

namespace OmahaService

variable {Version : Type u}

/-- Before the first start of the process. -/
def init (P : Platform Version) (now : Int) : OmahaService Version where
  defaults := ⟨0, 0, 0, 0, none, none⟩
  phase := .notRunning
  nextTriesTime := 0
  currentPingTime := 0
  lastSentTime := 0
  numberOfTries := 0
  lastSentVersion := P.defaultVersion
  sendingInstallEvent := false
  fetcher := false
  timer := none
  upgradesRecommended := []
  clock := now
  due := none
  pings := []
  launches := []

/-! ## Methods -/

def persistStates (s : OmahaService Version) : OmahaService Version :=
  { s with
    defaults :=
      { s.defaults with
        nextTriesTime := s.nextTriesTime
        currentPingTime := s.currentPingTime
        numberOfTries := s.numberOfTries
        lastSentTime := s.lastSentTime
        lastSentVersion := some s.lastSentVersion } }

variable [LinearOrder Version] (P : Platform Version) (s : OmahaService Version)

/-- What a new process reads from the user defaults. -/
def reload : OmahaService Version :=
  { s with
    nextTriesTime := s.defaults.nextTriesTime
    currentPingTime := s.defaults.currentPingTime
    numberOfTries := s.defaults.numberOfTries
    lastSentTime := s.defaults.lastSentTime
    lastSentVersion := s.defaults.lastSentVersion.getD P.defaultVersion }

/-- A clock that was tampered with: the last ping was sent in the future. -/
def resetLastSentTime (now : Int) : OmahaService Version :=
  if s.lastSentTime > now then { s with lastSentTime := now } else s

/-- A clock that may have been tampered with: the next ping is too far away. -/
def reschedule (now : Int) : OmahaService Version :=
  if s.nextTriesTime - now > kTimeBetweenRequests then
    { s with nextTriesTime := s.lastSentTime + kTimeBetweenRequests }
  else s

/-- A ping as early as possible if the version changed. -/
def pingIfVersionChanged (now : Int) : OmahaService Version :=
  if s.lastSentVersion < P.currentVersion then
    { s with nextTriesTime := now - 1000000, numberOfTries := 0 }
  else s

/-- `Initialize`. -/
def initializeService (now : Int) : OmahaService Version :=
  let s := s.reload P
  let changed := ((s.resetLastSentTime now).reschedule now).pingIfVersionChanged P now
  if s.lastSentTime > now ∨ s.nextTriesTime - now > kTimeBetweenRequests ∨
      s.lastSentVersion < P.currentVersion then changed.persistStates
  else changed

/-- A process starts; what the one before had in memory is gone. -/
def launch (now : Int) : OmahaService Version :=
  let s :=
    { s with
      phase := .initialized, sendingInstallEvent := false, fetcher := false, timer := none
      upgradesRecommended := [] }
  let s := s.initializeService P now
  { s with clock := now, launches := s.launches ++ [⟨s.due, s.nextTriesTime⟩] }

omit [LinearOrder Version] in
/-- `GetNextPingRequestId`, and the identifier that is stored for a retry. -/
def getNextPingRequestId (installEvent : Bool) (randomId : String) : String × Option String :=
  match s.defaults.retryRequestId with
  | some storedId => (storedId, some storedId)
  | none => (randomId, if installEvent then some randomId else none)

/-- `GetCurrentPingContent`, with the request identifier of the ping. -/
def getCurrentPingContent (randomId : String) : String × OmahaService Version :=
  let sendingInstallEvent := decide (s.lastSentVersion < P.currentVersion)
  let request := s.getNextPingRequestId sendingInstallEvent randomId
  (request.1,
    { s with
      sendingInstallEvent
      defaults := { s.defaults with retryRequestId := request.2 } })

/-- `number_of_tries_` after one more. -/
def oneMoreTry (numberOfTries : Nat) : Nat :=
  if numberOfTries < 30 then numberOfTries + 1 else numberOfTries

def sendPing (now : Int) (chance : Chance) : OmahaService Version :=
  if !P.updateServerURLIsValid then s
  else
    let content := s.getCurrentPingContent P chance.randomId
    let s := content.2
    let requestAge :=
      if s.numberOfTries ≠ 0 ∧ s.defaults.retryRequestId.isSome then
        some ((now - s.currentPingTime).tdiv 1000000)
      else none
    let ping : Ping := ⟨now, s.sendingInstallEvent, content.1, requestAge, s.due⟩
    let numberOfTries := oneMoreTry s.numberOfTries
    let nextTriesTime := now + chance.backOff numberOfTries
    let s := { s with numberOfTries, nextTriesTime, due := some nextTriesTime, fetcher := true }
    { s with pings := s.pings ++ [ping] }.persistStates

def sendOrScheduleNextPing (now : Int) (chance : Chance) : OmahaService Version :=
  if s.nextTriesTime ≤ now then s.sendPing P now chance
  else if P.schedule then { s with timer := some s.nextTriesTime }
  else s

/-- The success of a ping. -/
def handleSuccess (now : Int) : OmahaService Version :=
  let nextTriesTime := if s.sendingInstallEvent then now else now + kTimeBetweenRequests
  { s with
    numberOfTries := 0
    nextTriesTime
    currentPingTime := nextTriesTime
    lastSentTime := now
    lastSentVersion := P.currentVersion
    sendingInstallEvent := false
    defaults := { s.defaults with retryRequestId := none }
    due := some nextTriesTime }.persistStates

/-- `OnURLFetchComplete`. The process ends if the parser accesses what is not there. -/
def onURLFetchComplete (now : Int) (response : Response) (chance : Chance) : OmahaService Version :=
  let s := { s with fetcher := false }
  if response.responseCode ≠ 200 then s.sendOrScheduleNextPing P now chance
  else
    match (ResponseParser.initWithAppId P.applicationId).parse P.gurl response.elements with
    | none => { s with phase := .notRunning, timer := none }
    | some delegate =>
      if !response.wellFormed || !delegate.isCorrect then s.sendOrScheduleNextPing P now chance
      else
        let s := (s.handleSuccess P now).sendOrScheduleNextPing P now chance
        { s with
          upgradesRecommended :=
            s.upgradesRecommended ++ delegate.upgradeRecommendedDetails.toList }

/-! ## Runs -/

/-- What happens to the service, with the time. -/
inductive Op
  | launch (now : Int)
  | start (now : Int) (chance : Chance)
  | timerFired (now : Int) (chance : Chance)
  | onURLFetchComplete (now : Int) (response : Response) (chance : Chance)
  | getDebugInformation (randomId : String)

/-- The delay that `net::BackoffEntry` makes at most for a number of failures. -/
def maxBackOff (numberOfTries : Nat) : Int :=
  min (fromHours (2 ^ (numberOfTries - 1))) (fromHours 6)

/-- The delays are within 10% below. -/
def Chance.Documented (chance : Chance) : Prop :=
  ∀ numberOfTries, 0 < numberOfTries →
    9 * maxBackOff numberOfTries ≤ 10 * chance.backOff numberOfTries ∧
      chance.backOff numberOfTries ≤ maxBackOff numberOfTries

def Op.Documented : Op → Prop
  | .start _ chance | .timerFired _ chance | .onURLFetchComplete _ _ chance => chance.Documented
  | .launch _ | .getDebugInformation _ => True

/-- The clock does not go back, and the timer does not fire early. -/
def Op.Possible : Op → Prop
  | .launch now => s.clock ≤ now
  | .start now _ => s.phase = .initialized ∧ s.clock ≤ now
  | .timerFired now _ => s.phase = .started ∧ s.clock ≤ now ∧ ∃ time ∈ s.timer, time ≤ now
  | .onURLFetchComplete now _ _ => s.phase = .started ∧ s.clock ≤ now ∧ s.fetcher = true
  | .getDebugInformation _ => s.phase ≠ .notRunning

instance : ∀ op : Op, Decidable (op.Possible s)
  | .launch _ => inferInstanceAs (Decidable (_ ≤ _))
  | .start .. => instDecidableAnd
  | .timerFired now _ =>
    inferInstanceAs (Decidable (_ ∧ _ ∧ ∃ time ∈ s.timer, time ≤ now))
  | .onURLFetchComplete .. => instDecidableAnd
  | .getDebugInformation _ => instDecidableNot

def Op.Pre (op : Op) : Prop := op.Possible s ∧ op.Documented

def step : Op → OmahaService Version
  | .launch now => s.launch P now
  | .start now chance =>
    { s with phase := .started, clock := now }.sendOrScheduleNextPing P now chance
  | .timerFired now chance => { s with timer := none, clock := now }.sendPing P now chance
  | .onURLFetchComplete now response chance =>
    { s with clock := now }.onURLFetchComplete P now response chance
  | .getDebugInformation randomId => (s.getCurrentPingContent P randomId).2

def machine : Machine (OmahaService Version) Op where
  Pre s op := op.Pre s
  step := step P

/-! ## The back-off -/

/-- The start keeps the time that the last attempt computed. -/
def Launch.Keeps (launch : Launch) : Prop := ∀ due ∈ launch.due, launch.nextTriesTime = due

/-- The ping is not sent before the time that the last attempt computed. -/
def Ping.OnTime (ping : Ping) : Prop := ∀ due ∈ ping.due, due ≤ ping.time

instance (launch : Launch) : Decidable launch.Keeps :=
  inferInstanceAs (Decidable (∀ due ∈ launch.due, launch.nextTriesTime = due))

instance (ping : Ping) : Decidable ping.OnTime :=
  inferInstanceAs (Decidable (∀ due ∈ ping.due, due ≤ ping.time))

def BackOffSurvives : Prop :=
  (∀ launch ∈ s.launches, launch.Keeps) ∧ ∀ ping ∈ s.pings, ping.OnTime

instance : Decidable (BackOffSurvives s) :=
  instDecidableAnd

/-- A start after an attempt finds the version sent, and the time of the next try at
most five hours away. A version that is not sent is tried a second ago. -/
def Op.Credible : Op → Prop
  | .launch now =>
    s.due ≠ none →
      if s.defaults.lastSentVersion.getD P.defaultVersion < P.currentVersion then
        s.defaults.nextTriesTime = now - 1000000
      else s.defaults.nextTriesTime - now ≤ kTimeBetweenRequests
  | _ => True

/-! ## What the methods do -/

section Steps

variable {P} {s : OmahaService Version} (now : Int)

omit [LinearOrder Version] in
@[simp] theorem lastSentTime_resetLastSentTime :
    (s.resetLastSentTime now).lastSentTime = min s.lastSentTime now := by
  rw [resetLastSentTime]
  split
  · rename_i hlt
    exact (min_eq_right (le_of_lt hlt)).symm
  · rename_i hnot
    exact (min_eq_left (not_lt.1 hnot)).symm

omit [LinearOrder Version] in
theorem resetLastSentTime_eq :
    s.resetLastSentTime now = { s with lastSentTime := min s.lastSentTime now } := by
  rw [← lastSentTime_resetLastSentTime, resetLastSentTime]
  split <;> rfl

omit [LinearOrder Version] in
theorem reschedule_eq :
    s.reschedule now =
      { s with
        nextTriesTime :=
          if s.nextTriesTime - now > kTimeBetweenRequests then
            s.lastSentTime + kTimeBetweenRequests
          else s.nextTriesTime } := by
  rw [reschedule]
  split <;> rfl

theorem pingIfVersionChanged_eq :
    s.pingIfVersionChanged P now =
      { s with
        nextTriesTime :=
          if s.lastSentVersion < P.currentVersion then now - 1000000 else s.nextTriesTime
        numberOfTries :=
          if s.lastSentVersion < P.currentVersion then 0 else s.numberOfTries } := by
  rw [pingIfVersionChanged]
  split <;> rfl

/-- The times a new process begins with; they are those in the user defaults. -/
def firstTries (P : Platform Version) (s : OmahaService Version) (now : Int) : Int × Nat :=
  if s.defaults.lastSentVersion.getD P.defaultVersion < P.currentVersion then (now - 1000000, 0)
  else if s.defaults.nextTriesTime - now > kTimeBetweenRequests then
    (min s.defaults.lastSentTime now + kTimeBetweenRequests, s.defaults.numberOfTries)
  else (s.defaults.nextTriesTime, s.defaults.numberOfTries)

theorem initializeService_eq :
    ∃ currentPingTime lastSentTime lastSentVersion defaults,
      s.initializeService P now =
        { s with
          nextTriesTime := (firstTries P s now).1
          numberOfTries := (firstTries P s now).2
          currentPingTime, lastSentTime, lastSentVersion, defaults } ∧
      defaults.nextTriesTime = (firstTries P s now).1 ∧
      defaults.numberOfTries = (firstTries P s now).2 := by
  rw [initializeService, resetLastSentTime_eq, reschedule_eq, pingIfVersionChanged_eq, reload,
    firstTries]
  dsimp only
  by_cases hversion : s.defaults.lastSentVersion.getD P.defaultVersion < P.currentVersion
  · rw [if_pos hversion, if_pos hversion, if_pos hversion, if_pos (.inr (.inr hversion))]
    exact ⟨_, _, _, _, rfl, rfl, rfl⟩
  · rw [if_neg hversion, if_neg hversion, if_neg hversion]
    by_cases hfar : s.defaults.nextTriesTime - now > kTimeBetweenRequests
    · rw [if_pos hfar, if_pos hfar, if_pos (.inr (.inl hfar))]
      exact ⟨_, _, _, _, rfl, rfl, rfl⟩
    · rw [if_neg hfar, if_neg hfar]
      split <;> exact ⟨_, _, _, _, rfl, rfl, rfl⟩

/-- A start keeps the time of the next try if and only if it is credible. -/
theorem firstTries_eq_iff :
    (firstTries P s now).1 = s.defaults.nextTriesTime ↔
      if s.defaults.lastSentVersion.getD P.defaultVersion < P.currentVersion then
        s.defaults.nextTriesTime = now - 1000000
      else s.defaults.nextTriesTime - now ≤ kTimeBetweenRequests := by
  rw [firstTries]
  by_cases hversion : s.defaults.lastSentVersion.getD P.defaultVersion < P.currentVersion
  · rw [if_pos hversion, if_pos hversion, eq_comm]
  · rw [if_neg hversion, if_neg hversion]
    by_cases hfar : s.defaults.nextTriesTime - now > kTimeBetweenRequests
    · rw [if_pos hfar]
      have hle : min s.defaults.lastSentTime now ≤ now := min_le_right _ _
      constructor <;> intro h <;> omega
    · rw [if_neg hfar]
      exact iff_of_true rfl (not_lt.1 hfar)

/-- What a ping leaves, if the URL of the server is valid. -/
theorem sendPing_eq (hvalid : P.updateServerURLIsValid = true) (now : Int) (chance : Chance) :
    ∃ sendingInstallEvent defaults requestId requestAge,
      s.sendPing P now chance =
        { s with
          sendingInstallEvent, defaults
          numberOfTries := oneMoreTry s.numberOfTries
          nextTriesTime := now + chance.backOff (oneMoreTry s.numberOfTries)
          fetcher := true
          due := some (now + chance.backOff (oneMoreTry s.numberOfTries))
          pings := s.pings ++ [⟨now, sendingInstallEvent, requestId, requestAge, s.due⟩] } ∧
      defaults.nextTriesTime = now + chance.backOff (oneMoreTry s.numberOfTries) ∧
      defaults.numberOfTries = oneMoreTry s.numberOfTries := by
  rw [sendPing, hvalid]
  exact ⟨_, _, _, _, rfl, rfl, rfl⟩

/-! ## The invariant -/

/-- What is computed is stored, and what is scheduled is what is stored. -/
structure Inv (s : OmahaService Version) : Prop where
  launches : ∀ launch ∈ s.launches, launch.Keeps
  pings : ∀ ping ∈ s.pings, ping.OnTime
  stored : ∀ due ∈ s.due, s.defaults.nextTriesTime = due
  running : s.phase ≠ .notRunning → s.nextTriesTime = s.defaults.nextTriesTime
  timer : ∀ time ∈ s.timer, time = s.nextTriesTime
  idle : s.phase = .initialized → s.timer = none ∧ s.fetcher = false
  waiting : s.fetcher = true → s.timer = none

omit [LinearOrder Version] in
theorem Inv.backOffSurvives (h : Inv s) : BackOffSurvives s := ⟨h.launches, h.pings⟩

/-- A ping that is due is sent on time. -/
theorem Inv.sendPing (h : Inv s) (hstarted : s.phase = .started) (htimer : s.timer = none)
    {now : Int} (hdue : s.nextTriesTime ≤ now) (chance : Chance) :
    Inv (s.sendPing P now chance) := by
  cases hvalid : P.updateServerURLIsValid with
  | false =>
    rw [OmahaService.sendPing, hvalid]
    exact h
  | true =>
    obtain ⟨sendingInstallEvent, defaults, requestId, requestAge, heq, hstored, -⟩ :=
      sendPing_eq (s := s) hvalid now chance
    rw [heq]
    constructor
    case launches => exact h.launches
    case pings =>
      refine List.forall_mem_append.2 ⟨h.pings, ?_⟩
      intro ping hping due hmem
      obtain rfl := List.mem_singleton.1 hping
      have hcomputed : s.nextTriesTime = due :=
        (h.running (by rw [hstarted]; nofun)).trans (h.stored due hmem)
      exact hcomputed ▸ hdue
    case stored =>
      rintro _ ⟨⟩
      exact hstored
    case running => exact fun _ => hstored.symm
    case timer =>
      show ∀ time ∈ s.timer, _
      rw [htimer]
      nofun
    case idle =>
      intro hphase
      cases hstarted.symm.trans hphase
    case waiting => exact fun _ => htimer

theorem Inv.sendOrScheduleNextPing (h : Inv s) (hstarted : s.phase = .started)
    (hfetcher : s.fetcher = false) (htimer : s.timer = none) (now : Int) (chance : Chance) :
    Inv (s.sendOrScheduleNextPing P now chance) := by
  rw [OmahaService.sendOrScheduleNextPing]
  split
  · rename_i hdue
    exact h.sendPing hstarted htimer hdue chance
  · split
    · refine ⟨h.launches, h.pings, h.stored, h.running, ?_, ?_, ?_⟩
      · rintro _ ⟨⟩
        rfl
      · intro hphase
        cases hstarted.symm.trans hphase
      · intro hbusy
        cases hfetcher.symm.trans hbusy
    · exact h

omit [LinearOrder Version] in
theorem Inv.tick (h : Inv s) (now : Int) : Inv { s with clock := now } :=
  ⟨h.launches, h.pings, h.stored, h.running, h.timer, h.idle, h.waiting⟩

theorem Inv.onURLFetchComplete (h : Inv s) (hstarted : s.phase = .started)
    (hfetcher : s.fetcher = true) (now : Int) (response : Response) (chance : Chance) :
    Inv (s.onURLFetchComplete P now response chance) := by
  have htimer := h.waiting hfetcher
  have hnotIdle : ∀ {P : Prop}, s.phase = .initialized → P := by
    intro P hphase
    cases hstarted.symm.trans hphase
  have hdone : Inv { s with fetcher := false } :=
    ⟨h.launches, h.pings, h.stored, h.running, h.timer, hnotIdle, fun _ => htimer⟩
  rw [OmahaService.onURLFetchComplete]
  dsimp only
  split
  · exact hdone.sendOrScheduleNextPing hstarted rfl htimer now chance
  · split
    · exact ⟨h.launches, h.pings, h.stored, fun hrunning => absurd rfl hrunning, nofun, nofun,
        fun _ => rfl⟩
    · split
      · exact hdone.sendOrScheduleNextPing hstarted rfl htimer now chance
      · have hsuccess : Inv ({ s with fetcher := false }.handleSuccess P now) := by
          refine ⟨h.launches, h.pings, ?_, fun _ => rfl, ?_, hnotIdle, fun _ => htimer⟩
          · rintro _ ⟨⟩
            rfl
          · show ∀ time ∈ s.timer, _
            rw [htimer]
            nofun
        obtain ⟨hlaunches, hpings, hstored, hrunning, htimer', hidle, hwaiting⟩ :=
          hsuccess.sendOrScheduleNextPing hstarted rfl htimer now chance
        exact ⟨hlaunches, hpings, hstored, hrunning, htimer', hidle, hwaiting⟩

theorem Inv.launch (h : Inv s) {now : Int} (hcredible : (Op.launch now).Credible P s) :
    Inv (s.launch P now) := by
  rw [OmahaService.launch]
  obtain ⟨currentPingTime, lastSentTime, lastSentVersion, defaults, heq, hstored, -⟩ :=
    initializeService_eq (P := P) (s := { s with
      phase := .initialized, sendingInstallEvent := false, fetcher := false, timer := none
      upgradesRecommended := [] }) now
  rw [heq]
  have hkeeps : ∀ due ∈ s.due, (firstTries P s now).1 = due := by
    intro due hdue
    have hne : s.due ≠ none := by
      rintro hnone
      rw [hnone] at hdue
      cases hdue
    exact (firstTries_eq_iff now).2 (hcredible hne) |>.trans (h.stored due hdue)
  constructor
  case launches =>
    refine List.forall_mem_append.2 ⟨h.launches, ?_⟩
    intro launch hmem
    obtain rfl := List.mem_singleton.1 hmem
    exact hkeeps
  case pings => exact h.pings
  case stored => exact fun due hdue => hstored.trans (hkeeps due hdue)
  case running => exact fun _ => hstored.symm
  case timer => nofun
  case idle => exact fun _ => ⟨rfl, rfl⟩
  case waiting => exact fun _ => rfl

/-- **Step lemma**. -/
theorem Inv.step (h : Inv s) (op : Op) (hpre : op.Pre s) (hcredible : op.Credible P s) :
    Inv (s.step P op) := by
  cases op with
  | launch now => exact h.launch hcredible
  | start now chance =>
    obtain ⟨⟨hphase, -⟩, -⟩ := hpre
    obtain ⟨htimer, hfetcher⟩ := h.idle hphase
    have hstarted : Inv { s with phase := .started, clock := now } :=
      ⟨h.launches, h.pings, h.stored, fun _ => h.running (by rw [hphase]; nofun), h.timer, nofun,
        h.waiting⟩
    exact hstarted.sendOrScheduleNextPing rfl hfetcher htimer now chance
  | timerFired now chance =>
    obtain ⟨⟨hphase, -, time, htime, hle⟩, -⟩ := hpre
    have hfired : Inv { s with timer := none, clock := now } := by
      refine ⟨h.launches, h.pings, h.stored, h.running, nofun, ?_, fun _ => rfl⟩
      intro hidle
      cases hphase.symm.trans hidle
    exact hfired.sendPing hphase rfl (h.timer time htime ▸ hle) chance
  | onURLFetchComplete now response chance =>
    obtain ⟨⟨hphase, -, hfetcher⟩, -⟩ := hpre
    exact (h.tick now).onURLFetchComplete hphase hfetcher now response chance
  | getDebugInformation randomId =>
    exact ⟨h.launches, h.pings, h.stored, h.running, h.timer, h.idle, h.waiting⟩

/-- A start that is not credible does not keep the time. -/
theorem Inv.not_backOffSurvives (h : Inv s) (op : Op) (hcredible : ¬ op.Credible P s) :
    ¬ BackOffSurvives (s.step P op) := by
  cases op with
  | start | timerFired | onURLFetchComplete | getDebugInformation => exact absurd trivial hcredible
  | launch now =>
    simp only [Op.Credible, Classical.not_imp] at hcredible
    obtain ⟨hne, hfirst⟩ := hcredible
    obtain ⟨due, hdue⟩ := Option.ne_none_iff_exists'.1 hne
    intro hsurvives
    obtain ⟨currentPingTime, lastSentTime, lastSentVersion, defaults, heq, -, -⟩ :=
      initializeService_eq (P := P) (s := { s with
        phase := .initialized, sendingInstallEvent := false, fetcher := false, timer := none
        upgradesRecommended := [] }) now
    have hkeeps := hsurvives.1
    rw [OmahaService.step, OmahaService.launch, heq] at hkeeps
    have hkept := hkeeps _ (List.mem_append_right _ (List.mem_singleton.2 rfl)) due hdue
    refine hfirst ((firstTries_eq_iff now).1 ?_)
    exact Eq.trans hkept (h.stored due hdue).symm

omit [LinearOrder Version] in
theorem inv_init : Inv (init P now) :=
  ⟨nofun, nofun, nofun, fun _ => rfl, nofun, nofun, nofun⟩

end Steps

/-- **Back-off**: every start keeps the time that the last attempt computed, and every
ping is sent after it, in all states of a run if and only if every start after an
attempt is credible. -/
theorem back_off_survives_iff (now : Int) (ops : List Op)
    (hlegal : (machine P).Legal (init P now) ops) :
    (∀ before, before <+: ops → BackOffSurvives ((machine P).run (init P now) before)) ↔
      (machine P).Along (fun s op => op.Credible P s) (init P now) ops :=
  Machine.always_iff_along (I := Inv) (fun _ h => h.backOffSurvives)
    (fun _ op h hpre hcredible => h.step op hpre hcredible)
    (fun _ op h _ hcredible => h.not_backOffSurvives op hcredible) (inv_init now) hlegal

/-- Versions are numbers; the second one is installed. -/
def secondVersion : Platform Int where
  currentVersion := 2
  defaultVersion := 0
  updateServerURLIsValid := true
  applicationId := "app"
  gurl url := ⟨url, true⟩
  schedule := true

/-- A back-off without jitter. -/
def steady : Chance := ⟨"id", maxBackOff⟩

theorem steady_documented : steady.Documented := by
  intro numberOfTries _
  have hpos : (0 : Int) < 2 ^ (numberOfTries - 1) := Int.pow_pos (by decide)
  have hmax : 0 ≤ maxBackOff numberOfTries := by
    refine le_min ?_ (by decide)
    rw [fromHours]
    omega
  refine ⟨?_, Int.le_refl _⟩
  show 9 * maxBackOff numberOfTries ≤ 10 * maxBackOff numberOfTries
  omega

/-- The server acknowledges the installation. -/
def acknowledged : Response where
  responseCode := 200
  elements :=
    [⟨"response", ⟨[("protocol", "3.0"), ("server", "prod")]⟩⟩,
      ⟨"app", ⟨[("appid", "app"), ("status", "ok")]⟩⟩, ⟨"event", ⟨[("status", "ok")]⟩⟩]
  wellFormed := true

def unavailable : Response := ⟨503, [], true⟩

/-- The installation is sent, and the ping after it fails twice. -/
def twoFailures : List Op :=
  [.launch 0, .start 0 steady, .onURLFetchComplete 0 acknowledged steady,
    .onURLFetchComplete 0 unavailable steady, .timerFired (fromHours 1) steady,
    .onURLFetchComplete (fromHours 1) unavailable steady]

/-- It fails four times, after one, two and four hours. -/
def fourFailures : List Op :=
  twoFailures ++
    [.timerFired (fromHours 3) steady, .onURLFetchComplete (fromHours 3) unavailable steady,
      .timerFired (fromHours 7) steady, .onURLFetchComplete (fromHours 7) unavailable steady]

/-- Two failures later the process is started again, and sends no ping before it is
time. -/
theorem back_off_survives_two_failures :
    BackOffSurvives ((machine secondVersion).run (init secondVersion 0)
      (twoFailures ++ [.launch (fromHours 2), .start (fromHours 2) steady])) := by
  have hdocumented : ∀ op ∈ twoFailures ++ [.launch (fromHours 2), .start (fromHours 2) steady],
      op.Documented := by
    have hsteady := steady_documented
    simp [twoFailures, Op.Documented, hsteady]
  have hlegal := Machine.along_and (machine secondVersion)
    (C := fun s op => op.Possible s) (s := init secondVersion 0)
    (by decide +kernel) ((machine secondVersion).along_of_mem _ hdocumented)
  refine (back_off_survives_iff secondVersion 0 _ hlegal).2 ?_ _ (List.prefix_refl _)
  refine ⟨fun hne => absurd rfl hne, trivial, trivial, trivial, trivial, trivial, ?_, trivial,
    trivial⟩
  intro _
  decide +kernel

/-- A minute after the fourth failure the process is started again; the next try was
six hours after it. -/
theorem ping_after_fourth_failure :
    let ops := fourFailures ++ [.launch (fromHours 7 + 60000000),
      .start (fromHours 7 + 60000000) steady]
    (machine secondVersion).Legal (init secondVersion 0) ops ∧
    ((machine secondVersion).run (init secondVersion 0) ops).pings.getLast?.map
        (fun ping => (ping.due, ping.time)) =
      some (some (fromHours 13), fromHours 7 + 60000000) ∧
    ¬ BackOffSurvives ((machine secondVersion).run (init secondVersion 0) ops) := by
  intro ops
  have hdocumented : ∀ op ∈ ops, op.Documented := by
    have hsteady := steady_documented
    simp [ops, fourFailures, twoFailures, Op.Documented, hsteady]
  have hpossible : (machine secondVersion).Along (fun s op => op.Possible s)
      (init secondVersion 0) ops := by
    decide +kernel
  exact ⟨Machine.along_and _ hpossible (Machine.along_of_mem _ _ hdocumented),
    by decide +kernel, by decide +kernel⟩

end OmahaService

end ChromiumIos
