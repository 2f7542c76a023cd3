import ChromiumIos.Lib.Machine

/-!
# `AutoReloadController`

`auto_reload_controller.mm`: a load that has failed is repeated after a while. Without a network the
reload is put off: it is remembered in a flag, and the timer is started when the network is back.

- `loadStarted`, `loadFinished`, `loadFailed`, `networkStateChanged`, `timerFired`: its calls.
- `Dchecks`: what they check.
- `Repeats`: the specification of a step. What is reloaded is a load that has failed.
- `repeats_of_current`: it is met as long as no reload that was put off is out of date.
-/

namespace ChromiumIos

open Lib

/-- The milliseconds until the next reload. -/
def kDelaysMs : List Nat := [0, 5000, 30000, 60000, 300000, 600000, 1800000]

def getAutoReloadTime (reloadCount : Nat) : Nat :=
  kDelaysMs[min reloadCount (kDelaysMs.length - 1)]?.getD 0

structure AutoReloadController (GURL : Type) where
  failedUrl : GURL
  reloadCount : Nat
  shouldReload : Bool
  online : Bool
  /-- The delay of the timer, while it is running. -/
  timer : Option Nat
deriving DecidableEq, Repr

namespace AutoReloadController

variable {GURL : Type}

/-- `initWithDelegate:onlineStatus:`. The failed URL is empty at first. -/
def initWithDelegate (empty : GURL) (online : Bool) : AutoReloadController GURL where
  failedUrl := empty
  reloadCount := 0
  shouldReload := false
  online
  timer := none

variable (s : AutoReloadController GURL)

def isRunning : Bool := s.timer.isSome

/-- The timer waits longer after every reload. -/
def startTimer : AutoReloadController GURL :=
  { s with timer := some (getAutoReloadTime s.reloadCount) }

/-- `loadStartedForURL:`; the load of another URL starts the delays anew. -/
def loadStarted [DecidableEq GURL] (s : AutoReloadController GURL) (url : GURL) :
    AutoReloadController GURL :=
  { s with
    -- The starting load was not started by this class.
    timer := none
    reloadCount := if url ≠ s.failedUrl then 0 else s.reloadCount }

/-- `loadFinishedForURL:wasPost:` only has its check. -/
def loadFinished : AutoReloadController GURL := s

/-- `loadFailedForURL:wasPost:`. A POST is not sent again, and a failure offline waits for the
network. -/
def loadFailed (url : GURL) (wasPost : Bool) : AutoReloadController GURL :=
  if wasPost then s
  else
    let s := { s with failedUrl := url }
    if s.online then s.startTimer else { s with shouldReload := true }

/-- A reload that waits for its timer waits for the network instead. -/
def transitionedToOffline : AutoReloadController GURL :=
  if s.isRunning then { s with shouldReload := true, timer := none } else s

/-- The reload that waited for the network gets its timer. -/
def transitionedToOnline : AutoReloadController GURL :=
  if s.shouldReload then { s with shouldReload := false }.startTimer else s

/-- `networkStateChangedToOnline:`. -/
def networkStateChanged (online : Bool) : AutoReloadController GURL :=
  { (if !online && s.online then s.transitionedToOffline
      else if online && !s.online then s.transitionedToOnline
      else s) with online }

/-- The timer does not repeat, and the delegate is told to reload. -/
def timerFired : AutoReloadController GURL :=
  { s with timer := none, reloadCount := s.reloadCount + 1 }

/-! ## The tab -/

inductive Outcome
  | finished (wasPost : Bool)
  | failed (wasPost : Bool)
deriving DecidableEq, Repr

/-- The controller, and the loads of its tab. -/
structure Tab (GURL : Type) where
  controller : AutoReloadController GURL
  /-- The loads that have been started, the latest first. -/
  started : List Nat
  ended : List (Nat × Outcome)
deriving DecidableEq, Repr

inductive Event (GURL : Type)
  | loadStarted (load : Nat) (url : GURL)
  | loadFinished (load : Nat) (url : GURL) (wasPost : Bool)
  | loadFailed (load : Nat) (url : GURL) (wasPost : Bool)
  | networkStateChanged (online : Bool)
  | timerFired
deriving DecidableEq, Repr

namespace Tab

variable (t : Tab GURL)

/-- The tab has a load that has not ended. -/
def Runs (load : Nat) : Prop := load ∈ t.started ∧ load ∉ t.ended.map Prod.fst

/-- The most recently started load has failed and was not a POST. -/
def LatestFailed : Prop :=
  ∃ load ∈ t.started.head?, (load, .failed false) ∈ t.ended

instance (load : Nat) : Decidable (t.Runs load) := instDecidableAnd

instance : Decidable t.LatestFailed :=
  decidable_of_iff (t.started.head?.any fun load => decide ((load, .failed false) ∈ t.ended)) <| by
    rw [Option.any_eq_true, LatestFailed]
    simp only [decide_eq_true_eq, Option.mem_def]

/-- What ends has been started, and the timer fires while it is running. -/
def Pre : Event GURL → Prop
  | .loadStarted load _ => load ∉ t.started
  | .loadFinished load _ _ | .loadFailed load _ _ => t.Runs load
  | .networkStateChanged _ => True
  | .timerFired => t.controller.isRunning = true

instance : ∀ event, Decidable (Pre t event)
  | .loadStarted .. => instDecidableNot
  | .loadFinished .. | .loadFailed .. => inferInstanceAs (Decidable (Runs _ _))
  | .networkStateChanged _ => instDecidableTrue
  | .timerFired => decEq _ _

def step [DecidableEq GURL] (t : Tab GURL) : Event GURL → Tab GURL
  | .loadStarted load url =>
    { t with controller := t.controller.loadStarted url, started := load :: t.started }
  | .loadFinished load _ wasPost =>
    { t with
      controller := t.controller.loadFinished
      ended := (load, .finished wasPost) :: t.ended }
  | .loadFailed load url wasPost =>
    { t with
      controller := t.controller.loadFailed url wasPost
      ended := (load, .failed wasPost) :: t.ended }
  | .networkStateChanged online =>
    { t with controller := t.controller.networkStateChanged online }
  | .timerFired => { t with controller := t.controller.timerFired }

abbrev machine (GURL : Type) [DecidableEq GURL] : Machine (Tab GURL) (Event GURL) := ⟨Pre, step⟩

def start (empty : GURL) (online : Bool) : Tab GURL where
  controller := .initWithDelegate empty online
  started := []
  ended := []

/-- The `DCHECK`s. -/
def Dchecks : Event GURL → Prop
  | .loadFinished .. | .loadFailed .. => s.isRunning = false
  | .networkStateChanged online => online = false → s.online = true → s.shouldReload = false
  | .loadStarted .. | .timerFired => True

/-- No check fails, the timer only runs while the device is online, and what is reloaded is a load
that has failed and was not a POST. -/
structure Repeats (event : Event GURL) : Prop where
  dchecks : Dchecks t.controller event
  online : t.controller.isRunning = true → t.controller.online = true
  reload : event = .timerFired → t.LatestFailed

/-- A reload that was put off is still due when the network is back. A load that ends and is not the
most recently started one does so while the timer is not running, and starts it only if the most
recently started load has failed as well. -/
def Current : Event GURL → Prop
  | .networkStateChanged online =>
    online = true → t.controller.online = false → t.controller.shouldReload = true →
      t.LatestFailed
  | .loadFailed load _ false =>
    load ∉ t.started.head? → t.controller.isRunning = false ∧
      (t.controller.online = true → t.LatestFailed)
  | .loadFinished load _ _ | .loadFailed load _ true =>
    load ∉ t.started.head? → t.controller.isRunning = false
  | .loadStarted .. | .timerFired => True

instance : ∀ event, Decidable (Current t event)
  | .networkStateChanged _ | .loadFailed _ _ false => instDecidableForall
  | .loadFailed _ _ true | .loadFinished .. => instDecidableForall
  | .loadStarted .. | .timerFired => instDecidableTrue

/-! ## The invariant -/

/-- The timer is for the most recently started load, and a reload is put off only while the device
is offline. -/
structure Armed : Prop where
  online : t.controller.isRunning = true → t.controller.online = true
  offline : t.controller.shouldReload = true → t.controller.online = false
  failed : t.controller.isRunning = true → t.LatestFailed

theorem armed_start (empty : GURL) (online : Bool) : (start empty online).Armed where
  online h := absurd h Bool.false_ne_true
  offline h := absurd h Bool.false_ne_true
  failed h := absurd h Bool.false_ne_true

/-- A load that has ended more does not take back a failure. -/
theorem LatestFailed.mono {t t' : Tab GURL} (h : t.LatestFailed) (hstarted : t'.started = t.started)
    (hended : ∀ e ∈ t.ended, e ∈ t'.ended) : t'.LatestFailed := by
  obtain ⟨load, hload, hfailed⟩ := h
  exact ⟨load, hstarted ▸ hload, hended _ hfailed⟩

/-- While the timer is running no load is left that the run may end. -/
theorem Armed.isRunning_of_runs {t : Tab GURL} (h : t.Armed) {load : Nat} (hruns : t.Runs load)
    (hcurrent : load ∉ t.started.head? → t.controller.isRunning = false) :
    t.controller.isRunning = false := by
  by_cases hhead : load ∈ t.started.head?
  · by_contra hrunning
    obtain ⟨latest, hlatest, hfailed⟩ := h.failed (eq_true_of_ne_false hrunning)
    obtain rfl : latest = load := Option.mem_unique hlatest hhead
    exact hruns.2 (List.mem_map_of_mem hfailed)
  · exact hcurrent hhead

/-- What a step does meets the specification while the timer is armed rightly. -/
theorem Armed.repeats {t : Tab GURL} (h : t.Armed) {event : Event GURL} (hpre : t.Pre event)
    (hcurrent : t.Current event) : t.Repeats event where
  online := h.online
  reload := by
    rintro rfl
    exact h.failed hpre
  dchecks := by
    cases event with
    | loadStarted | timerFired => trivial
    | loadFinished load => exact h.isRunning_of_runs hpre hcurrent
    | loadFailed load url wasPost =>
      cases wasPost with
      | true => exact h.isRunning_of_runs hpre hcurrent
      | false => exact h.isRunning_of_runs hpre fun hhead => (hcurrent hhead).1
    | networkStateChanged online =>
      intro _ honline
      by_contra hreload
      have := h.offline (eq_true_of_ne_false hreload)
      exact Bool.false_ne_true (this.symm.trans honline)

section Steps

variable [DecidableEq GURL] {t : Tab GURL}

theorem Armed.loadStarted (h : t.Armed) (load : Nat) (url : GURL) :
    (t.step (.loadStarted load url)).Armed where
  online hrunning := absurd hrunning Bool.false_ne_true
  offline := h.offline
  failed hrunning := absurd hrunning Bool.false_ne_true

theorem Armed.loadFinished (h : t.Armed) (load : Nat) (url : GURL) (wasPost : Bool) :
    (t.step (.loadFinished load url wasPost)).Armed where
  online := h.online
  offline := h.offline
  failed hrunning := (h.failed hrunning).mono rfl fun _ => List.mem_cons_of_mem _

theorem Armed.loadFailed (h : t.Armed) {load : Nat} (url : GURL) {wasPost : Bool}
    (hcurrent : t.Current (.loadFailed load url wasPost)) :
    (t.step (.loadFailed load url wasPost)).Armed := by
  cases wasPost with
  | true => exact ⟨h.online, h.offline, fun hr => (h.failed hr).mono rfl fun _ => .tail _⟩
  | false =>
    by_cases honline : t.controller.online = true
    · have hcontroller : (t.step (.loadFailed load url false)).controller =
          { t.controller with failedUrl := url }.startTimer := if_pos honline
      refine ⟨fun _ => hcontroller ▸ honline, hcontroller ▸ h.offline, fun _ => ?_⟩
      by_cases hhead : load ∈ t.started.head?
      · exact ⟨load, hhead, List.mem_cons_self⟩
      · exact ((hcurrent hhead).2 honline).mono rfl fun _ => .tail _
    · have hcontroller : (t.step (.loadFailed load url false)).controller =
          { t.controller with failedUrl := url, shouldReload := true } := if_neg honline
      refine ⟨hcontroller ▸ h.online, fun _ => hcontroller ▸ eq_false_of_ne_true honline,
        fun hrunning => ?_⟩
      rw [hcontroller] at hrunning
      exact (h.failed hrunning).mono rfl fun _ => .tail _

/-- The network is lost: the timer is stopped, and a reload it was for is put off. -/
theorem armed_networkLost (honline : t.controller.online = true) :
    (t.step (.networkStateChanged false)).Armed := by
  have hcontroller : (t.step (.networkStateChanged false)).controller =
      { t.controller.transitionedToOffline with online := false } := by
    simp only [step, networkStateChanged, honline, Bool.not_false, Bool.and_self, if_true]
  have hstopped : t.controller.transitionedToOffline.isRunning = false := by
    unfold transitionedToOffline
    split
    · rfl
    · exact eq_false_of_ne_true ‹_›
  have hnot : (t.step (.networkStateChanged false)).controller.isRunning ≠ true := by
    rw [hcontroller]
    exact ne_true_of_eq_false hstopped
  exact ⟨fun hr => absurd hr hnot, fun _ => by rw [hcontroller], fun hr => absurd hr hnot⟩

/-- The network is back: a reload that was put off is started. -/
theorem Armed.networkBack (h : t.Armed) (honline : t.controller.online = false)
    (hdue : t.controller.shouldReload = true → t.LatestFailed) :
    (t.step (.networkStateChanged true)).Armed := by
  have hcontroller : (t.step (.networkStateChanged true)).controller =
      { t.controller.transitionedToOnline with online := true } := by
    simp only [step, networkStateChanged, honline, Bool.not_false, Bool.and_self, if_true,
      Bool.not_true, Bool.false_eq_true, if_false]
  refine ⟨fun _ => by rw [hcontroller], ?_, ?_⟩ <;> rw [hcontroller, transitionedToOnline]
  all_goals cases hreload : t.controller.shouldReload
  · exact fun hshould => absurd (hreload.symm.trans hshould) Bool.false_ne_true
  · exact fun hshould => absurd hshould Bool.false_ne_true
  · intro hrunning
    exact absurd ((h.online hrunning).symm.trans honline) Bool.false_ne_true.symm
  · exact fun _ => (hdue hreload).mono rfl fun _ => id

theorem Armed.networkStateChanged (h : t.Armed) {online : Bool}
    (hcurrent : t.Current (.networkStateChanged online)) :
    (t.step (.networkStateChanged online)).Armed := by
  have hsame : t.controller.online = online → t.step (.networkStateChanged online) = t := by
    rintro rfl
    simp only [step, AutoReloadController.networkStateChanged, Bool.not_and_self, Bool.and_not_self,
      Bool.false_eq_true, if_false]
  cases honline : t.controller.online <;> cases online
  · exact (hsame honline).symm ▸ h
  · exact h.networkBack honline (hcurrent rfl honline)
  · exact armed_networkLost honline
  · exact (hsame honline).symm ▸ h

theorem Armed.timerFired (h : t.Armed) : (t.step .timerFired).Armed where
  online hrunning := absurd hrunning Bool.false_ne_true
  offline := h.offline
  failed hrunning := absurd hrunning Bool.false_ne_true

theorem Armed.step (h : t.Armed) {event : Event GURL} (hcurrent : t.Current event) :
    (t.step event).Armed := by
  cases event with
  | loadStarted load url => exact h.loadStarted load url
  | loadFinished load url wasPost => exact h.loadFinished load url wasPost
  | loadFailed load url wasPost => exact h.loadFailed url hcurrent
  | networkStateChanged online => exact h.networkStateChanged hcurrent
  | timerFired => exact h.timerFired

end Steps

/-! ## Runs -/

section Runs

variable [DecidableEq GURL] {empty : GURL} {online : Bool} {events : List (Event GURL)}

theorem armed_run (hcurrent : (machine GURL).Along Current (start empty online) events) :
    ((machine GURL).run (start empty online) events).Armed :=
  Machine.run_invariant (M := machine GURL) (fun _ _ h hevent => h.step hevent)
    (armed_start empty online) hcurrent

/-- In a run in which no reload is out of date every step meets the specification, and afterwards
too the timer only runs while the device is online. -/
theorem repeats_of_current (hlegal : (machine GURL).Legal (start empty online) events)
    (hcurrent : (machine GURL).Along Current (start empty online) events) :
    (machine GURL).Along Repeats (start empty online) events ∧
      (((machine GURL).run (start empty online) events).controller.isRunning = true →
        ((machine GURL).run (start empty online) events).controller.online = true) := by
  refine ⟨?_, (armed_run hcurrent).online⟩
  refine (Machine.along_congr (I := Armed) (E := Current) ?_ ?_ (armed_start empty online)
    (Machine.along_and _ hlegal hcurrent)).2 hcurrent
  · exact fun t event h hevent => iff_of_true (h.repeats hevent.1 hevent.2) hevent.2
  · exact fun t event h hevent => h.step hevent.2

/-- A load fails and is repeated, and the reload fails after the network was lost and is repeated
when it is back. -/
def reloadedTwice : List (Event String) :=
  [.loadStarted 0 "a", .loadFailed 0 "a" false, .timerFired, .loadStarted 1 "a",
    .networkStateChanged false, .loadFailed 1 "a" false, .networkStateChanged true, .timerFired]

theorem repeats_reloadedTwice :
    (machine String).Along Repeats (start "" true) reloadedTwice ∧
      (((machine String).run (start "" true) reloadedTwice).controller.isRunning = true →
        ((machine String).run (start "" true) reloadedTwice).controller.online = true) :=
  repeats_of_current (by decide) (by decide)

/-- A load fails while the network is down, and the next one finishes. When the network is back the
finished load is reloaded. -/
def reloadsFinished : List (Event String) :=
  [.loadStarted 0 "a", .networkStateChanged false, .loadFailed 0 "a" false, .loadStarted 1 "b",
    .loadFinished 1 "b" false, .networkStateChanged true, .timerFired]

theorem reloadsFinished_not_repeats :
    (machine String).Legal (start "" true) reloadsFinished ∧
      ¬(machine String).Along Repeats (start "" true) reloadsFinished := by
  refine ⟨by decide, fun h => ?_⟩
  have hreload := h.2.2.2.2.2.2.1.reload rfl
  revert hreload
  decide

end Runs

end Tab

end AutoReloadController

end ChromiumIos
