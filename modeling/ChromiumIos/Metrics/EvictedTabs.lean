import ChromiumIos.Metrics.TabUsageRecorder

/-!
# What is recorded of evicted tabs

The entries of `evicted_tabs_` are the tabs that are evicted by what was called so far. Every call
keeps it so, and the other bookkeeping with it, except for two.

- A renderer terminates in the background when its tab still is evicted.
- A load completes for the selected evicted tab when no start was recorded for it.

`consistent_iff`: the bookkeeping is right exactly in the runs without these.
-/

namespace ChromiumIos

open Lib

namespace TabUsageRecorder

variable {T : Type} {s : TabUsageRecorder T}

/-! ## Events that say nothing of evicted tabs -/

/-- The event is no eviction, no selection and no sample that a selection is judged by. -/
def Event.Quiet : Event T → Prop
  | .sampled (.restoreTime _ _ _) | .sampled (.restoreUserPersistence _) => False
  | .evicted _ | .switched _ _ => False
  | _ => True

theorem persistenceSamples_of_quiet {event : Event T} (h : event.Quiet)
    (history : List (Event T)) :
    persistenceSamples (event :: history) = persistenceSamples history := by
  cases event with
  | evicted _ | switched _ _ => exact h.elim
  | sampled sample =>
    cases sample with
    | restoreUserPersistence _ => exact h.elim
    | _ => rfl
  | loadStarted _ | reloaded _ | startRecorded _ _ => rfl

theorem evicted_of_quiet [DecidableEq T] {event : Event T} (h : event.Quiet)
    (history : List (Event T)) (tab : T) :
    evicted (event :: history) tab = evicted history tab := by
  cases event with
  | evicted _ | switched _ _ => exact h.elim
  | sampled _ | loadStarted _ | reloaded _ | startRecorded _ _ => rfl

/-- Only a selection ends the time since the last one. -/
theorem StartedSince.cons {event : Event T} {history : List (Event T)} {tab : T} {time : Int}
    (h : StartedSince history tab time)
    (hevent : ∀ other toEvicted, event ≠ .switched other toEvicted) :
    StartedSince (event :: history) tab time := by
  cases event with
  | switched other toEvicted => exact absurd rfl (hevent other toEvicted)
  | startRecorded _ _ => exact .inr h
  | sampled _ | evicted _ | loadStarted _ | reloaded _ => exact h

/-! ## The invariant -/

variable [DecidableEq T]

/-- The bookkeeping is right, a recorded start time belongs to the evicted tab that is selected,
that tab has no persistence sample yet, and the entries are the evicted tabs. -/
structure Inv (s : TabUsageRecorder T) : Prop extends Consistent s where
  started : ∀ time, s.evictedTabReloadStartTime = some time →
    ∃ tab, s.evictedTab = some tab ∧ StartedSince s.history tab time
  waiting : s.evictedTab.isSome → persistenceSamples s.history = 0
  entries : ∀ tab, s.evictedTabs.contains tab = evicted s.history tab

/-- The invariant reads nothing but these parts. -/
theorem Inv.congr {s' : TabUsageRecorder T} (h : s.Inv) (hdcheck : s'.dcheckFailed = s.dcheckFailed)
    (htab : s'.evictedTab = s.evictedTab)
    (hstart : s'.evictedTabReloadStartTime = s.evictedTabReloadStartTime)
    (hentries : s'.evictedTabs = s.evictedTabs) (hhistory : s'.history = s.history) : s'.Inv where
  checked := hdcheck ▸ h.checked
  measured := hhistory ▸ h.measured
  once := hhistory ▸ h.once
  started := by
    rw [hstart, htab, hhistory]
    exact h.started
  waiting := by
    rw [htab, hhistory]
    exact h.waiting
  entries := by
    rw [hentries, hhistory]
    exact h.entries

omit [DecidableEq T] in
/-- What was measured stays measured when something else is recorded. -/
theorem Consistent.measured_cons (h : s.Consistent) {event : Event T}
    (hevent : ∀ tab start now, event ≠ .sampled (.restoreTime tab start now)) :
    ∀ tab start now before, .sampled (.restoreTime tab start now) :: before <:+ event :: s.history →
      ∃ time, start = some time ∧ StartedSince before tab time := by
  intro tab start now before hbefore
  rcases List.suffix_cons_iff.1 hbefore with heq | hbefore
  · exact absurd (List.cons.inj heq).1.symm (hevent tab start now)
  · exact h.measured tab start now before hbefore

theorem Inv.note (h : s.Inv) {event : Event T} (hquiet : event.Quiet) : (s.note event).Inv where
  checked := h.checked
  measured := h.measured_cons fun _ _ _ heq => by
    subst heq
    exact hquiet
  once := (persistenceSamples_of_quiet hquiet s.history).symm ▸ h.once
  started time htime := by
    obtain ⟨tab, htab, hstarted⟩ := h.started time htime
    refine ⟨tab, htab, hstarted.cons fun other toEvicted heq => ?_⟩
    subst heq
    exact hquiet
  waiting hsome := (persistenceSamples_of_quiet hquiet s.history).trans (h.waiting hsome)
  entries tab := (h.entries tab).trans (evicted_of_quiet hquiet s.history tab).symm

theorem Inv.resetEvictedTab (h : s.Inv) : s.resetEvictedTab.Inv :=
  { h with
    started := nofun
    waiting := nofun }

/-- A persistence sample is recorded while a tab waits for it, and then none waits. -/
theorem Inv.persistence (h : s.Inv) (htab : s.evictedTab.isSome)
    (behavior : EvictedTabUserBehavior) :
    (s.sample (.restoreUserPersistence behavior)).resetEvictedTab.Inv where
  checked := h.checked
  measured := h.measured_cons nofun
  once := by
    have hnone : persistenceSamples s.history = 0 := h.waiting htab
    change persistenceSamples s.history + 1 ≤ 1
    omega
  started := nofun
  waiting := nofun
  entries := h.entries

/-- A tab that a start was recorded for gets its sample. -/
theorem Inv.persistence_of_started (h : s.Inv) (hstart : s.evictedTabReloadStartTime.isSome)
    (behavior : EvictedTabUserBehavior) :
    (s.sample (.restoreUserPersistence behavior)).resetEvictedTab.Inv := by
  obtain ⟨time, htime⟩ := Option.isSome_iff_exists.1 hstart
  obtain ⟨tab, htab, -⟩ := h.started time htime
  exact h.persistence (by rw [htab]; rfl) behavior

theorem Inv.evict (h : s.Inv) (tab : T) (state : TabStateWhenSelected) :
    (s.evict tab state).Inv where
  checked := h.checked
  measured := h.measured_cons nofun
  once := h.once
  started time htime := by
    obtain ⟨other, hother, hstarted⟩ := h.started time htime
    exact ⟨other, hother, hstarted.cons nofun⟩
  waiting := h.waiting
  entries other := by
    have hother := h.entries other
    unfold Keyed.contains at hother
    by_cases heq : tab = other
    · simp [TabUsageRecorder.evict, Keyed.contains, evicted, TabUsageRecorder.note, heq]
    · simp [TabUsageRecorder.evict, Keyed.contains, evicted, TabUsageRecorder.note, heq, hother,
        Ne.symm heq]

theorem new_inv (tabs : T → TabInfo) (modeSwitchTab tabCreatedSelected : Option T) (now : Int) :
    (new tabs modeSwitchTab tabCreatedSelected now).Inv where
  checked := rfl
  measured _ _ _ _ h := nomatch List.suffix_nil.1 h
  once := Nat.zero_le 1
  started := nofun
  waiting := nofun
  entries _ := rfl

theorem Inv.initialRestoredTabs (h : s.Inv) (activeTab : Option T) (tabs : List T) :
    (s.initialRestoredTabs activeTab tabs).Inv := by
  unfold TabUsageRecorder.initialRestoredTabs
  induction tabs generalizing s with
  | nil => exact h
  | cons tab tabs ih =>
    rw [List.foldl_cons]
    split
    · exact ih (h.evict tab _)
    · exact ih h

/-! ## Selections -/

/-- A selection ends what was recorded for the tab that was selected before. The entry of the new
tab is taken out if the tab counts as evicted. -/
theorem Inv.switched (h : s.Inv) (newTab : T) (toEvicted : Bool) (evictedTab : Option T)
    (state : TabStateWhenSelected) (entries : Keyed T TabStateWhenSelected)
    (htab : evictedTab.isSome → toEvicted = true)
    (hentries : ∀ tab, entries.contains tab =
      (!(toEvicted && newTab = tab) && s.evictedTabs.contains tab)) :
    Inv { s.note (.switched newTab toEvicted) with
      evictedTab := evictedTab
      evictedTabState := state
      evictedTabReloadStartTime := none
      evictedTabs := entries } where
  checked := h.checked
  measured := h.measured_cons nofun
  once := by
    cases toEvicted with
    | true => exact Nat.zero_le 1
    | false => exact h.once
  started := nofun
  waiting hsome := by
    cases htab hsome
    rfl
  entries tab := by
    rw [hentries, h.entries]
    cases toEvicted with
    | true => simp [TabUsageRecorder.note, evicted]
    | false => simp [TabUsageRecorder.note, evicted]

theorem extractTabState_of_alive {tab : T} (halive : (s.tabs tab).isViewAlive = true) :
    s.extractTabState tab = (.inMemory, s) := by
  rw [extractTabState, if_pos halive]

theorem extractTabState_of_not_alive {tab : T} (halive : (s.tabs tab).isViewAlive = false) :
    ∃ state entries, s.extractTabState tab = (state, { s with evictedTabs := entries }) ∧
      ∀ other, entries.contains other =
        (!(true && decide (tab = other)) && s.evictedTabs.contains other) := by
  rw [extractTabState, if_neg (by simp [halive])]
  cases hentry : s.evictedTabs.get? tab with
  | some state =>
    refine ⟨state, _, rfl, fun other => ?_⟩
    by_cases heq : tab = other
    · simp [Keyed.contains, heq]
    · simp [Keyed.contains, heq, Ne.symm heq]
  | none =>
    refine ⟨.evicted, s.evictedTabs, rfl, fun other => ?_⟩
    by_cases heq : tab = other
    · simp [Keyed.contains, ← heq, hentry]
    · simp [heq]

theorem Inv.recordSelection (h : s.Inv) (hstart : s.evictedTabReloadStartTime = none)
    (htab : s.evictedTab = none) (newTab : T) (wasJustCreated : Bool) :
    (s.recordSelection newTab wasJustCreated).Inv := by
  -- a selection that finds nothing to count
  have hplain : Inv (s.note (.switched newTab false)) := by
    have hkept := h.switched newTab false none s.evictedTabState s.evictedTabs nofun
      fun tab => by simp
    exact hkept.congr rfl htab hstart rfl rfl
  unfold TabUsageRecorder.recordSelection
  cases hcounts : !(s.shouldIgnoreTab newTab || wasJustCreated) with
  | false => exact hplain
  | true =>
    cases halive : (s.tabs newTab).isViewAlive with
    | true =>
      have heq : (s.note (.switched newTab false)).extractTabState newTab =
          (.inMemory, s.note (.switched newTab false)) := extractTabState_of_alive halive
      simp only [Bool.not_true, Bool.and_false, Bool.false_eq_true, if_false, heq]
      exact hplain.note trivial
    | false =>
      obtain ⟨state, entries, heq, hentries⟩ : ∃ state entries,
          (s.note (.switched newTab true)).extractTabState newTab = (state, _) ∧ _ :=
        extractTabState_of_not_alive halive
      simp only [Bool.not_true, Bool.not_false, Bool.and_true, Bool.false_eq_true, if_false, heq]
      split
      · have hsel := h.switched newTab true (some newTab) state entries (fun _ => rfl) hentries
        have hcounted : Inv (TabUsageRecorder.sample _
            (.pageLoadsSinceLastSwitchToEvictedTab s.pageLoads)) := hsel.note trivial
        refine Inv.note ?_ trivial
        exact hcounted.congr rfl rfl hstart rfl rfl
      · have hsel := h.switched newTab true none state entries nofun hentries
        refine Inv.note ?_ trivial
        exact hsel.congr rfl htab hstart rfl rfl

theorem Inv.recordTabSwitched (h : s.Inv) (oldTab : Option T) (newTab : T) :
    (s.recordTabSwitched oldTab newTab).Inv := by
  unfold TabUsageRecorder.recordTabSwitched
  dsimp only
  split
  · exact h.congr rfl rfl rfl rfl rfl
  · cases oldTab with
    | none => exact h.congr rfl rfl rfl rfl rfl
    | some oldTab =>
      refine Inv.recordSelection ?_ rfl rfl newTab _
      split
      case isTrue hwaiting =>
        have hstart : s.evictedTabReloadStartTime.isSome := hwaiting.2.2
        exact (h.persistence_of_started hstart .userDidNotWait).congr rfl rfl rfl rfl rfl
      case isFalse => exact h.resetEvictedTab.congr rfl rfl rfl rfl rfl

/-! ## The other calls -/

theorem Inv.recordPrimaryTabModelChange (h : s.Inv) (primaryTabModel : Bool)
    (activeTab : Option T) : (s.recordPrimaryTabModelChange primaryTabModel activeTab).Inv := by
  unfold TabUsageRecorder.recordPrimaryTabModelChange
  cases primaryTabModel with
  | false => exact h.congr rfl rfl rfl rfl rfl
  | true =>
    cases activeTab with
    | none =>
      dsimp only
      split
      · split
        · exact h.congr rfl rfl rfl rfl rfl
        · exact h
      · exact h.congr rfl rfl rfl rfl rfl
    | some tab =>
      dsimp only
      split
      · split
        · exact h.recordTabSwitched _ _
        · exact h
      · exact h.congr rfl rfl rfl rfl rfl

/-- The start is recorded for the evicted tab that is selected. -/
theorem Inv.recordRestoreStartTime (h : s.Inv) {tab : T} (htab : s.evictedTab = some tab)
    (now : Int) : (s.recordRestoreStartTime tab now).Inv := by
  have hsampled : Inv (s.sample (.timeBetweenRestores s.restoreStartTime now)) := h.note trivial
  have hnoted : Inv (TabUsageRecorder.note _ (.startRecorded tab now)) := hsampled.note trivial
  exact
    { hnoted with
      started := fun time htime => by
        cases htime
        exact ⟨tab, htab, .inl ⟨rfl, rfl⟩⟩ }

theorem Inv.startIfEvicted (h : s.Inv) (tab : T) (now : Int) :
    Inv (if s.evictedTab = some tab then s.recordRestoreStartTime tab now else s) := by
  split
  case isTrue htab => exact h.recordRestoreStartTime htab now
  case isFalse => exact h

theorem Inv.recordPageLoadStart (h : s.Inv) (tab : T) (now : Int) :
    (s.recordPageLoadStart tab now).Inv := by
  have hnoted : Inv (s.note (.loadStarted tab)) := h.note trivial
  unfold TabUsageRecorder.recordPageLoadStart
  dsimp only
  split
  · have hloads : Inv { s.note (.loadStarted tab) with pageLoads := s.pageLoads + 1 } :=
      hnoted.congr rfl rfl rfl rfl rfl
    split
    · split
      · exact (hloads.recordTabSwitched (some tab) tab).startIfEvicted tab now
      · exact hloads.startIfEvicted tab now
    · exact hloads
  · split
    case isTrue hwaiting => exact (hnoted.persistence_of_started hwaiting.2 .userDidNotWait)
    case isFalse => exact hnoted.resetEvictedTab

theorem Inv.recordReload (h : s.Inv) (tab : T) : (s.recordReload tab).Inv := by
  have hnoted : Inv (s.note (.reloaded tab)) := h.note trivial
  unfold TabUsageRecorder.recordReload
  dsimp only
  split
  · exact hnoted
  · exact hnoted.congr rfl rfl rfl rfl rfl

theorem Inv.appDidEnterBackground (h : s.Inv) (now : Int) : (s.appDidEnterBackground now).Inv := by
  have hsampled : Inv (s.sample (.timeAfterLastRestore s.restoreStartTime now)) := h.note trivial
  unfold TabUsageRecorder.appDidEnterBackground
  dsimp only
  split
  case isTrue hwaiting => exact hsampled.persistence_of_started hwaiting.2 .userLeftChrome
  case isFalse => exact hsampled

/-- The tab waited, and the load time is measured from the start that was recorded for it. -/
theorem Inv.restoreTime (h : s.Inv) {tab : T} (htab : s.evictedTab = some tab)
    (hstart : s.evictedTabReloadStartTime.isSome) (now : Int) :
    Inv (s.sample (.restoreTime tab s.evictedTabReloadStartTime now)) where
  checked := h.checked
  measured := by
    intro tab' start now' before hbefore
    rcases List.suffix_cons_iff.1 hbefore with heq | hbefore
    · obtain ⟨time, htime⟩ := Option.isSome_iff_exists.1 hstart
      obtain ⟨other, hother, hstarted⟩ := h.started time htime
      cases htab.symm.trans hother
      cases heq
      exact ⟨time, htime, hstarted⟩
    · exact h.measured tab' start now' before hbefore
  once := h.once
  started time htime := by
    obtain ⟨other, hother, hstarted⟩ := h.started time htime
    exact ⟨other, hother, hstarted.cons nofun⟩
  waiting := h.waiting
  entries := h.entries

/-- A load that completes for the evicted tab after its start was recorded. -/
theorem Inv.recordPageLoadDone (h : s.Inv) (tab : T) (success : Bool) (now : Int)
    (hstart : success = true → s.evictedTab = some tab → s.evictedTabReloadStartTime.isSome) :
    (s.recordPageLoadDone tab success now).Inv := by
  unfold TabUsageRecorder.recordPageLoadDone
  split
  case isFalse => exact h
  case isTrue htab =>
    have hsome : s.evictedTab.isSome := by rw [← htab]; rfl
    cases success with
    | false =>
      have hresult : Inv (s.sample (.restoreResult false)) := h.note trivial
      exact hresult.persistence hsome .userWaited
    | true =>
      have hmeasured := h.restoreTime htab.symm (hstart rfl htab.symm) now
      have hresult : Inv (TabUsageRecorder.sample _ (.restoreResult true)) :=
        hmeasured.note trivial
      exact hresult.persistence hsome .userWaited

/-- What follows in `RendererTerminated` says nothing of evicted tabs. -/
theorem Inv.afterTermination (h : s.Inv) (sawMemoryWarning : Bool) (alive recently : Nat)
    (terminationTimestamps : List Int) (tabs : T → TabInfo) :
    Inv { ((s.sample (.recentlyReceivedMemoryWarning sawMemoryWarning)).sample
        (.aliveRenderersCount alive)).sample (.recentlyAliveRenderersCount recently) with
      terminationTimestamps := terminationTimestamps
      tabs := tabs } := by
  have hwarned : Inv (s.sample (.recentlyReceivedMemoryWarning sawMemoryWarning)) :=
    h.note trivial
  have halive : Inv ((s.sample _).sample (.aliveRenderersCount alive)) := hwarned.note trivial
  have hrecently : Inv (((s.sample _).sample _).sample (.recentlyAliveRenderersCount recently)) :=
    halive.note trivial
  exact hrecently.congr rfl rfl rfl rfl rfl

/-- A renderer that terminates, in the background only when its tab is not evicted. -/
theorem Inv.rendererTerminated (h : s.Inv) (terminatedTab : T) (visible sawMemoryWarning : Bool)
    (liveTabsCount : Nat) (now : Int)
    (hevicted : visible = false → evicted s.history terminatedTab = false) :
    (s.rendererTerminated terminatedTab visible sawMemoryWarning liveTabsCount now).Inv := by
  unfold TabUsageRecorder.rendererTerminated
  refine Inv.afterTermination ?_ _ _ _ _ _
  cases visible with
  | true => exact h
  | false =>
    have hnone : s.tabAlreadyEvicted terminatedTab = false :=
      (h.entries terminatedTab).trans (hevicted rfl)
    have hentry := h.evict terminatedTab .evictedDueToRendererTermination
    refine hentry.congr ?_ rfl rfl rfl rfl
    rw [hnone, Bool.or_false]
    rfl

/-! ## Runs -/

/-- A background termination finds its tab not evicted, and a load that succeeds for the evicted tab
that is selected finds a start time. -/
def Orderly (s : TabUsageRecorder T) : Op T → Prop
  | .rendererTerminated terminatedTab visible _ _ _ =>
    visible = false → evicted s.history terminatedTab = false
  | .recordPageLoadDone tab success _ =>
    success = true → s.evictedTab = some tab → s.evictedTabReloadStartTime.isSome
  | _ => True

/-- The step lemma: an orderly call keeps the bookkeeping right. -/
theorem Inv.apply (h : s.Inv) (op : Op T) (horderly : s.Orderly op) : (s.apply op).Inv := by
  cases op with
  | tabCreatedForSelection tab => exact h.congr rfl rfl rfl rfl rfl
  | recordTabSwitched oldTab newTab => exact h.recordTabSwitched oldTab newTab
  | recordPrimaryTabModelChange primaryTabModel activeTab =>
    exact h.recordPrimaryTabModelChange primaryTabModel activeTab
  | recordPageLoadStart tab now => exact h.recordPageLoadStart tab now
  | recordPageLoadDone tab success now => exact h.recordPageLoadDone tab success now horderly
  | recordReload tab => exact h.recordReload tab
  | rendererTerminated terminatedTab visible sawMemoryWarning liveTabsCount now =>
    exact h.rendererTerminated terminatedTab visible sawMemoryWarning liveTabsCount now horderly
  | appDidEnterBackground now => exact h.appDidEnterBackground now
  | appWillEnterForeground now => exact h.congr rfl rfl rfl rfl rfl
  | changeTab tab info => exact h.congr rfl rfl rfl rfl rfl

/-- Any other call shows: the check fails, or the time is measured from no start. -/
theorem Inv.detect (h : s.Inv) (op : Op T) (hbad : ¬s.Orderly op) : ¬(s.apply op).Consistent := by
  intro hconsistent
  cases op with
  | rendererTerminated terminatedTab visible sawMemoryWarning liveTabsCount now =>
    have hfound : visible = false ∧ evicted s.history terminatedTab = true := by
      simpa [Orderly] using hbad
    obtain ⟨rfl, hevicted⟩ := hfound
    have hchecked : (s.dcheckFailed || s.tabAlreadyEvicted terminatedTab) = false :=
      hconsistent.checked
    rw [tabAlreadyEvicted, h.entries, hevicted, Bool.or_true] at hchecked
    exact absurd hchecked (by decide)
  | recordPageLoadDone tab success now =>
    have hmissing : success = true ∧ s.evictedTab = some tab ∧
        s.evictedTabReloadStartTime = none := by
      simpa [Orderly] using hbad
    obtain ⟨rfl, htab, hstart⟩ := hmissing
    have hbefore : (.sampled (.restoreTime tab none now) :: s.history : List (Event T)) <:+
        (s.apply (.recordPageLoadDone tab true now)).history := by
      simp only [TabUsageRecorder.apply, TabUsageRecorder.recordPageLoadDone, htab, if_true, hstart]
      exact ⟨[_, _], rfl⟩
    obtain ⟨time, htime, -⟩ := hconsistent.measured tab none now s.history hbefore
    exact absurd htime nofun
  | tabCreatedForSelection _ | recordTabSwitched _ _ | recordPrimaryTabModelChange _ _
  | recordPageLoadStart _ _ | recordReload _ | appDidEnterBackground _
  | appWillEnterForeground _ | changeTab _ _ => exact hbad trivial

/-- The recorder once the tabs of the last session were restored. -/
def restored (tabs : T → TabInfo) (modeSwitchTab tabCreatedSelected : Option T) (now : Int)
    (activeTab : Option T) (restoredTabs : List T) : TabUsageRecorder T :=
  (new tabs modeSwitchTab tabCreatedSelected now).initialRestoredTabs activeTab restoredTabs

/-- **The bookkeeping of evicted tabs is right** after every part of a run if and only if every call
of the run is orderly. -/
theorem consistent_iff (tabs : T → TabInfo) (modeSwitchTab tabCreatedSelected : Option T)
    (now : Int) (activeTab : Option T) (restoredTabs : List T) (ops : List (Op T)) :
    (∀ before, before <+: ops → Consistent ((machine T).run
      (restored tabs modeSwitchTab tabCreatedSelected now activeTab restoredTabs) before)) ↔
    (machine T).Along Orderly
      (restored tabs modeSwitchTab tabCreatedSelected now activeTab restoredTabs) ops :=
  Machine.always_iff_along (I := Inv) (C := fun _ _ => True) (fun _ h => h.toConsistent)
    (fun _ op h _ horderly => h.apply op horderly) (fun _ op h _ hbad => h.detect op hbad)
    ((new_inv tabs modeSwitchTab tabCreatedSelected now).initialRestoredTabs activeTab restoredTabs)
    (Machine.along_of_forall (machine T) (fun _ _ => trivial) _ ops)

section Failing

/-- Tab 1 is restored in the background, with the given scheme. -/
def twoTabs (scheme : String) : TabUsageRecorder Nat :=
  restored
    (fun tab => { pendingItemScheme := none
                  lastCommittedScheme := if tab = 1 then scheme else "http"
                  isViewAlive := tab ≠ 1 })
    none none 0 (some 0) [0, 1]

/-- The evicted tab is selected and reloaded. -/
def reloadRun : List (Op Nat) :=
  [.recordTabSwitched (some 0) 1, .recordReload 1, .recordPageLoadDone 1 true 5]

/-- The evicted tab is selected while it shows a `chrome` page, navigates to another page, is left
and terminates. -/
def ignoredRun : List (Op Nat) :=
  [.recordTabSwitched (some 0) 1, .changeTab 1 ⟨none, "http", true⟩, .recordTabSwitched (some 1) 0,
    .rendererTerminated 1 false false 1 9]

/-- A load time is measured from no start, and a tab that is evicted is evicted again. -/
theorem reload_and_ignored_not_consistent :
    ((machine Nat).Legal (twoTabs "http") reloadRun ∧
      ¬Consistent ((machine Nat).run (twoTabs "http") reloadRun)) ∧
    ((machine Nat).Legal (twoTabs "chrome") ignoredRun ∧
      ¬Consistent ((machine Nat).run (twoTabs "chrome") ignoredRun)) := by
  refine ⟨⟨by decide +kernel, fun h => ?_⟩, ⟨by decide +kernel, fun h => ?_⟩⟩
  · have hmeasured : ∃ time, none = some time ∧ StartedSince _ 1 time :=
      h.measured 1 none 5 _ ⟨[_, _], rfl⟩
    obtain ⟨_, hnone, _⟩ := hmeasured
    exact absurd hnone nofun
  · exact absurd h.checked (by decide +kernel)

end Failing

end TabUsageRecorder

end ChromiumIos
