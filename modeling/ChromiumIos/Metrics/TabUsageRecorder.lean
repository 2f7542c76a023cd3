import ChromiumIos.Lib.Keyed
import ChromiumIos.Lib.Machine

/-!
# `TabUsageRecorder`

`tab_usage_recorder.mm` counts what happens to tabs whose pages were evicted from memory: how long a
user waits for them when they are selected again, and whether the user does wait.

- `TabUsageRecorder`: the recorder, with the tabs and what was recorded.
- `evicted`, `StartedSince`, `persistenceSamples`: what the calls so far say of a tab, of a start
  time and of the tab that was selected last.
- `machine`: the recorder after the tabs were restored, under any order of calls.
-/

namespace ChromiumIos

open Lib

/-- The states that `TabUsageRecorder::TabStateWhenSelected` is used for on this platform. -/
inductive TabStateWhenSelected
  | inMemory
  | evicted
  | evictedDueToColdStart
  | evictedDueToRendererTermination
deriving DecidableEq, Repr

/-- `TabUsageRecorder::EvictedTabUserBehavior`. -/
inductive EvictedTabUserBehavior
  | userWaited
  | userDidNotWait
  | userLeftChrome
deriving DecidableEq, Repr

/-- What the recorder asks a tab: the scheme of its pending item, if it has one, that of its last
committed URL, and whether its view is alive. -/
structure TabInfo where
  pendingItemScheme : Option String
  lastCommittedScheme : String
  isViewAlive : Bool
deriving DecidableEq, Repr

namespace TabUsageRecorder

/-- A sample of a histogram. A duration is kept with the times it is measured from and to; the start
time is missing where it is `base::TimeTicks()`. -/
inductive Sample (T : Type)
  | statusWhenSwitchedBackToForeground (state : TabStateWhenSelected)
  | pageLoadsSinceLastSwitchToEvictedTab (count : Nat)
  | restoreTime (tab : T) (start : Option Int) (now : Int)
  | restoreResult (success : Bool)
  | restoreUserPersistence (behavior : EvictedTabUserBehavior)
  | timeBetweenRestores (start now : Int)
  | timeAfterLastRestore (start now : Int)
  | recentlyReceivedMemoryWarning (value : Bool)
  | aliveRenderersCount (count : Nat)
  | recentlyAliveRenderersCount (count : Nat)
deriving DecidableEq, Repr

/-- What has happened, as far as the samples are judged by it. -/
inductive Event (T : Type)
  | sampled (sample : Sample T)
  /-- The tab was restored in the background, or its renderer terminated there. -/
  | evicted (tab : T)
  /-- The tab was selected. Whether it counts then, and its view is not alive. -/
  | switched (tab : T) (toEvicted : Bool)
  | loadStarted (tab : T)
  | reloaded (tab : T)
  | startRecorded (tab : T) (time : Int)
deriving DecidableEq, Repr

end TabUsageRecorder

open TabUsageRecorder

/-- `TabUsageRecorder`, with the tabs as they are and what has happened, the last first. -/
structure TabUsageRecorder (T : Type) where
  pageLoads : Nat
  evictedTab : Option T
  evictedTabState : TabStateWhenSelected
  modeSwitchTab : Option T
  tabCreatedSelected : Option T
  evictedTabReloadStartTime : Option Int
  restoreStartTime : Int
  terminationTimestamps : List Int
  evictedTabs : Keyed T TabStateWhenSelected
  tabs : T → TabInfo
  dcheckFailed : Bool
  history : List (Event T)

namespace TabUsageRecorder

variable {T : Type}

/-- The constructor. It leaves `mode_switch_tab_` and `tab_created_selected_` as they are. -/
def new (tabs : T → TabInfo) (modeSwitchTab tabCreatedSelected : Option T) (now : Int) :
    TabUsageRecorder T where
  pageLoads := 0
  evictedTab := none
  evictedTabState := .inMemory
  modeSwitchTab := modeSwitchTab
  tabCreatedSelected := tabCreatedSelected
  evictedTabReloadStartTime := none
  restoreStartTime := now
  terminationTimestamps := []
  evictedTabs := .empty
  tabs := tabs
  dcheckFailed := false
  history := []

variable (s : TabUsageRecorder T)

def note (event : Event T) : TabUsageRecorder T :=
  { s with history := event :: s.history }

def sample (s : TabUsageRecorder T) (sample : Sample T) : TabUsageRecorder T :=
  s.note (.sampled sample)

/-- `ResetPageLoads`. -/
def resetPageLoads : TabUsageRecorder T := { s with pageLoads := 0 }

/-- `ResetEvictedTab`. -/
def resetEvictedTab : TabUsageRecorder T :=
  { s with evictedTab := none, evictedTabState := .inMemory, evictedTabReloadStartTime := none }

/-- `ShouldIgnoreTab`. -/
def shouldIgnoreTab (tab : T) : Bool :=
  match (s.tabs tab).pendingItemScheme with
  | some scheme => scheme == "chrome"
  | none => (s.tabs tab).lastCommittedScheme == "chrome"

/-- `RecordRestoreStartTime`, for `evicted_tab_`. -/
def recordRestoreStartTime (tab : T) (now : Int) : TabUsageRecorder T :=
  let s := s.sample (.timeBetweenRestores s.restoreStartTime now)
  { s.note (.startRecorded tab now) with
    restoreStartTime := now
    evictedTabReloadStartTime := some now }

/-- `AppDidEnterBackground`. No tab is deleted here, so there is nothing to clear. -/
def appDidEnterBackground (now : Int) : TabUsageRecorder T :=
  let s := s.sample (.timeAfterLastRestore s.restoreStartTime now)
  if s.evictedTab.isSome ∧ s.evictedTabReloadStartTime.isSome then
    (s.sample (.restoreUserPersistence .userLeftChrome)).resetEvictedTab
  else s

/-- `AppWillEnterForeground`. -/
def appWillEnterForeground (now : Int) : TabUsageRecorder T :=
  { s with restoreStartTime := now }

/-- `TabCreatedForSelection`. -/
def tabCreatedForSelection (tab : T) : TabUsageRecorder T :=
  { s with tabCreatedSelected := some tab }

/-- `RecordReload`. -/
def recordReload (tab : T) : TabUsageRecorder T :=
  let s := s.note (.reloaded tab)
  if s.shouldIgnoreTab tab then s else { s with pageLoads := s.pageLoads + 1 }

variable [DecidableEq T] (s : TabUsageRecorder T)

/-- The tab gets an entry in `evicted_tabs_`. -/
def evict (tab : T) (state : TabStateWhenSelected) : TabUsageRecorder T :=
  { s.note (.evicted tab) with evictedTabs := s.evictedTabs.set tab state }

/-- `InitialRestoredTabs`. -/
def initialRestoredTabs (activeTab : Option T) (tabs : List T) : TabUsageRecorder T :=
  tabs.foldl
    (fun s tab => if some tab ≠ activeTab then s.evict tab .evictedDueToColdStart else s) s

/-- `TabAlreadyEvicted`. -/
def tabAlreadyEvicted (tab : T) : Bool := s.evictedTabs.contains tab

/-- `ExtractTabState`. -/
def extractTabState (tab : T) : TabStateWhenSelected × TabUsageRecorder T :=
  if (s.tabs tab).isViewAlive then (.inMemory, s)
  else
    match s.evictedTabs.get? tab with
    | some state => (state, { s with evictedTabs := s.evictedTabs.erase tab })
    | none => (.evicted, s)

/-- The end of `RecordTabSwitched`, once the previous tab is forgotten. -/
def recordSelection (newTab : T) (wasJustCreated : Bool) : TabUsageRecorder T :=
  let counts := !(s.shouldIgnoreTab newTab || wasJustCreated)
  let s := s.note (.switched newTab (counts && !(s.tabs newTab).isViewAlive))
  if !counts then s
  else
    let tabState := (s.extractTabState newTab).1
    let s := (s.extractTabState newTab).2
    let s :=
      if tabState ≠ .inMemory then
        let s := { s with evictedTab := some newTab, evictedTabState := tabState }
        (s.sample (.pageLoadsSinceLastSwitchToEvictedTab s.pageLoads)).resetPageLoads
      else s
    s.sample (.statusWhenSwitchedBackToForeground tabState)

/-- `RecordTabSwitched`. -/
def recordTabSwitched (oldTab : Option T) (newTab : T) : TabUsageRecorder T :=
  let wasJustCreated : Bool := some newTab = s.tabCreatedSelected
  let s := { s with tabCreatedSelected := none }
  if some newTab = oldTab ∧ some newTab ≠ s.modeSwitchTab then s
  else
    let s := { s with modeSwitchTab := none }
    match oldTab with
    | none => s
    | some oldTab =>
      let s :=
        if some oldTab = s.evictedTab ∧ oldTab ≠ newTab ∧ s.evictedTabReloadStartTime.isSome then
          s.sample (.restoreUserPersistence .userDidNotWait)
        else s
      s.resetEvictedTab.recordSelection newTab wasJustCreated

/-- `RecordPrimaryTabModelChange`. -/
def recordPrimaryTabModelChange (primaryTabModel : Bool)
    (activeTab : Option T) : TabUsageRecorder T :=
  if primaryTabModel then
    match activeTab with
    -- without a previous tab `RecordTabSwitched(nil, nil)` ends there
    | none => if s.modeSwitchTab = none then { s with tabCreatedSelected := none } else s
    | some tab => if s.modeSwitchTab = some tab then s.recordTabSwitched (some tab) tab else s
  else { s with modeSwitchTab := activeTab }

/-- `RecordPageLoadStart`. -/
def recordPageLoadStart (tab : T) (now : Int) : TabUsageRecorder T :=
  let s := s.note (.loadStarted tab)
  if !s.shouldIgnoreTab tab then
    let s := { s with pageLoads := s.pageLoads + 1 }
    if !(s.tabs tab).isViewAlive then
      let s := if s.modeSwitchTab = some tab then s.recordTabSwitched (some tab) tab else s
      if s.evictedTab = some tab then s.recordRestoreStartTime tab now else s
    else s
  else
    let s :=
      if s.evictedTab.isSome ∧ s.evictedTabReloadStartTime.isSome then
        s.sample (.restoreUserPersistence .userDidNotWait)
      else s
    s.resetEvictedTab

/-- `RecordPageLoadDone`. -/
def recordPageLoadDone (tab : T) (success : Bool) (now : Int) : TabUsageRecorder T :=
  if some tab = s.evictedTab then
    let s :=
      if success then s.sample (.restoreTime tab s.evictedTabReloadStartTime now) else s
    let s := s.sample (.restoreResult success)
    (s.sample (.restoreUserPersistence .userWaited)).resetEvictedTab
  else s

/-- `RendererTerminated`, after which the view is not alive. -/
def rendererTerminated (terminatedTab : T)
    (visible sawMemoryWarning : Bool) (liveTabsCount : Nat) (now : Int) : TabUsageRecorder T :=
  let s :=
    if !visible then
      { s.evict terminatedTab .evictedDueToRendererTermination with
        dcheckFailed := s.dcheckFailed || s.tabAlreadyEvicted terminatedTab }
    else s
  let terminationTimestamps := (s.terminationTimestamps ++ [now]).dropWhile (· < now - 2000000)
  let s := s.sample (.recentlyReceivedMemoryWarning sawMemoryWarning)
  let s := s.sample (.aliveRenderersCount liveTabsCount)
  let s := s.sample (.recentlyAliveRenderersCount (liveTabsCount + terminationTimestamps.length))
  { s with
    terminationTimestamps := terminationTimestamps
    tabs := fun tab =>
      if tab = terminatedTab then { s.tabs tab with isViewAlive := false } else s.tabs tab }

/-- A tab navigates, or its view comes or goes. -/
def changeTab (tab : T) (info : TabInfo) : TabUsageRecorder T :=
  { s with tabs := fun other => if other = tab then info else s.tabs other }

/-! ## Runs -/

inductive Op (T : Type)
  | tabCreatedForSelection (tab : T)
  | recordTabSwitched (oldTab : Option T) (newTab : T)
  | recordPrimaryTabModelChange (primaryTabModel : Bool) (activeTab : Option T)
  | recordPageLoadStart (tab : T) (now : Int)
  | recordPageLoadDone (tab : T) (success : Bool) (now : Int)
  | recordReload (tab : T)
  | rendererTerminated (terminatedTab : T) (visible sawMemoryWarning : Bool) (liveTabsCount : Nat)
      (now : Int)
  | appDidEnterBackground (now : Int)
  | appWillEnterForeground (now : Int)
  | changeTab (tab : T) (info : TabInfo)

def apply : Op T → TabUsageRecorder T
  | .tabCreatedForSelection tab => s.tabCreatedForSelection tab
  | .recordTabSwitched oldTab newTab => s.recordTabSwitched oldTab newTab
  | .recordPrimaryTabModelChange primaryTabModel activeTab =>
    s.recordPrimaryTabModelChange primaryTabModel activeTab
  | .recordPageLoadStart tab now => s.recordPageLoadStart tab now
  | .recordPageLoadDone tab success now => s.recordPageLoadDone tab success now
  | .recordReload tab => s.recordReload tab
  | .rendererTerminated terminatedTab visible sawMemoryWarning liveTabsCount now =>
    s.rendererTerminated terminatedTab visible sawMemoryWarning liveTabsCount now
  | .appDidEnterBackground now => s.appDidEnterBackground now
  | .appWillEnterForeground now => s.appWillEnterForeground now
  | .changeTab tab info => s.changeTab tab info

/-- A load completion follows a start or a reload of its tab, and a renderer is terminated only
while it is alive. -/
def Pre : Op T → Prop
  | .recordPageLoadDone tab _ _ => .loadStarted tab ∈ s.history ∨ .reloaded tab ∈ s.history
  | .rendererTerminated terminatedTab _ _ _ _ => (s.tabs terminatedTab).isViewAlive = true
  | _ => True

instance : ∀ op, Decidable (s.Pre op)
  | .recordPageLoadDone _ _ _ => instDecidableOr
  | .rendererTerminated _ _ _ _ _ => decEq _ _
  | .tabCreatedForSelection _ | .recordTabSwitched _ _ | .recordPrimaryTabModelChange _ _
  | .recordPageLoadStart _ _ | .recordReload _ | .appDidEnterBackground _
  | .appWillEnterForeground _ | .changeTab _ _ => instDecidableTrue

abbrev machine (T : Type) [DecidableEq T] : Machine (TabUsageRecorder T) (Op T) where
  Pre := Pre
  step := apply

/-! ## What the calls say -/

/-- Whether the tab was restored or terminated in the background, and not selected as an evicted tab
since. -/
def evicted : List (Event T) → T → Bool
  | [], _ => false
  | .evicted other :: before, tab => other = tab || evicted before tab
  | .switched other true :: before, tab => other ≠ tab && evicted before tab
  | _ :: before, tab => evicted before tab

/-- The start time was recorded for the tab, and no tab was selected since. -/
def StartedSince : List (Event T) → T → Int → Prop
  | [], _, _ => False
  | .startRecorded other time' :: before, tab, time =>
    other = tab ∧ time' = time ∨ StartedSince before tab time
  | .switched _ _ :: _, _, _ => False
  | _ :: before, tab, time => StartedSince before tab time

/-- The samples of `Tab.RestoreUserPersistence` since an evicted tab was selected. -/
def persistenceSamples : List (Event T) → Nat
  | [] => 0
  | .sampled (.restoreUserPersistence _) :: before => persistenceSamples before + 1
  | .switched _ true :: _ => 0
  | _ :: before => persistenceSamples before

/-- The bookkeeping is right. -/
structure Consistent : Prop where
  checked : s.dcheckFailed = false
  measured : ∀ tab start now before, .sampled (.restoreTime tab start now) :: before <:+ s.history →
    ∃ time, start = some time ∧ StartedSince before tab time
  once : persistenceSamples s.history ≤ 1

end TabUsageRecorder

end ChromiumIos
