import Mathlib.Data.List.Induction
import Mathlib.Data.List.Nodup
import ChromiumIos.Lib.Keyed
import ChromiumIos.Lib.Machine

/-!
# `SessionServiceIOS`

`session_service_ios.mm`: sessions are saved now or after a delay. A factory that
waits for its delayed save is pending under the path of the session file; a later
factory for that path takes its place.

- `step_inv`: every pending path has one delayed save, unless an immediate save
  cancels the delayed saves of other paths.
- `no_save_lost_iff`: that is the only way in which a save is lost.
-/

namespace ChromiumIos

open Lib List

/-- A task of `_taskRunner`. -/
inductive FileTask (NSData : Type)
  /-- `performSaveSessionData:sessionPath:`. -/
  | performSaveSessionData (sessionData : NSData) (sessionPath : String)
  /-- The task of `deleteLastSessionFileInDirectory:`. -/
  | removeFile (sessionPath : String)
deriving DecidableEq, Repr

/-- A session that was archived, and the factory that made it. -/
structure ArchivedSession (Factory NSData : Type) where
  sessionPath : String
  factory : Factory
  sessionData : NSData
deriving DecidableEq, Repr

/-- The service with the delayed performs of its run loop, the tasks of its task
runner and the session files. `archived` only records what happened. -/
structure SessionServiceIOS (Factory NSData : Type) where
  pendingSessions : Keyed String Factory
  /-- The paths of `performSelector:withObject:afterDelay:`. -/
  delayedPerforms : List String
  taskRunner : List (FileTask NSData)
  files : Keyed String NSData
  archived : List (ArchivedSession Factory NSData)
deriving DecidableEq, Repr

namespace SessionServiceIOS

variable {Factory NSData : Type}

/-- `initWithTaskRunner:`, with the files that are there. -/
def initWithTaskRunner (files : Keyed String NSData) : SessionServiceIOS Factory NSData where
  pendingSessions := .empty
  delayedPerforms := []
  taskRunner := []
  files
  archived := []

/-! ## Methods

`archive` is what archiving the session of a factory gives at the time of the
call; it gives nothing when it raises an exception. -/

/-- `performSaveToPathInBackground:`. -/
def performSaveToPathInBackground (archive : Factory → Option NSData)
    (s : SessionServiceIOS Factory NSData) (sessionPath : String) :
    SessionServiceIOS Factory NSData :=
  match s.pendingSessions.get? sessionPath with
  | none => s
  | some factory =>
    let s := { s with pendingSessions := s.pendingSessions.erase sessionPath }
    match archive factory with
    | none => s
    | some sessionData =>
      { s with
        taskRunner := s.taskRunner ++ [.performSaveSessionData sessionData sessionPath]
        archived := s.archived ++ [⟨sessionPath, factory, sessionData⟩] }

/-- `saveSession:directory:immediately:`, for the path of the directory. -/
def saveSession (archive : Factory → Option NSData) (s : SessionServiceIOS Factory NSData)
    (factory : Factory) (sessionPath : String) (immediately : Bool) :
    SessionServiceIOS Factory NSData :=
  let hadPendingSession := s.pendingSessions.contains sessionPath
  let s := { s with pendingSessions := s.pendingSessions.set sessionPath factory }
  if immediately then
    -- `cancelPreviousPerformRequestsWithTarget:` cancels those of every path
    performSaveToPathInBackground archive { s with delayedPerforms := [] } sessionPath
  else if !hadPendingSession then
    { s with delayedPerforms := s.delayedPerforms ++ [sessionPath] }
  else s

/-- A delayed perform of the run loop fires. -/
def fireDelayedPerform (archive : Factory → Option NSData) (s : SessionServiceIOS Factory NSData)
    (sessionPath : String) : SessionServiceIOS Factory NSData :=
  performSaveToPathInBackground archive
    { s with delayedPerforms := s.delayedPerforms.erase sessionPath } sessionPath

/-- `deleteLastSessionFileInDirectory:`. -/
def deleteLastSessionFile (s : SessionServiceIOS Factory NSData) (sessionPath : String) :
    SessionServiceIOS Factory NSData :=
  { s with taskRunner := s.taskRunner ++ [.removeFile sessionPath] }

/-- The task runner runs its first task, which may fail. -/
def runTask (s : SessionServiceIOS Factory NSData) (success : Bool) :
    SessionServiceIOS Factory NSData :=
  match s.taskRunner with
  | [] => s
  | task :: rest =>
    let s := { s with taskRunner := rest }
    match success, task with
    | false, _ => s
    | true, .performSaveSessionData sessionData sessionPath =>
      { s with files := s.files.set sessionPath sessionData }
    | true, .removeFile sessionPath => { s with files := s.files.erase sessionPath }

/-! ## Runs -/

inductive Op (Factory NSData : Type)
  | saveSession (archive : Factory → Option NSData) (factory : Factory) (directory : String)
      (immediately : Bool)
  | fireDelayedPerform (archive : Factory → Option NSData) (sessionPath : String)
  | deleteLastSessionFile (directory : String)
  | runTask (success : Bool)

/-- `sessionPathForDirectory` is `stringByAppendingPathComponent:@"session.plist"`. -/
def step (sessionPathForDirectory : String → String) (s : SessionServiceIOS Factory NSData) :
    Op Factory NSData → SessionServiceIOS Factory NSData
  | .saveSession archive factory directory immediately =>
    s.saveSession archive factory (sessionPathForDirectory directory) immediately
  | .fireDelayedPerform archive sessionPath => s.fireDelayedPerform archive sessionPath
  | .deleteLastSessionFile directory => s.deleteLastSessionFile (sessionPathForDirectory directory)
  | .runTask success => s.runTask success

/-- What the run loop fires was scheduled. -/
def Op.Pre (s : SessionServiceIOS Factory NSData) : Op Factory NSData → Prop
  | .fireDelayedPerform _ sessionPath => sessionPath ∈ s.delayedPerforms
  | _ => True

instance (s : SessionServiceIOS Factory NSData) : ∀ op : Op Factory NSData, Decidable (op.Pre s)
  | .fireDelayedPerform _ sessionPath => inferInstanceAs (Decidable (sessionPath ∈ _))
  | .saveSession .. | .deleteLastSessionFile _ | .runTask _ => instDecidableTrue

abbrev machine (Factory NSData : Type) (sessionPathForDirectory : String → String) :
    Machine (SessionServiceIOS Factory NSData) (Op Factory NSData) where
  Pre s op := op.Pre s
  step := step sessionPathForDirectory

/-- The factory of the most recent `saveSession` for the path. -/
def latestFactory (sessionPathForDirectory : String → String) (sessionPath : String) :
    List (Op Factory NSData) → Option Factory :=
  List.foldl (fun latest op =>
    match op with
    | .saveSession _ factory directory _ =>
      if sessionPathForDirectory directory = sessionPath then some factory else latest
    | _ => latest) none

section Runs

variable (sessionPathForDirectory : String → String) (files : Keyed String NSData)

/-- The state after the calls `ops`. -/
def after (ops : List (Op Factory NSData)) : SessionServiceIOS Factory NSData :=
  (machine Factory NSData sessionPathForDirectory).run (initWithTaskRunner files) ops

variable (s : SessionServiceIOS Factory NSData)

/-- Every pending factory has a delayed save. -/
def Scheduled : Prop :=
  ∀ sessionPath, s.pendingSessions.get? sessionPath ≠ none → sessionPath ∈ s.delayedPerforms

/-- No save is lost: a pending factory has one delayed save, what is archived comes
from the factory that was given last, and what is written was archived. -/
structure NoSaveLost (ops : List (Op Factory NSData)) : Prop where
  scheduled : ∀ before, before <+: ops → (after sessionPathForDirectory files before).Scheduled
  once : ∀ before, before <+: ops →
    (after sessionPathForDirectory files before).delayedPerforms.Nodup
  latest : ∀ before op session, before ++ [op] <+: ops →
    (after sessionPathForDirectory files (before ++ [op])).archived =
      (after sessionPathForDirectory files before).archived ++ [session] →
    latestFactory sessionPathForDirectory session.sessionPath (before ++ [op]) =
      some session.factory
  written : ∀ before, before <+: ops → ∀ sessionPath sessionData,
    (after sessionPathForDirectory files before).files.get? sessionPath = some sessionData →
    files.get? sessionPath = some sessionData ∨
      ∃ factory, ⟨sessionPath, factory, sessionData⟩ ∈
        (after sessionPathForDirectory files before).archived

/-- An immediate save finds no factory pending for another path, whose delayed save
it would cancel. -/
def CancelsNoOther : Op Factory NSData → Prop
  | .saveSession _ _ directory true =>
    ∀ sessionPath, s.pendingSessions.get? sessionPath ≠ none →
      sessionPath = sessionPathForDirectory directory
  | _ => True

instance decidableCancelsNoOther :
    ∀ op : Op Factory NSData, Decidable (CancelsNoOther sessionPathForDirectory s op)
  | .saveSession _ _ directory true =>
    inferInstanceAs (Decidable (∀ sessionPath, _ → sessionPath = sessionPathForDirectory directory))
  | .saveSession _ _ _ false | .fireDelayedPerform _ _ | .deleteLastSessionFile _ | .runTask _ =>
    instDecidableTrue

end Runs

/-! ## What the methods do -/

section Methods

variable (archive : Factory → Option NSData) (s : SessionServiceIOS Factory NSData)

@[simp] theorem get?_performSave (sessionPath other : String) :
    (performSaveToPathInBackground archive s sessionPath).pendingSessions.get? other =
      if other = sessionPath then none else s.pendingSessions.get? other := by
  rw [performSaveToPathInBackground]
  cases hpending : s.pendingSessions.get? sessionPath with
  | none =>
    show s.pendingSessions.get? other = _
    split
    · next h => rw [h, hpending]
    · rfl
  | some factory =>
    dsimp only
    split <;> exact Keyed.get?_erase ..

@[simp] theorem delayedPerforms_performSave (sessionPath : String) :
    (performSaveToPathInBackground archive s sessionPath).delayedPerforms = s.delayedPerforms := by
  rw [performSaveToPathInBackground]
  split
  · rfl
  · dsimp only
    split <;> rfl

/-- At most the pending factory of the path is archived, and a task is posted for
what is archived. -/
theorem archived_performSave (sessionPath : String) :
    let s' := performSaveToPathInBackground archive s sessionPath
    s'.files = s.files ∧
      ((s'.archived = s.archived ∧ s'.taskRunner = s.taskRunner) ∨
        ∃ factory sessionData, s.pendingSessions.get? sessionPath = some factory ∧
          s'.archived = s.archived ++ [⟨sessionPath, factory, sessionData⟩] ∧
          s'.taskRunner = s.taskRunner ++ [.performSaveSessionData sessionData sessionPath]) := by
  cases hpending : s.pendingSessions.get? sessionPath with
  | none => simp [performSaveToPathInBackground, hpending]
  | some factory =>
    cases harchive : archive factory with
    | none => simp [performSaveToPathInBackground, hpending, harchive]
    | some sessionData => simp [performSaveToPathInBackground, hpending, harchive]

variable (factory : Factory)

theorem saveSession_delayed (sessionPath : String) :
    saveSession archive s factory sessionPath false = { s with
      pendingSessions := s.pendingSessions.set sessionPath factory
      delayedPerforms :=
        if s.pendingSessions.contains sessionPath then s.delayedPerforms
        else s.delayedPerforms ++ [sessionPath] } := by
  rw [saveSession, if_neg Bool.false_ne_true]
  cases s.pendingSessions.contains sessionPath with
  | true => rfl
  | false => rfl

theorem get?_saveSession (sessionPath other : String) (immediately : Bool) :
    (saveSession archive s factory sessionPath immediately).pendingSessions.get? other =
      if other = sessionPath then if immediately then none else some factory
      else s.pendingSessions.get? other := by
  cases immediately with
  | true =>
    show (performSaveToPathInBackground archive _ sessionPath).pendingSessions.get? other = _
    rw [get?_performSave, Keyed.get?_set]
    split <;> rfl
  | false =>
    rw [saveSession_delayed]
    exact Keyed.get?_set ..

theorem delayedPerforms_saveSession (sessionPath : String) (immediately : Bool) :
    (saveSession archive s factory sessionPath immediately).delayedPerforms =
      if immediately then []
      else if s.pendingSessions.contains sessionPath then s.delayedPerforms
      else s.delayedPerforms ++ [sessionPath] := by
  cases immediately with
  | true => exact delayedPerforms_performSave ..
  | false =>
    rw [saveSession_delayed]
    rfl

/-- What is archived is what `factory` made, since it is the pending one by then. -/
theorem archived_saveSession (sessionPath : String) (immediately : Bool) :
    let s' := saveSession archive s factory sessionPath immediately
    s'.files = s.files ∧
      ((s'.archived = s.archived ∧ s'.taskRunner = s.taskRunner) ∨
        ∃ sessionData, s'.archived = s.archived ++ [⟨sessionPath, factory, sessionData⟩] ∧
          s'.taskRunner = s.taskRunner ++ [.performSaveSessionData sessionData sessionPath]) := by
  cases immediately with
  | true =>
    obtain ⟨hfiles, hsame | ⟨latest, sessionData, hlatest, harchived⟩⟩ :=
      archived_performSave archive
      { s with pendingSessions := s.pendingSessions.set sessionPath factory, delayedPerforms := [] }
      sessionPath
    · exact ⟨hfiles, .inl hsame⟩
    · rw [Keyed.get?_set, if_pos rfl, Option.some.injEq] at hlatest
      subst hlatest
      exact ⟨hfiles, .inr ⟨sessionData, harchived⟩⟩
  | false =>
    rw [saveSession_delayed]
    exact ⟨rfl, .inl ⟨rfl, rfl⟩⟩

end Methods

/-! ## Every step -/

section Steps

variable {sessionPathForDirectory : String → String} {s : SessionServiceIOS Factory NSData}

/-- Whatever the calls, a delayed save is one of a pending factory, and there is one
for each path at most. -/
structure Tracked (s : SessionServiceIOS Factory NSData) : Prop where
  pending : ∀ sessionPath ∈ s.delayedPerforms, s.pendingSessions.get? sessionPath ≠ none
  once : s.delayedPerforms.Nodup

theorem Tracked.saveSession (h : Tracked s) (archive : Factory → Option NSData)
    (factory : Factory) (sessionPath : String) (immediately : Bool) :
    Tracked (s.saveSession archive factory sessionPath immediately) := by
  cases immediately with
  | true =>
    constructor
    · rw [delayedPerforms_saveSession]
      simp
    · rw [delayedPerforms_saveSession]
      exact nodup_nil
  | false =>
    rw [saveSession_delayed]
    constructor
    · intro other hother
      show (s.pendingSessions.set sessionPath factory).get? other ≠ none
      rw [Keyed.get?_set]
      by_cases heq : other = sessionPath
      · simp [heq]
      · rw [if_neg heq]
        refine h.pending other ?_
        dsimp only at hother
        split at hother
        · exact hother
        · simpa [heq] using hother
    · show (if s.pendingSessions.contains sessionPath then s.delayedPerforms
        else s.delayedPerforms ++ [sessionPath]).Nodup
      split
      · exact h.once
      · next hnone =>
        refine h.once.append (nodup_singleton _) ?_
        rw [disjoint_singleton]
        intro hmem
        have hpending := h.pending sessionPath hmem
        rw [Option.ne_none_iff_isSome] at hpending
        exact hnone hpending

theorem Tracked.fireDelayedPerform (h : Tracked s) (archive : Factory → Option NSData)
    (sessionPath : String) : Tracked (s.fireDelayedPerform archive sessionPath) := by
  constructor
  · intro other hother
    rw [SessionServiceIOS.fireDelayedPerform, delayedPerforms_performSave, h.once.mem_erase_iff]
      at hother
    rw [SessionServiceIOS.fireDelayedPerform, get?_performSave, if_neg hother.1]
    exact h.pending other hother.2
  · rw [SessionServiceIOS.fireDelayedPerform, delayedPerforms_performSave]
    exact h.once.erase _

theorem runTask_pendingSessions (success : Bool) :
    (s.runTask success).pendingSessions = s.pendingSessions ∧
      (s.runTask success).delayedPerforms = s.delayedPerforms ∧
      (s.runTask success).archived = s.archived := by
  rw [runTask]
  split
  · exact ⟨rfl, rfl, rfl⟩
  · dsimp only
    split <;> exact ⟨rfl, rfl, rfl⟩

theorem Tracked.congr {t : SessionServiceIOS Factory NSData} (h : Tracked s)
    (hpending : t.pendingSessions = s.pendingSessions)
    (hdelayed : t.delayedPerforms = s.delayedPerforms) : Tracked t :=
  ⟨hdelayed ▸ hpending ▸ h.pending, hdelayed ▸ h.once⟩

theorem Tracked.step (h : Tracked s) (op : Op Factory NSData) :
    Tracked (s.step sessionPathForDirectory op) := by
  cases op with
  | saveSession archive factory directory immediately => exact h.saveSession ..
  | fireDelayedPerform archive sessionPath => exact h.fireDelayedPerform ..
  | deleteLastSessionFile directory => exact h.congr rfl rfl
  | runTask success =>
    obtain ⟨hpending, hdelayed, -⟩ := runTask_pendingSessions (s := s) success
    exact h.congr hpending hdelayed

/-- Saving keeps every pending factory scheduled, unless it cancels other saves. -/
theorem Scheduled.step (h : s.Scheduled) (htracked : Tracked s) {op : Op Factory NSData}
    (hpre : op.Pre s) (hother : CancelsNoOther sessionPathForDirectory s op) :
    (s.step sessionPathForDirectory op).Scheduled := by
  intro path hpath
  cases op with
  | saveSession archive factory directory immediately =>
    simp only [SessionServiceIOS.step, get?_saveSession] at hpath
    simp only [SessionServiceIOS.step, delayedPerforms_saveSession]
    cases immediately with
    | true =>
      split at hpath
      · simp at hpath
      · next hne => exact absurd (hother path hpath) hne
    | false =>
      rw [if_neg Bool.false_ne_true]
      split at hpath
      · next heq =>
        subst heq
        split
        · next hcontains => exact h _ (Option.ne_none_iff_isSome.2 hcontains)
        · simp
      · split
        · exact h path hpath
        · exact mem_append_left _ (h path hpath)
  | fireDelayedPerform archive sessionPath =>
    simp only [SessionServiceIOS.step, fireDelayedPerform, get?_performSave] at hpath
    simp only [SessionServiceIOS.step, fireDelayedPerform, delayedPerforms_performSave]
    split at hpath
    · simp at hpath
    · next hne => exact htracked.once.mem_erase_iff.2 ⟨hne, h path hpath⟩
  | deleteLastSessionFile directory => exact h path hpath
  | runTask success =>
    obtain ⟨hpending, hdelayed, -⟩ := runTask_pendingSessions (s := s) success
    simp only [SessionServiceIOS.step, hpending, hdelayed] at hpath ⊢
    exact h path hpath

/-- An immediate save that finds another factory pending leaves it without its
delayed save. -/
theorem not_scheduled_step {op : Op Factory NSData}
    (hother : ¬CancelsNoOther sessionPathForDirectory s op) :
    ¬(s.step sessionPathForDirectory op).Scheduled := by
  intro h
  cases op with
  | saveSession archive factory directory immediately =>
    cases immediately with
    | true =>
      simp only [CancelsNoOther, not_forall] at hother
      obtain ⟨path, hpending, hne⟩ := hother
      have hmem := h path (by
        rw [SessionServiceIOS.step, get?_saveSession, if_neg hne]
        exact hpending)
      rw [SessionServiceIOS.step, delayedPerforms_saveSession] at hmem
      simp at hmem
    | false => exact hother trivial
  | fireDelayedPerform archive sessionPath => exact hother trivial
  | deleteLastSessionFile directory => exact hother trivial
  | runTask success => exact hother trivial

end Steps

/-! ## What is written -/

section Written

variable {sessionPathForDirectory : String → String} {files : Keyed String NSData}
  {s s' : SessionServiceIOS Factory NSData}

/-- What is written, or is about to be, was archived. -/
structure Written (files : Keyed String NSData) (s : SessionServiceIOS Factory NSData) :
    Prop where
  tasks : ∀ sessionPath sessionData,
    .performSaveSessionData sessionData sessionPath ∈ s.taskRunner →
    ∃ factory, ⟨sessionPath, factory, sessionData⟩ ∈ s.archived
  files : ∀ sessionPath sessionData, s.files.get? sessionPath = some sessionData →
    files.get? sessionPath = some sessionData ∨
      ∃ factory, ⟨sessionPath, factory, sessionData⟩ ∈ s.archived

/-- Archiving a session posts the task that writes it. -/
theorem Written.archive (h : Written files s) (hfiles : s'.files = s.files)
    (harchived : (s'.archived = s.archived ∧ s'.taskRunner = s.taskRunner) ∨
      ∃ sessionPath factory sessionData,
        s'.archived = s.archived ++ [⟨sessionPath, factory, sessionData⟩] ∧
          s'.taskRunner = s.taskRunner ++ [.performSaveSessionData sessionData sessionPath]) :
    Written files s' := by
  obtain ⟨harchived, htasks⟩ | ⟨sessionPath, factory, sessionData, harchived, htasks⟩ := harchived
  · constructor
    · rw [harchived, htasks]
      exact h.tasks
    · rw [harchived, hfiles]
      exact h.files
  · constructor
    · rw [harchived, htasks]
      intro path data hmem
      obtain hmem | hmem := mem_append.1 hmem
      · obtain ⟨earlier, hearlier⟩ := h.tasks path data hmem
        exact ⟨earlier, mem_append_left _ hearlier⟩
      · cases mem_singleton.1 hmem
        exact ⟨factory, by simp⟩
    · rw [harchived, hfiles]
      intro path data hat
      refine (h.files path data hat).imp_right ?_
      rintro ⟨earlier, hearlier⟩
      exact ⟨earlier, mem_append_left _ hearlier⟩

theorem Written.runTask (h : Written files s) (success : Bool) :
    Written files (s.runTask success) := by
  cases htasks : s.taskRunner with
  | nil =>
    have hsame : s.runTask success = s := by rw [SessionServiceIOS.runTask, htasks]
    rw [hsame]
    exact h
  | cons task rest =>
    have hrest : ∀ sessionPath sessionData,
        .performSaveSessionData sessionData sessionPath ∈ rest →
          ∃ factory, ⟨sessionPath, factory, sessionData⟩ ∈ s.archived := by
      intro sessionPath sessionData hmem
      exact h.tasks sessionPath sessionData (htasks ▸ mem_cons_of_mem _ hmem)
    rw [SessionServiceIOS.runTask, htasks]
    cases success with
    | false => exact ⟨hrest, h.files⟩
    | true =>
      cases task with
      | performSaveSessionData sessionData sessionPath =>
        refine ⟨hrest, ?_⟩
        intro path data hat
        rw [Keyed.get?_set] at hat
        split at hat
        · next heq =>
          cases hat
          rw [heq]
          exact .inr (h.tasks sessionPath sessionData (htasks ▸ mem_cons_self))
        · exact h.files path data hat
      | removeFile sessionPath =>
        refine ⟨hrest, ?_⟩
        intro path data hat
        rw [Keyed.get?_erase] at hat
        split at hat
        · cases hat
        · exact h.files path data hat

theorem Written.step (h : Written files s) (op : Op Factory NSData) :
    Written files (s.step sessionPathForDirectory op) := by
  cases op with
  | saveSession archive factory directory immediately =>
    obtain ⟨hfiles, harchived⟩ := archived_saveSession archive s factory
      (sessionPathForDirectory directory) immediately
    refine h.archive hfiles (harchived.imp_right ?_)
    rintro ⟨sessionData, hboth⟩
    exact ⟨_, factory, sessionData, hboth⟩
  | fireDelayedPerform archive sessionPath =>
    obtain ⟨hfiles, harchived⟩ := archived_performSave archive
      { s with delayedPerforms := s.delayedPerforms.erase sessionPath } sessionPath
    refine h.archive hfiles (harchived.imp_right ?_)
    rintro ⟨factory, sessionData, -, hboth⟩
    exact ⟨_, factory, sessionData, hboth⟩
  | deleteLastSessionFile directory =>
    refine ⟨?_, h.files⟩
    intro sessionPath sessionData hmem
    obtain hmem | hmem := mem_append.1 hmem
    · exact h.tasks sessionPath sessionData hmem
    · cases mem_singleton.1 hmem
  | runTask success => exact h.runTask success

/-- What one call changes of the latest factory. -/
theorem latestFactory_append (sessionPath : String) (ops : List (Op Factory NSData))
    (op : Op Factory NSData) :
    latestFactory sessionPathForDirectory sessionPath (ops ++ [op]) =
      match op with
      | .saveSession _ factory directory _ =>
        if sessionPathForDirectory directory = sessionPath then some factory
        else latestFactory sessionPathForDirectory sessionPath ops
      | _ => latestFactory sessionPathForDirectory sessionPath ops := by
  rw [latestFactory, foldl_append]
  rfl

variable (ops : List (Op Factory NSData))

theorem after_append (op : Op Factory NSData) :
    after sessionPathForDirectory files (ops ++ [op]) =
      (after sessionPathForDirectory files ops).step sessionPathForDirectory op :=
  Machine.run_append ..

/-- The pending factory of a path is the one that was given last. -/
theorem latestFactory_of_pending {sessionPath : String}
    {factory : Factory}
    (hpending : (after sessionPathForDirectory files ops).pendingSessions.get? sessionPath =
      some factory) :
    latestFactory sessionPathForDirectory sessionPath ops = some factory := by
  induction ops using reverseRecOn with
  | nil => cases hpending
  | append_singleton ops op ih =>
    rw [after_append] at hpending
    rw [latestFactory_append]
    cases op with
    | saveSession archive given directory immediately =>
      simp only [step, get?_saveSession] at hpending
      by_cases heq : sessionPathForDirectory directory = sessionPath
      · rw [if_pos heq.symm] at hpending
        cases immediately with
        | true => cases hpending
        | false =>
          show (if _ then some given else _) = some factory
          rw [if_pos heq]
          exact hpending
      · rw [if_neg (Ne.symm heq)] at hpending
        show (if _ then some given else _) = some factory
        rw [if_neg heq]
        exact ih hpending
    | fireDelayedPerform archive fired =>
      simp only [step, fireDelayedPerform, get?_performSave] at hpending
      split at hpending
      · cases hpending
      · exact ih hpending
    | deleteLastSessionFile directory => exact ih hpending
    | runTask success =>
      rw [step, (runTask_pendingSessions success).1] at hpending
      exact ih hpending

/-- What is archived for a path comes from the factory that was given last. -/
theorem latestFactory_of_archived (op : Op Factory NSData)
    {session : ArchivedSession Factory NSData}
    (harchived : (after sessionPathForDirectory files (ops ++ [op])).archived =
      (after sessionPathForDirectory files ops).archived ++ [session]) :
    latestFactory sessionPathForDirectory session.sessionPath (ops ++ [op]) =
      some session.factory := by
  have hnew : ∀ {l : List (ArchivedSession Factory NSData)}, l ≠ l ++ [session] := by simp
  rw [after_append] at harchived
  rw [latestFactory_append]
  cases op with
  | saveSession archive factory directory immediately =>
    obtain ⟨-, ⟨hsame, -⟩ | ⟨sessionData, hsession, -⟩⟩ := archived_saveSession archive
      (after sessionPathForDirectory files ops) factory (sessionPathForDirectory directory)
      immediately
    · exact absurd (hsame.symm.trans harchived) hnew
    · cases singleton_inj.1 (append_cancel_left (hsession.symm.trans harchived))
      exact if_pos rfl
  | fireDelayedPerform archive sessionPath =>
    obtain ⟨-, ⟨hsame, -⟩ | ⟨factory, sessionData, hpending, hsession, -⟩⟩ :=
      archived_performSave archive { after sessionPathForDirectory files ops with
        delayedPerforms := (after sessionPathForDirectory files ops).delayedPerforms.erase
          sessionPath } sessionPath
    · exact absurd (hsame.symm.trans harchived) hnew
    · cases singleton_inj.1 (append_cancel_left (hsession.symm.trans harchived))
      exact latestFactory_of_pending ops hpending
  | deleteLastSessionFile directory => exact absurd harchived hnew
  | runTask success =>
    rw [step, (runTask_pendingSessions success).2.2] at harchived
    exact absurd harchived hnew

end Written

/-- No save is lost if and only if no immediate save finds a factory pending for
another path. -/
theorem no_save_lost_iff (sessionPathForDirectory : String → String)
    (files : Keyed String NSData) (ops : List (Op Factory NSData))
    (hlegal : (machine Factory NSData sessionPathForDirectory).Legal (initWithTaskRunner files)
      ops) :
    NoSaveLost sessionPathForDirectory files ops ↔
      (machine Factory NSData sessionPathForDirectory).Along
        (CancelsNoOther sessionPathForDirectory) (initWithTaskRunner files) ops := by
  have htracked : Tracked (initWithTaskRunner files : SessionServiceIOS Factory NSData) :=
    ⟨fun _ hmem => absurd hmem not_mem_nil, nodup_nil⟩
  have hscheduled : Scheduled (initWithTaskRunner files : SessionServiceIOS Factory NSData) :=
    fun _ hpending => absurd rfl hpending
  have hwritten : Written files
      (initWithTaskRunner files : SessionServiceIOS Factory NSData) :=
    ⟨fun _ _ hmem => absurd hmem not_mem_nil, fun _ _ => .inl⟩
  have hiff := Machine.always_iff_along (P := Scheduled)
    (I := fun s : SessionServiceIOS Factory NSData => s.Scheduled ∧ Tracked s)
    (M := machine Factory NSData sessionPathForDirectory) (fun _ h => h.1)
    (fun _ op h hpre hother => ⟨h.1.step h.2 hpre hother, h.2.step op⟩)
    (fun _ _ _ _ hother => not_scheduled_step hother) ⟨hscheduled, htracked⟩ hlegal
  constructor
  · intro h
    exact hiff.1 h.scheduled
  · intro hother
    refine ⟨hiff.2 hother, ?_, fun before op _ _ => latestFactory_of_archived before op, ?_⟩
    · intro before _
      exact (Machine.run_invariant_of_step (I := Tracked) (fun _ op h => h.step op) htracked
        before).once
    · intro before _
      exact (Machine.run_invariant_of_step (I := Written files) (fun _ op h => h.step op)
        hwritten before).files

/-- `stringByAppendingPathComponent:` for a directory without a trailing slash. -/
def sessionPlist (directory : String) : String := directory ++ "/session.plist"

/-- Both directories are saved with a delay, then one of them immediately. -/
def delayedOps : List (Op String String) :=
  [.saveSession some "first" "a" false, .saveSession some "second" "b" false,
    .saveSession some "third" "a" false, .fireDelayedPerform some "a/session.plist",
    .saveSession some "fourth" "b" true, .runTask true, .runTask true]

theorem no_save_lost_delayed : NoSaveLost sessionPlist .empty delayedOps :=
  (no_save_lost_iff sessionPlist .empty delayedOps
    (by decide)).2
    (show (machine String String sessionPlist).Along (CancelsNoOther sessionPlist) _ _ by decide)

/-- One directory is saved immediately while the other waits for its delayed save;
saving the other again does not schedule it. -/
def immediateOps : List (Op String String) :=
  [.saveSession some "first" "a" false, .saveSession some "second" "b" true,
    .saveSession some "third" "a" false]

theorem immediate_save_loses_other :
    (machine String String sessionPlist).Legal (initWithTaskRunner .empty) immediateOps ∧
      (after sessionPlist .empty immediateOps).pendingSessions.get? "a/session.plist" =
        some "third" ∧
      (after sessionPlist .empty immediateOps).delayedPerforms = [] ∧
      ¬NoSaveLost sessionPlist .empty immediateOps := by
  have hpending : (after sessionPlist .empty immediateOps).pendingSessions.get?
      "a/session.plist" = some "third" := by decide
  have hdelayed : (after sessionPlist .empty immediateOps).delayedPerforms = [] := by decide
  refine ⟨?_, hpending, hdelayed, ?_⟩
  · decide
  · intro h
    have hmem := h.scheduled immediateOps (prefix_refl _) "a/session.plist"
      (by rw [hpending]; exact Option.some_ne_none _)
    rw [hdelayed] at hmem
    exact absurd hmem not_mem_nil

end SessionServiceIOS

end ChromiumIos
