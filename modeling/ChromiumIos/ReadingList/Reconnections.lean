import ChromiumIos.ReadingList.ReadingListDownloadService

/-!
# What a `ReadingListDownloadService` requests when the connection changes

A `DownloadEntry` task that finds no suitable connection puts the URL aside, in one list for any
connection and in one for Wi-Fi. A change of the connection schedules what the lists hold; they are
never emptied.

- `putAside`: what a task puts aside.
- `onConnectionTypeChanged_eq`: what a change of the connection schedules.
- `requested_on_change`: after every run, each URL whose entry is still to be downloaded is
  scheduled once for each time that it was put aside.
-/

namespace ChromiumIos

open Lib List

namespace ReadingListDownloadService

variable {URL Model : Type} [DecidableEq URL] (list : ReadingListModel URL Model)

/-- A URL is appended to one of the two lists. -/
inductive PutAside (URL : Type)
  | cellular (url : URL)
  | wifi (url : URL)
deriving DecidableEq, Repr

variable (s : ReadingListDownloadService URL Model)

section

omit [DecidableEq URL]

/-- The check that `ScheduleDownloadEntry` and `DownloadEntry` begin with. -/
def isToBeDownloaded (url : URL) : Bool :=
  (list.getEntryByURL s.readingListModel url).any fun entry =>
    !decide (entry.distilledState = .distillationError ∨ entry.distilledState = .processed ∨
      entry.isRead)

/-- What `DownloadEntry` puts aside for the entry, under a connection of the type. -/
def putAsideEntry (url : URL) (connectionType : ConnectionType) : List (PutAside URL) :=
  match list.getEntryByURL s.readingListModel url with
  | none => []
  | some entry =>
    if entry.distilledState = .distillationError ∨ entry.distilledState = .processed ∨
        entry.isRead then []
    else if connectionType = .none then
      (if entry.failedDownloadCounter < kNumberOfFailsBeforeWifiOnly then [.cellular url]
        else []) ++
      if entry.failedDownloadCounter < kNumberOfFailsBeforeStop then [.wifi url] else []
    else if entry.failedDownloadCounter < kNumberOfFailsBeforeWifiOnly then []
    else if entry.failedDownloadCounter < kNumberOfFailsBeforeStop then
      if connectionType = .wifi then [] else [.wifi url]
    else []

def putAside : Op URL → List (PutAside URL)
  | .downloadEntry index connectionType =>
    match s.scheduled[index]? with
    | none => []
    | some url => s.putAsideEntry list url connectionType
  | _ => []

/-- What a change of the connection goes through. -/
def consumed (type : ConnectionType) : List URL :=
  if type = .none then []
  else
    (if s.hadConnection then [] else s.urlToDownloadCellular) ++
      if type = .wifi then s.urlToDownloadWifi else []

def connectionChange : Op URL → Option ConnectionType
  | .onConnectionTypeChanged type => some type
  | _ => none

/-- Whether there is a connection after a run, by the last change of it. -/
def isConnected (hadConnection : Bool) (ops : List (Op URL)) : Bool :=
  ((ops.filterMap connectionChange).getLast?.map fun type => decide (type ≠ .none)).getD
    hadConnection

end

/-! ## A change of the connection -/

variable {list} {s s' : ReadingListDownloadService URL Model}

omit [DecidableEq URL] in
theorem scheduleDownloadEntry_eq (url : URL) :
    s.scheduleDownloadEntry list url =
      { s with scheduled := s.scheduled ++ [url].filter (s.isToBeDownloaded list) } := by
  unfold scheduleDownloadEntry
  split
  · next hnone =>
    have hnot : s.isToBeDownloaded list url = false := by rw [isToBeDownloaded, hnone]; rfl
    rw [filter_cons_of_neg (by rw [hnot]; exact Bool.false_ne_true), filter_nil,
      append_nil]
  · next entry hentry =>
    split
    · next hguard =>
      have hnot : s.isToBeDownloaded list url = false := by
        rw [isToBeDownloaded, hentry, Option.any_some, decide_eq_true hguard]
        rfl
      rw [filter_cons_of_neg (by rw [hnot]; exact Bool.false_ne_true), filter_nil,
        append_nil]
    · next hguard =>
      have hyes : s.isToBeDownloaded list url = true := by
        rw [isToBeDownloaded, hentry, Option.any_some, decide_eq_false hguard]
        rfl
      rw [filter_cons_of_pos hyes, filter_nil]

omit [DecidableEq URL] in
theorem scheduleDownloadEntries_eq (urls : List URL) :
    urls.foldl (scheduleDownloadEntry list) s =
      { s with scheduled := s.scheduled ++ urls.filter (s.isToBeDownloaded list) } := by
  induction urls generalizing s with
  | nil => rw [foldl_nil, filter_nil, append_nil]
  | cons url urls ih =>
    rw [foldl_cons, ih, scheduleDownloadEntry_eq]
    show { s with
      scheduled := (s.scheduled ++ [url].filter (s.isToBeDownloaded list)) ++
        urls.filter (s.isToBeDownloaded list) } = _
    rw [append_assoc, ← filter_append, singleton_append]

omit [DecidableEq URL] in
/-- The URLs to be downloaded are scheduled in the order of the lists, and stay in them. -/
theorem onConnectionTypeChanged_eq (type : ConnectionType) :
    s.onConnectionTypeChanged list type =
      { s with
        hadConnection := decide (type ≠ .none)
        scheduled := s.scheduled ++ (s.consumed type).filter (s.isToBeDownloaded list) } := by
  unfold onConnectionTypeChanged consumed
  by_cases hnone : type = .none
  · rw [if_pos hnone, if_pos hnone, filter_nil, append_nil]
    simp [hnone]
  · rw [if_neg hnone, if_neg hnone]
    cases hconnection : s.hadConnection with
    | true =>
      by_cases hwifi : type = .wifi
      · simp [hwifi, scheduleDownloadEntries_eq, hconnection]
      · simp [hwifi, hnone, ← hconnection]
    | false =>
      by_cases hwifi : type = .wifi
      · simp only [hwifi, scheduleDownloadEntries_eq, if_true, Bool.false_eq_true, if_false,
          filter_append, append_assoc, ne_eq, reduceCtorEq, not_false_eq_true,
          decide_true]
        rfl
      · simp [hwifi, hnone, scheduleDownloadEntries_eq]
        rfl

/-! ## What the lists hold -/

/-- The lists and what is known of the connection are left alone. -/
structure SameConnection (s s' : ReadingListDownloadService URL Model) : Prop where
  urlToDownloadCellular : s'.urlToDownloadCellular = s.urlToDownloadCellular
  urlToDownloadWifi : s'.urlToDownloadWifi = s.urlToDownloadWifi
  hadConnection : s'.hadConnection = s.hadConnection

namespace SameConnection

omit [DecidableEq URL] in
theorem refl (s : ReadingListDownloadService URL Model) : SameConnection s s := ⟨rfl, rfl, rfl⟩

omit [DecidableEq URL] in
theorem scheduleDownloadEntry (h : SameConnection s s') (url : URL) :
    SameConnection s (s'.scheduleDownloadEntry list url) := by
  rw [scheduleDownloadEntry_eq]
  exact ⟨h.1, h.2, h.3⟩

theorem processNewEntry (h : SameConnection s s') (url : URL) :
    SameConnection s (s'.processNewEntry list url) := by
  unfold ReadingListDownloadService.processNewEntry
  split
  · exact ⟨h.1, h.2, h.3⟩
  · split
    · exact ⟨h.1, h.2, h.3⟩
    · exact h.scheduleDownloadEntry url

theorem removeEntry (url : URL) : SameConnection s (s.removeEntry list url) := by
  unfold ReadingListDownloadService.removeEntry
  split <;> exact ⟨rfl, rfl, rfl⟩

theorem moveEntry (url : URL) (read : Bool) : SameConnection s (s.moveEntry list url read) := by
  unfold ReadingListDownloadService.moveEntry
  split
  · exact refl s
  · refine processNewEntry ?_ url
    exact ⟨rfl, rfl, rfl⟩

theorem runSyncTask (utils : OfflineURLUtils URL) (index : Nat) (undeletable : Finset String) :
    SameConnection s (s.runSyncTask list utils index undeletable) := by
  unfold ReadingListDownloadService.runSyncTask
  split
  · exact refl s
  · exact ⟨rfl, rfl, rfl⟩
  · rw [scheduleDownloadEntries_eq]
    exact ⟨rfl, rfl, rfl⟩

omit [DecidableEq URL] in
theorem onDownloadEnd (collapseWhitespaceASCII : String → String)
    (completion : URLDownloader.DownloadCompletion URL) :
    SameConnection s (s.onDownloadEnd list collapseWhitespaceASCII completion) := by
  unfold ReadingListDownloadService.onDownloadEnd
  split
  · exact ⟨rfl, rfl, rfl⟩
  · exact ⟨rfl, rfl, rfl⟩
  · split
    · split
      · refine scheduleDownloadEntry ?_ completion.url
        exact ⟨rfl, rfl, rfl⟩
      · exact ⟨rfl, rfl, rfl⟩
    · exact ⟨rfl, rfl, rfl⟩

theorem resume (utils : OfflineURLUtils URL) (collapseWhitespaceASCII : String → String)
    (index : Nat) (answer : URLDownloader.Answer URL) :
    SameConnection s (s.resume list utils collapseWhitespaceASCII index answer) := by
  unfold ReadingListDownloadService.resume
  split
  · exact refl s
  · dsimp only
    split
    · exact ⟨rfl, rfl, rfl⟩
    · next completion _ =>
      have h : SameConnection s (s.onDownloadEnd list collapseWhitespaceASCII completion) :=
        onDownloadEnd collapseWhitespaceASCII completion
      exact ⟨h.1, h.2, h.3⟩

end SameConnection

/-- The lists hold each URL as often as it was put aside. -/
structure Holds (s : ReadingListDownloadService URL Model) (log : List (PutAside URL)) :
    Prop where
  cellular : ∀ url, s.urlToDownloadCellular.count url = log.count (.cellular url)
  wifi : ∀ url, s.urlToDownloadWifi.count url = log.count (.wifi url)

section

variable {log : List (PutAside URL)} (h : s.Holds log)
include h

theorem Holds.same (hsame : SameConnection s s') : s'.Holds log where
  cellular url := by rw [hsame.urlToDownloadCellular, h.cellular]
  wifi url := by rw [hsame.urlToDownloadWifi, h.wifi]

theorem Holds.putAsideCellular (url : URL) :
    ({ s with urlToDownloadCellular := s.urlToDownloadCellular ++ [url] } :
      ReadingListDownloadService URL Model).Holds (log ++ [.cellular url]) where
  cellular other := by
    rw [count_append, count_append, h.cellular]
    simp [count_singleton]
  wifi other := by
    rw [count_append, h.wifi]
    simp

theorem Holds.putAsideWifi (url : URL) :
    ({ s with urlToDownloadWifi := s.urlToDownloadWifi ++ [url] } :
      ReadingListDownloadService URL Model).Holds (log ++ [.wifi url]) where
  cellular other := by
    rw [count_append, h.cellular]
    simp
  wifi other := by
    rw [count_append, count_append, h.wifi]
    simp [count_singleton]

theorem Holds.downloadEntry (url : URL) (connectionType : ConnectionType) :
    (s.downloadEntry list url connectionType).Holds
      (log ++ s.putAsideEntry list url connectionType) := by
  have hstart : (s.startDownload list url).Holds log := h.same ⟨rfl, rfl, rfl⟩
  unfold ReadingListDownloadService.downloadEntry putAsideEntry
  cases list.getEntryByURL s.readingListModel url with
  | none => simpa using h
  | some entry =>
    dsimp only
    split_ifs
    · rwa [append_nil]
    · exact append_assoc log _ _ ▸ (h.putAsideCellular url).putAsideWifi url
    · exact h.putAsideWifi url
    · exact h.putAsideCellular url
    · rwa [append_nil, append_nil]
    · rwa [append_nil]
    · rwa [append_nil]
    · exact h.putAsideWifi url
    · rwa [append_nil]

end

theorem downloadEntry_hadConnection (url : URL) (connectionType : ConnectionType) :
    (s.downloadEntry list url connectionType).hadConnection = s.hadConnection := by
  unfold ReadingListDownloadService.downloadEntry
  split
  · rfl
  · split
    · rfl
    · split
      · split <;> split <;> rfl
      · split
        · rfl
        · split
          · split <;> rfl
          · rfl

/-! ## Runs -/

section Runs

variable (list) (utils : OfflineURLUtils URL) (collapseWhitespaceASCII : String → String)

/-- All that was put aside in a run, in order. -/
def allPutAside (s : ReadingListDownloadService URL Model) (ops : List (Op URL)) :
    List (PutAside URL) :=
  (((machine list utils collapseWhitespaceASCII).observe (fun s op => [s.putAside list op])
    fun log new => log ++ new).run (s, []) ops).2

variable {list}

/-- A step leaves the lists and what is known of the connection alone, except for a task that
runs and a change of the connection. -/
theorem sameConnection_step {op : Op URL} (hchange : connectionChange op = none)
    (htask : ∀ index connectionType, op ≠ .downloadEntry index connectionType) :
    SameConnection s (s.step list utils collapseWhitespaceASCII op) := by
  cases op with
  | readingListModelLoaded => exact ⟨rfl, rfl, rfl⟩
  | runSyncTask index undeletable => exact SameConnection.runSyncTask utils index undeletable
  | addEntry url =>
    have hremove : SameConnection s (s.removeEntry list url) := SameConnection.removeEntry url
    refine SameConnection.processNewEntry ?_ url
    exact ⟨hremove.1, hremove.2, hremove.3⟩
  | moveEntry url read => exact SameConnection.moveEntry url read
  | removeEntry url => exact SameConnection.removeEntry url
  | downloadEntry index connectionType => exact absurd rfl (htask index connectionType)
  | onConnectionTypeChanged type => cases hchange
  | distilledPageRedirectedToURL redirectedURL => exact ⟨rfl, rfl, rfl⟩
  | distilledPageHasMimeType mimeType => exact ⟨rfl, rfl, rfl⟩
  | resume index answer =>
    exact SameConnection.resume utils collapseWhitespaceASCII index answer

theorem Holds.step {log : List (PutAside URL)} (h : s.Holds log) (op : Op URL) :
    (s.step list utils collapseWhitespaceASCII op).Holds (log ++ s.putAside list op) := by
  by_cases htask : ∃ index connectionType, op = .downloadEntry index connectionType
  · obtain ⟨index, connectionType, rfl⟩ := htask
    unfold ReadingListDownloadService.step ReadingListDownloadService.putAside
    dsimp only
    cases s.scheduled[index]? with
    | none => simpa using h
    | some url =>
      have htaken : ({ s with scheduled := s.scheduled.eraseIdx index } :
          ReadingListDownloadService URL Model).Holds log := h.same ⟨rfl, rfl, rfl⟩
      exact htaken.downloadEntry url connectionType
  · have hnothing : s.putAside list op = [] := by
      cases op with
      | downloadEntry index connectionType => exact absurd ⟨_, _, rfl⟩ htask
      | _ => rfl
    rw [hnothing, append_nil]
    cases hchange : connectionChange op with
    | none =>
      refine h.same (sameConnection_step utils collapseWhitespaceASCII hchange ?_)
      exact fun index connectionType hop => htask ⟨index, connectionType, hop⟩
    | some type =>
      cases op with
      | onConnectionTypeChanged type =>
        show (s.onConnectionTypeChanged list type).Holds log
        rw [onConnectionTypeChanged_eq]
        exact ⟨h.cellular, h.wifi⟩
      | _ => cases hchange

theorem holds_run (model : Model) (emptyURL : URL) (directories : Finset String)
    (hadConnection : Bool) (ops : List (Op URL)) :
    ((machine list utils collapseWhitespaceASCII).run
      (new model emptyURL directories hadConnection) ops).Holds
        (allPutAside list utils collapseWhitespaceASCII
          (new model emptyURL directories hadConnection) ops) := by
  refine Machine.run_coupled (M := machine list utils collapseWhitespaceASCII)
    (I := fun _ => True) (C := fun _ _ => True) (R := Holds) (fun _ _ _ _ => trivial) ?_ trivial
    ⟨fun _ => rfl, fun _ => rfl⟩
    ((machine list utils collapseWhitespaceASCII).along_of_forall (fun _ _ => trivial) _ _)
  exact fun s log op _ _ h => h.step utils collapseWhitespaceASCII op

theorem hadConnection_step (op : Op URL) :
    (s.step list utils collapseWhitespaceASCII op).hadConnection =
      ((connectionChange op).map fun type => decide (type ≠ .none)).getD s.hadConnection := by
  cases hchange : connectionChange op with
  | some type =>
    cases op with
    | onConnectionTypeChanged changed =>
      obtain rfl := Option.some.inj hchange
      show (s.onConnectionTypeChanged list changed).hadConnection = _
      rw [onConnectionTypeChanged_eq]
      rfl
    | _ => cases hchange
  | none =>
    by_cases htask : ∃ index connectionType, op = .downloadEntry index connectionType
    · obtain ⟨index, connectionType, rfl⟩ := htask
      unfold ReadingListDownloadService.step
      dsimp only
      split
      · rfl
      · exact downloadEntry_hadConnection _ _
    · exact (sameConnection_step utils collapseWhitespaceASCII hchange
        fun index connectionType hop => htask ⟨index, connectionType, hop⟩).hadConnection

theorem hadConnection_run (s : ReadingListDownloadService URL Model) (ops : List (Op URL)) :
    ((machine list utils collapseWhitespaceASCII).run s ops).hadConnection =
      isConnected s.hadConnection ops := by
  induction ops generalizing s with
  | nil => rfl
  | cons op ops ih =>
    have hstep : ((machine list utils collapseWhitespaceASCII).step s op).hadConnection = _ :=
      hadConnection_step utils collapseWhitespaceASCII op
    rw [Machine.run, ih, hstep, isConnected, isConnected]
    cases hchange : connectionChange op with
    | none =>
      rw [filterMap_cons_none hchange]
      rfl
    | some type =>
      rw [filterMap_cons_some hchange, getLast?_cons]
      cases (ops.filterMap connectionChange).getLast? <;> rfl

/-- What was put aside is not forgotten. -/
theorem allPutAside_isPrefix (s : ReadingListDownloadService URL Model)
    (ops later : List (Op URL)) :
    allPutAside list utils collapseWhitespaceASCII s ops <+:
      allPutAside list utils collapseWhitespaceASCII s (ops ++ later) := by
  unfold allPutAside
  rw [Machine.run_append]
  generalize ((machine list utils collapseWhitespaceASCII).observe
    (fun s op => [s.putAside list op]) fun log new => log ++ new).run (s, []) ops = before
  refine Machine.run_invariant_of_step
    (I := fun after : ReadingListDownloadService URL Model × List (PutAside URL) =>
      before.2 <+: after.2) (fun after op h => ?_) (prefix_refl before.2) later
  exact h.trans (prefix_append _ _)

/-- After every run, a change of the connection schedules each URL whose entry is still to be
downloaded once for each time that it was put aside for such a connection, and no other; what
was put aside before, and requested, counts in every later change. -/
theorem requested_on_change (model : Model) (emptyURL : URL) (directories : Finset String)
    (hadConnection : Bool) (ops : List (Op URL)) (type : ConnectionType) :
    let M := machine list utils collapseWhitespaceASCII
    let service := new model emptyURL directories hadConnection
    let s := M.run service ops
    let log := allPutAside list utils collapseWhitespaceASCII service ops
    (∃ requested : List URL,
      (M.run service (ops ++ [.onConnectionTypeChanged type])).scheduled =
        s.scheduled ++ requested ∧
      ∀ url, requested.count url =
        if type ≠ .none ∧ s.isToBeDownloaded list url = true then
          (if isConnected hadConnection ops then 0 else log.count (.cellular url)) +
            if type = .wifi then log.count (.wifi url) else 0
        else 0) ∧
      ∀ later, log <+: allPutAside list utils collapseWhitespaceASCII service (ops ++ later) := by
  intro M service s log
  have hconnected : s.hadConnection = isConnected hadConnection ops :=
    hadConnection_run utils collapseWhitespaceASCII service ops
  have hholds : s.Holds log :=
    holds_run utils collapseWhitespaceASCII model emptyURL directories hadConnection ops
  refine ⟨⟨(s.consumed type).filter (s.isToBeDownloaded list), ?_, fun url => ?_⟩, ?_⟩
  · rw [Machine.run_append]
    show (s.onConnectionTypeChanged list type).scheduled = _
    rw [onConnectionTypeChanged_eq]
  · by_cases hurl : s.isToBeDownloaded list url = true
    · rw [count_filter hurl]
      unfold consumed
      by_cases hnone : type = .none
      · have hnot : ¬(type ≠ .none ∧ s.isToBeDownloaded list url = true) := fun h => h.1 hnone
        rw [if_pos hnone, if_neg hnot]
        rfl
      · have hboth : type ≠ .none ∧ s.isToBeDownloaded list url = true := ⟨hnone, hurl⟩
        rw [if_neg hnone, if_pos hboth, count_append, ← hconnected]
        congr 1
        · split
          · rfl
          · exact hholds.cellular url
        · split
          · exact hholds.wifi url
          · rfl
    · have hnot : ¬(type ≠ .none ∧ s.isToBeDownloaded list url = true) := fun h => hurl h.2
      rw [if_neg hnot]
      refine count_eq_zero_of_not_mem fun hmem => hurl ?_
      exact (mem_filter.1 hmem).2
  · exact allPutAside_isPrefix utils collapseWhitespaceASCII service ops

/-- The URL is put aside once, and requested twice by one change to Wi-Fi; by another change
to a cellular connection while its first request still waits, it is requested again. -/
theorem requested_again :
    let aside := [.addEntry "a", .downloadEntry 0 .none]
    let offline : ReadingListDownloadService String (Keyed String ReadingListEntry) :=
      new .empty "" ∅ false
    (plainMachine.run offline (aside ++ [.onConnectionTypeChanged .wifi])).scheduled =
        ["a", "a"] ∧
      (plainMachine.run offline (aside ++ [.onConnectionTypeChanged .cellular4G])).scheduled =
        ["a"] ∧
      (plainMachine.run offline (aside ++ [.onConnectionTypeChanged .cellular4G,
        .onConnectionTypeChanged .none, .onConnectionTypeChanged .cellular4G])).scheduled =
        ["a", "a"] := by
  decide +kernel

end Runs

end ReadingListDownloadService

end ChromiumIos
