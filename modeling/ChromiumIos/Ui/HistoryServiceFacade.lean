import ChromiumIos.Lib.Machine

/-!
# HistoryServiceFacade

`history_service_facade.mm`: a history query asks the local history service and, if
there is one, the web history service. The answer is sent when the local query has
completed and the web one has, too, or timed out.

What the services gave for each call and how it was answered is recorded next to
the state.

- `QueryRecord.Right`: the answer of a query is the merge of what was obtained for
  it, and there is one as soon as nothing is pending.
- `queries_answered_iff`: all records are right in every state of a run if and only
  if no query without the web history service completes while there are web entries
  of an earlier one.
-/

namespace ChromiumIos

open Lib List

universe u

namespace HistoryServiceFacade

inductive EntryType
  | localEntry
  | remoteEntry
  | combinedEntry
deriving DecidableEq, Repr

/-- `history::HistoryEntry`. Times are in microseconds since the Unix epoch. -/
structure HistoryEntry (URL : Type u) where
  entryType : EntryType
  url : URL
  title : String
  time : Int
  clientId : String
  isSearchResult : Bool
  snippet : String
  blockedVisit : Bool
deriving DecidableEq, Repr

/-- `history::URLResult`. -/
structure URLResult (URL : Type u) where
  url : URL
  title : String
  visitTime : Int
  snippet : String
  blockedVisit : Bool
deriving DecidableEq, Repr

/-- `history::QueryResults`. -/
structure QueryResults (URL : Type u) where
  results : List (URLResult URL)
  reachedBeginning : Bool
deriving DecidableEq, Repr

/-- The options the answer depends on; a time that is null is zero. -/
structure QueryOptions where
  beginTime : Int
  endTime : Int
deriving DecidableEq, Repr

/-- `base::Value`, as far as the answers of the history server use it. -/
inductive Value
  | dictionary (entries : List (String × Value))
  | list (values : List Value)
  | string (text : String)
  | other

namespace Value

def get? (key : String) : Value → Option Value
  | .dictionary entries => entries.lookup key
  | _ => none

def getString (value : Value) (key : String) : Option String :=
  match value.get? key with
  | some (.string text) => some text
  | _ => none

def getList (value : Value) (key : String) : Option (List Value) :=
  match value.get? key with
  | some (.list values) => some values
  | _ => none

/-- `GetDictionary` of a list. -/
def getDictionary (values : List Value) (index : Nat) : Option Value :=
  match values[index]? with
  | some (.dictionary entries) => some (.dictionary entries)
  | _ => none

end Value

/-- What is called of other components. -/
structure Platform (URL : Type u) where
  gurl : String → URL
  isValid : URL → Bool
  schemeIs : URL → String → Bool
  isAboutBlank : URL → Bool
  stringToInt64 : String → Option Int
  /-- `GetRelativeDateLocalized`. -/
  relativeDate : Int → String
  /-- `MergeDuplicateHistoryEntries`. -/
  mergeDuplicates : List (HistoryEntry URL) → List (HistoryEntry URL)

/-- What is sent to the delegate. -/
structure QueryResult (URL : Type u) where
  query : String := ""
  queryStartTime : String := ""
  queryEndTime : String := ""
  finished : Bool := false
  syncReturned : Bool := false
  hasSyncedResults : Bool := false
  syncFinished : Bool := false
  entries : List (HistoryEntry URL) := []
deriving DecidableEq, Repr

/-- The arguments that are bound to the callbacks of a query. -/
structure Query where
  searchText : String
  options : QueryOptions
deriving DecidableEq, Repr

/-- A query with the services there are when it is made. -/
structure QueryCall where
  query : Query
  webHistory : Bool
  historyService : Bool
deriving DecidableEq, Repr

/-- A task of `query_task_tracker_`. -/
structure TrackedTask where
  query : Query
  canceled : Bool
deriving DecidableEq, Repr

/-- What was obtained for a call of `QueryHistory` and what was sent for it. A
response of the server that came too late is not obtained. -/
structure QueryRecord (URL : Type u) where
  call : QueryCall
  localResults : Option (Int × QueryResults URL)
  webResults : Option (Option Value)
  answers : List (QueryResult URL)

end HistoryServiceFacade

open HistoryServiceFacade in
structure HistoryServiceFacade (URL : Type u) where
  /-- The oldest first, which is the order they reply in. -/
  queryTaskTracker : List TrackedTask
  /-- The query of `web_history_request_` while there is no response. -/
  webHistoryRequest : Option Query
  resultsInfoValue : QueryResult URL
  queryResults : List (HistoryServiceFacade.HistoryEntry URL)
  webHistoryQueryResults : List (HistoryServiceFacade.HistoryEntry URL)
  webHistoryTimer : Bool
  /-- The latest call first. -/
  records : List (QueryRecord URL)

namespace HistoryServiceFacade

variable {URL : Type u}

def init : HistoryServiceFacade URL where
  queryTaskTracker := []
  webHistoryRequest := none
  resultsInfoValue := {}
  queryResults := []
  webHistoryQueryResults := []
  webHistoryTimer := false
  records := []

/-- Changes the record of the latest call. -/
def record (s : HistoryServiceFacade URL) (f : QueryRecord URL → QueryRecord URL) :
    HistoryServiceFacade URL :=
  { s with
    records :=
      match s.records with
      | [] => []
      | latest :: earlier => f latest :: earlier }

/-- `TryCancelAll`: the tasks do not reply, but are tracked until they would. -/
def tryCancelAll (tasks : List TrackedTask) : List TrackedTask :=
  tasks.map fun task => { task with canceled := true }

def queryHistory (s : HistoryServiceFacade URL) (call : QueryCall) : HistoryServiceFacade URL where
  queryTaskTracker :=
    tryCancelAll s.queryTaskTracker ++
      if call.historyService then [⟨call.query, false⟩] else []
  -- without the service the request of an earlier query is cancelled, but not the timer
  webHistoryRequest := if call.webHistory then some call.query else none
  resultsInfoValue := {}
  queryResults := []
  webHistoryQueryResults := if call.webHistory then [] else s.webHistoryQueryResults
  webHistoryTimer := if call.webHistory then true else s.webHistoryTimer
  records := ⟨call, none, none, []⟩ :: s.records

variable (P : Platform URL)

/-- The entries of `ReturnResultsToFrontEnd`. -/
def combine (localEntries webEntries : List (HistoryEntry URL)) : List (HistoryEntry URL) :=
  match webEntries with
  | [] => localEntries
  | _ :: _ => P.mergeDuplicates (localEntries ++ webEntries)

variable (s : HistoryServiceFacade URL)

/-- Sends the results to the delegate. -/
def sendResults : HistoryServiceFacade URL :=
  let queryResults := combine P s.queryResults s.webHistoryQueryResults
  let resultsInfoValue := { s.resultsInfoValue with entries := queryResults }
  { s with queryResults := queryResults, resultsInfoValue := resultsInfoValue }.record
    fun latest => { latest with answers := latest.answers ++ [resultsInfoValue] }

/-- Resets the results variables. -/
def resetResults : HistoryServiceFacade URL :=
  { s with resultsInfoValue := {}, queryResults := [], webHistoryQueryResults := [] }

/-- The delegate can query again before it returns. -/
def returnResultsToFrontEnd (calls : List QueryCall) : HistoryServiceFacade URL :=
  (calls.foldl queryHistory (s.sendResults P)).resetResults

/-- `WebHistoryTimeout`. -/
def webHistoryTimeout (calls : List QueryCall) : HistoryServiceFacade URL :=
  let s := { s with webHistoryTimer := false }
  if s.queryTaskTracker = [] then s.returnResultsToFrontEnd P calls else s

/-- The entries of local results. -/
def localEntries (query : Query) (results : QueryResults URL) : List (HistoryEntry URL) :=
  results.results.map fun result =>
    { entryType := .localEntry, url := result.url, title := result.title, time := result.visitTime,
      clientId := "", isSearchResult := !query.searchText.isEmpty, snippet := result.snippet,
      blockedVisit := result.blockedVisit }

/-- What `QueryComplete` puts into the answer. -/
def localInfo (query : Query) (now : Int) (results : QueryResults URL)
    (info : QueryResult URL) : QueryResult URL :=
  { info with
    query := query.searchText
    finished := results.reachedBeginning
    queryStartTime := P.relativeDate query.options.beginTime
    queryEndTime :=
      if query.options.endTime ≠ 0 then P.relativeDate (query.options.endTime - 86400000000)
      else P.relativeDate now }

def queryComplete (query : Query) (now : Int)
    (results : QueryResults URL) (calls : List QueryCall) : HistoryServiceFacade URL :=
  let s :=
    { s with
      queryResults := s.queryResults ++ localEntries query results
      resultsInfoValue := localInfo P query now results s.resultsInfoValue }
  let s := s.record fun latest => { latest with localResults := some (now, results) }
  if s.webHistoryTimer then s else s.returnResultsToFrontEnd P calls

def untrack : HistoryServiceFacade URL :=
  { s with queryTaskTracker := s.queryTaskTracker.tail }

/-- The reply of the oldest tracked task, which is untracked after its callback. The
tasks the delegate starts are behind it. -/
def replyOfTask (now : Int) (results : QueryResults URL)
    (calls : List QueryCall) : HistoryServiceFacade URL :=
  match s.queryTaskTracker with
  | [] => s
  | task :: _ =>
    (if task.canceled then s else s.queryComplete P task.query now results calls).untrack

/-- `CanAddURLToHistory`. -/
def canAddURLToHistory (url : URL) : Bool :=
  if !P.isValid url then false
  else if P.schemeIs url "javascript" || P.schemeIs url "chrome-distiller" ||
      P.schemeIs url "chrome" then false
  else !P.isAboutBlank url

/-- The visits of one event of the response; none if it is improperly formed. -/
def eventEntries (query : Query) (event : Value) : List (HistoryEntry URL) :=
  match (event.getList "result").bind (Value.getDictionary · 0) with
  | none => []
  | some result =>
    match result.getString "url", result.getList "id" with
    | some url, some (firstId :: otherIds) =>
      if canAddURLToHistory P (P.gurl url) then
        (firstId :: otherIds).filterMap fun id =>
          ((id.getString "timestamp_usec").bind P.stringToInt64).map fun timestampUsec =>
            { entryType := .remoteEntry, url := P.gurl url,
              title := (result.getString "title").getD "", time := timestampUsec,
              clientId := (id.getString "client_id").getD "",
              isSearchResult := !query.searchText.isEmpty, snippet := "", blockedVisit := false }
      else []
    | _, _ => []

/-- The entries of the response of the history server. -/
def webEntries (query : Query) (resultsValue : Option Value) : List (HistoryEntry URL) :=
  match resultsValue.bind (·.getList "event") with
  | none => []
  | some events => events.flatMap (eventEntries P query)

/-- What `WebHistoryQueryComplete` puts into the answer. -/
def webInfo (resultsValue : Option Value) (info : QueryResult URL) : QueryResult URL :=
  { info with
    hasSyncedResults := resultsValue.isSome
    syncReturned := true
    syncFinished :=
      match resultsValue with
      | none => info.syncFinished
      | some value => ((value.getString "continuation_token").getD "").isEmpty }

def webHistoryQueryComplete (query : Query)
    (resultsValue : Option Value) (calls : List QueryCall) : HistoryServiceFacade URL :=
  if !s.webHistoryTimer then s
  else
    let s :=
      { s with
        webHistoryTimer := false
        webHistoryQueryResults := s.webHistoryQueryResults ++ webEntries P query resultsValue
        resultsInfoValue := webInfo resultsValue s.resultsInfoValue }
    let s := s.record fun latest => { latest with webResults := some resultsValue }
    if s.queryTaskTracker = [] then s.returnResultsToFrontEnd P calls else s

/-- The response to the request, which is the last of it. -/
def webResponse (resultsValue : Option Value) (calls : List QueryCall) : HistoryServiceFacade URL :=
  match s.webHistoryRequest with
  | none => s
  | some query =>
    { s with webHistoryRequest := none }.webHistoryQueryComplete P query resultsValue calls

/-! ## Runs -/

/-- The calls of the owner, the replies of the services and the timer. The delegate
makes the last argument's calls when it is sent an answer. -/
inductive Op (URL : Type u)
  | queryHistory (call : QueryCall)
  | replyOfTask (now : Int) (results : QueryResults URL) (calls : List QueryCall)
  | webResponse (resultsValue : Option Value) (calls : List QueryCall)
  | webHistoryTimeout (calls : List QueryCall)

def Op.Pre : Op URL → Prop
  | .queryHistory _ => True
  | .replyOfTask .. => s.queryTaskTracker ≠ []
  | .webResponse .. => s.webHistoryRequest ≠ none
  | .webHistoryTimeout _ => s.webHistoryTimer = true

def step : Op URL → HistoryServiceFacade URL
  | .queryHistory call => s.queryHistory call
  | .replyOfTask now results calls => s.replyOfTask P now results calls
  | .webResponse resultsValue calls => s.webResponse P resultsValue calls
  | .webHistoryTimeout calls => s.webHistoryTimeout P calls

def machine : Machine (HistoryServiceFacade URL) (Op URL) where
  Pre s op := op.Pre s
  step := step P

/-! ## Right answers -/

namespace QueryRecord

def localEntries (r : QueryRecord URL) : List (HistoryEntry URL) :=
  match r.localResults with
  | none => []
  | some (_, results) => HistoryServiceFacade.localEntries r.call.query results

def webEntries (r : QueryRecord URL) : List (HistoryEntry URL) :=
  match r.webResults with
  | none => []
  | some resultsValue => HistoryServiceFacade.webEntries P r.call.query resultsValue

/-- What the answer says besides its entries. -/
def info (r : QueryRecord URL) : QueryResult URL :=
  let info :=
    match r.localResults with
    | none => {}
    | some (now, results) => localInfo P r.call.query now results {}
  match r.webResults with
  | none => info
  | some resultsValue => webInfo resultsValue info

/-- The answer of a query, by what was obtained for it. -/
def answer (r : QueryRecord URL) : QueryResult URL :=
  { r.info P with entries := combine P r.localEntries (r.webEntries P) }

/-- A query is answered at most once, after its local query, by what was obtained
for it. -/
def Right (r : QueryRecord URL) : Prop :=
  r.answers = [] ∨
    r.answers = [r.answer P] ∧ (r.call.historyService = true → r.localResults ≠ none)

end QueryRecord

/-- All answers are right, and a query that is not superseded has one if its local
task is not tracked any more and the timer is not running. -/
def QueriesAnswered : Prop :=
  (∀ r ∈ s.records, r.Right P) ∧
    ∀ latest, s.records.head? = some latest → latest.call.historyService = true →
      (∀ task ∈ s.queryTaskTracker, task.canceled = true) → s.webHistoryTimer = false →
      latest.answers = [latest.answer P]

/-- When the local query of a call without the web history service completes, there
are no web entries of an earlier call. -/
def Op.NoStaleEntries : Op URL → Prop
  | .replyOfTask .. =>
    ∀ task latest, s.queryTaskTracker.head? = some task → task.canceled = false →
      s.records.head? = some latest → latest.call.webHistory = false →
      s.webHistoryQueryResults = []
  | _ => True

/-! ## Calls of the delegate -/

theorem resetResults_queryHistory (call : QueryCall) :
    (s.queryHistory call).resetResults = s.resetResults.queryHistory call := by
  rw [resetResults, queryHistory, queryHistory, resetResults, ite_self]

theorem resetResults_foldl (calls : List QueryCall) :
    (calls.foldl queryHistory s).resetResults = calls.foldl queryHistory s.resetResults := by
  induction calls generalizing s with
  | nil => rfl
  | cons call calls ih =>
    rw [foldl_cons, foldl_cons, ih, resetResults_queryHistory]

/-- What the delegate calls could as well come after the answer. -/
theorem returnResultsToFrontEnd_eq (calls : List QueryCall) :
    s.returnResultsToFrontEnd P calls =
      calls.foldl queryHistory (s.sendResults P).resetResults :=
  resetResults_foldl ..

theorem untrack_queryHistory {s : HistoryServiceFacade URL} (h : s.queryTaskTracker ≠ [])
    (call : QueryCall) : (s.queryHistory call).untrack = s.untrack.queryHistory call := by
  obtain ⟨task, tasks, htasks⟩ := exists_cons_of_ne_nil h
  rw [untrack, queryHistory, queryHistory, untrack, htasks]
  rfl

theorem untrack_foldl {s : HistoryServiceFacade URL} (h : s.queryTaskTracker ≠ [])
    (calls : List QueryCall) :
    (calls.foldl queryHistory s).untrack = calls.foldl queryHistory s.untrack := by
  induction calls generalizing s with
  | nil => rfl
  | cons call calls ih =>
    have hnext : (s.queryHistory call).queryTaskTracker ≠ [] := by
      obtain ⟨task, tasks, htasks⟩ := exists_cons_of_ne_nil h
      rw [queryHistory, htasks]
      nofun
    rw [foldl_cons, foldl_cons, ih hnext, untrack_queryHistory h]

/-- A task could as well be untracked before its callback. -/
theorem untrack_queryComplete {s : HistoryServiceFacade URL} (h : s.queryTaskTracker ≠ [])
    (query : Query) (now : Int) (results : QueryResults URL) (calls : List QueryCall) :
    (s.queryComplete P query now results calls).untrack =
      s.untrack.queryComplete P query now results calls := by
  rw [queryComplete, queryComplete]
  cases htimer : s.webHistoryTimer with
  | true =>
    have htimer' : s.untrack.webHistoryTimer = true := htimer
    simp only [record, htimer', if_true]
    rfl
  | false =>
    have htimer' : s.untrack.webHistoryTimer = false := htimer
    simp only [record, htimer', Bool.false_eq_true, if_false]
    rw [returnResultsToFrontEnd_eq, returnResultsToFrontEnd_eq, untrack_foldl]
    · rfl
    · exact h

/-! ## The invariant -/

section Invariant

variable {P}

/-- The local task of a call that has not replied. -/
def QueryRecord.localTask (r : QueryRecord URL) : List TrackedTask :=
  match r.localResults with
  | none => if r.call.historyService then [⟨r.call.query, false⟩] else []
  | some _ => []

/-- What the pending tasks and requests are for. -/
structure Tracked (latest : QueryRecord URL) : Prop where
  tasks : ∃ canceled : List TrackedTask, (∀ task ∈ canceled, task.canceled = true) ∧
    s.queryTaskTracker = canceled ++ latest.localTask
  completed : latest.localResults ≠ none → s.queryTaskTracker = []
  request : ∀ query, s.webHistoryRequest = some query →
    query = latest.call.query ∧ latest.call.webHistory = true
  responded : latest.webResults ≠ none → s.webHistoryTimer = false
  noWeb : latest.call.webHistory = false → latest.webResults = none
  remote : ∀ entry ∈ s.webHistoryQueryResults, entry.entryType = .remoteEntry
  stopped : s.webHistoryQueryResults ≠ [] → s.webHistoryTimer = false

/-- What was obtained for a call that is not answered is in the buffers. -/
structure Buffered (P : Platform URL) (s : HistoryServiceFacade URL) (latest : QueryRecord URL) :
    Prop where
  answers : latest.answers = []
  localEntries : s.queryResults = latest.localEntries
  info : s.resultsInfoValue = latest.info P
  webEntries : latest.call.webHistory = true → s.webHistoryQueryResults = latest.webEntries P

/-- A call that is answered. -/
structure Answered (P : Platform URL) (s : HistoryServiceFacade URL) (latest : QueryRecord URL) :
    Prop where
  answers : latest.answers = [latest.answer P]
  completed : latest.call.historyService = true → latest.localResults ≠ none
  timer : s.webHistoryTimer = false
  localEntries : s.queryResults = []
  webEntries : s.webHistoryQueryResults = []

def Current (P : Platform URL) (s : HistoryServiceFacade URL) (latest : QueryRecord URL) : Prop :=
  Tracked s latest ∧
    (Buffered P s latest ∧ (latest.localResults ≠ none → s.webHistoryTimer = true) ∨
      Answered P s latest)

/-- The state before the first call. -/
structure Idle : Prop where
  tasks : s.queryTaskTracker = []
  request : s.webHistoryRequest = none
  timer : s.webHistoryTimer = false
  webEntries : s.webHistoryQueryResults = []

def Inv (P : Platform URL) (s : HistoryServiceFacade URL) : Prop :=
  (∀ r ∈ s.records, r.Right P) ∧
    match s.records with
    | [] => Idle s
    | latest :: _ => Current P s latest

theorem inv_init : Inv P (init : HistoryServiceFacade URL) := ⟨nofun, rfl, rfl, rfl, rfl⟩

theorem inv_of_current {s : HistoryServiceFacade URL} {latest : QueryRecord URL}
    {earlier : List (QueryRecord URL)} (hrecords : s.records = latest :: earlier)
    (hright : ∀ r ∈ earlier, r.Right P) (h : Current P s latest) : Inv P s := by
  constructor
  · rw [hrecords]
    refine forall_mem_cons.2 ⟨?_, hright⟩
    rcases h.2 with ⟨hbuffered, -⟩ | hanswered
    · exact .inl hbuffered.answers
    · exact .inr ⟨hanswered.answers, hanswered.completed⟩
  · rw [hrecords]
    exact h

/-- What web entries there are came from the server, and the timer was stopped. -/
theorem Inv.web {s : HistoryServiceFacade URL} (h : Inv P s) :
    (∀ entry ∈ s.webHistoryQueryResults, entry.entryType = .remoteEntry) ∧
      (s.webHistoryQueryResults ≠ [] → s.webHistoryTimer = false) := by
  obtain ⟨-, h⟩ := h
  split at h
  · rw [h.webEntries]
    exact ⟨nofun, fun hne => absurd rfl hne⟩
  · exact ⟨h.1.remote, h.1.stopped⟩

theorem Inv.queriesAnswered {s : HistoryServiceFacade URL} (h : Inv P s) : QueriesAnswered P s := by
  refine ⟨h.1, fun latest hlatest hservice htasks htimer => ?_⟩
  obtain ⟨-, h⟩ := h
  split at h
  · rename_i hrecords
    rw [hrecords] at hlatest
    cases hlatest
  · rename_i latest' earlier hrecords
    rw [hrecords] at hlatest
    obtain rfl : latest' = latest := Option.some.inj hlatest
    rcases h.2 with ⟨-, hwaits⟩ | hanswered
    · cases hlocal : latest'.localResults with
      | none =>
        -- its task is tracked
        obtain ⟨canceled, -, heq⟩ := h.1.tasks
        rw [QueryRecord.localTask, hlocal, hservice] at heq
        have hmem : (⟨latest'.call.query, false⟩ : TrackedTask) ∈ s.queryTaskTracker := by
          rw [heq]
          exact mem_append_right _ (mem_singleton.2 rfl)
        exact absurd (htasks _ hmem) Bool.false_ne_true
      | some results =>
        rw [hwaits (by rw [hlocal]; nofun)] at htimer
        cases htimer
    · exact hanswered.answers

/-! ## Steps -/

theorem tryCancelAll_canceled (tasks : List TrackedTask) :
    ∀ task ∈ tryCancelAll tasks, task.canceled = true := by
  intro task hmem
  obtain ⟨_, -, rfl⟩ := mem_map.1 hmem
  rfl

section

variable {s : HistoryServiceFacade URL}

theorem Inv.queryHistory (h : Inv P s) (call : QueryCall) : Inv P (s.queryHistory call) := by
  have htracked : Tracked (s.queryHistory call) (⟨call, none, none, []⟩ : QueryRecord URL) := by
    constructor
    case tasks => exact ⟨_, tryCancelAll_canceled _, rfl⟩
    case completed => exact fun hne => absurd rfl hne
    case request =>
      intro query hquery
      change (if call.webHistory then some call.query else none) = some query at hquery
      split at hquery
      · rename_i hweb
        exact ⟨(Option.some.inj hquery).symm, hweb⟩
      · cases hquery
    case responded => exact fun hne => absurd rfl hne
    case noWeb => exact fun _ => rfl
    case remote =>
      show ∀ entry ∈ (if call.webHistory then [] else s.webHistoryQueryResults), _
      split
      · nofun
      · exact h.web.1
    case stopped =>
      show (if call.webHistory then [] else s.webHistoryQueryResults) ≠ [] →
        (if call.webHistory then true else s.webHistoryTimer) = false
      split
      · exact fun hne => absurd rfl hne
      · exact h.web.2
  exact inv_of_current rfl h.1
    ⟨htracked, .inl ⟨⟨rfl, rfl, rfl, fun hweb => if_pos hweb⟩, fun hne => absurd rfl hne⟩⟩

theorem Inv.foldl_queryHistory (h : Inv P s)
    (calls : List QueryCall) : Inv P (calls.foldl HistoryServiceFacade.queryHistory s) := by
  induction calls generalizing s with
  | nil => exact h
  | cons call calls ih => exact ih (h.queryHistory call)

variable {latest : QueryRecord URL}

/-- The answer from buffers that hold what was obtained for the call. -/
theorem Buffered.returnResults
    {earlier : List (QueryRecord URL)} (h : Buffered P s latest) (htracked : Tracked s latest)
    (hrecords : s.records = latest :: earlier) (hright : ∀ r ∈ earlier, r.Right P)
    (hweb : s.webHistoryQueryResults = latest.webEntries P)
    (hcompleted : latest.call.historyService = true → latest.localResults ≠ none)
    (htimer : s.webHistoryTimer = false) (calls : List QueryCall) :
    Inv P (s.returnResultsToFrontEnd P calls) := by
  rw [returnResultsToFrontEnd_eq]
  refine Inv.foldl_queryHistory ?_ calls
  have hsent : (s.sendResults P).resetResults.records =
      { latest with answers := [latest.answer P] } :: earlier := by
    have hinfo : { s.resultsInfoValue with
        entries := combine P s.queryResults s.webHistoryQueryResults } = latest.answer P := by
      rw [h.info, h.localEntries, hweb, QueryRecord.answer]
    simp only [resetResults, sendResults, record, hrecords, h.answers, hinfo, nil_append]
  refine inv_of_current hsent hright ⟨?_, .inr ⟨rfl, hcompleted, htimer, rfl, rfl⟩⟩
  exact ⟨htracked.tasks, htracked.completed, htracked.request, htracked.responded, htracked.noWeb,
    nofun, fun hne => absurd rfl hne⟩

/-- A state of a run in which a call was made. -/
theorem Inv.exists_current (h : Inv P s) (hnot : ¬ Idle s) :
    ∃ latest earlier, s.records = latest :: earlier ∧ Current P s latest ∧
      latest.Right P ∧ ∀ r ∈ earlier, r.Right P := by
  obtain ⟨hright, h⟩ := h
  split at h
  · exact absurd h hnot
  · rename_i latest earlier hrecords
    rw [hrecords] at hright
    obtain ⟨hlatest, hearlier⟩ := forall_mem_cons.1 hright
    exact ⟨latest, earlier, hrecords, h, hlatest, hearlier⟩

/-- While the timer runs the call is not answered. -/
theorem Current.buffered
    (h : Current P s latest) (htimer : s.webHistoryTimer = true) : Buffered P s latest := by
  rcases h.2 with ⟨hbuffered, -⟩ | hanswered
  · exact hbuffered
  · rw [hanswered.timer] at htimer
    cases htimer

theorem Tracked.completed_of_nil (h : Tracked s latest) (htasks : s.queryTaskTracker = [])
    (hservice : latest.call.historyService = true) : latest.localResults ≠ none := by
  intro hlocal
  obtain ⟨canceled, -, heq⟩ := h.tasks
  rw [htasks, QueryRecord.localTask, hlocal, hservice] at heq
  exact absurd (congrArg List.length heq) (by simp)

/-- The timer's entries are those of its call. -/
theorem Current.webEntries (h : Current P s latest) (htimer : s.webHistoryTimer = true) :
    s.webHistoryQueryResults = [] ∧ latest.webResults = none := by
  constructor
  · by_contra hne
    rw [h.1.stopped hne] at htimer
    cases htimer
  · by_contra hne
    rw [h.1.responded hne] at htimer
    cases htimer

theorem Inv.webHistoryTimeout (h : Inv P s)
    (htimer : s.webHistoryTimer = true) (calls : List QueryCall) :
    Inv P (s.webHistoryTimeout P calls) := by
  have hnot : ¬ Idle s := fun hidle => by
    rw [hidle.timer] at htimer
    cases htimer
  obtain ⟨latest, earlier, hrecords, hcurrent, -, hright⟩ := h.exists_current hnot
  obtain ⟨hempty, hnone⟩ := hcurrent.webEntries htimer
  obtain ⟨hanswers, hlocal, hinfo, hweb⟩ := hcurrent.buffered htimer
  obtain ⟨htasks, hcompleted, hrequest, hresponded, hnoWeb, hremote, hstopped⟩ := hcurrent.1
  have htracked : Tracked { s with webHistoryTimer := false } latest :=
    ⟨htasks, hcompleted, hrequest, fun _ => rfl, hnoWeb, hremote, fun _ => rfl⟩
  have hbuffered : Buffered P { s with webHistoryTimer := false } latest :=
    ⟨hanswers, hlocal, hinfo, hweb⟩
  rw [HistoryServiceFacade.webHistoryTimeout]
  dsimp only
  split
  · rename_i hnil
    refine hbuffered.returnResults htracked hrecords hright ?_ (htracked.completed_of_nil hnil) rfl
      calls
    rw [QueryRecord.webEntries, hnone]
    exact hempty
  · rename_i hpending
    exact inv_of_current hrecords hright ⟨htracked, .inl ⟨hbuffered, fun hlocal =>
      absurd (hcompleted hlocal) hpending⟩⟩

end

theorem webEntries_remote (query : Query) (resultsValue : Option Value) :
    ∀ entry ∈ webEntries P query resultsValue, entry.entryType = .remoteEntry := by
  intro entry hmem
  rw [HistoryServiceFacade.webEntries] at hmem
  split at hmem
  · cases hmem
  · obtain ⟨event, -, hevent⟩ := mem_flatMap.1 hmem
    rw [eventEntries] at hevent
    split at hevent
    · cases hevent
    · split at hevent
      · split at hevent
        · obtain ⟨id, -, hid⟩ := mem_filterMap.1 hevent
          obtain ⟨time, -, rfl⟩ := Option.map_eq_some_iff.1 hid
          rfl
        · cases hevent
      · cases hevent

theorem Inv.webResponse {s : HistoryServiceFacade URL} (h : Inv P s)
    (hpending : s.webHistoryRequest ≠ none) (resultsValue : Option Value)
    (calls : List QueryCall) : Inv P (s.webResponse P resultsValue calls) := by
  obtain ⟨latest, earlier, hrecords, hcurrent, -, hright⟩ :=
    h.exists_current fun hidle => hpending hidle.request
  obtain ⟨query, hquery⟩ := Option.ne_none_iff_exists'.1 hpending
  rw [HistoryServiceFacade.webResponse, hquery]
  dsimp only
  rw [webHistoryQueryComplete]
  obtain ⟨rfl, hcall⟩ := hcurrent.1.request query hquery
  by_cases htimer : s.webHistoryTimer = true
  case neg =>
    -- the response came in too late
    rw [if_pos (by simpa using htimer)]
    obtain ⟨⟨htasks, hcompleted, -, hresponded, hnoWeb, hremote, hstopped⟩, hphase⟩ := hcurrent
    refine inv_of_current hrecords hright
      ⟨⟨htasks, hcompleted, nofun, hresponded, hnoWeb, hremote, hstopped⟩, ?_⟩
    rcases hphase with ⟨⟨hanswers, hlocal, hinfo, hweb⟩, hwaits⟩ | hanswered
    · exact .inl ⟨⟨hanswers, hlocal, hinfo, hweb⟩, hwaits⟩
    · obtain ⟨hanswers, hdone, hstop, hlocal, hweb⟩ := hanswered
      exact .inr ⟨hanswers, hdone, hstop, hlocal, hweb⟩
  case pos =>
    obtain ⟨hempty, hnone⟩ := hcurrent.webEntries htimer
    obtain ⟨hanswers, hlocal, hinfo, -⟩ := hcurrent.buffered htimer
    obtain ⟨htasks, hcompleted, -, -, -, -, -⟩ := hcurrent.1
    simp only [htimer, Bool.not_true, Bool.false_eq_true, if_false, record, hrecords, hempty,
      nil_append]
    have hnoWeb : latest.call.webHistory = false → some resultsValue = none := by
      rw [hcall]
      nofun
    have htracked : Tracked
        { s with
          webHistoryRequest := none
          webHistoryTimer := false
          webHistoryQueryResults := webEntries P latest.call.query resultsValue
          resultsInfoValue := webInfo resultsValue s.resultsInfoValue
          records := { latest with webResults := some resultsValue } :: earlier }
        { latest with webResults := some resultsValue } :=
      ⟨htasks, hcompleted, nofun, fun _ => rfl, hnoWeb, webEntries_remote _ _, fun _ => rfl⟩
    have hbuffered : Buffered P
        { s with
          webHistoryRequest := none
          webHistoryTimer := false
          webHistoryQueryResults := webEntries P latest.call.query resultsValue
          resultsInfoValue := webInfo resultsValue s.resultsInfoValue
          records := { latest with webResults := some resultsValue } :: earlier }
        { latest with webResults := some resultsValue } := by
      refine ⟨hanswers, hlocal, ?_, fun _ => rfl⟩
      show webInfo resultsValue s.resultsInfoValue = _
      rw [hinfo, QueryRecord.info, QueryRecord.info, hnone]
    split
    · rename_i hnil
      exact hbuffered.returnResults htracked rfl hright rfl (htracked.completed_of_nil hnil) rfl
        calls
    · rename_i hpending
      exact inv_of_current rfl hright ⟨htracked, .inl ⟨hbuffered, fun hlocal =>
        absurd (hcompleted hlocal) hpending⟩⟩

variable {s : HistoryServiceFacade URL}

/-- The oldest task is cancelled, or it is the only one and that of the latest call. -/
theorem Tracked.oldest {latest : QueryRecord URL}
    (h : Tracked s latest) {task : TrackedTask} {tasks : List TrackedTask}
    (htasks : s.queryTaskTracker = task :: tasks) :
    task.canceled = true ∧ Tracked s.untrack latest ∨
      task = ⟨latest.call.query, false⟩ ∧ tasks = [] ∧ latest.localResults = none ∧
        latest.call.historyService = true := by
  have hlocal : latest.localResults = none := by
    by_contra hne
    rw [h.completed hne] at htasks
    cases htasks
  obtain ⟨canceled, hcanceled, heq⟩ := h.tasks
  rw [htasks] at heq
  cases canceled with
  | nil =>
    right
    rw [nil_append, QueryRecord.localTask, hlocal] at heq
    dsimp only at heq
    split at heq
    · rename_i hservice
      obtain ⟨rfl, rfl⟩ := cons.inj heq
      exact ⟨rfl, rfl, hlocal, hservice⟩
    · cases heq
  | cons first canceled =>
    left
    obtain ⟨rfl, rfl⟩ := cons.inj heq
    obtain ⟨hfirst, hrest⟩ := forall_mem_cons.1 hcanceled
    refine ⟨hfirst, ⟨canceled, hrest, ?_⟩, fun hne => absurd hlocal hne, h.request, h.responded,
      h.noWeb, h.remote, h.stopped⟩
    rw [untrack, htasks]
    rfl

theorem Inv.untrack_canceled (h : Inv P s) {task : TrackedTask}
    {tasks : List TrackedTask} (htasks : s.queryTaskTracker = task :: tasks)
    (hcanceled : task.canceled = true) : Inv P s.untrack := by
  have hnot : ¬ Idle s := fun hidle => by
    rw [hidle.tasks] at htasks
    cases htasks
  obtain ⟨latest, earlier, hrecords, hcurrent, -, hright⟩ := h.exists_current hnot
  rcases hcurrent.1.oldest htasks with ⟨-, htracked⟩ | ⟨rfl, -⟩
  · refine inv_of_current hrecords hright ⟨htracked, ?_⟩
    rcases hcurrent.2 with ⟨⟨hanswers, hlocal, hinfo, hweb⟩, hwaits⟩ | hanswered
    · exact .inl ⟨⟨hanswers, hlocal, hinfo, hweb⟩, hwaits⟩
    · obtain ⟨hanswers, hdone, hstop, hlocal, hweb⟩ := hanswered
      exact .inr ⟨hanswers, hdone, hstop, hlocal, hweb⟩
  · cases hcanceled

/-- The buffers after the local results came. -/
def completed (s : HistoryServiceFacade URL) (P : Platform URL) (latest : QueryRecord URL)
    (earlier : List (QueryRecord URL)) (now : Int) (results : QueryResults URL) :
    HistoryServiceFacade URL :=
  { s with
    queryTaskTracker := []
    queryResults := localEntries latest.call.query results
    resultsInfoValue := localInfo P latest.call.query now results s.resultsInfoValue
    records := { latest with localResults := some (now, results) } :: earlier }

/-- What the reply of the latest call's task does. -/
theorem Inv.replyOfTask_eq (h : Inv P s) {task : TrackedTask}
    {tasks : List TrackedTask} (htasks : s.queryTaskTracker = task :: tasks)
    (hcanceled : task.canceled = false) (now : Int) (results : QueryResults URL)
    (calls : List QueryCall) :
    ∃ latest earlier, s.records = latest :: earlier ∧ (∀ r ∈ earlier, r.Right P) ∧
      Tracked (completed s P latest earlier now results)
        { latest with localResults := some (now, results) } ∧
      Buffered P (completed s P latest earlier now results)
        { latest with localResults := some (now, results) } ∧
      s.replyOfTask P now results calls =
        if s.webHistoryTimer then completed s P latest earlier now results
        else (completed s P latest earlier now results).returnResultsToFrontEnd P calls := by
  have hnot : ¬ Idle s := fun hidle => by
    rw [hidle.tasks] at htasks
    cases htasks
  obtain ⟨latest, earlier, hrecords, hcurrent, -, hright⟩ := h.exists_current hnot
  refine ⟨latest, earlier, hrecords, hright, ?_⟩
  obtain ⟨htracked, hphase⟩ := hcurrent
  rcases htracked.oldest htasks with ⟨htrue, -⟩ | ⟨rfl, rfl, hnone, hservice⟩
  · rw [hcanceled] at htrue
    cases htrue
  · have hbuffered : Buffered P s latest := by
      rcases hphase with ⟨hbuffered, -⟩ | hanswered
      · exact hbuffered
      · exact absurd hnone (hanswered.completed hservice)
    have hempty : s.queryResults = [] := by
      rw [hbuffered.localEntries, QueryRecord.localEntries, hnone]
    obtain ⟨-, -, hrequest, hresponded, hnoWeb, hremote, hstopped⟩ := htracked
    refine ⟨⟨⟨[], nofun, rfl⟩, fun _ => rfl, hrequest, hresponded, hnoWeb, hremote, hstopped⟩,
      ⟨hbuffered.answers, rfl, ?_, hbuffered.webEntries⟩, ?_⟩
    · show localInfo P latest.call.query now results s.resultsInfoValue = _
      rw [hbuffered.info, QueryRecord.info, QueryRecord.info, hnone]
      -- the two services fill in different fields
      cases latest.webResults with
      | none => rfl
      | some resultsValue => cases resultsValue <;> rfl
    · rw [HistoryServiceFacade.replyOfTask, htasks]
      dsimp only
      rw [if_neg Bool.false_ne_true, untrack_queryComplete P (by rw [htasks]; nofun),
        queryComplete]
      have heq : ({ s.untrack with
            queryResults := s.untrack.queryResults ++ localEntries latest.call.query results
            resultsInfoValue :=
              localInfo P latest.call.query now results s.untrack.resultsInfoValue }.record
          fun latest => { latest with localResults := some (now, results) }) =
          completed s P latest earlier now results := by
        simp only [untrack, record, completed, htasks, hrecords, hempty, tail_cons,
          nil_append]
      rw [heq]
      rfl

theorem Inv.replyOfTask {s : HistoryServiceFacade URL} (h : Inv P s)
    (hpending : s.queryTaskTracker ≠ []) (now : Int) (results : QueryResults URL)
    (calls : List QueryCall)
    (hstale : (Op.replyOfTask now results calls).NoStaleEntries s) :
    Inv P (s.replyOfTask P now results calls) := by
  obtain ⟨task, tasks, htasks⟩ := exists_cons_of_ne_nil hpending
  cases hcanceled : task.canceled with
  | true =>
    rw [HistoryServiceFacade.replyOfTask, htasks]
    dsimp only
    rw [if_pos hcanceled]
    exact h.untrack_canceled htasks hcanceled
  | false =>
    obtain ⟨latest, earlier, hrecords, hright, htracked, hbuffered, heq⟩ :=
      h.replyOfTask_eq htasks hcanceled now results calls
    rw [heq]
    cases htimer : s.webHistoryTimer with
    | true =>
      rw [if_pos rfl]
      exact inv_of_current rfl hright ⟨htracked, .inl ⟨hbuffered, fun _ => htimer⟩⟩
    | false =>
      rw [if_neg Bool.false_ne_true]
      refine hbuffered.returnResults htracked rfl hright ?_ (fun _ => nofun) htimer calls
      cases hweb : latest.call.webHistory with
      | true => exact hbuffered.webEntries hweb
      | false =>
        rw [QueryRecord.webEntries, htracked.noWeb hweb]
        exact hstale task latest (by rw [htasks]; rfl) hcanceled (by rw [hrecords]; rfl) hweb

/-- **Step lemma**. -/
theorem Inv.step {s : HistoryServiceFacade URL} (h : Inv P s) (op : Op URL) (hpre : op.Pre s)
    (hstale : op.NoStaleEntries s) : Inv P (s.step P op) := by
  cases op with
  | queryHistory call => exact h.queryHistory call
  | replyOfTask now results calls => exact h.replyOfTask hpre now results calls hstale
  | webResponse resultsValue calls => exact h.webResponse hpre resultsValue calls
  | webHistoryTimeout calls => exact h.webHistoryTimeout hpre calls

theorem mem_records_foldl {r : QueryRecord URL} (h : r ∈ s.records) (calls : List QueryCall) :
    r ∈ (calls.foldl queryHistory s).records := by
  induction calls generalizing s with
  | nil => exact h
  | cons call calls ih => exact ih (mem_cons_of_mem _ h)

/-- Merged entries do not look like local ones if there is one of the server. -/
def KeepsRemote (P : Platform URL) : Prop :=
  ∀ entries, (∃ entry ∈ entries, entry.entryType = .remoteEntry) →
    ∃ entry ∈ P.mergeDuplicates entries, entry.entryType ≠ .localEntry

/-- Entries of an earlier call go into the answer. -/
theorem Inv.not_answered (hmerge : KeepsRemote P) {s : HistoryServiceFacade URL} (h : Inv P s)
    (op : Op URL) (hstale : ¬ op.NoStaleEntries s) : ¬ QueriesAnswered P (s.step P op) := by
  cases op with
  | queryHistory | webResponse | webHistoryTimeout => exact absurd trivial hstale
  | replyOfTask now results calls =>
    simp only [Op.NoStaleEntries, not_forall] at hstale
    obtain ⟨task, latest, hhead, hcanceled, hlatest, hweb, hne⟩ := hstale
    obtain ⟨tasks, htasks⟩ := head?_eq_some_iff.1 hhead
    obtain ⟨latest', earlier, hrecords, -, htracked, hbuffered, heq⟩ :=
      h.replyOfTask_eq htasks hcanceled now results calls
    obtain rfl : latest' = latest := by
      rw [hrecords] at hlatest
      exact Option.some.inj hlatest
    rw [HistoryServiceFacade.step, heq, if_neg (by rw [h.web.2 hne]; exact Bool.false_ne_true),
      returnResultsToFrontEnd_eq]
    intro hanswered
    have hright := hanswered.1 _ (mem_records_foldl (mem_cons_self ..) calls)
    rcases hright with hnil | ⟨hanswer, -⟩
    · exact absurd (congrArg List.length hnil) (by simp)
    · rw [hbuffered.answers] at hanswer
      have hentries := congrArg QueryResult.entries (cons.inj hanswer).1
      change combine P (localEntries latest'.call.query results) s.webHistoryQueryResults =
        combine P (localEntries latest'.call.query results) (QueryRecord.webEntries P _) at hentries
      rw [QueryRecord.webEntries, htracked.noWeb hweb] at hentries
      obtain ⟨entry, others, hothers⟩ := exists_cons_of_ne_nil hne
      rw [hothers] at hentries
      obtain ⟨merged, hmem, htype⟩ := hmerge (localEntries latest'.call.query results ++
        entry :: others) ⟨entry, by simp, h.web.1 entry (by rw [hothers]; simp)⟩
      have hmem' : merged ∈ localEntries latest'.call.query results := by
        rw [← show _ = localEntries latest'.call.query results from hentries]
        exact hmem
      obtain ⟨result, -, rfl⟩ := mem_map.1 hmem'
      exact htype rfl

end Invariant

/-- **Answers of queries**: every call that is not superseded is answered once, after
its local query, by what was obtained for it, in all states of a run if and only if no
call without the web history service completes its local query while web entries of an
earlier call are kept. -/
theorem queries_answered_iff (hmerge : KeepsRemote P) (ops : List (Op URL))
    (hlegal : (machine P).Legal init ops) :
    (∀ before, before <+: ops → QueriesAnswered P ((machine P).run init before)) ↔
      (machine P).Along (fun s op => op.NoStaleEntries s) init ops :=
  Machine.always_iff_along (I := Inv P) (fun _ h => h.queriesAnswered)
    (fun _ op h hpre hstale => h.step op hpre hstale)
    (fun _ op h _ hstale => h.not_answered hmerge op hstale) inv_init hlegal

/-- A platform whose URLs are their text. Of numbers only one is read, and only one
entry is merged. -/
def plain : Platform String where
  gurl text := text
  isValid _ := true
  schemeIs url scheme := (scheme.toList ++ [':']).isPrefixOf url.toList
  isAboutBlank url := url = "about:blank"
  stringToInt64 text := if text = "5" then some 5 else none
  relativeDate _ := "Today"
  mergeDuplicates entries := entries

/-- The response of the server with one visit. -/
def oneVisit : Value :=
  .dictionary [("event", .list [.dictionary [("result", .list [.dictionary
    [("url", .string "https://a.test/"), ("title", .string "A"),
      ("id", .list [.dictionary [("timestamp_usec", .string "5")]])]])]])]

/-- A query with the web history service, which responds first. -/
def webQuery : List (Op String) :=
  [.queryHistory ⟨⟨"", 0, 0⟩, true, true⟩, .webResponse (some oneVisit) []]

theorem web_query_answered :
    QueriesAnswered plain
      ((machine plain).run init (webQuery ++ [.replyOfTask 9 ⟨[], true⟩ []])) := by
  have hmerge : KeepsRemote plain := by
    rintro entries ⟨entry, hmem, htype⟩
    exact ⟨entry, hmem, by rw [htype]; nofun⟩
  have hlegal : (machine plain).Legal init (webQuery ++ [.replyOfTask 9 ⟨[], true⟩ []]) :=
    ⟨trivial, nofun, nofun, trivial⟩
  refine (queries_answered_iff plain hmerge _ hlegal).2 ?_ _ (prefix_refl _)
  exact ⟨trivial, trivial, by rintro _ _ - - ⟨⟩ ⟨⟩, trivial⟩

/-- The service is gone when the next query is made. -/
def secondQuery : List (Op String) :=
  webQuery ++ [.queryHistory ⟨⟨"a", 0, 0⟩, false, true⟩, .replyOfTask 9 ⟨[], true⟩ [],
    .replyOfTask 9 ⟨[], true⟩ []]

/-- The answer of the second query has the entry of the first. -/
theorem second_query_has_entries_of_first :
    ((machine plain).run init secondQuery).records.map
        (fun r => (r.call.query.searchText, r.answers.map (·.entries.map (·.url)),
          (r.answer plain).entries.map (·.url))) =
      [("a", [["https://a.test/"]], []), ("", [], ["https://a.test/"])] ∧
    ¬ QueriesAnswered plain ((machine plain).run init secondQuery) := by
  refine ⟨by decide +kernel, fun hanswered => ?_⟩
  have hright : ∀ r ∈ ((machine plain).run init secondQuery).records,
      r.answers = [] ∨ r.answers = [r.answer plain] :=
    fun r hmem => (hanswered.1 r hmem).imp_right And.left
  exact absurd hright (by decide +kernel)

end HistoryServiceFacade

end ChromiumIos
