import ChromiumIos.ReadingList.URLDownloader

/-!
# The download queue

What holds of a `URLDownloader` in every state.

- `OneTask`: a task at work waits for one thing; an idle downloader has no task left.
- `QueueInv`: tasks start in the order of the queue, a queued download is one that was
  not taken back, and the directories are those of downloads that started after the
  last removal was requested.
- `queue_disciplined`: what a client may rely on, over whole runs.
-/

namespace ChromiumIos

open Lib List TaskType

namespace URLDownloader

variable {URL : Type}

/-! ## Histories -/

def Happening.queuedTask : Happening URL → Option (Task URL)
  | .queued task => some task
  | _ => none

def Happening.startedTask : Happening URL → Option (Task URL)
  | .started task => some task
  | _ => none

def Happening.endedURL : Happening URL → Option URL
  | .downloadEnded completion => some completion.url
  | .deleteEnded url _ => some url
  | _ => none

/-- What a history shows of one kind of happening. -/
def told {β : Type} (view : Happening URL → Option β) (history : List (Happening URL)) :
    List β :=
  history.filterMap view

section Told

variable {β : Type} (view : Happening URL → Option β)

@[simp] theorem told_nil : told view [] = [] := rfl

@[simp] theorem told_cons (happening : Happening URL) (history : List (Happening URL)) :
    told view (happening :: history) = (view happening).toList ++ told view history := by
  rw [told, filterMap_cons]
  cases view happening <;> rfl

@[simp] theorem told_append (earlier later : List (Happening URL)) :
    told view (earlier ++ later) = told view earlier ++ told view later :=
  filterMap_append

end Told

abbrev queuedTasks (history : List (Happening URL)) : List (Task URL) :=
  told Happening.queuedTask history

abbrev startedTasks (history : List (Happening URL)) : List (Task URL) :=
  told Happening.startedTask history

abbrev endedURLs (history : List (Happening URL)) : List URL :=
  told Happening.endedURL history

/-- `happening` came when `Before` held of the past, and none of `undoing` came since. -/
def Since (Before : List (Happening URL) → Prop) (happening : Happening URL)
    (undoing : List (Happening URL)) (history : List (Happening URL)) : Prop :=
  ∃ earlier later, history = earlier ++ happening :: later ∧ Before earlier ∧
    ∀ other ∈ undoing, other ∉ later

/-- A download of the URL was requested, and neither cancelled nor followed by a
removal. -/
def Outstanding (url : URL) (history : List (Happening URL)) : Prop :=
  Since (fun _ => True) (.requested (.download url))
    [.requested (.remove url), .requested (.cancel url)] history

/-- An outstanding download of the URL started, and no removal was requested since. -/
def DownloadStarted (url : URL) (history : List (Happening URL)) : Prop :=
  Since (Outstanding url) (.started (.download, url)) [.requested (.remove url)] history

theorem since_self {Before : List (Happening URL) → Prop} {happening : Happening URL}
    {undoing history : List (Happening URL)} (h : Before history) :
    Since Before happening undoing (history ++ [happening]) :=
  ⟨history, [], rfl, h, fun _ _ => not_mem_nil⟩

theorem Since.append {Before : List (Happening URL) → Prop} {happening next : Happening URL}
    {undoing history : List (Happening URL)} (h : Since Before happening undoing history)
    (hnext : next ∉ undoing) : Since Before happening undoing (history ++ [next]) := by
  obtain ⟨earlier, later, rfl, hbefore, hlater⟩ := h
  refine ⟨earlier, later ++ [next], by simp, hbefore, ?_⟩
  intro other hother hmem
  rcases mem_append.1 hmem with hmem | hmem
  · exact hlater other hother hmem
  · rw [mem_singleton] at hmem
    exact hnext (hmem ▸ hother)

/-! ## The waiting task -/

/-- The URL whose directory the task may still create. -/
def Waiting.target (originalURL : URL) : Waiting URL → Option URL
  | .pathExists url | .downloadURL url _ | .distillerCallback url | .saveDistilledHTML url _ =>
    some url
  | .onURLFetchComplete _ | .savePDFFile _ _ => some originalURL
  | _ => none

/-- The task is to delete the directory of the URL, or has not told of its failure. -/
def Waiting.Deletes (url : URL) (waiting : Waiting URL) : Prop :=
  waiting = .deleteFile url ∨ waiting = .deleteCompletionHandler url false

/-- A download that goes on after the check whether there is one already. -/
def Waiting.InProgress : Waiting URL → Prop
  | .distillerCallback _ | .onURLFetchComplete _ | .saveDistilledHTML _ _ | .savePDFFile _ _
  | .downloadCompletionHandler _ | .deletePartialDownload _ | .postDelete _ => True
  | _ => False

/-- What a task starts with. -/
def Task.firstWaiting : Task URL → Waiting URL
  | (.delete, url) => .deleteFile url
  | (.download, url) => .pathExists url

theorem handleNextTask_cases (s : URLDownloader URL) :
    ((s.working = true ∨ s.tasks = []) ∧ s.handleNextTask = s) ∨
    ∃ task tasks, s.working = false ∧ s.tasks = task :: tasks ∧
      s.handleNextTask =
        { s with
          tasks, working := true
          waiting := s.waiting ++ [Task.firstWaiting task]
          history := s.history ++ [.started task] } := by
  unfold handleNextTask
  cases hworking : s.working with
  | true => exact .inl ⟨.inl rfl, rfl⟩
  | false =>
    cases htasks : s.tasks with
    | nil => exact .inl ⟨.inr rfl, rfl⟩
    | cons task tasks =>
      refine .inr ⟨task, tasks, rfl, rfl, ?_⟩
      obtain ⟨type, url⟩ := task
      cases type <;> rfl

/-! ## One task at a time -/

/-- A task at work waits for one thing, and all started tasks but that one ended. -/
structure OneTask (s : URLDownloader URL) : Prop where
  idle : s.working = false → s.waiting = [] ∧ s.tasks = []
  busy : s.working = true → ∃ waiting, s.waiting = [waiting]
  tally : (startedTasks s.history).length = (endedURLs s.history).length + s.waiting.length

/-- The state in which a task at work is answered. -/
structure Answered (s : URLDownloader URL) : Prop where
  working : s.working = true
  waiting : s.waiting = []
  tally : (startedTasks s.history).length = (endedURLs s.history).length + 1

theorem OneTask.answered {s : URLDownloader URL} (h : OneTask s) {index : Nat}
    {waiting : Waiting URL} (hindex : s.waiting[index]? = some waiting) :
    s.waiting = [waiting] ∧ Answered { s with waiting := s.waiting.eraseIdx index } := by
  cases hworking : s.working with
  | false =>
    rw [(h.idle hworking).1] at hindex
    cases hindex
  | true =>
    obtain ⟨only, honly⟩ := h.busy hworking
    rw [honly, getElem?_singleton] at hindex
    split at hindex
    · next hzero =>
      cases hindex
      have htally := h.tally
      rw [honly] at htally
      exact ⟨honly, rfl, by simp [honly, hzero], htally⟩
    · cases hindex

theorem Answered.post {s : URLDownloader URL} (h : Answered s) (waiting : Waiting URL) :
    OneTask (s.post waiting) where
  idle hidle := by
    have hworking := h.working.symm.trans hidle
    cases hworking
  busy _ := ⟨waiting, by simp [URLDownloader.post, h.waiting]⟩
  tally := by simpa [URLDownloader.post, h.waiting] using h.tally

/-- A downloader whose task ended takes up the next one. -/
theorem OneTask.handleNextTask {s : URLDownloader URL} (hworking : s.working = false)
    (hwaiting : s.waiting = [])
    (htally : (startedTasks s.history).length = (endedURLs s.history).length) :
    OneTask s.handleNextTask := by
  rcases handleNextTask_cases s with ⟨hnone, hs⟩ | ⟨task, tasks, _, _, hs⟩
  · rw [hs]
    have htasks : s.tasks = [] := hnone.resolve_left (by simp [hworking])
    refine ⟨fun _ => ⟨hwaiting, htasks⟩, ?_, by simpa [hwaiting] using htally⟩
    intro hbusy
    cases hworking.symm.trans hbusy
  · rw [hs]
    refine ⟨?_, fun _ => ⟨task.firstWaiting, by simp [hwaiting]⟩, ?_⟩
    · rintro ⟨⟩
    · simp [Happening.startedTask, Happening.endedURL, hwaiting, htally]

variable [DecidableEq URL]

/-- While a task is at work, requests edit the queue only. -/
theorem request_of_working {s : URLDownloader URL} (h : s.working = true)
    (request : Request URL) :
    (s.request request).working = true ∧ (s.request request).waiting = s.waiting ∧
    startedTasks (s.request request).history = startedTasks s.history ∧
    endedURLs (s.request request).history = endedURLs s.history := by
  cases request with
  | download url =>
    by_cases hmem : (download, url) ∈ s.tasks <;>
      simp [URLDownloader.request, downloadOfflineURL, record, pushBack, handleNextTask,
        Happening.startedTask, Happening.endedURL, h, hmem]
  | remove url =>
    simp [URLDownloader.request, removeOfflineURL, cancelDownloadOfflineURL, record, pushBack,
      handleNextTask, Happening.startedTask, Happening.endedURL, h]
  | cancel url =>
    simp [URLDownloader.request, cancelDownloadOfflineURL, record, Happening.startedTask,
      Happening.endedURL, h]

theorem OneTask.request {s : URLDownloader URL} (h : OneTask s) (request : Request URL) :
    OneTask (s.request request) := by
  cases hworking : s.working with
  | true =>
    obtain ⟨hworking', hwaiting, hstarted, hended⟩ := request_of_working hworking request
    refine ⟨?_, fun _ => hwaiting ▸ h.busy hworking, ?_⟩
    · rw [hworking']
      rintro ⟨⟩
    · rw [hstarted, hended, hwaiting]
      exact h.tally
  | false =>
    obtain ⟨hwaiting, htasks⟩ := h.idle hworking
    have htally : (startedTasks s.history).length = (endedURLs s.history).length := by
      simpa [hwaiting] using h.tally
    cases request with
    | download url =>
      rw [URLDownloader.request, downloadOfflineURL, if_neg (by simp [record, htasks])]
      refine OneTask.handleNextTask hworking hwaiting ?_
      simpa [record, pushBack, Happening.startedTask, Happening.endedURL] using htally
    | remove url =>
      refine OneTask.handleNextTask hworking hwaiting ?_
      simpa [record, pushBack, cancelDownloadOfflineURL, Happening.startedTask,
        Happening.endedURL] using htally
    | cancel url =>
      refine ⟨fun _ => ⟨hwaiting, ?_⟩, ?_, ?_⟩
      · simp [URLDownloader.request, cancelDownloadOfflineURL, record, htasks]
      · intro hbusy
        cases hworking.symm.trans hbusy
      · simpa [URLDownloader.request, record, cancelDownloadOfflineURL, Happening.startedTask,
          Happening.endedURL] using h.tally

/-- After the callback of a task that ended, started and ended tasks match. -/
theorem Answered.tally_ended {s : URLDownloader URL} (h : Answered s) (ended : Happening URL)
    {url : URL} (hended : ended.endedURL = some url) (hstarted : ended.startedTask = none)
    (requests : List (Request URL)) :
    let s' := requests.foldl request (s.record ended)
    s'.waiting = [] ∧ (startedTasks s'.history).length = (endedURLs s'.history).length := by
  have hrecord : (s.record ended).working = true ∧ (s.record ended).waiting = [] ∧
      (startedTasks (s.record ended).history).length =
        (endedURLs (s.record ended).history).length := by
    refine ⟨h.working, h.waiting, ?_⟩
    simp [record, hended, hstarted, h.tally]
  generalize s.record ended = t at hrecord
  induction requests generalizing t with
  | nil => exact hrecord.2
  | cons request requests ih =>
    obtain ⟨hworking, hwaiting, htally⟩ := hrecord
    obtain ⟨hworking', hwaiting', hstarted, hended⟩ := request_of_working hworking request
    exact ih _ ⟨hworking', hwaiting'.trans hwaiting, by rw [hstarted, hended]; exact htally⟩

theorem Answered.postDelete {s : URLDownloader URL} (h : Answered s) (ended : DownloadEnd URL)
    (requests : List (Request URL)) : OneTask (s.postDelete ended requests) := by
  obtain ⟨hwaiting, htally⟩ := h.tally_ended (.downloadEnded (s.completion ended)) rfl rfl
    requests
  exact OneTask.handleNextTask rfl hwaiting htally

theorem Answered.deleteCompletionHandler {s : URLDownloader URL} (h : Answered s) (url : URL)
    (success : Bool) (requests : List (Request URL)) :
    OneTask (s.deleteCompletionHandler url success requests) := by
  obtain ⟨hwaiting, htally⟩ := h.tally_ended (.deleteEnded url success) rfl rfl requests
  exact OneTask.handleNextTask rfl hwaiting htally

theorem Answered.downloadCompletionHandler {s : URLDownloader URL} (h : Answered s)
    (ended : DownloadEnd URL) (requests : List (Request URL)) :
    OneTask (s.downloadCompletionHandler ended requests) := by
  unfold URLDownloader.downloadCompletionHandler
  split
  · exact h.post _
  · exact h.postDelete ended requests

variable (utils : OfflineURLUtils URL)

omit [DecidableEq URL] in
theorem Answered.save {s : URLDownloader URL} (h : Answered s) (url : URL) (saving : Saving) :
    Answered (s.save utils url saving) := by
  unfold URLDownloader.save
  split
  · exact ⟨h.working, h.waiting, h.tally⟩
  · exact h

omit [DecidableEq URL] in
theorem Answered.deleteFile {s : URLDownloader URL} (h : Answered s) (url : URL)
    (success : Bool) : Answered (s.deleteFile utils url success) := by
  unfold URLDownloader.deleteFile
  split
  · exact ⟨h.working, h.waiting, h.tally⟩
  · exact h

theorem Answered.answer {s s' : URLDownloader URL} (h : Answered s) {waiting : Waiting URL}
    {answer : Answer URL} (hs' : s.answer utils waiting answer = some s') : OneTask s' := by
  unfold URLDownloader.answer at hs'
  split at hs' <;> cases hs'
  · exact (h.deleteFile utils _ _).post _
  · exact h.deleteCompletionHandler _ _ _
  · exact h.post _
  · unfold downloadURL
    split
    · exact h.downloadCompletionHandler _ _
    · next url _ _ _ =>
      have hreset : Answered { s with
          originalURL := url, distilledURL := url, savedSize := 0, distiller := true } :=
        ⟨h.working, h.waiting, h.tally⟩
      exact hreset.post _
  · unfold distillerCallback
    split
    · split
      · exact h.post _
      · exact h.downloadCompletionHandler _ _
    · exact h.post _
  · unfold onURLFetchComplete
    dsimp only
    split
    · exact h.downloadCompletionHandler _ _
    · exact h.post _
  · exact (h.save utils _ _).post _
  · exact (h.save utils _ _).post _
  · exact h.downloadCompletionHandler _ _
  · exact (h.deleteFile utils _ _).post _
  · exact h.postDelete _ _

theorem OneTask.step {s : URLDownloader URL} (h : OneTask s) (op : Op URL) :
    OneTask (s.step utils op) := by
  cases op with
  | request request => exact h.request request
  | distilledPageRedirectedToURL redirectedURL =>
    simp only [URLDownloader.step, distilledPageRedirectedToURL]
    split
    · exact ⟨h.idle, h.busy, h.tally⟩
    · exact h
  | distilledPageHasMimeType mimeType =>
    simp only [URLDownloader.step, distilledPageHasMimeType]
    split
    · exact ⟨h.idle, h.busy, h.tally⟩
    · exact h
  | resume index answer =>
    simp only [URLDownloader.step, resume]
    split
    · exact h
    · next waiting hindex =>
      cases hs' : URLDownloader.answer utils { s with waiting := s.waiting.eraseIdx index }
          waiting answer with
      | none => exact h
      | some s' => exact (h.answered hindex).2.answer utils hs'
  | cleanUpFiles deleted => exact ⟨h.idle, h.busy, h.tally⟩

/-! ## The course of a download -/

section Course

omit utils

omit [DecidableEq URL] in
@[simp] theorem handleNextTask_originalURL (s : URLDownloader URL) :
    s.handleNextTask.originalURL = s.originalURL := by
  rcases handleNextTask_cases s with ⟨_, hs⟩ | ⟨task, tasks, _, _, hs⟩ <;> rw [hs]

variable {s : URLDownloader URL}

omit [DecidableEq URL] in
/-- The next task is not yet under way. -/
theorem inProgress_handleNextTask {waiting : Waiting URL}
    (hmem : waiting ∈ s.handleNextTask.waiting) (hprogress : waiting.InProgress) :
    waiting ∈ s.waiting := by
  rcases handleNextTask_cases s with ⟨_, hs⟩ | ⟨task, tasks, _, _, hs⟩
  · rwa [hs] at hmem
  · rw [hs] at hmem
    refine (mem_append.1 hmem).resolve_right ?_
    rw [mem_singleton]
    rintro rfl
    obtain ⟨type, url⟩ := task
    cases type <;> exact hprogress

@[simp] theorem request_originalURL (s : URLDownloader URL) (request : Request URL) :
    (s.request request).originalURL = s.originalURL := by
  cases request with
  | download url =>
    simp only [URLDownloader.request, downloadOfflineURL]
    split
    · rfl
    · exact handleNextTask_originalURL _
  | remove url => exact handleNextTask_originalURL _
  | cancel url => rfl

/-- A request lets no download go on. -/
theorem inProgress_request {request : Request URL}
    {waiting : Waiting URL} (hmem : waiting ∈ (s.request request).waiting)
    (hprogress : waiting.InProgress) : waiting ∈ s.waiting := by
  cases request with
  | download url =>
    simp only [URLDownloader.request, downloadOfflineURL] at hmem
    split at hmem
    · exact hmem
    · have hold := inProgress_handleNextTask hmem hprogress
      exact hold
  | remove url =>
    have hold := inProgress_handleNextTask hmem hprogress
    exact hold
  | cancel url => exact hmem

/-- After the end of a task, no download is under way. -/
theorem Answered.not_inProgress_postDelete (h : Answered s)
    {ended : DownloadEnd URL} {requests : List (Request URL)} {waiting : Waiting URL}
    (hmem : waiting ∈ (s.postDelete ended requests).waiting) : ¬waiting.InProgress := by
  intro hprogress
  have hold := inProgress_handleNextTask hmem hprogress
  rw [(h.tally_ended (.downloadEnded (s.completion ended)) rfl rfl requests).1] at hold
  cases hold

theorem Answered.not_inProgress_deleteCompletionHandler (h : Answered s)
    {url : URL} {success : Bool} {requests : List (Request URL)} {waiting : Waiting URL}
    (hmem : waiting ∈ (s.deleteCompletionHandler url success requests).waiting) :
    ¬waiting.InProgress := by
  intro hprogress
  have hold := inProgress_handleNextTask hmem hprogress
  rw [(h.tally_ended (.deleteEnded url success) rfl rfl requests).1] at hold
  cases hold

/-- A download that ends goes on only to have what it left deleted. -/
theorem Answered.inProgress_downloadCompletionHandler (h : Answered s)
    {ended : DownloadEnd URL} {requests : List (Request URL)} {waiting : Waiting URL}
    (hmem : waiting ∈ (s.downloadCompletionHandler ended requests).waiting)
    (hprogress : waiting.InProgress) :
    ended.success = .error ∧
    (s.downloadCompletionHandler ended requests).originalURL = s.originalURL := by
  unfold URLDownloader.downloadCompletionHandler at hmem ⊢
  split at hmem
  · next herror => simp [herror, URLDownloader.post]
  · exact absurd hprogress (h.not_inProgress_postDelete hmem)

omit [DecidableEq URL] in
theorem Answered.mem_post (h : Answered s)
    {waiting next : Waiting URL} (hmem : next ∈ (s.post waiting).waiting) : next = waiting := by
  simpa [URLDownloader.post, h.waiting] using hmem

end Course

/-- A download is under way after an answer if it was before, or if it has just begun;
and then none ended. -/
theorem Answered.inProgress_answer {s s' : URLDownloader URL} (h : Answered s)
    {waiting next : Waiting URL} {answer : Answer URL}
    (hs' : s.answer utils waiting answer = some s') (hmem : next ∈ s'.waiting)
    (hprogress : next.InProgress) :
    s.downloadCompletion waiting answer = none ∧
    ((waiting.InProgress ∧ s'.originalURL = s.originalURL) ∨
      ∃ url requests, waiting = .downloadURL url false ∧ answer = .replied requests ∧
        s'.originalURL = url) := by
  unfold URLDownloader.answer at hs'
  split at hs' <;> cases hs'
  · cases (h.deleteFile utils _ _).mem_post hmem
    cases hprogress
  · exact absurd hprogress (h.not_inProgress_deleteCompletionHandler hmem)
  · cases h.mem_post hmem
    cases hprogress
  · next url offlineURLExists requests =>
    unfold downloadURL at hmem ⊢
    cases offlineURLExists with
    | true => exact absurd hprogress (h.not_inProgress_postDelete hmem)
    | false => exact ⟨rfl, .inr ⟨url, requests, rfl, rfl, rfl⟩⟩
  · refine ⟨rfl, .inl ⟨trivial, ?_⟩⟩
    unfold distillerCallback
    split
    · split <;> rfl
    · rfl
  · refine ⟨rfl, .inl ⟨trivial, ?_⟩⟩
    unfold onURLFetchComplete
    dsimp only
    split <;> rfl
  · refine ⟨rfl, .inl ⟨trivial, ?_⟩⟩
    unfold URLDownloader.save
    split <;> rfl
  · refine ⟨rfl, .inl ⟨trivial, ?_⟩⟩
    unfold URLDownloader.save
    split <;> rfl
  · obtain ⟨herror, horiginal⟩ := h.inProgress_downloadCompletionHandler hmem hprogress
    exact ⟨if_pos herror, .inl ⟨trivial, horiginal⟩⟩
  · refine ⟨rfl, .inl ⟨trivial, ?_⟩⟩
    unfold URLDownloader.deleteFile
    split <;> rfl
  · exact absurd hprogress (h.not_inProgress_postDelete hmem)

/-! ## The queue and the directories -/

/-- Why the URL may have a directory: that of a download which was outstanding when it
started, after the last removal; or one of `directories`, those there were at first; or
one that could not be deleted. -/
def Explained (directories : Finset String) (history : List (Happening URL)) (url : URL) :
    Prop :=
  DownloadStarted url history ∨
  (utils.directory url ∈ directories ∧ .requested (.remove url) ∉ history) ∨
  .deleteEnded url false ∈ history

omit [DecidableEq URL] in
theorem Explained.append {utils : OfflineURLUtils URL} {directories : Finset String}
    {history : List (Happening URL)} {url : URL} (h : Explained utils directories history url)
    {next : Happening URL} (hnext : next ≠ .requested (.remove url)) :
    Explained utils directories (history ++ [next]) url := by
  rcases h with hdownload | ⟨hfirst, hnot⟩ | hfailed
  · exact .inl (hdownload.append (by simpa using hnext))
  · exact .inr (.inl ⟨hfirst, by simpa [hnot] using hnext.symm⟩)
  · exact .inr (.inr (mem_append_left _ hfailed))

/-- What holds of the queue, the history and the directories. -/
structure QueueInv (directories : Finset String) (s : URLDownloader URL) : Prop where
  order : (startedTasks s.history ++ s.tasks).Sublist (queuedTasks s.history)
  nodup : (s.tasks.filter (·.1 = .download)).Nodup
  outstanding : ∀ url, (.download, url) ∈ s.tasks → Outstanding url s.history
  original : ∀ url, .distillerCallback url ∈ s.waiting → s.originalURL = url
  target : ∀ waiting ∈ s.waiting, ∀ url, waiting.target s.originalURL = some url →
    (.delete, url) ∈ s.tasks ∨ DownloadStarted url s.history
  files : ∀ url, utils.directory url ∈ s.directories →
    (.delete, url) ∈ s.tasks ∨ (∃ waiting ∈ s.waiting, waiting.Deletes url) ∨
    Explained utils directories s.history url

variable {utils} {directories : Finset String} {s : URLDownloader URL}

namespace QueueInv

section

variable (h : s.QueueInv utils directories)
include h

omit [DecidableEq URL] in
/-- The invariant reads the queue, the history, the waiting task and the directories. -/
theorem congr {s' : URLDownloader URL}
    (htasks : s'.tasks = s.tasks) (hhistory : s'.history = s.history)
    (hwaiting : s'.waiting = s.waiting) (hdirectories : s'.directories = s.directories)
    (horiginal : s'.originalURL = s.originalURL) : s'.QueueInv utils directories := by
  obtain ⟨order, nodup, outstanding, original, target, files⟩ := h
  constructor <;> simpa only [htasks, hhistory, hwaiting, hdirectories, horiginal]

omit [DecidableEq URL] in
/-- A happening that takes nothing back keeps the invariant. -/
theorem record (happening : Happening URL)
    (hqueued : happening.queuedTask = none) (hstarted : happening.startedTask = none)
    (hremove : ∀ url, happening ≠ .requested (.remove url))
    (hcancel : ∀ url, happening ≠ .requested (.cancel url)) :
    (s.record happening).QueueInv utils directories where
  order := by simpa [URLDownloader.record, hqueued, hstarted] using h.order
  nodup := h.nodup
  outstanding url hurl := (h.outstanding url hurl).append (by
    simp only [mem_cons, not_mem_nil, or_false, not_or]
    exact ⟨hremove url, hcancel url⟩)
  original := h.original
  target waiting hwaiting url htarget :=
    (h.target waiting hwaiting url htarget).imp_right fun hdownload =>
      hdownload.append (by simpa using hremove url)
  files url hurl := (h.files url hurl).imp_right fun hfile =>
    hfile.imp_right fun hexplained => hexplained.append (hremove url)

omit [DecidableEq URL] in
theorem handleNextTask (hidle : s.working = false → s.waiting = []) :
    s.handleNextTask.QueueInv utils directories := by
  rcases handleNextTask_cases s with ⟨_, hs⟩ | ⟨task, tasks, hworking, htasks, hs⟩
  · rwa [hs]
  · have hwaiting := hidle hworking
    rw [hs, hwaiting, nil_append]
    have hsub : ∀ url, (delete, url) ∈ s.tasks →
        (delete, url) ∈ tasks ∨ task = (.delete, url) := by
      intro url hurl
      rw [htasks] at hurl
      exact (mem_cons.1 hurl).symm.imp_right Eq.symm
    constructor
    · have horder := h.order
      rw [htasks] at horder
      simpa [Happening.startedTask, Happening.queuedTask] using horder
    · have hnodup := h.nodup
      rw [htasks] at hnodup
      exact hnodup.sublist ((sublist_cons_self task tasks).filter _)
    · intro url hurl
      exact (h.outstanding url (htasks ▸ mem_cons_of_mem task hurl)).append (by simp)
    · intro url hurl
      obtain ⟨type, taskURL⟩ := task
      cases type <;> cases mem_singleton.1 hurl
    · intro waiting hmem url htarget
      cases mem_singleton.1 hmem
      obtain ⟨type, taskURL⟩ := task
      cases type with
      | delete => cases htarget
      | download =>
        cases htarget
        exact .inr (since_self (h.outstanding _ (htasks ▸ mem_cons_self)))
    · intro url hurl
      rcases h.files url hurl with hfile | ⟨waiting, hmem, _⟩ | hexplained
      · rcases hsub url hfile with hfile | rfl
        · exact .inl hfile
        · exact .inr (.inl ⟨_, mem_singleton_self _, .inl rfl⟩)
      · rw [hwaiting] at hmem
        cases hmem
      · exact .inr (.inr (hexplained.append (by simp)))

/-- `RemoveOfflineURL` before the next task is taken up. -/
theorem remove (url : URL) :
    QueueInv utils directories (((s.record (.requested (.remove url))).cancelDownloadOfflineURL
      url).pushBack (.delete, url)) where
  order := by
    have hfilter := (filter_sublist (p := (· ≠ (download, url)))
      (l := s.tasks)).append_left (startedTasks s.history)
    have horder := (hfilter.trans h.order).append (List.Sublist.refl [(delete, url)])
    simpa [pushBack, URLDownloader.record, cancelDownloadOfflineURL, Happening.startedTask,
      Happening.queuedTask] using horder
  nodup := by
    have hnodup := h.nodup.filter (· ≠ (download, url))
    simpa [pushBack, URLDownloader.record, cancelDownloadOfflineURL, filter_filter,
      Bool.and_comm] using hnodup
  outstanding other hother := by
    have hkept : (download, other) ∈ s.tasks ∧ other ≠ url := by
      simpa [pushBack, URLDownloader.record, cancelDownloadOfflineURL] using hother
    exact ((h.outstanding other hkept.1).append (by simpa using hkept.2.symm)).append (by simp)
  original := h.original
  target waiting hwaiting other htarget := by
    by_cases hother : other = url
    · exact .inl (by simp [pushBack, hother])
    · rcases h.target waiting hwaiting other htarget with hdelete | hdownload
      · refine .inl ?_
        simp [pushBack, URLDownloader.record, cancelDownloadOfflineURL, hdelete]
      · exact .inr ((hdownload.append (by simpa using Ne.symm hother)).append (by simp))
  files other hdirectory := by
    by_cases hother : other = url
    · exact .inl (by simp [pushBack, hother])
    · rcases h.files other hdirectory with hfile | hfile | hexplained
      · refine .inl ?_
        simp [pushBack, URLDownloader.record, cancelDownloadOfflineURL, hfile]
      · exact .inr (.inl hfile)
      · have hrequested : Explained utils directories
            (s.history ++ [.requested (.remove url)]) other :=
          hexplained.append (by simpa using Ne.symm hother)
        exact .inr (.inr (hrequested.append (by simp)))

theorem cancel (url : URL) : QueueInv utils directories
      ((s.record (.requested (.cancel url))).cancelDownloadOfflineURL url) where
  order := by
    have hfilter := (filter_sublist (p := (· ≠ (download, url)))
      (l := s.tasks)).append_left (startedTasks s.history)
    simpa [URLDownloader.record, cancelDownloadOfflineURL, Happening.startedTask,
      Happening.queuedTask] using hfilter.trans h.order
  nodup := by
    have hnodup := h.nodup.filter (· ≠ (download, url))
    simpa [URLDownloader.record, cancelDownloadOfflineURL, filter_filter,
      Bool.and_comm] using hnodup
  outstanding other hother := by
    have hkept : (download, other) ∈ s.tasks ∧ other ≠ url := by
      simpa [URLDownloader.record, cancelDownloadOfflineURL] using hother
    exact (h.outstanding other hkept.1).append (by simpa using hkept.2.symm)
  original := h.original
  target waiting hwaiting other htarget := by
    rcases h.target waiting hwaiting other htarget with hdelete | hdownload
    · refine .inl ?_
      simp [URLDownloader.record, cancelDownloadOfflineURL, hdelete]
    · exact .inr (hdownload.append (by simp))
  files other hdirectory := by
    rcases h.files other hdirectory with hfile | hfile | hexplained
    · refine .inl ?_
      simp [URLDownloader.record, cancelDownloadOfflineURL, hfile]
    · exact .inr (.inl hfile)
    · exact .inr (.inr (hexplained.append (by simp)))

omit [DecidableEq URL] in
/-- An outstanding download is put at the end of the queue. -/
theorem pushDownload {url : URL}
    (hmem : (.download, url) ∉ s.tasks) (hout : Outstanding url s.history) :
    (s.pushBack (.download, url)).QueueInv utils directories where
  order := by
    have horder := h.order.append (List.Sublist.refl [(download, url)])
    simpa [pushBack, URLDownloader.record, Happening.startedTask, Happening.queuedTask] using
      horder
  nodup := by
    have hnew : (download, url) ∉ s.tasks.filter (·.1 = .download) :=
      fun hold => hmem (mem_of_mem_filter hold)
    show (List.filter _ (s.tasks ++ [(download, url)])).Nodup
    rw [filter_append]
    exact h.nodup.append (nodup_singleton _) (disjoint_singleton.2 hnew)
  outstanding other hother := by
    refine Since.append ?_ (by simp)
    rcases mem_append.1 hother with hother | hother
    · exact h.outstanding other hother
    · cases mem_singleton.1 hother
      exact hout
  original := h.original
  target waiting hwaiting other htarget :=
    (h.target waiting hwaiting other htarget).imp (mem_append_left _)
      fun hdownload => hdownload.append (by simp)
  files other hdirectory := by
    rcases h.files other hdirectory with hfile | hfile | hexplained
    · exact .inl (mem_append_left _ hfile)
    · exact .inr (.inl hfile)
    · exact .inr (.inr (hexplained.append (by simp)))

theorem request (hidle : s.working = false → s.waiting = [])
    (request : Request URL) : (s.request request).QueueInv utils directories := by
  cases request with
  | download url =>
    have hrecord : (s.record (.requested (.download url))).QueueInv utils directories :=
      h.record _ rfl rfl (by simp) (by simp)
    simp only [URLDownloader.request, downloadOfflineURL]
    split
    · exact hrecord
    · next hmem => exact (hrecord.pushDownload hmem (since_self trivial)).handleNextTask hidle
  | remove url => exact (h.remove url).handleNextTask hidle
  | cancel url => exact h.cancel url

/-- The requests of a callback come while the task is still at work. -/
theorem requests (hworking : s.working = true) (requests : List (Request URL)) :
    (requests.foldl URLDownloader.request s).QueueInv utils directories := by
  induction requests generalizing s with
  | nil => exact h
  | cons request requests ih =>
    refine ih (h.request ?_ request) (request_of_working hworking request).1
    rw [hworking]
    rintro ⟨⟩

/-! ### Answers to the waiting task -/

section

omit [DecidableEq URL]

theorem pop {waiting : Waiting URL}
    (hwaiting : s.waiting = [waiting]) (hdeletes : ∀ url, ¬waiting.Deletes url) :
    QueueInv utils directories { s with waiting := [] } where
  order := h.order
  nodup := h.nodup
  outstanding := h.outstanding
  original _ hmem := absurd hmem not_mem_nil
  target _ hmem := absurd hmem not_mem_nil
  files url hdirectory := by
    rcases h.files url hdirectory with hfile | ⟨other, hmem, hother⟩ | hfile
    · exact .inl hfile
    · rw [hwaiting, mem_singleton] at hmem
      exact absurd (hmem ▸ hother) (hdeletes url)
    · exact .inr (.inr hfile)

theorem post {waiting : Waiting URL}
    (horiginal : ∀ url, .distillerCallback url = waiting → s.originalURL = url)
    (htarget : ∀ url, waiting.target s.originalURL = some url →
      (.delete, url) ∈ s.tasks ∨ DownloadStarted url s.history) :
    (s.post waiting).QueueInv utils directories where
  order := h.order
  nodup := h.nodup
  outstanding := h.outstanding
  original url hmem := by
    rcases mem_append.1 hmem with hmem | hmem
    · exact h.original url hmem
    · exact horiginal url (mem_singleton.1 hmem)
  target other hmem := by
    rcases mem_append.1 hmem with hmem | hmem
    · exact h.target other hmem
    · cases mem_singleton.1 hmem
      exact htarget
  files url hdirectory := by
    rcases h.files url hdirectory with hfile | ⟨other, hmem, hother⟩ | hfile
    · exact .inl hfile
    · exact .inr (.inl ⟨other, mem_append_left _ hmem, hother⟩)
    · exact .inr (.inr hfile)

/-- Fewer directories keep the invariant. -/
theorem shrink {fewer : Finset String} (hsub : fewer ⊆ s.directories) :
    QueueInv utils directories { s with directories := fewer } where
  order := h.order
  nodup := h.nodup
  outstanding := h.outstanding
  original := h.original
  target := h.target
  files url hdirectory := h.files url (hsub hdirectory)

theorem deleteFile (url : URL) (success : Bool) :
    (s.deleteFile utils url success).QueueInv utils directories := by
  unfold URLDownloader.deleteFile
  split
  · exact h.shrink (Finset.erase_subset _ _)
  · exact h

end

end

omit [DecidableEq URL] in
/-- The directory of a running download is accounted for. -/
theorem save (hdirectory : Function.Injective utils.directory)
    (h : s.QueueInv utils directories) {url : URL}
    (htarget : (.delete, url) ∈ s.tasks ∨ DownloadStarted url s.history) (saving : Saving) :
    (s.save utils url saving).QueueInv utils directories := by
  unfold URLDownloader.save
  split
  · refine ⟨h.order, h.nodup, h.outstanding, h.original, h.target, ?_⟩
    intro other hmem
    rcases Finset.mem_insert.1 hmem with hnew | hold
    · cases hdirectory hnew
      exact htarget.imp_right fun hdownload => .inr (.inl hdownload)
    · exact h.files other hold
  · exact h

section

variable (h : s.QueueInv utils directories)
include h

omit [DecidableEq URL] in
/-- A deletion that ran left no directory, or is about to tell of its failure. -/
theorem deleted {url : URL} (hwaiting : s.waiting = [.deleteFile url]) (success : Bool) :
    QueueInv utils directories
      ((URLDownloader.deleteFile utils { s with waiting := [] } url success).post
        (.deleteCompletionHandler url success)) := by
  have hdeletes : ∀ {other : URL} {waiting : Waiting URL}, waiting ∈ s.waiting →
      waiting.Deletes other → other = url := by
    intro other waiting hmem hother
    rw [hwaiting, mem_singleton] at hmem
    rcases hother with rfl | rfl <;> cases hmem
    rfl
  cases success <;> refine ⟨h.order, h.nodup, h.outstanding,
    fun _ hmem => (by cases mem_singleton.1 hmem),
    fun _ hmem _ htarget => (by cases mem_singleton.1 hmem; cases htarget),
    fun other hdirectory => ?_⟩
  · rcases h.files other hdirectory with hfile | ⟨waiting, hmem, hother⟩ | hfile
    · exact .inl hfile
    · cases hdeletes hmem hother
      exact .inr (.inl ⟨_, mem_singleton_self _, .inr rfl⟩)
    · exact .inr (.inr hfile)
  · obtain ⟨hne, hold⟩ := Finset.mem_erase.1 hdirectory
    rcases h.files other hold with hfile | ⟨waiting, hmem, hother⟩ | hfile
    · exact .inl hfile
    · exact absurd (congrArg utils.directory (hdeletes hmem hother)) hne
    · exact .inr (.inr hfile)

omit [DecidableEq URL] in
/-- A failed deletion is told of. -/
theorem recordDelete {url : URL} {success : Bool}
    (hwaiting : s.waiting = [.deleteCompletionHandler url success]) :
    QueueInv utils directories
      (URLDownloader.record { s with waiting := [] } (.deleteEnded url success)) where
  order := by
    simpa [URLDownloader.record, Happening.startedTask, Happening.queuedTask] using h.order
  nodup := h.nodup
  outstanding other hother := (h.outstanding other hother).append (by simp)
  original _ hmem := absurd hmem not_mem_nil
  target _ hmem := absurd hmem not_mem_nil
  files other hdirectory := by
    rcases h.files other hdirectory with hfile | ⟨waiting, hmem, hother⟩ | hexplained
    · exact .inl hfile
    · rw [hwaiting, mem_singleton] at hmem
      rcases hother with rfl | rfl <;> cases hmem
      exact .inr (.inr (.inr (.inr (mem_append_right _ (mem_singleton_self _)))))
    · exact .inr (.inr (hexplained.append (by simp)))

theorem postDelete (hone : s.Answered) (ended : DownloadEnd URL) (requests : List (Request URL)) :
    (s.postDelete ended requests).QueueInv utils directories := by
  have hrecord := h.record (.downloadEnded (s.completion ended)) rfl rfl (by simp) (by simp)
  have hrequests := hrecord.requests hone.working requests
  have hwaiting := (hone.tally_ended (.downloadEnded (s.completion ended)) rfl rfl requests).1
  have hfree : QueueInv utils directories { requests.foldl URLDownloader.request
      (s.record (.downloadEnded (s.completion ended))) with
        distiller := false, working := false } :=
    hrequests.congr rfl rfl rfl rfl rfl
  exact hfree.handleNextTask fun _ => hwaiting

theorem downloadCompletionHandler (hone : s.Answered)
    (ended : DownloadEnd URL) (requests : List (Request URL)) :
    (s.downloadCompletionHandler ended requests).QueueInv utils directories := by
  unfold URLDownloader.downloadCompletionHandler
  split
  · exact h.post (by rintro _ ⟨⟩) (by rintro _ ⟨⟩)
  · exact h.postDelete hone ended requests

theorem deleteCompletionHandler {url : URL} {success : Bool}
    (hwaiting : s.waiting = [.deleteCompletionHandler url success])
    (hone : Answered { s with waiting := [] }) (requests : List (Request URL)) :
    QueueInv utils directories
      (URLDownloader.deleteCompletionHandler { s with waiting := [] } url success requests) := by
  have hrequests := (h.recordDelete hwaiting).requests hone.working requests
  have hfree : QueueInv utils directories { requests.foldl URLDownloader.request
      (URLDownloader.record { s with waiting := [] } (.deleteEnded url success)) with
        working := false } :=
    hrequests.congr rfl rfl rfl rfl rfl
  exact hfree.handleNextTask fun _ =>
    (hone.tally_ended (.deleteEnded url success) rfl rfl requests).1

theorem downloadURL (hone : s.Answered) {url : URL}
    (htarget : (.delete, url) ∈ s.tasks ∨ DownloadStarted url s.history) (offlineURLExists : Bool)
    (requests : List (Request URL)) :
    (s.downloadURL url offlineURLExists requests).QueueInv utils directories := by
  unfold URLDownloader.downloadURL
  split
  · exact h.downloadCompletionHandler hone _ requests
  · have hreset : QueueInv utils directories { s with
        originalURL := url, distilledURL := url, savedSize := 0, distiller := true } := by
      refine ⟨h.order, h.nodup, h.outstanding, ?_, ?_, h.files⟩
      · intro other hmem
        exact absurd (hone.waiting ▸ hmem) not_mem_nil
      · intro other hmem
        exact absurd (hone.waiting ▸ hmem) not_mem_nil
    refine hreset.post ?_ ?_
    · rintro other ⟨⟩
      rfl
    · rintro other ⟨⟩
      exact htarget

end

theorem answer (hdirectory : Function.Injective utils.directory)
    (h : s.QueueInv utils directories) {s' : URLDownloader URL}
    {waiting : Waiting URL} (hwaiting : s.waiting = [waiting])
    (hone : Answered { s with waiting := [] }) {answer : Answer URL}
    (hs' : URLDownloader.answer utils { s with waiting := [] } waiting answer = some s') :
    s'.QueueInv utils directories := by
  have hmem : waiting ∈ s.waiting := hwaiting ▸ mem_singleton_self _
  have htarget := h.target waiting hmem
  unfold URLDownloader.answer at hs'
  split at hs' <;> cases hs'
  · exact h.deleted hwaiting _
  · exact h.deleteCompletionHandler hwaiting hone _
  · have hpop := h.pop hwaiting (by simp [Waiting.Deletes])
    exact hpop.post (by rintro _ ⟨⟩) htarget
  · have hpop := h.pop hwaiting (by simp [Waiting.Deletes])
    exact hpop.downloadURL hone (htarget _ rfl) _ _
  · next pageURL html title =>
    have hpop := h.pop hwaiting (by simp [Waiting.Deletes])
    have horiginal := h.original pageURL hmem
    unfold distillerCallback
    split
    · split
      · exact hpop.post (by rintro _ ⟨⟩) fun url hurl =>
          htarget url (horiginal ▸ hurl)
      · exact hpop.downloadCompletionHandler hone _ _
    · exact hpop.post (by rintro _ ⟨⟩) htarget
  · have hpop := h.pop hwaiting (by simp [Waiting.Deletes])
    unfold onURLFetchComplete
    dsimp only
    split
    · exact hpop.downloadCompletionHandler hone _ _
    · exact hpop.post (by rintro _ ⟨⟩) htarget
  · have hpop := h.pop hwaiting (by simp [Waiting.Deletes])
    exact (hpop.save hdirectory (htarget _ rfl) _).post (by rintro _ ⟨⟩) (by rintro _ ⟨⟩)
  · have hpop := h.pop hwaiting (by simp [Waiting.Deletes])
    exact (hpop.save hdirectory (htarget _ rfl) _).post (by rintro _ ⟨⟩) (by rintro _ ⟨⟩)
  · exact (h.pop hwaiting (by simp [Waiting.Deletes])).downloadCompletionHandler hone _ _
  · have hpop := h.pop hwaiting (by simp [Waiting.Deletes])
    exact (hpop.deleteFile _ _).post (by rintro _ ⟨⟩) (by rintro _ ⟨⟩)
  · exact (h.pop hwaiting (by simp [Waiting.Deletes])).postDelete hone _ _

theorem step (hdirectory : Function.Injective utils.directory)
    (h : s.QueueInv utils directories) (hone : s.OneTask) (op : Op URL) :
    (s.step utils op).QueueInv utils directories := by
  cases op with
  | request request => exact h.request (fun hidle => (hone.idle hidle).1) request
  | distilledPageRedirectedToURL redirectedURL =>
    simp only [URLDownloader.step, distilledPageRedirectedToURL]
    split
    · exact h.congr rfl rfl rfl rfl rfl
    · exact h
  | distilledPageHasMimeType mimeType =>
    simp only [URLDownloader.step, distilledPageHasMimeType]
    split
    · exact h.congr rfl rfl rfl rfl rfl
    · exact h
  | resume index answer =>
    simp only [URLDownloader.step, resume]
    split
    · exact h
    · next waiting hindex =>
      obtain ⟨hwaiting, hanswered⟩ := hone.answered hindex
      have hempty : s.waiting.eraseIdx index = [] := hanswered.waiting
      rw [hempty] at hanswered ⊢
      cases hs' : URLDownloader.answer utils { s with waiting := [] } waiting answer with
      | none => exact h
      | some s' => exact h.answer hdirectory hwaiting hanswered hs'
  | cleanUpFiles deleted => exact h.shrink Finset.sdiff_subset

end QueueInv

/-! ## Runs -/

omit [DecidableEq URL] in
theorem oneTask_new (emptyURL : URL) (directories : Finset String) :
    (new emptyURL directories).OneTask := by
  refine ⟨fun _ => ⟨rfl, rfl⟩, ?_, rfl⟩
  rintro ⟨⟩

omit [DecidableEq URL] in
theorem queueInv_new (utils : OfflineURLUtils URL) (emptyURL : URL) (directories : Finset String) :
    (new emptyURL directories).QueueInv utils directories where
  order := List.Sublist.refl []
  nodup := nodup_nil
  outstanding _ hmem := absurd hmem not_mem_nil
  original _ hmem := absurd hmem not_mem_nil
  target _ hmem := absurd hmem not_mem_nil
  files _ hdirectory := .inr (.inr (.inr (.inl ⟨hdirectory, not_mem_nil⟩)))

theorem run_inv (hdirectory : Function.Injective utils.directory) (emptyURL : URL)
    (directories : Finset String) (ops : List (Op URL)) :
    ((machine utils).run (new emptyURL directories) ops).OneTask ∧
    ((machine utils).run (new emptyURL directories) ops).QueueInv utils directories :=
  Machine.run_invariant_of_step (M := machine utils)
    (I := fun s => s.OneTask ∧ s.QueueInv utils directories)
    (fun _ op h => ⟨h.1.step utils op, h.2.step hdirectory h.1 op⟩)
    ⟨oneTask_new emptyURL directories, queueInv_new utils emptyURL directories⟩ ops

/-- What a client may rely on. -/
structure Disciplined (utils : OfflineURLUtils URL) (directories : Finset String)
    (s : URLDownloader URL) : Prop where
  /-- Each task that started has ended, but for the one at work. -/
  one_at_a_time :
    (startedTasks s.history).length = (endedURLs s.history).length + s.waiting.length ∧
    s.waiting.length ≤ 1 ∧ (s.working = true ↔ s.waiting.length = 1)
  in_order : (startedTasks s.history ++ s.tasks).Sublist (queuedTasks s.history)
  no_download_twice : (s.tasks.filter (·.1 = .download)).Nodup
  files : s.working = false → ∀ url, utils.directory url ∈ s.directories →
    Explained utils directories s.history url

/-- The queue of a downloader is disciplined after every sequence of requests, answers
to the waiting task and deletions by others. -/
theorem queue_disciplined (hdirectory : Function.Injective utils.directory) (emptyURL : URL)
    (directories : Finset String) (ops : List (Op URL)) :
    ((machine utils).run (new emptyURL directories) ops).Disciplined utils directories := by
  obtain ⟨hone, hqueue⟩ := run_inv hdirectory emptyURL directories ops
  generalize (machine utils).run (new emptyURL directories) ops = s at hone hqueue
  refine ⟨?_, hqueue.order, hqueue.nodup, ?_⟩
  · cases hworking : s.working with
    | true =>
      obtain ⟨waiting, hwaiting⟩ := hone.busy hworking
      exact ⟨hone.tally, by simp [hwaiting]⟩
    | false => exact ⟨hone.tally, by simp [(hone.idle hworking).1]⟩
  · intro hidle url hmem
    obtain ⟨hwaiting, htasks⟩ := hone.idle hidle
    rcases hqueue.files url hmem with hfile | ⟨waiting, hother, _⟩ | hfile
    · rw [htasks] at hfile
      cases hfile
    · rw [hwaiting] at hother
      cases hother
    · exact hfile

/-! ### Repeated removals, and a download cancelled too late -/

/-- URLs that name their own directory. -/
def plainUtils : OfflineURLUtils String where
  directory url := url
  pagePath url type := url ++ if type = .html then "/page.html" else "/file.pdf"
  isValid url := url ≠ ""

/-- A removal is requested while another removal is at work and a third one waits. -/
def removeThrice : List (Op String) :=
  [.request (.remove "a"), .request (.remove "a"), .request (.remove "a")]

/-- A download is cancelled while it runs. -/
def cancelRunning : List (Op String) :=
  [.request (.download "a"), .resume 0 .checked, .resume 0 (.replied []),
    .request (.cancel "a"), .resume 0 (.distilled "page" "title"),
    .resume 0 (.saved ⟨true, [4], true⟩), .resume 0 (.replied [])]

theorem queue_disciplined_cancelRunning :
    ((machine plainUtils).run (new "" ∅) cancelRunning).Disciplined plainUtils ∅ :=
  queue_disciplined Function.injective_id "" ∅ cancelRunning

/-- Two equal deletions are queued; and the directory of a cancelled download is there
when the queue is idle. -/
theorem removeThrice_cancelRunning :
    ¬((machine plainUtils).run (new "" ∅) removeThrice).tasks.Nodup ∧
    let s := (machine plainUtils).run (new "" ∅) cancelRunning
    s.working = false ∧ "a" ∈ s.directories ∧
      s.history.filter (fun happening => happening ∈
        [.requested (.download "a"), .requested (.remove "a"), .requested (.cancel "a")]) =
          [.requested (.download "a"), .requested (.cancel "a")] := by
  decide +kernel

end URLDownloader

end ChromiumIos
