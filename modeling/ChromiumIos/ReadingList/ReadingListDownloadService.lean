import ChromiumIos.Lib.Keyed
import ChromiumIos.ReadingList.DownloadQueue

/-!
# `ReadingListDownloadService`

`reading_list_download_service.cc`: keeps offline versions of the entries of the reading
list, which it observes. The `ReadingListModel` itself is a parameter.

- `downloadEntry`, `onDownloadEnd`: a download is asked for, and ends.
- `step`: the changes of the list, the posted tasks and the downloader, in any order.
- `undisturbed`: no download is taken up for an entry that has been processed meanwhile.
- `processed_stays`: where this holds, an entry that is processed stays so until it is
  removed.
-/

namespace ChromiumIos

open Lib URLDownloader

/-- `ReadingListEntry::DistillationState`. -/
inductive DistillationState
  | waiting
  | processing
  | processed
  | willRetry
  | distillationError
deriving DecidableEq, Repr

/-- What the service reads of a `ReadingListEntry`. -/
structure ReadingListEntry where
  isRead : Bool
  distilledState : DistillationState
  distilledPath : String
  failedDownloadCounter : Nat
deriving DecidableEq, Repr

/-- What the service uses of a `ReadingListModel`, and how others change it. -/
structure ReadingListModel (URL Model : Type) where
  keys : Model → List URL
  getEntryByURL : Model → URL → Option ReadingListEntry
  addEntry : Model → URL → Model
  removeEntryByURL : Model → URL → Model
  setReadStatus : Model → URL → Bool → Model
  setEntryDistilledState : Model → URL → DistillationState → Model
  /-- With the path, the distilled URL and the size. -/
  setEntryDistilledInfo : Model → URL → String → URL → Int → Model
  setEntryTitle : Model → URL → String → Model

namespace ReadingListModel

variable {URL Model : Type} (list : ReadingListModel URL Model)

/-- The state of the entry, and the path of its offline version. -/
def distilled (model : Model) (url : URL) : Option (DistillationState × String) :=
  (list.getEntryByURL model url).map fun entry => (entry.distilledState, entry.distilledPath)

/-- What is documented of the setters: each changes its own entry, if there is one, and
of the state and the path only what it is for. -/
structure Lawful (list : ReadingListModel URL Model) : Prop where
  addEntry_self : ∀ model url, ∃ path,
    list.distilled (list.addEntry model url) url = some (.waiting, path)
  addEntry_other : ∀ model url other, other ≠ url →
    list.distilled (list.addEntry model url) other = list.distilled model other
  removeEntryByURL_self : ∀ model url,
    list.distilled (list.removeEntryByURL model url) url = none
  removeEntryByURL_other : ∀ model url other, other ≠ url →
    list.distilled (list.removeEntryByURL model url) other = list.distilled model other
  setReadStatus : ∀ model url read other,
    list.distilled (list.setReadStatus model url read) other = list.distilled model other
  setEntryDistilledState_self : ∀ model url state,
    (list.distilled (list.setEntryDistilledState model url state) url).map Prod.fst =
      (list.distilled model url).map fun _ => state
  setEntryDistilledState_other : ∀ model url state other, other ≠ url →
    list.distilled (list.setEntryDistilledState model url state) other =
      list.distilled model other
  setEntryDistilledInfo_other : ∀ model url path distilledURL size other, other ≠ url →
    list.distilled (list.setEntryDistilledInfo model url path distilledURL size) other =
      list.distilled model other
  setEntryTitle : ∀ model url title other,
    list.distilled (list.setEntryTitle model url title) other = list.distilled model other

end ReadingListModel

/-- `net::NetworkChangeNotifier::ConnectionType`. -/
inductive ConnectionType
  | unknown
  | ethernet
  | wifi
  | cellular2G
  | cellular3G
  | cellular4G
  | none
  | bluetooth
deriving DecidableEq, Repr

def kNumberOfFailsBeforeWifiOnly : Nat := 5

def kNumberOfFailsBeforeStop : Nat := 7

/-- What `SyncWithModel` posts: the task of the FILE thread, and its reply. -/
inductive SyncTask (URL : Type)
  | cleanUpFiles (processedDirectories : List String) (unprocessedEntries : List URL)
  | downloadUnprocessedEntries (unprocessedEntries : List URL)
deriving DecidableEq

structure ReadingListDownloadService (URL Model : Type) where
  readingListModel : Model
  urlDownloader : URLDownloader URL
  urlToDownloadCellular : List URL
  urlToDownloadWifi : List URL
  hadConnection : Bool
  /-- The `DownloadEntry` tasks that `ScheduleDownloadEntry` posted. -/
  scheduled : List URL
  syncTasks : List (SyncTask URL)

namespace ReadingListDownloadService

variable {URL Model : Type} [DecidableEq URL]

omit [DecidableEq URL] in
/-- A new service over a loaded model. -/
def new (readingListModel : Model) (emptyURL : URL) (directories : Finset String)
    (hadConnection : Bool) : ReadingListDownloadService URL Model where
  readingListModel
  urlDownloader := .new emptyURL directories
  urlToDownloadCellular := []
  urlToDownloadWifi := []
  hadConnection
  scheduled := []
  syncTasks := []

def requestDownloader (s : ReadingListDownloadService URL Model)
    (request : Request URL) : ReadingListDownloadService URL Model :=
  { s with urlDownloader := s.urlDownloader.request request }

variable (list : ReadingListModel URL Model)

/-! ## Downloads -/

variable (s : ReadingListDownloadService URL Model)

omit [DecidableEq URL] in
def scheduleDownloadEntry (url : URL) : ReadingListDownloadService URL Model :=
  match list.getEntryByURL s.readingListModel url with
  | none => s
  | some entry =>
    if entry.distilledState = .distillationError ∨ entry.distilledState = .processed ∨
        entry.isRead then s
    else { s with scheduled := s.scheduled ++ [url] }

omit [DecidableEq URL] in
@[simp] theorem scheduleDownloadEntry_readingListModel
    (url : URL) : (s.scheduleDownloadEntry list url).readingListModel = s.readingListModel := by
  unfold scheduleDownloadEntry
  split
  · rfl
  · split <;> rfl

def processNewEntry (url : URL) : ReadingListDownloadService URL Model :=
  match list.getEntryByURL s.readingListModel url with
  | none => s.requestDownloader (.cancel url)
  | some entry =>
    if entry.isRead then s.requestDownloader (.cancel url) else s.scheduleDownloadEntry list url

/-- Sets the state of the entry, and asks for the download. -/
def startDownload (url : URL) : ReadingListDownloadService URL Model :=
  { s with
    readingListModel := list.setEntryDistilledState s.readingListModel url .processing
  }.requestDownloader (.download url)

/-- `DownloadEntry`, under the connection that `NetworkChangeNotifier` tells of. -/
def downloadEntry (url : URL)
    (connectionType : ConnectionType) : ReadingListDownloadService URL Model :=
  match list.getEntryByURL s.readingListModel url with
  | none => s
  | some entry =>
    if entry.distilledState = .distillationError ∨ entry.distilledState = .processed ∨
        entry.isRead then s
    else if connectionType = .none then
      let s :=
        if entry.failedDownloadCounter < kNumberOfFailsBeforeWifiOnly then
          { s with urlToDownloadCellular := s.urlToDownloadCellular ++ [url] }
        else s
      if entry.failedDownloadCounter < kNumberOfFailsBeforeStop then
        { s with urlToDownloadWifi := s.urlToDownloadWifi ++ [url] }
      else s
    else if entry.failedDownloadCounter < kNumberOfFailsBeforeWifiOnly then
      s.startDownload list url
    else if entry.failedDownloadCounter < kNumberOfFailsBeforeStop then
      if connectionType = .wifi then s.startDownload list url
      else { s with urlToDownloadWifi := s.urlToDownloadWifi ++ [url] }
    else s

/-- What `OnDownloadEnd` takes the outcome to be. -/
def realSuccessValue (completion : DownloadCompletion URL) : SuccessState :=
  if completion.offlinePath = "" then .error else completion.success

omit [DecidableEq URL] in
def onDownloadEnd (collapseWhitespaceASCII : String → String)
    (s : ReadingListDownloadService URL Model)
    (completion : DownloadCompletion URL) : ReadingListDownloadService URL Model :=
  match realSuccessValue completion with
  | .downloadSuccess | .downloadExists =>
    let model := list.setEntryDistilledInfo s.readingListModel completion.url
      completion.offlinePath completion.distilledURL completion.size
    let trimmedTitle := collapseWhitespaceASCII completion.title
    { s with
      readingListModel :=
        if trimmedTitle = "" then model else list.setEntryTitle model completion.url trimmedTitle }
  | .error =>
    match list.getEntryByURL s.readingListModel completion.url with
    | some entry =>
      if entry.failedDownloadCounter + 1 < kNumberOfFailsBeforeStop then
        { s with
          readingListModel :=
            list.setEntryDistilledState s.readingListModel completion.url .willRetry
        }.scheduleDownloadEntry list completion.url
      else
        { s with
          readingListModel :=
            list.setEntryDistilledState s.readingListModel completion.url .distillationError }
    | none =>
      { s with
        readingListModel :=
          list.setEntryDistilledState s.readingListModel completion.url .distillationError }

omit [DecidableEq URL] in
def onConnectionTypeChanged (type : ConnectionType) : ReadingListDownloadService URL Model :=
  if type = .none then { s with hadConnection := false }
  else
    let s :=
      if s.hadConnection then s
      else
        s.urlToDownloadCellular.foldl (scheduleDownloadEntry list) { s with hadConnection := true }
    if type = .wifi then s.urlToDownloadWifi.foldl (scheduleDownloadEntry list) s else s

/-! ## The reading list -/

/-- The model adds an entry, which `ReadingListDidAddEntry` is told of. -/
def addEntry (s : ReadingListDownloadService URL Model) (url : URL) :
    ReadingListDownloadService URL Model :=
  { s with readingListModel := list.addEntry s.readingListModel url }.processNewEntry list url

/-- The model changes the read status, which `ReadingListDidMoveEntry` is told of. -/
def moveEntry (url : URL) (read : Bool) : ReadingListDownloadService URL Model :=
  match list.getEntryByURL s.readingListModel url with
  | none => s
  | some _ =>
    { s with readingListModel := list.setReadStatus s.readingListModel url read }.processNewEntry
      list url

/-- The model removes an entry, which `ReadingListWillRemoveEntry` is told of before. -/
def removeEntry (url : URL) : ReadingListDownloadService URL Model :=
  match list.getEntryByURL s.readingListModel url with
  | none => s
  | some _ =>
    let s := s.requestDownloader (.remove url)
    { s with readingListModel := list.removeEntryByURL s.readingListModel url }

omit [DecidableEq URL] in
def syncWithModel (utils : OfflineURLUtils URL) (s : ReadingListDownloadService URL Model) :
    ReadingListDownloadService URL Model :=
  let states := (list.keys s.readingListModel).map fun url =>
    (url, (list.getEntryByURL s.readingListModel url).map ReadingListEntry.distilledState)
  let processed := (states.filter (·.2 = some .processed)).map Prod.fst
  let unprocessed :=
    (states.filter (·.2 ∈ [some .waiting, some .processing, some .willRetry])).map Prod.fst
  { s with
    syncTasks := s.syncTasks ++ [.cleanUpFiles (processed.map utils.directory) unprocessed] }

/-- A task that `SyncWithModel` posted. The files that cannot be deleted stay. -/
def runSyncTask (utils : OfflineURLUtils URL) (s : ReadingListDownloadService URL Model)
    (index : Nat) (undeletable : Finset String) : ReadingListDownloadService URL Model :=
  match s.syncTasks[index]? with
  | none => s
  | some (.cleanUpFiles processedDirectories unprocessedEntries) =>
    let deleted := s.urlDownloader.directories.filter fun directory =>
      directory ∉ processedDirectories ∧ directory ∉ undeletable
    { s with
      urlDownloader := s.urlDownloader.step utils (.cleanUpFiles deleted)
      syncTasks := s.syncTasks.set index (.downloadUnprocessedEntries unprocessedEntries) }
  | some (.downloadUnprocessedEntries unprocessedEntries) =>
    unprocessedEntries.foldl (scheduleDownloadEntry list)
      { s with syncTasks := s.syncTasks.eraseIdx index }

/-! ## Runs -/

inductive Op (URL : Type)
  | readingListModelLoaded
  | runSyncTask (index : Nat) (undeletable : Finset String)
  /-- The model removes an entry of the same URL first. -/
  | addEntry (url : URL)
  | moveEntry (url : URL) (read : Bool)
  | removeEntry (url : URL)
  | downloadEntry (index : Nat) (connectionType : ConnectionType)
  | onConnectionTypeChanged (type : ConnectionType)
  | distilledPageRedirectedToURL (redirectedURL : URL)
  | distilledPageHasMimeType (mimeType : String)
  | resume (index : Nat) (answer : Answer URL)
deriving DecidableEq

/-- The operation takes the entry of the URL out of the list. -/
def Op.Removes (url : URL) (op : Op URL) : Prop := op = .addEntry url ∨ op = .removeEntry url

instance (url : URL) (op : Op URL) : Decidable (op.Removes url) := instDecidableOr

variable (utils : OfflineURLUtils URL) (collapseWhitespaceASCII : String → String)

/-- The callbacks of the service make no requests. -/
def quiet : Answer URL → Answer URL
  | .replied _ => .replied []
  | answer => answer

/-- The downloader is answered; a download that ends is reported to the service. -/
def resume (s : ReadingListDownloadService URL Model) (index : Nat)
    (answer : Answer URL) : ReadingListDownloadService URL Model :=
  match s.urlDownloader.waiting[index]? with
  | none => s
  | some waiting =>
    let urlDownloader := s.urlDownloader.resume utils index (quiet answer)
    match s.urlDownloader.downloadCompletion waiting answer with
    | none => { s with urlDownloader }
    | some completion =>
      { s.onDownloadEnd list collapseWhitespaceASCII completion with urlDownloader }

def step (s : ReadingListDownloadService URL Model) :
    Op URL → ReadingListDownloadService URL Model
  | .readingListModelLoaded => s.syncWithModel list utils
  | .runSyncTask index undeletable => s.runSyncTask list utils index undeletable
  | .addEntry url => (s.removeEntry list url).addEntry list url
  | .moveEntry url read => s.moveEntry list url read
  | .removeEntry url => s.removeEntry list url
  | .downloadEntry index connectionType =>
    match s.scheduled[index]? with
    | none => s
    | some url =>
      { s with scheduled := s.scheduled.eraseIdx index }.downloadEntry list url connectionType
  | .onConnectionTypeChanged type => s.onConnectionTypeChanged list type
  | .distilledPageRedirectedToURL redirectedURL =>
    { s with urlDownloader := s.urlDownloader.distilledPageRedirectedToURL redirectedURL }
  | .distilledPageHasMimeType mimeType =>
    { s with urlDownloader := s.urlDownloader.distilledPageHasMimeType mimeType }
  | .resume index answer => s.resume list utils collapseWhitespaceASCII index answer

/-- Every operation may come in every state. -/
def machine : Machine (ReadingListDownloadService URL Model) (Op URL) where
  Pre _ _ := True
  step := step list utils collapseWhitespaceASCII

/-! ## The condition -/

omit [DecidableEq URL] in
/-- Whether the entry of the URL is processed. -/
def isProcessed (s : ReadingListDownloadService URL Model) (url : URL) : Bool :=
  (list.distilled s.readingListModel url).any fun distilled => distilled.1 = .processed

/-- `DownloadURL` is not run for an entry that is processed, and a download does not end
under a URL other than its own whose entry is processed. -/
def undisturbed (s : ReadingListDownloadService URL Model) : Op URL → Bool
  | .resume index (.replied _) =>
    match s.urlDownloader.waiting[index]? with
    | some (.downloadURL url _) => !s.isProcessed list url
    | some (.downloadCompletionHandler ended) =>
      ended.success = .error || ended.url = s.urlDownloader.originalURL ||
        !s.isProcessed list ended.url
    | some (.postDelete ended) =>
      ended.url = s.urlDownloader.originalURL || !s.isProcessed list ended.url
    | _ => true
  | _ => true

/-! ## Everything but the ends of downloads -/

/-- From `s` to `s'`, no download moved on, no entry became processed, and processed
entries changed for the URLs of `R` only. -/
structure Calm (R : URL → Prop) (s s' : ReadingListDownloadService URL Model) : Prop where
  oneTask : s.urlDownloader.OneTask → s'.urlDownloader.OneTask
  originalURL : s'.urlDownloader.originalURL = s.urlDownloader.originalURL
  waiting : ∀ waiting ∈ s'.urlDownloader.waiting, waiting.InProgress →
    waiting ∈ s.urlDownloader.waiting
  none_new : ∀ url path, list.distilled s'.readingListModel url = some (.processed, path) →
    list.distilled s.readingListModel url = some (.processed, path)
  kept : ∀ url path, ¬R url → list.distilled s.readingListModel url = some (.processed, path) →
    list.distilled s'.readingListModel url = some (.processed, path)

variable {list} {R : URL → Prop} {s s' : ReadingListDownloadService URL Model}

namespace Calm

omit [DecidableEq URL] in
theorem refl (s : ReadingListDownloadService URL Model) : Calm list R s s :=
  ⟨id, rfl, fun _ h _ => h, fun _ _ h => h, fun _ _ _ h => h⟩

omit [DecidableEq URL] in
theorem trans {t : ReadingListDownloadService URL Model} (h : Calm list R s s')
    (h' : Calm list R s' t) : Calm list R s t where
  oneTask hone := h'.oneTask (h.oneTask hone)
  originalURL := h'.originalURL.trans h.originalURL
  waiting waiting hmem hprogress :=
    h.waiting waiting (h'.waiting waiting hmem hprogress) hprogress
  none_new url path hurl := h.none_new url path (h'.none_new url path hurl)
  kept url path hR hurl := h'.kept url path hR (h.kept url path hR hurl)

omit [DecidableEq URL] in
/-- What is posted and kept for later does not matter. -/
theorem of_eq (hmodel : s'.readingListModel = s.readingListModel)
    (hdownloader : s'.urlDownloader = s.urlDownloader) : Calm list R s s' where
  oneTask hone := hdownloader ▸ hone
  originalURL := hdownloader ▸ rfl
  waiting _ hmem _ := hdownloader ▸ hmem
  none_new _ _ hurl := hmodel ▸ hurl
  kept _ _ _ hurl := hmodel ▸ hurl

theorem requestDownloader (s : ReadingListDownloadService URL Model)
    (request : Request URL) : Calm list R s (s.requestDownloader request) where
  oneTask hone := hone.request request
  originalURL := request_originalURL _ _
  waiting _ hmem hprogress := inProgress_request hmem hprogress
  none_new _ _ hurl := hurl
  kept _ _ _ hurl := hurl

omit [DecidableEq URL] in
/-- A change of the model alone. -/
theorem setModel (s : ReadingListDownloadService URL Model) {model : Model}
    (hnew : ∀ url path, list.distilled model url = some (.processed, path) →
      list.distilled s.readingListModel url = some (.processed, path))
    (hkept : ∀ url path, ¬R url →
      list.distilled s.readingListModel url = some (.processed, path) →
      list.distilled model url = some (.processed, path)) :
    Calm list R s { s with readingListModel := model } :=
  ⟨id, rfl, fun _ h _ => h, hnew, hkept⟩

omit [DecidableEq URL] in
theorem scheduleDownloadEntry (s : ReadingListDownloadService URL Model) (url : URL) :
    Calm list R s (s.scheduleDownloadEntry list url) := by
  unfold ReadingListDownloadService.scheduleDownloadEntry
  split
  · exact refl s
  · split
    · exact refl s
    · exact of_eq rfl rfl

omit [DecidableEq URL] in
theorem scheduleDownloadEntries (urls : List URL) (s : ReadingListDownloadService URL Model) :
    Calm list R s
      (urls.foldl (ReadingListDownloadService.scheduleDownloadEntry list) s) := by
  induction urls generalizing s with
  | nil => exact refl s
  | cons url urls ih => exact (scheduleDownloadEntry s url).trans (ih _)

theorem processNewEntry (s : ReadingListDownloadService URL Model) (url : URL) :
    Calm list R s (s.processNewEntry list url) := by
  unfold ReadingListDownloadService.processNewEntry
  split
  · exact requestDownloader s _
  · split
    · exact requestDownloader s _
    · exact scheduleDownloadEntry s url

/-- A download is asked for only where the entry is not processed. -/
theorem startDownload (hlist : list.Lawful) {url : URL}
    (hurl : ∀ path, list.distilled s.readingListModel url ≠ some (.processed, path)) :
    Calm list R s (s.startDownload list url) := by
  refine (setModel s ?_ ?_).trans (requestDownloader _ _)
  · intro other path hother
    by_cases hsame : other = url
    · subst hsame
      have hstate := hlist.setEntryDistilledState_self s.readingListModel other .processing
      rw [hother] at hstate
      cases hdistilled : list.distilled s.readingListModel other with
      | none => simp [hdistilled] at hstate
      | some distilled => simp [hdistilled] at hstate
    · rwa [hlist.setEntryDistilledState_other _ _ _ _ hsame] at hother
  · intro other path _ hother
    have hdiff : other ≠ url := by
      rintro rfl
      exact hurl path hother
    rwa [hlist.setEntryDistilledState_other _ _ _ _ hdiff]

theorem downloadEntry (hlist : list.Lawful) (s : ReadingListDownloadService URL Model) (url : URL)
    (connectionType : ConnectionType) :
    Calm list R s (s.downloadEntry list url connectionType) := by
  unfold ReadingListDownloadService.downloadEntry
  split
  · exact refl s
  · next entry hentry =>
    split
    · exact refl s
    · next hguard =>
      have hurl : ∀ path, list.distilled s.readingListModel url ≠ some (.processed, path) := by
        intro path hpath
        have hstate : entry.distilledState = .processed := by
          have hboth : entry.distilledState = .processed ∧ entry.distilledPath = path := by
            simpa [ReadingListModel.distilled, hentry] using hpath
          exact hboth.1
        exact hguard (.inr (.inl hstate))
      split
      · split <;> split <;> exact of_eq rfl rfl
      · split
        · exact startDownload hlist hurl
        · split
          · split
            · exact startDownload hlist hurl
            · exact of_eq rfl rfl
          · exact refl s

omit [DecidableEq URL] in
theorem onConnectionTypeChanged (s : ReadingListDownloadService URL Model) (type : ConnectionType) :
    Calm list R s (s.onConnectionTypeChanged list type) := by
  unfold ReadingListDownloadService.onConnectionTypeChanged
  split
  · exact of_eq rfl rfl
  · have hcellular : Calm list R s
        (if s.hadConnection then s
        else s.urlToDownloadCellular.foldl (ReadingListDownloadService.scheduleDownloadEntry list)
          { s with hadConnection := true }) := by
      split
      · exact refl s
      · refine Calm.trans ?_ (scheduleDownloadEntries _ _)
        exact of_eq rfl rfl
    dsimp only
    split
    · exact hcellular.trans (scheduleDownloadEntries _ _)
    · exact hcellular

theorem addEntry (hlist : list.Lawful) {url : URL} (hR : R url) :
    Calm list R s (s.addEntry list url) := by
  refine (setModel s ?_ ?_).trans (processNewEntry _ url)
  · intro other path hother
    by_cases hsame : other = url
    · obtain ⟨newPath, hnew⟩ := hlist.addEntry_self s.readingListModel url
      rw [hsame, hnew] at hother
      cases hother
    · rwa [hlist.addEntry_other _ _ _ hsame] at hother
  · intro other path hkeep hother
    have hdiff : other ≠ url := by
      rintro rfl
      exact hkeep hR
    rwa [hlist.addEntry_other _ _ _ hdiff]

theorem moveEntry (hlist : list.Lawful) (s : ReadingListDownloadService URL Model) (url : URL)
    (read : Bool) : Calm list R s (s.moveEntry list url read) := by
  unfold ReadingListDownloadService.moveEntry
  split
  · exact refl s
  · refine (setModel s ?_ ?_).trans (processNewEntry _ url)
    · intro other path hother
      rwa [hlist.setReadStatus] at hother
    · intro other path _ hother
      rwa [hlist.setReadStatus]

theorem removeEntry (hlist : list.Lawful) {url : URL} (hR : R url) :
    Calm list R s (s.removeEntry list url) := by
  unfold ReadingListDownloadService.removeEntry
  split
  · exact refl s
  · refine (requestDownloader s (.remove url)).trans (setModel _ ?_ ?_)
    · intro other path hother
      by_cases hsame : other = url
      · rw [hsame, hlist.removeEntryByURL_self] at hother
        cases hother
      · rwa [hlist.removeEntryByURL_other _ _ _ hsame] at hother
    · intro other path hkeep hother
      have hdiff : other ≠ url := by
        rintro rfl
        exact hkeep hR
      rwa [hlist.removeEntryByURL_other _ _ _ hdiff]

/-- Another step of the downloader, which is no answer to it. -/
theorem stepDownloader (utils : OfflineURLUtils URL) (s : ReadingListDownloadService URL Model)
    (op : URLDownloader.Op URL)
    (horiginal : (s.urlDownloader.step utils op).originalURL = s.urlDownloader.originalURL)
    (hwaiting : (s.urlDownloader.step utils op).waiting = s.urlDownloader.waiting) :
    Calm list R s { s with urlDownloader := s.urlDownloader.step utils op } where
  oneTask hone := hone.step utils op
  originalURL := horiginal
  waiting _ hmem _ := hwaiting ▸ hmem
  none_new _ _ hurl := hurl
  kept _ _ _ hurl := hurl

theorem runSyncTask (utils : OfflineURLUtils URL) (s : ReadingListDownloadService URL Model)
    (index : Nat) (undeletable : Finset String) :
    Calm list R s (s.runSyncTask list utils index undeletable) := by
  unfold ReadingListDownloadService.runSyncTask
  split
  · exact refl s
  · exact (stepDownloader utils s _ rfl rfl).trans (of_eq rfl rfl)
  · refine Calm.trans ?_ (scheduleDownloadEntries _ _)
    exact of_eq rfl rfl

end Calm

variable (utils : OfflineURLUtils URL) (collapseWhitespaceASCII : String → String)

/-- All that is not an answer to the downloader is calm. -/
theorem calm_step (hlist : list.Lawful) (s : ReadingListDownloadService URL Model) (op : Op URL)
    (hop : ∀ index answer, op ≠ .resume index answer) :
    Calm list (fun url => op.Removes url) s
      (s.step list utils collapseWhitespaceASCII op) := by
  cases op with
  | readingListModelLoaded => exact .of_eq rfl rfl
  | runSyncTask index undeletable => exact .runSyncTask utils s index undeletable
  | addEntry url => exact (Calm.removeEntry hlist (.inl rfl)).trans (.addEntry hlist (.inl rfl))
  | moveEntry url read => exact .moveEntry hlist s url read
  | removeEntry url => exact .removeEntry hlist (.inr rfl)
  | downloadEntry index connectionType =>
    unfold ReadingListDownloadService.step
    dsimp only
    split
    · exact .refl s
    · refine Calm.trans ?_ (.downloadEntry hlist _ _ connectionType)
      exact .of_eq rfl rfl
  | onConnectionTypeChanged type => exact .onConnectionTypeChanged s type
  | distilledPageRedirectedToURL redirectedURL =>
    refine .stepDownloader utils s (.distilledPageRedirectedToURL redirectedURL) ?_ ?_ <;>
    · simp only [URLDownloader.step, URLDownloader.distilledPageRedirectedToURL]
      split <;> rfl
  | distilledPageHasMimeType mimeType =>
    refine .stepDownloader utils s (.distilledPageHasMimeType mimeType) ?_ ?_ <;>
    · simp only [URLDownloader.step, URLDownloader.distilledPageHasMimeType]
      split <;> rfl
  | resume index answer => exact absurd rfl (hop index answer)

/-! ## The ends of downloads -/

/-- One task at a time, and no download under way has a processed entry. -/
structure Inv (list : ReadingListModel URL Model) (s : ReadingListDownloadService URL Model) :
    Prop where
  oneTask : s.urlDownloader.OneTask
  unprocessed : ∀ waiting ∈ s.urlDownloader.waiting, waiting.InProgress →
    s.isProcessed list s.urlDownloader.originalURL = false

section

omit [DecidableEq URL]

theorem isProcessed_eq_false {url : URL} : s.isProcessed list url = false ↔
    ∀ path, list.distilled s.readingListModel url ≠ some (.processed, path) := by
  unfold isProcessed
  cases hurl : list.distilled s.readingListModel url with
  | none => simp
  | some distilled =>
    obtain ⟨state, path⟩ := distilled
    simp

theorem Inv.calm (h : s.Inv list) (hcalm : Calm list R s s') : s'.Inv list where
  oneTask := hcalm.oneTask h.oneTask
  unprocessed waiting hmem hprogress := by
    have hold := h.unprocessed waiting (hcalm.waiting waiting hmem hprogress) hprogress
    rw [isProcessed_eq_false] at hold ⊢
    intro path hpath
    rw [hcalm.originalURL] at hpath
    exact hold path (hcalm.none_new _ path hpath)

/-- The end of a download changes the entry that it is reported for. -/
theorem distilled_onDownloadEnd (hlist : list.Lawful)
    {completion : DownloadCompletion URL} {other : URL}
    (hother : other ≠ completion.url) :
    list.distilled (s.onDownloadEnd list collapseWhitespaceASCII completion).readingListModel
      other = list.distilled s.readingListModel other := by
  have hstate : ∀ state, list.distilled (list.setEntryDistilledState s.readingListModel
      completion.url state) other = list.distilled s.readingListModel other :=
    fun state => hlist.setEntryDistilledState_other _ _ state _ hother
  have hinfo : list.distilled (list.setEntryDistilledInfo s.readingListModel completion.url
      completion.offlinePath completion.distilledURL completion.size) other =
        list.distilled s.readingListModel other :=
    hlist.setEntryDistilledInfo_other _ _ _ _ _ _ hother
  unfold onDownloadEnd
  split
  · dsimp only
    split
    · exact hinfo
    · exact (hlist.setEntryTitle _ _ _ _).trans hinfo
  · dsimp only
    split
    · exact hinfo
    · exact (hlist.setEntryTitle _ _ _ _).trans hinfo
  · split
    · split
      · rw [scheduleDownloadEntry_readingListModel]
        exact hstate .willRetry
      · exact hstate .distillationError
    · exact hstate .distillationError

theorem Inv.originalURL_unprocessed (h : s.Inv list) {index : Nat}
    {waiting : Waiting URL} (hindex : s.urlDownloader.waiting[index]? = some waiting)
    (hprogress : waiting.InProgress) :
    s.isProcessed list s.urlDownloader.originalURL = false :=
  h.unprocessed waiting (List.mem_of_getElem? hindex) hprogress

end

/-- A download does not end for a processed entry. -/
theorem completion_unprocessed (h : s.Inv list) {index : Nat}
    {answer : Answer URL} (hundisturbed : s.undisturbed list (.resume index answer))
    {waiting : Waiting URL} (hindex : s.urlDownloader.waiting[index]? = some waiting)
    {completion : DownloadCompletion URL}
    (hcompletion : s.urlDownloader.downloadCompletion waiting answer = some completion) :
    s.isProcessed list completion.url = false := by
  unfold downloadCompletion at hcompletion
  split at hcompletion
  · next url _ =>
    cases hcompletion
    show s.isProcessed list url = false
    simpa [undisturbed, hindex] using hundisturbed
  · next ended _ =>
    split at hcompletion
    · cases hcompletion
    · next hsuccess =>
      cases hcompletion
      have hcases : ended.url = s.urlDownloader.originalURL ∨
          s.isProcessed list ended.url = false := by
        simpa [undisturbed, hindex, hsuccess] using hundisturbed
      rcases hcases with hown | hother
      · show s.isProcessed list ended.url = false
        rw [hown]
        exact h.originalURL_unprocessed hindex trivial
      · exact hother
  · next ended _ =>
    cases hcompletion
    have hcases : ended.url = s.urlDownloader.originalURL ∨
        s.isProcessed list ended.url = false := by
      simpa [undisturbed, hindex] using hundisturbed
    rcases hcases with hown | hother
    · show s.isProcessed list ended.url = false
      rw [hown]
      exact h.originalURL_unprocessed hindex trivial
    · exact hother
  · cases hcompletion

/-- An answer to the downloader changes no processed entry. -/
theorem distilled_resume (hlist : list.Lawful) (h : s.Inv list) {index : Nat}
    {answer : Answer URL} (hundisturbed : s.undisturbed list (.resume index answer))
    {url : URL} {path : String}
    (hurl : list.distilled s.readingListModel url = some (.processed, path)) :
    list.distilled
      (s.resume list utils collapseWhitespaceASCII index answer).readingListModel url =
        some (.processed, path) := by
  unfold resume
  split
  · exact hurl
  · next waiting hindex =>
    dsimp only
    split
    · exact hurl
    · next completion hcompletion =>
      have hold := isProcessed_eq_false.1 (completion_unprocessed h hundisturbed hindex hcompletion)
      have hdiff : url ≠ completion.url := by
        rintro rfl
        exact hold path hurl
      exact (distilled_onDownloadEnd collapseWhitespaceASCII hlist hdiff).trans hurl

omit [DecidableEq URL] in
/-- What a download ends with is read of the waiting task and the last URL and size. -/
theorem downloadCompletion_quiet (downloader : URLDownloader URL)
    (rest : List (Waiting URL)) (waiting : Waiting URL)
    (answer : Answer URL) :
    downloadCompletion { downloader with waiting := rest } waiting (quiet answer) =
      downloader.downloadCompletion waiting answer := by
  cases answer with
  | replied requests =>
    cases waiting with
    | downloadURL url offlineURLExists => cases offlineURLExists <;> rfl
    | _ => rfl
  | _ => rfl

/-- No download ends with an answer that does not come. -/
theorem downloadCompletion_eq_none {downloader : URLDownloader URL}
    {waiting : Waiting URL} {answer : Answer URL}
    (h : downloader.answer utils waiting answer = none) :
    downloader.downloadCompletion waiting answer = none := by
  cases hcompletion : downloader.downloadCompletion waiting answer with
  | none => rfl
  | some completion =>
    unfold downloadCompletion at hcompletion
    split at hcompletion
    · cases h
    · cases h
    · cases h
    · cases hcompletion

theorem Inv.resume (h : s.Inv list) {index : Nat}
    {answer : Answer URL} (hundisturbed : s.undisturbed list (.resume index answer)) :
    (s.resume list utils collapseWhitespaceASCII index answer).Inv list := by
  unfold ReadingListDownloadService.resume
  split
  · exact h
  · next waiting hindex =>
    obtain ⟨hwaiting, hanswered⟩ := h.oneTask.answered hindex
    have hone := h.oneTask.step utils (.resume index (quiet answer))
    have hunder : ∀ next ∈ (s.urlDownloader.resume utils index (quiet answer)).waiting,
        next.InProgress → s.urlDownloader.downloadCompletion waiting answer = none ∧
          s.isProcessed list
            (s.urlDownloader.resume utils index (quiet answer)).originalURL = false := by
      intro next hmem hprogress
      have hquiet := downloadCompletion_quiet s.urlDownloader
        (s.urlDownloader.waiting.eraseIdx index) waiting answer
      cases hs' : URLDownloader.answer utils { s.urlDownloader with
          waiting := s.urlDownloader.waiting.eraseIdx index } waiting (quiet answer) with
      | none =>
        have hsame : s.urlDownloader.resume utils index (quiet answer) = s.urlDownloader := by
          simp [URLDownloader.resume, hindex, hs']
        rw [hsame] at hmem ⊢
        exact ⟨hquiet ▸ downloadCompletion_eq_none utils hs', h.unprocessed next hmem hprogress⟩
      | some downloader =>
        have hnew : s.urlDownloader.resume utils index (quiet answer) = downloader := by
          simp [URLDownloader.resume, hindex, hs']
        rw [hnew] at hmem ⊢
        obtain ⟨hnone, hcourse⟩ := hanswered.inProgress_answer utils hs' hmem hprogress
        refine ⟨hquiet ▸ hnone, ?_⟩
        rcases hcourse with ⟨hold, horiginal⟩ | ⟨url, requests, rfl, hanswer, horiginal⟩
        · rw [horiginal]
          exact h.originalURL_unprocessed hindex hold
        · rw [horiginal]
          cases answer with
          | replied _ => simpa [undisturbed, hindex] using hundisturbed
          | _ => cases hanswer
    dsimp only
    split
    · exact ⟨hone, fun next hmem hprogress => (hunder next hmem hprogress).2⟩
    · next completion hcompletion =>
      refine ⟨hone, fun next hmem hprogress => ?_⟩
      have hnone := (hunder next hmem hprogress).1
      rw [hcompletion] at hnone
      cases hnone

theorem Inv.step (hlist : list.Lawful) (h : s.Inv list) {op : Op URL}
    (hundisturbed : s.undisturbed list op) :
    (s.step list utils collapseWhitespaceASCII op).Inv list := by
  cases op with
  | resume index answer => exact h.resume utils collapseWhitespaceASCII hundisturbed
  | _ => exact h.calm (calm_step utils collapseWhitespaceASCII hlist s _ (by rintro _ _ ⟨⟩))

/-- **Step**: a processed entry stays processed, with its path, unless it is removed. -/
theorem distilled_step (hlist : list.Lawful) (h : s.Inv list) {op : Op URL}
    (hundisturbed : s.undisturbed list op) {url : URL} {path : String} (hop : ¬op.Removes url)
    (hurl : list.distilled s.readingListModel url = some (.processed, path)) :
    list.distilled (s.step list utils collapseWhitespaceASCII op).readingListModel url =
      some (.processed, path) := by
  cases op with
  | resume index answer =>
    exact distilled_resume utils collapseWhitespaceASCII hlist h hundisturbed hurl
  | _ =>
    exact (calm_step utils collapseWhitespaceASCII hlist s _ (by rintro _ _ ⟨⟩)).kept url path
      hop hurl

/-! ## Runs -/

omit [DecidableEq URL] in
theorem inv_new (model : Model) (emptyURL : URL) (directories : Finset String)
    (hadConnection : Bool) : (new model emptyURL directories hadConnection).Inv list where
  oneTask := oneTask_new emptyURL directories
  unprocessed _ hmem := absurd hmem List.not_mem_nil

/-- Where no download is taken up for a processed entry, an entry that is processed at
some point of a run is so, with the same path, until it is removed. -/
theorem processed_stays (hlist : list.Lawful) (model : Model) (emptyURL : URL)
    (directories : Finset String) (hadConnection : Bool) {before after : List (Op URL)}
    (hundisturbed : (machine list utils collapseWhitespaceASCII).Along
      (fun s op => s.undisturbed list op) (new model emptyURL directories hadConnection)
      (before ++ after)) {url : URL} {path : String}
    (hprocessed : list.distilled ((machine list utils collapseWhitespaceASCII).run
      (new model emptyURL directories hadConnection) before).readingListModel url =
        some (.processed, path))
    (hkept : ∀ op ∈ after, ¬op.Removes url) :
    list.distilled ((machine list utils collapseWhitespaceASCII).run
      (new model emptyURL directories hadConnection) (before ++ after)).readingListModel url =
        some (.processed, path) := by
  obtain ⟨hbefore, hafter⟩ := Machine.along_append.1 hundisturbed
  have hinv : Inv list ((machine list utils collapseWhitespaceASCII).run
      (new model emptyURL directories hadConnection) before) :=
    Machine.run_invariant (I := Inv list)
      (fun _ _ h hop => h.step utils collapseWhitespaceASCII hlist hop)
      (inv_new model emptyURL directories hadConnection) hbefore
  rw [Machine.run_append]
  have hboth := (machine list utils collapseWhitespaceASCII).along_and hafter
    ((machine list utils collapseWhitespaceASCII).along_of_mem _ hkept)
  exact (Machine.run_invariant
    (I := fun s => Inv list s ∧
      list.distilled s.readingListModel url = some (.processed, path))
    (fun _ _ h hop => ⟨h.1.step utils collapseWhitespaceASCII hlist hop.1,
      distilled_step utils collapseWhitespaceASCII hlist h.1 hop.1 hop.2 h.2⟩)
    ⟨hinv, hprocessed⟩ hboth).2

/-! ### Asked for once, and asked for twice -/

/-- Changes the entry of the URL, if there is one. -/
def updateEntry (model : Keyed String ReadingListEntry) (url : String)
    (change : ReadingListEntry → ReadingListEntry) : Keyed String ReadingListEntry :=
  match model.get? url with
  | none => model
  | some entry => model.set url (change entry)

def isFailure (state : DistillationState) : Bool :=
  state = .willRetry || state = .distillationError

/-- A model that keeps the entries under their URLs. -/
def plainModel : ReadingListModel String (Keyed String ReadingListEntry) where
  keys model := model.keys.dedup
  getEntryByURL model url := model.get? url
  addEntry model url := model.set url ⟨false, .waiting, "", 0⟩
  removeEntryByURL model url := model.erase url
  setReadStatus model url read := updateEntry model url fun entry => { entry with isRead := read }
  setEntryDistilledState model url state := updateEntry model url fun entry =>
    { entry with
      distilledState := state
      distilledPath := ""
      failedDownloadCounter :=
        if isFailure state && !isFailure entry.distilledState then entry.failedDownloadCounter + 1
        else entry.failedDownloadCounter }
  setEntryDistilledInfo model url path _ _ := updateEntry model url fun entry =>
    { entry with distilledState := .processed, distilledPath := path, failedDownloadCounter := 0 }
  setEntryTitle model _ _ := model

theorem get?_updateEntry (model : Keyed String ReadingListEntry) (url other : String)
    (change : ReadingListEntry → ReadingListEntry) :
    (updateEntry model url change).get? other =
      if other = url then (model.get? url).map change else model.get? other := by
  unfold updateEntry
  cases hurl : model.get? url with
  | none =>
    by_cases hother : other = url
    · simp [hother, hurl]
    · simp [hother]
  | some entry => simp

theorem plainModel_lawful : plainModel.Lawful where
  addEntry_self model url := ⟨"", by simp [ReadingListModel.distilled, plainModel]⟩
  addEntry_other model url other hother := by
    simp [ReadingListModel.distilled, plainModel, hother]
  removeEntryByURL_self model url := by simp [ReadingListModel.distilled, plainModel]
  removeEntryByURL_other model url other hother := by
    simp [ReadingListModel.distilled, plainModel, hother]
  setReadStatus model url read other := by
    by_cases hother : other = url <;>
      simp [ReadingListModel.distilled, plainModel, get?_updateEntry, hother, Function.comp_def]
  setEntryDistilledState_self model url state := by
    simp [ReadingListModel.distilled, plainModel, get?_updateEntry, Function.comp_def]
  setEntryDistilledState_other model url state other hother := by
    simp [ReadingListModel.distilled, plainModel, get?_updateEntry, hother]
  setEntryDistilledInfo_other model url path distilledURL size other hother := by
    simp [ReadingListModel.distilled, plainModel, get?_updateEntry, hother]
  setEntryTitle model url title other := rfl

/-- An empty list, and a connection. -/
def plainService : ReadingListDownloadService String (Keyed String ReadingListEntry) :=
  new .empty "" ∅ true

def plainMachine : Machine (ReadingListDownloadService String (Keyed String ReadingListEntry))
    (Op String) :=
  machine plainModel plainUtils id

/-- A download runs to its end. -/
def downloadPage : List (Op String) :=
  [.resume 0 (.distilled "page" "title"), .resume 0 (.saved ⟨true, [4], true⟩),
    .resume 0 (.replied [])]

/-- An entry is added, and downloaded. -/
def requestOnce : List (Op String) :=
  [.addEntry "a", .downloadEntry 0 .wifi, .resume 0 .checked, .resume 0 (.replied [])] ++
    downloadPage

/-- An entry is added, read and marked as unread, and so scheduled twice. The second
request comes while the first download runs. -/
def requestTwice : List (Op String) :=
  [.addEntry "a", .moveEntry "a" true, .moveEntry "a" false, .downloadEntry 0 .wifi,
    .resume 0 .checked, .resume 0 (.replied []), .downloadEntry 0 .wifi] ++ downloadPage

theorem processed_stays_requestOnce :
    plainModel.distilled (plainMachine.run plainService
      (requestOnce ++ [.moveEntry "a" true, .readingListModelLoaded,
        .onConnectionTypeChanged .wifi])).readingListModel "a" =
        some (.processed, "a/page.html") :=
  processed_stays plainUtils id plainModel_lawful .empty "" ∅ true
    (show plainMachine.Along (fun s op => s.undisturbed plainModel op) plainService
      (requestOnce ++ [.moveEntry "a" true, .readingListModelLoaded,
        .onConnectionTypeChanged .wifi]) by decide +kernel)
    (show plainModel.distilled (plainMachine.run plainService requestOnce).readingListModel "a" =
      some (.processed, "a/page.html") by decide +kernel)
    (by decide)

/-- The second download finds the files of the first one, and the processed entry is
to be downloaded again. -/
theorem requestTwice_will_retry :
    (plainModel.distilled (plainMachine.run plainService requestTwice).readingListModel "a" =
      some (.processed, "a/page.html")) ∧
    (∀ op ∈ [.resume 0 .checked, .resume 0 (.replied [])], ¬Op.Removes "a" op) ∧
    let s := plainMachine.run plainService
      (requestTwice ++ [.resume 0 .checked, .resume 0 (.replied [])])
    "a" ∈ s.urlDownloader.directories ∧
      plainModel.distilled s.readingListModel "a" = some (.willRetry, "") := by
  decide +kernel

end ReadingListDownloadService

end ChromiumIos
