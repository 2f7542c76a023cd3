import ChromiumIos.ReadingList.DownloadQueue

/-!
# Outcomes of downloads

What a `URLDownloader` reports of a download, and how it handles the page, compared
in two runs in which the same happens during the task.

- `outcome`: the handling of the page and the call of `download_completion_`.
- `outcome_eq`: it depends on the task alone, once the MIME type is that of the task.
- `ownOutcome_iff`: that is so unless the directory exists, or the distilled HTML is
  empty and no MIME type was reported before.
-/

namespace ChromiumIos

open Lib URLDownloader Machine

namespace URLDownloader

variable {URL : Type}

/-- What `DistillerCallback` chooses. -/
inductive Handling
  | html
  | pdf
  | unsupported
deriving DecidableEq, Repr

/-- The handling that waits. -/
def Waiting.handling : Waiting URL → Handling
  | .saveDistilledHTML .. => .html
  | .onURLFetchComplete _ => .pdf
  | _ => .unsupported

structure Outcome (URL : Type) where
  handling : Option Handling
  completion : Option (DownloadCompletion URL)
deriving DecidableEq

/-- The call of `download_completion_` that an operation leads to. -/
def reported (s : URLDownloader URL) : Op URL → Option (DownloadCompletion URL)
  | .resume index answer => s.waiting[index]?.bind (s.downloadCompletion · answer)
  | _ => none

section Outcomes

variable [DecidableEq URL] (utils : OfflineURLUtils URL)

/-- The choice that an operation leads to. -/
def chosen (s : URLDownloader URL) (op : Op URL) : Option Handling :=
  match op with
  | .resume index (.distilled _ _) =>
    match s.waiting[index]? with
    | some (.distillerCallback _) => (s.step utils op).waiting.getLast?.map Waiting.handling
    | _ => none
  | _ => none

/-- The choice for the download at work, and its completion. -/
def outcome (s : URLDownloader URL) : List (Op URL) → Outcome URL
  | [] => ⟨none, none⟩
  | op :: ops =>
    match s.reported op with
    | some completion => ⟨none, some completion⟩
    | none =>
      let later := (s.step utils op).outcome ops
      ⟨(s.chosen utils op).or later.handling, later.completion⟩

/-- An operation that leads to neither. -/
theorem outcome_cons {s : URLDownloader URL} {op : Op URL} (hreported : s.reported op = none)
    (hchosen : s.chosen utils op = none) (ops : List (Op URL)) :
    s.outcome utils (op :: ops) = (s.step utils op).outcome utils ops := by
  rw [outcome, hreported, hchosen]
  rfl

/-- A state of a run. -/
def Reachable (emptyURL : URL) (s : URLDownloader URL) : Prop :=
  ∃ directories ops, s = (machine utils).run (new emptyURL directories) ops

end Outcomes

/-! ## What happens during a task -/

/-- Requests of clients, and files that the owner deletes, are not of the task. -/
def taskEvent : Op URL → Option (Op URL)
  | .request _ | .cleanUpFiles _ => none
  | .resume index (.replied _) => some (.resume index (.replied []))
  | op => some op

abbrev taskEvents (ops : List (Op URL)) : List (Op URL) := ops.filterMap taskEvent

/-- Whether the MIME type is that of the task when HTML is or is not there: an
operation that decides it says so. -/
def Op.mimeKnown : Op URL → Option Bool
  | .distilledPageHasMimeType _ => some true
  | .resume 0 (.distilled html _) => some (html ≠ "")
  | _ => none

/-- Of a MIME type and empty HTML, a MIME type comes first. -/
def MimeKnown (ops : List (Op URL)) : Prop := ops.findSome? Op.mimeKnown ≠ some false

instance (ops : List (Op URL)) : Decidable (MimeKnown ops) := instDecidableNot

theorem mimeKnown_cons (op : Op URL) (ops : List (Op URL)) :
    MimeKnown (op :: ops) ↔
      match op.mimeKnown with
      | some known => known = true
      | none => MimeKnown ops := by
  rw [MimeKnown, List.findSome?_cons]
  cases op.mimeKnown with
  | none => rfl
  | some known => cases known <;> simp

theorem mimeKnown_taskEvents (ops : List (Op URL)) :
    MimeKnown (taskEvents ops) ↔ MimeKnown ops := by
  induction ops with
  | nil => rfl
  | cons op ops ih =>
    rw [mimeKnown_cons, taskEvents, List.filterMap_cons]
    cases op with
    | request | cleanUpFiles => exact ih
    | distilledPageRedirectedToURL | distilledPageHasMimeType =>
      refine (mimeKnown_cons _ _).trans ?_
      simp only [Op.mimeKnown, ih]
    | resume index answer =>
      cases answer <;> refine (mimeKnown_cons _ _).trans ?_ <;> cases index <;>
        simp only [Op.mimeKnown, ih]

/-! ### Loads of the page -/

/-- What `IsLoadingSuccess` reads of the item that was committed. -/
structure CommittedPage where
  isCryptographic : Bool
  isCertStatusError : Bool
  isCertStatusMinorError : Bool
deriving DecidableEq, Repr

/-- The end of a load. The visible URL is there if the distillation goes on. -/
structure PageLoad (URL : Type) where
  succeeded : Bool
  committed : Option CommittedPage
  distillingMainPage : Bool
  contentsMimeType : String
  contentIsHTML : Bool
  visibleURL : Option URL
deriving DecidableEq

namespace PageLoad

def isLoadingSuccess (load : PageLoad URL) : Bool :=
  if !load.succeeded then false
  else
    match load.committed with
    | none => false
    | some item =>
      if !item.isCryptographic then true
      else !(item.isCertStatusError && !item.isCertStatusMinorError)

/-- `ContinuePageDistillation`, as far as the delegate is called. -/
def continuePageDistillation [DecidableEq URL] (load : PageLoad URL) (originalURL : URL) :
    List (Op URL) :=
  match load.visibleURL with
  | none => []
  | some redirectedURL =>
    if redirectedURL ≠ originalURL && load.distillingMainPage then
      [.distilledPageRedirectedToURL redirectedURL]
    else []

/-- `ReadingListDistillerPage::OnLoadURLDone`, as far as the delegate is called. -/
def onLoadURLDone [DecidableEq URL] (load : PageLoad URL) (originalURL : URL) : List (Op URL) :=
  if !load.isLoadingSuccess then []
  else
    (if load.distillingMainPage then [.distilledPageHasMimeType load.contentsMimeType] else []) ++
      if load.contentIsHTML then load.continuePageDistillation originalURL else []

/-- The MIME type that the delegate is told. -/
def mimeType (load : PageLoad URL) : Option String :=
  if load.isLoadingSuccess && load.distillingMainPage then some load.contentsMimeType else none

/-- The redirection that the delegate is told. -/
def redirection [DecidableEq URL] (load : PageLoad URL) (originalURL : URL) : Option URL :=
  if load.isLoadingSuccess && load.distillingMainPage && load.contentIsHTML then
    load.visibleURL.filter (· ≠ originalURL)
  else none

end PageLoad

section Loads

variable [DecidableEq URL] (utils : OfflineURLUtils URL) {s : URLDownloader URL}

/-- A load of another page, or one that fails, changes nothing. -/
theorem run_onLoadURLDone (hdistiller : s.distiller = true) (originalURL : URL)
    (load : PageLoad URL) :
    (machine utils).run s (load.onLoadURLDone originalURL) =
      { s with
        mimeType := load.mimeType.getD s.mimeType
        distilledURL := (load.redirection originalURL).getD s.distilledURL } := by
  rw [PageLoad.onLoadURLDone, PageLoad.continuePageDistillation, PageLoad.mimeType,
    PageLoad.redirection]
  cases load.isLoadingSuccess with
  | false => rfl
  | true =>
    cases load.distillingMainPage with
    | false => cases load.contentIsHTML <;> cases load.visibleURL <;> simp [run]
    | true =>
      cases load.contentIsHTML with
      | false => simp [run, machine, step, distilledPageHasMimeType, hdistiller]
      | true =>
        cases load.visibleURL with
        | none => simp [run, machine, step, distilledPageHasMimeType, hdistiller]
        | some redirectedURL =>
          by_cases hsame : redirectedURL = originalURL <;>
            simp [run, machine, step, distilledPageHasMimeType,
              distilledPageRedirectedToURL, hdistiller, hsame, Option.filter]

/-- What was told last counts. -/
theorem run_loads (hdistiller : s.distiller = true) (originalURL : URL)
    (loads : List (PageLoad URL)) :
    (machine utils).run s (loads.flatMap (·.onLoadURLDone originalURL)) =
      { s with
        mimeType := (loads.filterMap PageLoad.mimeType).getLast?.getD s.mimeType
        distilledURL :=
          (loads.filterMap (·.redirection originalURL)).getLast?.getD s.distilledURL } := by
  induction loads generalizing s with
  | nil => rfl
  | cons load loads ih =>
    rw [List.flatMap_cons, run_append, run_onLoadURLDone utils hdistiller]
    refine (ih ?_).trans ?_
    · exact hdistiller
    have hlast : ∀ {α β : Type} (f : α → Option β) (a : α) (l : List α) (b : β),
        ((a :: l).filterMap f).getLast?.getD b = (l.filterMap f).getLast?.getD ((f a).getD b) := by
      intro α β f a l b
      cases hf : f a <;> simp [hf, List.getLast?_cons]
    rw [hlast, hlast]

/-- What waits after the choice. -/
theorem distillerCallback_eq (hwaiting : s.waiting = []) (pageURL : URL) (html title : String) :
    s.distillerCallback utils pageURL html title =
      { s with
        waiting :=
          [if html ≠ "" then .saveDistilledHTML pageURL title
          else if s.mimeType = "application/pdf" then
            .onURLFetchComplete
              (if utils.isValid s.distilledURL then s.distilledURL else s.originalURL)
          else .deletePartialDownload ⟨pageURL, "", "", .error⟩] } := by
  rw [distillerCallback]
  by_cases hhtml : html = ""
  · by_cases hpdf : s.mimeType = "application/pdf"
    · simp [hhtml, hpdf, fetchPDFFile, post, hwaiting]
    · simp [hhtml, hpdf, downloadCompletionHandler, post, hwaiting]
  · simp [hhtml, post, hwaiting]

/-- **How a page is handled**: when the HTML comes, the MIME type is that of the last successful
load of the main page or, if there was none, the one that an earlier download left. Where the HTML
is empty it decides whether a PDF is fetched. -/
theorem handling_after_loads {url : URL} (hwaiting : s.waiting = [.downloadURL url false])
    (requests : List (Request URL)) (loads : List (PageLoad URL)) (html title : String) :
    let t := (machine utils).run s (.resume 0 (.replied requests) ::
      (loads.flatMap (·.onLoadURLDone url) ++ [.resume 0 (.distilled html title)]))
    t.mimeType = (loads.filterMap PageLoad.mimeType).getLast?.getD s.mimeType ∧
      t.distilledURL = (loads.filterMap (·.redirection url)).getLast?.getD url ∧
      t.waiting =
        [if html ≠ "" then .saveDistilledHTML url title
        else if t.mimeType = "application/pdf" then
          .onURLFetchComplete (if utils.isValid t.distilledURL then t.distilledURL else url)
        else .deletePartialDownload ⟨url, "", "", .error⟩] := by
  have hbegun : (machine utils).step s (.resume 0 (.replied requests)) =
      { s with
        waiting := [.distillerCallback url]
        originalURL := url
        distilledURL := url
        savedSize := 0
        distiller := true } := by
    show s.resume utils 0 _ = _
    rw [resume, hwaiting]
    rfl
  have hloaded := run_loads utils (s := { s with
    waiting := [.distillerCallback url]
    originalURL := url
    distilledURL := url
    savedSize := 0
    distiller := true }) rfl url loads
  have hrun : (machine utils).run s (.resume 0 (.replied requests) ::
      (loads.flatMap (·.onLoadURLDone url) ++ [.resume 0 (.distilled html title)])) =
      distillerCallback utils { s with
        waiting := []
        originalURL := url
        mimeType := (loads.filterMap PageLoad.mimeType).getLast?.getD s.mimeType
        distilledURL := (loads.filterMap (·.redirection url)).getLast?.getD url
        savedSize := 0
        distiller := true } url html title := by
    rw [run, hbegun, run_append, hloaded]
    rfl
  rw [hrun, distillerCallback_eq utils rfl]
  exact ⟨rfl, rfl, rfl⟩

end Loads

/-- An outcome is the task's own: it is the same after every history, whatever else
happens meanwhile. -/
def OwnOutcome [DecidableEq URL] (utils : OfflineURLUtils URL) (emptyURL url : URL)
    (offlineURLExists : Bool) (ops : List (Op URL)) : Prop :=
  ∀ s t : URLDownloader URL, Reachable utils emptyURL s → Reachable utils emptyURL t →
    s.waiting = [.downloadURL url offlineURLExists] →
    t.waiting = [.downloadURL url offlineURLExists] →
    ∀ requests requests' ops', taskEvents ops' = taskEvents ops →
      s.outcome utils (.resume 0 (.replied requests) :: ops) =
        t.outcome utils (.resume 0 (.replied requests') :: ops')

/-! ## Two runs -/

/-- The answer waited for reads the MIME type. -/
def Waiting.ReadsMime : Waiting URL → Prop
  | .distillerCallback _ | .onURLFetchComplete _ => True
  | _ => False

/-- The members of a download are the same. -/
structure Same (s t : URLDownloader URL) : Prop where
  working : s.working = true ∧ t.working = true
  distiller : s.distiller = true ∧ t.distiller = true
  originalURL : s.originalURL = t.originalURL
  distilledURL : s.distilledURL = t.distilledURL
  savedSize : s.savedSize = t.savedSize

/-- Both wait for the same answer. -/
structure SameTask (s t : URLDownloader URL) (waiting : Waiting URL) : Prop where
  same : Same s t
  left : s.waiting = [waiting]
  right : t.waiting = [waiting]
  inProgress : waiting.InProgress

section TwoRuns

variable {utils : OfflineURLUtils URL} {s t : URLDownloader URL}

/-- Only some of the members matter. -/
theorem Same.congr (h : Same s t) {s' t' : URLDownloader URL}
    (hs : s'.working = s.working ∧ s'.distiller = s.distiller ∧ s'.originalURL = s.originalURL ∧
      s'.distilledURL = s.distilledURL ∧ s'.savedSize = s.savedSize)
    (ht : t'.working = t.working ∧ t'.distiller = t.distiller ∧ t'.originalURL = t.originalURL ∧
      t'.distilledURL = t.distilledURL ∧ t'.savedSize = t.savedSize) : Same s' t' := by
  obtain ⟨hs₁, hs₂, hs₃, hs₄, hs₅⟩ := hs
  obtain ⟨ht₁, ht₂, ht₃, ht₄, ht₅⟩ := ht
  constructor
  · rw [hs₁, ht₁]
    exact h.working
  · rw [hs₂, ht₂]
    exact h.distiller
  · rw [hs₃, ht₃, h.originalURL]
  · rw [hs₄, ht₄, h.distilledURL]
  · rw [hs₅, ht₅, h.savedSize]

theorem Same.completion (h : Same s t) (ended : DownloadEnd URL) :
    s.completion ended = t.completion ended := by
  rw [URLDownloader.completion, URLDownloader.completion, h.distilledURL, h.savedSize]

@[simp] theorem save_waiting (s : URLDownloader URL) (url : URL) (saving : Saving) :
    (s.save utils url saving).waiting = s.waiting := by
  unfold save
  split <;> rfl

@[simp] theorem deleteFile_waiting (s : URLDownloader URL) (url : URL) (success : Bool) :
    (s.deleteFile utils url success).waiting = s.waiting := by
  unfold deleteFile
  split <;> rfl

theorem Same.save (h : Same s t) (url : URL) (saving : Saving) :
    Same (s.save utils url saving) (t.save utils url saving) := by
  unfold URLDownloader.save
  split
  · exact ⟨h.working, h.distiller, h.originalURL, h.distilledURL,
      congrArg (· + saving.sizes.sum) h.savedSize⟩
  · exact h

theorem Same.deleteFile (h : Same s t) (url : URL) (success : Bool) :
    Same (s.deleteFile utils url success) (t.deleteFile utils url success) := by
  unfold URLDownloader.deleteFile
  split
  · exact h.congr ⟨rfl, rfl, rfl, rfl, rfl⟩ ⟨rfl, rfl, rfl, rfl, rfl⟩
  · exact h

theorem Same.post (h : Same s t) (hs : s.waiting = []) (ht : t.waiting = [])
    {waiting : Waiting URL} (hprogress : waiting.InProgress) :
    SameTask (s.post waiting) (t.post waiting) waiting :=
  ⟨h.congr ⟨rfl, rfl, rfl, rfl, rfl⟩ ⟨rfl, rfl, rfl, rfl, rfl⟩,
    by rw [URLDownloader.post, hs, List.nil_append],
    by rw [URLDownloader.post, ht, List.nil_append], hprogress⟩

/-- A failed download deletes its files before it is reported. -/
theorem Same.downloadCompletionHandler_error [DecidableEq URL] (h : Same s t) (hs : s.waiting = [])
    (ht : t.waiting = []) {ended : DownloadEnd URL} (herror : ended.success = .error)
    (requests requests' : List (Request URL)) :
    SameTask (s.downloadCompletionHandler ended requests)
      (t.downloadCompletionHandler ended requests') (.deletePartialDownload ended) := by
  rw [downloadCompletionHandler, downloadCompletionHandler, if_pos herror, if_pos herror]
  exact h.post hs ht trivial

/-- An answer without what clients request. -/
def Answer.ofTask : Answer URL → Answer URL
  | .replied _ => .replied []
  | answer => answer

/-- What both wait for next, and have the MIME type for. -/
structure Next (s t : URLDownloader URL) (waiting : Waiting URL) : Prop where
  task : SameTask s t waiting
  mime : waiting.ReadsMime → s.mimeType = t.mimeType

/-- The same answer leads to the same, or is none to either. -/
inductive Both : Option (URLDownloader URL) → Option (URLDownloader URL) → Prop
  | ignored : Both none none
  | next {s t : URLDownloader URL} {waiting : Waiting URL} (h : Next s t waiting) :
      Both (some s) (some t)

theorem Both.of_not_readsMime {waiting : Waiting URL} (h : SameTask s t waiting)
    (hmime : ¬ waiting.ReadsMime) : Both (some s) (some t) :=
  .next ⟨h, fun hreads => absurd hreads hmime⟩

variable [DecidableEq URL]

theorem Same.distillerCallback (h : Same s t) (hs : s.waiting = []) (ht : t.waiting = [])
    (pageURL : URL) (html title : String) (hmime : html = "" → s.mimeType = t.mimeType) :
    Both (some (s.distillerCallback utils pageURL html title))
      (some (t.distillerCallback utils pageURL html title)) := by
  rw [URLDownloader.distillerCallback, URLDownloader.distillerCallback]
  by_cases hempty : html = ""
  · rw [if_pos hempty, if_pos hempty, hmime hempty]
    split
    · rw [fetchPDFFile, fetchPDFFile, h.distilledURL, h.originalURL]
      exact .next ⟨h.post hs ht trivial, fun _ => hmime hempty⟩
    · exact .of_not_readsMime (h.downloadCompletionHandler_error hs ht rfl [] []) id
  · rw [if_neg hempty, if_neg hempty]
    exact .of_not_readsMime (h.post hs ht trivial) id

theorem Same.onURLFetchComplete (h : Same s t) (hs : s.waiting = []) (ht : t.waiting = [])
    (pdfURL : URL) (isSuccess : Bool) (mimeType : String) (hmime : s.mimeType = t.mimeType) :
    Both (some (s.onURLFetchComplete utils pdfURL isSuccess mimeType))
      (some (t.onURLFetchComplete utils pdfURL isSuccess mimeType)) := by
  rw [URLDownloader.onURLFetchComplete, URLDownloader.onURLFetchComplete, hmime, h.originalURL]
  split
  · exact .of_not_readsMime (h.downloadCompletionHandler_error hs ht rfl [] []) id
  · exact .of_not_readsMime (h.post hs ht trivial) id

/-- The answer reads the MIME type. -/
def Waiting.ReadsMimeFor : Waiting URL → Answer URL → Prop
  | .distillerCallback _, .distilled html _ => html = ""
  | .onURLFetchComplete _, .fetched _ _ => True
  | _, _ => False

/-- The same answer to both leads to the same. -/
theorem Same.answer (h : Same s t) (hs : s.waiting = []) (ht : t.waiting = [])
    {waiting : Waiting URL} (hprogress : waiting.InProgress) (answer : Answer URL)
    (hmime : waiting.ReadsMimeFor answer → s.mimeType = t.mimeType)
    (hnone : s.downloadCompletion waiting answer = none) :
    Both (s.answer utils waiting answer) (t.answer utils waiting answer.ofTask) := by
  cases waiting with
  | deleteFile | deleteCompletionHandler | pathExists | downloadURL => exact hprogress.elim
  | distillerCallback pageURL =>
    cases answer with
    | deleted | checked | saved | replied | fetched => exact .ignored
    | distilled html title => exact h.distillerCallback hs ht pageURL html title hmime
  | onURLFetchComplete pdfURL =>
    cases answer with
    | deleted | checked | saved | replied | distilled => exact .ignored
    | fetched isSuccess mimeType =>
      exact h.onURLFetchComplete hs ht pdfURL isSuccess mimeType (hmime trivial)
  | saveDistilledHTML url title =>
    cases answer with
    | deleted | checked | distilled | replied | fetched => exact .ignored
    | saved saving =>
      exact .of_not_readsMime ((h.save url saving).post (by simpa using hs) (by simpa using ht)
        trivial) id
  | savePDFFile pdfURL path =>
    cases answer with
    | deleted | checked | distilled | replied | fetched => exact .ignored
    | saved saving =>
      have hsaved : Same (s.save utils s.originalURL saving)
          (t.save utils t.originalURL saving) := by
        rw [← h.originalURL]
        exact h.save s.originalURL saving
      have hpost : SameTask
          ((s.save utils s.originalURL saving).post
            (.downloadCompletionHandler ⟨pdfURL, "", path, saving.success⟩))
          ((t.save utils t.originalURL saving).post
            (.downloadCompletionHandler ⟨pdfURL, "", path, saving.success⟩)) _ :=
        hsaved.post (by simpa using hs) (by simpa using ht) trivial
      exact .of_not_readsMime hpost id
  | downloadCompletionHandler ended =>
    cases answer with
    | deleted | checked | distilled | saved | fetched => exact .ignored
    | replied requests =>
      rw [downloadCompletion] at hnone
      split at hnone
      · rename_i herror
        exact .of_not_readsMime
          (h.downloadCompletionHandler_error hs ht herror requests []) id
      · cases hnone
  | deletePartialDownload ended =>
    cases answer with
    | replied | checked | distilled | saved | fetched => exact .ignored
    | deleted success =>
      exact .of_not_readsMime ((h.deleteFile ended.url success).post (by simpa using hs)
        (by simpa using ht) trivial) id
  | postDelete ended =>
    cases answer with
    | deleted | checked | distilled | saved | fetched => exact .ignored
    | replied requests => cases hnone

omit [DecidableEq URL] in
theorem Same.downloadCompletion (h : Same s t) {waiting : Waiting URL}
    (hprogress : waiting.InProgress) (answer : Answer URL) :
    s.downloadCompletion waiting answer = t.downloadCompletion waiting answer.ofTask := by
  cases waiting with
  | deleteFile | deleteCompletionHandler | pathExists | downloadURL => exact hprogress.elim
  | distillerCallback | onURLFetchComplete | saveDistilledHTML | savePDFFile
  | deletePartialDownload => cases answer <;> rfl
  | downloadCompletionHandler ended =>
    cases answer with
    | deleted | checked | distilled | saved | fetched => rfl
    | replied requests =>
      simp only [URLDownloader.downloadCompletion, Answer.ofTask, h.completion]
  | postDelete ended =>
    cases answer with
    | deleted | checked | distilled | saved | fetched => rfl
    | replied requests => exact congrArg some (h.completion ended)

/-- While a download is at work, requests edit the queue only. -/
theorem request_eq_of_working (hworking : s.working = true) (request : Request URL) :
    ∃ tasks history, s.request request = { s with tasks, history } := by
  cases request with
  | download url =>
    by_cases hmem : (TaskType.download, url) ∈ s.tasks
    · exact ⟨s.tasks, s.history ++ [.requested (.download url)], by
        simp [request, downloadOfflineURL, record, hmem]⟩
    · exact ⟨s.tasks ++ [(.download, url)],
        s.history ++ [.requested (.download url)] ++ [.queued (.download, url)], by
        simp [request, downloadOfflineURL, record, pushBack, handleNextTask, hworking,
          hmem]⟩
  | remove url =>
    exact ⟨s.tasks.filter (· ≠ (.download, url)) ++ [(.delete, url)],
      s.history ++ [.requested (.remove url)] ++ [.queued (.delete, url)], by
      simp [request, removeOfflineURL, cancelDownloadOfflineURL, record, pushBack,
        handleNextTask, hworking]⟩
  | cancel url => exact ⟨_, _, rfl⟩

variable {waiting : Waiting URL}

/-- What is no event of the task changes nothing of it. -/
theorem SameTask.step_other (h : SameTask s t waiting) {op : Op URL} (hop : taskEvent op = none) :
    SameTask (s.step utils op) t waiting ∧ (s.step utils op).mimeType = s.mimeType ∧
      s.reported op = none ∧ s.chosen utils op = none := by
  cases op with
  | request request =>
    obtain ⟨tasks, history, heq⟩ := request_eq_of_working h.same.working.1 request
    rw [step, heq]
    exact ⟨⟨h.same.congr ⟨rfl, rfl, rfl, rfl, rfl⟩ ⟨rfl, rfl, rfl, rfl, rfl⟩, h.left, h.right,
      h.inProgress⟩, rfl, rfl, rfl⟩
  | cleanUpFiles deleted =>
    exact ⟨⟨h.same.congr ⟨rfl, rfl, rfl, rfl, rfl⟩ ⟨rfl, rfl, rfl, rfl, rfl⟩, h.left, h.right,
      h.inProgress⟩, rfl, rfl, rfl⟩
  | distilledPageRedirectedToURL | distilledPageHasMimeType => cases hop
  | resume index answer => cases answer <;> cases hop

omit [DecidableEq URL] in
theorem SameTask.redirected (h : SameTask s t waiting) (redirectedURL : URL) :
    SameTask (s.distilledPageRedirectedToURL redirectedURL)
      (t.distilledPageRedirectedToURL redirectedURL) waiting := by
  rw [distilledPageRedirectedToURL, distilledPageRedirectedToURL, if_pos h.same.distiller.1,
    if_pos h.same.distiller.2]
  exact ⟨⟨h.same.working, h.same.distiller, h.same.originalURL, rfl, h.same.savedSize⟩, h.left,
    h.right, h.inProgress⟩

omit [DecidableEq URL] in
theorem SameTask.hasMimeType (h : SameTask s t waiting) (mimeType : String) :
    Next (s.distilledPageHasMimeType mimeType) (t.distilledPageHasMimeType mimeType) waiting := by
  rw [distilledPageHasMimeType, distilledPageHasMimeType, if_pos h.same.distiller.1,
    if_pos h.same.distiller.2]
  exact ⟨⟨h.same.congr ⟨rfl, rfl, rfl, rfl, rfl⟩ ⟨rfl, rfl, rfl, rfl, rfl⟩, h.left, h.right,
    h.inProgress⟩, fun _ => rfl⟩

/-- The MIME type is the same, or it will be when it is read. -/
def MimeAgrees (s t : URLDownloader URL) (waiting : Waiting URL) (ops : List (Op URL)) : Prop :=
  (waiting.ReadsMime → s.mimeType = t.mimeType) ∨
    (∃ url, waiting = .distillerCallback url) ∧ MimeKnown ops

theorem resume_singleton (h : s.waiting = [waiting]) (answer : Answer URL) :
    s.resume utils 0 answer = (URLDownloader.answer utils { s with waiting := [] } waiting
      answer).getD s := by
  rw [resume, h]
  rfl

theorem resume_succ (h : s.waiting = [waiting]) (index : Nat)
    (answer : Answer URL) : s.resume utils (index + 1) answer = s := by
  rw [resume, h]
  rfl

section

omit [DecidableEq URL]

theorem taskEvent_resume (index : Nat) (answer : Answer URL) :
    taskEvent (.resume index answer) = some (.resume index answer.ofTask) := by
  cases answer <;> rfl

/-- What is no event of the task does not decide whether the MIME type is known. -/
theorem mimeKnown_of_other {op : Op URL} (hop : taskEvent op = none) : op.mimeKnown = none := by
  cases op with
  | request | cleanUpFiles => rfl
  | distilledPageRedirectedToURL | distilledPageHasMimeType => cases hop
  | resume index answer => rw [taskEvent_resume] at hop; cases hop

/-- The agreement goes on when an operation decides nothing. -/
theorem MimeAgrees.tail {op : Op URL} {ops : List (Op URL)}
    (h : MimeAgrees s t waiting (op :: ops)) (hop : op.mimeKnown = none) :
    MimeAgrees s t waiting ops := by
  refine h.imp_right fun ⟨hwaiting, hknown⟩ => ⟨hwaiting, ?_⟩
  rw [mimeKnown_cons, hop] at hknown
  exact hknown

theorem MimeAgrees.mime {answer : Answer URL} {ops : List (Op URL)}
    (h : MimeAgrees s t waiting (.resume 0 answer :: ops)) (hreads : waiting.ReadsMimeFor answer) :
    s.mimeType = t.mimeType := by
  rcases h with hmime | ⟨⟨url, rfl⟩, hknown⟩
  · apply hmime
    cases waiting <;> cases answer <;> trivial
  · cases answer with
    | deleted | checked | saved | replied | fetched => exact hreads.elim
    | distilled html title =>
      rw [mimeKnown_cons] at hknown
      simp only [Op.mimeKnown, decide_eq_true_eq] at hknown
      exact absurd hreads hknown

@[simp] theorem distilledPageRedirectedToURL_mimeType (s : URLDownloader URL)
    (redirectedURL : URL) :
    (s.distilledPageRedirectedToURL redirectedURL).mimeType = s.mimeType := by
  rw [distilledPageRedirectedToURL]
  split <;> rfl

end

/-- The choice shows in what is waited for. -/
theorem chosen_congr (hs : s.waiting = [waiting])
    (ht : t.waiting = [waiting]) (answer : Answer URL)
    (hstep : (s.step utils (.resume 0 answer)).waiting =
      (t.step utils (.resume 0 answer.ofTask)).waiting) :
    s.chosen utils (.resume 0 answer) = t.chosen utils (.resume 0 answer.ofTask) := by
  cases answer with
  | deleted | checked | saved | replied | fetched => rfl
  | distilled html title =>
    simp only [chosen, Answer.ofTask, hs, ht, List.getElem?_cons_zero]
    cases waiting with
    | distillerCallback pageURL =>
      exact congrArg (fun last => (List.getLast? last).map Waiting.handling) hstep
    | _ => rfl

/-- The answer that is waited for, with what comes after it. -/
theorem SameTask.outcome_resume (h : SameTask s t waiting)
    (answer : Answer URL) (ops : List (Op URL))
    (hmime : MimeAgrees s t waiting (.resume 0 answer :: ops))
    (ih : ∀ {s t : URLDownloader URL} {waiting : Waiting URL}, SameTask s t waiting →
      MimeAgrees s t waiting ops → s.outcome utils ops = t.outcome utils (taskEvents ops)) :
    s.outcome utils (.resume 0 answer :: ops) =
      t.outcome utils (.resume 0 answer.ofTask :: taskEvents ops) := by
  have hs : s.reported (.resume 0 answer) = s.downloadCompletion waiting answer := by
    rw [reported, h.left]
    rfl
  have ht : t.reported (.resume 0 answer.ofTask) = s.downloadCompletion waiting answer := by
    rw [h.same.downloadCompletion h.inProgress, reported, h.right]
    rfl
  rw [outcome, outcome, hs, ht]
  cases hcompletion : s.downloadCompletion waiting answer with
  | some completion => rfl
  | none =>
    have hpopped : Same { s with waiting := [] } { t with waiting := [] } :=
      h.same.congr ⟨rfl, rfl, rfl, rfl, rfl⟩ ⟨rfl, rfl, rfl, rfl, rfl⟩
    have hboth : Both (URLDownloader.answer utils { s with waiting := [] } waiting answer)
        (URLDownloader.answer utils { t with waiting := [] } waiting answer.ofTask) :=
      hpopped.answer rfl rfl h.inProgress answer hmime.mime hcompletion
    have hstep : s.step utils (.resume 0 answer) = _ := resume_singleton h.left answer
    have hstep' : t.step utils (.resume 0 answer.ofTask) = _ :=
      resume_singleton h.right answer.ofTask
    generalize hleft : URLDownloader.answer utils { s with waiting := [] } waiting answer = left
      at hboth hstep
    generalize URLDownloader.answer utils { t with waiting := [] } waiting answer.ofTask = right
      at hboth hstep'
    cases hboth with
    | ignored =>
      rw [Option.getD_none] at hstep hstep'
      have hchosen : s.chosen utils (.resume 0 answer) =
          t.chosen utils (.resume 0 answer.ofTask) := chosen_congr h.left h.right answer (by rw [hstep, hstep', h.left, h.right])
      have hagrees : MimeAgrees s t waiting ops := by
        rcases hmime with hmime | ⟨⟨url, rfl⟩, hknown⟩
        · exact .inl hmime
        · -- the distiller's answer is not ignored
          cases answer with
          | distilled html title => cases hleft
          | deleted | checked | saved | replied | fetched =>
            exact .inr ⟨⟨url, rfl⟩, (mimeKnown_cons _ _).1 hknown⟩
      rw [hchosen, hstep, hstep', ih h hagrees]
    | next hnext =>
      rw [Option.getD_some] at hstep hstep'
      have hchosen : s.chosen utils (.resume 0 answer) =
          t.chosen utils (.resume 0 answer.ofTask) := chosen_congr h.left h.right answer (by rw [hstep, hstep', hnext.task.left, hnext.task.right])
      rw [hchosen, hstep, hstep', ih hnext.task (.inl hnext.mime)]

/-- **One task**: the outcome is the one the task's events alone have, after any other
history. -/
theorem outcome_taskEvents (h : SameTask s t waiting)
    (ops : List (Op URL)) (hmime : MimeAgrees s t waiting ops) :
    s.outcome utils ops = t.outcome utils (taskEvents ops) := by
  induction ops generalizing s t waiting with
  | nil => rfl
  | cons op ops ih =>
    cases hop : taskEvent op with
    | none =>
      obtain ⟨hstep, hmimeType, hreported, hchosen⟩ :
          SameTask (s.step utils op) t waiting ∧ _ := h.step_other hop
      rw [taskEvents, List.filterMap_cons, hop, outcome_cons utils hreported hchosen]
      have hnext : MimeAgrees (s.step utils op) t waiting ops := by
        rw [MimeAgrees, hmimeType]
        exact hmime.tail (mimeKnown_of_other hop)
      exact ih hstep hnext
    | some event =>
      rw [taskEvents, List.filterMap_cons, hop]
      cases op with
      | request | cleanUpFiles => cases hop
      | distilledPageRedirectedToURL redirectedURL =>
        cases hop
        have hnext : MimeAgrees (s.distilledPageRedirectedToURL redirectedURL)
            (t.distilledPageRedirectedToURL redirectedURL) waiting ops := by
          rw [MimeAgrees, distilledPageRedirectedToURL_mimeType,
            distilledPageRedirectedToURL_mimeType]
          exact hmime.tail rfl
        rw [outcome_cons utils rfl rfl, outcome_cons utils rfl rfl]
        exact ih (h.redirected redirectedURL) hnext
      | distilledPageHasMimeType mimeType =>
        cases hop
        have hnext := h.hasMimeType mimeType
        rw [outcome_cons utils rfl rfl, outcome_cons utils rfl rfl]
        exact ih hnext.task (.inl hnext.mime)
      | resume index answer =>
        rw [taskEvent_resume] at hop
        cases hop
        cases index with
        | zero => exact h.outcome_resume answer ops hmime fun h' hmime' => ih h' hmime'
        | succ index =>
          have hs : s.step utils (.resume (index + 1) answer) = s := resume_succ h.left index answer
          have ht : t.step utils (.resume (index + 1) answer.ofTask) = t :=
            resume_succ h.right index answer.ofTask
          have hquiet : ∀ {s : URLDownloader URL} (_ : s.waiting = [waiting]) (answer : Answer URL),
              s.reported (.resume (index + 1) answer) = none ∧
                s.chosen utils (.resume (index + 1) answer) = none := by
            intro s hs answer
            constructor
            · rw [reported, hs]
              rfl
            · cases answer <;> simp [chosen, hs]
          rw [outcome_cons utils (hquiet h.left _).1 (hquiet h.left _).2,
            outcome_cons utils (hquiet h.right _).1 (hquiet h.right _).2, hs, ht]
          exact ih h (hmime.tail rfl)

end TwoRuns

/-! ## The outcome of a download -/

section Outcomes

variable [DecidableEq URL] {utils : OfflineURLUtils URL} {emptyURL url : URL}
  {s t : URLDownloader URL}

theorem Reachable.oneTask (h : Reachable utils emptyURL s) : OneTask s := by
  obtain ⟨directories, ops, rfl⟩ := h
  exact run_invariant_of_step (fun _ op hone => hone.step utils op)
    (oneTask_new emptyURL directories) ops

theorem Reachable.working (h : Reachable utils emptyURL s) {waiting : Waiting URL}
    (hwaiting : s.waiting = [waiting]) : s.working = true := by
  cases hworking : s.working with
  | true => rfl
  | false =>
    rw [(h.oneTask.idle hworking).1] at hwaiting
    cases hwaiting

/-- A download that begins, as `DownloadURL` leaves it. -/
def begun (s : URLDownloader URL) (url : URL) : URLDownloader URL :=
  { s with
    waiting := [.distillerCallback url], originalURL := url, distilledURL := url
    savedSize := 0, distiller := true }

omit [DecidableEq URL] in
theorem sameTask_begun (hs : s.working = true) (ht : t.working = true) :
    SameTask (s.begun url) (t.begun url) (.distillerCallback url) :=
  ⟨⟨⟨hs, ht⟩, ⟨rfl, rfl⟩, rfl, rfl, rfl⟩, rfl, rfl, trivial⟩

/-- The download begins, once the directory is known not to exist. -/
theorem outcome_begin (hwaiting : s.waiting = [.downloadURL url false])
    (requests : List (Request URL)) (ops : List (Op URL)) :
    s.outcome utils (.resume 0 (.replied requests) :: ops) = (s.begun url).outcome utils ops := by
  have hreported : s.reported (.resume 0 (.replied requests)) = none := by
    rw [reported, hwaiting]
    rfl
  have hstep : s.step utils (.resume 0 (.replied requests)) = _ := resume_singleton hwaiting _
  rw [outcome_cons utils hreported rfl, hstep]
  rfl

/-- A download whose directory exists ends at once. -/
theorem outcome_exists (hwaiting : s.waiting = [.downloadURL url true])
    (requests : List (Request URL)) (ops : List (Op URL)) :
    s.outcome utils (.resume 0 (.replied requests) :: ops) =
      ⟨none, some (s.completion ⟨url, "", "", .downloadExists⟩)⟩ := by
  have hreported : s.reported (.resume 0 (.replied requests)) =
      some (s.completion ⟨url, "", "", .downloadExists⟩) := by
    rw [reported, hwaiting]
    rfl
  rw [outcome, hreported]

theorem ownOutcome_of_mimeKnown {ops : List (Op URL)} (hknown : MimeKnown ops) :
    OwnOutcome utils emptyURL url false ops := by
  intro s t hs ht hswaiting htwaiting requests requests' ops' hevents
  rw [outcome_begin hswaiting, outcome_begin htwaiting]
  have hsworking := hs.working hswaiting
  have htworking := ht.working htwaiting
  have hknown' : MimeKnown ops' := by
    rw [← mimeKnown_taskEvents, hevents, mimeKnown_taskEvents]
    exact hknown
  rw [outcome_taskEvents (sameTask_begun hsworking hsworking) ops (.inr ⟨⟨url, rfl⟩, hknown⟩),
    outcome_taskEvents (sameTask_begun htworking hsworking) ops' (.inr ⟨⟨url, rfl⟩, hknown'⟩),
    hevents]

/-- Before a MIME type is reported, empty HTML is handled by the one there is. -/
theorem handling_of_not_mimeKnown (hworking : s.working = true)
    (hwaiting : s.waiting = [.distillerCallback url]) {ops : List (Op URL)}
    (hunknown : ¬ MimeKnown ops) :
    (s.outcome utils ops).handling =
      some (if s.mimeType = "application/pdf" then .pdf else .unsupported) := by
  induction ops generalizing s with
  | nil => exact absurd nofun hunknown
  | cons op ops ih =>
    rw [mimeKnown_cons] at hunknown
    cases op with
    | request request =>
      obtain ⟨tasks, history, heq⟩ := request_eq_of_working hworking request
      have hstep : s.step utils (.request request) = { s with tasks, history } := heq
      rw [outcome_cons utils rfl rfl, hstep]
      exact ih hworking hwaiting hunknown
    | cleanUpFiles deleted =>
      rw [outcome_cons utils rfl rfl]
      exact ih hworking hwaiting hunknown
    | distilledPageHasMimeType mimeType => exact absurd rfl hunknown
    | distilledPageRedirectedToURL redirectedURL =>
      rw [outcome_cons utils rfl rfl, ← distilledPageRedirectedToURL_mimeType s redirectedURL]
      refine ih ?_ ?_ hunknown
      · rw [step, distilledPageRedirectedToURL]
        split <;> exact hworking
      · rw [step, distilledPageRedirectedToURL]
        split <;> exact hwaiting
    | resume index answer =>
      cases index with
      | succ index =>
        have hstep : s.step utils (.resume (index + 1) answer) = s :=
          resume_succ hwaiting index answer
        have hreported : s.reported (.resume (index + 1) answer) = none := by
          rw [reported, hwaiting]
          rfl
        have hchosen : s.chosen utils (.resume (index + 1) answer) = none := by
          cases answer <;> simp [chosen, hwaiting]
        rw [outcome_cons utils hreported hchosen, hstep]
        exact ih hworking hwaiting hunknown
      | zero =>
        have hstep : s.step utils (.resume 0 answer) = _ := resume_singleton hwaiting answer
        have hreported : s.reported (.resume 0 answer) = none := by
          rw [reported, hwaiting]
          cases answer <;> rfl
        cases answer with
        | deleted | checked | saved | replied | fetched =>
          rw [outcome_cons utils hreported rfl, hstep]
          exact ih hworking hwaiting hunknown
        | distilled html title =>
          have hempty : html = "" := by simpa [Op.mimeKnown] using hunknown
          rw [outcome, hreported]
          have hchosen : s.chosen utils (.resume 0 (.distilled html title)) =
              some (if s.mimeType = "application/pdf" then .pdf else .unsupported) := by
            simp only [chosen, hwaiting, List.getElem?_cons_zero]
            rw [hstep]
            simp only [URLDownloader.answer, Option.getD_some, distillerCallback, if_pos hempty]
            by_cases hpdf : s.mimeType = "application/pdf"
            · rw [if_pos hpdf, if_pos hpdf]
              rfl
            · rw [if_neg hpdf, if_neg hpdf]
              rfl
          rw [hchosen]
          rfl

theorem handling_begun (hworking : s.working = true) {ops : List (Op URL)}
    (hunknown : ¬ MimeKnown ops) :
    ((s.begun url).outcome utils ops).handling =
      some (if s.mimeType = "application/pdf" then .pdf else .unsupported) := by
  have hbegun : (s.begun url).working = true := hworking
  exact handling_of_not_mimeKnown hbegun rfl hunknown

/-! ### Histories that show -/

/-- A download up to the check whether the directory exists. -/
def untilChecked (url : URL) : List (Op URL) :=
  [.request (.download url), .resume 0 .checked]

/-- A PDF that is not fetched, and the same URL once more. -/
def afterPDF (url : URL) : List (Op URL) :=
  untilChecked url ++ [.resume 0 (.replied []), .distilledPageHasMimeType "application/pdf",
    .resume 0 (.distilled "" ""), .resume 0 (.fetched false ""), .resume 0 (.deleted false),
    .resume 0 (.replied [])] ++ untilChecked url

/-- A page that is saved, and the same URL once more. -/
def afterPage (url : URL) : List (Op URL) :=
  untilChecked url ++ [.resume 0 (.replied []), .resume 0 (.distilled "page" ""),
    .resume 0 (.saved ⟨true, [5], true⟩), .resume 0 (.replied [])] ++ untilChecked url

variable (utils emptyURL url)

theorem run_untilChecked (directories : Finset String) :
    let s := (machine utils).run (new emptyURL directories) (untilChecked url)
    s.waiting = [.downloadURL url (utils.directory url ∈ directories)] ∧ s.mimeType = "" ∧
      s.savedSize = 0 := by
  refine ⟨?_, ?_, ?_⟩ <;> rfl

theorem run_afterPDF :
    let s := (machine utils).run (new emptyURL ∅) (afterPDF url)
    s.waiting = [.downloadURL url false] ∧ s.mimeType = "application/pdf" := by
  simp [afterPDF, untilChecked, run, machine, step, request,
    downloadOfflineURL, record, pushBack, handleNextTask, post, resume, answer,
    downloadURL, distilledPageHasMimeType, distillerCallback, fetchPDFFile,
    onURLFetchComplete, downloadCompletionHandler, deleteFile,
    postDelete, new]

theorem run_afterPage :
    let s := (machine utils).run (new emptyURL ∅) (afterPage url)
    s.waiting = [.downloadURL url true] ∧ s.savedSize = 5 := by
  simp [afterPage, untilChecked, run, machine, step, request,
    downloadOfflineURL, record, pushBack, handleNextTask, post, resume, answer,
    downloadURL, distillerCallback, save, Saving.success,
    downloadCompletionHandler, postDelete, new]

/-- **Outcomes of downloads**: what is reported of a download, and how its page is
handled, is the task's own if and only if its directory did not exist and of a MIME
type and empty HTML a MIME type comes first. -/
theorem ownOutcome_iff (offlineURLExists : Bool) (ops : List (Op URL)) :
    OwnOutcome utils emptyURL url offlineURLExists ops ↔
      offlineURLExists = false ∧ MimeKnown ops := by
  constructor
  · intro hown
    cases offlineURLExists with
    | true =>
      -- the size is that of the page saved before, or zero
      have hfirst := run_untilChecked utils emptyURL url {utils.directory url}
      simp only [Finset.mem_singleton, decide_true] at hfirst
      have hsecond := run_afterPage utils emptyURL url
      have heq := hown _ _ ⟨_, _, rfl⟩ ⟨_, _, rfl⟩ hfirst.1 hsecond.1 [] [] ops rfl
      rw [outcome_exists hfirst.1, outcome_exists hsecond.1, Outcome.mk.injEq, Option.some.injEq]
        at heq
      have hsize := congrArg DownloadCompletion.size heq.2
      rw [completion, completion, hfirst.2.2, hsecond.2] at hsize
      cases hsize
    | false =>
      refine ⟨rfl, ?_⟩
      by_contra hunknown
      -- the MIME type is that of the PDF before, or empty
      have hfirst := run_untilChecked utils emptyURL url ∅
      have hsecond := run_afterPDF utils emptyURL url
      have hreachable : Reachable utils emptyURL
          ((machine utils).run (new emptyURL ∅) (untilChecked url)) := ⟨_, _, rfl⟩
      have hreachable' : Reachable utils emptyURL
          ((machine utils).run (new emptyURL ∅) (afterPDF url)) := ⟨_, _, rfl⟩
      have heq := congrArg Outcome.handling
        (hown _ _ hreachable hreachable' hfirst.1 hsecond.1 [] [] ops rfl)
      rw [outcome_begin hfirst.1, outcome_begin hsecond.1,
        handling_begun (hreachable.working hfirst.1) hunknown,
        handling_begun (hreachable'.working hsecond.1) hunknown, hfirst.2.1, hsecond.2] at heq
      exact absurd heq (by decide)
  · rintro ⟨rfl, hknown⟩
    exact ownOutcome_of_mimeKnown hknown

/-- A PDF that is saved, and the URL after it. -/
def afterOther (url : String) : List (Op String) :=
  untilChecked "a" ++ [.request (.download url), .resume 0 (.replied []),
    .distilledPageHasMimeType "application/pdf", .resume 0 (.distilled "" ""),
    .resume 0 (.fetched true "application/pdf"), .resume 0 (.saved ⟨true, [5], true⟩),
    .resume 0 (.replied []), .resume 0 .checked]

/-- A page that cannot be loaded. -/
def notLoaded : List (Op String) := [.resume 0 (.distilled "" ""), .resume 0 (.deleted false)]

/-- The load of a page fails, and it is handled as a PDF or not, as the page before
was one or not. -/
theorem notLoaded_not_own :
    ¬ OwnOutcome plainUtils "" "b" false notLoaded ∧
    let s := (machine plainUtils).run (new "" ∅) (untilChecked "b")
    let t := (machine plainUtils).run (new "" ∅) (afterOther "b")
    s.waiting = [.downloadURL "b" false] ∧ t.waiting = [.downloadURL "b" false] ∧
      (s.outcome plainUtils (.resume 0 (.replied []) :: notLoaded)).handling =
        some .unsupported ∧
      (t.outcome plainUtils (.resume 0 (.replied []) :: notLoaded)).handling = some .pdf := by
  have hoblivious :
      let s := (machine plainUtils).run (new "" ∅) (untilChecked "b")
      let t := (machine plainUtils).run (new "" ∅) (afterOther "b")
      s.waiting = [.downloadURL "b" false] ∧ t.waiting = [.downloadURL "b" false] ∧
        (s.outcome plainUtils (.resume 0 (.replied []) :: notLoaded)).handling =
          some .unsupported ∧
        (t.outcome plainUtils (.resume 0 (.replied []) :: notLoaded)).handling = some .pdf := by
    decide +kernel
  refine ⟨fun hown => ?_, hoblivious⟩
  obtain ⟨hs, ht, hfirst, hsecond⟩ := hoblivious
  have heq := congrArg Outcome.handling (hown _ _ ⟨_, _, rfl⟩ ⟨_, _, rfl⟩ hs ht [] [] notLoaded rfl)
  rw [hfirst, hsecond] at heq
  cases heq

/-- The load of the main page fails, and that of another page does not count. -/
def otherLoads : List (PageLoad String) :=
  [⟨false, none, true, "text/html", true, none⟩,
    ⟨true, some ⟨false, false, false⟩, false, "text/html", true, some "c"⟩]

/-- The page is handled as the PDF before it. -/
theorem handling_after_loads_otherLoads :
    let s := (machine plainUtils).run (new "" ∅) (afterOther "b")
    let t := (machine plainUtils).run s (.resume 0 (.replied []) ::
      (otherLoads.flatMap (·.onLoadURLDone "b") ++ [.resume 0 (.distilled "" "")]))
    t.mimeType = "application/pdf" ∧ t.waiting = [.onURLFetchComplete "b"] := by
  intro s t
  have hbegins : s.waiting = [.downloadURL "b" false] := by decide +kernel
  obtain ⟨hmime, hdistilled, hwaiting⟩ :=
    handling_after_loads plainUtils hbegins [] otherLoads "" ""
  have hpdf : t.mimeType = "application/pdf" := hmime.trans (by decide +kernel)
  refine ⟨hpdf, hwaiting.trans ?_⟩
  rw [if_neg (by simp), if_pos hpdf, hdistilled]
  rfl

end Outcomes

end URLDownloader

end ChromiumIos
