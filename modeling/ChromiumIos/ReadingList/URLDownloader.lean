import Mathlib.Algebra.Ring.Int.Defs
import Mathlib.Data.Finset.Basic
import ChromiumIos.Lib.Machine

/-!
# `URLDownloader`

`url_downloader.cc`: downloads and deletions of offline pages, one at a time, from a
queue of tasks. What a task waits for (a task of the FILE thread and its reply, the
distiller, the fetcher) is an element of `waiting`, which `resume` answers.

- `request`: `DownloadOfflineURL`, `RemoveOfflineURL` and `CancelDownloadOfflineURL`.
- `handleNextTask`, `answer`: a task is taken up, and what each answer leads to.
- `history`: the requests, and what became of the tasks, in the order of time.
-/

namespace ChromiumIos

open Lib

/-- `reading_list::OfflineFileType`. -/
inductive OfflineFileType
  | html
  | pdf
deriving DecidableEq, Repr

/-- The paths of `components/reading_list/core/offline_url_utils.h`, and
`GURL::is_valid`. A `base::FilePath` is its text. -/
structure OfflineURLUtils (URL : Type) where
  /-- `OfflineURLDirectoryAbsolutePath`. -/
  directory : URL → String
  /-- `OfflinePagePath`. -/
  pagePath : URL → OfflineFileType → String
  isValid : URL → Bool

/-- `URLDownloader::SuccessState`. -/
inductive SuccessState
  | downloadSuccess
  | downloadExists
  | error
deriving DecidableEq, Repr

/-- `URLDownloader::TaskType`. -/
inductive TaskType
  | delete
  | download
deriving DecidableEq, Repr

namespace URLDownloader

abbrev Task (URL : Type) := TaskType × URL

/-- The methods a client calls. -/
inductive Request (URL : Type)
  | download (url : URL)
  | remove (url : URL)
  | cancel (url : URL)
deriving DecidableEq

/-- The arguments of `DownloadCompletionHandler`. -/
structure DownloadEnd (URL : Type) where
  url : URL
  title : String
  offlinePath : String
  success : SuccessState
deriving DecidableEq

/-- The arguments of `download_completion_`. -/
structure DownloadCompletion (URL : Type) where
  url : URL
  distilledURL : URL
  success : SuccessState
  offlinePath : String
  size : Int
  title : String
deriving DecidableEq

/-- What the task at work waits for: a task of the FILE thread, or a callback. -/
inductive Waiting (URL : Type)
  | deleteFile (url : URL)
  | deleteCompletionHandler (url : URL) (success : Bool)
  | pathExists (url : URL)
  | downloadURL (url : URL) (offlineURLExists : Bool)
  | distillerCallback (pageURL : URL)
  | onURLFetchComplete (pdfURL : URL)
  | saveDistilledHTML (url : URL) (title : String)
  | savePDFFile (pdfURL : URL) (path : String)
  | downloadCompletionHandler (ended : DownloadEnd URL)
  | deletePartialDownload (ended : DownloadEnd URL)
  | postDelete (ended : DownloadEnd URL)
deriving DecidableEq

/-- What a task that saves files does on the disk: whether the directory is there in
the end, the sizes that were written, and whether nothing failed. -/
structure Saving where
  directoryCreated : Bool
  sizes : List Int
  succeeded : Bool
deriving DecidableEq, Repr

/-- How a waiting task is answered. A reply may run a callback of the client, which
may make requests. -/
inductive Answer (URL : Type)
  | deleted (success : Bool)
  | checked
  | saved (saving : Saving)
  | replied (requests : List (Request URL))
  | distilled (html title : String)
  | fetched (isSuccess : Bool) (mimeType : String)
deriving DecidableEq

/-- What happened, as far as it is told of. -/
inductive Happening (URL : Type)
  | requested (request : Request URL)
  | queued (task : Task URL)
  | started (task : Task URL)
  | downloadEnded (completion : DownloadCompletion URL)
  | deleteEnded (url : URL) (success : Bool)
deriving DecidableEq

end URLDownloader

open URLDownloader in
structure URLDownloader (URL : Type) where
  tasks : List (URLDownloader.Task URL)
  working : Bool
  originalURL : URL
  distilledURL : URL
  savedSize : Int
  mimeType : String
  /-- Whether `distiller_` is there. -/
  distiller : Bool
  waiting : List (Waiting URL)
  /-- The directories below the offline root. -/
  directories : Finset String
  history : List (Happening URL)
deriving DecidableEq

namespace URLDownloader

variable {URL : Type}

/-- A new downloader, over the directories of an earlier session. -/
def new (emptyURL : URL) (directories : Finset String) : URLDownloader URL where
  tasks := []
  working := false
  originalURL := emptyURL
  distilledURL := emptyURL
  savedSize := 0
  mimeType := ""
  distiller := false
  waiting := []
  directories
  history := []

variable (s : URLDownloader URL)

def post (waiting : Waiting URL) : URLDownloader URL :=
  { s with waiting := s.waiting ++ [waiting] }

def record (happening : Happening URL) : URLDownloader URL :=
  { s with history := s.history ++ [happening] }

/-- `tasks_.push_back`. -/
def pushBack (task : Task URL) : URLDownloader URL :=
  { s.record (.queued task) with tasks := s.tasks ++ [task] }

/-! ## The queue -/

def handleNextTask : URLDownloader URL :=
  if s.working then s
  else
    match s.tasks with
    | [] => s
    | task :: tasks =>
      let s := { s.record (.started task) with working := true, tasks }
      match task with
      | (.delete, url) => s.post (.deleteFile url)
      | (.download, url) => s.post (.pathExists url)

variable [DecidableEq URL] (s : URLDownloader URL)

def cancelDownloadOfflineURL (url : URL) : URLDownloader URL :=
  { s with tasks := s.tasks.filter (· ≠ (.download, url)) }

def removeOfflineURL (url : URL) : URLDownloader URL :=
  ((s.cancelDownloadOfflineURL url).pushBack (.delete, url)).handleNextTask

def downloadOfflineURL (url : URL) : URLDownloader URL :=
  if (.download, url) ∈ s.tasks then s
  else (s.pushBack (.download, url)).handleNextTask

def request (s : URLDownloader URL) (request : Request URL) : URLDownloader URL :=
  match request with
  | .download url => (s.record (.requested request)).downloadOfflineURL url
  | .remove url => (s.record (.requested request)).removeOfflineURL url
  | .cancel url => (s.record (.requested request)).cancelDownloadOfflineURL url

/-! ## The end of a task -/

/-- What `download_completion_` is told. -/
def completion (ended : DownloadEnd URL) : DownloadCompletion URL where
  url := ended.url
  distilledURL := s.distilledURL
  success := ended.success
  offlinePath := ended.offlinePath
  size := s.savedSize
  title := ended.title

/-- `post_delete`. `requests` are those that `download_completion_` makes. -/
def postDelete (ended : DownloadEnd URL) (requests : List (Request URL)) : URLDownloader URL :=
  let s := requests.foldl request (s.record (.downloadEnded (s.completion ended)))
  handleNextTask { s with distiller := false, working := false }

def downloadCompletionHandler (ended : DownloadEnd URL)
    (requests : List (Request URL)) : URLDownloader URL :=
  if ended.success = .error then s.post (.deletePartialDownload ended)
  else s.postDelete ended requests

/-- `DeleteCompletionHandler`. `requests` are those that `delete_completion_` makes. -/
def deleteCompletionHandler (url : URL) (success : Bool)
    (requests : List (Request URL)) : URLDownloader URL :=
  let s := requests.foldl request (s.record (.deleteEnded url success))
  handleNextTask { s with working := false }

/-! ## A download -/

def downloadURL (url : URL) (offlineURLExists : Bool)
    (requests : List (Request URL)) : URLDownloader URL :=
  if offlineURLExists then s.downloadCompletionHandler ⟨url, "", "", .downloadExists⟩ requests
  else
    { s with originalURL := url, distilledURL := url, savedSize := 0, distiller := true }.post
      (.distillerCallback url)

omit [DecidableEq URL] in
/-- `DistilledPageRedirectedToURL`, called by the page of the distiller. -/
def distilledPageRedirectedToURL (redirectedURL : URL) : URLDownloader URL :=
  if s.distiller then { s with distilledURL := redirectedURL } else s

omit [DecidableEq URL] in
/-- `DistilledPageHasMimeType`, called by the page of the distiller. -/
def distilledPageHasMimeType (mimeType : String) : URLDownloader URL :=
  if s.distiller then { s with mimeType } else s

variable (utils : OfflineURLUtils URL)

omit [DecidableEq URL] in
def fetchPDFFile (s : URLDownloader URL) : URLDownloader URL :=
  s.post
    (.onURLFetchComplete (if utils.isValid s.distilledURL then s.distilledURL else s.originalURL))

def distillerCallback (s : URLDownloader URL) (pageURL : URL) (html title : String) :
    URLDownloader URL :=
  if html = "" then
    if s.mimeType = "application/pdf" then s.fetchPDFFile utils
    else s.downloadCompletionHandler ⟨pageURL, "", "", .error⟩ []
  else s.post (.saveDistilledHTML pageURL title)

def onURLFetchComplete (s : URLDownloader URL) (pdfURL : URL) (isSuccess : Bool)
    (mimeType : String) : URLDownloader URL :=
  let path := utils.pagePath s.originalURL .pdf
  if !isSuccess || mimeType ≠ s.mimeType then
    s.downloadCompletionHandler ⟨s.originalURL, "", path, .error⟩ []
  else s.post (.savePDFFile pdfURL path)

omit [DecidableEq URL] in
/-- What `SaveDistilledHTML` and `SavePDFFile` leave behind for the URL. -/
def save (s : URLDownloader URL) (url : URL) (saving : Saving) : URLDownloader URL :=
  if saving.directoryCreated then
    { s with
      directories := insert (utils.directory url) s.directories
      savedSize := s.savedSize + saving.sizes.sum }
  else s

/-- What `SaveDistilledHTML` and `SavePDFFile` return. -/
def Saving.success (saving : Saving) : SuccessState :=
  if saving.directoryCreated && saving.succeeded then .downloadSuccess else .error

omit [DecidableEq URL] in
/-- `base::DeleteFile` of the directory of the URL. -/
def deleteFile (s : URLDownloader URL) (url : URL) (success : Bool) : URLDownloader URL :=
  if success then { s with directories := s.directories.erase (utils.directory url) } else s

/-! ## Runs -/

/-- What an answer to a waiting task leads to. An answer of another kind does not
come. -/
def answer (s : URLDownloader URL) : Waiting URL → Answer URL → Option (URLDownloader URL)
  | .deleteFile url, .deleted success =>
    some ((s.deleteFile utils url success).post (.deleteCompletionHandler url success))
  | .deleteCompletionHandler url success, .replied requests =>
    some (s.deleteCompletionHandler url success requests)
  | .pathExists url, .checked =>
    some (s.post (.downloadURL url (utils.directory url ∈ s.directories)))
  | .downloadURL url offlineURLExists, .replied requests =>
    some (s.downloadURL url offlineURLExists requests)
  | .distillerCallback pageURL, .distilled html title =>
    some (s.distillerCallback utils pageURL html title)
  | .onURLFetchComplete pdfURL, .fetched isSuccess mimeType =>
    some (s.onURLFetchComplete utils pdfURL isSuccess mimeType)
  | .saveDistilledHTML url title, .saved saving =>
    some ((s.save utils url saving).post
      (.downloadCompletionHandler ⟨url, title, utils.pagePath url .html, saving.success⟩))
  | .savePDFFile pdfURL path, .saved saving =>
    some ((s.save utils s.originalURL saving).post
      (.downloadCompletionHandler ⟨pdfURL, "", path, saving.success⟩))
  | .downloadCompletionHandler ended, .replied requests =>
    some (s.downloadCompletionHandler ended requests)
  | .deletePartialDownload ended, .deleted success =>
    some ((s.deleteFile utils ended.url success).post (.postDelete ended))
  | .postDelete ended, .replied requests => some (s.postDelete ended requests)
  | _, _ => none

omit [DecidableEq URL] in
/-- The call of `download_completion_` that an answer leads to. -/
def downloadCompletion (s : URLDownloader URL) :
    Waiting URL → Answer URL → Option (DownloadCompletion URL)
  | .downloadURL url true, .replied _ => some (s.completion ⟨url, "", "", .downloadExists⟩)
  | .downloadCompletionHandler ended, .replied _ =>
    if ended.success = .error then none else some (s.completion ended)
  | .postDelete ended, .replied _ => some (s.completion ended)
  | _, _ => none

def resume (s : URLDownloader URL) (index : Nat) (answer : Answer URL) : URLDownloader URL :=
  match s.waiting[index]? with
  | none => s
  | some waiting =>
    let popped := { s with waiting := s.waiting.eraseIdx index }
    (popped.answer utils waiting answer).getD s

inductive Op (URL : Type)
  | request (request : Request URL)
  | distilledPageRedirectedToURL (redirectedURL : URL)
  | distilledPageHasMimeType (mimeType : String)
  | resume (index : Nat) (answer : Answer URL)
  /-- The owner deletes directories on the FILE thread. -/
  | cleanUpFiles (deleted : Finset String)
deriving DecidableEq

def step (s : URLDownloader URL) : Op URL → URLDownloader URL
  | .request request => s.request request
  | .distilledPageRedirectedToURL redirectedURL => s.distilledPageRedirectedToURL redirectedURL
  | .distilledPageHasMimeType mimeType => s.distilledPageHasMimeType mimeType
  | .resume index answer => s.resume utils index answer
  | .cleanUpFiles deleted => { s with directories := s.directories \ deleted }

/-- Every operation may come in every state. -/
def machine : Machine (URLDownloader URL) (Op URL) where
  Pre _ _ := True
  step := step utils

end URLDownloader

end ChromiumIos
