import ChromiumIos.Lib.Keyed
import ChromiumIos.Lib.Machine

/-!
# `SnapshotCache`

`snapshot_cache.mm`: the color snapshot of a session is held in memory, by an
`LRUCache`, and in a file. Files are read, written and deleted by a task runner, one
task after the other; what was read comes back in a reply and is put in the cache.

- `coherent_step`: only such a reply can put another image in the cache than the one
  that was set last.
- `cache_coherent_iff`: when the cache is coherent in every state of a run.
- `replyIsCurrent_iff`: a reply brings what was current at the request, if no file
  operation fails.
-/

namespace ChromiumIos

open Lib Function Keyed

/-- What is used of `base::MRUCacheBase`. It may evict other entries when one is put. -/
structure MRUCacheBase (Key Value Cache : Type) where
  get : Cache → Key → Cache
  put : Cache → Key → Value → Cache
  peek : Cache → Key → Option Value
  erase : Cache → Key → Cache
  clear : Cache → Cache
  /-- `Get` makes the entry the most recent one. -/
  peek_get : ∀ cache key other, peek (get cache key) other = peek cache other
  peek_put_self : ∀ cache key value, peek (put cache key value) key = some value
  peek_put_other : ∀ cache key value other found, other ≠ key →
    peek (put cache key value) other = some found → peek cache other = some found
  peek_erase_self : ∀ cache key, peek (erase cache key) key = none
  peek_erase_other : ∀ cache key other, other ≠ key →
    peek (erase cache key) other = peek cache other
  peek_clear : ∀ cache key, peek (clear cache) key = none

inductive ImageType
  | color
  | greyscale
deriving DecidableEq, Repr

/-- `kImageTypes`. -/
def kImageTypes : List ImageType := [.color, .greyscale]

/-- A task of `taskRunner_`. -/
inductive SnapshotTask (SessionID UIImage : Type)
  /-- Reads the color image; `requested` records what was current then. -/
  | readImageForSession (sessionID : SessionID) (requested : Option UIImage)
  | writeImage (image : UIImage) (sessionID : SessionID)
  | deleteImages (sessionID : SessionID)
  | purge (liveSessionIds : List SessionID)
  | convertAndSaveGreyImage (sessionID : SessionID) (colorImage : Option UIImage)
deriving DecidableEq, Repr

/-- The reply of a read. -/
structure SnapshotReply (SessionID UIImage : Type) where
  sessionID : SessionID
  image : Option UIImage
  requested : Option UIImage
deriving DecidableEq, Repr

/-- The cache, with the tasks and replies on their way and the files. A file holds
the image that was written to it. -/
structure SnapshotCache (SessionID FilePath UIImage Cache : Type) where
  lruCache : Cache
  pinnedIDs : List SessionID
  backgroundingImageSessionId : Option SessionID
  backgroundingColorImage : Option UIImage
  taskRunner : List (SnapshotTask SessionID UIImage)
  replies : List (SnapshotReply SessionID UIImage)
  files : Keyed FilePath UIImage
  /-- The image last set for a session and not removed since; only recorded. -/
  latest : SessionID → Option UIImage

namespace SnapshotCache

variable {SessionID FilePath UIImage Cache : Type}

section Methods

/-! ## Methods

`lru` is the implementation of the cache, with `nil` as `none`; `imagePath` is
`ImagePath` for the directory and the scale of the snapshots. -/

variable (lru : MRUCacheBase SessionID (Option UIImage) Cache)
  (imagePath : SessionID → ImageType → FilePath)
  (s : SnapshotCache SessionID FilePath UIImage Cache)

/-- `[lruCache_ objectForKey:]`. -/
def objectForKey (sessionID : SessionID) : Option UIImage := (lru.peek s.lruCache sessionID).join

/-- `retrieveImageForSessionID:callback:`, up to the callback. -/
def retrieveImageForSessionID (sessionID : SessionID) :
    SnapshotCache SessionID FilePath UIImage Cache :=
  let image := s.objectForKey lru sessionID
  let s := { s with lruCache := lru.get s.lruCache sessionID }
  match image with
  | some _ => s
  | none =>
    { s with
      taskRunner := s.taskRunner ++ [.readImageForSession sessionID (s.latest sessionID)] }

/-- The second block that `retrieveImageForSessionID:callback:` posts. -/
def runReply : SnapshotCache SessionID FilePath UIImage Cache :=
  match s.replies with
  | [] => s
  | reply :: rest =>
    let s := { s with replies := rest }
    match reply.image with
    | none => s
    | some image => { s with lruCache := lru.put s.lruCache reply.sessionID (some image) }

/-- `setImage:withSessionID:`. -/
def setImage [DecidableEq SessionID] (image : Option UIImage) (sessionID : SessionID) :
    SnapshotCache SessionID FilePath UIImage Cache :=
  match image with
  | none => s
  | some image =>
    { s with
      lruCache := lru.put s.lruCache sessionID (some image)
      taskRunner := s.taskRunner ++ [.writeImage image sessionID]
      latest := update s.latest sessionID (some image) }

def removeImageWithSessionID [DecidableEq SessionID] (sessionID : SessionID) :
    SnapshotCache SessionID FilePath UIImage Cache :=
  { s with
    lruCache := lru.erase s.lruCache sessionID
    taskRunner := s.taskRunner ++ [.deleteImages sessionID]
    latest := update s.latest sessionID none }

/-- `purgeCacheOlderThan:keeping:`; which files are older is seen when it runs. -/
def purgeCache (liveSessionIds : List SessionID) : SnapshotCache SessionID FilePath UIImage Cache :=
  { s with taskRunner := s.taskRunner ++ [.purge liveSessionIds] }

def willBeSavedGreyWhenBackgrounding (sessionID : SessionID) :
    SnapshotCache SessionID FilePath UIImage Cache :=
  { s with
    backgroundingImageSessionId := some sessionID
    backgroundingColorImage := s.objectForKey lru sessionID
    lruCache := lru.get s.lruCache sessionID }

def saveGreyInBackgroundForSessionID [DecidableEq SessionID] (sessionID : SessionID) :
    SnapshotCache SessionID FilePath UIImage Cache :=
  let s :=
    if s.backgroundingColorImage.isSome && s.backgroundingImageSessionId ≠ some sessionID then
      { s with backgroundingImageSessionId := none, backgroundingColorImage := none }
    else s
  { s with
    taskRunner :=
      s.taskRunner ++ [.convertAndSaveGreyImage sessionID s.backgroundingColorImage] }

def handleLowMemory : SnapshotCache SessionID FilePath UIImage Cache :=
  let dictionary := fun sessionID => s.objectForKey lru sessionID
  { s with
    lruCache := s.pinnedIDs.foldl (fun cache sessionID => lru.put cache sessionID
      (dictionary sessionID)) (lru.clear s.lruCache) }

def handleEnterBackground : SnapshotCache SessionID FilePath UIImage Cache :=
  { s with lruCache := lru.clear s.lruCache }

def handleBecomeActive : SnapshotCache SessionID FilePath UIImage Cache :=
  s.pinnedIDs.foldl (retrieveImageForSessionID lru) s

/-- What a task does to the files. `success` tells whether it can access them,
`expired` which files have not been modified after the date of a purge. -/
def fileTask [DecidableEq FilePath] (greyImage : UIImage → UIImage) (success : Bool)
    (expired : FilePath → Bool) :
    SnapshotTask SessionID UIImage → Keyed FilePath UIImage
  | .readImageForSession _ _ => s.files
  | .writeImage image sessionID =>
    if success then s.files.set (imagePath sessionID .color) image else s.files
  | .deleteImages sessionID =>
    if success then
      kImageTypes.foldl (fun files imageType => files.erase (imagePath sessionID imageType)) s.files
    else s.files
  | .purge liveSessionIds =>
    let filesToKeep := liveSessionIds.flatMap fun sessionID => kImageTypes.map (imagePath sessionID)
    (s.files.keys.filter fun file => file ∉ filesToKeep ∧ expired file).foldl .erase s.files
  | .convertAndSaveGreyImage sessionID colorImage =>
    if success then
      match colorImage.or (s.files.get? (imagePath sessionID .color)) with
      | none => s.files
      | some colorImage =>
        s.files.set (imagePath sessionID .greyscale) (greyImage colorImage)
    else s.files

/-- The task runner runs its first task. -/
def runTask [DecidableEq FilePath] (greyImage : UIImage → UIImage) (success : Bool)
    (expired : FilePath → Bool) :
    SnapshotCache SessionID FilePath UIImage Cache :=
  match s.taskRunner with
  | [] => s
  | task :: rest =>
    let reply :=
      match task with
      | .readImageForSession sessionID requested =>
        [⟨sessionID, if success then s.files.get? (imagePath sessionID .color) else none,
          requested⟩]
      | _ => []
    { s with
      taskRunner := rest
      files := s.fileTask imagePath greyImage success expired task
      replies := s.replies ++ reply }

end Methods

/-! ## Runs -/

inductive Op (SessionID FilePath UIImage : Type)
  | retrieveImageForSessionID (sessionID : SessionID)
  | setImage (image : Option UIImage) (sessionID : SessionID)
  | removeImageWithSessionID (sessionID : SessionID)
  | purgeCache (liveSessionIds : List SessionID)
  | willBeSavedGreyWhenBackgrounding (sessionID : SessionID)
  | saveGreyInBackgroundForSessionID (sessionID : SessionID)
  | setPinnedIDs (pinnedIDs : List SessionID)
  | handleLowMemory
  | handleEnterBackground
  | handleBecomeActive
  | runTask (success : Bool) (expired : FilePath → Bool)
  | runReply

section Runs

variable [DecidableEq SessionID] [DecidableEq FilePath]
  (lru : MRUCacheBase SessionID (Option UIImage) Cache)
  (imagePath : SessionID → ImageType → FilePath) (greyImage : UIImage → UIImage)

/-- A new cache; the files are those of earlier sessions. -/
def init (cache : Cache) (files : Keyed FilePath UIImage) :
    SnapshotCache SessionID FilePath UIImage Cache where
  lruCache := lru.clear cache
  pinnedIDs := []
  backgroundingImageSessionId := none
  backgroundingColorImage := none
  taskRunner := []
  replies := []
  files
  latest sessionID := files.get? (imagePath sessionID .color)

def step (s : SnapshotCache SessionID FilePath UIImage Cache) :
    Op SessionID FilePath UIImage → SnapshotCache SessionID FilePath UIImage Cache
  | .retrieveImageForSessionID sessionID => s.retrieveImageForSessionID lru sessionID
  | .setImage image sessionID => s.setImage lru image sessionID
  | .removeImageWithSessionID sessionID => s.removeImageWithSessionID lru sessionID
  | .purgeCache liveSessionIds => s.purgeCache liveSessionIds
  | .willBeSavedGreyWhenBackgrounding sessionID => s.willBeSavedGreyWhenBackgrounding lru sessionID
  | .saveGreyInBackgroundForSessionID sessionID => s.saveGreyInBackgroundForSessionID sessionID
  | .setPinnedIDs pinnedIDs => { s with pinnedIDs }
  | .handleLowMemory => s.handleLowMemory lru
  | .handleEnterBackground => s.handleEnterBackground lru
  | .handleBecomeActive => s.handleBecomeActive lru
  | .runTask success expired => s.runTask imagePath greyImage success expired
  | .runReply => s.runReply lru

/-- A task or a reply runs once it was posted. -/
def Op.Pre (s : SnapshotCache SessionID FilePath UIImage Cache) :
    Op SessionID FilePath UIImage → Prop
  | .runTask _ _ => s.taskRunner ≠ []
  | .runReply => s.replies ≠ []
  | _ => True

instance (s : SnapshotCache SessionID FilePath UIImage Cache) :
    ∀ op : Op SessionID FilePath UIImage, Decidable (op.Pre s)
  | .runTask .. | .runReply => instDecidableNot
  | .retrieveImageForSessionID _ | .setImage .. | .removeImageWithSessionID _ | .purgeCache _
  | .willBeSavedGreyWhenBackgrounding _ | .saveGreyInBackgroundForSessionID _ | .setPinnedIDs _
  | .handleLowMemory | .handleEnterBackground | .handleBecomeActive =>
    instDecidableTrue

abbrev machine : Machine (SnapshotCache SessionID FilePath UIImage Cache)
    (Op SessionID FilePath UIImage) where
  Pre s op := op.Pre s
  step s op := s.step lru imagePath greyImage op

end Runs

/-- The image in memory is the one that was set last, and none is there after a
removal. -/
def Coherent (lru : MRUCacheBase SessionID (Option UIImage) Cache)
    (s : SnapshotCache SessionID FilePath UIImage Cache) : Prop :=
  ∀ sessionID image, s.objectForKey lru sessionID = some image → s.latest sessionID = some image

/-- A reply that found an image found the one that is current for its session. -/
def ReplyIsCurrent (s : SnapshotCache SessionID FilePath UIImage Cache) :
    Op SessionID FilePath UIImage → Prop
  | .runReply => ∀ reply ∈ s.replies.head?, ∀ image ∈ reply.image,
      s.latest reply.sessionID = some image
  | _ => True

/-- When a reply found an image, no other image was set for its session, and none was
removed, since it was requested. -/
def Undisturbed (s : SnapshotCache SessionID FilePath UIImage Cache) :
    Op SessionID FilePath UIImage → Prop
  | .runReply => ∀ reply ∈ s.replies.head?, reply.image ≠ none →
      s.latest reply.sessionID = reply.requested
  | _ => True

instance [DecidableEq UIImage] (s : SnapshotCache SessionID FilePath UIImage Cache) :
    ∀ op : Op SessionID FilePath UIImage, Decidable (ReplyIsCurrent s op)
  | .runReply => inferInstanceAs (Decidable (∀ reply ∈ s.replies.head?, ∀ image ∈ reply.image,
      s.latest reply.sessionID = some image))
  | .retrieveImageForSessionID _ | .setImage .. | .removeImageWithSessionID _ | .purgeCache _
  | .willBeSavedGreyWhenBackgrounding _ | .saveGreyInBackgroundForSessionID _ | .setPinnedIDs _
  | .handleLowMemory | .handleEnterBackground | .handleBecomeActive | .runTask .. =>
    instDecidableTrue

/-- The file operations succeed. -/
def FilesAccessible (_ : SnapshotCache SessionID FilePath UIImage Cache) :
    Op SessionID FilePath UIImage → Prop
  | .runTask success _ => success = true
  | _ => True

/-! ## The cache -/

section Steps

variable {lru : MRUCacheBase SessionID (Option UIImage) Cache}
  {imagePath : SessionID → ImageType → FilePath} {greyImage : UIImage → UIImage}
  {s s' : SnapshotCache SessionID FilePath UIImage Cache}

/-- What is held in memory is as before, or less. -/
theorem Coherent.of_held (h : s.Coherent lru) (hlatest : s'.latest = s.latest)
    (hheld : ∀ sessionID image, s'.objectForKey lru sessionID = some image →
      s.objectForKey lru sessionID = some image) : s'.Coherent lru := by
  intro sessionID image himage
  rw [hlatest]
  exact h sessionID image (hheld sessionID image himage)

theorem objectForKey_put_self (cache : Cache) (sessionID : SessionID) (image : Option UIImage) :
    (lru.peek (lru.put cache sessionID image) sessionID).join = image := by
  rw [lru.peek_put_self]
  rfl

theorem objectForKey_put_other {cache : Cache} {sessionID other : SessionID}
    {image : Option UIImage} {found : UIImage} (hne : other ≠ sessionID)
    (hfound : (lru.peek (lru.put cache sessionID image) other).join = some found) :
    (lru.peek cache other).join = some found := by
  rw [Option.join_eq_some_iff] at hfound ⊢
  exact lru.peek_put_other _ _ _ _ _ hne hfound

theorem Coherent.retrieve (h : s.Coherent lru) (sessionID : SessionID) :
    (s.retrieveImageForSessionID lru sessionID).Coherent lru := by
  refine h.of_held ?_ fun other image himage => ?_
  · rw [retrieveImageForSessionID]
    dsimp only
    split <;> rfl
  · rw [retrieveImageForSessionID] at himage
    dsimp only at himage
    split at himage
    · rwa [objectForKey, lru.peek_get] at himage
    · rwa [objectForKey, lru.peek_get] at himage

/-- What is put for a session is what was set last for it. -/
theorem Coherent.put [DecidableEq SessionID] (h : s.Coherent lru) {sessionID : SessionID}
    {image : UIImage}
    (hlatest : s'.latest = update s.latest sessionID (some image))
    (hcache : s'.lruCache = lru.put s.lruCache sessionID (some image)) : s'.Coherent lru := by
  intro other found hfound
  rw [objectForKey, hcache] at hfound
  rw [hlatest]
  by_cases heq : other = sessionID
  · subst heq
    rw [objectForKey_put_self] at hfound
    rw [update_self, hfound]
  · rw [update_of_ne heq]
    exact h other found (objectForKey_put_other heq hfound)

theorem Coherent.removeImage [DecidableEq SessionID] (h : s.Coherent lru)
    (sessionID : SessionID) :
    (s.removeImageWithSessionID lru sessionID).Coherent lru := by
  intro other found hfound
  rw [removeImageWithSessionID, objectForKey] at hfound
  rw [removeImageWithSessionID]
  dsimp only at hfound ⊢
  by_cases heq : other = sessionID
  · subst heq
    rw [lru.peek_erase_self] at hfound
    cases hfound
  · rw [lru.peek_erase_other _ _ _ heq] at hfound
    rw [update_of_ne heq]
    exact h other found hfound

/-- What is put back after the cache is cleared was there before. -/
theorem Coherent.handleLowMemory (h : s.Coherent lru) : (s.handleLowMemory lru).Coherent lru := by
  refine h.of_held rfl ?_
  have hfold : ∀ (pinnedIDs : List SessionID) (cache : Cache),
      (∀ sessionID image, (lru.peek cache sessionID).join = some image →
        s.objectForKey lru sessionID = some image) →
      ∀ sessionID image, (lru.peek (pinnedIDs.foldl (fun cache sessionID =>
        lru.put cache sessionID (s.objectForKey lru sessionID)) cache) sessionID).join =
          some image → s.objectForKey lru sessionID = some image := by
    intro pinnedIDs
    induction pinnedIDs with
    | nil => exact fun _ hcache => hcache
    | cons pinned pinnedIDs ih =>
      intro cache hcache
      refine ih _ fun sessionID image himage => ?_
      by_cases heq : sessionID = pinned
      · subst heq
        rwa [objectForKey_put_self] at himage
      · exact hcache sessionID image (objectForKey_put_other heq himage)
  refine hfold s.pinnedIDs _ fun sessionID image himage => ?_
  rw [lru.peek_clear] at himage
  cases himage

theorem Coherent.handleBecomeActive (h : s.Coherent lru) :
    (s.handleBecomeActive lru).Coherent lru := by
  rw [SnapshotCache.handleBecomeActive]
  generalize s.pinnedIDs = pinnedIDs
  induction pinnedIDs generalizing s with
  | nil => exact h
  | cons pinned pinnedIDs ih => exact ih (h.retrieve pinned)

theorem Coherent.runReply [DecidableEq SessionID] (h : s.Coherent lru)
    (hcurrent : ∀ reply ∈ s.replies.head?, ∀ image ∈ reply.image,
      s.latest reply.sessionID = some image) : (s.runReply lru).Coherent lru := by
  rw [SnapshotCache.runReply]
  cases hreplies : s.replies with
  | nil => exact h
  | cons reply rest =>
    dsimp only
    split
    · exact h
    · next image himage =>
      have hlatest := hcurrent reply (by rw [hreplies]; rfl) image himage
      have hsame : s.latest = update s.latest reply.sessionID (some image) := by
        rw [← hlatest, update_eq_self]
      exact h.put hsame rfl

variable [DecidableEq SessionID] [DecidableEq FilePath]

theorem coherent_step (h : s.Coherent lru) {op : Op SessionID FilePath UIImage}
    (hcurrent : ReplyIsCurrent s op) : (s.step lru imagePath greyImage op).Coherent lru := by
  cases op with
  | retrieveImageForSessionID sessionID => exact h.retrieve sessionID
  | setImage image sessionID =>
    cases image with
    | none => exact h
    | some image => exact h.put rfl rfl
  | removeImageWithSessionID sessionID => exact h.removeImage sessionID
  | purgeCache liveSessionIds => exact h
  | willBeSavedGreyWhenBackgrounding sessionID =>
    refine h.of_held rfl fun other image himage => ?_
    rwa [step, willBeSavedGreyWhenBackgrounding, objectForKey, lru.peek_get] at himage
  | saveGreyInBackgroundForSessionID sessionID =>
    rw [step, saveGreyInBackgroundForSessionID]
    split <;> exact h
  | setPinnedIDs pinnedIDs => exact h
  | handleLowMemory => exact h.handleLowMemory
  | handleEnterBackground =>
    intro sessionID image himage
    rw [step, handleEnterBackground, objectForKey, lru.peek_clear] at himage
    cases himage
  | handleBecomeActive => exact h.handleBecomeActive
  | runTask success expired =>
    rw [step, runTask]
    split <;> exact h
  | runReply => exact h.runReply hcurrent

/-- A reply that brings another image than the current one puts it in the cache. -/
theorem not_coherent_step {op : Op SessionID FilePath UIImage}
    (hcurrent : ¬ReplyIsCurrent s op) : ¬(s.step lru imagePath greyImage op).Coherent lru := by
  intro h
  cases op with
  | runReply =>
    simp only [ReplyIsCurrent, not_forall] at hcurrent
    obtain ⟨reply, hreply, image, himage, hne⟩ := hcurrent
    obtain ⟨rest, hreplies⟩ : ∃ rest, s.replies = reply :: rest := by
      cases hall : s.replies with
      | nil =>
        rw [hall] at hreply
        cases hreply
      | cons first rest =>
        rw [hall] at hreply
        cases hreply
        exact ⟨rest, rfl⟩
    have himage : reply.image = some image := himage
    have hstep : s.step lru imagePath greyImage .runReply =
        { s with
          replies := rest
          lruCache := lru.put s.lruCache reply.sessionID (some image) } := by
      rw [step, runReply, hreplies]
      dsimp only
      rw [himage]
    rw [hstep] at h
    exact hne (h reply.sessionID image (objectForKey_put_self ..))
  | _ => exact hcurrent trivial

end Steps

/-! ## The files

What the tasks on their way will leave for a session is what is current for it. -/

section Files

variable [DecidableEq SessionID]

/-- What a task leaves for a session, if its file operations succeed. -/
def written (before : SessionID → Option UIImage) :
    SnapshotTask SessionID UIImage → SessionID → Option UIImage
  | .writeImage image sessionID => update before sessionID (some image)
  | .deleteImages sessionID => update before sessionID none
  | _ => before

/-- Every read is for what the tasks before it leave. -/
def ReadsWritten (before : SessionID → Option UIImage) :
    List (SnapshotTask SessionID UIImage) → Prop
  | [] => True
  | task :: rest =>
    (∀ sessionID requested, task = .readImageForSession sessionID requested →
      requested = before sessionID) ∧ ReadsWritten (written before task) rest

theorem readsWritten_append {before : SessionID → Option UIImage}
    {tasks : List (SnapshotTask SessionID UIImage)} {task : SnapshotTask SessionID UIImage}
    (h : ReadsWritten before tasks) (htask : ∀ sessionID requested,
      task = .readImageForSession sessionID requested →
        requested = tasks.foldl written before sessionID) :
    ReadsWritten before (tasks ++ [task]) := by
  induction tasks generalizing before with
  | nil => exact ⟨htask, trivial⟩
  | cons first rest ih => exact ⟨h.1, ih h.2 htask⟩

variable [DecidableEq FilePath] {lru : MRUCacheBase SessionID (Option UIImage) Cache}
  {imagePath : SessionID → ImageType → FilePath} {greyImage : UIImage → UIImage}
  {s s' : SnapshotCache SessionID FilePath UIImage Cache} {before : SessionID → Option UIImage}

/-- The file of a session, unless it was purged, is what was written last; the tasks on
their way bring it up to date. -/
structure InOrder (imagePath : SessionID → ImageType → FilePath)
    (s : SnapshotCache SessionID FilePath UIImage Cache) (before : SessionID → Option UIImage) :
    Prop where
  files : ∀ sessionID, s.files.get? (imagePath sessionID .color) = none ∨
    s.files.get? (imagePath sessionID .color) = before sessionID
  latest : s.taskRunner.foldl written before = s.latest
  reads : ReadsWritten before s.taskRunner
  replies : ∀ reply ∈ s.replies, reply.image = none ∨ reply.image = reply.requested

theorem InOrder.post (h : InOrder imagePath s before) {task : SnapshotTask SessionID UIImage}
    (hfiles : s'.files = s.files) (hreplies : s'.replies = s.replies)
    (htasks : s'.taskRunner = s.taskRunner ++ [task]) (hlatest : s'.latest = written s.latest task)
    (hread : ∀ sessionID requested, task = .readImageForSession sessionID requested →
      requested = s.latest sessionID) : InOrder imagePath s' before := by
  refine ⟨hfiles ▸ h.files, ?_, ?_, hreplies ▸ h.replies⟩
  · rw [htasks, List.foldl_append, h.latest, hlatest]
    rfl
  · rw [htasks]
    refine readsWritten_append h.reads ?_
    rw [h.latest]
    exact hread

theorem InOrder.congr (h : InOrder imagePath s before) (hfiles : s'.files = s.files)
    (hreplies : s'.replies = s.replies) (htasks : s'.taskRunner = s.taskRunner)
    (hlatest : s'.latest = s.latest) : InOrder imagePath s' before :=
  ⟨hfiles ▸ h.files, by rw [htasks, hlatest]; exact h.latest, htasks ▸ h.reads,
    hreplies ▸ h.replies⟩

theorem InOrder.retrieve (h : InOrder imagePath s before) (sessionID : SessionID) :
    InOrder imagePath (s.retrieveImageForSessionID lru sessionID) before := by
  rw [retrieveImageForSessionID]
  dsimp only
  split
  · exact h.congr rfl rfl rfl rfl
  · refine h.post rfl rfl rfl rfl ?_
    intro other requested heq
    cases heq
    rfl

theorem InOrder.handleBecomeActive (h : InOrder imagePath s before) :
    InOrder imagePath (s.handleBecomeActive lru) before := by
  rw [SnapshotCache.handleBecomeActive]
  generalize s.pinnedIDs = pinnedIDs
  induction pinnedIDs generalizing s with
  | nil => exact h
  | cons pinned pinnedIDs ih => exact ih (h.retrieve pinned)

section

variable
  (hpath : ∀ sessionID other imageType, imagePath sessionID .color = imagePath other imageType → sessionID = other ∧ imageType = .color)
include hpath

/-- What a task makes of the color image of a session. -/
theorem get?_fileTask (hfiles : ∀ sessionID, s.files.get? (imagePath sessionID .color) = none ∨
      s.files.get? (imagePath sessionID .color) = before sessionID)
    (expired : FilePath → Bool) (task : SnapshotTask SessionID UIImage) (sessionID : SessionID) :
    (s.fileTask imagePath greyImage true expired task).get? (imagePath sessionID .color) = none ∨
      (s.fileTask imagePath greyImage true expired task).get? (imagePath sessionID .color) =
        written before task sessionID := by
  cases task with
  | readImageForSession other requested => exact hfiles sessionID
  | writeImage image other =>
    rw [fileTask, if_pos rfl, get?_set, written]
    by_cases heq : sessionID = other
    · subst heq
      rw [if_pos rfl, update_self]
      exact .inr rfl
    · rw [if_neg fun hsame => heq (hpath _ _ _ hsame).1, update_of_ne heq]
      exact hfiles sessionID
  | deleteImages other =>
    have herase : s.fileTask imagePath greyImage true expired (.deleteImages other) =
        [imagePath other .color, imagePath other .greyscale].foldl erase s.files := rfl
    rw [herase, get?_foldl_erase, written]
    split
    · exact .inl rfl
    · next hkept =>
      have hne : sessionID ≠ other := by
        rintro rfl
        exact hkept List.mem_cons_self
      rw [update_of_ne hne]
      exact hfiles sessionID
  | purge liveSessionIds =>
    rw [fileTask, get?_foldl_erase]
    split
    · exact .inl rfl
    · exact hfiles sessionID
  | convertAndSaveGreyImage other colorImage =>
    rw [fileTask, if_pos rfl]
    split
    · exact hfiles sessionID
    · have hgrey : imagePath sessionID .color ≠ imagePath other .greyscale :=
        fun hsame => ImageType.noConfusion (hpath _ _ _ hsame).2
      rw [get?_set, if_neg hgrey]
      exact hfiles sessionID

theorem InOrder.runTask (h : InOrder imagePath s before) (expired : FilePath → Bool) :
    ∃ before, InOrder imagePath (s.runTask imagePath greyImage true expired) before := by
  cases htasks : s.taskRunner with
  | nil =>
    have hsame : s.runTask imagePath greyImage true expired = s := by
      rw [SnapshotCache.runTask, htasks]
    rw [hsame]
    exact ⟨before, h⟩
  | cons task rest =>
    have hlatest := h.latest
    have hreads := h.reads
    rw [htasks] at hlatest hreads
    refine ⟨written before task, ?_⟩
    rw [SnapshotCache.runTask, htasks]
    refine ⟨get?_fileTask hpath h.files expired task, hlatest, hreads.2, ?_⟩
    intro reply hreply
    obtain hreply | hreply := List.mem_append.1 hreply
    · exact h.replies reply hreply
    · cases task with
      | readImageForSession sessionID requested =>
        rw [List.mem_singleton.1 hreply]
        -- the file is what was current at the request, or it was purged
        rw [hreads.1 sessionID requested rfl]
        exact h.files sessionID
      | _ => cases hreply

theorem InOrder.step (h : InOrder imagePath s before) {op : Op SessionID FilePath UIImage}
    (haccess : FilesAccessible s op) :
    ∃ before, InOrder imagePath (s.step lru imagePath greyImage op) before := by
  cases op with
  | retrieveImageForSessionID sessionID => exact ⟨before, h.retrieve sessionID⟩
  | setImage image sessionID =>
    cases image with
    | none => exact ⟨before, h⟩
    | some image => exact ⟨before, h.post rfl rfl rfl rfl nofun⟩
  | removeImageWithSessionID sessionID => exact ⟨before, h.post rfl rfl rfl rfl nofun⟩
  | purgeCache liveSessionIds => exact ⟨before, h.post rfl rfl rfl rfl nofun⟩
  | willBeSavedGreyWhenBackgrounding sessionID => exact ⟨before, h.congr rfl rfl rfl rfl⟩
  | saveGreyInBackgroundForSessionID sessionID =>
    rw [SnapshotCache.step, saveGreyInBackgroundForSessionID]
    split
    · exact ⟨before, h.post rfl rfl rfl rfl nofun⟩
    · exact ⟨before, h.post rfl rfl rfl rfl nofun⟩
  | setPinnedIDs pinnedIDs => exact ⟨before, h.congr rfl rfl rfl rfl⟩
  | handleLowMemory => exact ⟨before, h.congr rfl rfl rfl rfl⟩
  | handleEnterBackground => exact ⟨before, h.congr rfl rfl rfl rfl⟩
  | handleBecomeActive => exact ⟨before, h.handleBecomeActive⟩
  | runTask success expired =>
    have hsuccess : success = true := haccess
    subst hsuccess
    exact h.runTask hpath expired
  | runReply =>
    refine ⟨before, ?_⟩
    rw [SnapshotCache.step, SnapshotCache.runReply]
    split
    · exact h
    · next reply rest hreplies =>
      have hrest : ∀ other ∈ rest, other.image = none ∨ other.image = other.requested :=
        fun other hother => h.replies other (hreplies ▸ List.mem_cons_of_mem reply hother)
      dsimp only
      split
      · exact ⟨h.files, h.latest, h.reads, hrest⟩
      · exact ⟨h.files, h.latest, h.reads, hrest⟩

end

theorem replyIsCurrent_iff_undisturbed (h : InOrder imagePath s before)
    (op : Op SessionID FilePath UIImage) : ReplyIsCurrent s op ↔ Undisturbed s op := by
  cases op with
  | runReply =>
    refine forall_congr' fun reply => forall_congr' fun hreply => ?_
    have hmem : reply ∈ s.replies := List.mem_of_mem_head? hreply
    cases himage : reply.image with
    | none => exact iff_of_true nofun fun hne => absurd rfl hne
    | some image =>
      have hrequested : reply.requested = some image := by
        obtain hnone | hsame := h.replies reply hmem
        · cases hnone.symm.trans himage
        · exact hsame.symm.trans himage
      rw [hrequested]
      constructor
      · intro hcurrent _
        exact hcurrent image rfl
      · intro hundisturbed found hfound
        cases hfound
        exact hundisturbed nofun
  | _ => exact Iff.rfl

end Files

/-- The cache is coherent in every state of a run if and only if every reply that
found an image found the current one. If the file operations succeed, this is so when
the session was not set or removed between the request and the reply. -/
theorem cache_coherent_iff [DecidableEq SessionID] [DecidableEq FilePath]
    (lru : MRUCacheBase SessionID (Option UIImage) Cache)
    (imagePath : SessionID → ImageType → FilePath) (greyImage : UIImage → UIImage) (cache : Cache)
    (files : Keyed FilePath UIImage) (ops : List (Op SessionID FilePath UIImage))
    (hlegal : (machine lru imagePath greyImage).Legal (init lru imagePath cache files) ops) :
    ((∀ before, before <+: ops →
      ((machine lru imagePath greyImage).run (init lru imagePath cache files) before).Coherent
        lru) ↔
        (machine lru imagePath greyImage).Along ReplyIsCurrent (init lru imagePath cache files)
          ops) ∧
    ((∀ sessionID other imageType, imagePath sessionID .color = imagePath other imageType →
        sessionID = other ∧ imageType = .color) →
      (machine lru imagePath greyImage).Along FilesAccessible (init lru imagePath cache files) ops →
        ((machine lru imagePath greyImage).Along ReplyIsCurrent (init lru imagePath cache files)
            ops ↔
          (machine lru imagePath greyImage).Along Undisturbed (init lru imagePath cache files)
            ops)) := by
  constructor
  · refine Machine.always_iff_along (I := Coherent lru) (fun _ h => h)
      (fun _ op h _ hcurrent => coherent_step h hcurrent)
      (fun _ op _ _ hcurrent => not_coherent_step hcurrent) ?_ hlegal
    intro sessionID image himage
    rw [init, objectForKey, lru.peek_clear] at himage
    cases himage
  · intro hpath haccess
    refine Machine.along_congr (I := fun s => ∃ before, InOrder imagePath s before)
      (C := FilesAccessible) ?_ ?_ ⟨_, fun _ => .inr rfl, rfl, trivial, nofun⟩ haccess
    · rintro s op ⟨before, h⟩ _
      exact replyIsCurrent_iff_undisturbed h op
    · rintro s op ⟨before, h⟩ hop
      exact h.step hpath hop

/-! ## A cache of six entries -/

/-- `kLRUCacheMaxCapacity`. -/
def kLRUCacheMaxCapacity : Nat := 6

theorem lookup_of_lookup_take {K V : Type} [DecidableEq K] {l : List (K × V)} {n : Nat} {key : K}
    {value : V} (h : (l.take n).lookup key = some value) : l.lookup key = some value := by
  induction l generalizing n with
  | nil =>
    rw [List.take_nil] at h
    exact h
  | cons entry l ih =>
    cases n with
    | zero => cases h
    | succ n =>
      rw [List.take_succ_cons, List.lookup_cons] at h
      rw [List.lookup_cons]
      split
      · next hkey =>
        rw [hkey] at h
        exact h
      · next hkey =>
        rw [hkey] at h
        exact ih h

/-- The entries, the most recent one first. -/
def mruEntries (Key Value : Type) [DecidableEq Key] : MRUCacheBase Key Value (Keyed Key Value) where
  get cache key :=
    match cache.get? key with
    | none => cache
    | some value => (cache.erase key).set key value
  put cache key value :=
    set ⟨(cache.erase key).entries.take (kLRUCacheMaxCapacity - 1)⟩ key value
  peek := get?
  erase := erase
  clear _ := .empty
  peek_get cache key other := by
    split
    · rfl
    · next value hvalue =>
      rw [get?_set, get?_erase]
      split
      · next heq => rw [heq, hvalue]
      · rfl
  peek_put_self cache key value := by rw [get?_set, if_pos rfl]
  peek_put_other cache key value other found hne hfound := by
    rw [get?_set, if_neg hne] at hfound
    have hbefore := lookup_of_lookup_take hfound
    have hget : (cache.erase key).get? other = some found := hbefore
    rwa [get?_erase, if_neg hne] at hget
  peek_erase_self cache key := by rw [get?_erase, if_pos rfl]
  peek_erase_other cache key other hne := by rw [get?_erase, if_neg hne]
  peek_clear _ _ := rfl

/-- `ImagePath` at scale 1. -/
def imageFile (sessionID : String) : ImageType → String
  | .color => sessionID ++ ".jpg"
  | .greyscale => sessionID ++ "Grey.jpg"

/-- The files of two tabs. -/
def tabFile : Bool → ImageType → String
  | false => imageFile "a"
  | true => imageFile "b"

/-- A snapshot is read back after the cache was emptied. -/
def readBackOps : List (Op Bool String Nat) :=
  [.setImage (some 1) false, .runTask true fun _ => false, .handleEnterBackground,
    .retrieveImageForSessionID false, .runTask true fun _ => false, .runReply]

theorem cache_coherent_read_back :
    ((machine (mruEntries Bool (Option Nat)) tabFile id).run
      (init (mruEntries Bool (Option Nat)) tabFile .empty .empty) readBackOps).Coherent
        (mruEntries Bool (Option Nat)) ∧
    ((machine (mruEntries Bool (Option Nat)) tabFile id).Along ReplyIsCurrent
        (init (mruEntries Bool (Option Nat)) tabFile .empty .empty) readBackOps ↔
      (machine (mruEntries Bool (Option Nat)) tabFile id).Along Undisturbed
        (init (mruEntries Bool (Option Nat)) tabFile .empty .empty) readBackOps) := by
  obtain ⟨hcoherent, hundisturbed⟩ :=
    cache_coherent_iff (mruEntries Bool (Option Nat)) tabFile id .empty .empty readBackOps
      (by decide)
  constructor
  · refine hcoherent.2 ?_ readBackOps (List.prefix_refl _)
    show (machine (mruEntries Bool (Option Nat)) tabFile id).Along ReplyIsCurrent _ _
    decide
  · refine hundisturbed ?_ ?_
    · intro sessionID other imageType
      cases sessionID <;> cases other <;> cases imageType <;> decide
    · exact ⟨trivial, rfl, trivial, trivial, rfl, trivial, trivial⟩

/-- Another snapshot is set while the old one is being read. -/
def staleReadOps : List (Op String String Nat) :=
  [.setImage (some 1) "a", .runTask true fun _ => false, .handleEnterBackground,
    .retrieveImageForSessionID "a", .runTask true fun _ => false, .setImage (some 2) "a", .runReply]

theorem stale_read_enters_cache :
    (machine (mruEntries String (Option Nat)) imageFile id).Legal
        (init (mruEntries String (Option Nat)) imageFile .empty .empty) staleReadOps ∧
      ((machine (mruEntries String (Option Nat)) imageFile id).run
        (init (mruEntries String (Option Nat)) imageFile .empty .empty) staleReadOps).objectForKey
          (mruEntries String (Option Nat)) "a" = some 1 ∧
      ((machine (mruEntries String (Option Nat)) imageFile id).run
        (init (mruEntries String (Option Nat)) imageFile .empty .empty) staleReadOps).latest "a" =
          some 2 ∧
      ¬((machine (mruEntries String (Option Nat)) imageFile id).run
        (init (mruEntries String (Option Nat)) imageFile .empty .empty) staleReadOps).Coherent
          (mruEntries String (Option Nat)) := by
  have hheld : ((machine (mruEntries String (Option Nat)) imageFile id).run
      (init (mruEntries String (Option Nat)) imageFile .empty .empty) staleReadOps).objectForKey
        (mruEntries String (Option Nat)) "a" = some 1 := by decide
  have hlatest : ((machine (mruEntries String (Option Nat)) imageFile id).run
      (init (mruEntries String (Option Nat)) imageFile .empty .empty) staleReadOps).latest "a" =
        some 2 := by decide
  refine ⟨?_, hheld, hlatest, fun h => ?_⟩
  · decide
  · have hcurrent := h "a" 1 hheld
    rw [hlatest] at hcurrent
    cases hcurrent

end SnapshotCache

end ChromiumIos
