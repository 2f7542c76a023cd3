import Mathlib.Data.List.Sort
import ChromiumIos.Lib.Machine

/-!
# `ReadingListMediator`

`reading_list_mediator.mm`: when the reading list model changes, the mediator compares
the items on the screen with those the model would fill it with. It updates the items
that show the same URL in place, and reloads the screen only if that leaves a difference.

- `isDifferentOfArray_iff`: what the comparison takes for a difference.
- `shows_step_iff`: what the screen shows after a notification.
- `shows_iff`: a whole run is shown if and only if no notification finds two entries
  confused.
-/

namespace ChromiumIos

open Lib

namespace ReadingListMediator

/-- The states of `ReadingListEntry::DistillationState`. -/
inductive DistillationState
  | waiting
  | processing
  | processed
  | willRetry
  | distillationError
deriving DecidableEq, Repr

inductive ReadingListUIDistillationStatus
  | pending
  | success
  | failure
deriving DecidableEq, Repr

/-- What the mediator reads of a `ReadingListEntry`. -/
structure ReadingListEntry (GURL : Type) where
  url : GURL
  title : List Char
  isRead : Bool
  updateTime : Int
  distilledState : DistillationState
  distilledURL : GURL
  distillationTime : Int
  distillationSize : Int
deriving DecidableEq, Repr

/-- `ReadingListCollectionViewItem`. -/
structure Item (GURL : Type) where
  url : GURL
  faviconPageURL : GURL
  title : List Char
  subtitle : List Char
  distillationState : ReadingListUIDistillationStatus
  distillationDate : Int
  distillationSize : Int
deriving DecidableEq, Repr

/-- What the mediator gets from elsewhere. -/
structure Environment (GURL : Type) where
  isValid : GURL → Bool
  /-- `url_formatter::FormatUrl` of the origin of a URL. -/
  formatOrigin : GURL → List Char
  /-- `std::sort` with a comparison of entries. -/
  sort : (ReadingListEntry GURL → ReadingListEntry GURL → Bool) →
    List (ReadingListEntry GURL) → List (ReadingListEntry GURL)
  sort_perm : ∀ less entries, (sort less entries).Perm entries

/-- The model, the mediator and the screen. -/
structure State (GURL : Type) where
  /-- The entries of the model in the order of its keys. -/
  entries : List (ReadingListEntry GURL)
  isPerformingBatchUpdates : Bool
  shouldMonitorModel : Bool
  /-- The items of a section; without items there is no section. -/
  readItems : Option (List (Item GURL))
  unreadItems : Option (List (Item GURL))
  editing : Bool
  dataSourceHasBeenModified : Bool
deriving DecidableEq, Repr

variable {GURL : Type} [DecidableEq GURL] (env : Environment GURL)

/-! ## The items of the model -/

section

omit [DecidableEq GURL]

def UIStatusFromModelStatus : DistillationState → ReadingListUIDistillationStatus
  | .willRetry | .processing | .waiting => .pending
  | .processed => .success
  | .distillationError => .failure

def EntrySorter (rhs lhs : ReadingListEntry GURL) : Bool := rhs.updateTime > lhs.updateTime

def cellItemForReadingListEntry (entry : ReadingListEntry GURL) : Item GURL :=
  let hasDistillationDetails :=
    entry.distilledState = .processed ∧ entry.distillationSize ≠ 0 ∧ entry.distillationTime ≠ 0
  { url := entry.url
    faviconPageURL := if env.isValid entry.distilledURL then entry.distilledURL else entry.url
    title := if entry.title = [] then env.formatOrigin entry.url else entry.title
    subtitle := env.formatOrigin entry.url
    distillationState := UIStatusFromModelStatus entry.distilledState
    distillationDate := if hasDistillationDetails then entry.distillationTime else 0
    distillationSize := if hasDistillationDetails then entry.distillationSize else 0 }

/-- The items of the entries that are read, or of those that are not. -/
def fillItems (read : Bool) (entries : List (ReadingListEntry GURL)) : List (Item GURL) :=
  (env.sort EntrySorter (entries.filter fun entry => entry.isRead = read)).map
    (cellItemForReadingListEntry env)

/-- `fillReadItems:unreadItems:withDelegate:`, the read items first. -/
def fillReadItems (entries : List (ReadingListEntry GURL)) : List (Item GURL) × List (Item GURL) :=
  (fillItems env true entries, fillItems env false entries)

end

/-! ## The comparison -/

omit [DecidableEq GURL] in
/-- `isEqual:`. -/
def Item.isEqual (item other : Item GURL) : Bool :=
  item.title = other.title && item.subtitle = other.subtitle &&
    item.distillationState = other.distillationState &&
    item.distillationSize = other.distillationSize &&
    item.distillationDate = other.distillationDate

/-- What the comparison makes of the item on the screen. -/
def updateItem (oldItem newItem : Item GURL) : Item GURL :=
  if oldItem.url = newItem.url then
    let oldItem :=
      if oldItem.isEqual newItem then oldItem
      else
        { oldItem with
          title := newItem.title
          subtitle := newItem.subtitle
          distillationState := newItem.distillationState
          distillationDate := newItem.distillationDate
          distillationSize := newItem.distillationSize }
    { oldItem with faviconPageURL := newItem.faviconPageURL }
  else oldItem

/-- The loop of the comparison, which ends at the first difference. -/
def compareItems : List (Item GURL) → List (Item GURL) → Bool × List (Item GURL)
  | oldItem :: oldItems, newItem :: newItems =>
    let updated := updateItem oldItem newItem
    if updated.isEqual newItem then
      let rest := compareItems oldItems newItems
      (rest.1, updated :: rest.2)
    else (true, updated :: oldItems)
  | oldItems, _ => (false, oldItems)

/-- `currentSection:isDifferentOfArray:`, with what it leaves in the section. -/
def isDifferentOfArray (currentSection : Option (List (Item GURL))) (array : List (Item GURL)) :
    Bool × Option (List (Item GURL)) :=
  -- The count of no section is 0.
  if (currentSection.getD []).length ≠ array.length then (true, currentSection)
  else
    let rest := compareItems (currentSection.getD []) array
    (rest.1, currentSection.map fun _ => rest.2)

variable (s : State GURL)

/-- `hasDataSourceChanged`; the unread section is compared only if the read one is not
different. -/
def hasDataSourceChanged : Bool × State GURL :=
  let (readArray, unreadArray) := fillReadItems env s.entries
  let read := isDifferentOfArray s.readItems readArray
  let s := { s with readItems := read.2 }
  if read.1 then (true, s)
  else
    let unread := isDifferentOfArray s.unreadItems unreadArray
    (unread.1, { s with unreadItems := unread.2 })

/-! ## The screen -/

section

omit [DecidableEq GURL]

/-- `loadItemsFromArray:toSection:`. -/
def loadItemsFromArray (items : List (Item GURL)) : Option (List (Item GURL)) :=
  if items.length = 0 then none else some items

/-- `loadModel`. -/
def loadModel : State GURL :=
  let s := { s with readItems := none, unreadItems := none, dataSourceHasBeenModified := false }
  -- `hasElements`.
  if s.entries.length = 0 then s
  else
    let (readArray, unreadArray) := fillReadItems env s.entries
    { s with
      readItems := loadItemsFromArray readArray
      unreadItems := loadItemsFromArray unreadArray }

def dataSourceChanged : State GURL :=
  if s.editing then { s with dataSourceHasBeenModified := true } else loadModel env s

/-- The screen when the data source of a model that is loaded is ready. -/
def dataSourceReady (entries : List (ReadingListEntry GURL)) : State GURL :=
  loadModel env
    { entries
      isPerformingBatchUpdates := false
      shouldMonitorModel := true
      readItems := none
      unreadItems := none
      editing := false
      dataSourceHasBeenModified := false }

end

/-! ## Notifications -/

/-- Both notifications compare the screen with the model. -/
def reloadIfChanged : State GURL :=
  let changed := hasDataSourceChanged env s
  if changed.1 then dataSourceChanged env changed.2 else changed.2

def readingListModelDidApplyChanges : State GURL :=
  if !s.shouldMonitorModel then s
  else if s.isPerformingBatchUpdates then s
  else reloadIfChanged env s

def readingListModelCompletedBatchUpdates : State GURL :=
  if !s.shouldMonitorModel then s else reloadIfChanged env s

inductive Op (GURL : Type)
  /-- The model has other entries now, and says so. -/
  | applyChanges (entries : List (ReadingListEntry GURL))
  | beginBatchUpdates
  | completeBatchUpdates

def step : Op GURL → State GURL
  | .applyChanges entries => readingListModelDidApplyChanges env { s with entries := entries }
  | .beginBatchUpdates => { s with isPerformingBatchUpdates := true }
  | .completeBatchUpdates =>
    readingListModelCompletedBatchUpdates env { s with isPerformingBatchUpdates := false }

def machine : Machine (State GURL) (Op GURL) := ⟨fun _ _ => True, step env⟩

/-! ## What the screen shows -/

/-- The fields of an item that are shown, and its URL. -/
structure Shown (GURL : Type) where
  url : GURL
  title : List Char
  subtitle : List Char
  distillationState : ReadingListUIDistillationStatus
  distillationDate : Int
  distillationSize : Int
deriving DecidableEq, Repr

omit [DecidableEq GURL] in
def Item.shown (item : Item GURL) : Shown GURL :=
  ⟨item.url, item.title, item.subtitle, item.distillationState, item.distillationDate,
    item.distillationSize⟩

omit [DecidableEq GURL] in
/-- A section shows what the items of an array would. -/
def SectionShows (currentSection : Option (List (Item GURL))) (array : List (Item GURL)) : Prop :=
  (currentSection.getD []).map Item.shown = array.map Item.shown

omit [DecidableEq GURL] in
/-- The screen shows the model. -/
def Shows : Prop :=
  SectionShows s.readItems (fillReadItems env s.entries).1 ∧
    SectionShows s.unreadItems (fillReadItems env s.entries).2

/-- At every position the array has the URL of the item on the screen, or an item that
cannot be told from it. -/
def Alike (currentSection : Option (List (Item GURL))) (array : List (Item GURL)) : Prop :=
  List.Forall₂ (fun oldItem newItem => oldItem.url = newItem.url ∨ oldItem.isEqual newItem)
    (currentSection.getD []) array

/-- The items on the screen are all alike those of the model, and not all of the same URL. -/
def Confused : Prop :=
  (Alike s.readItems (fillReadItems env s.entries).1 ∧
    Alike s.unreadItems (fillReadItems env s.entries).2) ∧
  ¬((s.readItems.getD []).map Item.url = (fillReadItems env s.entries).1.map Item.url ∧
    (s.unreadItems.getD []).map Item.url = (fillReadItems env s.entries).2.map Item.url)

/-- What an operation needs for the screen to show the model after it. -/
def Meets : Op GURL → Prop
  | .applyChanges entries =>
    -- A single change during a batch is left to the end of the batch.
    if s.isPerformingBatchUpdates then Shows env { s with entries := entries }
    else ¬Confused env { s with entries := entries }
  | .beginBatchUpdates => True
  | .completeBatchUpdates => ¬Confused env s

omit [DecidableEq GURL] in
def Op.notifies : Op GURL → Bool
  | .beginBatchUpdates => false
  | .applyChanges _ | .completeBatchUpdates => true

variable {env}

/-! ## What the comparison says -/

omit [DecidableEq GURL] in
theorem isEqual_iff {item other : Item GURL} :
    item.isEqual other = true ↔ item.shown = { other.shown with url := item.url } := by
  simp only [Item.isEqual, Bool.and_eq_true, decide_eq_true_eq, Item.shown, Shown.mk.injEq]
  constructor
  · rintro ⟨⟨⟨⟨htitle, hsubtitle⟩, hstate⟩, hsize⟩, hdate⟩
    exact ⟨trivial, htitle, hsubtitle, hstate, hdate, hsize⟩
  · rintro ⟨-, htitle, hsubtitle, hstate, hdate, hsize⟩
    exact ⟨⟨⟨⟨htitle, hsubtitle⟩, hstate⟩, hsize⟩, hdate⟩

omit [DecidableEq GURL] in
theorem shown_eq_iff {item other : Item GURL} (h : item.isEqual other = true) :
    item.shown = other.shown ↔ item.url = other.url := by
  constructor
  · exact congrArg Shown.url
  · intro hurl
    rw [isEqual_iff.1 h, hurl]
    rfl

theorem updateItem_url (oldItem newItem : Item GURL) :
    (updateItem oldItem newItem).url = oldItem.url := by
  unfold updateItem
  split
  · dsimp only
    split <;> rfl
  · rfl

/-- An item of the same URL is no difference once it is updated. -/
theorem updateItem_isEqual {oldItem newItem : Item GURL} :
    (updateItem oldItem newItem).isEqual newItem = true ↔
      oldItem.url = newItem.url ∨ oldItem.isEqual newItem = true := by
  unfold updateItem
  split
  · next hurl =>
    refine iff_of_true ?_ (.inl hurl)
    dsimp only
    split
    · next hequal => exact isEqual_iff.2 (isEqual_iff.1 hequal)
    · exact isEqual_iff.2 rfl
  · next hurl => exact ⟨.inr, fun h => h.resolve_left hurl⟩

/-- The loop finds no difference between lists that are alike. -/
theorem compareItems_iff {oldItems newItems : List (Item GURL)}
    (hlength : oldItems.length = newItems.length) :
    (compareItems oldItems newItems).1 = false ↔
      List.Forall₂ (fun oldItem newItem => oldItem.url = newItem.url ∨ oldItem.isEqual newItem)
        oldItems newItems := by
  induction oldItems generalizing newItems with
  | nil =>
    cases newItems with
    | nil => exact iff_of_true rfl .nil
    | cons newItem newItems => cases hlength
  | cons oldItem oldItems ih =>
    cases newItems with
    | nil => cases hlength
    | cons newItem newItems =>
      rw [List.forall₂_cons, ← ih (Nat.succ.inj hlength), ← updateItem_isEqual, compareItems]
      dsimp only
      split
      · next hequal => exact (and_iff_right hequal).symm
      · next hequal => exact iff_of_false (fun h => nomatch h) fun h => hequal h.1

/-- Lists that are alike are equal afterwards, but for the URLs. -/
theorem compareItems_shown {oldItems newItems : List (Item GURL)}
    (halike : List.Forall₂
      (fun oldItem newItem => oldItem.url = newItem.url ∨ oldItem.isEqual newItem)
      oldItems newItems) :
    (compareItems oldItems newItems).2.map Item.shown = newItems.map Item.shown ↔
      oldItems.map Item.url = newItems.map Item.url := by
  induction halike with
  | nil => exact iff_of_true rfl rfl
  | @cons oldItem newItem oldItems newItems hitem _ ih =>
    have hequal := updateItem_isEqual.2 hitem
    rw [compareItems]
    dsimp only
    rw [if_pos hequal, List.map_cons, List.map_cons, List.map_cons, List.map_cons, List.cons.injEq,
      List.cons.injEq, shown_eq_iff hequal, updateItem_url, ih]

theorem isDifferentOfArray_iff (currentSection : Option (List (Item GURL)))
    (array : List (Item GURL)) :
    (isDifferentOfArray currentSection array).1 = false ↔ Alike currentSection array := by
  unfold isDifferentOfArray
  split
  · next hlength => exact iff_of_false (fun h => nomatch h) fun h => hlength h.length_eq
  · next hlength => exact compareItems_iff (not_not.1 hlength)

/-- A section that is no difference shows the array if it has its URLs. -/
theorem isDifferentOfArray_shows {currentSection : Option (List (Item GURL))}
    {array : List (Item GURL)} (halike : Alike currentSection array) :
    SectionShows (isDifferentOfArray currentSection array).2 array ↔
      (currentSection.getD []).map Item.url = array.map Item.url := by
  have hlength := halike.length_eq
  rw [← compareItems_shown halike, isDifferentOfArray, if_neg (not_not.2 hlength)]
  unfold SectionShows
  cases currentSection with
  | none =>
    cases array with
    | nil => exact Iff.rfl
    | cons item array => cases hlength
  | some items => exact Iff.rfl

/-! ## What a notification leaves -/

section

omit [DecidableEq GURL]

theorem loadItemsFromArray_shows (items : List (Item GURL)) :
    SectionShows (loadItemsFromArray items) items := by
  unfold loadItemsFromArray
  split
  · next hlength =>
    rw [List.length_eq_zero_iff.1 hlength]
    rfl
  · rfl

theorem fillItems_nil (read : Bool) : fillItems env read [] = [] := by
  have hnil : env.sort EntrySorter [] = [] := (env.sort_perm EntrySorter []).eq_nil
  rw [fillItems, List.filter_nil, hnil, List.map_nil]

/-- A screen that is loaded shows the model. -/
theorem loadModel_shows : Shows env (loadModel env s) := by
  unfold loadModel
  dsimp only
  split
  · next hlength =>
    have hentries : s.entries = [] := List.length_eq_zero_iff.1 hlength
    unfold Shows fillReadItems
    dsimp only
    rw [hentries, fillItems_nil, fillItems_nil]
    exact ⟨rfl, rfl⟩
  · exact ⟨loadItemsFromArray_shows _, loadItemsFromArray_shows _⟩

theorem dataSourceChanged_shows {s : State GURL} (hediting : s.editing = false) :
    Shows env (dataSourceChanged env s) := by
  rw [dataSourceChanged, hediting]
  exact loadModel_shows s

end

/-- What the screen shows after a comparison. -/
theorem reloadIfChanged_shows {s : State GURL} (hediting : s.editing = false) :
    Shows env (reloadIfChanged env s) ↔ ¬Confused env s := by
  have hread := isDifferentOfArray_iff s.readItems (fillReadItems env s.entries).1
  have hunread := isDifferentOfArray_iff s.unreadItems (fillReadItems env s.entries).2
  by_cases hreadAlike : Alike s.readItems (fillReadItems env s.entries).1
  · by_cases hunreadAlike : Alike s.unreadItems (fillReadItems env s.entries).2
    · -- Nothing is reloaded.
      have hsame : reloadIfChanged env s =
          { s with
            readItems := (isDifferentOfArray s.readItems (fillReadItems env s.entries).1).2
            unreadItems := (isDifferentOfArray s.unreadItems (fillReadItems env s.entries).2).2 } := by
        simp only [reloadIfChanged, hasDataSourceChanged, hread.2 hreadAlike,
          hunread.2 hunreadAlike, Bool.false_eq_true, if_false]
      rw [hsame, Confused, not_and_not_right, forall_prop_of_true ⟨hreadAlike, hunreadAlike⟩]
      exact and_congr (isDifferentOfArray_shows hreadAlike) (isDifferentOfArray_shows hunreadAlike)
    · refine iff_of_true ?_ fun h => hunreadAlike h.1.2
      have hdifferent := Bool.not_eq_false _ ▸ mt hunread.1 hunreadAlike
      simp only [reloadIfChanged, hasDataSourceChanged, hread.2 hreadAlike, hdifferent,
        Bool.false_eq_true, if_false, if_true]
      exact dataSourceChanged_shows hediting
  · refine iff_of_true ?_ fun h => hreadAlike h.1.1
    have hdifferent := Bool.not_eq_false _ ▸ mt hread.1 hreadAlike
    simp only [reloadIfChanged, hasDataSourceChanged, hdifferent, if_true]
    exact dataSourceChanged_shows hediting

/-! ## Runs -/

omit [DecidableEq GURL] in
/-- The model is monitored and nothing is edited. -/
def State.Watching : Prop := s.shouldMonitorModel = true ∧ s.editing = false

omit [DecidableEq GURL] in
theorem watching_loadModel {s : State GURL} (h : s.Watching) : (loadModel env s).Watching := by
  unfold loadModel
  dsimp only
  split <;> exact h

theorem watching_reloadIfChanged {s : State GURL} (h : s.Watching) :
    (reloadIfChanged env s).Watching := by
  have hchanged : (hasDataSourceChanged env s).2.Watching := by
    unfold hasDataSourceChanged
    dsimp only
    split <;> exact h
  unfold reloadIfChanged dataSourceChanged
  dsimp only
  split
  · split
    · exact hchanged
    · exact watching_loadModel hchanged
  · exact hchanged

theorem watching_step {s : State GURL} (h : s.Watching) (op : Op GURL) :
    (step env s op).Watching := by
  cases op with
  | applyChanges entries =>
    show (readingListModelDidApplyChanges env { s with entries := entries }).Watching
    unfold readingListModelDidApplyChanges
    split
    · exact h
    · split
      · exact h
      · exact watching_reloadIfChanged h
  | beginBatchUpdates => exact h
  | completeBatchUpdates =>
    show (readingListModelCompletedBatchUpdates env
      { s with isPerformingBatchUpdates := false }).Watching
    unfold readingListModelCompletedBatchUpdates
    split
    · exact h
    · exact watching_reloadIfChanged h

/-- One notification: the screen shows the model after it exactly under the condition. -/
theorem shows_step_iff {s : State GURL} (h : s.Watching) {op : Op GURL}
    (hnotifies : op.notifies = true) : Shows env (step env s op) ↔ Meets env s op := by
  obtain ⟨hmonitor, hediting⟩ := h
  cases op with
  | applyChanges entries =>
    show Shows env (readingListModelDidApplyChanges env { s with entries := entries }) ↔
      if s.isPerformingBatchUpdates then Shows env { s with entries := entries }
      else ¬Confused env { s with entries := entries }
    rw [readingListModelDidApplyChanges, if_neg (by simp [hmonitor])]
    split
    · exact Iff.rfl
    · exact reloadIfChanged_shows hediting
  | beginBatchUpdates => cases hnotifies
  | completeBatchUpdates =>
    show Shows env (readingListModelCompletedBatchUpdates env
      { s with isPerformingBatchUpdates := false }) ↔ ¬Confused env s
    rw [readingListModelCompletedBatchUpdates, if_neg (by simp [hmonitor])]
    exact reloadIfChanged_shows hediting

/-- The screen shows the model after every notification of a run if and only if every
notification meets the condition. -/
theorem shows_iff (env : Environment GURL) (entries : List (ReadingListEntry GURL))
    (ops : List (Op GURL)) :
    (machine env).Along (fun s op => op.notifies = true → Shows env (step env s op))
      (dataSourceReady env entries) ops ↔
    (machine env).Along (Meets env) (dataSourceReady env entries) ops := by
  refine Machine.along_congr (M := machine env) (I := State.Watching) (C := fun _ _ => True) ?_
    (fun s op h _ => watching_step h op) (watching_loadModel ⟨rfl, rfl⟩)
    ((machine env).along_of_forall (fun _ _ => trivial) _ _)
  intro s op h _
  by_cases hnotifies : op.notifies = true
  · rw [forall_prop_of_true hnotifies]
    exact shows_step_iff h hnotifies
  · cases op with
    | beginBatchUpdates => exact iff_of_true (fun h => nomatch h) trivial
    | applyChanges entries => exact absurd rfl hnotifies
    | completeBatchUpdates => exact absurd rfl hnotifies

instance (env : Environment GURL) (s : State GURL) : Decidable (Shows env s) :=
  inferInstanceAs (Decidable
    ((s.readItems.getD []).map Item.shown = (fillReadItems env s.entries).1.map Item.shown ∧
      (s.unreadItems.getD []).map Item.shown = (fillReadItems env s.entries).2.map Item.shown))

/-- Pages of one site, sorted by insertion. -/
def oneSite : Environment Nat where
  isValid _ := true
  formatOrigin _ := "a.com".toList
  sort less entries := entries.insertionSort fun a b => less b a = false
  sort_perm _ entries := List.perm_insertionSort _ entries

/-- An unread page with the title the other pages have. -/
def untitledEntry (url : Nat) (updateTime : Int) : ReadingListEntry Nat where
  url
  title := []
  isRead := false
  updateTime
  distilledState := .waiting
  distilledURL := url
  distillationTime := 0
  distillationSize := 0

/-- Two pages of one site and title, the second of which is added again. -/
theorem confused_not_shown :
    ¬Shows oneSite ((machine oneSite).run
      (dataSourceReady oneSite [untitledEntry 1 20, untitledEntry 2 10])
      [.beginBatchUpdates, .applyChanges [untitledEntry 1 20, untitledEntry 2 30],
        .completeBatchUpdates]) := by
  decide +kernel

end ReadingListMediator

end ChromiumIos
