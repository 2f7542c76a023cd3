import Mathlib.Order.Lattice
import ChromiumIos.Lib.BinarySearch
import ChromiumIos.Ui.CollectionViewModel

/-!
# HistoryEntryInserter

`history_entry_inserter.mm`: history entries are inserted into a collection view
model in sections by local date, below the sections that were there before.
Entries and dates are found by binary search.

The delegate's calls are logged with the model as it is when they are made.

- `HistorySorted`: the dates, the identifiers of their sections and the sections
  of the model belong together, and all are sorted.
- `Adds`: what the calls add to the model is what they report.
- `history_stays_sorted`: they are in every run, identifiers are not reused, and
  the delegate is told of every insertion, rightly.
-/

namespace ChromiumIos

open Lib List Option

universe u

/-- The properties of a `HistoryEntryItem` that its place depends on. The time is
in microseconds since the Unix epoch. -/
structure HistoryEntry (URL : Type u) where
  url : URL
  timestamp : Int
deriving DecidableEq, Repr

/-- The local time zone: the midnight at which the day of a time begins. -/
structure LocalTime where
  localMidnight : Int → Int
  wholeSeconds : ∀ time, 1000000 ∣ localMidnight time

namespace LocalTime

/-- The `NSDate` of a time's day, in seconds; `InSeconds` truncates. -/
def date (localTime : LocalTime) (timestamp : Int) : Int :=
  (localTime.localMidnight timestamp).tdiv 1000000

/-- The date stands for the midnight. -/
theorem date_mul (localTime : LocalTime) (timestamp : Int) :
    localTime.date timestamp * 1000000 = localTime.localMidnight timestamp :=
  Int.tdiv_mul_cancel (localTime.wholeSeconds timestamp)

end LocalTime

namespace HistoryEntry

variable {URL : Type u} [LinearOrder URL]

/-- `objectComparator`, with `isEqualToHistoryEntryItem:`. -/
def objectComparator (first second : HistoryEntry URL) : Ordering :=
  if second.url = first.url ∧ second.timestamp = first.timestamp then .eq
  else if second.timestamp < first.timestamp then .lt
  else if first.timestamp < second.timestamp then .gt
  else if first.url < second.url then .lt
  else .gt

/-- The order of a section: the most recent entries first, then by URL. -/
def Precedes (first second : HistoryEntry URL) : Prop :=
  second.timestamp < first.timestamp ∨
    second.timestamp = first.timestamp ∧ first.url < second.url

end HistoryEntry

/-- The calls of the delegate, with the item or section they are about and the
model at that time. -/
inductive InserterReport
  | didInsertItem (item : CollectionViewItem) (sectionIdentifier : Int)
      (sectionIndex index : Nat) (model : CollectionViewModel)
  | didInsertSection (sectionIdentifier : Int) (sectionIndex : Nat) (model : CollectionViewModel)
  | didRemoveSection (sectionIndex : Nat)
deriving DecidableEq, Repr

namespace InserterReport

/-- The section that was inserted. -/
def section? : InserterReport → Option Int
  | .didInsertSection sectionIdentifier _ _ => some sectionIdentifier
  | _ => none

/-- The item that was inserted. -/
def item? : InserterReport → Option CollectionViewItem
  | .didInsertItem item _ _ _ _ => some item
  | _ => none

end InserterReport

structure HistoryEntryInserter where
  collectionViewModel : CollectionViewModel
  firstSectionIndex : Nat
  sectionIdentifierCount : Nat
  /-- In seconds, the most recent first. -/
  dates : List Int
  sectionIdentifiers : Keyed Int Int
  reports : List InserterReport
deriving DecidableEq, Repr

namespace HistoryEntryInserter

def initWithModel (collectionViewModel : CollectionViewModel) : HistoryEntryInserter where
  collectionViewModel := collectionViewModel
  firstSectionIndex := collectionViewModel.sections.length
  sectionIdentifierCount := 0
  dates := []
  sectionIdentifiers := .empty
  reports := []

def report (s : HistoryEntryInserter) (call : InserterReport) : HistoryEntryInserter :=
  { s with reports := s.reports ++ [call] }

/-- The comparator of `sectionIdentifierForTimestamp:`; dates are ordered from most
to least recent. -/
def comparator (obj1 obj2 : Int) : Ordering := compare obj2 obj1

/-- What the next section is identified by. -/
def nextSectionIdentifier (s : HistoryEntryInserter) : Int :=
  kSectionIdentifierEnumZero + s.firstSectionIndex + s.sectionIdentifierCount

/-- Adds the section of a date that has none. The header is an object of its own. -/
def addSection (s : HistoryEntryInserter) (date : Int) (header : Nat) : HistoryEntryInserter :=
  let sectionIdentifier := s.nextSectionIdentifier
  let index := insertionIndex (comparator · date) s.dates
  let insertionIndex := s.firstSectionIndex + index
  let model := (s.collectionViewModel.insertSection sectionIdentifier insertionIndex).setHeader
    (some ⟨header, kItemTypeEnumZero⟩) sectionIdentifier
  { s with
    sectionIdentifierCount := s.sectionIdentifierCount + 1
    sectionIdentifiers := s.sectionIdentifiers.set date sectionIdentifier
    dates := s.dates.insertIdx index date
    collectionViewModel := model }.report
      (.didInsertSection sectionIdentifier insertionIndex model)

variable {URL : Type u} [LinearOrder URL] (localTime : LocalTime)
  (entry : CollectionViewItem → HistoryEntry URL)

variable (s : HistoryEntryInserter)

/-- `sectionIdentifierForTimestamp:`. The identifier of a date that has none is zero. -/
def sectionIdentifierForTimestamp (timestamp : Int) (header : Nat) : Int × HistoryEntryInserter :=
  let date := localTime.date timestamp
  let sectionIdentifier := (s.sectionIdentifiers.get? date).getD 0
  if sectionIdentifier ≠ 0 then (sectionIdentifier, s)
  else (s.nextSectionIdentifier, s.addSection date header)

/-- The rest of `insertHistoryEntryItem:`, once the section is known. -/
def insertItem (s : HistoryEntryInserter) (item : CollectionViewItem) (sectionIdentifier : Int) :
    HistoryEntryInserter :=
  let items := (s.collectionViewModel.itemsInSectionWithIdentifier sectionIdentifier).getD []
  let compareWith (other : CollectionViewItem) := (entry other).objectComparator (entry item)
  if firstEqual? compareWith items = none then
    let index := insertionIndex compareWith items
    let model := s.collectionViewModel.insertItem item sectionIdentifier index
    let sectionIndex := (model.internalSectionForIdentifier sectionIdentifier).getD 0
    { s with collectionViewModel := model }.report
      (.didInsertItem item sectionIdentifier sectionIndex index model)
  else s

def insertHistoryEntryItem (item : CollectionViewItem) (header : Nat) : HistoryEntryInserter :=
  let found := s.sectionIdentifierForTimestamp localTime (entry item).timestamp header
  found.2.insertItem entry item found.1

/-- `removeSection:`. The date of the section is looked for among the keys. -/
def removeSection (s : HistoryEntryInserter) (sectionIndex : Nat) : HistoryEntryInserter :=
  match s.collectionViewModel.sectionIdentifiers[sectionIndex]? with
  | none => s
  | some sectionIdentifier =>
    let s := { s with collectionViewModel := s.collectionViewModel.removeSection sectionIdentifier }
    let s :=
      match s.sectionIdentifiers.keys.find? fun date =>
        s.sectionIdentifiers.get? date = some sectionIdentifier with
      | none => s
      | some date =>
        { s with
          sectionIdentifiers := s.sectionIdentifiers.erase date
          dates := s.dates.erase date }
    s.report (.didRemoveSection sectionIndex)

/-! ## Runs -/

/-- The calls of the inserter, and what its owner does with the model itself. -/
inductive Op
  | insertHistoryEntryItem (item : CollectionViewItem) (header : Nat)
  | sectionIdentifierForTimestamp (timestamp : Int) (header : Nat)
  | removeSection (sectionIndex : Nat)
  | changeModel (op : CollectionViewModel.Op)
deriving DecidableEq, Repr

/-- The owner adds and removes no sections, and adds no items to those of the
history. -/
def OwnerMay : CollectionViewModel.Op → Prop
  | .removeItemWithType .. | .setHeader .. | .setFooter .. => True
  | .addItem _ sectionIdentifier | .insertItem _ sectionIdentifier _ =>
    sectionIdentifier ∈ s.collectionViewModel.sectionIdentifiers.take s.firstSectionIndex
  | .addSection _ | .insertSection .. | .removeSection _ => False

/-- A section of the history is removed when it is empty. -/
def Op.Pre (s : HistoryEntryInserter) : Op → Prop
  | .insertHistoryEntryItem .. | .sectionIdentifierForTimestamp .. => True
  | .removeSection sectionIndex =>
    s.firstSectionIndex ≤ sectionIndex ∧ s.collectionViewModel.sections[sectionIndex]? = some []
  | .changeModel op => op.Pre s.collectionViewModel ∧ s.OwnerMay op

instance : ∀ op, Decidable (s.OwnerMay op)
  | .removeItemWithType .. | .setHeader .. | .setFooter .. => instDecidableTrue
  | .addItem .. | .insertItem .. => inferInstanceAs (Decidable (_ ∈ _))
  | .addSection _ | .insertSection .. | .removeSection _ => instDecidableFalse

instance : ∀ op : Op, Decidable (op.Pre s)
  | .insertHistoryEntryItem .. | .sectionIdentifierForTimestamp .. =>
    instDecidableTrue
  | .removeSection _ | .changeModel _ => instDecidableAnd

def step (s : HistoryEntryInserter) : Op → HistoryEntryInserter
  | .insertHistoryEntryItem item header => s.insertHistoryEntryItem localTime entry item header
  | .sectionIdentifierForTimestamp timestamp header =>
    (s.sectionIdentifierForTimestamp localTime timestamp header).2
  | .removeSection sectionIndex => s.removeSection sectionIndex
  | .changeModel op => { s with collectionViewModel := s.collectionViewModel.step op }

def machine : Machine HistoryEntryInserter Op where
  Pre s op := op.Pre s
  step := step localTime entry

instance (op : Op) : Decidable ((machine localTime entry).Pre s op) :=
  inferInstanceAs (Decidable (op.Pre s))

instance (ops : List Op) : Decidable ((machine localTime entry).Legal s ops) :=
  inferInstanceAs (Decidable ((machine localTime entry).Along _ s ops))

/-! ## Sorted histories -/

/-- The items of a date's section: entries of that day, in order. -/
def SectionSorted (date : Int) (items : List CollectionViewItem) : Prop :=
  (∀ item ∈ items, localTime.localMidnight (entry item).timestamp = date * 1000000) ∧
    items.Pairwise fun item other => (entry item).Precedes (entry other)

/-- The sections of the history are those of the dates, which descend, and their
entries are sorted. -/
structure HistorySorted : Prop where
  length : s.collectionViewModel.sectionIdentifiers.length = s.firstSectionIndex + s.dates.length
  sections_length :
    s.collectionViewModel.sections.length = s.collectionViewModel.sectionIdentifiers.length
  dates : s.dates.Pairwise (· > ·)
  identifier : ∀ (k : Nat) (date : Int), s.dates[k]? = some date →
    ∃ sectionIdentifier, s.sectionIdentifiers.get? date = some sectionIdentifier ∧
      s.collectionViewModel.sectionIdentifiers[s.firstSectionIndex + k]? = some sectionIdentifier
  dated : ∀ date, s.sectionIdentifiers.get? date ≠ none → date ∈ s.dates
  nodup : s.collectionViewModel.sectionIdentifiers.Nodup
  entries : ∀ (k : Nat) (date : Int) (items : List CollectionViewItem), s.dates[k]? = some date →
    s.collectionViewModel.sections[s.firstSectionIndex + k]? = some items →
    SectionSorted localTime entry date items

/-- The identifiers that were given to sections. -/
def assigned : List Int := s.reports.filterMap InserterReport.section?

/-- From `s` to `t` the model gets the sections and the items that the delegate is told of. -/
def Adds (s t : HistoryEntryInserter) : Prop :=
  ∃ calls, t.reports = s.reports ++ calls ∧
    t.collectionViewModel.sectionIdentifiers.Perm
      (calls.filterMap InserterReport.section? ++ s.collectionViewModel.sectionIdentifiers) ∧
    t.collectionViewModel.sections.flatten.Perm
      (calls.filterMap InserterReport.item? ++ s.collectionViewModel.sections.flatten)

/-- A call that inserts adds what it reports. -/
def AddsReported : Op → Prop
  | .insertHistoryEntryItem item header =>
    s.Adds (s.insertHistoryEntryItem localTime entry item header)
  | .sectionIdentifierForTimestamp timestamp header =>
    s.Adds (s.sectionIdentifierForTimestamp localTime timestamp header).2
  | .removeSection _ | .changeModel _ => True

end HistoryEntryInserter

/-- What the delegate is told is where the item or section is in the model. -/
def InserterReport.Right : InserterReport → Prop
  | .didInsertItem item sectionIdentifier sectionIndex index model =>
    model.sectionIdentifiers[sectionIndex]? = some sectionIdentifier ∧
      ∃ items, model.sections[sectionIndex]? = some items ∧ items[index]? = some item
  | .didInsertSection sectionIdentifier sectionIndex model =>
    model.sectionIdentifiers[sectionIndex]? = some sectionIdentifier
  | .didRemoveSection _ => True

/-- The model an inserter is made with: its sections are identified by the first
identifiers. -/
structure CollectionViewModel.BeforeHistory (model : CollectionViewModel) : Prop where
  length : model.sections.length = model.sectionIdentifiers.length
  nodup : model.sectionIdentifiers.Nodup
  below : ∀ sectionIdentifier ∈ model.sectionIdentifiers,
    sectionIdentifier < kSectionIdentifierEnumZero + model.sections.length

/-! ## The orders -/

namespace HistoryEntry

variable {URL : Type u} [LinearOrder URL] {first second : HistoryEntry URL}

theorem objectComparator_lt_iff : first.objectComparator second = .lt ↔ first.Precedes second := by
  rw [objectComparator, Precedes]
  rcases lt_trichotomy first.timestamp second.timestamp with htime | htime | htime
  · have hnot : ¬ second.timestamp < first.timestamp := not_lt_of_gt htime
    simp [htime, htime.ne', hnot]
  · rcases lt_trichotomy first.url second.url with hurl | hurl | hurl
    · simp [htime, hurl, hurl.ne']
    · simp [htime, hurl]
    · simp [htime, hurl.ne, not_lt_of_gt hurl]
  · simp [htime, htime.ne]

theorem objectComparator_eq_iff : first.objectComparator second = .eq ↔ first = second := by
  rw [objectComparator]
  obtain ⟨url, timestamp⟩ := first
  obtain ⟨url', timestamp'⟩ := second
  by_cases heq : url' = url ∧ timestamp' = timestamp
  · simp [heq]
  · rw [if_neg heq]
    have hne : ¬ (url = url' ∧ timestamp = timestamp') := fun h => heq ⟨h.1.symm, h.2.symm⟩
    simp only [HistoryEntry.mk.injEq, iff_false_intro hne, iff_false]
    split
    · nofun
    · split
      · nofun
      · split <;> nofun

/-- Two entries are the same, or one comes before the other. -/
theorem precedes_trichotomy (first second : HistoryEntry URL) :
    first.Precedes second ∨ first = second ∨ second.Precedes first := by
  rw [Precedes, Precedes]
  obtain ⟨url, timestamp⟩ := first
  obtain ⟨url', timestamp'⟩ := second
  rcases lt_trichotomy timestamp timestamp' with htime | rfl | htime
  · exact .inr (.inr (.inl htime))
  · rcases lt_trichotomy url url' with hurl | rfl | hurl
    · exact .inl (.inr ⟨rfl, hurl⟩)
    · exact .inr (.inl rfl)
    · exact .inr (.inr (.inr ⟨rfl, hurl⟩))
  · exact .inl (.inl htime)

theorem Precedes.trans {third : HistoryEntry URL} (h : first.Precedes second)
    (h' : second.Precedes third) : first.Precedes third := by
  rcases h with htime | ⟨htime, hurl⟩
  · rcases h' with htime' | ⟨htime', -⟩
    · exact .inl (htime'.trans htime)
    · exact .inl (htime' ▸ htime)
  · rcases h' with htime' | ⟨htime', hurl'⟩
    · exact .inl (htime ▸ htime')
    · exact .inr ⟨htime'.trans htime, hurl.trans hurl'⟩

theorem followsOrder (second : HistoryEntry URL) :
    FollowsOrder (·.objectComparator second) (Precedes : HistoryEntry URL → HistoryEntry URL → Prop) := by
  intro a b hab hb
  rw [objectComparator_lt_iff]
  cases hcompare : b.objectComparator second with
  | lt => exact hab.trans (objectComparator_lt_iff.1 hcompare)
  | eq => exact objectComparator_eq_iff.1 hcompare ▸ hab
  | gt => exact absurd hcompare hb

end HistoryEntry

namespace HistoryEntryInserter

theorem followsOrder_dates (date : Int) : FollowsOrder (comparator · date) (· > ·) := by
  intro a b hab hb
  have hle : date ≤ b := by
    have hnot : ¬ b < date := fun hlt => hb (compare_gt_iff_gt.2 hlt)
    omega
  exact compare_lt_iff_lt.2 (by omega)

/-! ## What the calls do -/

theorem Adds.refl (s : HistoryEntryInserter) : s.Adds s :=
  ⟨[], (append_nil _).symm, .refl _, .refl _⟩

theorem Adds.trans {s t u : HistoryEntryInserter} (h : s.Adds t) (h' : t.Adds u) : s.Adds u := by
  obtain ⟨calls, hreports, hsections, hitems⟩ := h
  obtain ⟨later, hreports', hsections', hitems'⟩ := h'
  refine ⟨calls ++ later, by rw [hreports', hreports, append_assoc], ?_, ?_⟩
  all_goals rw [filterMap_append]
  · refine (hsections'.trans (hsections.append_left _)).trans ?_
    rw [← append_assoc]
    exact perm_append_comm.append_right _
  · refine (hitems'.trans (hitems.append_left _)).trans ?_
    rw [← append_assoc]
    exact perm_append_comm.append_right _

/-- An item more in one section is an item more in all of them. -/
theorem flatten_modify_insertIdx {α : Type u} {item : α} {index : Nat} {items : List α}
    (hle : index ≤ items.length) {sections : List (List α)} {i : Nat}
    (hitems : sections[i]? = some items) :
    (sections.modify i (·.insertIdx index item)).flatten.Perm (item :: sections.flatten) := by
  induction sections generalizing i with
  | nil => cases hitems
  | cons first rest ih =>
    cases i with
    | zero =>
      obtain rfl := some.inj hitems
      exact (perm_insertIdx item first hle).append_right _
    | succ i => exact ((ih hitems).append_left first).trans perm_middle

section Steps

variable {URL : Type u} [LinearOrder URL] {localTime : LocalTime}
  {entry : CollectionViewItem → HistoryEntry URL} {s : HistoryEntryInserter}

variable {model : CollectionViewModel}

theorem internalSection_of_getElem? {sectionIndex : Nat}
    {sectionIdentifier : Int} (hnodup : model.sectionIdentifiers.Nodup)
    (h : model.sectionIdentifiers[sectionIndex]? = some sectionIdentifier) :
    model.internalSectionForIdentifier sectionIdentifier = some sectionIndex := by
  obtain ⟨hlt, hget⟩ := List.getElem?_eq_some_iff.1 h
  refine idxOf?_eq_some_iff.2 ⟨hlt, hget, fun j hj heq => ?_⟩
  exact (Nat.ne_of_lt hj ((hnodup.getElem_inj_iff).1 (heq.trans hget.symm))).elim

/-- The sections of the history where a date of it is. -/
theorem HistorySorted.exists_section (h : HistorySorted localTime entry s) {date : Int}
    {sectionIdentifier : Int} (hdate : s.sectionIdentifiers.get? date = some sectionIdentifier) :
    ∃ k items, s.dates[k]? = some date ∧
      s.collectionViewModel.sectionIdentifiers[s.firstSectionIndex + k]? =
        some sectionIdentifier ∧
      s.collectionViewModel.sections[s.firstSectionIndex + k]? = some items := by
  obtain ⟨k, hk⟩ := mem_iff_getElem?.1 (h.dated date (by rw [hdate]; nofun))
  obtain ⟨found, hfound, hidentifier⟩ := h.identifier k date hk
  obtain rfl : found = sectionIdentifier := some.inj (hfound.symm.trans hdate)
  obtain ⟨hlt, -⟩ := List.getElem?_eq_some_iff.1 hidentifier
  rw [← h.sections_length] at hlt
  exact ⟨k, _, hk, hidentifier, getElem?_eq_getElem hlt⟩

/-- A section for a date that has none keeps the history sorted. -/
theorem HistorySorted.addSection (h : HistorySorted localTime entry s) {date : Int} (header : Nat)
    (hnew : s.sectionIdentifiers.get? date = none)
    (hfresh : s.nextSectionIdentifier ∉ s.collectionViewModel.sectionIdentifiers) :
    HistorySorted localTime entry (s.addSection date header) := by
  have hnotMem : date ∉ s.dates := by
    intro hmem
    obtain ⟨k, hk⟩ := mem_iff_getElem?.1 hmem
    obtain ⟨sectionIdentifier, hsome, -⟩ := h.identifier k date hk
    rw [hnew] at hsome
    cases hsome
  have hle := insertionIndex_le (followsOrder_dates date) h.dates
  have hidentifiers : s.firstSectionIndex + insertionIndex (comparator · date) s.dates ≤
      s.collectionViewModel.sectionIdentifiers.length := by
    rw [h.length]
    omega
  constructor
  case length =>
    show (s.collectionViewModel.sectionIdentifiers.insertIdx _ _).length =
      s.firstSectionIndex + (s.dates.insertIdx _ _).length
    rw [length_insertIdx_of_le_length hidentifiers, length_insertIdx_of_le_length hle,
      h.length]
    omega
  case sections_length =>
    show (s.collectionViewModel.sections.insertIdx _ _).length =
      (s.collectionViewModel.sectionIdentifiers.insertIdx _ _).length
    rw [length_insertIdx_of_le_length hidentifiers,
      length_insertIdx_of_le_length (h.sections_length ▸ hidentifiers), h.sections_length]
  case dates =>
    refine pairwise_insertIdx_insertionIndex (followsOrder_dates date) h.dates ?_ ?_
    · exact fun other _ hless => compare_lt_iff_lt.1 hless
    · intro other hother hnot
      have hle : ¬ date < other := fun hlt => hnot (compare_lt_iff_lt.2 hlt)
      have hne : other ≠ date := ne_of_mem_of_not_mem hother hnotMem
      show other < date
      omega
  case identifier =>
    intro k other hk
    change (s.dates.insertIdx _ date)[k]? = some other at hk
    show ∃ sectionIdentifier,
      (s.sectionIdentifiers.set date s.nextSectionIdentifier).get? other =
        some sectionIdentifier ∧
      (s.collectionViewModel.sectionIdentifiers.insertIdx (s.firstSectionIndex + _)
        s.nextSectionIdentifier)[s.firstSectionIndex + k]? = some sectionIdentifier
    rw [getElem?_insertIdx] at hk
    rw [Keyed.get?_set, getElem?_insertIdx]
    by_cases hlt : k < insertionIndex (comparator · date) s.dates
    · rw [if_pos hlt] at hk
      rw [if_neg (ne_of_mem_of_not_mem (mem_of_getElem? hk) hnotMem), if_pos (by omega)]
      exact h.identifier k other hk
    · rw [if_neg hlt] at hk
      by_cases heq : k = insertionIndex (comparator · date) s.dates
      · rw [if_pos heq, if_pos (heq ▸ hle)] at hk
        rw [if_pos (some.inj hk).symm, if_neg (by omega), if_pos (by omega),
          if_pos (by omega)]
        exact ⟨_, rfl, rfl⟩
      · rw [if_neg heq] at hk
        rw [if_neg (ne_of_mem_of_not_mem (mem_of_getElem? hk) hnotMem), if_neg (by omega),
          if_neg (by omega), Nat.add_sub_assoc (by omega)]
        exact h.identifier (k - 1) other hk
  case dated =>
    intro other hother
    by_cases heq : other = date
    · rw [heq]
      exact mem_insertIdx hle |>.2 (.inl rfl)
    · have hget : (s.sectionIdentifiers.set date s.nextSectionIdentifier).get? other =
          s.sectionIdentifiers.get? other := by
        rw [Keyed.get?_set, if_neg heq]
      exact (mem_insertIdx hle).2 (.inr (h.dated other (hget ▸ hother)))
  case nodup =>
    refine (perm_insertIdx _ _ hidentifiers).nodup_iff.2 ?_
    exact nodup_cons.2 ⟨hfresh, h.nodup⟩
  case entries =>
    intro k other items hk hitems
    change (s.dates.insertIdx _ date)[k]? = some other at hk
    change (s.collectionViewModel.sections.insertIdx (s.firstSectionIndex + _)
      [])[s.firstSectionIndex + k]? = some items at hitems
    rw [getElem?_insertIdx] at hk hitems
    by_cases hlt : k < insertionIndex (comparator · date) s.dates
    · rw [if_pos hlt] at hk
      rw [if_pos (by omega)] at hitems
      exact h.entries k other items hk hitems
    · rw [if_neg hlt] at hk
      rw [if_neg (by omega)] at hitems
      by_cases heq : k = insertionIndex (comparator · date) s.dates
      · rw [if_pos (by omega), if_pos (by rw [h.sections_length]; omega)] at hitems
        obtain rfl := some.inj hitems
        exact ⟨by simp, .nil⟩
      · rw [if_neg heq] at hk
        rw [if_neg (by omega), Nat.add_sub_assoc (by omega)] at hitems
        exact h.entries (k - 1) other items hk hitems

theorem HistorySorted.addSection_adds (h : HistorySorted localTime entry s) (date : Int)
    (header : Nat) : s.Adds (s.addSection date header) := by
  have hindex : s.firstSectionIndex + insertionIndex (comparator · date) s.dates ≤
      s.collectionViewModel.sectionIdentifiers.length := by
    have hle := insertionIndex_le (followsOrder_dates date) h.dates
    rw [h.length]
    omega
  exact ⟨[_], rfl, perm_insertIdx _ _ hindex,
    (perm_insertIdx [] _ (h.sections_length ▸ hindex)).flatten⟩

theorem HistorySorted.report (h : HistorySorted localTime entry s) (call : InserterReport) :
    HistorySorted localTime entry (s.report call) :=
  ⟨h.length, h.sections_length, h.dates, h.identifier, h.dated, h.nodup, h.entries⟩

/-- The items of one section change. -/
theorem HistorySorted.modifyItems (h : HistorySorted localTime entry s) (target : Int)
    (f : List CollectionViewItem → List CollectionViewItem)
    (hf : ∀ (k : Nat) (date : Int) (items : List CollectionViewItem), s.dates[k]? = some date →
      s.collectionViewModel.sectionIdentifiers[s.firstSectionIndex + k]? = some target →
      s.collectionViewModel.sections[s.firstSectionIndex + k]? = some items →
      SectionSorted localTime entry date (f items)) :
    HistorySorted localTime entry
      { s with collectionViewModel := s.collectionViewModel.modifyItems target f } := by
  rw [CollectionViewModel.modifyItems]
  cases hindex : s.collectionViewModel.internalSectionForIdentifier target with
  | none => exact h
  | some sectionIndex =>
    refine ⟨h.length, ?_, h.dates, h.identifier, h.dated, h.nodup, ?_⟩
    · exact (length_modify ..).trans h.sections_length
    · intro k date items hk hitems
      change (s.collectionViewModel.sections.modify sectionIndex f)[_]? = some items at hitems
      rw [getElem?_modify] at hitems
      obtain ⟨before, hbefore, rfl⟩ := map_eq_some_iff.1 hitems
      by_cases heq : sectionIndex = s.firstSectionIndex + k
      · rw [if_pos heq]
        obtain ⟨hlt, htarget, -⟩ := idxOf?_eq_some_iff.1 hindex
        subst heq
        exact hf k date before hk ((getElem?_eq_getElem hlt).trans (congrArg some htarget))
          hbefore
      · rw [if_neg heq]
        exact h.entries k date before hk hbefore

/-- An entry is inserted among those of its day. -/
theorem SectionSorted.insertIdx {date : Int} {items : List CollectionViewItem}
    (h : SectionSorted localTime entry date items) {item : CollectionViewItem}
    (hdate : localTime.localMidnight (entry item).timestamp = date * 1000000)
    (hnew : firstEqual? (fun other => (entry other).objectComparator (entry item)) items = none) :
    SectionSorted localTime entry date (items.insertIdx
      (insertionIndex (fun other => (entry other).objectComparator (entry item)) items) item) ∧
    insertionIndex (fun other => (entry other).objectComparator (entry item)) items ≤
      items.length := by
  have hfollows : FollowsOrder (fun other => (entry other).objectComparator (entry item))
      (fun item other => (entry item).Precedes (entry other)) :=
    fun a b hab hb => HistoryEntry.followsOrder (entry item) (entry a) (entry b) hab hb
  have hle := insertionIndex_le hfollows h.2
  rw [firstEqual?_eq_none_iff hfollows h.2] at hnew
  refine ⟨⟨fun other hother => ?_, ?_⟩, hle⟩
  · rcases (mem_insertIdx hle).1 hother with rfl | hmem
    · exact hdate
    · exact h.1 other hmem
  · refine pairwise_insertIdx_insertionIndex hfollows h.2 ?_ ?_
    · exact fun other _ hless => HistoryEntry.objectComparator_lt_iff.1 hless
    · intro other hother hnot
      rcases HistoryEntry.precedes_trichotomy (entry other) (entry item) with hlt | heq | hgt
      · exact absurd (HistoryEntry.objectComparator_lt_iff.2 hlt) hnot
      · exact absurd (HistoryEntry.objectComparator_eq_iff.2 heq) (hnew other hother)
      · exact hgt

theorem SectionSorted.sublist {date : Int} {items items' : List CollectionViewItem}
    (h : SectionSorted localTime entry date items) (hsub : items'.Sublist items) :
    SectionSorted localTime entry date items' :=
  ⟨fun item hitem => h.1 item (hsub.subset hitem), h.2.sublist hsub⟩

/-- What every call preserves, next to the order: the identifiers that were there
at first and those that were assigned are distinct, and the reports are right. -/
structure Kept (localTime : LocalTime) (entry : CollectionViewItem → HistoryEntry URL)
    (initial : List Int) (s : HistoryEntryInserter) : Prop where
  sorted : HistorySorted localTime entry s
  known : ∀ sectionIdentifier ∈ s.collectionViewModel.sectionIdentifiers,
    sectionIdentifier ∈ initial ++ s.assigned
  below : ∀ sectionIdentifier ∈ initial ++ s.assigned, sectionIdentifier < s.nextSectionIdentifier
  fresh : (initial ++ s.assigned).Nodup
  nonzero : ∀ date, s.sectionIdentifiers.get? date ≠ some 0
  right : ∀ call ∈ s.reports, call.Right

variable {initial : List Int}

theorem assigned_report (call : InserterReport) :
    (s.report call).assigned = s.assigned ++ [call].filterMap InserterReport.section? :=
  filterMap_append ..

theorem nextSectionIdentifier_pos (s : HistoryEntryInserter) : 0 < s.nextSectionIdentifier := by
  rw [nextSectionIdentifier, kSectionIdentifierEnumZero]
  omega

section

variable (h : Kept localTime entry initial s)
include h

theorem Kept.addSection {date : Int} (header : Nat) (hnew : s.sectionIdentifiers.get? date = none) :
    Kept localTime entry initial (s.addSection date header) := by
  have hfresh : s.nextSectionIdentifier ∉ initial ++ s.assigned :=
    fun hmem => lt_irrefl _ (h.below _ hmem)
  have hsorted := h.sorted.addSection header hnew fun hmem => hfresh (h.known _ hmem)
  have hassigned : (s.addSection date header).assigned =
      s.assigned ++ [s.nextSectionIdentifier] :=
    assigned_report _
  have hindex : s.firstSectionIndex + insertionIndex (comparator · date) s.dates ≤
      s.collectionViewModel.sectionIdentifiers.length := by
    have hle := insertionIndex_le (followsOrder_dates date) h.sorted.dates
    rw [h.sorted.length]
    omega
  constructor
  case sorted => exact hsorted
  case known =>
    intro sectionIdentifier hmem
    rw [hassigned, ← append_assoc, mem_append, mem_singleton]
    rcases (mem_insertIdx hindex).1 hmem with heq | hmem
    · exact .inr heq
    · exact .inl (h.known _ hmem)
  case below =>
    have hnext : (s.addSection date header).nextSectionIdentifier = s.nextSectionIdentifier + 1 := by
      show kSectionIdentifierEnumZero + (s.firstSectionIndex : Int) +
        ((s.sectionIdentifierCount + 1 : Nat) : Int) = _
      rw [nextSectionIdentifier]
      omega
    intro sectionIdentifier hmem
    rw [hassigned, ← append_assoc, mem_append, mem_singleton] at hmem
    rw [hnext]
    rcases hmem with hmem | rfl
    · have hlt := h.below _ hmem
      omega
    · omega
  case fresh =>
    rw [hassigned, ← append_assoc, nodup_append]
    refine ⟨h.fresh, nodup_singleton _, ?_⟩
    rintro other hother _ hmem rfl
    rw [mem_singleton.1 hmem] at hother
    exact hfresh hother
  case nonzero =>
    intro other
    show (s.sectionIdentifiers.set date s.nextSectionIdentifier).get? other ≠ some 0
    rw [Keyed.get?_set]
    have hpos := nextSectionIdentifier_pos s
    split
    · intro heq
      have hzero := some.inj heq
      omega
    · exact h.nonzero other
  case right =>
    intro call hcall
    rcases mem_append.1 hcall with hcall | hcall
    · exact h.right call hcall
    · obtain rfl := mem_singleton.1 hcall
      exact (getElem?_insertIdx_self ..).trans (if_pos hindex)

/-- A timestamp's section, which is added if there is none. -/
theorem Kept.sectionIdentifierForTimestamp (timestamp : Int) (header : Nat) :
    Kept localTime entry initial (s.sectionIdentifierForTimestamp localTime timestamp header).2 ∧
    s.Adds (s.sectionIdentifierForTimestamp localTime timestamp header).2 ∧
    (s.sectionIdentifierForTimestamp localTime timestamp header).2.sectionIdentifiers.get?
        (localTime.date timestamp) =
      some (s.sectionIdentifierForTimestamp localTime timestamp header).1 := by
  rw [HistoryEntryInserter.sectionIdentifierForTimestamp]
  cases hget : s.sectionIdentifiers.get? (localTime.date timestamp) with
  | none =>
    refine ⟨h.addSection header hget, h.sorted.addSection_adds _ header, ?_⟩
    exact (Keyed.get?_set ..).trans (if_pos rfl)
  | some sectionIdentifier =>
    have hne : (some sectionIdentifier).getD 0 ≠ 0 := by
      rintro rfl
      exact h.nonzero _ hget
    rw [if_pos hne]
    exact ⟨h, .refl s, hget⟩

/-- An item changes places only, if the report about it is right. -/
theorem Kept.report_of_sorted {call : InserterReport}
    (hsorted : HistorySorted localTime entry { s with collectionViewModel := model })
    (hidentifiers : model.sectionIdentifiers = s.collectionViewModel.sectionIdentifiers)
    (hcall : ∀ sectionIdentifier sectionIndex model,
      call ≠ .didInsertSection sectionIdentifier sectionIndex model)
    (hright : call.Right) :
    Kept localTime entry initial ({ s with collectionViewModel := model }.report call) := by
  have hassigned : ({ s with collectionViewModel := model }.report call).assigned = s.assigned := by
    rw [assigned_report]
    cases call with
    | didInsertItem => exact append_nil _
    | didInsertSection => exact absurd rfl (hcall _ _ _)
    | didRemoveSection => exact append_nil _
  refine ⟨hsorted.report call, ?_, ?_, hassigned.symm ▸ h.fresh, h.nonzero, ?_⟩
  · intro sectionIdentifier hmem
    rw [hassigned]
    exact h.known _ (hidentifiers ▸ hmem)
  · intro sectionIdentifier hmem
    rw [hassigned] at hmem
    exact h.below _ hmem
  · intro other hother
    rcases mem_append.1 hother with hother | hother
    · exact h.right other hother
    · rw [mem_singleton.1 hother]
      exact hright

/-- An item goes to the section of its day. -/
theorem Kept.insertItem {item : CollectionViewItem} {sectionIdentifier : Int}
    (hdate : s.sectionIdentifiers.get? (localTime.date (entry item).timestamp) =
      some sectionIdentifier) :
    Kept localTime entry initial (s.insertItem entry item sectionIdentifier) ∧
      s.Adds (s.insertItem entry item sectionIdentifier) := by
  obtain ⟨k, items, hk, hidentifier, hitems⟩ := h.sorted.exists_section hdate
  have hindex := internalSection_of_getElem? h.sorted.nodup hidentifier
  have hfound : s.collectionViewModel.itemsInSectionWithIdentifier sectionIdentifier =
      some items := by
    rw [CollectionViewModel.itemsInSectionWithIdentifier, hindex]
    exact hitems
  rw [HistoryEntryInserter.insertItem, hfound, getD_some]
  dsimp only
  split
  · rename_i hnew
    obtain ⟨hinserted, hle⟩ := (h.sorted.entries k _ items hk hitems).insertIdx
      (localTime.date_mul _).symm hnew
    have hmodel : ∀ index, s.collectionViewModel.insertItem item sectionIdentifier index =
        { s.collectionViewModel with
          sections := s.collectionViewModel.sections.modify (s.firstSectionIndex + k)
            (·.insertIdx index item) } := by
      intro index
      rw [CollectionViewModel.insertItem, CollectionViewModel.modifyItems, hindex]
    refine ⟨h.report_of_sorted (h.sorted.modifyItems sectionIdentifier _ ?_)
      (by rw [hmodel]) ?_ ?_, [_], rfl, ?_, ?_⟩
    · intro k' date items' hk' hidentifier' hitems'
      -- the section found is the only one with this identifier
      have hsame : s.firstSectionIndex + k' = s.firstSectionIndex + k :=
        some.inj ((internalSection_of_getElem? h.sorted.nodup hidentifier').symm.trans
          hindex)
      obtain rfl : k' = k := by omega
      obtain rfl := some.inj (hk'.symm.trans hk)
      obtain rfl := some.inj (hitems'.symm.trans hitems)
      exact hinserted
    · intro _ _ _ hcall
      cases hcall
    · have hsection : (s.collectionViewModel.insertItem item sectionIdentifier
          (insertionIndex (fun other => (entry other).objectComparator (entry item))
            items)).internalSectionForIdentifier sectionIdentifier =
          some (s.firstSectionIndex + k) := by
        rw [hmodel]
        exact hindex
      rw [InserterReport.Right, hsection, hmodel]
      refine ⟨hidentifier, items.insertIdx
        (insertionIndex (fun other => (entry other).objectComparator (entry item)) items) item,
        ?_, ?_⟩
      · show (s.collectionViewModel.sections.modify _ _)[_]? = _
        rw [getD_some, getElem?_modify, hitems]
        simp
      · rw [getElem?_insertIdx_self]
        exact if_pos hle
    · rw [hmodel]
      exact .refl _
    · rw [hmodel]
      exact flatten_modify_insertIdx hle hitems
  · exact ⟨h, .refl s⟩

theorem Kept.insertHistoryEntryItem (item : CollectionViewItem) (header : Nat) :
    Kept localTime entry initial (s.insertHistoryEntryItem localTime entry item header) ∧
      s.Adds (s.insertHistoryEntryItem localTime entry item header) := by
  obtain ⟨hkept, hadds, hdate⟩ := h.sectionIdentifierForTimestamp (entry item).timestamp header
  obtain ⟨hkept', hadds'⟩ := hkept.insertItem hdate
  exact ⟨hkept', hadds.trans hadds'⟩

theorem Kept.addsReported (op : Op) : s.AddsReported localTime entry op := by
  cases op with
  | insertHistoryEntryItem item header => exact (h.insertHistoryEntryItem item header).2
  | sectionIdentifierForTimestamp timestamp header =>
    exact (h.sectionIdentifierForTimestamp timestamp header).2.1
  | removeSection _ | changeModel _ => trivial

end

/-- A section of the history goes, with its date. -/
theorem HistorySorted.eraseSection (h : HistorySorted localTime entry s) {k : Nat} {date : Int}
    (hk : s.dates[k]? = some date) :
    HistorySorted localTime entry
      { s with
        collectionViewModel :=
          { s.collectionViewModel with
            sectionIdentifiers :=
              s.collectionViewModel.sectionIdentifiers.eraseIdx (s.firstSectionIndex + k)
            sections := s.collectionViewModel.sections.eraseIdx (s.firstSectionIndex + k) }
        sectionIdentifiers := s.sectionIdentifiers.erase date
        dates := s.dates.erase date } := by
  obtain ⟨hlt, hget⟩ := List.getElem?_eq_some_iff.1 hk
  have hnodup : s.dates.Nodup := h.dates.imp fun hgt => Int.ne_of_gt hgt
  have herase : s.dates.erase date = s.dates.eraseIdx k := hget ▸ hnodup.erase_getElem k hlt
  have hidentifiers : s.firstSectionIndex + k < s.collectionViewModel.sectionIdentifiers.length := by
    rw [h.length]
    omega
  -- what is behind the section moves up, in all three lists
  have hmoved : ∀ (k' : Nat) (other : Int), (s.dates.erase date)[k']? = some other →
      ∃ j, s.dates[j]? = some other ∧ ∀ {α : Type} (l : List α),
        (l.eraseIdx (s.firstSectionIndex + k))[s.firstSectionIndex + k']? =
          l[s.firstSectionIndex + j]? := by
    intro k' other hk'
    rw [herase, getElem?_eraseIdx] at hk'
    by_cases hbefore : k' < k
    · rw [if_pos hbefore] at hk'
      refine ⟨k', hk', fun l => ?_⟩
      rw [getElem?_eraseIdx, if_pos (by omega)]
    · rw [if_neg hbefore] at hk'
      refine ⟨k' + 1, hk', fun l => ?_⟩
      rw [getElem?_eraseIdx, if_neg (by omega), Nat.add_assoc]
  constructor
  case length =>
    show (s.collectionViewModel.sectionIdentifiers.eraseIdx _).length =
      s.firstSectionIndex + (s.dates.erase date).length
    rw [herase, length_eraseIdx_of_lt hidentifiers, length_eraseIdx_of_lt hlt, h.length]
    omega
  case sections_length =>
    show (s.collectionViewModel.sections.eraseIdx _).length =
      (s.collectionViewModel.sectionIdentifiers.eraseIdx _).length
    rw [length_eraseIdx_of_lt hidentifiers,
      length_eraseIdx_of_lt (h.sections_length ▸ hidentifiers), h.sections_length]
  case dates => exact h.dates.sublist erase_sublist
  case identifier =>
    intro k' other hk'
    obtain ⟨j, hj, hlists⟩ := hmoved k' other hk'
    obtain ⟨sectionIdentifier, hsome, hidentifier⟩ := h.identifier j other hj
    have hne : other ≠ date := (hnodup.mem_erase_iff.1 (mem_of_getElem? hk')).1
    refine ⟨sectionIdentifier, ?_, (hlists _).trans hidentifier⟩
    rw [Keyed.get?_erase, if_neg hne]
    exact hsome
  case dated =>
    intro other hother
    change (s.sectionIdentifiers.erase date).get? other ≠ none at hother
    rw [Keyed.get?_erase] at hother
    split at hother
    · exact absurd rfl hother
    · rename_i hne
      exact hnodup.mem_erase_iff.2 ⟨hne, h.dated other hother⟩
  case nodup => exact h.nodup.sublist (eraseIdx_sublist ..)
  case entries =>
    intro k' other items hk' hitems
    obtain ⟨j, hj, hlists⟩ := hmoved k' other hk'
    exact h.entries j other items hj ((hlists _).symm.trans hitems)

/-- What `removeSection:` does: the date it finds is that of the section. -/
theorem HistorySorted.removeSection_eq (h : HistorySorted localTime entry s) {sectionIndex : Nat}
    (hfirst : s.firstSectionIndex ≤ sectionIndex)
    (hsection : s.collectionViewModel.sections[sectionIndex]? = some []) :
    ∃ k date, s.dates[k]? = some date ∧
      s.removeSection sectionIndex =
        { s with
          collectionViewModel :=
            { s.collectionViewModel with
              sectionIdentifiers :=
                s.collectionViewModel.sectionIdentifiers.eraseIdx (s.firstSectionIndex + k)
              sections := s.collectionViewModel.sections.eraseIdx (s.firstSectionIndex + k) }
          sectionIdentifiers := s.sectionIdentifiers.erase date
          dates := s.dates.erase date }.report (.didRemoveSection sectionIndex) := by
  obtain ⟨hlt, -⟩ := List.getElem?_eq_some_iff.1 hsection
  rw [h.sections_length, h.length] at hlt
  obtain ⟨k, rfl⟩ := Nat.exists_eq_add_of_le hfirst
  have hk : s.dates[k]? = some _ := getElem?_eq_getElem (by omega)
  refine ⟨k, _, hk, ?_⟩
  obtain ⟨sectionIdentifier, hdate, hidentifier⟩ := h.identifier k _ hk
  have hindex := internalSection_of_getElem? h.nodup hidentifier
  rw [HistoryEntryInserter.removeSection, hidentifier]
  dsimp only
  rw [CollectionViewModel.removeSection, hindex]
  cases hfind : s.sectionIdentifiers.keys.find? fun date =>
      s.sectionIdentifiers.get? date = some sectionIdentifier with
  | none =>
    have hkey := Keyed.mem_keys.2 (ne_none_iff_exists'.2 ⟨_, hdate⟩)
    exact absurd hdate (by simpa using find?_eq_none.1 hfind _ hkey)
  | some date =>
    have hfound : s.sectionIdentifiers.get? date = some sectionIdentifier := by
      simpa using find?_some hfind
    obtain ⟨k', -, hk', hidentifier', -⟩ := h.exists_section hfound
    have hsame : s.firstSectionIndex + k' = s.firstSectionIndex + k :=
      some.inj ((internalSection_of_getElem? h.nodup hidentifier').symm.trans hindex)
    obtain rfl : k' = k := by omega
    obtain rfl := some.inj (hk'.symm.trans hk)
    rfl

theorem Kept.removeSection (h : Kept localTime entry initial s) {sectionIndex : Nat}
    (hfirst : s.firstSectionIndex ≤ sectionIndex)
    (hsection : s.collectionViewModel.sections[sectionIndex]? = some []) :
    Kept localTime entry initial (s.removeSection sectionIndex) := by
  obtain ⟨k, date, hk, heq⟩ := h.sorted.removeSection_eq hfirst hsection
  have hassigned : (s.removeSection sectionIndex).assigned = s.assigned := by
    rw [heq, assigned_report]
    exact append_nil _
  constructor
  case sorted =>
    rw [heq]
    exact (h.sorted.eraseSection hk).report _
  case known =>
    intro sectionIdentifier hmem
    rw [hassigned]
    rw [heq] at hmem
    exact h.known _ ((eraseIdx_sublist ..).subset hmem)
  case below =>
    rw [hassigned, heq]
    exact h.below
  case fresh => exact hassigned.symm ▸ h.fresh
  case nonzero =>
    intro other
    rw [heq]
    show (s.sectionIdentifiers.erase date).get? other ≠ some 0
    rw [Keyed.get?_erase]
    split
    · nofun
    · exact h.nonzero other
  case right =>
    intro call hcall
    rw [heq] at hcall
    rcases mem_append.1 hcall with hcall | hcall
    · exact h.right call hcall
    · rw [mem_singleton.1 hcall]
      trivial

/-- The owner changes the items of one section. -/
theorem Kept.modifyItems (h : Kept localTime entry initial s) (target : Int)
    (f : List CollectionViewItem → List CollectionViewItem)
    (hf : ∀ (k : Nat) (date : Int) (items : List CollectionViewItem), s.dates[k]? = some date →
      s.collectionViewModel.sectionIdentifiers[s.firstSectionIndex + k]? = some target →
      s.collectionViewModel.sections[s.firstSectionIndex + k]? = some items →
      SectionSorted localTime entry date (f items)) :
    Kept localTime entry initial
      { s with collectionViewModel := s.collectionViewModel.modifyItems target f } := by
  refine ⟨h.sorted.modifyItems target f hf, ?_, h.below, h.fresh, h.nonzero, h.right⟩
  rw [CollectionViewModel.modifyItems_eq]
  exact h.known

/-- A section before the history is none of the history. -/
theorem not_before_history (hnodup : s.collectionViewModel.sectionIdentifiers.Nodup)
    {sectionIdentifier : Int}
    (hbefore : sectionIdentifier ∈ s.collectionViewModel.sectionIdentifiers.take
      s.firstSectionIndex) (k : Nat) :
    s.collectionViewModel.sectionIdentifiers[s.firstSectionIndex + k]? ≠
      some sectionIdentifier := by
  intro hat
  obtain ⟨j, hj⟩ := mem_iff_getElem?.1 hbefore
  rw [getElem?_take] at hj
  split at hj
  · have hsame := (internalSection_of_getElem? hnodup hat).symm.trans
      (internalSection_of_getElem? hnodup hj)
    have := some.inj hsame
    omega
  · cases hj

theorem Kept.changeModel (h : Kept localTime entry initial s) {op : CollectionViewModel.Op}
    (hmay : s.OwnerMay op) :
    Kept localTime entry initial { s with collectionViewModel := s.collectionViewModel.step op } := by
  cases op with
  | addSection => exact hmay.elim
  | insertSection => exact hmay.elim
  | removeSection => exact hmay.elim
  | addItem item sectionIdentifier =>
    exact h.modifyItems _ _ fun k _ _ _ hat => (not_before_history h.sorted.nodup hmay k hat).elim
  | insertItem item sectionIdentifier index =>
    exact h.modifyItems _ _ fun k _ _ _ hat => (not_before_history h.sorted.nodup hmay k hat).elim
  | removeItemWithType itemType sectionIdentifier index =>
    refine h.modifyItems _ _ fun k date items hk _ hitems => ?_
    have hsection := h.sorted.entries k date items hk hitems
    split
    · exact hsection
    · exact hsection.sublist (eraseIdx_sublist ..)
  | setHeader header sectionIdentifier =>
    obtain ⟨hlength, hsections, hdates, hidentifier, hdated, hnodup, hentries⟩ := h.sorted
    exact ⟨⟨hlength, hsections, hdates, hidentifier, hdated, hnodup, hentries⟩, h.known, h.below,
      h.fresh, h.nonzero, h.right⟩
  | setFooter footer sectionIdentifier =>
    obtain ⟨hlength, hsections, hdates, hidentifier, hdated, hnodup, hentries⟩ := h.sorted
    exact ⟨⟨hlength, hsections, hdates, hidentifier, hdated, hnodup, hentries⟩, h.known, h.below,
      h.fresh, h.nonzero, h.right⟩

/-- **Step lemma**. -/
theorem Kept.step (h : Kept localTime entry initial s) (op : Op) (hpre : op.Pre s) :
    Kept localTime entry initial (s.step localTime entry op) := by
  cases op with
  | insertHistoryEntryItem item header => exact (h.insertHistoryEntryItem item header).1
  | sectionIdentifierForTimestamp timestamp header =>
    exact (h.sectionIdentifierForTimestamp timestamp header).1
  | removeSection sectionIndex => exact h.removeSection hpre.1 hpre.2
  | changeModel op => exact h.changeModel hpre.2

theorem kept_initWithModel (hmodel : model.BeforeHistory) :
    Kept localTime entry model.sectionIdentifiers (initWithModel model) := by
  have hassigned : (initWithModel model).assigned = [] := rfl
  constructor
  case sorted =>
    exact ⟨hmodel.length.symm, hmodel.length, .nil, nofun, fun _ hdate => absurd rfl hdate,
      hmodel.nodup, nofun⟩
  case known =>
    rw [hassigned, append_nil]
    exact fun _ hmem => hmem
  case below =>
    rw [hassigned, append_nil]
    intro sectionIdentifier hmem
    have hlt := hmodel.below sectionIdentifier hmem
    show _ < kSectionIdentifierEnumZero + (model.sections.length : Int) + ((0 : Nat) : Int)
    omega
  case fresh =>
    rw [hassigned, append_nil]
    exact hmodel.nodup
  case nonzero => nofun
  case right => nofun

end Steps

/-- **Order of the history**: in every run the sections of the history are those of
its dates and descend, entries are in the section of their day and sorted, no
identifier is given twice, and the delegate is told of all items and sections that are
inserted, and where they are. -/
theorem history_stays_sorted {URL : Type u} [LinearOrder URL] (localTime : LocalTime)
    (entry : CollectionViewItem → HistoryEntry URL) (model : CollectionViewModel)
    (hmodel : model.BeforeHistory) (ops : List Op)
    (hlegal : (machine localTime entry).Legal (initWithModel model) ops) :
    HistorySorted localTime entry ((machine localTime entry).run (initWithModel model) ops) ∧
    (model.sectionIdentifiers ++
      ((machine localTime entry).run (initWithModel model) ops).assigned).Nodup ∧
    (∀ call ∈ ((machine localTime entry).run (initWithModel model) ops).reports, call.Right) ∧
    ∀ op, ((machine localTime entry).run (initWithModel model) ops).AddsReported localTime entry
      op := by
  have hkept : Kept localTime entry model.sectionIdentifiers
      ((machine localTime entry).run (initWithModel model) ops) :=
    Machine.run_invariant (I := Kept localTime entry model.sectionIdentifiers)
      (fun _ op h hpre => h.step op hpre) (kept_initWithModel hmodel) hlegal
  exact ⟨hkept.sorted, hkept.fresh, hkept.right, hkept.addsReported⟩

/-- Days that begin at midnight UTC. -/
def utc : LocalTime where
  localMidnight time := time / 86400000000 * 86400000000
  wholeSeconds time := Int.dvd_mul_of_dvd_right (by decide)

/-- Items whose object is the URL, visited at the time of their type. -/
def visited (item : CollectionViewItem) : HistoryEntry Int := ⟨item.object, item.type⟩

/-- Entries of three days, one of them twice; the day in the middle is emptied and
its section removed, and comes back. -/
def threeDays : List Op :=
  [.insertHistoryEntryItem ⟨1, 200⟩ 0, .insertHistoryEntryItem ⟨2, 172800000300⟩ 0,
    .insertHistoryEntryItem ⟨3, 86400000100⟩ 0, .insertHistoryEntryItem ⟨1, 86400000100⟩ 0,
    .insertHistoryEntryItem ⟨3, 86400000100⟩ 0, .insertHistoryEntryItem ⟨4, 300⟩ 0,
    .changeModel (.removeItemWithType 86400000100 13 0),
    .changeModel (.removeItemWithType 86400000100 13 0),
    .removeSection 2, .insertHistoryEntryItem ⟨5, 86400000500⟩ 0]

theorem history_of_three_days_stays_sorted :
    ((machine utc visited).run (initWithModel (.addSection .init 10)) threeDays
      ).collectionViewModel.sections =
        [[], [⟨2, 172800000300⟩], [⟨5, 86400000500⟩], [⟨4, 300⟩, ⟨1, 200⟩]] ∧
      HistorySorted utc visited
        ((machine utc visited).run (initWithModel (.addSection .init 10)) threeDays) := by
  have hlegal : (machine utc visited).Legal (initWithModel (.addSection .init 10)) threeDays :=
    by decide +kernel
  exact ⟨by decide +kernel, (history_stays_sorted utc visited _
    ⟨rfl, by decide, by decide⟩ threeDays hlegal).1⟩

end HistoryEntryInserter

end ChromiumIos
