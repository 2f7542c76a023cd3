import Mathlib.Data.List.MinMax
import ChromiumIos.Ui.ReadingListMediator
import ChromiumIos.Ui.ReadingListMoves

/-!
# Marking items of the reading list

Selected items are marked read or unread: their entries are stamped, from the last item to the
first, and the items move to the section of their new status. The mediator sorts entries by their
stamps.

- `Stamps`: what the model does with a new status.
- `Ordered`: an order of the items of one status that the mediator may give.
- `ordered_foldr_setReadStatus`: the stamps put the items in the order of the screen.
- `marksInOrder`: both sections, and their order, after items were marked.
-/

namespace ChromiumIos

open Lib List

namespace ReadingListController

open CollectionViewModel

/-! ## The selected items -/

section Items

variable {s : CollectionViewModel}

theorem filterMap_indexPaths (s : CollectionViewModel) :
    s.indexPaths.filterMap s.itemAtIndexPath = s.sections.flatten := by
  have hsection : ∀ k ∈ List.range s.sections.length,
      ((List.range (s.numberOfItemsInSection k)).map (IndexPath.mk k)).filterMap
        s.itemAtIndexPath = s.sections[k]?.getD [] := by
    intro k hk
    obtain ⟨items, hitems⟩ : ∃ items, s.sections[k]? = some items :=
      ⟨_, getElem?_eq_getElem (mem_range.1 hk)⟩
    have hat : s.itemAtIndexPath ∘ IndexPath.mk k = fun i => items[i]? := by
      funext i
      simp [itemAtIndexPath, hitems]
    rw [numberOfItemsInSection, hitems, filterMap_map, hat]
    exact filterMap_getElem?_range items
  have hall : (List.range s.sections.length).map (fun k => s.sections[k]?.getD []) =
      s.sections := by
    refine ext_getElem (by simp) fun k h₁ h₂ => ?_
    simp [getElem?_eq_getElem h₂]
  rw [indexPaths, filterMap_flatMap, numberOfSections]
  conv_rhs => rw [← hall]
  rw [← flatMap_def]
  exact flatMap_congr hsection

/-- Sorted, the selected index paths lead to the selected items in the order of the sections. -/
theorem filterMap_sortedIndexPaths (hdistinct : s.DistinctObjects) {indexPaths : List IndexPath}
    (hnodup : indexPaths.Nodup) (hvalid : ∀ indexPath ∈ indexPaths, indexPath ∈ s.indexPaths) :
    (sortedIndexPaths indexPaths).filterMap s.itemAtIndexPath =
      s.sections.flatten.filter (selected s indexPaths) := by
  rw [sortedIndexPaths_eq hnodup hvalid, ← filterMap_indexPaths, filter_filterMap,
    filterMap_filter]
  refine filterMap_congr fun indexPath hmem => ?_
  obtain ⟨item, hat⟩ := Option.isSome_iff_exists.1 (mem_indexPaths.1 hmem)
  obtain ⟨items, hitems, hitem⟩ := itemAtIndexPath_eq_some_iff.1 hat
  rw [hat, Option.filter_some, ← selected_eq hdistinct indexPaths hitems hitem]

end Items

/-- Every index path leads to an item: the entries are updated from the last one to the first. -/
theorem updateIndexPaths_eq {M : Type} {c : Controller M} {indexPaths : List IndexPath}
    (hvalid : ∀ indexPath ∈ indexPaths, indexPath ∈ c.collectionViewModel.indexPaths)
    (updater : M → CollectionViewItem → M) :
    updateIndexPaths c indexPaths updater =
      some { c with
        model := (indexPaths.filterMap c.collectionViewModel.itemAtIndexPath).foldr
          (fun item model => updater model item) c.model } := by
  rw [updateIndexPaths, foldlM_reverse]
  induction indexPaths with
  | nil => rfl
  | cons indexPath indexPaths ih =>
    obtain ⟨hhead, hrest⟩ := forall_mem_cons.1 hvalid
    obtain ⟨item, hitem⟩ := Option.isSome_iff_exists.1 (mem_indexPaths.1 hhead)
    rw [foldrM_cons, ih hrest, filterMap_cons_some hitem, foldr_cons]
    show Option.map _ (c.collectionViewModel.itemAtIndexPath indexPath) = _
    rw [hitem]
    rfl

/-- The selected items are marked and moved. -/
theorem markItemsAtIndexPath_eq {M GURL : Type} {c : Controller M} {status : Bool}
    {target other : List CollectionViewItem}
    (h : DisplaysArranged c.collectionViewModel status target other)
    (hlisted : Listed (target ++ other)) {indexPaths : List IndexPath} (hnodup : indexPaths.Nodup)
    (hvalid : ∀ indexPath ∈ indexPaths, indexPath ∈ c.collectionViewModel.indexPaths)
    (source : DataSource M GURL) (header : Int → CollectionViewItem) :
    ∃ s', markItemsAtIndexPath source header status (sectionOf status) c indexPaths =
        some ⟨s', ((if status then other ++ target else target ++ other).filter
          (selected c.collectionViewModel indexPaths)).foldr
            (fun item model => source.setReadStatus model (source.url item) status) c.model⟩ ∧
      DisplaysArranged s' status
        (other.filter (selected c.collectionViewModel indexPaths) ++ target)
        (other.filter fun item => !selected c.collectionViewModel indexPaths item) := by
  obtain ⟨s', hs', hshown⟩ := displays_moveSelectedItems h hlisted hnodup hvalid header
  have hflatten : c.collectionViewModel.sections.flatten =
      if status then other ++ target else target ++ other := by
    rw [h.2, flatten_filter_isEmpty]
    cases status <;> simp [arranged, bothSections]
  have hitems := filterMap_sortedIndexPaths (h.distinctObjects hlisted) hnodup hvalid
  rw [hflatten] at hitems
  have hsorted : ∀ indexPath ∈ sortedIndexPaths indexPaths,
      indexPath ∈ c.collectionViewModel.indexPaths := fun indexPath hmem =>
    hvalid indexPath ((mergeSort_perm ..).mem_iff.1 hmem)
  have hupdate := updateIndexPaths_eq hsorted fun model item =>
    source.setReadStatus model (source.url item) status
  rw [hitems] at hupdate
  refine ⟨s', ?_, hshown⟩
  rw [markItemsAtIndexPath, hupdate, Option.bind_some, hs', Option.map_some]

/-! ## The order of the entries -/

section Order

export ReadingListMediator (ReadingListEntry)

open ReadingListMediator (Environment EntrySorter fillItems)

variable {GURL : Type} [DecidableEq GURL]

/-- `ReadingListModel::SetReadStatus`: a new status is stamped with a later time, and the status
that an entry has already changes nothing. -/
structure Stamps (setReadStatus : List (ReadingListEntry GURL) → GURL → Bool →
    List (ReadingListEntry GURL)) : Prop where
  same : ∀ entries : List (ReadingListEntry GURL), (entries.map (·.url)).Nodup →
    ∀ entry ∈ entries, setReadStatus entries entry.url entry.isRead = entries
  changed : ∀ entries : List (ReadingListEntry GURL), (entries.map (·.url)).Nodup →
    ∀ entry ∈ entries, ∃ later, (∀ e ∈ entries, e.updateTime < later) ∧
      setReadStatus entries entry.url (!entry.isRead) = entries.map fun e =>
        if e.url = entry.url then { e with isRead := !entry.isRead, updateTime := later } else e

/-- The URLs are those of the entries with this status, in an order that `EntrySorter` allows. -/
def Ordered (entries : List (ReadingListEntry GURL)) (read : Bool) (urls : List GURL) : Prop :=
  ∃ sorted : List (ReadingListEntry GURL),
    sorted.Perm (entries.filter fun entry => entry.isRead = read) ∧
    sorted.Pairwise (fun a b => EntrySorter b a = false) ∧ sorted.map (·.url) = urls

/-- Both lists of URLs are in such an order. -/
structure BothOrdered (entries : List (ReadingListEntry GURL)) (read : Bool)
    (target other : List GURL) : Prop where
  nodup : (entries.map (·.url)).Nodup
  target : Ordered entries read target
  other : Ordered entries (!read) other

variable {setReadStatus : List (ReadingListEntry GURL) → GURL → Bool →
    List (ReadingListEntry GURL)} {entries : List (ReadingListEntry GURL)} {read : Bool}

/-- The other entries stay as they are. -/
theorem Stamps.perm (hstamps : Stamps setReadStatus) (hnodup : (entries.map (·.url)).Nodup)
    {entry : ReadingListEntry GURL} (hentry : entry ∈ entries) :
    ∃ later, (∀ e ∈ entries, e.updateTime < later) ∧
      (setReadStatus entries entry.url (!entry.isRead)).map (·.url) = entries.map (·.url) ∧
      (setReadStatus entries entry.url (!entry.isRead)).Perm
        ({ entry with isRead := !entry.isRead, updateTime := later } :: entries.erase entry) := by
  obtain ⟨later, hlater, heq⟩ := hstamps.changed entries hnodup entry hentry
  refine ⟨later, hlater, ?_, ?_⟩
  · rw [heq, map_map]
    refine map_congr_left fun e _ => ?_
    rw [Function.comp_apply]
    split <;> rfl
  · have hperm := perm_cons_erase hentry
    have hother : ∀ e ∈ entries.erase entry, e.url ≠ entry.url := by
      have hnodup' := ((hperm.map (·.url)).nodup_iff).1 hnodup
      intro e he heq
      exact (nodup_cons.1 hnodup').1 (mem_map.2 ⟨e, he, heq⟩)
    rw [heq]
    refine (hperm.map _).trans ?_
    rw [map_cons, if_pos rfl]
    refine List.Perm.cons _ (List.Perm.of_eq ?_)
    rw [map_congr_left fun e he => if_neg (hother e he), map_id']

/-- The entry that is marked goes to the front. -/
theorem BothOrdered.mark (hstamps : Stamps setReadStatus) {target before after : List GURL}
    {url : GURL} (h : BothOrdered entries read target (before ++ url :: after)) :
    BothOrdered (setReadStatus entries url read) read (url :: target) (before ++ after) := by
  obtain ⟨sorted, hperm, hsorted, rfl⟩ := h.target
  obtain ⟨others, hothers, hpairwise, hurls⟩ := h.other
  obtain ⟨before', rest, rfl, rfl, hrest⟩ := map_eq_append_iff.1 hurls
  obtain ⟨entry, after', rfl, rfl, rfl⟩ := map_eq_cons_iff.1 hrest
  have hmem := mem_filter.1
    (hothers.mem_iff.1 (mem_append_right before' mem_cons_self))
  have hstatus : entry.isRead = !read := by simpa using hmem.2
  obtain ⟨later, hlater, hurl, hmarked⟩ := hstamps.perm h.nodup hmem.1
  rw [hstatus, Bool.not_not] at hurl hmarked
  have hentries := perm_cons_erase hmem.1
  -- The other entries of the status are those that the marked entry goes in front of.
  have htarget : sorted.Perm ((entries.erase entry).filter fun e => e.isRead = read) := by
    have hfilter := hperm.trans (hentries.filter _)
    rwa [filter_cons_of_neg (by simp [hstatus])] at hfilter
  have hother : (before' ++ after').Perm
      ((entries.erase entry).filter fun e => e.isRead = !read) := by
    have hfilter := hothers.trans (hentries.filter _)
    rw [filter_cons_of_pos (by simp [hstatus])] at hfilter
    exact (perm_middle.symm.trans hfilter).cons_inv
  refine ⟨by rw [hurl]; exact h.nodup,
    ⟨{ entry with isRead := read, updateTime := later } :: sorted, ?_, ?_, rfl⟩,
    ⟨before' ++ after', ?_, ?_, map_append⟩⟩
  · refine List.Perm.trans ?_ (hmarked.filter _).symm
    rw [filter_cons_of_pos (by simp)]
    exact htarget.cons _
  · refine pairwise_cons.2 ⟨fun e he => ?_, hsorted⟩
    have := hlater e (mem_filter.1 (hperm.mem_iff.1 he)).1
    simp only [EntrySorter, decide_eq_false_iff_not]
    omega
  · refine List.Perm.trans ?_ (hmarked.filter _).symm
    rw [filter_cons_of_neg (by simp)]
    exact hother
  · exact hpairwise.sublist (List.Sublist.append_left (sublist_cons_self _ _) _)

section Selected

variable {α : Type} {url : α → GURL}

/-- The selected entries of a list are marked from the last to the first. -/
theorem BothOrdered.foldr_mark (hstamps : Stamps setReadStatus) (p : α → Bool)
    {target before : List GURL} {items : List α}
    (h : BothOrdered entries read target (before ++ items.map url)) :
    BothOrdered
      ((items.filter p).foldr (fun item entries => setReadStatus entries (url item) read) entries)
      read ((items.filter p).map url ++ target)
      (before ++ (items.filter fun item => !p item).map url) := by
  induction items generalizing before with
  | nil => exact h
  | cons item items ih =>
    rw [map_cons, append_cons] at h
    have hrest := ih h
    rw [append_assoc] at hrest
    by_cases hp : p item = true
    · rw [filter_cons_of_pos hp, filter_cons_of_neg (by simp [hp])]
      exact hrest.mark hstamps
    · rw [filter_cons_of_neg hp, filter_cons_of_pos (by simp [hp])]
      exact hrest

/-- What has the status already is not marked again. -/
theorem Ordered.foldr_same (hstamps : Stamps setReadStatus) (hnodup : (entries.map (·.url)).Nodup)
    {urls : List GURL} (h : Ordered entries read urls) {marked : List α}
    (hmarked : ∀ item ∈ marked, url item ∈ urls) :
    marked.foldr (fun item entries => setReadStatus entries (url item) read) entries =
      entries := by
  obtain ⟨sorted, hperm, -, rfl⟩ := h
  induction marked with
  | nil => rfl
  | cons item marked ih =>
    obtain ⟨hitem, hrest⟩ := forall_mem_cons.1 hmarked
    obtain ⟨entry, hentry, hurl⟩ := mem_map.1 hitem
    have hmem := mem_filter.1 (hperm.mem_iff.1 hentry)
    have hstatus : entry.isRead = read := by simpa using hmem.2
    rw [foldr_cons, ih hrest, ← hurl, ← hstatus]
    exact hstamps.same entries hnodup entry hmem.1

/-- The selected items of both sections are marked, in whichever order the sections are. -/
theorem BothOrdered.foldr_selected (hstamps : Stamps setReadStatus) (p : α → Bool)
    {target other : List α}
    (h : BothOrdered entries read (target.map url) (other.map url)) :
    BothOrdered
      (((if read then other ++ target else target ++ other).filter p).foldr
        (fun item entries => setReadStatus entries (url item) read) entries)
      read ((other.filter p ++ target).map url) ((other.filter fun item => !p item).map url) := by
  have hsame : ∀ {entries' : List (ReadingListEntry GURL)} {urls : List GURL},
      (entries'.map (·.url)).Nodup → Ordered entries' read urls → target.map url ⊆ urls →
      (target.filter p).foldr (fun item entries => setReadStatus entries (url item) read)
        entries' = entries' := fun hnodup hordered hsub =>
    hordered.foldr_same hstamps hnodup fun item hitem =>
      hsub (mem_map_of_mem (mem_of_mem_filter hitem))
  have hmark := BothOrdered.foldr_mark hstamps p
    (show BothOrdered entries read (target.map url) ([] ++ other.map url) from h)
  rw [← map_append] at hmark
  cases read with
  | true =>
    rw [if_pos rfl, filter_append, foldr_append,
      hsame h.nodup h.target (List.Subset.refl _)]
    exact hmark
  | false =>
    rw [if_neg (by decide), filter_append, foldr_append, hsame hmark.nodup hmark.target
      (map_append ▸ subset_append_right _ _)]
    exact hmark

end Selected

/-! ### Without ties -/

theorem Stamps.map_url (hstamps : Stamps setReadStatus) (hnodup : (entries.map (·.url)).Nodup)
    {url : GURL} (hurl : url ∈ entries.map (·.url)) :
    (setReadStatus entries url read).map (·.url) = entries.map (·.url) := by
  obtain ⟨entry, hentry, rfl⟩ := mem_map.1 hurl
  by_cases hstatus : read = entry.isRead
  · rw [hstatus, hstamps.same entries hnodup entry hentry]
  · obtain ⟨-, -, hurls, -⟩ := hstamps.perm hnodup hentry
    rw [Bool.eq_not.2 hstatus, hurls]

theorem Stamps.nodup_updateTime (hstamps : Stamps setReadStatus)
    (hnodup : (entries.map (·.url)).Nodup) (htimes : (entries.map (·.updateTime)).Nodup)
    {url : GURL} (hurl : url ∈ entries.map (·.url)) :
    ((setReadStatus entries url read).map (·.updateTime)).Nodup := by
  obtain ⟨entry, hentry, rfl⟩ := mem_map.1 hurl
  by_cases hstatus : read = entry.isRead
  · rw [hstatus, hstamps.same entries hnodup entry hentry]
    exact htimes
  · obtain ⟨later, hlater, -, hmarked⟩ := hstamps.perm hnodup hentry
    rw [Bool.eq_not.2 hstatus]
    refine ((hmarked.map _).nodup_iff).2 (nodup_cons.2 ⟨fun hmem => ?_, ?_⟩)
    · obtain ⟨e, he, heq⟩ := mem_map.1 hmem
      exact Int.ne_of_lt (hlater e (mem_of_mem_erase he)) heq
    · exact htimes.sublist (erase_sublist.map _)

/-- No two entries get the same stamp. -/
theorem Stamps.foldr_nodup_updateTime (hstamps : Stamps setReadStatus)
    (hnodup : (entries.map (·.url)).Nodup) (htimes : (entries.map (·.updateTime)).Nodup)
    {α : Type} {url : α → GURL} {marked : List α}
    (hmarked : ∀ item ∈ marked, url item ∈ entries.map (·.url)) :
    ((marked.foldr (fun item entries => setReadStatus entries (url item) read) entries).map
      (·.updateTime)).Nodup := by
  suffices h : (marked.foldr (fun item entries => setReadStatus entries (url item) read)
      entries).map (·.url) = entries.map (·.url) ∧
      ((marked.foldr (fun item entries => setReadStatus entries (url item) read) entries).map
        (·.updateTime)).Nodup from h.2
  induction marked with
  | nil => exact ⟨rfl, htimes⟩
  | cons item marked ih =>
    obtain ⟨hitem, hrest⟩ := forall_mem_cons.1 hmarked
    obtain ⟨hurls, htimes'⟩ := ih hrest
    have hnodup' := hurls ▸ hnodup
    have hitem' := hurls ▸ hitem
    exact ⟨(hstamps.map_url hnodup' hitem').trans hurls,
      hstamps.nodup_updateTime hnodup' htimes' hitem'⟩

omit [DecidableEq GURL] in
/-- `std::sort` leaves nothing out of order. -/
def Sorts (env : Environment GURL) : Prop :=
  ∀ l, (env.sort EntrySorter l).Pairwise fun a b => EntrySorter b a = false

omit [DecidableEq GURL] in
theorem ordered_fillItems {env : Environment GURL} (hsort : Sorts env) (read : Bool)
    (entries : List (ReadingListEntry GURL)) :
    Ordered entries read ((fillItems env read entries).map (·.url)) := by
  refine ⟨_, env.sort_perm _ _, hsort _, ?_⟩
  rw [fillItems, map_map]
  rfl

omit [DecidableEq GURL] in
/-- Without ties there is only one order. -/
theorem Ordered.fillItems_eq {env : Environment GURL} (hsort : Sorts env)
    (htimes : (entries.map (·.updateTime)).Nodup) {urls : List GURL}
    (h : Ordered entries read urls) : (fillItems env read entries).map (·.url) = urls := by
  obtain ⟨sorted, hperm, hsorted, rfl⟩ := h
  have heq : env.sort EntrySorter (entries.filter fun entry => entry.isRead = read) = sorted := by
    refine List.Perm.eq_of_pairwise ?_ (hsort _) hsorted ((env.sort_perm _ _).trans hperm.symm)
    intro a b ha hb hab hba
    simp only [EntrySorter, decide_eq_false_iff_not] at hab hba
    have ha' := (mem_filter.1 ((env.sort_perm _ _).mem_iff.1 ha)).1
    have hb' := (mem_filter.1 (hperm.mem_iff.1 hb)).1
    exact inj_on_of_nodup_map htimes ha' hb' (by omega)
  rw [fillItems, map_map, heq]
  rfl

end Order

/-! ## Both sections -/

section Marking

open ReadingListMediator (Environment fillReadItems)

variable {GURL : Type} (env : Environment GURL)
  (source : DataSource (List (ReadingListEntry GURL)) GURL)
  (header : Int → CollectionViewItem)

/-- The items are in an order that the mediator may give the entries. -/
def InOrder (entries : List (ReadingListEntry GURL)) (unread read : List CollectionViewItem) :
    Prop :=
  BothOrdered entries true (read.map source.url) (unread.map source.url)

/-- The items are those that the mediator fills the sections with. -/
def Fills (entries : List (ReadingListEntry GURL)) (unread read : List CollectionViewItem) :
    Prop :=
  (fillReadItems env entries).1.map (·.url) = read.map source.url ∧
    (fillReadItems env entries).2.map (·.url) = unread.map source.url

variable {env source}

theorem BothOrdered.symm {entries : List (ReadingListEntry GURL)} {read : Bool}
    {target other : List GURL} (h : BothOrdered entries read target other) :
    BothOrdered entries (!read) other target :=
  ⟨h.nodup, h.other, (Bool.not_not read).symm ▸ h.target⟩

theorem Fills.inOrder (hsort : Sorts env) {entries : List (ReadingListEntry GURL)}
    (hnodup : (entries.map (·.url)).Nodup) {unread read : List CollectionViewItem}
    (h : Fills env source entries unread read) : InOrder source entries unread read where
  nodup := hnodup
  target := h.1 ▸ ordered_fillItems hsort true entries
  other := h.2 ▸ ordered_fillItems hsort false entries

theorem InOrder.fills (hsort : Sorts env) {entries : List (ReadingListEntry GURL)}
    (htimes : (entries.map (·.updateTime)).Nodup) {unread read : List CollectionViewItem}
    (h : InOrder source entries unread read) : Fills env source entries unread read :=
  ⟨h.target.fillItems_eq hsort htimes, h.other.fillItems_eq hsort htimes⟩

theorem InOrder.mem {entries : List (ReadingListEntry GURL)} {unread read : List CollectionViewItem}
    (h : InOrder source entries unread read) {item : CollectionViewItem}
    (hitem : item ∈ unread ++ read) : source.url item ∈ entries.map (·.url) := by
  have hordered : ∀ {status : Bool} {items : List CollectionViewItem},
      Ordered entries status (items.map source.url) → item ∈ items →
      source.url item ∈ entries.map (·.url) := by
    rintro status items ⟨sorted, hperm, -, hurls⟩ hmem
    obtain ⟨entry, hentry, hurl⟩ := mem_map.1 (hurls ▸ mem_map_of_mem hmem)
    exact mem_map.2
      ⟨entry, (mem_filter.1 (hperm.mem_iff.1 hentry)).1, hurl⟩
  rcases mem_append.1 hitem with hmem | hmem
  · exact hordered h.other hmem
  · exact hordered h.target hmem

variable [DecidableEq GURL]

variable (env source) in
/-- The sections after items were marked, and their order if the model stamps the entries. -/
structure Marked (c c' : Controller (List (ReadingListEntry GURL)))
    (unread read unread' read' : List CollectionViewItem) : Prop where
  displays : Displays c'.collectionViewModel unread' read'
  inOrder : Stamps source.setReadStatus → InOrder source c.model unread read →
    InOrder source c'.model unread' read'
  fills : Stamps source.setReadStatus → Sorts env → (c.model.map (·.url)).Nodup →
    (c.model.map (·.updateTime)).Nodup → Fills env source c.model unread read →
    Fills env source c'.model unread' read'

variable {c : Controller (List (ReadingListEntry GURL))} {unread read : List CollectionViewItem}

theorem InOrder.marked {unread read unread' read' : List CollectionViewItem}
    {c : Controller (List (ReadingListEntry GURL))} {s' : CollectionViewModel}
    {items : List CollectionViewItem} {status : Bool} (hitems : items ⊆ unread ++ read)
    (hdisplays : Displays s' unread' read')
    (horder : Stamps source.setReadStatus → InOrder source c.model unread read →
      InOrder source (items.foldr (fun item model =>
        source.setReadStatus model (source.url item) status) c.model) unread' read') :
    Marked env source c ⟨s', items.foldr (fun item model =>
      source.setReadStatus model (source.url item) status) c.model⟩ unread read unread' read' where
  displays := hdisplays
  inOrder := horder
  fills hstamps hsort hnodup htimes hfills := by
    have hin := hfills.inOrder hsort hnodup
    exact (horder hstamps hin).fills hsort (hstamps.foldr_nodup_updateTime hnodup htimes
      fun item hitem => hin.mem (hitems hitem))

variable (env source) in
/-- Marked items come first in the section of their new status, and the mediator agrees. -/
theorem marksInOrder (hdisplays : Displays c.collectionViewModel unread read)
    (hlisted : Listed (unread ++ read)) {indexPaths : List IndexPath} (hnodup : indexPaths.Nodup)
    (hvalid : ∀ indexPath ∈ indexPaths, indexPath ∈ c.collectionViewModel.indexPaths) :
    (∃ c', markItemsReadAtIndexPath source header c indexPaths = some c' ∧
      Marked env source c c' unread read
        (unread.filter fun item => !selected c.collectionViewModel indexPaths item)
        (unread.filter (selected c.collectionViewModel indexPaths) ++ read)) ∧
    ∃ c', markItemsUnreadAtIndexPath source header c indexPaths = some c' ∧
      Marked env source c c' unread read
        (read.filter (selected c.collectionViewModel indexPaths) ++ unread)
        (read.filter fun item => !selected c.collectionViewModel indexPaths item) := by
  have hunread : DisplaysArranged c.collectionViewModel false unread read := hdisplays
  have hread : DisplaysArranged c.collectionViewModel true read unread := hdisplays
  constructor
  · obtain ⟨s', hs', hshown⟩ := markItemsAtIndexPath_eq hread
      (hlisted.perm perm_append_comm) hnodup hvalid source header
    refine ⟨_, hs', InOrder.marked (filter_subset_self _) hshown fun hstamps horder => ?_⟩
    exact horder.foldr_selected hstamps (selected c.collectionViewModel indexPaths)
  · obtain ⟨s', hs', hshown⟩ := markItemsAtIndexPath_eq hunread hlisted hnodup hvalid source header
    refine ⟨_, hs', InOrder.marked (filter_subset_self _) hshown fun hstamps horder => ?_⟩
    exact (horder.symm.foldr_selected hstamps (selected c.collectionViewModel indexPaths)).symm

/-! ### An example -/

open ReadingListMediator (EntrySorter oneSite untitledEntry)

/-- A model whose clock is ahead of all entries. The items point to the pages. -/
def stampedSource : DataSource (List (ReadingListEntry Nat)) Nat where
  setReadStatus entries url read :=
    if entries.any fun e => e.url = url && e.isRead != read then
      let later := (entries.map (·.updateTime)).foldr max 0 + 1
      entries.map fun e => if e.url = url then { e with isRead := read, updateTime := later } else e
    else entries
  removeEntryByURL entries url := entries.filter fun e => e.url ≠ url
  url item := item.object

theorem stamps_stampedSource : Stamps stampedSource.setReadStatus where
  same entries hnodup entry hentry := by
    have hnone : (entries.any fun e => e.url = entry.url && e.isRead != entry.isRead) = false := by
      refine any_eq_false.2 fun e he h => ?_
      simp only [Bool.and_eq_true, decide_eq_true_eq, bne_iff_ne] at h
      exact h.2 (congrArg (·.isRead) (inj_on_of_nodup_map hnodup he hentry h.1))
    simp only [stampedSource, hnone, Bool.false_eq_true, if_false]
  changed entries _ entry hentry := by
    have hsome : (entries.any fun e => e.url = entry.url && e.isRead != !entry.isRead) = true :=
      any_eq_true.2 ⟨entry, hentry, by simp⟩
    refine ⟨(entries.map (·.updateTime)).foldr max 0 + 1, fun e he => ?_, ?_⟩
    · have hle : e.updateTime ≤ (entries.map (·.updateTime)).foldr max 0 :=
        le_max_of_le' 0 (mem_map_of_mem he) (Int.le_refl _)
      omega
    · simp only [stampedSource, hsome, if_true]

theorem sorts_oneSite : Sorts oneSite := by
  intro l
  let less : ReadingListEntry Nat → ReadingListEntry Nat → Prop :=
    fun a b => EntrySorter b a = false
  have : Std.Total less := ⟨fun a b => by simp only [less, EntrySorter]; grind⟩
  have : IsTrans _ less := ⟨fun a b c => by simp only [less, EntrySorter]; grind⟩
  exact pairwise_insertionSort less l

/-- Two pages that are not read, and one that is. -/
def threePages : Controller (List (ReadingListEntry Nat)) where
  collectionViewModel :=
    { sectionIdentifiers := [SectionIdentifierUnread, SectionIdentifierRead]
      sections := [[⟨1, ItemTypeItem⟩, ⟨2, ItemTypeItem⟩], [⟨3, ItemTypeItem⟩]]
      headers := .empty
      footers := .empty }
  model := [untitledEntry 1 20, untitledEntry 2 10, { untitledEntry 3 5 with isRead := true }]

theorem threePages_marked :
    ∃ c', markItemsReadAtIndexPath stampedSource (fun _ => ⟨0, ItemTypeHeader⟩) threePages
        [⟨1, 0⟩, ⟨0, 1⟩] = some c' ∧
      Displays c'.collectionViewModel [⟨1, ItemTypeItem⟩] [⟨2, ItemTypeItem⟩, ⟨3, ItemTypeItem⟩] ∧
      Fills oneSite stampedSource c'.model [⟨1, ItemTypeItem⟩]
        [⟨2, ItemTypeItem⟩, ⟨3, ItemTypeItem⟩] := by
  have hdisplays : Displays threePages.collectionViewModel
      [⟨1, ItemTypeItem⟩, ⟨2, ItemTypeItem⟩] [⟨3, ItemTypeItem⟩] := ⟨rfl, rfl⟩
  have hnodup : [IndexPath.mk 1 0, ⟨0, 1⟩].Nodup := by decide
  obtain ⟨⟨c', hc', hmarked⟩, -⟩ := marksInOrder oneSite stampedSource
    (fun _ => ⟨0, ItemTypeHeader⟩) hdisplays ⟨by decide, by decide⟩ hnodup (by decide)
  have hfills : Fills oneSite stampedSource threePages.model
      [⟨1, ItemTypeItem⟩, ⟨2, ItemTypeItem⟩] [⟨3, ItemTypeItem⟩] := ⟨by decide, by decide⟩
  exact ⟨c', hc', hmarked.displays, hmarked.fills stamps_stampedSource sorts_oneSite (by decide)
    (by decide) hfills⟩

end Marking

end ReadingListController

end ChromiumIos
