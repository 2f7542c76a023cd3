import ChromiumIos.Ui.ReadingListMarking

/-!
# Actions on one item of the reading list

The accessibility actions of an item delete its entry or change its status. The controller looks
for the item with `isEqual:`, which compares what the cell shows and not the URL, and goes on with
the first item that it finds.

- `deleteEntry`, `markEntryRead`, `markEntryUnread`: the actions.
- `First`: no other item is found before the item.
- `actions_iff`: when an action changes the entry of its item and no other one.
-/

namespace ChromiumIos

open Lib Option

namespace ReadingListController

open CollectionViewModel

section Actions

open ReadingListMediator (Item)

variable {M GURL : Type} (source : DataSource M GURL) (header : Int → CollectionViewItem)
  (properties : CollectionViewItem → Item GURL)

/-! ## The search -/

/-- `isEqual:` of items, of which one may be the other. -/
def isEqual (item other : CollectionViewItem) : Bool :=
  item.object = other.object || (properties item).isEqual (properties other)

/-- `hasItem:inSectionWithIdentifier:`. The section has to be there. -/
def hasItemInSectionWithIdentifier (s : CollectionViewModel) (item : CollectionViewItem)
    (sectionIdentifier : Int) : Option Bool :=
  (s.itemsInSectionWithIdentifier sectionIdentifier).map fun items =>
    items.any (isEqual properties item)

/-- The loop of `hasItem:`. -/
def hasItemFrom (s : CollectionViewModel) (item : CollectionViewItem) : List Int → Option Bool
  | [] => some false
  | sectionIdentifier :: rest =>
    (hasItemInSectionWithIdentifier properties s item sectionIdentifier).bind fun found =>
      if found then some true else hasItemFrom s item rest

def hasItem (s : CollectionViewModel) (item : CollectionViewItem) : Option Bool :=
  hasItemFrom properties s item s.sectionIdentifiers

/-! ## The actions -/

def deleteEntry (c : Controller M) (entry : CollectionViewItem) : Option (Controller M) :=
  (hasItem properties c.collectionViewModel entry).bind fun found =>
    if found then
      (c.collectionViewModel.indexPathForItem (isEqual properties) entry).bind fun indexPath =>
        deleteItemsAtIndexPaths source c [indexPath]
    else some c

def markEntryRead (c : Controller M) (entry : CollectionViewItem) : Option (Controller M) :=
  (hasItemInSectionWithIdentifier properties c.collectionViewModel entry
    SectionIdentifierUnread).bind fun found =>
    if found then
      (c.collectionViewModel.indexPathForItem (isEqual properties) entry).bind fun indexPath =>
        markItemsReadAtIndexPath source header c [indexPath]
    else some c

def markEntryUnread (c : Controller M) (entry : CollectionViewItem) : Option (Controller M) :=
  (hasItemInSectionWithIdentifier properties c.collectionViewModel entry
    SectionIdentifierRead).bind fun found =>
    if found then
      (c.collectionViewModel.indexPathForItem (isEqual properties) entry).bind fun indexPath =>
        markItemsUnreadAtIndexPath source header c [indexPath]
    else some c

/-! ## What is found -/

section Found

variable {properties} {s : CollectionViewModel} {unread read : List CollectionViewItem}
  {item : CollectionViewItem}

theorem isEqual_self (item : CollectionViewItem) : isEqual properties item item = true := by
  simp [isEqual]

theorem Displays.flatten (h : Displays s unread read) : s.sections.flatten = unread ++ read := by
  rw [h.2, flatten_filter_isEmpty]
  simp [bothSections]

theorem Displays.itemsInSection_unread (h : Displays s unread read) :
    s.itemsInSectionWithIdentifier SectionIdentifierUnread =
      if unread = [] then none else some unread := by
  rw [itemsInSectionWithIdentifier,
    internalSectionForIdentifier, h.1, h.2]
  cases unread <;> cases read <;>
    simp [bothSections, List.idxOf?_cons, unread_ne_read.symm]

theorem Displays.itemsInSection_read (h : Displays s unread read) :
    s.itemsInSectionWithIdentifier SectionIdentifierRead =
      if read = [] then none else some read := by
  rw [itemsInSectionWithIdentifier,
    internalSectionForIdentifier, h.1, h.2]
  cases unread <;> cases read <;>
    simp [bothSections, List.idxOf?_cons, unread_ne_read]

/-- The sections show one content only. -/
theorem Displays.unique (h : Displays s unread read) {unread' read' : List CollectionViewItem}
    (h' : Displays s unread' read') : unread = unread' ∧ read = read' := by
  have hunread := h.itemsInSection_unread.symm.trans h'.itemsInSection_unread
  have hread := h.itemsInSection_read.symm.trans h'.itemsInSection_read
  constructor
  · by_cases h₁ : unread = [] <;> by_cases h₂ : unread' = [] <;> simp_all
  · by_cases h₁ : read = [] <;> by_cases h₂ : read' = [] <;> simp_all

/-- An item that is shown is found. -/
theorem Displays.hasItem_eq (h : Displays s unread read) (hitem : item ∈ unread ++ read) :
    hasItem properties s item = some true := by
  have hself : ∀ {items : List CollectionViewItem}, item ∈ items →
      items.any (isEqual properties item) = true := fun hmem =>
    List.any_eq_true.2 ⟨item, hmem, isEqual_self item⟩
  have hids : s.sectionIdentifiers = _ := h.1
  rw [hasItem, hids]
  rcases List.mem_append.1 hitem with hmem | hmem
  · have hne := List.ne_nil_of_mem hmem
    simp [bothSections, hne, hasItemFrom, hasItemInSectionWithIdentifier, h.itemsInSection_unread,
      hself hmem]
  · have hne := List.ne_nil_of_mem hmem
    by_cases hunread : unread = []
    · simp [bothSections, hunread, hne, hasItemFrom, hasItemInSectionWithIdentifier,
        h.itemsInSection_read, hself hmem]
    · simp [bothSections, hunread, hne, hasItemFrom, hasItemInSectionWithIdentifier,
        h.itemsInSection_unread, h.itemsInSection_read, hself hmem]

end Found

/-! ## What becomes of the item that was found -/

section Effects

variable {s : CollectionViewModel} {c : Controller M} {unread read : List CollectionViewItem}
  {item : CollectionViewItem} {indexPath : IndexPath}

/-- An item goes from all sections if it goes from the one it is in. -/
theorem modify_eraseIdx_eq (hdistinct : s.DistinctObjects)
    (hat : s.itemAtIndexPath indexPath = some item) :
    s.sections.modify indexPath.sectionIndex (·.eraseIdx indexPath.item) =
      s.sections.map (·.erase item) := by
  obtain ⟨items, hitems, hitem⟩ := itemAtIndexPath_eq_some_iff.1 hat
  refine List.ext_getElem? fun j => ?_
  rw [List.getElem?_modify, List.getElem?_map]
  by_cases hj : indexPath.sectionIndex = j
  · subst hj
    have hnodup : items.Nodup := List.Nodup.of_map _
      (hdistinct.sublist ((List.sublist_flatten_of_mem (List.mem_of_getElem? hitems)).map _))
    obtain ⟨hi, rfl⟩ := List.getElem?_eq_some_iff.1 hitem
    simp [hitems, hnodup.erase_getElem indexPath.item hi]
  · cases hother : s.sections[j]? with
    | none => simp
    | some others =>
      have hnot : item ∉ others := by
        intro hin
        obtain ⟨i, hi⟩ := List.getElem?_of_mem hin
        have hat' : s.itemAtIndexPath ⟨j, i⟩ = some item :=
          itemAtIndexPath_eq_some_iff.2 ⟨others, hother, hi⟩
        exact hj (congrArg IndexPath.sectionIndex (hdistinct.indexPath_eq hat hat'))
      simp [hj, List.erase_of_not_mem hnot]

theorem filter_map_filter {α : Type} {p : α → Bool} {f : α → α}
    (h : ∀ x, p (f x) = true → p x = true) (l : List α) :
    ((l.filter p).map f).filter p = (l.map f).filter p := by
  rw [List.filter_map, List.filter_map, List.filter_filter]
  refine congrArg (List.map f) (List.filter_congr fun x _ => ?_)
  cases hx : p (f x) <;> simp [hx]
  exact h x hx

/-- One item is deleted. -/
theorem deleteItemsAtIndexPaths_singleton (h : Displays c.collectionViewModel unread read)
    (hlisted : Listed (unread ++ read))
    (hat : c.collectionViewModel.itemAtIndexPath indexPath = some item) :
    ∃ s', deleteItemsAtIndexPaths source c [indexPath] =
        some ⟨s', source.removeEntryByURL c.model (source.url item)⟩ ∧
      Displays s' (unread.erase item) (read.erase item) := by
  have harranged : DisplaysArranged c.collectionViewModel false unread read := h
  have hnodup : (((bothSections unread read).filter fun entry => !entry.2.isEmpty).map
      Prod.fst).Nodup :=
    (arranged_nodup false unread read).sublist (List.filter_sublist.map _)
  obtain ⟨items, hitems, hitem⟩ := itemAtIndexPath_eq_some_iff.1 hat
  have hlisted' : Listed items := by
    refine hlisted.sublist ?_
    rw [← h.flatten]
    exact List.sublist_flatten_of_mem (List.mem_of_getElem? hitems)
  obtain ⟨address, haddress, hremove⟩ :=
    perform_removeItemWithType (h.tracked hnodup) hlisted' hitems hitem
  rw [modify_eraseIdx_eq (harranged.distinctObjects hlisted) hat] at hremove
  have hdelete : c.collectionViewModel.willDeleteItemsAtIndexPaths [indexPath] =
      some { c.collectionViewModel with
        sections := c.collectionViewModel.sections.map (·.erase item) } := by
    rw [willDeleteItemsAtIndexPaths, sortedIndexPaths,
      List.mergeSort_singleton, List.reverse_singleton, List.foldlM_cons,
      willDeleteItemAtIndexPath, haddress, bind_some, hremove]
    rfl
  have hsections : HasSections { c.collectionViewModel with
      sections := c.collectionViewModel.sections.map (·.erase item) }
      (((bothSections unread read).filter fun entry => !entry.2.isEmpty).map
        fun entry => (entry.1, entry.2.erase item)) := by
    constructor
    · rw [List.map_map]
      exact h.1
    · show c.collectionViewModel.sections.map _ = _
      rw [h.2, List.map_map, List.map_map]
      rfl
  obtain ⟨s', hs', hshown⟩ := hsections.removeEmptySections
    (by rw [List.map_map]; exact hnodup) (by
      intro entry hentry
      obtain ⟨entry', hentry', rfl⟩ := List.mem_map.1 hentry
      have := List.mem_of_mem_filter hentry'
      simp only [bothSections, List.mem_cons, List.not_mem_nil, or_false] at this
      rcases this with rfl | rfl <;> simp)
  refine ⟨s', ?_, ?_⟩
  · have hupdate : updateIndexPaths c [indexPath] (fun model item =>
        source.removeEntryByURL model (source.url item)) =
        some { c with model := source.removeEntryByURL c.model (source.url item) } := by
      simp [updateIndexPaths, hat]
    rw [deleteItemsAtIndexPaths, hupdate, bind_some, hdelete, bind_some, hs',
      map_some]
  · rw [filter_map_filter (fun entry hne => ?_)] at hshown
    · exact hshown
    · cases hitems : entry.2 <;> simp_all

/-- One item is marked, and moved if it is in the other section. -/
theorem markItemsAtIndexPath_singleton {status : Bool} {target other : List CollectionViewItem}
    (h : DisplaysArranged c.collectionViewModel status target other)
    (hlisted : Listed (target ++ other))
    (hat : c.collectionViewModel.itemAtIndexPath indexPath = some item) :
    ∃ s', markItemsAtIndexPath source header status (sectionOf status) c [indexPath] =
        some ⟨s', source.setReadStatus c.model (source.url item) status⟩ ∧
      DisplaysArranged s' status (if item ∈ other then item :: target else target)
        (other.erase item) := by
  have hselected : ∀ other, selected c.collectionViewModel [indexPath] other =
      (other == item) := by
    intro other
    simp only [selected, List.any_cons, List.any_nil, Bool.or_false, hat, some.injEq,
      beq_eq_decide]
    exact decide_eq_decide.2 eq_comm
  have hfilter : ∀ {items : List CollectionViewItem}, items.Nodup →
      items.filter (selected c.collectionViewModel [indexPath]) =
        if item ∈ items then [item] else [] := by
    intro items hnodup
    rw [List.filter_congr fun other _ => hselected other, List.filter_beq, hnodup.count]
    split <;> rfl
  have hnodup : (target ++ other).Nodup := List.Nodup.of_map _ hlisted.distinct
  have hother : other.Nodup := (List.nodup_append.1 hnodup).2.1
  have hall : (if status then other ++ target else target ++ other).Nodup := by
    cases status
    · exact hnodup
    · exact (List.perm_append_comm.nodup_iff).1 hnodup
  have hmem : item ∈ if status then other ++ target else target ++ other := by
    have hitem : item ∈ c.collectionViewModel.sections.flatten := by
      obtain ⟨items, hitems, hitem⟩ := itemAtIndexPath_eq_some_iff.1 hat
      exact List.mem_flatten.2 ⟨items, List.mem_of_getElem? hitems, List.mem_of_getElem? hitem⟩
    rw [h.2, flatten_filter_isEmpty] at hitem
    cases status <;> simpa [arranged, bothSections] using hitem
  have hvalid : ∀ path ∈ [indexPath], path ∈ c.collectionViewModel.indexPaths := by
    intro path hpath
    rw [List.mem_singleton.1 hpath]
    exact mem_indexPaths.2 (isSome_of_eq_some hat)
  obtain ⟨s', hs', hshown⟩ := markItemsAtIndexPath_eq h hlisted (List.nodup_singleton _) hvalid
    source header
  refine ⟨s', ?_, ?_⟩
  · rw [hs', hfilter hall, if_pos hmem]
    rfl
  · have hkept : (other.filter fun item =>
        !selected c.collectionViewModel [indexPath] item) = other.erase item := by
      rw [hother.erase_eq_filter]
      exact List.filter_congr fun other _ => by rw [hselected]; rfl
    have hmoved : other.filter (selected c.collectionViewModel [indexPath]) ++ target =
        if item ∈ other then item :: target else target := by
      rw [hfilter hother]
      split <;> rfl
    rw [hkept, hmoved] at hshown
    exact hshown

end Effects

/-! ## The entry of the item -/

/-- What the model says of the status of its entries: none for a URL without an entry. -/
structure Keeps (status : M → GURL → Option Bool) [DecidableEq GURL] : Prop where
  setReadStatus : ∀ model url read other, status (source.setReadStatus model url read) other =
    if other = url then (status model other).map fun _ => read else status model other
  removeEntryByURL : ∀ model url other, status (source.removeEntryByURL model url) other =
    if other = url then none else status model other

variable [DecidableEq GURL] (status : M → GURL → Option Bool) (c : Controller M)

/-- The action changed the status of the entry of this item as it should, left all others alone,
and the sections show this now. -/
structure Acted (item : CollectionViewItem) (change : Option Bool → Option Bool)
    (unread' read' : List CollectionViewItem) (c' : Controller M) : Prop where
  model : ∀ url, status c'.model url =
    if url = source.url item then change (status c.model url) else status c.model url
  displays : Displays c'.collectionViewModel unread' read'

def DeletesEntry (unread read : List CollectionViewItem) (item : CollectionViewItem) : Prop :=
  ∃ c', deleteEntry source properties c item = some c' ∧
    Acted source status c item (fun _ => none) (unread.erase item) (read.erase item) c'

def MarksEntryRead (unread read : List CollectionViewItem) (item : CollectionViewItem) : Prop :=
  ∃ c', markEntryRead source header properties c item = some c' ∧
    Acted source status c item (Option.map fun _ => true) (unread.erase item)
      (if item ∈ unread then item :: read else read) c'

def MarksEntryUnread (unread read : List CollectionViewItem) (item : CollectionViewItem) : Prop :=
  ∃ c', markEntryUnread source header properties c item = some c' ∧
    Acted source status c item (Option.map fun _ => false)
      (if item ∈ read then item :: unread else unread) (read.erase item) c'

/-- No other item that is equal is shown before the item. -/
def First (unread read : List CollectionViewItem) (item : CollectionViewItem) : Prop :=
  (unread ++ read).find? (isEqual properties item) = some item

/-- The entries have the status of the section that their items are shown in. -/
structure UpToDate (unread read : List CollectionViewItem) : Prop where
  unread : ∀ item ∈ unread, status c.model (source.url item) = some false
  read : ∀ item ∈ read, status c.model (source.url item) = some true

section Results

variable {source header properties status} {c : Controller M}
  {unread read : List CollectionViewItem} {item : CollectionViewItem}

variable (properties) in
omit [DecidableEq GURL] in
theorem exists_find? {items : List CollectionViewItem} (hitem : item ∈ items) :
    ∃ found ∈ items, items.find? (isEqual properties item) = some found := by
  obtain ⟨found, hfound⟩ := isSome_iff_exists.1
    (List.find?_isSome.2 ⟨item, hitem, isEqual_self item⟩)
  exact ⟨found, List.mem_of_find?_eq_some hfound, hfound⟩

/-- The action goes on with the first equal item. -/
theorem deletesEntry_iff (hkeeps : Keeps source status)
    (h : Displays c.collectionViewModel unread read) (hlisted : Listed (unread ++ read))
    (hitem : item ∈ unread ++ read) :
    DeletesEntry source properties status c unread read item ↔
      First properties unread read item := by
  obtain ⟨found, hfound, hfind⟩ := exists_find? properties hitem
  obtain ⟨indexPath, hpath, hat⟩ := indexPathForItem_of_find? (h.flatten.symm ▸ hfind)
  obtain ⟨s', hs', hshown⟩ := deleteItemsAtIndexPaths_singleton source h hlisted hat
  have hdelete : deleteEntry source properties c item =
      some ⟨s', source.removeEntryByURL c.model (source.url found)⟩ := by
    rw [deleteEntry, h.hasItem_eq hitem, bind_some, if_pos rfl, hpath, bind_some, hs']
  have hnodup : (unread ++ read).Nodup := List.Nodup.of_map _ hlisted.distinct
  constructor
  · rintro ⟨c', hc', hacted⟩
    obtain rfl := some.inj (hdelete.symm.trans hc')
    obtain ⟨hunread, hread⟩ := hshown.unique hacted.displays
    -- An item that is not deleted is still shown, and this one is not.
    by_contra hne
    have hdifferent : found ≠ item := fun heq => hne (heq ▸ hfind)
    rcases List.mem_append.1 hfound with hmem | hmem
    · have hstill := (List.mem_erase_of_ne hdifferent).2 hmem
      exact (List.nodup_append.1 hnodup).1.not_mem_erase (hunread ▸ hstill)
    · have hstill := (List.mem_erase_of_ne hdifferent).2 hmem
      exact (List.nodup_append.1 hnodup).2.1.not_mem_erase (hread ▸ hstill)
  · intro hfirst
    obtain rfl := some.inj (hfind.symm.trans hfirst)
    refine ⟨_, hdelete, fun url => ?_, hshown⟩
    rw [hkeeps.removeEntryByURL]

omit [DecidableEq GURL] in
theorem hasItem_unread (h : Displays c.collectionViewModel unread read) (hne : unread ≠ []) :
    hasItemInSectionWithIdentifier properties c.collectionViewModel item SectionIdentifierUnread =
      some (unread.any (isEqual properties item)) := by
  rw [hasItemInSectionWithIdentifier, h.itemsInSection_unread, if_neg hne, map_some]

omit [DecidableEq GURL] in
theorem hasItem_read (h : Displays c.collectionViewModel unread read) (hne : read ≠ []) :
    hasItemInSectionWithIdentifier properties c.collectionViewModel item SectionIdentifierRead =
      some (read.any (isEqual properties item)) := by
  rw [hasItemInSectionWithIdentifier, h.itemsInSection_read, if_neg hne, map_some]

variable (source header) in
omit [DecidableEq GURL] in
/-- An item of the unread section is marked read: the first equal one. -/
theorem markEntryRead_eq (h : Displays c.collectionViewModel unread read)
    (hlisted : Listed (unread ++ read)) {found : CollectionViewItem} (hfound : found ∈ unread)
    (hfind : unread.find? (isEqual properties item) = some found) :
    ∃ s', markEntryRead source header properties c item =
        some ⟨s', source.setReadStatus c.model (source.url found) true⟩ ∧
      Displays s' (unread.erase found) (found :: read) := by
  have hfind' : (unread ++ read).find? (isEqual properties item) = some found := by
    rw [List.find?_append, hfind, some_or]
  obtain ⟨indexPath, hpath, hat⟩ := indexPathForItem_of_find? (h.flatten.symm ▸ hfind')
  have hany : unread.any (isEqual properties item) = true :=
    List.any_eq_true.2 ⟨found, hfound, List.find?_some hfind⟩
  have hread : DisplaysArranged c.collectionViewModel true read unread := h
  obtain ⟨s', hs', hshown⟩ := markItemsAtIndexPath_singleton source header hread
    (hlisted.perm List.perm_append_comm) hat
  rw [if_pos hfound] at hshown
  refine ⟨s', ?_, hshown⟩
  rw [markEntryRead, hasItem_unread h (List.ne_nil_of_mem hfound), hany, bind_some,
    if_pos rfl, hpath, bind_some]
  exact hs'

variable (source header) in
omit [DecidableEq GURL] in
/-- What is marked unread is the first equal item of both sections. -/
theorem markEntryUnread_eq (h : Displays c.collectionViewModel unread read)
    (hlisted : Listed (unread ++ read)) (hany : read.any (isEqual properties item) = true)
    {found : CollectionViewItem}
    (hfind : (unread ++ read).find? (isEqual properties item) = some found) :
    ∃ s', markEntryUnread source header properties c item =
        some ⟨s', source.setReadStatus c.model (source.url found) false⟩ ∧
      Displays s' (if found ∈ read then found :: unread else unread) (read.erase found) := by
  obtain ⟨indexPath, hpath, hat⟩ := indexPathForItem_of_find? (h.flatten.symm ▸ hfind)
  have hunread : DisplaysArranged c.collectionViewModel false unread read := h
  obtain ⟨s', hs', hshown⟩ := markItemsAtIndexPath_singleton source header hunread hlisted hat
  have hne : read ≠ [] := by
    rintro rfl
    cases hany
  refine ⟨s', ?_, hshown⟩
  rw [markEntryUnread, hasItem_read h hne, hany, bind_some, if_pos rfl, hpath,
    bind_some]
  exact hs'

theorem marksEntryRead_iff_of_unread (hkeeps : Keeps source status)
    (h : Displays c.collectionViewModel unread read) (hlisted : Listed (unread ++ read))
    (hitem : item ∈ unread) :
    MarksEntryRead source header properties status c unread read item ↔
      First properties unread read item := by
  obtain ⟨found, hfound, hfind⟩ := exists_find? properties hitem
  obtain ⟨s', hs', hshown⟩ := markEntryRead_eq source header h hlisted hfound hfind
  have hfirst : First properties unread read item ↔ found = item := by
    rw [First, List.find?_append, hfind, some_or, some.injEq]
  rw [hfirst]
  constructor
  · rintro ⟨c', hc', hacted⟩
    obtain rfl := some.inj (hs'.symm.trans hc')
    have hread := (hshown.unique hacted.displays).2
    rw [if_pos hitem] at hread
    exact (List.cons.inj hread).1
  · rintro rfl
    refine ⟨_, hs', fun url => hkeeps.setReadStatus .., ?_⟩
    rw [if_pos hitem]
    exact hshown

theorem marksEntryUnread_iff_of_read (hkeeps : Keeps source status)
    (h : Displays c.collectionViewModel unread read) (hlisted : Listed (unread ++ read))
    (hitem : item ∈ read) :
    MarksEntryUnread source header properties status c unread read item ↔
      First properties unread read item := by
  obtain ⟨found, hfound, hfind⟩ := exists_find? properties (List.mem_append_right unread hitem)
  have hany : read.any (isEqual properties item) = true :=
    List.any_eq_true.2 ⟨item, hitem, isEqual_self item⟩
  obtain ⟨s', hs', hshown⟩ := markEntryUnread_eq source header h hlisted hany hfind
  have hfirst : First properties unread read item ↔ found = item := by
    rw [First, hfind, some.injEq]
  rw [hfirst]
  constructor
  · rintro ⟨c', hc', hacted⟩
    obtain rfl := some.inj (hs'.symm.trans hc')
    have hunread := (hshown.unique hacted.displays).1
    rw [if_pos hitem] at hunread
    by_cases hmem : found ∈ read
    · rw [if_pos hmem] at hunread
      exact (List.cons.inj hunread).1
    · rw [if_neg hmem] at hunread
      exact absurd hunread (List.ne_cons_self)
  · rintro rfl
    exact ⟨_, hs', fun url => hkeeps.setReadStatus .., hshown⟩

/-- For an item that is read, nothing happens if no unread item is equal. -/
theorem marksEntryRead_iff_of_read (h : Displays c.collectionViewModel unread read)
    (hlisted : Listed (unread ++ read)) (hstatus : UpToDate source status c unread read)
    (hitem : item ∈ read) :
    MarksEntryRead source header properties status c unread read item ↔
      unread ≠ [] ∧ ∀ other ∈ unread, isEqual properties item other = false := by
  have hnodup : (unread ++ read).Nodup := List.Nodup.of_map _ hlisted.distinct
  have hnot : item ∉ unread := fun hmem => (List.nodup_append.1 hnodup).2.2 _ hmem _ hitem rfl
  by_cases hne : unread = []
  · -- The section is asked for although it is not there.
    have hnone : markEntryRead source header properties c item = none := by
      rw [markEntryRead, hasItemInSectionWithIdentifier, h.itemsInSection_unread, if_pos hne]
      rfl
    simp [MarksEntryRead, hnone, hne]
  cases hfind : unread.find? (isEqual properties item) with
  | none =>
    have hall : ∀ other ∈ unread, isEqual properties item other = false := by
      simpa using hfind
    have hany : unread.any (isEqual properties item) = false :=
      List.any_eq_false.2 fun other hmem => by simp [hall other hmem]
    refine iff_of_true ⟨c, ?_, fun url => ?_, ?_⟩ ⟨hne, hall⟩
    · rw [markEntryRead, hasItem_unread h hne, hany]
      rfl
    · split
      · next hurl => rw [hurl, hstatus.read item hitem, map_some]
      · rfl
    · rw [List.erase_of_not_mem hnot, if_neg hnot]
      exact h
  | some found =>
    have hfound := List.mem_of_find?_eq_some hfind
    obtain ⟨s', hs', hshown⟩ := markEntryRead_eq source header h hlisted hfound hfind
    refine iff_of_false ?_ fun hall => ?_
    · rintro ⟨c', hc', hacted⟩
      obtain rfl := some.inj (hs'.symm.trans hc')
      have hread := (hshown.unique hacted.displays).2
      rw [if_neg hnot] at hread
      exact List.cons_ne_self _ _ hread
    · have hequal := List.find?_some hfind
      rw [hall.2 found hfound] at hequal
      cases hequal

/-- For an item that is not read, what is found is not read either. -/
theorem marksEntryUnread_iff_of_unread (hkeeps : Keeps source status)
    (h : Displays c.collectionViewModel unread read) (hlisted : Listed (unread ++ read))
    (hstatus : UpToDate source status c unread read) (hitem : item ∈ unread) :
    MarksEntryUnread source header properties status c unread read item ↔ read ≠ [] := by
  have hnodup : (unread ++ read).Nodup := List.Nodup.of_map _ hlisted.distinct
  have hnot : ∀ other ∈ unread, other ∉ read := fun other hmem hread =>
    (List.nodup_append.1 hnodup).2.2 _ hmem _ hread rfl
  by_cases hne : read = []
  · have hnone : markEntryUnread source header properties c item = none := by
      rw [markEntryUnread, hasItemInSectionWithIdentifier, h.itemsInSection_read, if_pos hne]
      rfl
    simp [MarksEntryUnread, hnone, hne]
  refine iff_of_true ?_ hne
  have hsame : ∀ other ∈ unread, ∀ url, (if url = source.url other then
      (status c.model url).map fun _ => false else status c.model url) = status c.model url := by
    intro other hmem url
    split
    · next hurl => rw [hurl, hstatus.unread other hmem, map_some]
    · rfl
  cases hany : read.any (isEqual properties item) with
  | false =>
    refine ⟨c, ?_, fun url => (hsame item hitem url).symm, ?_⟩
    · rw [markEntryUnread, hasItem_read h hne, hany]
      rfl
    · rw [List.erase_of_not_mem (hnot item hitem), if_neg (hnot item hitem)]
      exact h
  | true =>
    obtain ⟨found, hfound, hfind⟩ := exists_find? properties hitem
    have hfind' : (unread ++ read).find? (isEqual properties item) = some found := by
      rw [List.find?_append, hfind, some_or]
    obtain ⟨s', hs', hshown⟩ := markEntryUnread_eq source header h hlisted hany hfind'
    rw [List.erase_of_not_mem (hnot found hfound), if_neg (hnot found hfound)] at hshown
    refine ⟨_, hs', fun url => ?_, ?_⟩
    · exact (hkeeps.setReadStatus ..).trans
        ((hsame found hfound url).trans (hsame item hitem url).symm)
    · rw [List.erase_of_not_mem (hnot item hitem), if_neg (hnot item hitem)]
      exact hshown

variable (header) in
/-- An action on an item acts on its entry only if no equal item is found before it. -/
theorem actions_iff (hkeeps : Keeps source status)
    (h : Displays c.collectionViewModel unread read) (hlisted : Listed (unread ++ read))
    (hitem : item ∈ unread ++ read) :
    (DeletesEntry source properties status c unread read item ↔
      First properties unread read item) ∧
    (item ∈ unread → (MarksEntryRead source header properties status c unread read item ↔
      First properties unread read item)) ∧
    (item ∈ read → (MarksEntryUnread source header properties status c unread read item ↔
      First properties unread read item)) ∧
    (UpToDate source status c unread read →
      (item ∈ read → (MarksEntryRead source header properties status c unread read item ↔
        unread ≠ [] ∧ ∀ other ∈ unread, isEqual properties item other = false)) ∧
      (item ∈ unread → (MarksEntryUnread source header properties status c unread read item ↔
        read ≠ []))) :=
  ⟨deletesEntry_iff hkeeps h hlisted hitem,
    marksEntryRead_iff_of_unread hkeeps h hlisted,
    marksEntryUnread_iff_of_read hkeeps h hlisted,
    fun hstatus => ⟨marksEntryRead_iff_of_read h hlisted hstatus,
      marksEntryUnread_iff_of_unread hkeeps h hlisted hstatus⟩⟩

end Results

end Actions

/-! ### Pages of one site -/

open ReadingListMediator (Item cellItemForReadingListEntry oneSite untitledEntry)

def statusOf (entries : List (ReadingListEntry Nat)) (url : Nat) : Option Bool :=
  (entries.find? fun e => e.url = url).map (·.isRead)

theorem keeps_stampedSource : Keeps stampedSource statusOf where
  setReadStatus entries url read other := by
    have hmark : ∀ later, statusOf (entries.map fun e =>
        if e.url = url then { e with isRead := read, updateTime := later } else e) other =
          if other = url then (statusOf entries other).map fun _ => read
          else statusOf entries other := by
      intro later
      have hurl : ∀ e : ReadingListEntry Nat, (if e.url = url then
          { e with isRead := read, updateTime := later } else e).url = e.url := by
        intro e
        split <;> rfl
      simp only [statusOf, List.find?_map, Function.comp_def, hurl]
      cases hfind : entries.find? fun e => e.url = other with
      | none => simp
      | some e =>
        have he : e.url = other := by simpa using List.find?_some hfind
        simp only [map_some, he]
        split <;> rfl
    simp only [stampedSource]
    split
    · exact hmark _
    · next hnone =>
      -- What is there already has the status.
      split
      · next hother =>
        subst hother
        rw [statusOf]
        cases hfind : entries.find? fun e => e.url = other with
        | none => rfl
        | some e =>
          have he : e.url = other := by simpa using List.find?_some hfind
          have hsame : ¬(e.url = other ∧ e.isRead ≠ read) := fun h =>
            hnone (List.any_eq_true.2 ⟨e, List.mem_of_find?_eq_some hfind, by simpa using h⟩)
          have hread : e.isRead = read := by
            by_contra hne
            exact hsame ⟨he, hne⟩
          rw [map_some, map_some, hread]
      · rfl
  removeEntryByURL entries url other := by
    simp only [stampedSource, statusOf, List.find?_filter]
    split
    · next hother =>
      subst hother
      simp
    · next hother =>
      refine congrArg (Option.map _) (congrArg (List.find? · entries) (funext fun e => ?_))
      by_cases he : e.url = other <;> simp [he, hother]

/-- What the cells of pages show that were added and not distilled. -/
def untitledCell (item : CollectionViewItem) : Item Nat :=
  cellItemForReadingListEntry oneSite (untitledEntry item.object 0)

def twoPages : Controller (List (ReadingListEntry Nat)) where
  collectionViewModel :=
    { sectionIdentifiers := [SectionIdentifierUnread]
      sections := [[⟨1, ItemTypeItem⟩, ⟨2, ItemTypeItem⟩]]
      headers := .empty
      footers := .empty }
  model := [untitledEntry 1 20, untitledEntry 2 10]

theorem displays_twoPages : Displays twoPages.collectionViewModel
    [⟨1, ItemTypeItem⟩, ⟨2, ItemTypeItem⟩] [] :=
  ⟨rfl, rfl⟩

theorem twoPages_actions :
    DeletesEntry stampedSource untitledCell statusOf twoPages
        [⟨1, ItemTypeItem⟩, ⟨2, ItemTypeItem⟩] [] ⟨1, ItemTypeItem⟩ ∧
      ¬MarksEntryRead stampedSource (fun _ => ⟨0, ItemTypeHeader⟩) untitledCell statusOf twoPages
        [⟨1, ItemTypeItem⟩, ⟨2, ItemTypeItem⟩] [] ⟨2, ItemTypeItem⟩ := by
  have hlisted : Listed ([⟨1, ItemTypeItem⟩, ⟨2, ItemTypeItem⟩] ++ []) :=
    ⟨by decide, by decide⟩
  constructor
  · exact (actions_iff (fun _ => ⟨0, ItemTypeHeader⟩) keeps_stampedSource
      displays_twoPages hlisted (by decide)).1.2 (by rw [First]; decide)
  · intro hmarks
    have hfirst := ((actions_iff _ keeps_stampedSource displays_twoPages hlisted
      (by decide)).2.1 (by decide)).1 hmarks
    rw [First] at hfirst
    exact absurd hfirst (by decide)

/-- The second page cannot be deleted: the first one is. -/
theorem secondPage_not_deleted :
    ¬DeletesEntry stampedSource untitledCell statusOf twoPages
      [⟨1, ItemTypeItem⟩, ⟨2, ItemTypeItem⟩] [] ⟨2, ItemTypeItem⟩ := by
  intro hdeletes
  have hlisted : Listed ([⟨1, ItemTypeItem⟩, ⟨2, ItemTypeItem⟩] ++ []) :=
    ⟨by decide, by decide⟩
  have hfirst := (deletesEntry_iff keeps_stampedSource displays_twoPages hlisted
    (by decide)).1 hdeletes
  rw [First] at hfirst
  exact absurd hfirst (by decide)

end ReadingListController

end ChromiumIos
