import ChromiumIos.Lib.Positions
import ChromiumIos.Ui.CollectionViewAddresses

/-!
# `ReadingListCollectionViewController`

`reading_list_collection_view_controller.mm`: the reading list is shown in two sections, of unread
and of read items, and a section without items is not there. What is done to items on the screen is
done to the entries of the model as well.

- `updateIndexPaths`: the changes to the model.
- `moveSelectedItems`: the changes to the sections. Every index is checked.
- `Displays`: the sections show these lists of items.
- `willMoveItemAtIndexPath_eq`: a move of one item from one section to another.
-/

namespace ChromiumIos

open Lib CollectionViewModel

namespace CollectionViewModel

/-! ## Checked calls -/

variable (s : CollectionViewModel)

/-- A call whose `DCHECK`s are met. -/
def perform (op : Op) : Option CollectionViewModel :=
  if op.Pre s then some (s.step op) else none

def hasSectionForSectionIdentifier (sectionIdentifier : Int) : Bool :=
  (s.internalSectionForIdentifier sectionIdentifier).isSome

/-- `collectionView:willMoveItemAtIndexPath:toIndexPath:` of `CollectionViewController`. -/
def willMoveItemAtIndexPath (indexPath newIndexPath : IndexPath) : Option CollectionViewModel :=
  (s.itemAtIndexPath indexPath).bind fun item =>
    (s.addressForIndexPath indexPath).bind fun address =>
      (s.perform (.removeItemWithType address.itemType address.sectionIdentifier
        address.indexInItemType)).bind fun s =>
        (s.sectionIdentifierForSection newIndexPath.sectionIndex).bind fun sectionIdentifier =>
          s.perform (.insertItem item sectionIdentifier newIndexPath.item)

/-- One index path of `collectionView:willDeleteItemsAtIndexPaths:`. -/
def willDeleteItemAtIndexPath (indexPath : IndexPath) : Option CollectionViewModel :=
  (s.addressForIndexPath indexPath).bind fun address =>
    s.perform (.removeItemWithType address.itemType address.sectionIdentifier
      address.indexInItemType)

end CollectionViewModel

/-- `compare:` of index paths is not descending. -/
def IndexPath.isAscending (a b : IndexPath) : Bool :=
  a.sectionIndex < b.sectionIndex || (a.sectionIndex == b.sectionIndex && a.item ≤ b.item)

/-- `sortedArrayUsingSelector:@selector(compare:)`. -/
def sortedIndexPaths (indexPaths : List IndexPath) : List IndexPath :=
  indexPaths.mergeSort IndexPath.isAscending

namespace CollectionViewModel

/-- `collectionView:willDeleteItemsAtIndexPaths:` of `CollectionViewController`. -/
def willDeleteItemsAtIndexPaths (s : CollectionViewModel) (indexPaths : List IndexPath) :
    Option CollectionViewModel :=
  (sortedIndexPaths indexPaths).reverse.foldlM willDeleteItemAtIndexPath s

end CollectionViewModel

namespace ReadingListController

def SectionIdentifierUnread : Int := kSectionIdentifierEnumZero
def SectionIdentifierRead : Int := kSectionIdentifierEnumZero + 1

theorem unread_ne_read : SectionIdentifierUnread ≠ SectionIdentifierRead := by decide

def ItemTypeHeader : Int := kItemTypeEnumZero
def ItemTypeItem : Int := kItemTypeEnumZero + 1

def NSIntegerMax : Nat := 9223372036854775807

/-- What the controller asks of the reading list model, and the URL of an item. -/
structure DataSource (M GURL : Type) where
  setReadStatus : M → GURL → (read : Bool) → M
  removeEntryByURL : M → GURL → M
  url : CollectionViewItem → GURL

/-- The collection on the screen, and the reading list model. -/
structure Controller (M : Type) where
  collectionViewModel : CollectionViewModel
  model : M

/-! ## Sections -/

def hasItemInSection (s : CollectionViewModel) (sectionIdentifier : Int) : Bool :=
  match s.internalSectionForIdentifier sectionIdentifier with
  | none => false
  | some sectionIndex => 0 < s.numberOfItemsInSection sectionIndex

/-- `initializeSection:`, with `NSIntegerMax` if no section has been created. `header` is the header
that is made for a section. -/
def initializeSection (header : Int → CollectionViewItem) (s : CollectionViewModel)
    (sectionIdentifier : Int) : Option (CollectionViewModel × Nat) :=
  if !s.hasSectionForSectionIdentifier sectionIdentifier then
    let hasNonEmptySectionAbove :=
      sectionIdentifier = SectionIdentifierRead && hasItemInSection s SectionIdentifierUnread
    let sectionIndex := if hasNonEmptySectionAbove then 1 else 0
    (s.perform (.insertSection sectionIdentifier sectionIndex)).bind fun s =>
      (s.perform (.setHeader (header sectionIdentifier) sectionIdentifier)).map fun s =>
        (s, sectionIndex)
  else some (s, NSIntegerMax)

def removeEmptySection (s : CollectionViewModel) (sectionIdentifier : Int) :
    Option CollectionViewModel :=
  if s.hasSectionForSectionIdentifier sectionIdentifier && !hasItemInSection s sectionIdentifier
  then s.perform (.removeSection sectionIdentifier)
  else some s

def removeEmptySections (s : CollectionViewModel) : Option CollectionViewModel :=
  [SectionIdentifierRead, SectionIdentifierUnread].foldlM removeEmptySection s

/-- One round of the loop of `moveSelectedItems:toSection:`, for the index of the section and the
index of the section that was created. -/
def moveSelectedItem (sectionIndex sectionCreatedIndex : Nat) :
    CollectionViewModel × Nat → IndexPath → Option (CollectionViewModel × Nat)
  | (s, newItemIndex), index =>
    let updatedSection :=
      if index.sectionIndex ≥ sectionCreatedIndex then index.sectionIndex + 1
      else index.sectionIndex
    if updatedSection = sectionIndex then some (s, newItemIndex)
    else if newItemIndex ≤ index.item then
      (s.willMoveItemAtIndexPath ⟨updatedSection, index.item - newItemIndex⟩
        ⟨sectionIndex, newItemIndex⟩).map (·, newItemIndex + 1)
    else none

/-- `moveSelectedItems:toSection:`; the cells that are configured again have to be there. -/
def moveSelectedItems (header : Int → CollectionViewItem) (s : CollectionViewModel)
    (sortedIndexPaths : List IndexPath) (sectionIdentifier : Int) : Option CollectionViewModel :=
  if sortedIndexPaths.all fun indexPath => (s.itemAtIndexPath indexPath).isSome then
    (initializeSection header s sectionIdentifier).bind fun (s, sectionCreatedIndex) =>
      (s.internalSectionForIdentifier sectionIdentifier).bind fun sectionIndex =>
        (sortedIndexPaths.foldlM (moveSelectedItem sectionIndex sectionCreatedIndex) (s, 0)).bind
          fun (s, _) => removeEmptySections s
  else none

/-! ## Entries -/

/-- `updateIndexPaths:usingEntryUpdater:`, from the last index path to the first. -/
def updateIndexPaths {M : Type} (c : Controller M) (indexPaths : List IndexPath)
    (updater : M → CollectionViewItem → M) : Option (Controller M) :=
  indexPaths.reverse.foldlM (fun c index =>
    (c.collectionViewModel.itemAtIndexPath index).map fun item =>
      { c with model := updater c.model item }) c

section Actions

variable {M GURL : Type} (source : DataSource M GURL) (header : Int → CollectionViewItem)

/-- Both `markItemsReadAtIndexPath:` and `markItemsUnreadAtIndexPath:`. -/
def markItemsAtIndexPath (read : Bool) (sectionIdentifier : Int) (c : Controller M)
    (indexPaths : List IndexPath) : Option (Controller M) :=
  let sortedIndexPaths := sortedIndexPaths indexPaths
  (updateIndexPaths c sortedIndexPaths fun model item =>
    source.setReadStatus model (source.url item) read).bind fun c =>
      (moveSelectedItems header c.collectionViewModel sortedIndexPaths sectionIdentifier).map
        fun collectionViewModel => { c with collectionViewModel }

def markItemsReadAtIndexPath (c : Controller M) (indexPaths : List IndexPath) :
    Option (Controller M) :=
  markItemsAtIndexPath source header true SectionIdentifierRead c indexPaths

def markItemsUnreadAtIndexPath (c : Controller M) (indexPaths : List IndexPath) :
    Option (Controller M) :=
  markItemsAtIndexPath source header false SectionIdentifierUnread c indexPaths

def deleteItemsAtIndexPaths (c : Controller M) (indexPaths : List IndexPath) :
    Option (Controller M) :=
  (updateIndexPaths c indexPaths fun model item =>
    source.removeEntryByURL model (source.url item)).bind fun c =>
      ((c.collectionViewModel.willDeleteItemsAtIndexPaths indexPaths).bind
        removeEmptySections).map fun collectionViewModel => { c with collectionViewModel }

end Actions

/-! ## What the sections show -/

/-- The sections, in their order. -/
def HasSections (s : CollectionViewModel) (sections : List (Int × List CollectionViewItem)) :
    Prop :=
  s.sectionIdentifiers = sections.map Prod.fst ∧ s.sections = sections.map Prod.snd

def bothSections (unread read : List CollectionViewItem) :
    List (Int × List CollectionViewItem) :=
  [(SectionIdentifierUnread, unread), (SectionIdentifierRead, read)]

/-- The sections show these items, and one without items is not there. -/
def Displays (s : CollectionViewModel) (unread read : List CollectionViewItem) : Prop :=
  HasSections s ((bothSections unread read).filter fun entry => !entry.2.isEmpty)

/-- The items of the list, which are objects of their own. -/
structure Listed (items : List CollectionViewItem) : Prop where
  distinct : (items.map (·.object)).Nodup
  type : ∀ item ∈ items, item.type = ItemTypeItem

theorem Listed.sublist {items items' : List CollectionViewItem} (h : Listed items)
    (hsub : items'.Sublist items) : Listed items' where
  distinct := h.distinct.sublist (hsub.map _)
  type item hitem := h.type item (hsub.subset hitem)

theorem Listed.perm {items items' : List CollectionViewItem} (h : Listed items)
    (hperm : items.Perm items') : Listed items' where
  distinct := ((hperm.map _).nodup_iff).1 h.distinct
  type item hitem := h.type item (hperm.mem_iff.2 hitem)

section Moves

theorem modify_congr {α : Type} {l : List α} {a : Nat} {x : α} {f g : α → α} (hx : l[a]? = some x)
    (h : f x = g x) : l.modify a f = l.modify a g := by
  refine List.ext_getElem? fun j => ?_
  rw [List.getElem?_modify, List.getElem?_modify]
  by_cases hj : a = j
  · subst hj
    simp [hx, h]
  · simp [hj]

variable {s : CollectionViewModel}

theorem HasSections.tracked {sections : List (Int × List CollectionViewItem)}
    (h : HasSections s sections) (hnodup : (sections.map Prod.fst).Nodup) :
    Tracked s where
  nodup := h.1 ▸ hnodup
  length := by rw [h.1, h.2, List.length_map, List.length_map]

/-- The call that removes the item at an index path. -/
theorem perform_removeItemWithType (htracked : Tracked s)
    {items : List CollectionViewItem} (hlisted : Listed items) {a i : Nat}
    (hitems : s.sections[a]? = some items) {item : CollectionViewItem}
    (hitem : items[i]? = some item) :
    ∃ address, s.addressForIndexPath ⟨a, i⟩ = some address ∧
      s.perform (.removeItemWithType address.itemType address.sectionIdentifier
        address.indexInItemType) =
        some { s with sections := s.sections.modify a (·.eraseIdx i) } := by
  have hlt : a < s.sectionIdentifiers.length := by
    rw [htracked.length]
    exact (List.getElem?_eq_some_iff.1 hitems).1
  have hid : s.sectionIdentifiers[a]? = some s.sectionIdentifiers[a] := List.getElem?_eq_getElem hlt
  have hsection : s.internalSectionForIdentifier s.sectionIdentifiers[a] = some a :=
    (idxOf?_eq_some_iff_getElem? htracked.nodup).2 hid
  have hselect : itemForItemType item.type items
      (indexInItemTypeForItem item items 0) 0 = some i :=
    (itemForItemType_iff hlisted.distinct).2 ⟨item, hitem, rfl, rfl⟩
  have hpre : (Op.removeItemWithType item.type s.sectionIdentifiers[a]
      (indexInItemTypeForItem item items 0)).Pre s := by
    refine ⟨List.getElem_mem hlt, fun items' hitems' => ?_⟩
    rw [itemsInSectionWithIdentifier, hsection] at hitems'
    obtain rfl := Option.some.inj (hitems.symm.trans hitems')
    exact Option.isSome_of_eq_some hselect
  refine ⟨⟨s.sectionIdentifiers[a], item.type, _⟩,
    addressForIndexPath_eq_some_iff.2 ⟨hid, items, hitems, item, hitem, rfl,
      rfl⟩, ?_⟩
  rw [perform, if_pos hpre, step,
    removeItemWithType, modifyItems, hsection]
  refine congrArg some (congrArg (fun sections => { s with sections }) ?_)
  exact modify_congr hitems (by simp only [hselect])

/-- The call that inserts an item into a section. -/
theorem perform_insertItem (htracked : Tracked s) {b j : Nat}
    {items : List CollectionViewItem} (hitems : s.sections[b]? = some items)
    (hj : j ≤ items.length) {item : CollectionViewItem} (htype : item.type = ItemTypeItem) :
    (s.sectionIdentifierForSection b).bind
        (fun sectionIdentifier => s.perform (.insertItem item sectionIdentifier j)) =
      some { s with sections := s.sections.modify b (·.insertIdx j item) } := by
  have hlt : b < s.sectionIdentifiers.length := by
    rw [htracked.length]
    exact (List.getElem?_eq_some_iff.1 hitems).1
  have hid : s.sectionIdentifiers[b]? = some s.sectionIdentifiers[b] := List.getElem?_eq_getElem hlt
  have hsection : s.internalSectionForIdentifier s.sectionIdentifiers[b] = some b :=
    (idxOf?_eq_some_iff_getElem? htracked.nodup).2 hid
  have hpre : (Op.insertItem item s.sectionIdentifiers[b] j).Pre s := by
    refine ⟨htype ▸ by decide, List.getElem_mem hlt, fun items' hitems' => ?_⟩
    rw [itemsInSectionWithIdentifier, hsection] at hitems'
    obtain rfl := Option.some.inj (hitems.symm.trans hitems')
    exact hj
  rw [sectionIdentifierForSection, hid, Option.bind_some,
    perform, if_pos hpre, step,
    insertItem, modifyItems, hsection]

/-- A move from one section to another one. -/
theorem willMoveItemAtIndexPath_eq (htracked : Tracked s)
    {items others : List CollectionViewItem} (hlisted : Listed items) {a b i j : Nat}
    (hitems : s.sections[a]? = some items) (hothers : s.sections[b]? = some others) (hab : a ≠ b)
    {item : CollectionViewItem} (hitem : items[i]? = some item) (hj : j ≤ others.length) :
    s.willMoveItemAtIndexPath ⟨a, i⟩ ⟨b, j⟩ =
      some { s with
        sections := (s.sections.modify a (·.eraseIdx i)).modify b (·.insertIdx j item) } := by
  obtain ⟨address, haddress, hremove⟩ := perform_removeItemWithType htracked hlisted hitems hitem
  have hat : s.itemAtIndexPath ⟨a, i⟩ = some item :=
    itemAtIndexPath_eq_some_iff.2 ⟨items, hitems, hitem⟩
  rw [willMoveItemAtIndexPath, hat, Option.bind_some, haddress,
    Option.bind_some, hremove, Option.bind_some]
  have htracked' : Tracked
      { s with sections := s.sections.modify a (·.eraseIdx i) } :=
    ⟨htracked.nodup, by rw [List.length_modify]; exact htracked.length⟩
  have hothers' : (s.sections.modify a (·.eraseIdx i))[b]? = some others := by
    rw [List.getElem?_modify]
    simp [hab, hothers]
  exact perform_insertItem htracked' hothers' hj (hlisted.type item (List.mem_of_getElem? hitem))

end Moves

end ReadingListController

end ChromiumIos
