import Mathlib.Algebra.GroupWithZero.Nat
import ChromiumIos.Lib.RankSelect
import ChromiumIos.Ui.CollectionViewModel

/-!
# The addresses of the items of a `CollectionViewModel`

An item is found at an index path, and at an address: the identifier of its section, its type and
its index among the items of this type in the section.

- `itemAtIndexPath`, `indexPathForItem`, `indexPathForItemType`, `indexInItemTypeForIndexPath`: the
  queries.
- `Addressing`: each of the item, the index path and the address determines the other two.
- `addressing_after`: so it is in every model no two items of which are equal.
-/

namespace ChromiumIos

open Lib List Option

/-- `NSIndexPath`, of an item in a section. -/
structure IndexPath where
  sectionIndex : Nat
  item : Nat
deriving DecidableEq, Repr

/-- The arguments of `indexPathForItemType:sectionIdentifier:atIndex:`. -/
structure ItemAddress where
  sectionIdentifier : Int
  itemType : Int
  indexInItemType : Nat
deriving DecidableEq, Repr

namespace CollectionViewModel

/-! ## Queries -/

section Queries

variable (isEqual : CollectionViewItem → CollectionViewItem → Bool) (s : CollectionViewModel)

def sectionIdentifierForSection (sectionIndex : Nat) : Option Int :=
  s.sectionIdentifiers[sectionIndex]?

def itemAtIndexPath (indexPath : IndexPath) : Option CollectionViewItem :=
  s.sections[indexPath.sectionIndex]?.bind (·[indexPath.item]?)

def itemTypeForIndexPath (indexPath : IndexPath) : Option Int :=
  (s.itemAtIndexPath indexPath).map (·.type)

/-- The loop of `indexInItemTypeForItem:inSectionItems:`. -/
def indexInItemTypeForItem (item : CollectionViewItem) :
    List CollectionViewItem → (indexInItemType : Nat) → Nat
  | [], indexInItemType => indexInItemType
  | sectionItem :: rest, indexInItemType =>
    if sectionItem.object = item.object then indexInItemType
    else if sectionItem.type = item.type then
      indexInItemTypeForItem item rest (indexInItemType + 1)
    else indexInItemTypeForItem item rest indexInItemType

def indexInItemTypeForIndexPath (indexPath : IndexPath) : Option Nat :=
  s.sections[indexPath.sectionIndex]?.bind fun items =>
    (s.itemAtIndexPath indexPath).map fun item => indexInItemTypeForItem item items 0

/-- `indexPathForItemType:sectionIdentifier:atIndex:`, with `none` for an index path with
`NSNotFound`. -/
def indexPathForItemType (itemType sectionIdentifier : Int) (index : Nat) : Option IndexPath :=
  (s.internalSectionForIdentifier sectionIdentifier).bind fun sectionIndex =>
    s.sections[sectionIndex]?.bind fun items =>
      (itemForItemType itemType items index 0).map fun item => ⟨sectionIndex, item⟩

/-- The loop of `indexPathForItem:`, from a section on; `indexOfObject:` asks for equal items. -/
def indexPathFrom (item : CollectionViewItem) :
    List (List CollectionViewItem) → (sectionIndex : Nat) → Option IndexPath
  | [], _ => none
  | items :: rest, sectionIndex =>
    match items.findIdx? (isEqual item) with
    | some itemIndex => some ⟨sectionIndex, itemIndex⟩
    | none => indexPathFrom item rest (sectionIndex + 1)

def indexPathForItem (item : CollectionViewItem) : Option IndexPath :=
  indexPathFrom isEqual item s.sections 0

def numberOfSections : Nat := s.sections.length

def numberOfItemsInSection (sectionIndex : Nat) : Nat :=
  (s.sections[sectionIndex]?.map List.length).getD 0

/-- The address of what is at an index path. -/
def addressForIndexPath (indexPath : IndexPath) : Option ItemAddress :=
  (s.sectionIdentifierForSection indexPath.sectionIndex).bind fun sectionIdentifier =>
    (s.itemTypeForIndexPath indexPath).bind fun itemType =>
      (s.indexInItemTypeForIndexPath indexPath).map fun indexInItemType =>
        ⟨sectionIdentifier, itemType, indexInItemType⟩

/-- The index path of an address. -/
def indexPathForAddress (address : ItemAddress) : Option IndexPath :=
  s.indexPathForItemType address.itemType address.sectionIdentifier address.indexInItemType

/-- The pointers are pairwise distinct. -/
def DistinctObjects : Prop := (s.sections.flatten.map (·.object)).Nodup

/-- An object is equal to itself, as is documented of `isEqual:`. -/
def EqualToSelf : Prop := ∀ a b : CollectionViewItem, a.object = b.object → isEqual a b = true

/-- No two items are equal. -/
def DistinctItems : Prop :=
  s.sections.flatten.Pairwise fun a b => isEqual a b = false ∧ isEqual b a = false

instance : Decidable (DistinctItems isEqual s) :=
  inferInstanceAs (Decidable (s.sections.flatten.Pairwise _))

/-- Items, index paths and addresses determine each other. -/
structure Addressing : Prop where
  hasIndexPath : ∀ item ∈ s.sections.flatten, (s.indexPathForItem isEqual item).isSome = true
  itemAt : ∀ item ∈ s.sections.flatten, ∀ indexPath,
    s.indexPathForItem isEqual item = some indexPath ↔ s.itemAtIndexPath indexPath = some item
  hasAddress : ∀ indexPath, (s.itemAtIndexPath indexPath).isSome = true →
    (s.addressForIndexPath indexPath).isSome = true
  address : ∀ indexPath address,
    s.addressForIndexPath indexPath = some address ↔ s.indexPathForAddress address = some indexPath
  hasItem : ∀ address indexPath, s.indexPathForAddress address = some indexPath →
    (s.itemAtIndexPath indexPath).isSome = true
  counts : ∃ addresses : List ItemAddress, addresses.Nodup ∧
    (∀ address, address ∈ addresses ↔ (s.indexPathForAddress address).isSome = true) ∧
    addresses.length = ((List.range s.numberOfSections).map s.numberOfItemsInSection).sum

end Queries

/-! ## Items and index paths -/

variable {isEqual : CollectionViewItem → CollectionViewItem → Bool} {s : CollectionViewModel}
  {items : List CollectionViewItem} {item : CollectionViewItem} {indexPath : IndexPath}

theorem itemAtIndexPath_eq_some_iff :
    s.itemAtIndexPath indexPath = some item ↔
      ∃ items, s.sections[indexPath.sectionIndex]? = some items ∧
        items[indexPath.item]? = some item :=
  bind_eq_some_iff

/-- An item is in one place. -/
theorem DistinctObjects.indexPath_eq (h : s.DistinctObjects) {other : IndexPath}
    (hat : s.itemAtIndexPath indexPath = some item) (hat' : s.itemAtIndexPath other = some item) :
    indexPath = other := by
  obtain ⟨hnodup, hdisjoint⟩ := nodup_flatten.1 (Nodup.of_map _ h)
  obtain ⟨k, i⟩ := indexPath
  obtain ⟨k', i'⟩ := other
  obtain ⟨items, hitems, hi⟩ := itemAtIndexPath_eq_some_iff.1 hat
  obtain ⟨items', hitems', hi'⟩ := itemAtIndexPath_eq_some_iff.1 hat'
  obtain ⟨hk, rfl⟩ := List.getElem?_eq_some_iff.1 hitems
  obtain ⟨hk', rfl⟩ := List.getElem?_eq_some_iff.1 hitems'
  obtain rfl : k = k' := by
    by_contra hne
    have hapart := pairwise_iff_getElem.1 hdisjoint
    rcases Nat.lt_or_gt_of_ne hne with hlt | hlt
    · exact hapart k k' hk hk' hlt (mem_of_getElem? hi) (mem_of_getElem? hi')
    · exact hapart k' k hk' hk hlt (mem_of_getElem? hi') (mem_of_getElem? hi)
  have hlt := (List.getElem?_eq_some_iff.1 hi).1
  have hindex : i = i' := (getElem?_inj hlt (hnodup _ (getElem_mem hk))).1 (hi.trans hi'.symm)
  rw [hindex]

theorem indexPathFrom_of_find? {sections : List (List CollectionViewItem)} {k : Nat}
    {found : CollectionViewItem} (h : sections.flatten.find? (isEqual item) = some found) :
    ∃ j i items, indexPathFrom isEqual item sections k = some ⟨k + j, i⟩ ∧
      sections[j]? = some items ∧ items[i]? = some found := by
  induction sections generalizing k with
  | nil => cases h
  | cons items rest ih =>
    rw [flatten_cons, find?_append] at h
    rw [indexPathFrom]
    cases hfind : items.find? (isEqual item) with
    | some first =>
      rw [hfind, some_or] at h
      obtain rfl := some.inj h
      obtain ⟨hp, i, hi, rfl, hbefore⟩ := find?_eq_some_iff_getElem.1 hfind
      have hidx : items.findIdx? (isEqual item) = some i :=
        findIdx?_eq_some_iff_getElem.2 ⟨hi, hp, fun j hj => by simpa using hbefore j hj⟩
      rw [hidx]
      exact ⟨0, i, items, rfl, rfl, List.getElem?_eq_getElem hi⟩
    | none =>
      rw [hfind, none_or] at h
      have hidx : items.findIdx? (isEqual item) = none := by
        rw [findIdx?_eq_none_iff]
        simpa using hfind
      rw [hidx]
      obtain ⟨j, i, items', hpath, hitems', hitem⟩ := ih h
      exact ⟨j + 1, i, items', by rw [hpath, Nat.add_right_comm, Nat.add_assoc], hitems', hitem⟩

/-- The index path of the first equal item. -/
theorem indexPathForItem_of_find? {found : CollectionViewItem}
    (h : s.sections.flatten.find? (isEqual item) = some found) :
    ∃ indexPath, s.indexPathForItem isEqual item = some indexPath ∧
      s.itemAtIndexPath indexPath = some found := by
  obtain ⟨j, i, items, hpath, hitems, hitem⟩ := indexPathFrom_of_find? (k := 0) h
  rw [Nat.zero_add] at hpath
  exact ⟨_, hpath, itemAtIndexPath_eq_some_iff.2 ⟨items, hitems, hitem⟩⟩

theorem DistinctItems.objects (h : s.DistinctItems isEqual)
    (hself : EqualToSelf isEqual) : s.DistinctObjects :=
  pairwise_map.2 (h.imp fun hne heq => by simp [hself _ _ heq] at hne)

/-- The first equal item is the item itself. -/
theorem DistinctItems.exists_indexPath (h : s.DistinctItems isEqual)
    (hself : EqualToSelf isEqual) (hitem : item ∈ s.sections.flatten) :
    ∃ indexPath, s.indexPathForItem isEqual item = some indexPath ∧
      s.itemAtIndexPath indexPath = some item := by
  refine indexPathForItem_of_find? ?_
  obtain ⟨found, hfind⟩ := isSome_iff_exists.1
    (find?_isSome.2 ⟨item, hitem, hself item item rfl⟩)
  have heq : ∀ a ∈ s.sections.flatten, ∀ b ∈ s.sections.flatten, isEqual a b = true → a = b :=
    Pairwise.forall_of_forall_of_flip (fun _ _ _ => rfl)
      (h.imp fun hne htrue => by simp [htrue] at hne)
      (h.imp fun hne htrue => by simp [htrue] at hne)
  rw [hfind, heq item hitem found (mem_of_find?_eq_some hfind) (find?_some hfind)]

theorem DistinctItems.itemAt (h : s.DistinctItems isEqual)
    (hself : EqualToSelf isEqual) (hitem : item ∈ s.sections.flatten)
    (indexPath : IndexPath) : s.indexPathForItem isEqual item = some indexPath ↔
      s.itemAtIndexPath indexPath = some item := by
  obtain ⟨place, hplace, hat⟩ := h.exists_indexPath hself hitem
  rw [hplace, some_inj]
  constructor
  · rintro rfl
    exact hat
  · exact (h.objects hself).indexPath_eq hat

/-! ## Index paths and addresses -/

/-- The items of a type are counted up to the item. -/
theorem indexInItemTypeForItem_eq
    {i : Nat} (h : (items.map (·.object)).Nodup) (hitem : items[i]? = some item) (count : Nat) :
    indexInItemTypeForItem item items count = count + rank (·.type = item.type) items i := by
  induction items generalizing i count with
  | nil => cases hitem
  | cons sectionItem rest ih =>
    obtain ⟨hnot, hrest⟩ := nodup_cons.1 h
    rw [indexInItemTypeForItem]
    cases i with
    | zero =>
      obtain rfl := some.inj hitem
      rw [if_pos rfl]
      rfl
    | succ i =>
      have hother : sectionItem.object ≠ item.object := by
        intro heq
        have hmem : sectionItem.object ∈ rest.map (·.object) := by
          rw [heq]
          exact mem_map_of_mem (mem_of_getElem? hitem)
        exact hnot hmem
      rw [if_neg hother, rank_cons_succ]
      by_cases htype : sectionItem.type = item.type
      · rw [if_pos htype, ih hrest hitem, if_pos (by simpa using htype)]
        omega
      · rw [if_neg htype, ih hrest hitem, if_neg (by simpa using htype)]
        omega

theorem itemForItemType_eq (itemType : Int) (items : List CollectionViewItem) (index idx : Nat) :
    itemForItemType itemType items index idx = select (·.type = itemType) items index idx := by
  induction items generalizing index idx with
  | nil => rfl
  | cons item items ih =>
    by_cases htype : item.type = itemType
    · cases index with
      | zero => rw [itemForItemType, if_pos htype, select_cons_zero (by simpa using htype)]
      | succ index =>
        rw [itemForItemType, if_pos htype, select_cons_succ (by simpa using htype)]
        exact ih index (idx + 1)
    · rw [select_cons_of_neg (by simpa using htype), ← ih]
      cases index <;> rw [itemForItemType, if_neg htype]

/-- The two ways from a place in a section to the type of the item and its index in it. -/
theorem itemForItemType_iff (h : (items.map (·.object)).Nodup) {itemType : Int} {index i : Nat} :
    itemForItemType itemType items index 0 = some i ↔
      ∃ item, items[i]? = some item ∧ item.type = itemType ∧
        indexInItemTypeForItem item items 0 = index := by
  rw [itemForItemType_eq, select_eq_some_iff]
  constructor
  · rintro ⟨j, hj, ⟨item, hitem, htype⟩, hrank⟩
    rw [Nat.zero_add] at hj
    subst hj
    obtain rfl : item.type = itemType := by simpa using htype
    exact ⟨item, hitem, rfl, by rw [indexInItemTypeForItem_eq h hitem, Nat.zero_add, hrank]⟩
  · rintro ⟨item, hitem, rfl, hindex⟩
    rw [indexInItemTypeForItem_eq h hitem, Nat.zero_add] at hindex
    exact ⟨i, (Nat.zero_add _).symm, ⟨item, hitem, by simp⟩, hindex⟩

theorem DistinctObjects.section (h : s.DistinctObjects) {k : Nat} {items : List CollectionViewItem}
    (hitems : s.sections[k]? = some items) : (items.map (·.object)).Nodup := by
  have hsub : items.Sublist s.sections.flatten :=
    sublist_flatten_of_mem (mem_of_getElem? hitems)
  exact h.sublist (hsub.map _)

theorem addressForIndexPath_eq_some_iff {address : ItemAddress} :
    s.addressForIndexPath indexPath = some address ↔
      s.sectionIdentifiers[indexPath.sectionIndex]? = some address.sectionIdentifier ∧
        ∃ items, s.sections[indexPath.sectionIndex]? = some items ∧
          ∃ item, items[indexPath.item]? = some item ∧ item.type = address.itemType ∧
            indexInItemTypeForItem item items 0 = address.indexInItemType := by
  obtain ⟨sectionIdentifier, itemType, indexInItemType⟩ := address
  rw [addressForIndexPath, bind_eq_some_iff]
  constructor
  · rintro ⟨_, hidentifier, haddress⟩
    obtain ⟨_, htype, haddress⟩ := bind_eq_some_iff.1 haddress
    obtain ⟨_, hindex, heq⟩ := map_eq_some_iff.1 haddress
    obtain ⟨rfl, rfl, rfl⟩ := ItemAddress.mk.inj heq
    obtain ⟨item, hitem, rfl⟩ := map_eq_some_iff.1 htype
    obtain ⟨items, hitems, hindex⟩ := bind_eq_some_iff.1 hindex
    rw [hitem] at hindex
    obtain ⟨items', hitems', hget⟩ := itemAtIndexPath_eq_some_iff.1 hitem
    obtain rfl := some.inj (hitems.symm.trans hitems')
    exact ⟨hidentifier, items, hitems, item, hget, rfl, some.inj hindex⟩
  · rintro ⟨hidentifier, items, hitems, item, hget, rfl, rfl⟩
    have hitem := itemAtIndexPath_eq_some_iff.2 ⟨items, hitems, hget⟩
    refine ⟨_, hidentifier, ?_⟩
    rw [itemTypeForIndexPath, indexInItemTypeForIndexPath, hitems, hitem]
    rfl

theorem indexPathForAddress_eq_some_iff {address : ItemAddress} :
    s.indexPathForAddress address = some indexPath ↔
      s.sectionIdentifiers.idxOf? address.sectionIdentifier = some indexPath.sectionIndex ∧
        ∃ items, s.sections[indexPath.sectionIndex]? = some items ∧
          itemForItemType address.itemType items address.indexInItemType 0 =
            some indexPath.item := by
  obtain ⟨sectionIndex, item⟩ := indexPath
  rw [indexPathForAddress, indexPathForItemType, bind_eq_some_iff]
  constructor
  · rintro ⟨_, hsection, hpath⟩
    obtain ⟨items, hitems, hpath⟩ := bind_eq_some_iff.1 hpath
    obtain ⟨_, hitem, heq⟩ := map_eq_some_iff.1 hpath
    obtain ⟨rfl, rfl⟩ := IndexPath.mk.inj heq
    exact ⟨hsection, items, hitems, hitem⟩
  · rintro ⟨hsection, items, hitems, hitem⟩
    refine ⟨_, hsection, ?_⟩
    rw [hitems, bind_some, hitem]
    rfl

theorem idxOf?_eq_some_iff_getElem? {ids : List Int} (h : ids.Nodup) {id : Int} {k : Nat} :
    ids.idxOf? id = some k ↔ ids[k]? = some id := by
  constructor
  · intro hk
    obtain ⟨hlt, hid, -⟩ := idxOf?_eq_some_iff.1 hk
    rw [getElem?_eq_getElem hlt, hid]
  · intro hk
    obtain ⟨hlt, rfl⟩ := List.getElem?_eq_some_iff.1 hk
    refine idxOf?_eq_some_iff.2 ⟨hlt, rfl, fun j hj heq => ?_⟩
    exact absurd (h.getElem_inj_iff.1 heq) (Nat.ne_of_lt hj)

/-- An address leads to the index path that it is the address of. -/
theorem DistinctObjects.address (h : s.DistinctObjects) (htracked : Tracked s) (indexPath : IndexPath)
    (address : ItemAddress) :
    s.addressForIndexPath indexPath = some address ↔
      s.indexPathForAddress address = some indexPath := by
  rw [addressForIndexPath_eq_some_iff, indexPathForAddress_eq_some_iff,
    idxOf?_eq_some_iff_getElem? htracked.1]
  refine and_congr_right fun _ => exists_congr fun items => and_congr_right fun hitems => ?_
  exact (itemForItemType_iff (h.section hitems)).symm

/-! ## Counting -/

/-- The index paths of the items. -/
def indexPaths (s : CollectionViewModel) : List IndexPath :=
  (List.range s.numberOfSections).flatMap fun k =>
    (List.range (s.numberOfItemsInSection k)).map (⟨k, ·⟩)

theorem length_indexPaths : s.indexPaths.length =
    ((List.range s.numberOfSections).map s.numberOfItemsInSection).sum := by
  simp [indexPaths, length_flatMap]

theorem mem_indexPaths :
    indexPath ∈ s.indexPaths ↔ (s.itemAtIndexPath indexPath).isSome = true := by
  obtain ⟨sectionIndex, item⟩ := indexPath
  have hmem : (⟨sectionIndex, item⟩ : IndexPath) ∈ s.indexPaths ↔
      sectionIndex < s.numberOfSections ∧ item < s.numberOfItemsInSection sectionIndex := by
    simp [indexPaths]
  rw [hmem, itemAtIndexPath, numberOfItemsInSection, numberOfSections]
  cases hitems : s.sections[sectionIndex]? with
  | none => simp
  | some items =>
    have hlt := (List.getElem?_eq_some_iff.1 hitems).1
    simp [hlt]

theorem nodup_indexPaths : s.indexPaths.Nodup := by
  rw [indexPaths, nodup_flatMap]
  constructor
  · intro k _
    exact nodup_range.map fun i j hij => (IndexPath.mk.inj hij).2
  · refine nodup_range.imp fun {k k'} hne => ?_
    rw [Function.onFun_apply, disjoint_left]
    intro indexPath hk hk'
    obtain ⟨i, -, rfl⟩ := mem_map.1 hk
    obtain ⟨j, -, heq⟩ := mem_map.1 hk'
    exact hne (IndexPath.mk.inj heq).1.symm

theorem isSome_addressForIndexPath (h : Tracked s) {indexPath : IndexPath}
    (hitem : (s.itemAtIndexPath indexPath).isSome = true) :
    (s.addressForIndexPath indexPath).isSome = true := by
  obtain ⟨item, hitem⟩ := isSome_iff_exists.1 hitem
  obtain ⟨items, hitems, hget⟩ := itemAtIndexPath_eq_some_iff.1 hitem
  have hlt : indexPath.sectionIndex < s.sectionIdentifiers.length := by
    rw [h.length]
    exact (List.getElem?_eq_some_iff.1 hitems).1
  have haddress : s.addressForIndexPath indexPath =
      some ⟨s.sectionIdentifiers[indexPath.sectionIndex], item.type,
        indexInItemTypeForItem item items 0⟩ :=
    addressForIndexPath_eq_some_iff.2
      ⟨getElem?_eq_getElem hlt, items, hitems, item, hget, rfl, rfl⟩
  exact isSome_of_eq_some haddress

theorem isSome_itemAt_of_address {address : ItemAddress}
    (h : s.addressForIndexPath indexPath = some address) :
    (s.itemAtIndexPath indexPath).isSome = true := by
  obtain ⟨-, items, hitems, item, hget, -, -⟩ := addressForIndexPath_eq_some_iff.1 h
  exact isSome_of_eq_some (itemAtIndexPath_eq_some_iff.2 ⟨items, hitems, hget⟩)

/-- The addresses are those of the index paths. -/
theorem DistinctObjects.exists_addresses (h : s.DistinctObjects) (htracked : Tracked s) :
    ∃ addresses : List ItemAddress, addresses.Nodup ∧
      (∀ address, address ∈ addresses ↔ (s.indexPathForAddress address).isSome = true) ∧
      addresses.length = ((List.range s.numberOfSections).map s.numberOfItemsInSection).sum := by
  refine ⟨s.indexPaths.filterMap s.addressForIndexPath, ?_, fun address => ?_, ?_⟩
  · refine nodup_indexPaths.filterMap fun indexPath indexPath' address haddress haddress' => ?_
    have hpath := (h.address htracked indexPath address).1 haddress
    rw [(h.address htracked indexPath' address).1 haddress'] at hpath
    exact (some.inj hpath).symm
  · rw [mem_filterMap, isSome_iff_exists]
    constructor
    · rintro ⟨indexPath, -, haddress⟩
      exact ⟨indexPath, (h.address htracked indexPath address).1 haddress⟩
    · rintro ⟨indexPath, hpath⟩
      have haddress := (h.address htracked indexPath address).2 hpath
      exact ⟨indexPath, mem_indexPaths.2 (isSome_itemAt_of_address haddress), haddress⟩
  · rw [length_filterMap_eq_countP, ← length_indexPaths, countP_eq_length]
    exact fun indexPath hmem => isSome_addressForIndexPath htracked (mem_indexPaths.1 hmem)

theorem Tracked.addressing (htracked : Tracked s) (h : s.DistinctItems isEqual)
    (hself : EqualToSelf isEqual) : Addressing isEqual s where
  hasIndexPath item hitem := by
    obtain ⟨indexPath, hindexPath, -⟩ := h.exists_indexPath hself hitem
    exact isSome_of_eq_some hindexPath
  itemAt item := h.itemAt hself
  hasAddress indexPath hitem := isSome_addressForIndexPath htracked hitem
  address := (h.objects hself).address htracked
  hasItem address indexPath hpath :=
    isSome_itemAt_of_address (((h.objects hself).address htracked indexPath address).2 hpath)
  counts := (h.objects hself).exists_addresses htracked

/-- In every model that the calls lead to, no two items of which are equal. -/
theorem addressing_after (hself : EqualToSelf isEqual) (ops : List Op)
    (hlegal : machine.Legal init ops) (hdistinct : (after ops).DistinctItems isEqual) :
    Addressing isEqual (after ops) :=
  (tracked_after hlegal).addressing hdistinct hself

/-- Two types in turn; the last two items come from the middle of another section. -/
def mixedOps : List Op :=
  [.addSection 10, .addSection 11, .addItem ⟨1, 100⟩ 11, .addItem ⟨2, 101⟩ 11, .addItem ⟨3, 100⟩ 11,
    .insertItem ⟨4, 101⟩ 11 1, .removeItemWithType 100 11 0, .addItem ⟨5, 100⟩ 10]

/-- What the cells show: an item that was removed shows the same as the one it was equal to. -/
def equalTexts (a b : CollectionViewItem) : Bool :=
  (if a.object = 3 then 1 else a.object) = if b.object = 3 then 1 else b.object

theorem mixed_addressing :
    Addressing equalTexts (after mixedOps) ∧
      (after mixedOps).indexPathForItem equalTexts ⟨2, 101⟩ = some ⟨1, 1⟩ ∧
      (after mixedOps).addressForIndexPath ⟨1, 1⟩ = some ⟨11, 101, 1⟩ := by
  refine ⟨addressing_after ?_ mixedOps ?_ ?_, by decide, by decide⟩
  · intro a b heq
    simp [equalTexts, heq]
  · show machine.Along (fun s op => op.Pre s) init mixedOps
    decide
  · decide

end CollectionViewModel

end ChromiumIos
