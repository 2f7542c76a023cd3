import ChromiumIos.Ui.ReadingListController

/-!
# Moves between the sections of the reading list

The items that are selected are moved to the front of the section of their new status. The index
paths were taken before, so the section and the index in it are corrected on the way.

- `foldlM_moveSelectedItem`: the loop, from the items that are left on.
- `HasSections.removeEmptySections`, `initializeSection_beside`: sections that come and go.
- `displays_moveSelectedItems`: what both sections show after it.
-/

namespace ChromiumIos

open Lib List IndexPath

namespace ReadingListController

open CollectionViewModel

section Moves

variable {s : CollectionViewModel}

/-! ## The loop -/

/-- Both sections, one of which items are moved to. -/
def arranged (read : Bool) (target other : List CollectionViewItem) :
    List (Int × List CollectionViewItem) :=
  if read then bothSections other target else bothSections target other

/-- The index of the section that items are moved to, and that of the other one. -/
def targetIndex (read : Bool) : Nat := if read then 1 else 0
def otherIndex (read : Bool) : Nat := if read then 0 else 1

theorem arranged_nodup (read : Bool) (target other : List CollectionViewItem) :
    ((arranged read target other).map Prod.fst).Nodup := by
  cases read <;> exact (by decide : [SectionIdentifierUnread, SectionIdentifierRead].Nodup)

variable {read : Bool}

/-- One item goes to the place after those that have been moved. -/
theorem willMove_arranged {moved target kept rest : List CollectionViewItem}
    {item : CollectionViewItem}
    (h : HasSections s (arranged read (moved ++ target) (kept ++ item :: rest)))
    (hlisted : Listed (kept ++ item :: rest)) :
    ∃ s', s.willMoveItemAtIndexPath ⟨otherIndex read, kept.length⟩
        ⟨targetIndex read, moved.length⟩ = some s' ∧
      HasSections s' (arranged read (moved ++ item :: target) (kept ++ rest)) := by
  have hother : s.sections[otherIndex read]? = some (kept ++ item :: rest) := by
    rw [h.2]
    cases read <;> rfl
  have htarget : s.sections[targetIndex read]? = some (moved ++ target) := by
    rw [h.2]
    cases read <;> rfl
  have hne : otherIndex read ≠ targetIndex read := by
    cases read <;> decide
  have hitem : (kept ++ item :: rest)[kept.length]? = some item := by
    simp
  refine ⟨_, willMoveItemAtIndexPath_eq (h.tracked (arranged_nodup ..)) hlisted hother htarget hne
    hitem (by simp), h.1.trans ?_, ?_⟩
  · cases read <;> rfl
  · have herase : (kept ++ item :: rest).eraseIdx kept.length = kept ++ rest := by
      rw [eraseIdx_append_of_length_le (Nat.le_refl _), Nat.sub_self, eraseIdx_cons_zero]
    have hinsert : (moved ++ target).insertIdx moved.length item = moved ++ item :: target := by
      have hat := insertAt_length moved target item
      rw [insertAt, if_pos (by simp)] at hat
      exact Option.some.inj hat
    dsimp only
    rw [h.2]
    cases read <;> simp [arranged, bothSections, otherIndex, targetIndex, herase, hinsert]

/-- The selected items of the other section are moved one after the other. -/
theorem foldlM_moveSelectedItem {created a : Nat}
    (hupdated : (if a ≥ created then a + 1 else a) = otherIndex read) {p : Nat → Bool}
    {moved target kept rest : List CollectionViewItem} {d : Nat}
    (hd : d = kept.length + moved.length)
    (h : HasSections s (arranged read (moved ++ target) (kept ++ rest)))
    (hlisted : Listed (kept ++ rest)) :
    ∃ s' moves, (((List.range' d rest.length).filter p).map (mk a)).foldlM
        (moveSelectedItem (targetIndex read) created) (s, moved.length) = some (s', moves) ∧
      HasSections s' (arranged read (moved ++ (pick p rest d ++ target))
        (kept ++ pick (fun i => !p i) rest d)) := by
  induction rest generalizing s moved kept d with
  | nil => exact ⟨s, moved.length, rfl, h⟩
  | cons item rest ih =>
    rw [length_cons, range'_succ, filter_cons, pick_cons, pick_cons]
    cases hp : p d with
    | true =>
      obtain ⟨t, hmove, ht⟩ := willMove_arranged h hlisted
      have hround : moveSelectedItem (targetIndex read) created (s, moved.length) ⟨a, d⟩ =
          some (t, moved.length + 1) := by
        have hne : otherIndex read ≠ targetIndex read := by
          cases read <;> decide
        rw [moveSelectedItem]
        dsimp only
        rw [hupdated, if_neg hne, if_pos (by omega), show d - moved.length = kept.length by omega,
          hmove]
        rfl
      have hmoved : moved ++ item :: target = (moved ++ [item]) ++ target := by simp
      rw [hmoved] at ht
      obtain ⟨s', moves, hrun, hs'⟩ := ih (d := d + 1) (by simp; omega) ht
        (hlisted.sublist (List.Sublist.append_left (sublist_cons_self _ _) _))
      refine ⟨s', moves, ?_, by simpa using hs'⟩
      rw [if_pos rfl, map_cons, foldlM_cons, hround]
      simpa using hrun
    | false =>
      have hkept : kept ++ item :: rest = (kept ++ [item]) ++ rest := by simp
      rw [hkept] at h hlisted
      obtain ⟨s', moves, hrun, hs'⟩ := ih (d := d + 1) (by simp; omega) h hlisted
      exact ⟨s', moves, hrun, by simpa using hs'⟩

theorem foldlM_moveSelectedItem_all {created a : Nat}
    (hupdated : (if a ≥ created then a + 1 else a) = otherIndex read) (p : Nat → Bool)
    {target other : List CollectionViewItem} (h : HasSections s (arranged read target other))
    (hlisted : Listed other) :
    ∃ s' moves, (((List.range other.length).filter p).map (mk a)).foldlM
        (moveSelectedItem (targetIndex read) created) (s, 0) = some (s', moves) ∧
      HasSections s' (arranged read (pick p other 0 ++ target)
        (pick (fun i => !p i) other 0)) := by
  rw [range_eq_range']
  exact @foldlM_moveSelectedItem s read created a hupdated p [] target [] other 0 rfl h hlisted

/-- The items that are in the section already stay where they are. -/
theorem foldlM_moveSelectedItem_target {sectionIndex created a moves : Nat}
    (hupdated : (if a ≥ created then a + 1 else a) = sectionIndex) (positions : List Nat) :
    (positions.map (mk a)).foldlM (moveSelectedItem sectionIndex created) (s, moves) =
      some (s, moves) := by
  induction positions with
  | nil => rfl
  | cons position positions ih =>
    rw [map_cons, foldlM_cons, moveSelectedItem]
    dsimp only
    rw [if_pos hupdated]
    exact ih

/-! ## Sorting -/

theorem isAscending_iff {a b : IndexPath} : a.isAscending b = true ↔
    a.sectionIndex < b.sectionIndex ∨ a.sectionIndex = b.sectionIndex ∧ a.item ≤ b.item := by
  simp [isAscending]

theorem indexPaths_ascending (s : CollectionViewModel) :
    s.indexPaths.Pairwise fun a b => a.isAscending b = true := by
  rw [indexPaths, pairwise_flatMap]
  constructor
  · intro k _
    rw [pairwise_map]
    refine pairwise_lt_range.imp fun {i j} hlt => ?_
    exact isAscending_iff.2 (.inr ⟨rfl, Nat.le_of_lt hlt⟩)
  · refine pairwise_lt_range.imp fun {k k'} hlt a ha b hb => ?_
    obtain ⟨i, -, rfl⟩ := mem_map.1 ha
    obtain ⟨j, -, rfl⟩ := mem_map.1 hb
    exact isAscending_iff.2 (.inl hlt)

/-- Sorted, the selected index paths are in the order of the items. -/
theorem sortedIndexPaths_eq {indexPaths : List IndexPath} (hnodup : indexPaths.Nodup)
    (hmem : ∀ indexPath ∈ indexPaths, indexPath ∈ s.indexPaths) :
    sortedIndexPaths indexPaths = s.indexPaths.filter (· ∈ indexPaths) := by
  have hanti : ∀ a b, a ∈ sortedIndexPaths indexPaths →
      b ∈ s.indexPaths.filter (· ∈ indexPaths) → a.isAscending b = true →
      b.isAscending a = true → a = b := by
    intro a b _ _ hab hba
    rw [isAscending_iff] at hab hba
    cases a
    cases b
    simp only [IndexPath.mk.injEq] at hab hba ⊢
    omega
  have hsorted : (sortedIndexPaths indexPaths).Pairwise fun a b => a.isAscending b = true := by
    refine pairwise_mergeSort (fun a b c hab hbc => ?_) (fun a b => ?_) indexPaths
    · rw [isAscending_iff] at hab hbc ⊢
      omega
    · rw [Bool.or_eq_true, isAscending_iff, isAscending_iff]
      omega
  refine List.Perm.eq_of_pairwise hanti hsorted ((indexPaths_ascending s).filter _) ?_
  refine (mergeSort_perm _ _).trans ?_
  refine (perm_ext_iff_of_nodup hnodup (nodup_indexPaths.filter _)).2
    fun indexPath => ?_
  simp only [mem_filter, decide_eq_true_eq]
  exact ⟨fun h => ⟨hmem _ h, h⟩, fun h => h.2⟩

/-! ## Sections that come and go -/

variable {sections : List (Int × List CollectionViewItem)} {sectionIdentifier : Int}

section

variable (h : HasSections s sections)
include h

theorem HasSections.internalSectionForIdentifier_eq
    (hnodup : (sections.map Prod.fst).Nodup) {k : Nat} {items : List CollectionViewItem}
    (hk : sections[k]? = some (sectionIdentifier, items)) :
    s.internalSectionForIdentifier sectionIdentifier = some k := by
  rw [internalSectionForIdentifier, h.1]
  refine (idxOf?_eq_some_iff_getElem? hnodup).2 ?_
  rw [getElem?_map, hk]
  rfl

theorem HasSections.internalSectionForIdentifier_eq_none
    (hnot : sectionIdentifier ∉ sections.map Prod.fst) :
    s.internalSectionForIdentifier sectionIdentifier = none := by
  rw [internalSectionForIdentifier, h.1]
  exact idxOf?_eq_none_iff.2 hnot

theorem HasSections.hasItemInSection_eq
    (hnodup : (sections.map Prod.fst).Nodup) {k : Nat} {items : List CollectionViewItem}
    (hk : sections[k]? = some (sectionIdentifier, items)) :
    hasItemInSection s sectionIdentifier = !items.isEmpty := by
  rw [hasItemInSection, h.internalSectionForIdentifier_eq hnodup hk]
  dsimp only
  rw [numberOfItemsInSection, h.2, getElem?_map, hk]
  cases items <;> simp

theorem HasSections.hasItemInSection_eq_false (hnot : sectionIdentifier ∉ sections.map Prod.fst) :
    hasItemInSection s sectionIdentifier = false := by
  rw [hasItemInSection, h.internalSectionForIdentifier_eq_none hnot]

/-- The section goes if it has no items. -/
theorem HasSections.removeEmptySection
    (hnodup : (sections.map Prod.fst).Nodup) (sectionIdentifier : Int) :
    ∃ s', removeEmptySection s sectionIdentifier = some s' ∧
      HasSections s' (sections.filter fun entry =>
        !(entry.1 == sectionIdentifier && entry.2.isEmpty)) := by
  rw [ReadingListController.removeEmptySection, hasSectionForSectionIdentifier]
  by_cases hmem : sectionIdentifier ∈ sections.map Prod.fst
  · obtain ⟨⟨id, items⟩, hentry, heq⟩ := mem_map.1 hmem
    obtain rfl : id = sectionIdentifier := heq
    obtain ⟨before, after, rfl⟩ := append_of_mem hentry
    have hk : (before ++ (id, items) :: after)[before.length]? = some (id, items) := by simp
    have hinternal := h.internalSectionForIdentifier_eq hnodup hk
    rw [hinternal, h.hasItemInSection_eq hnodup hk]
    have hother : ∀ entry ∈ before ++ after, entry.1 ≠ id := by
      rw [map_append, map_cons, nodup_middle, nodup_cons,
        ← map_append] at hnodup
      intro entry hentry heq
      exact hnodup.1 (mem_map.2 ⟨entry, hentry, heq⟩)
    have hkeep : ∀ part : List (Int × List CollectionViewItem),
        (∀ entry ∈ part, entry ∈ before ++ after) →
        part.filter (fun entry => !(entry.1 == id && entry.2.isEmpty)) = part := by
      intro part hpart
      refine filter_eq_self.2 fun entry hentry => ?_
      simp [hother entry (hpart entry hentry)]
    have hfilter : (before ++ (id, items) :: after).filter
        (fun entry => !(entry.1 == id && entry.2.isEmpty)) =
          before ++ (if items.isEmpty then after else (id, items) :: after) := by
      rw [filter_append, filter_cons, hkeep before fun _ => mem_append_left _,
        hkeep after fun _ => mem_append_right _]
      cases items <;> simp
    rw [hfilter]
    cases hempty : items.isEmpty with
    | true =>
      have hpre : (Op.removeSection id).Pre s := by
        show id ∈ s.sectionIdentifiers
        exact h.1 ▸ hmem
      refine ⟨s.removeSection id, ?_, ?_⟩
      · simp [perform, hpre, step]
      · rw [removeSection, hinternal]
        constructor
        · simp [h.1, eraseIdx_append_of_length_le]
        · simp [h.2, eraseIdx_append_of_length_le]
    | false => exact ⟨s, by simp, by simpa using h⟩
  · rw [h.internalSectionForIdentifier_eq_none hmem]
    refine ⟨s, by simp, ?_⟩
    rw [filter_eq_self.2]
    · exact h
    · intro entry hentry
      have hne : entry.1 ≠ sectionIdentifier := fun heq => hmem (heq ▸ mem_map_of_mem hentry)
      simp [hne]

theorem HasSections.removeEmptySections (hnodup : (sections.map Prod.fst).Nodup)
    (hmem : ∀ entry ∈ sections,
      entry.1 = SectionIdentifierUnread ∨ entry.1 = SectionIdentifierRead) :
    ∃ s', removeEmptySections s = some s' ∧
      HasSections s' (sections.filter fun entry => !entry.2.isEmpty) := by
  obtain ⟨s₁, h₁, hs₁⟩ := h.removeEmptySection hnodup SectionIdentifierRead
  obtain ⟨s₂, h₂, hs₂⟩ := hs₁.removeEmptySection
    (hnodup.sublist (filter_sublist.map _)) SectionIdentifierUnread
  refine ⟨s₂, ?_, ?_⟩
  · rw [ReadingListController.removeEmptySections, foldlM_cons, h₁]
    show foldlM _ s₁ _ = _
    rw [foldlM_cons, h₂]
    rfl
  · rw [filter_filter] at hs₂
    rw [filter_congr fun entry hentry => ?_] at hs₂
    · exact hs₂
    · rcases hmem entry hentry with heq | heq
      · simp [heq, unread_ne_read]
      · simp [heq, unread_ne_read.symm]

theorem HasSections.initializeSection_of_mem
    (hmem : sectionIdentifier ∈ sections.map Prod.fst) (header : Int → CollectionViewItem) :
    initializeSection header s sectionIdentifier = some (s, NSIntegerMax) := by
  have hsome : s.hasSectionForSectionIdentifier sectionIdentifier = true := by
    rw [hasSectionForSectionIdentifier,
      internalSectionForIdentifier, h.1, isSome_idxOf?]
    exact hmem
  simp [initializeSection, hsome]

/-- A new section comes without items. -/
theorem HasSections.initializeSection_of_notMem (hnot : sectionIdentifier ∉ sections.map Prod.fst)
    (hid : kSectionIdentifierEnumZero ≤ sectionIdentifier) (header : Int → CollectionViewItem)
    {index : Nat} (hindex : index = if sectionIdentifier = SectionIdentifierRead &&
      hasItemInSection s SectionIdentifierUnread then 1 else 0) (hle : index ≤ sections.length) :
    ∃ s', initializeSection header s sectionIdentifier = some (s', index) ∧
      HasSections s' (sections.insertIdx index (sectionIdentifier, [])) := by
  have hnone : s.hasSectionForSectionIdentifier sectionIdentifier = false := by
    rw [hasSectionForSectionIdentifier,
      h.internalSectionForIdentifier_eq_none hnot]
    rfl
  have hinsert : (Op.insertSection sectionIdentifier index).Pre s :=
    ⟨hid, h.1 ▸ hnot, by rw [h.2, length_map]; exact hle⟩
  have hheader : (Op.setHeader (header sectionIdentifier)
      sectionIdentifier).Pre (s.insertSection sectionIdentifier index) := by
    show sectionIdentifier ∈ s.sectionIdentifiers.insertIdx index sectionIdentifier
    refine (mem_insertIdx ?_).2 (.inl rfl)
    rw [h.1, length_map]
    exact hle
  refine ⟨(s.insertSection sectionIdentifier index).setHeader (header sectionIdentifier)
    sectionIdentifier, ?_, ?_, ?_⟩
  · rw [initializeSection, hnone]
    simp only [Bool.not_false, if_true]
    rw [← hindex, perform, if_pos hinsert, Option.bind_some,
      step, perform, if_pos hheader]
    rfl
  · show s.sectionIdentifiers.insertIdx index sectionIdentifier = _
    rw [h.1, map_insertIdx]
  · show s.sections.insertIdx index [] = _
    rw [h.2, map_insertIdx]

end

/-! ## All selected items -/

/-- The item is at one of the index paths. -/
def selected (s : CollectionViewModel) (indexPaths : List IndexPath) (item : CollectionViewItem) :
    Bool :=
  indexPaths.any fun indexPath => s.itemAtIndexPath indexPath = some item

/-- The section of the items with this status. -/
def sectionOf (read : Bool) : Int :=
  if read then SectionIdentifierRead else SectionIdentifierUnread

/-- `Displays`, with the section that items are moved to first. -/
def DisplaysArranged (s : CollectionViewModel) (read : Bool)
    (target other : List CollectionViewItem) : Prop :=
  HasSections s ((arranged read target other).filter fun entry => !entry.2.isEmpty)

theorem flatten_filter_isEmpty (sections : List (Int × List CollectionViewItem)) :
    ((sections.filter fun entry => !entry.2.isEmpty).map Prod.snd).flatten =
      (sections.map Prod.snd).flatten := by
  induction sections with
  | nil => rfl
  | cons entry sections ih =>
    rw [filter_cons, map_cons, flatten_cons, ← ih]
    cases hitems : entry.2 <;> simp [hitems]

theorem DisplaysArranged.distinctObjects {target other : List CollectionViewItem}
    (h : DisplaysArranged s read target other) (hlisted : Listed (target ++ other)) :
    s.DistinctObjects := by
  have hperm : s.sections.flatten.Perm (target ++ other) := by
    rw [h.2, flatten_filter_isEmpty]
    cases read
    · simp [arranged, bothSections]
    · simpa [arranged, bothSections] using perm_append_comm
  exact ((hperm.map _).nodup_iff).2 hlisted.distinct

theorem selected_eq (hdistinct : s.DistinctObjects) (indexPaths : List IndexPath) {k i : Nat}
    {items : List CollectionViewItem} (hitems : s.sections[k]? = some items)
    {item : CollectionViewItem} (hitem : items[i]? = some item) :
    decide (⟨k, i⟩ ∈ indexPaths) = selected s indexPaths item := by
  have hat : s.itemAtIndexPath ⟨k, i⟩ = some item :=
    itemAtIndexPath_eq_some_iff.2 ⟨items, hitems, hitem⟩
  rw [Bool.eq_iff_iff, decide_eq_true_eq, selected, any_eq_true]
  simp only [decide_eq_true_eq]
  constructor
  · exact fun h => ⟨_, h, hat⟩
  · rintro ⟨indexPath, h, hat'⟩
    exact hdistinct.indexPath_eq hat hat' ▸ h

theorem indexPaths_one {items : List CollectionViewItem} (h : s.sections = [items]) :
    s.indexPaths = (List.range items.length).map (mk 0) := by
  simp [indexPaths, numberOfSections,
    numberOfItemsInSection, h]

theorem indexPaths_two {items others : List CollectionViewItem} (h : s.sections = [items, others]) :
    s.indexPaths = (List.range items.length).map (mk 0) ++
      (List.range others.length).map (mk 1) := by
  simp [indexPaths, numberOfSections,
    numberOfItemsInSection, h, range_succ]

/-- The parts of the move, one after the other. -/
theorem moveSelectedItems_eq {indexPaths : List IndexPath}
    {target other : List CollectionViewItem} {header : Int → CollectionViewItem}
    {s₁ s₂ : CollectionViewModel} {created moves : Nat}
    (hvalid : ∀ indexPath ∈ indexPaths, indexPath ∈ s.indexPaths)
    (hcreated : initializeSection header s (sectionOf read) = some (s₁, created))
    {sectionIndex : Nat}
    (hsection : s₁.internalSectionForIdentifier (sectionOf read) = some sectionIndex)
    (hmoves : indexPaths.foldlM (moveSelectedItem sectionIndex created) (s₁, 0) =
      some (s₂, moves))
    (hsections : HasSections s₂ sections) (hsub : sections.Sublist (arranged read target other)) :
    ∃ s', moveSelectedItems header s indexPaths (sectionOf read) = some s' ∧
      HasSections s' (sections.filter fun entry => !entry.2.isEmpty) := by
  have hids : ∀ entry ∈ sections,
      entry.1 = SectionIdentifierUnread ∨ entry.1 = SectionIdentifierRead := by
    intro entry hentry
    have := hsub.subset hentry
    cases read <;> simp [arranged, bothSections] at this <;> rcases this with rfl | rfl <;> simp
  obtain ⟨s', hremove, hs'⟩ := hsections.removeEmptySections
    ((arranged_nodup read target other).sublist (hsub.map _)) hids
  refine ⟨s', ?_, hs'⟩
  have hall : (indexPaths.all fun indexPath => (s.itemAtIndexPath indexPath).isSome) = true :=
    all_eq_true.2 fun indexPath h => mem_indexPaths.1 (hvalid indexPath h)
  rw [moveSelectedItems, if_pos hall, hcreated, Option.bind_some]
  dsimp only
  rw [hsection, Option.bind_some, hmoves, Option.bind_some]
  exact hremove

theorem internalSectionForIdentifier_arranged
    {target other : List CollectionViewItem} (h : HasSections s (arranged read target other)) :
    s.internalSectionForIdentifier (sectionOf read) = some (targetIndex read) := by
  have htarget : (arranged read target other)[targetIndex read]? =
      some (sectionOf read, target) := by
    cases read <;> rfl
  exact h.internalSectionForIdentifier_eq (arranged_nodup ..) htarget

/-- A section that is created takes its place beside the other one. -/
theorem initializeSection_beside {other : List CollectionViewItem}
    (h : HasSections s [(sectionOf !read, other)]) (hother : other ≠ [])
    (header : Int → CollectionViewItem) :
    ∃ s', initializeSection header s (sectionOf read) = some (s', targetIndex read) ∧
      HasSections s' (arranged read [] other) := by
  have hnot : sectionOf read ∉ [(sectionOf !read, other)].map Prod.fst := by
    cases read
    · exact (by decide : SectionIdentifierUnread ∉ [SectionIdentifierRead])
    · exact (by decide : SectionIdentifierRead ∉ [SectionIdentifierUnread])
  have hindex : targetIndex read = if sectionOf read = SectionIdentifierRead &&
      hasItemInSection s SectionIdentifierUnread then 1 else 0 := by
    cases read with
    | false => rfl
    | true =>
      have hitems : hasItemInSection s SectionIdentifierUnread = !other.isEmpty :=
        h.hasItemInSection_eq (k := 0) (nodup_singleton _) rfl
      rw [hitems]
      simp [targetIndex, sectionOf, hother]
  have hle : targetIndex read ≤ [(sectionOf !read, other)].length := by
    cases read <;> simp [targetIndex]
  obtain ⟨s', hs', hsections⟩ := h.initializeSection_of_notMem hnot
    (by cases read <;> decide) header hindex hle
  refine ⟨s', hs', ?_⟩
  cases read <;> exact hsections

/-- With no item in the other section nothing is moved. -/
theorem displays_moveSelectedItems_nil {target : List CollectionViewItem}
    (h : DisplaysArranged s read target []) {indexPaths : List IndexPath}
    (hnodup : indexPaths.Nodup) (hvalid : ∀ indexPath ∈ indexPaths, indexPath ∈ s.indexPaths)
    (header : Int → CollectionViewItem) :
    ∃ s', moveSelectedItems header s (sortedIndexPaths indexPaths) (sectionOf read) = some s' ∧
      DisplaysArranged s' read target [] := by
  have hsorted := sortedIndexPaths_eq hnodup hvalid
  have hvalid' : ∀ indexPath ∈ sortedIndexPaths indexPaths, indexPath ∈ s.indexPaths :=
    fun indexPath hmem => (mem_filter.1 (hsorted ▸ hmem)).1
  have hsub : [(sectionOf read, target)].Sublist (arranged read target []) := by
    cases read <;> simp [arranged, bothSections, sectionOf]
  have hresult : ([(sectionOf read, target)].filter fun entry => !entry.2.isEmpty) =
      (arranged read target []).filter fun entry => !entry.2.isEmpty := by
    cases read <;> cases target <;> simp [arranged, bothSections, sectionOf]
  -- Whether the section is there or has to be created, it is the only one.
  have hcreated : ∃ s₁ created,
      initializeSection header s (sectionOf read) = some (s₁, created) ∧
      HasSections s₁ [(sectionOf read, target)] ∧
      (sortedIndexPaths indexPaths).foldlM (moveSelectedItem 0 created) (s₁, 0) = some (s₁, 0) := by
    rw [DisplaysArranged, ← hresult] at h
    cases target with
    | nil =>
      have hindex : 0 = if sectionOf read = SectionIdentifierRead &&
          hasItemInSection s SectionIdentifierUnread then 1 else 0 := by
        rw [h.hasItemInSection_eq_false (by simp)]
        simp
      obtain ⟨s₁, hs₁, hsections⟩ := h.initializeSection_of_notMem (by simp)
        (by cases read <;> decide) header hindex (Nat.zero_le _)
      have hnone : s.indexPaths = [] := by
        simp [CollectionViewModel.indexPaths, numberOfSections, h.2]
      refine ⟨s₁, 0, hs₁, hsections, ?_⟩
      rw [hsorted, hnone]
      rfl
    | cons item items =>
      refine ⟨s, NSIntegerMax, h.initializeSection_of_mem (by simp) header, h, ?_⟩
      rw [hsorted, indexPaths_one h.2, filter_map]
      exact foldlM_moveSelectedItem_target (by decide) _
  obtain ⟨s₁, created, hs₁, hsections, hmoves⟩ := hcreated
  obtain ⟨s', hs', hshown⟩ := moveSelectedItems_eq hvalid' hs₁
    (hsections.internalSectionForIdentifier_eq (k := 0) (by simp) rfl) hmoves hsections hsub
  refine ⟨s', hs', ?_⟩
  rw [DisplaysArranged, ← hresult]
  exact hshown

/-- The selected items of the other section are at the front of their new section. -/
theorem displays_moveSelectedItems {target other : List CollectionViewItem}
    (h : DisplaysArranged s read target other) (hlisted : Listed (target ++ other))
    {indexPaths : List IndexPath} (hnodup : indexPaths.Nodup)
    (hvalid : ∀ indexPath ∈ indexPaths, indexPath ∈ s.indexPaths)
    (header : Int → CollectionViewItem) :
    ∃ s', moveSelectedItems header s (sortedIndexPaths indexPaths) (sectionOf read) = some s' ∧
      DisplaysArranged s' read (other.filter (selected s indexPaths) ++ target)
        (other.filter fun item => !selected s indexPaths item) := by
  by_cases hother : other = []
  · subst hother
    exact displays_moveSelectedItems_nil h hnodup hvalid header
  have hsorted := sortedIndexPaths_eq hnodup hvalid
  have hvalid' : ∀ indexPath ∈ sortedIndexPaths indexPaths, indexPath ∈ s.indexPaths :=
    fun indexPath hmem => (mem_filter.1 (hsorted ▸ hmem)).1
  have hdistinct := h.distinctObjects hlisted
  have hlisted' : Listed other := hlisted.sublist (sublist_append_right _ _)
  -- The items of the other section are picked by their positions.
  have hpick : ∀ k, s.sections[k]? = some other →
      pick (fun i => decide (⟨k, i⟩ ∈ indexPaths)) other 0 =
          other.filter (selected s indexPaths) ∧
        pick (fun i => !decide (⟨k, i⟩ ∈ indexPaths)) other 0 =
          other.filter fun item => !selected s indexPaths item := by
    intro k hk
    have heq : ∀ i item, other[i]? = some item →
        decide (⟨k, 0 + i⟩ ∈ indexPaths) = selected s indexPaths item := by
      intro i item hitem
      rw [Nat.zero_add]
      exact selected_eq hdistinct indexPaths hk hitem
    exact ⟨pick_eq_filter heq, pick_eq_filter fun i item hitem => by rw [heq i item hitem]⟩
  -- With both sections in their places, the loop moves them.
  have hrun : ∀ s₁ created k, (if k ≥ created then k + 1 else k) = otherIndex read →
      s.sections[k]? = some other → HasSections s₁ (arranged read target other) →
      ∃ s₂ moves, (((List.range other.length).filter fun i => decide (⟨k, i⟩ ∈ indexPaths)).map
          (mk k)).foldlM (moveSelectedItem (targetIndex read) created) (s₁, 0) =
            some (s₂, moves) ∧
        HasSections s₂ (arranged read (other.filter (selected s indexPaths) ++ target)
          (other.filter fun item => !selected s indexPaths item)) := by
    intro s₁ created k hupdated hk hs₁
    obtain ⟨s₂, moves, hmoves, hs₂⟩ := foldlM_moveSelectedItem_all hupdated
      (fun i => decide (⟨k, i⟩ ∈ indexPaths)) hs₁ hlisted'
    rw [(hpick k hk).1, (hpick k hk).2] at hs₂
    exact ⟨s₂, moves, hmoves, hs₂⟩
  -- What is left is to find the sections in their places.
  have hstart : ∃ s₁ created, initializeSection header s (sectionOf read) = some (s₁, created) ∧
      HasSections s₁ (arranged read target other) ∧
      ∃ s₂ moves, (sortedIndexPaths indexPaths).foldlM
          (moveSelectedItem (targetIndex read) created) (s₁, 0) = some (s₂, moves) ∧
        HasSections s₂ (arranged read (other.filter (selected s indexPaths) ++ target)
          (other.filter fun item => !selected s indexPaths item)) := by
    by_cases htarget : target = []
    · subst htarget
      have hone : ((arranged read [] other).filter fun entry => !entry.2.isEmpty) =
          [(sectionOf !read, other)] := by
        cases read <;> simp [arranged, bothSections, sectionOf, hother]
      rw [DisplaysArranged, hone] at h
      have hsections : s.sections = [other] := h.2
      obtain ⟨s₁, hs₁, hsections₁⟩ := initializeSection_beside h hother header
      refine ⟨s₁, targetIndex read, hs₁, hsections₁, ?_⟩
      rw [hsorted, indexPaths_one hsections, filter_map]
      exact hrun s₁ (targetIndex read) 0 (by cases read <;> rfl) (by rw [hsections]; rfl)
        hsections₁
    · have hboth : ((arranged read target other).filter fun entry => !entry.2.isEmpty) =
          arranged read target other := by
        cases read <;> simp [arranged, bothSections, hother, htarget]
      rw [DisplaysArranged, hboth] at h
      have hmem : sectionOf read ∈ (arranged read target other).map Prod.fst := by
        cases read <;> simp [arranged, bothSections, sectionOf]
      refine ⟨s, NSIntegerMax, h.initializeSection_of_mem hmem header, h, ?_⟩
      cases read with
      | false =>
        have hsections : s.sections = [target, other] := h.2
        obtain ⟨s₂, moves, hmoves, hs₂⟩ := hrun s NSIntegerMax 1 (by decide)
          (by rw [hsections]; rfl) h
        refine ⟨s₂, moves, ?_, hs₂⟩
        rw [hsorted, indexPaths_two hsections, filter_append, filter_map,
          filter_map, foldlM_append,
          foldlM_moveSelectedItem_target (by decide : _ = targetIndex false)]
        exact hmoves
      | true =>
        have hsections : s.sections = [other, target] := h.2
        obtain ⟨s₂, moves, hmoves, hs₂⟩ := hrun s NSIntegerMax 0 (by decide)
          (by rw [hsections]; rfl) h
        refine ⟨s₂, moves, ?_, hs₂⟩
        rw [hsorted, indexPaths_two hsections, filter_append, filter_map,
          filter_map, foldlM_append]
        refine (congrArg (Option.bind · _) hmoves).trans ?_
        exact foldlM_moveSelectedItem_target (by decide) _
  obtain ⟨s₁, created, hs₁, hsections, s₂, moves, hmoves, hs₂⟩ := hstart
  exact moveSelectedItems_eq hvalid' hs₁ (internalSectionForIdentifier_arranged hsections) hmoves
    hs₂ (List.Sublist.refl _)

end Moves

end ReadingListController

end ChromiumIos
