import Mathlib.Data.List.InsertIdx
import Mathlib.Data.List.Nodup
import ChromiumIos.Lib.Keyed
import ChromiumIos.Lib.Machine

/-!
# `CollectionViewModel`

`collection_view_model.mm`: an ordered list of sections, each with its items and,
by its identifier, a header and a footer.

- `step_inv`: headers and footers belong to sections of the model, unless a
  section is removed that has one.
- `headers_follow_sections_iff`: that is the only way in which they outlive their
  section.
-/

namespace ChromiumIos

open Lib List

/-- `kSectionIdentifierEnumZero`. -/
def kSectionIdentifierEnumZero : Int := 10

/-- `kItemTypeEnumZero`. -/
def kItemTypeEnumZero : Int := 100

/-- A pointer to a `CollectionViewItem`, with the type of the item. -/
structure CollectionViewItem where
  object : Nat
  type : Int
deriving DecidableEq, Repr

structure CollectionViewModel where
  /-- One identifier per section. -/
  sectionIdentifiers : List Int
  /-- The items of the sections. -/
  sections : List (List CollectionViewItem)
  headers : Keyed Int CollectionViewItem
  footers : Keyed Int CollectionViewItem
deriving DecidableEq, Repr

namespace CollectionViewModel

def init : CollectionViewModel where
  sectionIdentifiers := []
  sections := []
  headers := .empty
  footers := .empty

/-! ## Methods -/

variable (s : CollectionViewModel)

/-- `internalSectionForIdentifier:`, with `none` for `NSNotFound`. -/
def internalSectionForIdentifier (sectionIdentifier : Int) : Option Nat :=
  s.sectionIdentifiers.idxOf? sectionIdentifier

/-- The enumeration of `itemForItemType:inSectionItems:atIndex:`, from the index
`idx` on and with `index` items of the type to skip. -/
def itemForItemType (itemType : Int) : List CollectionViewItem → (index idx : Nat) → Option Nat
  | [], _, _ => none
  | obj :: rest, index, idx =>
    if obj.type = itemType then
      match index with
      | 0 => some idx
      | index + 1 => itemForItemType itemType rest index (idx + 1)
    else itemForItemType itemType rest index (idx + 1)

def headerForSectionWithIdentifier (sectionIdentifier : Int) : Option CollectionViewItem :=
  s.headers.get? sectionIdentifier

def footerForSectionWithIdentifier (sectionIdentifier : Int) : Option CollectionViewItem :=
  s.footers.get? sectionIdentifier

/-- `itemsInSectionWithIdentifier:`. -/
def itemsInSectionWithIdentifier (sectionIdentifier : Int) : Option (List CollectionViewItem) :=
  (s.internalSectionForIdentifier sectionIdentifier).bind (s.sections[·]?)

def addSection (sectionIdentifier : Int) : CollectionViewModel :=
  { s with
    sectionIdentifiers := s.sectionIdentifiers ++ [sectionIdentifier]
    sections := s.sections ++ [[]] }

def insertSection (sectionIdentifier : Int) (index : Nat) : CollectionViewModel :=
  { s with
    sectionIdentifiers := s.sectionIdentifiers.insertIdx index sectionIdentifier
    sections := s.sections.insertIdx index [] }

/-- Changes the items of the section; there is none to change for `NSNotFound`. -/
def modifyItems (sectionIdentifier : Int)
    (f : List CollectionViewItem → List CollectionViewItem) : CollectionViewModel :=
  match s.internalSectionForIdentifier sectionIdentifier with
  | none => s
  | some sectionIndex => { s with sections := s.sections.modify sectionIndex f }

def addItem (item : CollectionViewItem) (sectionIdentifier : Int) : CollectionViewModel :=
  s.modifyItems sectionIdentifier (· ++ [item])

def insertItem (item : CollectionViewItem) (sectionIdentifier : Int)
    (index : Nat) : CollectionViewModel :=
  s.modifyItems sectionIdentifier (·.insertIdx index item)

/-- `removeItemWithType:fromSectionWithIdentifier:atIndex:`. -/
def removeItemWithType (itemType : Int) (sectionIdentifier : Int)
    (index : Nat) : CollectionViewModel :=
  s.modifyItems sectionIdentifier fun items =>
    match itemForItemType itemType items index 0 with
    | none => items
    | some item => items.eraseIdx item

def removeSection (sectionIdentifier : Int) : CollectionViewModel :=
  match s.internalSectionForIdentifier sectionIdentifier with
  | none => s
  | some sectionIndex =>
    { s with
      sectionIdentifiers := s.sectionIdentifiers.eraseIdx sectionIndex
      sections := s.sections.eraseIdx sectionIndex }

def setHeader (header : Option CollectionViewItem)
    (sectionIdentifier : Int) : CollectionViewModel :=
  { s with
    headers :=
      match header with
      | some header => s.headers.set sectionIdentifier header
      | none => s.headers.erase sectionIdentifier }

def setFooter (footer : Option CollectionViewItem)
    (sectionIdentifier : Int) : CollectionViewModel :=
  { s with
    footers :=
      match footer with
      | some footer => s.footers.set sectionIdentifier footer
      | none => s.footers.erase sectionIdentifier }

/-! ## Runs -/

inductive Op
  | addSection (sectionIdentifier : Int)
  | insertSection (sectionIdentifier : Int) (index : Nat)
  | removeSection (sectionIdentifier : Int)
  | addItem (item : CollectionViewItem) (sectionIdentifier : Int)
  | insertItem (item : CollectionViewItem) (sectionIdentifier : Int) (index : Nat)
  | removeItemWithType (itemType : Int) (sectionIdentifier : Int) (index : Nat)
  | setHeader (header : Option CollectionViewItem) (sectionIdentifier : Int)
  | setFooter (footer : Option CollectionViewItem) (sectionIdentifier : Int)
deriving DecidableEq, Repr

def step : Op → CollectionViewModel
  | .addSection sectionIdentifier => s.addSection sectionIdentifier
  | .insertSection sectionIdentifier index => s.insertSection sectionIdentifier index
  | .removeSection sectionIdentifier => s.removeSection sectionIdentifier
  | .addItem item sectionIdentifier => s.addItem item sectionIdentifier
  | .insertItem item sectionIdentifier index => s.insertItem item sectionIdentifier index
  | .removeItemWithType itemType sectionIdentifier index =>
    s.removeItemWithType itemType sectionIdentifier index
  | .setHeader header sectionIdentifier => s.setHeader header sectionIdentifier
  | .setFooter footer sectionIdentifier => s.setFooter footer sectionIdentifier

/-- The `DCHECK`s of the methods. A header or footer is set for a section of the
model, as the comments of the two methods say. -/
def Op.Pre : Op → Prop
  | .addSection sectionIdentifier =>
    kSectionIdentifierEnumZero ≤ sectionIdentifier ∧ sectionIdentifier ∉ s.sectionIdentifiers
  | .insertSection sectionIdentifier index =>
    kSectionIdentifierEnumZero ≤ sectionIdentifier ∧ sectionIdentifier ∉ s.sectionIdentifiers ∧
      index ≤ s.sections.length
  | .removeSection sectionIdentifier => sectionIdentifier ∈ s.sectionIdentifiers
  | .addItem item sectionIdentifier =>
    kItemTypeEnumZero ≤ item.type ∧ sectionIdentifier ∈ s.sectionIdentifiers
  | .insertItem item sectionIdentifier index =>
    kItemTypeEnumZero ≤ item.type ∧ sectionIdentifier ∈ s.sectionIdentifiers ∧
      ∀ items ∈ s.itemsInSectionWithIdentifier sectionIdentifier, index ≤ items.length
  | .removeItemWithType itemType sectionIdentifier index =>
    sectionIdentifier ∈ s.sectionIdentifiers ∧
      ∀ items ∈ s.itemsInSectionWithIdentifier sectionIdentifier,
        (itemForItemType itemType items index 0).isSome
  | .setHeader _ sectionIdentifier => sectionIdentifier ∈ s.sectionIdentifiers
  | .setFooter _ sectionIdentifier => sectionIdentifier ∈ s.sectionIdentifiers

instance : ∀ op : Op, Decidable (op.Pre s)
  | .addSection _ | .insertSection .. => instDecidableAnd
  | .removeSection _ => inferInstanceAs (Decidable (_ ∈ _))
  | .addItem .. | .insertItem _ _ _ | .removeItemWithType _ _ _ => instDecidableAnd
  | .setHeader .. => inferInstanceAs (Decidable (_ ∈ _))
  | .setFooter .. => inferInstanceAs (Decidable (_ ∈ _))

abbrev machine : Machine CollectionViewModel Op where
  Pre s op := op.Pre s
  step := step

/-- The model after the calls `ops`. -/
def after (ops : List Op) : CollectionViewModel := machine.run init ops

/-- The section that the call adds. -/
def Op.added : Op → Option Int
  | .addSection sectionIdentifier | .insertSection sectionIdentifier _ => some sectionIdentifier
  | _ => none

/-- The section whose header the call sets. -/
def Op.headerSet : Op → Option Int
  | .setHeader _ sectionIdentifier => some sectionIdentifier
  | _ => none

/-- The section whose footer the call sets. -/
def Op.footerSet : Op → Option Int
  | .setFooter _ sectionIdentifier => some sectionIdentifier
  | _ => none

/-- The section that gets an item by the call. -/
def Op.itemAdded : Op → Option Int
  | .addItem _ sectionIdentifier | .insertItem _ sectionIdentifier _ => some sectionIdentifier
  | _ => none

/-- A header or a footer is stored for sections of the model only. -/
def StoredForSections : Prop :=
  ∀ sectionIdentifier, s.headerForSectionWithIdentifier sectionIdentifier ≠ none ∨
    s.footerForSectionWithIdentifier sectionIdentifier ≠ none →
      sectionIdentifier ∈ s.sectionIdentifiers

/-- Headers and footers follow their section; a section that was added has none,
and no items, until they are set. -/
structure HeadersFollowSections (ops : List Op) : Prop where
  stored : ∀ before, before <+: ops → (after before).StoredForSections
  noHeader : ∀ before op later sectionIdentifier, before ++ op :: later <+: ops →
    op.added = some sectionIdentifier → (∀ o ∈ later, o.headerSet ≠ some sectionIdentifier) →
    (after (before ++ op :: later)).headerForSectionWithIdentifier sectionIdentifier = none
  noFooter : ∀ before op later sectionIdentifier, before ++ op :: later <+: ops →
    op.added = some sectionIdentifier → (∀ o ∈ later, o.footerSet ≠ some sectionIdentifier) →
    (after (before ++ op :: later)).footerForSectionWithIdentifier sectionIdentifier = none
  noItems : ∀ before op later sectionIdentifier, before ++ op :: later <+: ops →
    op.added = some sectionIdentifier → (∀ o ∈ later, o.itemAdded ≠ some sectionIdentifier) →
    ∀ items ∈ (after (before ++ op :: later)).itemsInSectionWithIdentifier sectionIdentifier,
      items = []

/-- A section that is removed has no header and no footer. -/
def RemovesBareSection : Op → Prop
  | .removeSection sectionIdentifier =>
    s.headerForSectionWithIdentifier sectionIdentifier = none ∧
      s.footerForSectionWithIdentifier sectionIdentifier = none
  | _ => True

instance : ∀ op : Op, Decidable (RemovesBareSection s op)
  | .removeSection _ => instDecidableAnd
  | .addSection _ | .insertSection .. | .addItem .. | .insertItem .. | .removeItemWithType ..
  | .setHeader .. | .setFooter .. => instDecidableTrue

/-! ## Headers and footers -/

section Steps

variable {s : CollectionViewModel}

theorem modifyItems_eq (s : CollectionViewModel) (sectionIdentifier : Int)
    (f : List CollectionViewItem → List CollectionViewItem) :
    s.modifyItems sectionIdentifier f =
      { s with sections := (s.modifyItems sectionIdentifier f).sections } := by
  rw [modifyItems]
  split <;> rfl

/-- A call stores a header for the section it is about only. -/
theorem get?_headers_step (op : Op) {sectionIdentifier : Int}
    (h : op.headerSet ≠ some sectionIdentifier) :
    (s.step op).headerForSectionWithIdentifier sectionIdentifier =
      s.headerForSectionWithIdentifier sectionIdentifier := by
  cases op with
  | addSection | insertSection | setFooter => rfl
  | removeSection removed =>
    rw [step, removeSection]
    split <;> rfl
  | addItem item target => rw [step, addItem, modifyItems_eq]; rfl
  | insertItem item target index => rw [step, insertItem, modifyItems_eq]; rfl
  | removeItemWithType itemType target index => rw [step, removeItemWithType, modifyItems_eq]; rfl
  | setHeader header target =>
    have hne : sectionIdentifier ≠ target := fun heq => h (congrArg some heq.symm)
    cases header with
    | none => exact (Keyed.get?_erase ..).trans (if_neg hne)
    | some header => exact (Keyed.get?_set ..).trans (if_neg hne)

theorem get?_footers_step (op : Op) {sectionIdentifier : Int}
    (h : op.footerSet ≠ some sectionIdentifier) :
    (s.step op).footerForSectionWithIdentifier sectionIdentifier =
      s.footerForSectionWithIdentifier sectionIdentifier := by
  cases op with
  | addSection | insertSection | setHeader => rfl
  | removeSection removed =>
    rw [step, removeSection]
    split <;> rfl
  | addItem item target => rw [step, addItem, modifyItems_eq]; rfl
  | insertItem item target index => rw [step, insertItem, modifyItems_eq]; rfl
  | removeItemWithType itemType target index => rw [step, removeItemWithType, modifyItems_eq]; rfl
  | setFooter footer target =>
    have hne : sectionIdentifier ≠ target := fun heq => h (congrArg some heq.symm)
    cases footer with
    | none => exact (Keyed.get?_erase ..).trans (if_neg hne)
    | some footer => exact (Keyed.get?_set ..).trans (if_neg hne)

/-- The section identifiers after a call. -/
def identifiersAfter (s : CollectionViewModel) : Op → List Int
  | .addSection sectionIdentifier => s.sectionIdentifiers ++ [sectionIdentifier]
  | .insertSection sectionIdentifier index =>
    s.sectionIdentifiers.insertIdx index sectionIdentifier
  | .removeSection sectionIdentifier => s.sectionIdentifiers.erase sectionIdentifier
  | _ => s.sectionIdentifiers

theorem sectionIdentifiers_step (op : Op) :
    (s.step op).sectionIdentifiers = s.identifiersAfter op := by
  cases op with
  | addSection | insertSection | setHeader | setFooter => rfl
  | removeSection sectionIdentifier =>
    rw [step, removeSection, internalSectionForIdentifier, identifiersAfter,
      erase_eq_eraseIdx]
    cases s.sectionIdentifiers.idxOf? sectionIdentifier with
    | none => rfl
    | some sectionIndex => rfl
  | addItem item target => rw [step, addItem, modifyItems_eq]; rfl
  | insertItem item target index => rw [step, insertItem, modifyItems_eq]; rfl
  | removeItemWithType itemType target index => rw [step, removeItemWithType, modifyItems_eq]; rfl

theorem mem_identifiersAfter {sectionIdentifier : Int}
    (h : sectionIdentifier ∈ s.sectionIdentifiers)
    {op : Op} (hop : op ≠ .removeSection sectionIdentifier) :
    sectionIdentifier ∈ s.identifiersAfter op := by
  cases op with
  | addSection added => exact mem_append_left _ h
  | insertSection added index =>
    show sectionIdentifier ∈ s.sectionIdentifiers.insertIdx index added
    by_cases hindex : index ≤ s.sectionIdentifiers.length
    · exact (mem_insertIdx hindex).2 (.inr h)
    · rw [insertIdx_of_length_lt (by omega)]
      exact h
  | removeSection removed =>
    refine (mem_erase_of_ne ?_).2 h
    rintro rfl
    exact hop rfl
  | addItem | insertItem | removeItemWithType | setHeader | setFooter => exact h

/-- No identifier is there twice, as a call adds none that is there. -/
theorem nodup_identifiersAfter (h : s.sectionIdentifiers.Nodup) {op : Op} (hpre : op.Pre s) :
    (s.identifiersAfter op).Nodup := by
  cases op with
  | addSection added =>
    exact h.append (nodup_singleton _) (disjoint_singleton.2 hpre.2)
  | insertSection added index =>
    show (s.sectionIdentifiers.insertIdx index added).Nodup
    by_cases hindex : index ≤ s.sectionIdentifiers.length
    · rw [(perm_insertIdx added _ hindex).nodup_iff]
      exact nodup_cons.2 ⟨hpre.2.1, h⟩
    · rw [insertIdx_of_length_lt (by omega)]
      exact h
  | removeSection removed => exact h.erase _
  | addItem | insertItem | removeItemWithType | setHeader | setFooter => exact h

/-- A call adds to both lists, or removes from both. -/
theorem length_step (h : s.sectionIdentifiers.length = s.sections.length) (op : Op) :
    (s.step op).sectionIdentifiers.length = (s.step op).sections.length := by
  have hmodify : ∀ target f, (s.modifyItems target f).sectionIdentifiers.length =
      (s.modifyItems target f).sections.length := by
    intro target f
    rw [modifyItems]
    split
    · exact h
    · show _ = (List.modify ..).length
      rw [length_modify]
      exact h
  cases op with
  | addSection sectionIdentifier => simp [step, addSection, h]
  | insertSection sectionIdentifier index => simp [step, insertSection, length_insertIdx, h]
  | removeSection sectionIdentifier =>
    rw [step, removeSection]
    split
    · exact h
    · simp [length_eraseIdx, h]
  | addItem item target => exact hmodify ..
  | insertItem item target index => exact hmodify ..
  | removeItemWithType itemType target index => exact hmodify ..
  | setHeader | setFooter => exact h

/-- What every call preserves. -/
structure Tracked (s : CollectionViewModel) : Prop where
  nodup : s.sectionIdentifiers.Nodup
  length : s.sectionIdentifiers.length = s.sections.length

theorem Tracked.step (h : Tracked s) {op : Op} (hpre : op.Pre s) : Tracked (s.step op) := by
  refine ⟨?_, length_step h.length op⟩
  rw [sectionIdentifiers_step]
  exact nodup_identifiersAfter h.nodup hpre

/-- Headers and footers stay with their sections, as long as the sections that are
removed have none. -/
theorem StoredForSections.step (h : s.StoredForSections) {op : Op} (hpre : op.Pre s)
    (hbare : RemovesBareSection s op) : (s.step op).StoredForSections := by
  intro sectionIdentifier hstored
  rw [sectionIdentifiers_step]
  obtain hheader | hfooter := hstored
  · by_cases hset : op.headerSet = some sectionIdentifier
    · cases op with
      | setHeader header target => cases hset; exact hpre
      | _ => cases hset
    · rw [get?_headers_step op hset] at hheader
      refine mem_identifiersAfter (h _ (.inl hheader)) ?_
      rintro rfl
      exact hheader hbare.1
  · by_cases hset : op.footerSet = some sectionIdentifier
    · cases op with
      | setFooter footer target => cases hset; exact hpre
      | _ => cases hset
    · rw [get?_footers_step op hset] at hfooter
      refine mem_identifiersAfter (h _ (.inr hfooter)) ?_
      rintro rfl
      exact hfooter hbare.2

/-- A section that is removed with a header or a footer leaves it behind. -/
theorem not_stored_step {op : Op} (h : Tracked s) (hbare : ¬RemovesBareSection s op) :
    ¬(s.step op).StoredForSections := by
  intro hstored
  cases op with
  | removeSection sectionIdentifier =>
    have hleft : (s.step (.removeSection sectionIdentifier)).headerForSectionWithIdentifier
        sectionIdentifier ≠ none ∨
      (s.step (.removeSection sectionIdentifier)).footerForSectionWithIdentifier
        sectionIdentifier ≠ none := by
      rw [get?_headers_step (.removeSection sectionIdentifier) (Option.some_ne_none _).symm,
        get?_footers_step (.removeSection sectionIdentifier) (Option.some_ne_none _).symm]
      exact Decidable.not_and_iff_not_or_not.1 hbare
    have hmem := hstored _ hleft
    rw [sectionIdentifiers_step] at hmem
    exact h.nodup.not_mem_erase hmem
  | _ => exact hbare trivial

/-! ## A section that was added -/

/-- The sections of the identifier have no items. -/
def NoItems (s : CollectionViewModel) (sectionIdentifier : Int) : Prop :=
  ∀ (k : Nat) (items : List CollectionViewItem), s.sectionIdentifiers[k]? = some sectionIdentifier →
    s.sections[k]? = some items → items = []

section

variable {sectionIdentifier : Int}

theorem NoItems.insertIdx (h : s.NoItems sectionIdentifier)
    (added : Int) (index : Nat) : (s.insertSection added index).NoItems sectionIdentifier := by
  intro k items hidentifier hitems
  simp only [insertSection, getElem?_insertIdx] at hidentifier hitems
  by_cases hlt : k < index
  · rw [if_pos hlt] at hidentifier hitems
    exact h k items hidentifier hitems
  · rw [if_neg hlt] at hidentifier hitems
    by_cases heq : k = index
    · rw [if_pos heq] at hitems
      split at hitems
      · exact (Option.some.inj hitems).symm
      · cases hitems
    · rw [if_neg heq] at hidentifier hitems
      exact h (k - 1) items hidentifier hitems

theorem noItems_of_notMem
    (h : sectionIdentifier ∉ s.sectionIdentifiers) : s.NoItems sectionIdentifier :=
  fun _ _ hidentifier _ => absurd (mem_of_getElem? hidentifier) h

theorem NoItems.eraseIdx (h : s.NoItems sectionIdentifier)
    (removed : Int) : (s.removeSection removed).NoItems sectionIdentifier := by
  rw [removeSection]
  split
  · exact h
  · intro k items hidentifier hitems
    simp only [getElem?_eraseIdx] at hidentifier hitems
    split at hidentifier
    · next hlt =>
      rw [if_pos hlt] at hitems
      exact h k items hidentifier hitems
    · next hlt =>
      rw [if_neg hlt] at hitems
      exact h (k + 1) items hidentifier hitems

/-- The items of another section change, or nothing comes to the empty section. -/
theorem NoItems.modify (h : s.NoItems sectionIdentifier) {target : Int}
    {f : List CollectionViewItem → List CollectionViewItem}
    (hf : target = sectionIdentifier → f [] = []) :
    (s.modifyItems target f).NoItems sectionIdentifier := by
  rw [modifyItems]
  split
  · exact h
  · next sectionIndex hindex =>
    intro k items hidentifier hitems
    obtain ⟨hlt, htarget, -⟩ := idxOf?_eq_some_iff.1 hindex
    simp only [getElem?_modify] at hidentifier hitems
    obtain ⟨before, hbefore, rfl⟩ := Option.map_eq_some_iff.1 hitems
    have hempty := h k before hidentifier hbefore
    subst hempty
    split
    · next heq =>
      subst heq
      rw [getElem?_eq_getElem hlt, htarget] at hidentifier
      exact hf (Option.some.inj hidentifier)
    · rfl

/-- A section has no items until one is added to it. -/
theorem NoItems.step (h : s.NoItems sectionIdentifier)
    (htracked : Tracked s) {op : Op} (hadded : op.itemAdded ≠ some sectionIdentifier) :
    (s.step op).NoItems sectionIdentifier := by
  cases op with
  | addSection added =>
    have hinsert : s.addSection added = s.insertSection added s.sections.length := by
      rw [addSection, insertSection, insertIdx_length_self, ← htracked.length,
        insertIdx_length_self]
    rw [CollectionViewModel.step, hinsert]
    exact h.insertIdx _ _
  | insertSection added index => exact h.insertIdx added index
  | removeSection removed => exact h.eraseIdx removed
  | addItem item target => exact h.modify fun heq => absurd (congrArg some heq) hadded
  | insertItem item target index => exact h.modify fun heq => absurd (congrArg some heq) hadded
  | removeItemWithType itemType target index => exact h.modify fun _ => rfl
  | setHeader | setFooter => exact h

theorem NoItems.itemsInSection (h : s.NoItems sectionIdentifier) :
    ∀ items ∈ s.itemsInSectionWithIdentifier sectionIdentifier, items = [] := by
  intro items hitems
  obtain ⟨sectionIndex, hindex, hat⟩ := Option.bind_eq_some_iff.1 hitems
  obtain ⟨hlt, hidentifier, -⟩ := idxOf?_eq_some_iff.1 hindex
  exact h sectionIndex items (by rw [getElem?_eq_getElem hlt, hidentifier]) hat

end

/-- A section is added when the model has none with its identifier. -/
theorem notMem_of_added {op : Op} (hpre : op.Pre s) {sectionIdentifier : Int}
    (hadded : op.added = some sectionIdentifier) : sectionIdentifier ∉ s.sectionIdentifiers := by
  cases op with
  | addSection added => cases hadded; exact hpre.2
  | insertSection added index => cases hadded; exact hpre.2.1
  | _ => cases hadded

/-- An addition sets nothing. -/
theorem sets_nothing_of_added {op : Op} {sectionIdentifier : Int}
    (hadded : op.added = some sectionIdentifier) :
    op.headerSet = none ∧ op.footerSet = none ∧ op.itemAdded = none := by
  cases op with
  | addSection | insertSection => exact ⟨rfl, rfl, rfl⟩
  | _ => cases hadded

end Steps

/-! ## Whole runs -/

section Runs

variable {ops before later : List Op} {op : Op} {sectionIdentifier : Int}

theorem tracked_init : Tracked init := ⟨nodup_nil, rfl⟩

theorem tracked_after (hlegal : machine.Legal init ops) : Tracked (after ops) :=
  Machine.run_invariant (fun _ _ h hpre => h.step hpre) tracked_init hlegal

/-- What an addition brings about stays until a call sets it. -/
theorem holds_after_added {P : CollectionViewModel → Prop} {g : Op → Option Int}
    (hstep : ∀ s op, Tracked s → P s → g op ≠ some sectionIdentifier → P (s.step op))
    (hlegal : machine.Legal init (before ++ op :: later)) (hadded : P ((after before).step op))
    (hlater : ∀ o ∈ later, g o ≠ some sectionIdentifier) :
    P (after (before ++ op :: later)) := by
  obtain ⟨hbefore, hop, hrest⟩ := Machine.along_append.1 hlegal
  rw [after, Machine.run_append]
  exact (Machine.run_invariant (I := fun s => Tracked s ∧ P s)
    (fun s o h hboth => ⟨h.1.step hboth.1, hstep s o h.1 h.2 hboth.2⟩)
    ⟨(tracked_after hbefore).step hop, hadded⟩
    (machine.along_and hrest (machine.along_of_mem _ hlater))).2

/-- The call at which a section is added meets a model without it. -/
theorem notMem_before (hlegal : machine.Legal init (before ++ op :: later))
    (hadded : op.added = some sectionIdentifier) :
    sectionIdentifier ∉ (after before).sectionIdentifiers :=
  notMem_of_added (Machine.along_append.1 hlegal).2.1 hadded

end Runs

/-- Headers and footers follow their sections if and only if no section is removed
while it has one. -/
theorem headers_follow_sections_iff (ops : List Op) (hlegal : machine.Legal init ops) :
    HeadersFollowSections ops ↔ machine.Along RemovesBareSection init ops := by
  have hinit : StoredForSections init := by
    rintro sectionIdentifier (h | h)
    · exact absurd rfl h
    · exact absurd rfl h
  have hiff := Machine.always_iff_along (M := machine) (P := StoredForSections)
    (I := fun s => Tracked s ∧ s.StoredForSections) (fun _ h => h.2)
    (fun _ op h hpre hbare => ⟨h.1.step hpre, h.2.step hpre hbare⟩)
    (fun _ op h _ hbare => not_stored_step h.1 hbare) ⟨tracked_init, hinit⟩ hlegal
  constructor
  · intro h
    exact hiff.1 h.stored
  · intro hbare
    have hstored := hiff.2 hbare
    refine ⟨hstored, ?_, ?_, ?_⟩
    · intro before op later sectionIdentifier hinitial hadded hlater
      have hpart := hlegal.of_isPrefix hinitial
      refine holds_after_added (g := Op.headerSet)
        (P := fun s => s.headerForSectionWithIdentifier sectionIdentifier = none)
        (fun s o _ h hset => (get?_headers_step o hset).trans h) hpart ?_ hlater
      rw [get?_headers_step op (by simp [(sets_nothing_of_added hadded).1])]
      by_contra hheader
      exact notMem_before hpart hadded
        (hstored before ((prefix_append ..).trans hinitial) _ (.inl hheader))
    · intro before op later sectionIdentifier hinitial hadded hlater
      have hpart := hlegal.of_isPrefix hinitial
      refine holds_after_added (g := Op.footerSet)
        (P := fun s => s.footerForSectionWithIdentifier sectionIdentifier = none)
        (fun s o _ h hset => (get?_footers_step o hset).trans h) hpart ?_ hlater
      rw [get?_footers_step op (by simp [(sets_nothing_of_added hadded).2.1])]
      by_contra hfooter
      exact notMem_before hpart hadded
        (hstored before ((prefix_append ..).trans hinitial) _ (.inr hfooter))
    · intro before op later sectionIdentifier hinitial hadded hlater
      have hpart := hlegal.of_isPrefix hinitial
      refine (holds_after_added (g := Op.itemAdded) (P := fun s => s.NoItems sectionIdentifier)
        (fun s o htracked h hset => h.step htracked hset) hpart ?_ hlater).itemsInSection
      exact (noItems_of_notMem (notMem_before hpart hadded)).step
        (tracked_after (Machine.along_append.1 hpart).1)
        (by simp [(sets_nothing_of_added hadded).2.2])

/-- The header is taken off before the section is removed. -/
def bareOps : List Op :=
  [.addSection 10, .setHeader (some ⟨0, 100⟩) 10, .addItem ⟨1, 100⟩ 10, .insertSection 11 0,
    .setHeader none 10, .removeSection 10, .addSection 10]

theorem headers_follow_bare : HeadersFollowSections bareOps :=
  (headers_follow_sections_iff bareOps
    (by decide)).2
    (show machine.Along RemovesBareSection _ _ by decide)

/-- A section is removed with its header and added again. -/
def staleHeaderOps : List Op :=
  [.addSection 10, .setHeader (some ⟨0, 100⟩) 10, .removeSection 10, .addSection 10]

theorem header_outlives_section :
    machine.Legal init staleHeaderOps ∧
      (after staleHeaderOps).headerForSectionWithIdentifier 10 = some ⟨0, 100⟩ ∧
      ¬HeadersFollowSections staleHeaderOps := by
  have hheader : (after staleHeaderOps).headerForSectionWithIdentifier 10 = some ⟨0, 100⟩ := by
    decide
  refine ⟨?_, hheader, ?_⟩
  · show machine.Along (fun s op => op.Pre s) _ _
    decide
  · intro h
    have hnone := h.noHeader (staleHeaderOps.take 3) (.addSection 10) [] 10 (prefix_refl _)
      rfl nofun
    cases hheader.symm.trans hnone

end CollectionViewModel

end ChromiumIos
