import ChromiumIos.Lib.Sublists
import ChromiumIos.Ui.CollectionViewModel

/-!
# ContentSuggestionsCollectionUpdater

`content_suggestions_collection_updater.mm` and the methods of
`content_suggestions_view_controller.mm` that it calls: the sections of the data
source are added to a collection view model when they have something to show.
`sectionsInfo` is the data source's list, in the order in which its sections are
to be displayed; what the items of a section are is asked at each notification.

- `Ordered`: the sections of the model are in the order of the list.
- `keeps_order_iff`: the runs in which they stay so, and `clearSection:` does what
  it says.
-/

namespace ChromiumIos

open Lib List Option

inductive ContentSuggestionsSectionID
  | mostVisited
  | articles
  | readingList
  | unknown
deriving DecidableEq, Repr

structure ContentSuggestionsSectionInformation where
  sectionID : ContentSuggestionsSectionID
  title : Option String
  footerTitle : Option String
  showIfEmpty : Bool
deriving DecidableEq, Repr

namespace ContentSuggestionsSectionInformation

/-- `ItemTypeForInfo`. -/
def itemType (info : ContentSuggestionsSectionInformation) : Int :=
  match info.sectionID with
  | .articles => kItemTypeEnumZero
  | .readingList => kItemTypeEnumZero + 4
  | .mostVisited => kItemTypeEnumZero + 5
  | .unknown => kItemTypeEnumZero + 6

/-- `SectionIdentifierForInfo`. -/
def sectionIdentifier (info : ContentSuggestionsSectionInformation) : Int :=
  match info.sectionID with
  | .articles => kSectionIdentifierEnumZero
  | .readingList => kSectionIdentifierEnumZero + 1
  | .mostVisited => kSectionIdentifierEnumZero + 2
  | .unknown => kSectionIdentifierEnumZero + 3

end ContentSuggestionsSectionInformation

def itemTypeFooter : Int := kItemTypeEnumZero + 1

def itemTypeHeader : Int := kItemTypeEnumZero + 2

def itemTypeEmpty : Int := kItemTypeEnumZero + 3

def sectionIdentifierMostVisited : Int := kSectionIdentifierEnumZero + 2

/-- `itemsForSectionInfo:` of the data source, at the time of a notification. -/
abbrev ItemsForSectionInfo := ContentSuggestionsSectionInformation → List Nat

structure ContentSuggestionsCollectionUpdater where
  /-- The model of the collection view controller. -/
  collectionViewModel : CollectionViewModel
  sectionInfoBySectionIdentifier : Keyed Int ContentSuggestionsSectionInformation
  /-- What the next item that is allocated is. -/
  nextObject : Nat
deriving DecidableEq, Repr

namespace ContentSuggestionsCollectionUpdater

def init : ContentSuggestionsCollectionUpdater where
  collectionViewModel := .init
  sectionInfoBySectionIdentifier := .empty
  nextObject := 0

variable (s : ContentSuggestionsCollectionUpdater)

/-- The sections that are shown, in order. -/
def shown : List Int :=
  s.collectionViewModel.sectionIdentifiers

/-! ## Items -/

def hasSectionForSectionIdentifier (sectionIdentifier : Int) : Bool :=
  (s.collectionViewModel.internalSectionForIdentifier sectionIdentifier).isSome

def itemsInSection (sectionIdentifier : Int) : List CollectionViewItem :=
  (s.collectionViewModel.itemsInSectionWithIdentifier sectionIdentifier).getD []

def updateModel
    (f : CollectionViewModel → CollectionViewModel) : ContentSuggestionsCollectionUpdater :=
  { s with collectionViewModel := f s.collectionViewModel }

def addItem (s : ContentSuggestionsCollectionUpdater) (item : CollectionViewItem)
    (sectionIdentifier : Int) : ContentSuggestionsCollectionUpdater :=
  s.updateModel (·.addItem item sectionIdentifier)

/-- `addEmptyItemForSection:`. -/
def addEmptyItem (sectionIdentifier : Int) : ContentSuggestionsCollectionUpdater :=
  { s.addItem ⟨s.nextObject, itemTypeEmpty⟩ sectionIdentifier with
    nextObject := s.nextObject + 1 }

def addHeaderIfNeeded
    (info : ContentSuggestionsSectionInformation) : ContentSuggestionsCollectionUpdater :=
  if (s.collectionViewModel.headerForSectionWithIdentifier info.sectionIdentifier).isNone ∧
      info.title.isSome then
    { s with
      collectionViewModel := s.collectionViewModel.setHeader
        (some ⟨s.nextObject, itemTypeHeader⟩) info.sectionIdentifier
      nextObject := s.nextObject + 1 }
  else s

def addFooterIfNeeded
    (info : ContentSuggestionsSectionInformation) : ContentSuggestionsCollectionUpdater :=
  if info.footerTitle.isSome ∧
      (s.collectionViewModel.footerForSectionWithIdentifier info.sectionIdentifier).isNone then
    { s with
      collectionViewModel := s.collectionViewModel.setFooter
        (some ⟨s.nextObject, itemTypeFooter⟩) info.sectionIdentifier
      nextObject := s.nextObject + 1 }
  else s

def removeEmptySuggestions
    (info : ContentSuggestionsSectionInformation) : ContentSuggestionsCollectionUpdater :=
  match s.itemsInSection info.sectionIdentifier with
  | [item] =>
    if item.type = itemTypeEmpty then
      s.updateModel (·.removeItemWithType itemTypeEmpty info.sectionIdentifier 0)
    else s
  | _ => s

/-- `addSuggestionsToModel:withSectionInfo:`; of the most visited pages there are
no more than `mostVisitedPlaceCount`. -/
def addSuggestionsToModel (mostVisitedPlaceCount : Nat) (s : ContentSuggestionsCollectionUpdater)
    (suggestions : List Nat) (info : ContentSuggestionsSectionInformation) :
    ContentSuggestionsCollectionUpdater :=
  if suggestions = [] then
    if s.hasSectionForSectionIdentifier info.sectionIdentifier ∧
        s.itemsInSection info.sectionIdentifier = [] then
      s.addEmptyItem info.sectionIdentifier
    else s
  else
    suggestions.foldl (fun s suggestion =>
      if info.sectionIdentifier = sectionIdentifierMostVisited ∧
          mostVisitedPlaceCount ≤ (s.itemsInSection info.sectionIdentifier).length then s
      else s.addItem ⟨suggestion, info.itemType⟩ info.sectionIdentifier) s

variable (sectionsInfo : List ContentSuggestionsSectionInformation) (mostVisitedPlaceCount : Nat)

/-! ## Sections

An exception is `none`. -/

/-- The body of the loop of `addSectionsForSectionInfoToModel:`. -/
def addSectionForSectionInfo (items : ItemsForSectionInfo)
    (s : ContentSuggestionsCollectionUpdater) (info : ContentSuggestionsSectionInformation) :
    Option ContentSuggestionsCollectionUpdater :=
  if s.hasSectionForSectionIdentifier info.sectionIdentifier ∨
      (!info.showIfEmpty ∧ items info = []) then
    some s
  else
    let sectionIndex := sectionsInfo.countP fun orderedSectionInfo =>
      s.hasSectionForSectionIdentifier orderedSectionInfo.sectionIdentifier
    if sectionIndex ≤ s.collectionViewModel.sections.length then
      let s := { s with
        collectionViewModel :=
          s.collectionViewModel.insertSection info.sectionIdentifier sectionIndex
        sectionInfoBySectionIdentifier :=
          s.sectionInfoBySectionIdentifier.set info.sectionIdentifier info }
      some ((s.addHeaderIfNeeded info).addFooterIfNeeded info)
    else none

def addSectionsForSectionInfoToModel (items : ItemsForSectionInfo)
    (s : ContentSuggestionsCollectionUpdater)
    (infos : List ContentSuggestionsSectionInformation) :
    Option ContentSuggestionsCollectionUpdater :=
  infos.foldlM (addSectionForSectionInfo sectionsInfo items) s

/-- `addSuggestions:toSectionInfo:` of the view controller. -/
def addSuggestions (items : ItemsForSectionInfo) (s : ContentSuggestionsCollectionUpdater)
    (suggestions : List Nat) (info : ContentSuggestionsSectionInformation) :
    Option ContentSuggestionsCollectionUpdater :=
  if suggestions = [] then some s
  else do
    let s ← s.addSectionsForSectionInfoToModel sectionsInfo items [info]
    some ((s.removeEmptySuggestions info).addSuggestionsToModel mostVisitedPlaceCount
      suggestions info)

def dataAvailableForSection (items : ItemsForSectionInfo)
    (s : ContentSuggestionsCollectionUpdater) (info : ContentSuggestionsSectionInformation) :
    Option ContentSuggestionsCollectionUpdater :=
  -- The presented items are not dismissed.
  if s.hasSectionForSectionIdentifier info.sectionIdentifier ∧
      ∃ item ∈ (s.itemsInSection info.sectionIdentifier).head?, item.type ≠ itemTypeEmpty then
    some s
  else s.addSuggestions sectionsInfo mostVisitedPlaceCount items (items info) info

def reloadSection (items : ItemsForSectionInfo) (s : ContentSuggestionsCollectionUpdater)
    (info : ContentSuggestionsSectionInformation) : Option ContentSuggestionsCollectionUpdater :=
  if s.hasSectionForSectionIdentifier info.sectionIdentifier then
    let s := s.updateModel (·.modifyItems info.sectionIdentifier fun _ => [])
    some (s.addSuggestionsToModel mostVisitedPlaceCount (items info) info)
  else s.addSuggestions sectionsInfo mostVisitedPlaceCount items (items info) info

/-- `resetModels`: the controller loads a new model. -/
def resetModels (s : ContentSuggestionsCollectionUpdater) : ContentSuggestionsCollectionUpdater :=
  { s with collectionViewModel := .init, sectionInfoBySectionIdentifier := .empty }

def reloadAllData (items : ItemsForSectionInfo) (s : ContentSuggestionsCollectionUpdater) :
    Option ContentSuggestionsCollectionUpdater := do
  let s ← s.resetModels.addSectionsForSectionInfoToModel sectionsInfo items sectionsInfo
  some (sectionsInfo.foldl (fun s info =>
    s.addSuggestionsToModel mostVisitedPlaceCount (items info) info) s)

/-- `sectionIdentifierForSection:`, for a section that is a position. -/
def sectionIdentifierForSection (s : ContentSuggestionsCollectionUpdater) (position : Int) :
    Option Int :=
  if 0 ≤ position then s.shown[position.toNat]? else none

/-- `dismissSection:` of the view controller. -/
def dismissSection (s : ContentSuggestionsCollectionUpdater) (position : Int) :
    Option ContentSuggestionsCollectionUpdater :=
  if (s.collectionViewModel.sections.length : Int) ≤ position then some s
  else do
    let sectionIdentifier ← s.sectionIdentifierForSection position
    some (s.updateModel (·.removeSection sectionIdentifier))

/-- The identifier of the section is asked for as if it were a position. -/
def clearSection (s : ContentSuggestionsCollectionUpdater)
    (info : ContentSuggestionsSectionInformation) : Option ContentSuggestionsCollectionUpdater := do
  let position ← s.sectionIdentifierForSection info.sectionIdentifier
  s.dismissSection position

/-- `dismissEntryAtIndexPath:` of the view controller, which `clearSuggestion:` calls. -/
def dismissEntry (s : ContentSuggestionsCollectionUpdater) (position item : Nat) :
    ContentSuggestionsCollectionUpdater :=
  match s.shown[position]? with
  | none => s
  | some sectionIdentifier =>
    if item < (s.itemsInSection sectionIdentifier).length then
      let s := s.updateModel (·.modifyItems sectionIdentifier (·.eraseIdx item))
      if s.itemsInSection sectionIdentifier = [] then s.addEmptyItem sectionIdentifier else s
    else s

/-! ## Runs -/

/-- The notifications, with what the data source answers while they are handled. -/
inductive Op
  | dataAvailableForSection (info : ContentSuggestionsSectionInformation)
      (items : ItemsForSectionInfo)
  | reloadSection (info : ContentSuggestionsSectionInformation) (items : ItemsForSectionInfo)
  | reloadAllData (items : ItemsForSectionInfo)
  | clearSection (info : ContentSuggestionsSectionInformation)
  | dismissEntry (position item : Nat)

def step (s : ContentSuggestionsCollectionUpdater) :
    Op → Option ContentSuggestionsCollectionUpdater
  | .dataAvailableForSection info items =>
    s.dataAvailableForSection sectionsInfo mostVisitedPlaceCount items info
  | .reloadSection info items => s.reloadSection sectionsInfo mostVisitedPlaceCount items info
  | .reloadAllData items => s.reloadAllData sectionsInfo mostVisitedPlaceCount items
  | .clearSection info => s.clearSection info
  | .dismissEntry position item => some (s.dismissEntry position item)

/-- The section a notification is about is one of the data source's. -/
def Op.Pre : Op → Prop
  | .dataAvailableForSection info _ | .reloadSection info _ | .clearSection info =>
    info ∈ sectionsInfo
  | .reloadAllData _ | .dismissEntry .. => True

/-- After an exception nothing comes. -/
def machine : Machine (Option ContentSuggestionsCollectionUpdater) Op where
  Pre s op := s.isSome ∧ op.Pre sectionsInfo
  step s op := s.bind (·.step sectionsInfo mostVisitedPlaceCount op)

def after (ops : List Op) : Option ContentSuggestionsCollectionUpdater :=
  (machine sectionsInfo mostVisitedPlaceCount).run (some init) ops

/-- The sections of the model are in the order of the data source, each once. -/
def Ordered (s : ContentSuggestionsCollectionUpdater) : Prop :=
  s.shown.Nodup ∧ s.shown.Sublist (sectionsInfo.map (·.sectionIdentifier))

/-- The sections are in order in every state of a run, and the section that is
cleared, and no other, is removed. -/
structure KeepsOrder (ops : List Op) : Prop where
  ordered : ∀ before, before <+: ops →
    ∃ s, after sectionsInfo mostVisitedPlaceCount before = some s ∧ s.Ordered sectionsInfo
  cleared : ∀ before info, before ++ [.clearSection info] <+: ops →
    ∃ s s', after sectionsInfo mostVisitedPlaceCount before = some s ∧
      after sectionsInfo mostVisitedPlaceCount (before ++ [.clearSection info]) = some s' ∧
      s'.shown = s.shown.erase info.sectionIdentifier

/-- A section comes after all that are shown, and none of those is listed twice. -/
def ComesLast (shown : List Int) (sectionIdentifier : Int) : Prop :=
  (∀ other ∈ shown, (sectionsInfo.map (·.sectionIdentifier)).count other = 1) ∧
    (shown ++ [sectionIdentifier]).Sublist (sectionsInfo.map (·.sectionIdentifier))

/-- Each of the sections that is added, one after the other, comes last. -/
def AddsLast (items : ItemsForSectionInfo) :
    List Int → List ContentSuggestionsSectionInformation → Prop
  | _, [] => True
  | shown, info :: infos =>
    if info.sectionIdentifier ∈ shown ∨ (!info.showIfEmpty ∧ items info = []) then
      AddsLast items shown infos
    else
      ComesLast sectionsInfo shown info.sectionIdentifier ∧
        AddsLast items (shown ++ [info.sectionIdentifier]) infos

instance decidableComesLast (shown : List Int) (sectionIdentifier : Int) :
    Decidable (ComesLast sectionsInfo shown sectionIdentifier) :=
  instDecidableAnd

instance decidableAddsLast (items : ItemsForSectionInfo) :
    ∀ (shown : List Int) (infos : List ContentSuggestionsSectionInformation),
      Decidable (AddsLast sectionsInfo items shown infos)
  | _, [] => instDecidableTrue
  | shown, info :: infos =>
    have := decidableAddsLast items shown infos
    have := decidableAddsLast items (shown ++ [info.sectionIdentifier]) infos
    inferInstanceAs (Decidable
      (if info.sectionIdentifier ∈ shown ∨ (!info.showIfEmpty ∧ items info = []) then
        AddsLast sectionsInfo items shown infos
      else
        ComesLast sectionsInfo shown info.sectionIdentifier ∧
          AddsLast sectionsInfo items (shown ++ [info.sectionIdentifier]) infos))

/-- Nothing is cleared, and what is added comes last. -/
def KeepsOrderAt (s : Option ContentSuggestionsCollectionUpdater) : Op → Prop
  | .dataAvailableForSection info items | .reloadSection info items =>
    items info ≠ [] → ∀ updater : ContentSuggestionsCollectionUpdater, s = some updater →
      AddsLast sectionsInfo items updater.shown [info]
  | .reloadAllData items => AddsLast sectionsInfo items [] sectionsInfo
  | .clearSection _ => False
  | .dismissEntry .. => True

/-! ## What happens to the sections -/

section Sections

variable {sectionsInfo : List ContentSuggestionsSectionInformation} {mostVisitedPlaceCount : Nat}
  {items : ItemsForSectionInfo} {s s' : ContentSuggestionsCollectionUpdater}
  {info : ContentSuggestionsSectionInformation} {sectionIdentifier : Int}

theorem hasSection_iff : s.hasSectionForSectionIdentifier sectionIdentifier = true ↔
    sectionIdentifier ∈ s.shown := by
  show (s.shown.idxOf? sectionIdentifier).isSome = true ↔ _
  exact isSome_idxOf?

/-- Sections are neither added nor removed. -/
def SameSections (s s' : ContentSuggestionsCollectionUpdater) : Prop :=
  s'.shown = s.shown ∧ s'.collectionViewModel.sections.length = s.collectionViewModel.sections.length

theorem SameSections.refl (s : ContentSuggestionsCollectionUpdater) : SameSections s s := ⟨rfl, rfl⟩

theorem SameSections.trans {t : ContentSuggestionsCollectionUpdater} (h : SameSections s s')
    (h' : SameSections s' t) : SameSections s t :=
  ⟨h'.1.trans h.1, h'.2.trans h.2⟩

theorem sameSections_modifyItems (f : List CollectionViewItem → List CollectionViewItem) :
    SameSections s (s.updateModel (·.modifyItems sectionIdentifier f)) := by
  rw [updateModel, CollectionViewModel.modifyItems]
  split
  · exact .refl s
  · exact ⟨rfl, length_modify ..⟩

theorem sameSections_addItem (item : CollectionViewItem) :
    SameSections s (s.addItem item sectionIdentifier) :=
  sameSections_modifyItems _

theorem sameSections_addEmptyItem : SameSections s (s.addEmptyItem sectionIdentifier) :=
  sameSections_addItem ⟨s.nextObject, itemTypeEmpty⟩

theorem sameSections_addHeaderIfNeeded : SameSections s (s.addHeaderIfNeeded info) := by
  rw [addHeaderIfNeeded]
  split <;> exact ⟨rfl, rfl⟩

theorem sameSections_addFooterIfNeeded : SameSections s (s.addFooterIfNeeded info) := by
  rw [addFooterIfNeeded]
  split <;> exact ⟨rfl, rfl⟩

theorem sameSections_removeEmptySuggestions : SameSections s (s.removeEmptySuggestions info) := by
  rw [removeEmptySuggestions]
  split
  · split
    · exact sameSections_modifyItems _
    · exact .refl s
  · exact .refl s

theorem sameSections_addSuggestionsToModel (suggestions : List Nat) :
    SameSections s (s.addSuggestionsToModel mostVisitedPlaceCount suggestions info) := by
  rw [addSuggestionsToModel]
  split
  · split
    · exact sameSections_addEmptyItem
    · exact .refl s
  · clear * -
    induction suggestions generalizing s with
    | nil => exact .refl s
    | cons suggestion suggestions ih =>
      rw [foldl_cons]
      refine .trans ?_ ih
      split
      · exact .refl s
      · exact sameSections_addItem _

theorem sameSections_dismissEntry (position item : Nat) :
    SameSections s (s.dismissEntry position item) := by
  rw [dismissEntry]
  split
  · exact .refl s
  · next sectionIdentifier _ =>
    split
    · have herase : SameSections s
          (s.updateModel (·.modifyItems sectionIdentifier (·.eraseIdx item))) :=
        sameSections_modifyItems _
      refine herase.trans ?_
      dsimp only
      split
      · exact sameSections_addEmptyItem
      · exact .refl _
    · exact .refl s

/-- What every notification preserves, next to the order. -/
structure InOrder (sectionsInfo : List ContentSuggestionsSectionInformation)
    (s : ContentSuggestionsCollectionUpdater) : Prop where
  ordered : s.Ordered sectionsInfo
  length : s.shown.length = s.collectionViewModel.sections.length

theorem InOrder.sameSections (h : s.InOrder sectionsInfo) (hsame : SameSections s s') :
    s'.InOrder sectionsInfo := by
  obtain ⟨hshown, hlength⟩ := hsame
  refine ⟨?_, by rw [hshown, hlength, h.length]⟩
  rw [Ordered, hshown]
  exact h.ordered

theorem sectionIndex_eq :
    (sectionsInfo.countP fun orderedSectionInfo =>
      s.hasSectionForSectionIdentifier orderedSectionInfo.sectionIdentifier) =
    (sectionsInfo.map (·.sectionIdentifier)).countP (· ∈ s.shown) := by
  rw [countP_map]
  refine countP_congr fun orderedSectionInfo _ => ?_
  rw [hasSection_iff]
  simp

/-- A section that is added is inserted where as many sections as are shown come
before it in the list of the data source. -/
theorem addSection_shown (h : s.addSectionForSectionInfo sectionsInfo items info = some s') :
    (s' = s ∧ (info.sectionIdentifier ∈ s.shown ∨ (!info.showIfEmpty ∧ items info = []))) ∨
    ((¬ (info.sectionIdentifier ∈ s.shown ∨ (!info.showIfEmpty ∧ items info = []))) ∧
      (sectionsInfo.map (·.sectionIdentifier)).countP (· ∈ s.shown) ≤
        s.collectionViewModel.sections.length ∧
      s'.shown = s.shown.insertIdx
        ((sectionsInfo.map (·.sectionIdentifier)).countP (· ∈ s.shown)) info.sectionIdentifier ∧
      s'.collectionViewModel.sections.length = s.collectionViewModel.sections.length + 1) := by
  rw [addSectionForSectionInfo, sectionIndex_eq] at h
  split at h
  case isTrue hskip =>
    rw [hasSection_iff] at hskip
    exact .inl ⟨(some.inj h).symm, hskip⟩
  case isFalse hskip =>
    rw [hasSection_iff] at hskip
    dsimp only at h
    split at h
    case isTrue hle =>
      obtain rfl := some.inj h
      have hsame (t : ContentSuggestionsCollectionUpdater) :
          SameSections t ((t.addHeaderIfNeeded info).addFooterIfNeeded info) :=
        sameSections_addHeaderIfNeeded.trans sameSections_addFooterIfNeeded
      refine .inr ⟨hskip, hle, (hsame _).1, ?_⟩
      exact (hsame _).2.trans (length_insertIdx_of_le_length hle _)
    case isFalse => cases h

/-- The exact count of the shown sections, for sections that are in order. -/
theorem InOrder.countP_eq_iff (h : s.InOrder sectionsInfo) :
    (sectionsInfo.map (·.sectionIdentifier)).countP (· ∈ s.shown) = s.shown.length ↔
      ∀ other ∈ s.shown, (sectionsInfo.map (·.sectionIdentifier)).count other = 1 :=
  countP_mem_eq_length_iff h.ordered.1 h.ordered.2

/-- A section that comes last is added at the end. -/
theorem InOrder.addSection (h : s.InOrder sectionsInfo)
    (hnew : ¬ (info.sectionIdentifier ∈ s.shown ∨ (!info.showIfEmpty ∧ items info = [])))
    (hlast : ComesLast sectionsInfo s.shown info.sectionIdentifier) :
    ∃ s', s.addSectionForSectionInfo sectionsInfo items info = some s' ∧
      s'.InOrder sectionsInfo ∧ s'.shown = s.shown ++ [info.sectionIdentifier] := by
  have hcount := h.countP_eq_iff.2 hlast.1
  have hsome : (s.addSectionForSectionInfo sectionsInfo items info).isSome := by
    rw [addSectionForSectionInfo, sectionIndex_eq, hcount, if_neg (by rwa [hasSection_iff])]
    dsimp only
    rw [if_pos (Nat.le_of_eq h.length)]
    rfl
  obtain ⟨s', hs'⟩ := isSome_iff_exists.1 hsome
  rcases addSection_shown hs' with ⟨-, hskip⟩ | ⟨-, -, hshown, hlength⟩
  · exact absurd hskip hnew
  · rw [hcount, insertIdx_length_self] at hshown
    refine ⟨s', hs', ⟨⟨?_, ?_⟩, ?_⟩, hshown⟩
    · rw [hshown, nodup_append]
      refine ⟨h.ordered.1, nodup_singleton _, ?_⟩
      rintro other hother _ hmem rfl
      rw [mem_singleton.1 hmem] at hother
      exact hnew (.inl hother)
    · rw [hshown]
      exact hlast.2
    · rw [hshown, hlength, length_append, h.length]
      rfl

/-- Sections that are added leave those that are shown in their order. -/
theorem addSection_sublist (h : s.addSectionForSectionInfo sectionsInfo items info = some s') :
    s.shown.Sublist s'.shown := by
  rcases addSection_shown h with ⟨rfl, -⟩ | ⟨-, -, hshown, -⟩
  · exact .refl _
  · rw [hshown]
    exact sublist_insertIdx ..

variable {infos : List ContentSuggestionsSectionInformation}

theorem addSections_sublist
    (h : s.addSectionsForSectionInfoToModel sectionsInfo items infos = some s') :
    s.shown.Sublist s'.shown := by
  induction infos generalizing s with
  | nil =>
    obtain rfl := some.inj h
    exact .refl _
  | cons info infos ih =>
    rw [addSectionsForSectionInfoToModel, foldlM_cons] at h
    obtain ⟨t, ht, hrest⟩ := bind_eq_some_iff.1 h
    exact (addSection_sublist ht).trans (ih hrest)

/-- A section that does not come last ends up out of order, or nowhere. -/
theorem InOrder.not_ordered_addSection (h : s.InOrder sectionsInfo)
    (hnew : ¬ (info.sectionIdentifier ∈ s.shown ∨ (!info.showIfEmpty ∧ items info = [])))
    (hlast : ¬ ComesLast sectionsInfo s.shown info.sectionIdentifier)
    (hs' : s.addSectionForSectionInfo sectionsInfo items info = some s') :
    ¬ s'.shown.Sublist (sectionsInfo.map (·.sectionIdentifier)) := by
  rcases addSection_shown hs' with ⟨-, hskip⟩ | ⟨-, hle, hshown, -⟩
  · exact absurd hskip hnew
  · have hcount : (sectionsInfo.map (·.sectionIdentifier)).countP (· ∈ s.shown) =
        s.shown.length := by
      refine Nat.le_antisymm ?_ (length_le_countP_mem h.ordered.1 h.ordered.2)
      rwa [h.length]
    rw [hshown, hcount, insertIdx_length_self]
    exact fun hsublist => hlast ⟨h.countP_eq_iff.1 hcount, hsublist⟩

theorem InOrder.addSections
    (h : s.InOrder sectionsInfo) (hadds : AddsLast sectionsInfo items s.shown infos) :
    ∃ s', s.addSectionsForSectionInfoToModel sectionsInfo items infos = some s' ∧
      s'.InOrder sectionsInfo := by
  induction infos generalizing s with
  | nil => exact ⟨s, rfl, h⟩
  | cons info infos ih =>
    rw [addSectionsForSectionInfoToModel, foldlM_cons]
    rw [AddsLast] at hadds
    by_cases hskip : info.sectionIdentifier ∈ s.shown ∨ (!info.showIfEmpty ∧ items info = [])
    · have hstep : s.addSectionForSectionInfo sectionsInfo items info = some s :=
        if_pos (by rwa [hasSection_iff])
      rw [if_pos hskip] at hadds
      rw [hstep]
      exact ih h hadds
    · rw [if_neg hskip] at hadds
      obtain ⟨t, ht, hinOrder, hshown⟩ := h.addSection hskip hadds.1
      rw [ht]
      exact ih hinOrder (hshown ▸ hadds.2)

theorem InOrder.not_ordered_addSections
    (h : s.InOrder sectionsInfo) (hadds : ¬ AddsLast sectionsInfo items s.shown infos)
    (hs' : s.addSectionsForSectionInfoToModel sectionsInfo items infos = some s') :
    ¬ s'.shown.Sublist (sectionsInfo.map (·.sectionIdentifier)) := by
  induction infos generalizing s with
  | nil => exact absurd trivial hadds
  | cons info infos ih =>
    rw [AddsLast] at hadds
    rw [addSectionsForSectionInfoToModel, foldlM_cons] at hs'
    obtain ⟨t, ht, hrest⟩ := bind_eq_some_iff.1 hs'
    by_cases hskip : info.sectionIdentifier ∈ s.shown ∨ (!info.showIfEmpty ∧ items info = [])
    · have hstep : s.addSectionForSectionInfo sectionsInfo items info = some s :=
        if_pos (by rwa [hasSection_iff])
      rw [if_pos hskip] at hadds
      obtain rfl := some.inj (hstep.symm.trans ht)
      exact ih h hadds hrest
    · rw [if_neg hskip] at hadds
      by_cases hlast : ComesLast sectionsInfo s.shown info.sectionIdentifier
      · obtain ⟨t', ht', hinOrder, hshown⟩ := h.addSection hskip hlast
        obtain rfl := some.inj (ht'.symm.trans ht)
        exact ih hinOrder (fun hrest => hadds ⟨hlast, hshown ▸ hrest⟩) hrest
      · exact fun hsublist => h.not_ordered_addSection hskip hlast ht
          ((addSections_sublist hrest).trans hsublist)

/-! ## The notifications -/

theorem sectionIdentifier_mem (info : ContentSuggestionsSectionInformation) :
    info.sectionIdentifier ∈ ([10, 11, 12, 13] : List Int) := by
  rw [ContentSuggestionsSectionInformation.sectionIdentifier]
  cases info.sectionID <;> decide

/-- There are fewer sections than the least section identifier. -/
theorem InOrder.length_le (h : s.InOrder sectionsInfo) : s.shown.length ≤ 4 := by
  have hsubset : s.shown ⊆ [10, 11, 12, 13] := by
    intro sectionIdentifier hmem
    obtain ⟨info, -, rfl⟩ := mem_map.1 (h.ordered.2.subset hmem)
    exact sectionIdentifier_mem info
  exact (subperm_of_subset h.ordered.1 hsubset).length_le

/-- Clearing a section raises an exception. -/
theorem InOrder.clearSection_eq (h : s.InOrder sectionsInfo)
    (info : ContentSuggestionsSectionInformation) : s.clearSection info = none := by
  have hidentifier : 10 ≤ info.sectionIdentifier := by
    have hmem := sectionIdentifier_mem info
    simp only [mem_cons, not_mem_nil, or_false] at hmem
    omega
  have hlength := h.length_le
  have hnone : s.shown[info.sectionIdentifier.toNat]? = none :=
    getElem?_eq_none (by omega)
  rw [clearSection, sectionIdentifierForSection, if_pos (by omega), hnone]
  rfl

theorem InOrder.addSuggestions (h : s.InOrder sectionsInfo)
    (hadds : items info ≠ [] → AddsLast sectionsInfo items s.shown [info]) :
    ∃ s', s.addSuggestions sectionsInfo mostVisitedPlaceCount items (items info) info = some s' ∧
      s'.InOrder sectionsInfo := by
  rw [ContentSuggestionsCollectionUpdater.addSuggestions]
  by_cases hitems : items info = []
  · rw [if_pos hitems]
    exact ⟨s, rfl, h⟩
  · obtain ⟨t, ht, hinOrder⟩ := h.addSections (hadds hitems)
    rw [if_neg hitems, ht]
    exact ⟨_, rfl, hinOrder.sameSections (sameSections_removeEmptySuggestions.trans
      (sameSections_addSuggestionsToModel _))⟩

theorem InOrder.not_ordered_addSuggestions (h : s.InOrder sectionsInfo)
    (hitems : items info ≠ []) (hadds : ¬ AddsLast sectionsInfo items s.shown [info])
    (hs' : s.addSuggestions sectionsInfo mostVisitedPlaceCount items (items info) info = some s') :
    ¬ s'.Ordered sectionsInfo := by
  rw [ContentSuggestionsCollectionUpdater.addSuggestions, if_neg hitems] at hs'
  obtain ⟨t, ht, hrest⟩ := bind_eq_some_iff.1 hs'
  obtain rfl := some.inj hrest
  have hsame : t.SameSections ((t.removeEmptySuggestions info).addSuggestionsToModel
      mostVisitedPlaceCount (items info) info) :=
    sameSections_removeEmptySuggestions.trans (sameSections_addSuggestionsToModel _)
  rw [Ordered, hsame.1]
  exact fun hordered => h.not_ordered_addSections hadds ht hordered.2

theorem sameSections_foldl_addSuggestionsToModel
    (infos : List ContentSuggestionsSectionInformation) :
    SameSections s (infos.foldl (fun s info =>
      s.addSuggestionsToModel mostVisitedPlaceCount (items info) info) s) := by
  induction infos generalizing s with
  | nil => exact .refl s
  | cons info infos ih => exact (sameSections_addSuggestionsToModel _).trans ih

theorem inOrder_resetModels (s : ContentSuggestionsCollectionUpdater) :
    s.resetModels.InOrder sectionsInfo :=
  ⟨⟨nodup_nil, nil_sublist _⟩, rfl⟩

/-- A section that is shown is not added. -/
theorem addsLast_of_mem (h : info.sectionIdentifier ∈ s.shown) :
    AddsLast sectionsInfo items s.shown [info] := by
  rw [AddsLast, if_pos (.inl h)]
  trivial

theorem InOrder.step (h : s.InOrder sectionsInfo) {op : Op}
    (hkeeps : KeepsOrderAt sectionsInfo (some s) op) :
    ∃ s', s.step sectionsInfo mostVisitedPlaceCount op = some s' ∧ s'.InOrder sectionsInfo := by
  cases op with
  | dataAvailableForSection info items =>
    show ∃ s', s.dataAvailableForSection sectionsInfo mostVisitedPlaceCount items info = _ ∧ _
    rw [dataAvailableForSection]
    split
    · exact ⟨s, rfl, h⟩
    · exact h.addSuggestions fun hitems => hkeeps hitems s rfl
  | reloadSection info items =>
    show ∃ s', s.reloadSection sectionsInfo mostVisitedPlaceCount items info = _ ∧ _
    rw [reloadSection]
    split
    · have hmodify : SameSections s
          (s.updateModel (·.modifyItems info.sectionIdentifier fun _ => [])) :=
        sameSections_modifyItems _
      exact ⟨_, rfl, h.sameSections (hmodify.trans (sameSections_addSuggestionsToModel _))⟩
    · exact h.addSuggestions fun hitems => hkeeps hitems s rfl
  | reloadAllData items =>
    obtain ⟨t, ht, hinOrder⟩ := (inOrder_resetModels s).addSections hkeeps
    exact ⟨_, congrArg (bind · _) ht,
      hinOrder.sameSections (sameSections_foldl_addSuggestionsToModel _)⟩
  | clearSection info => exact hkeeps.elim
  | dismissEntry position item =>
    exact ⟨_, rfl, h.sameSections (sameSections_dismissEntry position item)⟩

theorem InOrder.not_ordered_step (h : s.InOrder sectionsInfo) {op : Op}
    (hkeeps : ¬ KeepsOrderAt sectionsInfo (some s) op)
    (hs' : s.step sectionsInfo mostVisitedPlaceCount op = some s') :
    ¬ s'.Ordered sectionsInfo := by
  have hadds {info : ContentSuggestionsSectionInformation} {items : ItemsForSectionInfo}
      (hnot : ¬ (items info ≠ [] → ∀ updater : ContentSuggestionsCollectionUpdater,
        some s = some updater → AddsLast sectionsInfo items updater.shown [info])) :
      items info ≠ [] ∧ ¬ AddsLast sectionsInfo items s.shown [info] := by
    rw [Classical.not_imp] at hnot
    refine ⟨hnot.1, fun h => hnot.2 ?_⟩
    rintro _ ⟨⟩
    exact h
  cases op with
  | dataAvailableForSection info items =>
    obtain ⟨hitems, hnot⟩ := hadds hkeeps
    have hmem : ¬ s.hasSectionForSectionIdentifier info.sectionIdentifier = true := by
      rw [hasSection_iff]
      exact fun hmem => hnot (addsLast_of_mem hmem)
    have hstep : s.dataAvailableForSection sectionsInfo mostVisitedPlaceCount items info = _ :=
      if_neg fun hboth => hmem hboth.1
    exact h.not_ordered_addSuggestions hitems hnot (hstep.symm.trans hs')
  | reloadSection info items =>
    obtain ⟨hitems, hnot⟩ := hadds hkeeps
    have hmem : ¬ s.hasSectionForSectionIdentifier info.sectionIdentifier = true := by
      rw [hasSection_iff]
      exact fun hmem => hnot (addsLast_of_mem hmem)
    have hstep : s.reloadSection sectionsInfo mostVisitedPlaceCount items info = _ := if_neg hmem
    exact h.not_ordered_addSuggestions hitems hnot (hstep.symm.trans hs')
  | reloadAllData items =>
    obtain ⟨t, ht, hrest⟩ := bind_eq_some_iff.1 hs'
    obtain rfl := some.inj hrest
    rw [Ordered, (sameSections_foldl_addSuggestionsToModel _).1]
    exact fun hordered => (inOrder_resetModels s).not_ordered_addSections hkeeps ht hordered.2
  | clearSection info =>
    cases (h.clearSection_eq info).symm.trans hs'
  | dismissEntry position item => exact absurd trivial hkeeps

end Sections

/-- The sections stay in order, and clearing works, if and only if no section is
cleared and each one that is added comes after all that are shown. -/
theorem keeps_order_iff (sectionsInfo : List ContentSuggestionsSectionInformation)
    (mostVisitedPlaceCount : Nat) (ops : List Op)
    (hlegal : (machine sectionsInfo mostVisitedPlaceCount).Legal (some init) ops) :
    KeepsOrder sectionsInfo mostVisitedPlaceCount ops ↔
      (machine sectionsInfo mostVisitedPlaceCount).Along (KeepsOrderAt sectionsInfo) (some init)
        ops := by
  have hiff := Machine.always_iff_along (M := machine sectionsInfo mostVisitedPlaceCount)
    (I := fun s => ∃ t, s = some t ∧ t.InOrder sectionsInfo)
    (P := fun s => ∃ t, s = some t ∧ t.Ordered sectionsInfo)
    (C := (machine sectionsInfo mostVisitedPlaceCount).Pre) (D := KeepsOrderAt sectionsInfo)
    (fun s ⟨t, hs, ht⟩ => ⟨t, hs, ht.ordered⟩)
    (by
      rintro _ op ⟨t, rfl, ht⟩ - hkeeps
      exact ht.step hkeeps)
    (by
      rintro _ op ⟨t, rfl, ht⟩ - hkeeps ⟨t', ht', hordered⟩
      exact ht.not_ordered_step hkeeps ht' hordered)
    (s := some init) ⟨init, rfl, inOrder_resetModels init⟩ hlegal
  constructor
  · intro h
    exact hiff.1 h.ordered
  · intro hkeeps
    refine ⟨hiff.2 hkeeps, fun before info hinitial => ?_⟩
    exact (Machine.along_append.1 (hkeeps.of_isPrefix hinitial)).2.1.elim

/-- Sections without titles. -/
def untitledInfo (sectionID : ContentSuggestionsSectionID) :
    ContentSuggestionsSectionInformation :=
  ⟨sectionID, none, none, false⟩

/-- The articles are loaded before there are entries in the reading list. -/
def articlesFirst : List Op :=
  [.reloadAllData fun info => if info.sectionID = .articles then [0] else [],
    .dataAvailableForSection (untitledInfo .readingList) fun _ => [1]]

theorem keeps_order_articles_first :
    KeepsOrder [untitledInfo .articles, untitledInfo .readingList] 4 articlesFirst := by
  refine (keeps_order_iff _ 4 articlesFirst ⟨⟨rfl, trivial⟩, ⟨rfl, ?_⟩, trivial⟩).2
    ⟨?_, ?_, trivial⟩
  · exact mem_cons_of_mem _ mem_cons_self
  · show AddsLast _ _ _ _
    decide
  · rintro - updater ⟨⟩
    decide

/-- The reading list has entries before the articles are there. -/
def readingListFirst : List Op :=
  [.reloadAllData fun info => if info.sectionID = .readingList then [0] else [],
    .dataAvailableForSection (untitledInfo .articles) fun _ => [1]]

theorem articles_added_after_reading_list :
    ¬ KeepsOrder [untitledInfo .articles, untitledInfo .readingList] 4 readingListFirst := by
  intro h
  obtain ⟨s, hs, -, hsublist⟩ := h.ordered readingListFirst (prefix_refl _)
  have hshown : (after [untitledInfo .articles, untitledInfo .readingList] 4
      readingListFirst).map shown = some [11, 10] := by
    decide
  rw [hs] at hshown
  rw [some.inj hshown] at hsublist
  revert hsublist
  decide

end ContentSuggestionsCollectionUpdater

end ChromiumIos
