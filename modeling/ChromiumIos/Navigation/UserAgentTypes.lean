import ChromiumIos.Navigation.NavigationManagerImpl
import ChromiumIos.Navigation.SessionInvariant

/-!
# User agent types of new items

`NavigationManagerImpl::AddPendingItem` gives a web page its user agent type:
the one the caller asks for, or that of the last committed web page. It takes
the pending item it finds for a new one, and asserts that it has not been given
the desktop type.

The session controller need not have made a new one: when the URL is that of
the pending item it keeps that item, with the type an earlier call gave it.
`addPendingItem_checks` says when the assertions hold, in every state that
calls of the navigation manager reach.
-/

namespace ChromiumIos

open Lib CRWSessionController Process Option

/-! ## What the methods compute -/

namespace NavigationItemImpl

/-- What the `DCHECK` of `SetUserAgentType` asks of an item. -/
def UserAgentTypeMatchesURL (env : Environment) (item : NavigationItemImpl) : Prop :=
  env.isAppSpecificURL item.getVirtualURL = true ↔ item.userAgentType = .none

/-- `SetUserAgentType`. -/
def setUserAgentType (item : NavigationItemImpl) (type : UserAgentType) : NavigationItemImpl :=
  { item with userAgentType := type }

end NavigationItemImpl

namespace CRWSessionController

/-- The loop of `GetLastCommittedNonAppSpecificItem`, downwards from the item
before `index`. -/
def lastCommittedNonAppSpecificLoop (env : Environment) (s : CRWSessionController) :
    (index : Nat) → Option NavigationItemImpl
  | 0 => none
  | index + 1 =>
    match s.items[index]? with
    | none => none
    | some item =>
      if !env.isAppSpecificURL item.getVirtualURL then some item
      else lastCommittedNonAppSpecificLoop env s index

/-- `GetLastCommittedNonAppSpecificItem`. -/
def getLastCommittedNonAppSpecificItem (env : Environment) (s : CRWSessionController) :
    Option NavigationItemImpl :=
  let index := s.getLastCommittedItemIndex
  if index = -1 then none else s.lastCommittedNonAppSpecificLoop env (index + 1).toNat

/-- `indexOfItem:` for the current item. -/
def currentItemIndex (s : CRWSessionController) : Int :=
  if s.transientItem.isSome then -1
  else if s.pendingItem.isSome then s.pendingItemIndex
  else s.lastCommittedItemIndex

/-- The loop of `isSameDocumentNavigationBetweenItem:andItem:`, with `none`
where a `CHECK` stops the process. -/
def sameDocumentLoop (env : Environment) (firstUrl : GURL) :
    List NavigationItemImpl → Option Bool
  | [] => some true
  | item :: rest =>
    if !item.isCreatedFromPushState && !item.isCreatedFromHashChange then some false
    else
      match isHistoryStateChangeValid env firstUrl item.url with
      | none => none
      | some false => some false
      | some true => sameDocumentLoop env firstUrl rest

/-- `isSameDocumentNavigationBetweenItem:andItem:`, for two items by their
positions; an item that is not in the vector has position `-1`. -/
def isSameDocumentNavigation (env : Environment) (s : CRWSessionController)
    (firstIndex secondIndex : Int) : Option Bool :=
  if firstIndex = secondIndex ∨ firstIndex = -1 ∨ secondIndex = -1 then some false
  else
    let startIndex := if firstIndex < secondIndex then firstIndex else secondIndex
    let endIndex := if firstIndex < secondIndex then secondIndex else firstIndex
    let between := (s.items.take (endIndex + 1).toNat).drop (startIndex + 1).toNat
    sameDocumentLoop env (((nth? s.items firstIndex).map (·.url)).getD .new) between

end CRWSessionController

/-- The arguments of `AddPendingItem`. -/
structure PendingItemRequest where
  url : GURL
  referrer : Referrer
  navigationType : PageTransition
  initiationType : NavigationInitiationType
  userAgentOverrideOption : UserAgentOverrideOption
deriving DecidableEq, Repr

/-- A call of `NavigationManagerImpl`, or of its session controller by the web
controller. Going to an index may record how the page that is left is
displayed. -/
inductive ManagerCall
  | addPendingItem (request : PendingItemRequest)
  | commitPendingItem (now : Time)
  | discardNonCommittedItems
  | pushNewItem (url : GURL) (stateObject : Option String16) (transition : PageTransition)
      (now : Time)
  | goToIndex (index : Int) (displayState : Option PageDisplayState)

namespace NavigationManagerImpl

variable (env : Environment) (p : Process)

/-- The session when `shouldCreatePendingItemWithURL:` looks at it. -/
def compared : CRWSessionController :=
  p.session.discardTransientItem.setPendingItemIndex (-1)

/-- The session controller makes a new item for the request. -/
def creates (request : PendingItemRequest) : Bool :=
  (compared p).shouldCreatePendingItem request.url request.navigationType
    request.userAgentOverrideOption

/-- The call of the session controller in `AddPendingItem`. -/
def added (request : PendingItemRequest) : Process :=
  addPendingItem env p request.url request.referrer request.navigationType
    request.initiationType request.userAgentOverrideOption

/-- The type the `switch` of `AddPendingItem` sets, if any. -/
def newUserAgentType (s : CRWSessionController) :
    UserAgentOverrideOption → Option UserAgentType
  | .desktop => some .desktop
  | .mobile => some .mobile
  | .inherit => (s.getLastCommittedNonAppSpecificItem env).map (·.userAgentType)

/-- The rest of `AddPendingItem`: the user agent type of a web URL. -/
def updatePendingUserAgentType (s : CRWSessionController)
    (userAgentOverrideOption : UserAgentOverrideOption) : CRWSessionController :=
  match s.pendingItem with
  | none => s
  | some pendingItem =>
    if pendingItem.userAgentType = .none then s
    else
      match newUserAgentType env s userAgentOverrideOption with
      | none => s
      | some type => s.modifyPendingItem (·.setUserAgentType type)

/-- `AddPendingItem`. -/
def addPendingItem (request : PendingItemRequest) : Process :=
  let p := added env p request
  { p with session := updatePendingUserAgentType env p.session request.userAgentOverrideOption }

/-- `recordStateInHistory`, which writes nothing when the user has not touched
the page. -/
def recordStateInHistory (s : CRWSessionController) (displayState : Option PageDisplayState) :
    CRWSessionController :=
  match displayState with
  | none => s
  | some state => s.modifyCurrentItem fun item => { item with pageDisplayState := state }

/-- `goToItemAtIndex:` of the web controller, up to `loadCurrentURL`. Without a
transient item there is no interstitial to dismiss. -/
def goToItemAtIndex (s : CRWSessionController) (index : Int)
    (displayState : Option PageDisplayState) : CRWSessionController :=
  if index < 0 ∨ index ≥ s.getItemCount then s
  else
    let s := recordStateInHistory s displayState
    if s.isSameDocumentNavigation env s.currentItemIndex index = some true then
      s.goToItemAtIndex index true
    else
      (s.discardNonCommittedItems.setPendingItemIndex index).modifyPendingItem fun item =>
        { item with transitionType := item.transitionType ||| .forwardBack }

def call : ManagerCall → Process
  | .addPendingItem request => addPendingItem env p request
  | .commitPendingItem now => { p with session := p.session.commitPendingItem env now }
  | .discardNonCommittedItems => { p with session := p.session.discardNonCommittedItems }
  | .pushNewItem url stateObject transition now =>
    pushNewItem env p url stateObject transition now
  | .goToIndex index displayState =>
    { p with session := goToItemAtIndex env p.session index displayState }

/-- A navigation manager under sequences of calls. A pushed item has passed the
checks of its method, and going to an index no `CHECK` that stops the process;
nothing is asked of the calls of `AddPendingItem`. -/
def machine : Machine Process ManagerCall where
  Pre p
    | .pushNewItem url stateObject transition now =>
      p.Checked env (.pushNewItem url stateObject transition now)
    | .goToIndex index displayState =>
      let s := recordStateInHistory p.session displayState
      (index < 0 ∨ index ≥ s.getItemCount) ∨
        (s.isSameDocumentNavigation env s.currentItemIndex index).isSome
    | _ => True
  step := call env

instance decidablePre : ∀ c : ManagerCall, Decidable ((machine env).Pre p c)
  | .pushNewItem url stateObject transition now =>
    decidableChecked env p (.pushNewItem url stateObject transition now)
  | .goToIndex _ _ => instDecidableOr
  | .addPendingItem _ | .commitPendingItem _ | .discardNonCommittedItems =>
    instDecidableTrue

/-! ## The assertions -/

/-- The `DCHECK`s on the way through `AddPendingItem`. -/
structure ChecksPass (request : PendingItemRequest) : Prop where
  /-- The override option differs from the type of the item it is compared
  with: two checks of `shouldCreatePendingItemWithURL:`. -/
  differs : ∀ item ∈ (compared p).currentItem,
    ChangesUserAgentType item request.userAgentOverrideOption
  /-- "Requesting a desktop or mobile user agent should be disabled for
  app-specific URLs." -/
  overridable : ∀ item ∈ (added env p request).session.pendingItem,
    item.userAgentType ≠ .none ∨ request.userAgentOverrideOption = .inherit
  /-- "Newly created pending items are created with `NONE` or `MOBILE`." -/
  notDesktop : ∀ item ∈ (added env p request).session.pendingItem, item.userAgentType ≠ .desktop
  /-- The type that is inherited is that of a web page. -/
  inherited : ∀ item ∈ (added env p request).session.pendingItem,
    item.userAgentType ≠ .none → request.userAgentOverrideOption = .inherit →
      ∀ last ∈ (added env p request).session.getLastCommittedNonAppSpecificItem env,
        last.userAgentType ≠ .none
  /-- The check of `SetUserAgentType`. -/
  stored : ∀ item ∈ (addPendingItem env p request).session.pendingItem,
    item.UserAgentTypeMatchesURL env

/-- The calls that are meant to be safe: the type is inherited, or another one
than the current item has is requested for a web URL. -/
def Permitted (request : PendingItemRequest) : Prop :=
  request.userAgentOverrideOption = .inherit ∨
    env.isAppSpecificURL request.url = false ∧
      ∀ item ∈ p.session.currentItem,
        ChangesUserAgentType item request.userAgentOverrideOption

instance (request : PendingItemRequest) : Decidable (Permitted env p request) := instDecidableOr

/-! ## What every call keeps -/

end NavigationManagerImpl

namespace CRWSessionController

/-- Every item has a user agent type that fits its URL; there is no transient
item, and no new item is pending beside a history item. -/
structure UserAgentTypesMatch (env : Environment) (s : CRWSessionController) : Prop where
  items : ∀ item ∈ s.items, item.UserAgentTypeMatchesURL env
  owned : ∀ item ∈ s.ownedPendingItem, item.UserAgentTypeMatchesURL env
  transient : s.ownedTransientItem = none
  pending : s.pendingItemIndex = -1 ∨ s.ownedPendingItem = none

variable {env : Environment} {s : CRWSessionController}

theorem userAgentType_itemWithURL (env : Environment) (p : Process) (url : GURL)
    (referrer : Referrer) (transition : PageTransition)
    (initiationType : NavigationInitiationType) :
    (itemWithURL env p url referrer transition initiationType).item.userAgentType =
      if env.isAppSpecificURL
          (itemWithURL env p url referrer transition initiationType).item.url then .none
        else .mobile := by
  generalize hcreated : itemWithURL env p url referrer transition initiationType = created
  exact hcreated ▸ rfl

/-- An item is made with the type that fits the URL it loads. -/
theorem itemWithURL_matches (p : Process) (url : GURL) (referrer : Referrer)
    (transition : PageTransition) (initiationType : NavigationInitiationType) :
    (itemWithURL env p url referrer transition initiationType).item.UserAgentTypeMatchesURL
      env := by
  have htype := userAgentType_itemWithURL env p url referrer transition initiationType
  generalize hcreated : itemWithURL env p url referrer transition initiationType = created
    at htype ⊢
  have hurl : created.item.getVirtualURL = created.item.url := hcreated ▸ rfl
  show _ = true ↔ _
  rw [hurl, htype]
  cases env.isAppSpecificURL created.item.url <;> simp

namespace UserAgentTypesMatch

theorem setPendingItemIndex_neg_one (h : s.UserAgentTypesMatch env) :
    (s.setPendingItemIndex (-1)).UserAgentTypesMatch env :=
  ⟨h.items, h.owned, h.transient, .inl rfl⟩

theorem discardTransientItem (h : s.UserAgentTypesMatch env) :
    s.discardTransientItem.UserAgentTypesMatch env :=
  ⟨h.items, h.owned, rfl, h.pending⟩

theorem discardNonCommittedItems (h : s.UserAgentTypesMatch env) :
    s.discardNonCommittedItems.UserAgentTypesMatch env :=
  ⟨h.items, fun _ hitem => (not_mem_none _ hitem).elim, rfl, .inl rfl⟩

/-- A history item may become pending when no new item is. -/
theorem setPendingItemIndex (h : s.UserAgentTypesMatch env) (hnone : s.ownedPendingItem = none)
    (index : Int) : (s.setPendingItemIndex index).UserAgentTypesMatch env :=
  ⟨h.items, h.owned, h.transient, .inr hnone⟩

section Modify

variable {f : NavigationItemImpl → NavigationItemImpl}
  (hf : ∀ item, item.UserAgentTypeMatchesURL env → (f item).UserAgentTypeMatchesURL env)
include hf

theorem modifyItemAt (h : s.UserAgentTypesMatch env) (index : Int) :
    (s.modifyItemAt index f).UserAgentTypesMatch env :=
  ⟨forall_mem_modify _ h.items hf, h.owned, h.transient, h.pending⟩

theorem modifyPendingItem (h : s.UserAgentTypesMatch env) :
    (s.modifyPendingItem f).UserAgentTypesMatch env := by
  rw [CRWSessionController.modifyPendingItem]
  split
  · next hnew =>
    refine ⟨h.items, fun item hitem => ?_, h.transient, .inl hnew⟩
    obtain ⟨owned, howned, rfl⟩ := map_eq_some_iff.1 hitem
    exact hf owned (h.owned owned howned)
  · exact modifyItemAt hf h _

theorem modifyCurrentItem (h : s.UserAgentTypesMatch env) :
    (s.modifyCurrentItem f).UserAgentTypesMatch env := by
  rw [CRWSessionController.modifyCurrentItem]
  split
  · next htransient =>
    rw [transientItem, h.transient] at htransient
    cases htransient
  · split
    · exact modifyPendingItem hf h
    · split
      · exact h
      · exact modifyItemAt hf h _

end Modify

theorem clearForwardItems (h : s.UserAgentTypesMatch env) :
    s.clearForwardItems.UserAgentTypesMatch env := by
  rw [CRWSessionController.clearForwardItems]
  simp only
  split
  · exact h.discardTransientItem
  · exact ⟨fun item hitem => h.items item (List.mem_of_mem_take hitem), h.owned, rfl, h.pending⟩

theorem setLastCommittedItemIndex (h : s.UserAgentTypesMatch env) (index : Int) :
    (s.setLastCommittedItemIndex index).UserAgentTypesMatch env := by
  rw [CRWSessionController.setLastCommittedItemIndex]
  split
  · exact ⟨h.items, h.owned, h.transient, h.pending⟩
  · exact h

theorem commitItem (h : s.UserAgentTypesMatch env) : s.commitItem.UserAgentTypesMatch env := by
  have hreset : (s.modifyPendingItem (·.resetForCommit)).UserAgentTypesMatch env :=
    h.modifyPendingItem fun _ hitem => hitem
  rw [CRWSessionController.commitItem]
  generalize s.modifyPendingItem (·.resetForCommit) = s at hreset
  by_cases hnew : s.pendingItemIndex = -1
  · -- the owned item moves to the vector
    rw [if_pos hnew, if_pos hnew]
    refine setPendingItemIndex_neg_one (setLastCommittedItemIndex ?_ _)
    refine ⟨fun item hitem => ?_, fun _ hitem => (not_mem_none _ hitem).elim,
      hreset.clearForwardItems.transient, .inr rfl⟩
    rcases List.mem_append.1 hitem with hold | howned
    · exact hreset.clearForwardItems.items item hold
    · exact hreset.owned item (mem_toList.1 howned)
  · rw [if_neg hnew, if_neg hnew]
    refine setPendingItemIndex_neg_one (setLastCommittedItemIndex ?_ _)
    exact ⟨hreset.items, hreset.owned, hreset.transient, hreset.pending⟩

theorem commitPendingItem (h : s.UserAgentTypesMatch env) (now : Time) :
    (s.commitPendingItem env now).UserAgentTypesMatch env := by
  have hcommit : (if s.pendingItem.isSome then s.commitItem else s).UserAgentTypesMatch env := by
    split
    · exact h.commitItem
    · exact h
  rw [CRWSessionController.commitPendingItem]
  generalize (if s.pendingItem.isSome then s.commitItem else s) = t at hcommit
  simp only
  split
  · have hsmoothed : { t with timeSmoother := (t.timeSmoother.getSmoothedTime now).2 }
        |>.UserAgentTypesMatch env :=
      ⟨hcommit.items, hcommit.owned, hcommit.transient, hcommit.pending⟩
    have hstamped := hsmoothed.modifyCurrentItem
      (f := fun item => { item with timestamp := (t.timeSmoother.getSmoothedTime now).1 })
      fun _ hitem => hitem
    exact ⟨hstamped.items, hstamped.owned, hstamped.transient, hstamped.pending⟩
  · exact hcommit

theorem pushNewItem {p : Process} (h : p.session.UserAgentTypesMatch env) {url : GURL}
    {stateObject : Option String16} {transition : PageTransition} {now : Time}
    (hchecked : p.Checked env (.pushNewItem url stateObject transition now)) :
    (pushNewItem env p url stateObject transition
      now).session.UserAgentTypesMatch env := by
  obtain ⟨-, last, hlast, -, happ⟩ := hchecked
  rw [CRWSessionController.pushNewItem, mem_def.1 hlast]
  simp only
  generalize hcreated : itemWithURL env p url ⟨last.url, .default⟩ transition .userInitiated =
    created at happ
  have hcreatedSession : created.session.UserAgentTypesMatch env := by
    rw [← hcreated]
    exact ⟨h.items, h.owned, h.transient, h.pending⟩
  generalize created.session.timeSmoother.getSmoothedTime now = smoothed
  have hcleared : { created.session with timeSmoother := smoothed.2 }.clearForwardItems
      |>.UserAgentTypesMatch env :=
    clearForwardItems ⟨hcreatedSession.items, hcreatedSession.owned, hcreatedSession.transient,
      hcreatedSession.pending⟩
  generalize { created.session with timeSmoother := smoothed.2 }.clearForwardItems = cleared
    at hcleared
  have hpushed := setLastCommittedItemIndex (s := { cleared with
    items := cleared.items ++ [{ created.item with
      userAgentType := last.userAgentType
      serializedStateObject := stateObject
      isCreatedFromPushState := true
      ssl := last.ssl
      timestamp := smoothed.1 }]
    previousItemIndex := cleared.lastCommittedItemIndex }) (show UserAgentTypesMatch env _ from ?_)
    ((cleared.items.length + 1 : Nat) - 1 : Int)
  · rw [List.length_append]
    exact ⟨hpushed.items, hpushed.owned, hpushed.transient, hpushed.pending⟩
  · refine ⟨fun item hitem => ?_, hcleared.owned, hcleared.transient, hcleared.pending⟩
    rcases List.mem_append.1 hitem with hold | hnew
    · exact hcleared.items item hold
    · -- the pushed item has the type of the page it was pushed from
      rw [List.mem_singleton] at hnew
      subst hnew
      show env.isAppSpecificURL created.item.getVirtualURL = true ↔ last.userAgentType = .none
      rw [happ, beq_iff_eq]

theorem goToItemAtIndex (h : s.UserAgentTypesMatch env) (index : Int) :
    (s.goToItemAtIndex index true).UserAgentTypesMatch env := by
  rw [CRWSessionController.goToItemAtIndex]
  split
  · exact h
  · split
    · exact h
    · simp only [if_true]
      split
      · have hdiscarded := h.discardNonCommittedItems
        exact ⟨hdiscarded.items, hdiscarded.owned, hdiscarded.transient, hdiscarded.pending⟩
      · have hdiscarded := h.discardTransientItem
        exact ⟨hdiscarded.items, hdiscarded.owned, hdiscarded.transient, hdiscarded.pending⟩

end UserAgentTypesMatch

namespace UserAgentTypesMatch

theorem pendingItem (h : s.UserAgentTypesMatch env) {item : NavigationItemImpl}
    (hitem : item ∈ s.pendingItem) : item.UserAgentTypeMatchesURL env := by
  rw [CRWSessionController.pendingItem] at hitem
  split at hitem
  · exact h.owned item hitem
  · exact h.items item (mem_of_nth? hitem)

/-- A pending web page may be given the type of a web page. -/
theorem setUserAgentType (h : s.UserAgentTypesMatch env) (hindex : s.pendingItemIndex = -1)
    {item : NavigationItemImpl} (hitem : s.pendingItem = some item)
    (hweb : item.userAgentType ≠ .none) {type : UserAgentType} (htype : type ≠ .none) :
    (s.modifyPendingItem (·.setUserAgentType type)).UserAgentTypesMatch env := by
  rw [CRWSessionController.pendingItem, if_pos hindex] at hitem
  rw [CRWSessionController.modifyPendingItem, if_pos hindex]
  refine ⟨h.items, fun stored hstored => ?_, h.transient, .inl hindex⟩
  simp only [hitem, map_some, mem_def, some.injEq] at hstored
  subst hstored
  have hmatches := h.owned item hitem
  show env.isAppSpecificURL item.getVirtualURL = true ↔ type = .none
  exact ⟨fun happ => absurd (hmatches.1 happ) hweb, fun hnone => absurd hnone htype⟩

end UserAgentTypesMatch

theorem pendingItem_modifyPendingItem (hindex : s.pendingItemIndex = -1)
    (f : NavigationItemImpl → NavigationItemImpl) :
    (s.modifyPendingItem f).pendingItem = s.pendingItem.map f := by
  rw [modifyPendingItem, if_pos hindex, pendingItem, pendingItem, if_pos hindex, if_pos hindex]

/-! ## The last committed web page -/

/-- The last committed item whose URL is not app-specific. -/
def lastCommittedWebItem (env : Environment) (s : CRWSessionController) :
    Option NavigationItemImpl :=
  (s.items.take (s.lastCommittedItemIndex + 1).toNat).reverse.find? fun item =>
    !env.isAppSpecificURL item.getVirtualURL

theorem lastCommittedNonAppSpecificLoop_eq (env : Environment) (s : CRWSessionController)
    {index : Nat} (hindex : index ≤ s.items.length) :
    s.lastCommittedNonAppSpecificLoop env index =
      (s.items.take index).reverse.find? fun item => !env.isAppSpecificURL item.getVirtualURL := by
  induction index with
  | zero => rfl
  | succ index ih =>
    have hitem : s.items[index]? = some s.items[index] := List.getElem?_eq_getElem hindex
    rw [lastCommittedNonAppSpecificLoop, hitem, List.take_add_one, hitem, toList_some,
      List.reverse_append, List.reverse_singleton, List.singleton_append, List.find?_cons,
      ih (Nat.le_of_succ_le hindex)]
    show (if (!env.isAppSpecificURL s.items[index].getVirtualURL) = true then _ else _) = _
    cases !env.isAppSpecificURL s.items[index].getVirtualURL <;> rfl

/-- The method finds the last committed web page when the history has no more
items than an `int` counts. -/
theorem getLastCommittedNonAppSpecificItem_eq (hvalid : s.Valid)
    (hcount : s.items.length ≤ intMax) :
    s.getLastCommittedNonAppSpecificItem env = s.lastCommittedWebItem env := by
  obtain ⟨hlow, hhigh⟩ := hvalid.last
  have hindex : s.getLastCommittedItemIndex = s.lastCommittedItemIndex := by
    rw [getLastCommittedItemIndex, getItemCount, wrapInt_of_index (by omega) hcount]
    split
    · next hzero =>
      have hnil : s.items = [] := List.eq_nil_of_length_eq_zero (by omega)
      exact (hvalid.last_eq.2 hnil).symm
    · exact wrapInt_of_index hlow (by omega)
  rw [getLastCommittedNonAppSpecificItem, lastCommittedWebItem]
  simp only [hindex]
  split
  · next hnone =>
    rw [hnone]
    rfl
  · exact lastCommittedNonAppSpecificLoop_eq env s (by omega)

theorem lastCommittedNonAppSpecificLoop_mem {index : Nat} {item : NavigationItemImpl}
    (hitem : s.lastCommittedNonAppSpecificLoop env index = some item) :
    item ∈ s.items ∧ env.isAppSpecificURL item.getVirtualURL = false := by
  induction index with
  | zero => cases hitem
  | succ index ih =>
    rw [lastCommittedNonAppSpecificLoop] at hitem
    split at hitem
    · cases hitem
    · next found hfound =>
      split at hitem
      · next happ =>
        obtain rfl := some.inj hitem
        exact ⟨List.mem_of_getElem? hfound, Bool.not_eq_true' _ ▸ happ⟩
      · exact ih hitem

theorem getLastCommittedNonAppSpecificItem_congr {t : CRWSessionController}
    (hitems : s.items = t.items) (hlast : s.lastCommittedItemIndex = t.lastCommittedItemIndex) :
    s.getLastCommittedNonAppSpecificItem env = t.getLastCommittedNonAppSpecificItem env := by
  have hloop (n : Nat) : s.lastCommittedNonAppSpecificLoop env n =
      t.lastCommittedNonAppSpecificLoop env n := by
    induction n with
    | zero => rfl
    | succ n ih => rw [lastCommittedNonAppSpecificLoop, lastCommittedNonAppSpecificLoop, hitems, ih]
  have hindex : s.getLastCommittedItemIndex = t.getLastCommittedItemIndex := by
    rw [getLastCommittedItemIndex, getLastCommittedItemIndex, getItemCount, getItemCount, hitems,
      hlast]
  rw [getLastCommittedNonAppSpecificItem, getLastCommittedNonAppSpecificItem, hindex, hloop]

/-- However long the history is, what the method finds is a web page. -/
theorem UserAgentTypesMatch.lastNonAppSpecific (h : s.UserAgentTypesMatch env)
    {item : NavigationItemImpl} (hitem : item ∈ s.getLastCommittedNonAppSpecificItem env) :
    item.userAgentType ≠ .none := by
  have hfound : ∃ index, s.lastCommittedNonAppSpecificLoop env index = some item := by
    rw [getLastCommittedNonAppSpecificItem] at hitem
    split at hitem
    · cases hitem
    · exact ⟨_, hitem⟩
  obtain ⟨index, hindex⟩ := hfound
  obtain ⟨hmem, happ⟩ := lastCommittedNonAppSpecificLoop_mem hindex
  intro hnone
  have := (h.items item hmem).2 hnone
  rw [happ] at this
  cases this

end CRWSessionController

namespace NavigationManagerImpl

open Process (plainEnvironment)

variable {env : Environment} {p : Process}

/-! ## One call of `AddPendingItem` -/

/-- The item the session controller makes for a request. -/
def createdItem (env : Environment) (p : Process) (request : PendingItemRequest) :
    NavigationItemImpl :=
  (itemWithURL env p request.url request.referrer request.navigationType
    request.initiationType).item

section

variable (env p) (request : PendingItemRequest)

theorem createdItem_userAgentType : (createdItem env p request).userAgentType =
      if env.isAppSpecificURL (createdItem env p request).url then .none else .mobile :=
  userAgentType_itemWithURL _ _ _ _ _ _

/-- The pending item `AddPendingItem` finds is new, or the new item of an
earlier call. -/
theorem added_pendingItem : (added env p request).session.pendingItem =
      if creates p request then some (createdItem env p request)
      else p.session.ownedPendingItem := by
  rw [added, CRWSessionController.addPendingItem]
  show (if creates p request then _ else _ : Process).session.pendingItem = _
  split <;> rfl

theorem added_pendingItemIndex : (added env p request).session.pendingItemIndex = -1 := by
  rw [added, CRWSessionController.addPendingItem]
  simp only
  split <;> rfl

/-- The history is that of before. -/
theorem added_lastNonAppSpecific :
    (added env p request).session.getLastCommittedNonAppSpecificItem env =
      p.session.getLastCommittedNonAppSpecificItem env := by
  rw [added, CRWSessionController.addPendingItem]
  simp only
  split
  · exact getLastCommittedNonAppSpecificItem_congr rfl rfl
  · exact getLastCommittedNonAppSpecificItem_congr rfl rfl

end

theorem added_matches (h : p.session.UserAgentTypesMatch env) (request : PendingItemRequest) :
    (added env p request).session.UserAgentTypesMatch env := by
  rw [added, CRWSessionController.addPendingItem]
  simp only
  have hcompared : (compared p).UserAgentTypesMatch env :=
    h.discardTransientItem.setPendingItemIndex_neg_one
  split
  · refine ⟨h.items, fun item hitem => ?_, rfl, .inl rfl⟩
    obtain rfl := some.inj hitem
    exact itemWithURL_matches _ _ _ _ _
  · exact hcompared

variable {s : CRWSessionController}

/-- A web page is not given the type of an app-specific one. -/
theorem newUserAgentType_ne_none (h : s.UserAgentTypesMatch env)
    {option : UserAgentOverrideOption} {type : UserAgentType}
    (htype : newUserAgentType env s option = some type) : type ≠ .none := by
  cases option with
  | desktop =>
    obtain rfl := some.inj htype
    decide
  | mobile =>
    obtain rfl := some.inj htype
    decide
  | inherit =>
    rw [newUserAgentType, map_eq_some_iff] at htype
    obtain ⟨last, hlast, rfl⟩ := htype
    exact h.lastNonAppSpecific hlast

/-- Giving the pending item its type keeps the types in order. -/
theorem updatePendingUserAgentType_matches
    (h : s.UserAgentTypesMatch env) (hindex : s.pendingItemIndex = -1)
    (option : UserAgentOverrideOption) :
    (updatePendingUserAgentType env s option).UserAgentTypesMatch env := by
  rw [updatePendingUserAgentType]
  split
  · exact h
  · next item hitem =>
    split
    · exact h
    · next hweb =>
      split
      · exact h
      · next type htype =>
        exact h.setUserAgentType hindex hitem hweb (newUserAgentType_ne_none h htype)

theorem addPendingItem_matches (h : p.session.UserAgentTypesMatch env)
    (request : PendingItemRequest) :
    (addPendingItem env p request).session.UserAgentTypesMatch env :=
  updatePendingUserAgentType_matches (added_matches h request)
    (added_pendingItemIndex env p request) request.userAgentOverrideOption

/-- A pending web page gets the type that is set, or keeps its own. -/
theorem updatePendingUserAgentType_pendingItem
    (hindex : s.pendingItemIndex = -1) {item : NavigationItemImpl}
    (hitem : s.pendingItem = some item) (hweb : item.userAgentType ≠ .none)
    (option : UserAgentOverrideOption) :
    (updatePendingUserAgentType env s option).pendingItem.map (·.userAgentType) =
      some ((newUserAgentType env s option).getD item.userAgentType) := by
  rw [updatePendingUserAgentType, hitem]
  simp only
  rw [if_neg hweb]
  cases newUserAgentType env s option with
  | none =>
    show s.pendingItem.map (·.userAgentType) = some item.userAgentType
    rw [hitem, map_some]
  | some type =>
    show (s.modifyPendingItem (·.setUserAgentType type)).pendingItem.map (·.userAgentType) =
      some type
    rw [pendingItem_modifyPendingItem hindex, hitem]
    rfl

/-- A new web page that inherits its type gets that of the page
`GetLastCommittedNonAppSpecificItem` finds. -/
theorem addPendingItem_inherit {request : PendingItemRequest} (hcreates : creates p request)
    (hoption : request.userAgentOverrideOption = .inherit)
    (hweb : env.isAppSpecificURL (createdItem env p request).url = false) :
    (addPendingItem env p request).session.pendingItem.map (·.userAgentType) =
      some (((p.session.getLastCommittedNonAppSpecificItem env).map (·.userAgentType)).getD
        .mobile) := by
  have htype : (createdItem env p request).userAgentType = .mobile := by
    rw [createdItem_userAgentType, hweb]
    rfl
  have hpending : (added env p request).session.pendingItem = some (createdItem env p request) := by
    rw [added_pendingItem, if_pos hcreates]
  have hweb' : (createdItem env p request).userAgentType ≠ .none := by
    rw [htype]
    decide
  have hlast : newUserAgentType env (added env p request).session .inherit =
      (p.session.getLastCommittedNonAppSpecificItem env).map (·.userAgentType) :=
    by rw [newUserAgentType, added_lastNonAppSpecific]
  show (updatePendingUserAgentType env (added env p request).session
    request.userAgentOverrideOption).pendingItem.map _ = _
  rw [updatePendingUserAgentType_pendingItem (added_pendingItemIndex env p request) hpending hweb',
    hoption, hlast, htype]

/-- **Assertions**: where the types are in order, they all pass exactly when the
type requested differs from that of the item the session controller compares
with, a new item may be given it, and an item that is kept has the type of a
new one. -/
theorem checksPass_iff (h : p.session.UserAgentTypesMatch env) (request : PendingItemRequest) :
    ChecksPass env p request ↔
      (∀ item ∈ (compared p).currentItem,
        ChangesUserAgentType item request.userAgentOverrideOption) ∧
      if creates p request then
        request.userAgentOverrideOption = .inherit ∨
          env.isAppSpecificURL (createdItem env p request).url = false
      else ∀ item ∈ p.session.ownedPendingItem,
        item.userAgentType = .mobile ∨
          item.userAgentType = .none ∧ request.userAgentOverrideOption = .inherit := by
  have hadded := added_matches h request
  have hpending := added_pendingItem env p request
  have hinherited : ∀ last ∈ (added env p request).session.getLastCommittedNonAppSpecificItem env,
      last.userAgentType ≠ .none := fun last hlast => hadded.lastNonAppSpecific hlast
  have hstored : ∀ item ∈ (addPendingItem env p request).session.pendingItem,
      item.UserAgentTypeMatchesURL env := fun item hitem =>
    (addPendingItem_matches h request).pendingItem hitem
  by_cases hcreates : creates p request
  · rw [if_pos hcreates] at hpending ⊢
    have htype := createdItem_userAgentType env p request
    constructor
    · intro hchecks
      refine ⟨hchecks.differs, ?_⟩
      have hoverridable := hchecks.overridable _ hpending
      rw [htype] at hoverridable
      cases happ : env.isAppSpecificURL (createdItem env p request).url with
      | false => exact .inr rfl
      | true =>
        rw [happ] at hoverridable
        exact .inl (hoverridable.resolve_left fun hne => hne rfl)
    · rintro ⟨hdiffers, hnew⟩
      refine ⟨hdiffers, ?_, ?_, fun _ _ _ _ => hinherited, hstored⟩
      · intro item hitem
        obtain rfl := some.inj (hpending.symm.trans hitem)
        rcases hnew with hoption | hweb
        · exact .inr hoption
        · refine .inl ?_
          rw [htype, hweb]
          decide
      · intro item hitem
        obtain rfl := some.inj (hpending.symm.trans hitem)
        rw [htype]
        split <;> decide
  · rw [if_neg hcreates] at hpending ⊢
    constructor
    · intro hchecks
      refine ⟨hchecks.differs, fun item hitem => ?_⟩
      have hoverridable := hchecks.overridable item (hpending.trans hitem)
      have hnotDesktop := hchecks.notDesktop item (hpending.trans hitem)
      cases htype : item.userAgentType with
      | mobile => exact .inl rfl
      | desktop => exact absurd htype hnotDesktop
      | none => exact .inr ⟨rfl, hoverridable.resolve_left fun hne => hne htype⟩
    · rintro ⟨hdiffers, hkept⟩
      refine ⟨hdiffers, fun item hitem => ?_, fun item hitem => ?_, fun _ _ _ _ => hinherited,
        hstored⟩
      · rcases hkept item (hpending.symm.trans hitem) with hmobile | ⟨-, hoption⟩
        · refine .inl ?_
          rw [hmobile]
          decide
        · exact .inr hoption
      · rcases hkept item (hpending.symm.trans hitem) with hmobile | ⟨hnone, -⟩
        · rw [hmobile]
          decide
        · rw [hnone]
          decide

/-- After a permitted call, the type requested is compared with another type
than that of the current item only while a history item is pending. -/
theorem differs_iff (h : p.session.UserAgentTypesMatch env) {request : PendingItemRequest}
    (hpermitted : Permitted env p request) :
    (∀ item ∈ (compared p).currentItem,
        ChangesUserAgentType item request.userAgentOverrideOption) ↔
      p.session.pendingItemIndex = -1 ∨
        ∀ item ∈ p.session.lastCommittedItem,
          ChangesUserAgentType item request.userAgentOverrideOption := by
  rcases hpermitted with hinherit | ⟨-, hcurrent⟩
  · rw [hinherit]
    exact ⟨fun _ => .inr fun _ _ => trivial, fun _ _ _ => trivial⟩
  · by_cases hindex : p.session.pendingItemIndex = -1
    · have hsame : compared p = p.session := by
        rw [compared, setPendingItemIndex, ← hindex,
          discardTransientItem, ← h.transient]
      rw [hsame]
      exact ⟨fun _ => .inl hindex, fun _ => hcurrent⟩
    · -- the controller looks past the history item
      have hlast : (compared p).currentItem = p.session.lastCommittedItem := by
        show (if p.session.ownedPendingItem.isSome then p.session.ownedPendingItem
          else p.session.lastCommittedItem) = _
        rw [h.pending.resolve_left hindex]
        rfl
      rw [hlast]
      exact ⟨.inr, fun hor => hor.resolve_left hindex⟩

/-! ## Runs -/

theorem skeleton_recordStateInHistory (s : CRWSessionController)
    (displayState : Option PageDisplayState) :
    (recordStateInHistory s displayState).skeleton = s.skeleton := by
  cases displayState with
  | none => rfl
  | some state => exact skeleton_modifyCurrentItem fun _ => rfl

theorem skeleton_updatePendingUserAgentType (env : Environment) (s : CRWSessionController)
    (option : UserAgentOverrideOption) :
    (updatePendingUserAgentType env s option).skeleton = s.skeleton := by
  rw [updatePendingUserAgentType]
  split
  · rfl
  · split
    · rfl
    · split
      · rfl
      · exact skeleton_modifyPendingItem fun _ => rfl

/-- The session index invariant is a matter of the skeleton. -/
theorem valid_of_skeleton {s t : CRWSessionController} (hskeleton : s.skeleton = t.skeleton)
    (h : t.Valid) : s.Valid := by
  rw [valid_iff_skeleton] at h ⊢
  rw [hskeleton]
  exact h

theorem goToItemAtIndex_valid (env : Environment) {s : CRWSessionController} (h : s.Valid)
    (index : Int) (displayState : Option PageDisplayState) :
    (goToItemAtIndex env s index displayState).Valid := by
  rw [goToItemAtIndex]
  split
  · exact h
  · next hrange =>
    have hrecorded := valid_of_skeleton (skeleton_recordStateInHistory s displayState) h
    have hlength : (recordStateInHistory s displayState).items.length = s.items.length := by
      have hskeleton := skeleton_recordStateInHistory s displayState
      have hentries := congrArg (fun k => k.entries.length) hskeleton
      simpa [skeleton] using hentries
    have hcount : s.getItemCount ≤ s.items.length := wrapInt_natCast_le s.items.length
    generalize recordStateInHistory s displayState = recorded at hrecorded hlength
    simp only
    split
    · exact apply_valid env (p := ⟨recorded, 0⟩) hrecorded
        (show InBounds _ (.call (.goToItemAtIndex index true)) from trivial)
    · have hdiscarded : recorded.discardNonCommittedItems.Valid :=
        apply_valid env (p := ⟨recorded, 0⟩) hrecorded
          (show InBounds _ (.call .discardNonCommittedItems) from trivial)
      have hcursor : Cursor recorded.discardNonCommittedItems.items.length index := by
        show Cursor recorded.items.length index
        rw [hlength]
        exact ⟨by omega, by omega⟩
      have hpending : (recorded.discardNonCommittedItems.setPendingItemIndex index).Valid :=
        apply_valid env (p := ⟨recorded.discardNonCommittedItems, 0⟩) hdiscarded
          (show InBounds _ (.call (.setPendingItemIndex index)) from hcursor)
      exact valid_of_skeleton (skeleton_modifyPendingItem fun _ => rfl)
        hpending

theorem goToItemAtIndex_matches (h : s.UserAgentTypesMatch env)
    (index : Int) (displayState : Option PageDisplayState) :
    (goToItemAtIndex env s index displayState).UserAgentTypesMatch env := by
  rw [goToItemAtIndex]
  split
  · exact h
  · have hrecorded : (recordStateInHistory s displayState).UserAgentTypesMatch env := by
      cases displayState with
      | none => exact h
      | some state => exact h.modifyCurrentItem fun _ hitem => hitem
    generalize recordStateInHistory s displayState = recorded at hrecorded
    simp only
    split
    · exact hrecorded.goToItemAtIndex index
    · refine UserAgentTypesMatch.modifyPendingItem (fun _ hitem => hitem) ?_
      exact hrecorded.discardNonCommittedItems.setPendingItemIndex rfl index

/-- The session index invariant, and that the user agent types are in order. -/
structure Good (env : Environment) (p : Process) : Prop where
  valid : p.session.Valid
  types : p.session.UserAgentTypesMatch env

theorem call_good (h : Good env p) {c : ManagerCall} (hc : (machine env).Pre p c) :
    Good env (call env p c) := by
  cases c with
  | addPendingItem request =>
    have hadded : (added env p request).session.Valid :=
      apply_valid env h.valid (show p.InBounds (.call (.addPendingItem ..)) from trivial)
    exact ⟨valid_of_skeleton (skeleton_updatePendingUserAgentType env _ _) hadded,
      addPendingItem_matches h.types request⟩
  | commitPendingItem now =>
    have hbounds : p.InBounds (.call (.commitPendingItem now)) := trivial
    exact ⟨apply_valid env h.valid hbounds,
      h.types.commitPendingItem now⟩
  | discardNonCommittedItems =>
    have hbounds : p.InBounds (.call .discardNonCommittedItems) := trivial
    exact ⟨apply_valid env h.valid hbounds,
      h.types.discardNonCommittedItems⟩
  | pushNewItem url stateObject transition now =>
    have hbounds : p.InBounds (.call (.pushNewItem url stateObject transition now)) :=
      InBounds.of_pre (show (machine env).Pre p _ from hc)
    exact ⟨apply_valid env h.valid hbounds, h.types.pushNewItem hc⟩
  | goToIndex index displayState =>
    exact ⟨goToItemAtIndex_valid env h.valid index displayState,
      goToItemAtIndex_matches h.types index displayState⟩

theorem run_good {calls : List ManagerCall} (hcalls : (machine env).Legal new calls) :
    Good env ((machine env).run new calls) := by
  refine Machine.run_invariant (M := machine env) (I := Good env) ?_ ?_ hcalls
  · exact fun p c h hc => call_good h hc
  · exact ⟨valid_new, fun _ hitem => (List.not_mem_nil hitem).elim,
      fun _ hitem => (not_mem_none _ hitem).elim, rfl, .inl rfl⟩

/-- **User agent types**: in every state the calls of a navigation manager
reach, a permitted call of `AddPendingItem` passes all assertions exactly when
the last committed item has another type than the requested one if a history
item is pending, a new item may have the requested type, and a new item that
is kept has not been given a type. A new web page that inherits its type gets
that of the last committed web page. -/
theorem addPendingItem_checks (env : Environment) (calls : List ManagerCall)
    (hcalls : (machine env).Legal new calls) (request : PendingItemRequest) :
    let p := (machine env).run new calls
    let option := request.userAgentOverrideOption
    (Permitted env p request →
      (ChecksPass env p request ↔
        (p.session.pendingItemIndex = -1 ∨
          ∀ item ∈ p.session.lastCommittedItem, ChangesUserAgentType item option) ∧
        if creates p request then
          option = .inherit ∨ env.isAppSpecificURL (createdItem env p request).url = false
        else ∀ item ∈ p.session.ownedPendingItem,
          item.userAgentType = .mobile ∨ item.userAgentType = .none ∧ option = .inherit)) ∧
    (creates p request → option = .inherit →
      env.isAppSpecificURL (createdItem env p request).url = false →
      p.session.items.length ≤ intMax →
      (addPendingItem env p request).session.pendingItem.map (·.userAgentType) =
        some (((p.session.lastCommittedWebItem env).map (·.userAgentType)).getD .mobile)) := by
  intro p option
  have hgood : Good env p := run_good hcalls
  refine ⟨fun hpermitted => ?_, fun hcreates hinherit hweb hcount => ?_⟩
  · rw [checksPass_iff hgood.types, differs_iff hgood.types hpermitted]
  · rw [addPendingItem_inherit hcreates hinherit hweb,
      getLastCommittedNonAppSpecificItem_eq hgood.valid hcount]

/-- A request for a page of `plainEnvironment`. -/
def pageRequest (path : String) (navigationType : PageTransition)
    (userAgentOverrideOption : UserAgentOverrideOption) : PendingItemRequest :=
  ⟨⟨"http://a.com/" ++ path, true⟩, .new, navigationType, .userInitiated, userAgentOverrideOption⟩

/-- Where a page of `plainEnvironment` has been loaded. -/
def loadedPage (userAgentOverrideOption : UserAgentOverrideOption) : Process :=
  (machine plainEnvironment).run new
    [.addPendingItem (pageRequest "1" .typed userAgentOverrideOption), .commitPendingItem 0]

/-- A page is loaded as the desktop version, and the next one inherits that. -/
theorem addPendingItem_checks_next_page :
    ChecksPass plainEnvironment (loadedPage .desktop) (pageRequest "2" .link .inherit) ∧
      (addPendingItem plainEnvironment (loadedPage .desktop)
        (pageRequest "2" .link .inherit)).session.pendingItem.map (·.userAgentType) =
          some .desktop := by
  have hcalls : (machine plainEnvironment).Along (machine plainEnvironment).Pre new
      [.addPendingItem (pageRequest "1" .typed .desktop), .commitPendingItem 0] := by decide
  have h := addPendingItem_checks plainEnvironment _ hcalls (pageRequest "2" .link .inherit)
  rw [show (machine plainEnvironment).run new _ = loadedPage .desktop from rfl] at h
  have hlast : ((((loadedPage .desktop).session.lastCommittedWebItem plainEnvironment).map
      (·.userAgentType)).getD .mobile) = .desktop := by decide
  have hcreates : creates (loadedPage .desktop) (pageRequest "2" .link .inherit) = true := by decide
  have hcount : (loadedPage .desktop).session.items.length ≤ intMax := by decide
  refine ⟨(h.1 (.inl rfl)).2 ⟨.inl (by decide), ?_⟩, ?_⟩
  · rw [if_pos hcreates]
    exact .inl rfl
  · exact (h.2 hcreates rfl rfl hcount).trans (congrArg some hlast)

/-- The desktop version of a page is pending when the page asks for its own URL
again: the pending item is kept, and is taken for a new one. -/
theorem keptDesktopItem_fails_check :
    let reload := pageRequest "1" .reload .desktop
    let again := pageRequest "1" .link .inherit
    let calls : List ManagerCall :=
      [.addPendingItem (pageRequest "1" .typed .inherit), .commitPendingItem 0,
        .addPendingItem reload]
    let p := (machine plainEnvironment).run new calls
    (machine plainEnvironment).Along (machine plainEnvironment).Pre new calls ∧
      Permitted plainEnvironment (loadedPage .inherit) reload ∧
      Permitted plainEnvironment p again ∧ ¬ ChecksPass plainEnvironment p again := by
  have hdesktop : ((added plainEnvironment ((machine plainEnvironment).run new
      [.addPendingItem (pageRequest "1" .typed .inherit), .commitPendingItem 0,
        .addPendingItem (pageRequest "1" .reload .desktop)])
      (pageRequest "1" .link .inherit)).session.pendingItem.map (·.userAgentType)) =
        some .desktop := by decide
  obtain ⟨item, hitem, htype⟩ := map_eq_some_iff.1 hdesktop
  exact ⟨by decide, by decide, by decide, fun hchecks => hchecks.notDesktop item hitem htype⟩

end NavigationManagerImpl

end ChromiumIos
