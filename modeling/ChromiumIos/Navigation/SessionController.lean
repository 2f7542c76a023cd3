import ChromiumIos.Lib.Cursor
import ChromiumIos.Lib.Machine
import ChromiumIos.Navigation.NavigationItemImpl
import ChromiumIos.Navigation.TimeSmoother

/-!
# `CRWSessionController`

`crw_session_controller.mm`: the history of one tab. A vector of committed
items, three indices into it, and two items that are not in it: the pending
item of a new navigation and the transient one.

- A pending navigation has two representations: the owned item `_pendingItem`
  for a new one, `pendingItemIndex` for one within the history.
- The back pointer to the navigation manager carries its transient URL
  rewriters and the calls it makes on its delegate.
- `Process` adds the counter of unique IDs, which all sessions share.
-/

namespace ChromiumIos

open Lib

/-- `BrowserURLRewriter::URLRewriter`: may change the URL, and tells whether it
did. -/
abbrev URLRewriter := GURL → Bool × GURL

/-- What the session controller asks of the rest of the process. -/
structure Environment where
  /-- The rewriters of `BrowserURLRewriter::GetInstance()`. -/
  urlRewriters : List URLRewriter
  /-- `WebClient::IsAppSpecificURL`. -/
  isAppSpecificURL : GURL → Bool
  /-- `GURL::GetOrigin`. -/
  getOrigin : GURL → GURL
  /-- `GURL::has_ref`. -/
  hasRef : GURL → Bool
  /-- `GURL::EqualsIgnoringRef`. -/
  equalsIgnoringRef : GURL → GURL → Bool

/-- `web::LoadCommittedDetails`. -/
structure LoadCommittedDetails where
  item : Option NavigationItemImpl
  previousItemIndex : Int
  previousUrl : GURL
  isInPage : Bool
deriving DecidableEq, Repr

/-- The calls `NavigationManagerImpl` makes on its delegate for a session. -/
inductive DelegateCall
  | onNavigationItemsPruned (prunedItemCount : Nat)
  | onNavigationItemChanged
  | onNavigationItemCommitted (details : LoadCommittedDetails)
deriving DecidableEq, Repr

/-- The part of `NavigationManagerImpl` its session controller uses. -/
structure NavigationManager where
  transientUrlRewriters : Option (List URLRewriter)
  delegateCalls : List DelegateCall

/-- `CRWSessionController`; `ownedPendingItem` and `ownedTransientItem` are the
fields `_pendingItem` and `_transientItem`. -/
structure CRWSessionController where
  navigationManager : Option NavigationManager
  lastCommittedItemIndex : Int
  previousItemIndex : Int
  pendingItemIndex : Int
  timeSmoother : TimeSmoother
  items : List NavigationItemImpl
  ownedPendingItem : Option NavigationItemImpl
  ownedTransientItem : Option NavigationItemImpl

/-- A session controller with the process-wide counter of unique IDs. -/
structure Process where
  session : CRWSessionController
  uniqueIdCounter : Int

/-- `RewriteURLWithWriters`: the first rewriter that rewrites ends the loop;
one that declines may still have changed the URL. -/
def rewriteURLWithWriters : List URLRewriter → GURL → Bool × GURL
  | [], url => (false, url)
  | rewriter :: rewriters, url =>
    let (rewritten, url') := rewriter url
    if rewritten then (true, url') else rewriteURLWithWriters rewriters url'

variable (env : Environment)

/-- `IsHistoryStateChangeValid`, with `none` where one of its `CHECK`s stops
the process. -/
def isHistoryStateChangeValid (currentUrl toUrl : GURL) : Option Bool :=
  if currentUrl.isValid && toUrl.isValid then
    some ((env.getOrigin toUrl).eq (env.getOrigin currentUrl))
  else none

/-- `AreURLsInPageNavigation`. -/
def areURLsInPageNavigation (existingUrl newUrl : GURL) : Bool :=
  if existingUrl.eq newUrl || !env.hasRef newUrl then false
  else env.equalsIgnoringRef existingUrl newUrl

namespace CRWSessionController

/-- `initWithBrowserState:`. -/
def initWithBrowserState : CRWSessionController where
  navigationManager := none
  lastCommittedItemIndex := -1
  previousItemIndex := -1
  pendingItemIndex := -1
  timeSmoother := .new
  items := []
  ownedPendingItem := none
  ownedTransientItem := none

/-! ## Accessors -/

section Accessors

variable (s : CRWSessionController)

def pendingItem : Option NavigationItemImpl :=
  if s.pendingItemIndex = -1 then s.ownedPendingItem else nth? s.items s.pendingItemIndex

def transientItem : Option NavigationItemImpl := s.ownedTransientItem

def lastCommittedItem : Option NavigationItemImpl :=
  if s.lastCommittedItemIndex = -1 then none else nth? s.items s.lastCommittedItemIndex

def previousItem : Option NavigationItemImpl :=
  if s.previousItemIndex = -1 ∨ s.items = [] then none else nth? s.items s.previousItemIndex

def currentItem : Option NavigationItemImpl :=
  if s.transientItem.isSome then s.transientItem
  else if s.pendingItem.isSome then s.pendingItem
  else s.lastCommittedItem

def canPruneAllButLastCommittedItem : Bool :=
  s.lastCommittedItemIndex != -1 && s.pendingItemIndex == -1 && s.transientItem.isNone

/-- `isRedirectTransitionForItemAtIndex:`. -/
def isRedirectTransitionForItemAtIndex (index : Nat) : Bool :=
  s.items[index]?.any (·.transitionType.isRedirect)

/-- The loop of `backwardItems`, downwards from `index`. -/
def backwardItemsLoop : (index : Nat) → List Nat
  | 0 => []
  | index + 1 =>
    if s.isRedirectTransitionForItemAtIndex (index + 1) then backwardItemsLoop index
    else index :: backwardItemsLoop index

/-- `backwardItems`. A pointer to a committed item is its position in the
vector. -/
def backwardItems : List Nat :=
  if s.lastCommittedItemIndex > -1 then
    let last := s.lastCommittedItemIndex.toNat
    if s.transientItem.isSome then last :: s.backwardItemsLoop last else s.backwardItemsLoop last
  else []

/-- The loop of `forwardItems`, over the items from `index` on. -/
def forwardItemsLoop : List NavigationItemImpl → (index : Nat) → List Nat
  | [], _ => []
  | item :: rest, index =>
    if item.transitionType.isRedirect then forwardItemsLoop rest (index + 1)
    else index :: forwardItemsLoop rest (index + 1)

/-- `forwardItems`, as positions in the vector. -/
def forwardItems : List Nat :=
  let first := (s.lastCommittedItemIndex + 1).toNat
  forwardItemsLoop (s.items.drop first) first

end Accessors

/-! ## Setters, and items written through a pointer -/

section Setters

variable (s : CRWSessionController)

/-- `setLastCommittedItemIndex:` drops the transient URL rewriters when the
index changes. -/
def setLastCommittedItemIndex (lastCommittedItemIndex : Int) : CRWSessionController :=
  if s.lastCommittedItemIndex ≠ lastCommittedItemIndex then
    { s with
      lastCommittedItemIndex
      navigationManager := s.navigationManager.map fun manager =>
        { manager with transientUrlRewriters := none } }
  else s

/-- `setPendingItemIndex:`. -/
def setPendingItemIndex (pendingItemIndex : Int) : CRWSessionController :=
  { s with pendingItemIndex }

/-- `setNavigationManager:`. -/
def setNavigationManager (navigationManager : Option NavigationManager) : CRWSessionController :=
  { s with navigationManager }

/-- Overwrites the item at an index of the vector. -/
def modifyItemAt (index : Int) (f : NavigationItemImpl → NavigationItemImpl) :
    CRWSessionController :=
  { s with items := s.items.modify index.toNat f }

/-- Overwrites the item `self.pendingItem` points to. -/
def modifyPendingItem (f : NavigationItemImpl → NavigationItemImpl) : CRWSessionController :=
  if s.pendingItemIndex = -1 then { s with ownedPendingItem := s.ownedPendingItem.map f }
  else s.modifyItemAt s.pendingItemIndex f

/-- Overwrites the item `self.currentItem` points to. -/
def modifyCurrentItem (f : NavigationItemImpl → NavigationItemImpl) : CRWSessionController :=
  if s.transientItem.isSome then { s with ownedTransientItem := s.ownedTransientItem.map f }
  else if s.pendingItem.isSome then s.modifyPendingItem f
  else if s.lastCommittedItemIndex = -1 then s
  else s.modifyItemAt s.lastCommittedItemIndex f

/-- A call of the navigation manager on its delegate. -/
def notify (call : DelegateCall) : CRWSessionController :=
  { s with navigationManager := s.navigationManager.map fun manager =>
    { manager with delegateCalls := manager.delegateCalls ++ [call] } }

/-- `NavigationManagerImpl::OnNavigationItemCommitted`. -/
def onNavigationItemCommitted (env : Environment) : CRWSessionController :=
  let previousUrl :=
    if s.previousItemIndex ≥ 0 then (s.previousItem.map (·.url)).getD .new else .new
  let isInPage :=
    if s.previousItemIndex ≥ 0 then
      areURLsInPageNavigation env previousUrl ((s.lastCommittedItem.map (·.url)).getD .new)
    else false
  s.notify (.onNavigationItemCommitted
    ⟨s.lastCommittedItem, s.previousItemIndex, previousUrl, isInPage⟩)

end Setters

/-! ## Creating items -/

/-- An item made by `itemWithURL:`, and what making it changed. -/
structure Created where
  item : NavigationItemImpl
  session : CRWSessionController
  uniqueIdCounter : Int

/-- `itemWithURL:referrer:transition:initiationType:`. The transient URL
rewriters are taken from the navigation manager, not copied. -/
def itemWithURL (p : Process) (url : GURL) (referrer : Referrer)
    (transition : PageTransition) (initiationType : NavigationInitiationType) : Created :=
  let s := p.session
  let transientRewriters := s.navigationManager.bind (·.transientUrlRewriters)
  let session := { s with navigationManager := s.navigationManager.map fun manager =>
    { manager with transientUrlRewriters := none } }
  let (urlWasRewritten, rewrittenUrl) :=
    match transientRewriters with
    | some rewriters => rewriteURLWithWriters rewriters url
    | none => (false, url)
  let loadedUrl :=
    if urlWasRewritten then rewrittenUrl else (rewriteURLWithWriters env.urlRewriters rewrittenUrl).2
  let loadedUrl :=
    -- a renderer may not turn a web URL into an app-specific one
    if initiationType = .rendererInitiated ∧ loadedUrl.eq url = false ∧
        env.isAppSpecificURL loadedUrl = true then
      let lastCommittedURLIsAppSpecific :=
        s.lastCommittedItem.any fun item => env.isAppSpecificURL item.url
      if !lastCommittedURLIsAppSpecific then url else loadedUrl
    else loadedUrl
  let uniqueId := NavigationItemImpl.getUniqueIDInConstructor p.uniqueIdCounter
  let item := NavigationItemImpl.new uniqueId
  { item := { item with
      originalRequestUrl := loadedUrl
      url := loadedUrl
      referrer
      transitionType := transition
      navigationInitiationType := initiationType
      userAgentType :=
        if env.isAppSpecificURL loadedUrl then .none else item.userAgentType }
    session
    uniqueIdCounter := uniqueId }

/-! ## Methods -/

variable (s : CRWSessionController)

/-- `discardTransientItem`. -/
def discardTransientItem : CRWSessionController :=
  { s with ownedTransientItem := none }

/-- `discardNonCommittedItems`. -/
def discardNonCommittedItems : CRWSessionController :=
  { s.discardTransientItem with ownedPendingItem := none }.setPendingItemIndex (-1)

/-- `shouldCreatePendingItemWithURL:transition:userAgentOverrideOption:`. -/
def shouldCreatePendingItem (url : GURL)
    (transition : PageTransition) (userAgentOverrideOption : UserAgentOverrideOption) : Bool :=
  match s.currentItem with
  | none => true
  | some currentItem =>
    if !currentItem.url.eq url then true
    else
      let isPendingTransitionFormSubmit := transition.coreTypeIs .formSubmit
      let isCurrentTransitionFormSubmit := currentItem.transitionType.coreTypeIs .formSubmit
      if isPendingTransitionFormSubmit && !isCurrentTransitionFormSubmit then true
      else
        let isPendingTransitionReload := transition.coreTypeIs .reload
        let isInheritingUserAgentType := userAgentOverrideOption == .inherit
        isPendingTransitionReload && !isInheritingUserAgentType

/-- `addPendingItem:referrer:transition:initiationType:userAgentOverrideOption:`. -/
def addPendingItem (p : Process) (url : GURL) (referrer : Referrer)
    (transition : PageTransition) (initiationType : NavigationInitiationType)
    (userAgentOverrideOption : UserAgentOverrideOption) : Process :=
  let s := p.session.discardTransientItem.setPendingItemIndex (-1)
  if s.shouldCreatePendingItem url transition userAgentOverrideOption then
    let created := itemWithURL env { p with session := s } url referrer transition initiationType
    { session := { created.session with ownedPendingItem := some created.item }
      uniqueIdCounter := created.uniqueIdCounter }
  else { p with session := s }

/-- `updatePendingItem:`. A new URL is taken for a redirect: the request becomes
a `GET`. -/
def updatePendingItem (url : GURL) : CRWSessionController :=
  match s.pendingItem with
  | none => s
  | some item =>
    if !url.eq item.url then
      s.discardTransientItem.modifyPendingItem fun item =>
        { (item.setURL url).setVirtualURL url with
          postData := none
          httpRequestHeaders := none }
    else s

/-- `clearForwardItems`. -/
def clearForwardItems : CRWSessionController :=
  let s := s.discardTransientItem
  let forwardItemStartIndex := s.lastCommittedItemIndex + 1
  let itemCount := s.items.length
  if forwardItemStartIndex ≥ itemCount then s
  else
    let previousItemIndex :=
      if s.previousItemIndex ≥ forwardItemStartIndex then -1 else s.previousItemIndex
    let pruned := { s with
      previousItemIndex
      items := s.items.take forwardItemStartIndex.toNat }
    pruned.notify (.onNavigationItemsPruned (itemCount - forwardItemStartIndex.toNat))

/-- The body of `commitPendingItem` that runs when there is a pending item.
Only a new item moves out of `_pendingItem`. -/
def commitItem : CRWSessionController :=
  let s := s.modifyPendingItem (·.resetForCommit)
  let appended :=
    if s.pendingItemIndex = -1 then
      let cleared := s.clearForwardItems
      { cleared with items := cleared.items ++ s.ownedPendingItem.toList, ownedPendingItem := none }
    else s
  let newItemIndex : Int :=
    if s.pendingItemIndex = -1 then appended.items.length - 1 else s.pendingItemIndex
  (({ appended with previousItemIndex := appended.lastCommittedItemIndex }).setLastCommittedItemIndex
    newItemIndex).setPendingItemIndex (-1)

/-- `commitPendingItem`, at the time `now`. -/
def commitPendingItem (now : Time) : CRWSessionController :=
  let s := if s.pendingItem.isSome then s.commitItem else s
  if s.currentItem.isSome then
    let (time, timeSmoother) := s.timeSmoother.getSmoothedTime now
    let stamped := { s with timeSmoother }.modifyCurrentItem fun item =>
      { item with timestamp := time }
    stamped.onNavigationItemCommitted env
  else s

/-- `addTransientItemWithURL:`. -/
def addTransientItem (p : Process) (url : GURL) (now : Time) : Process :=
  let created := itemWithURL env p url .new .clientRedirect .userInitiated
  let (time, timeSmoother) := created.session.timeSmoother.getSmoothedTime now
  { session := { created.session with
      timeSmoother
      ownedTransientItem := some { created.item with timestamp := time } }
    uniqueIdCounter := created.uniqueIdCounter }

/-- `pushNewItemWithURL:stateObject:transition:`; the `DCHECK`s ask that there
is a last committed item. -/
def pushNewItem (p : Process) (url : GURL) (stateObject : Option String16)
    (transition : PageTransition) (now : Time) : Process :=
  match p.session.lastCommittedItem with
  | none => p
  | some lastCommittedItem =>
    let referrer : Referrer := ⟨lastCommittedItem.url, .default⟩
    let created := itemWithURL env p url referrer transition .userInitiated
    let (time, timeSmoother) := created.session.timeSmoother.getSmoothedTime now
    let pushedItem := { created.item with
      userAgentType := lastCommittedItem.userAgentType
      serializedStateObject := stateObject
      isCreatedFromPushState := true
      ssl := lastCommittedItem.ssl
      timestamp := time }
    let cleared := { created.session with timeSmoother }.clearForwardItems
    let items := cleared.items ++ [pushedItem]
    let pushed := { cleared with
      items
      previousItemIndex := cleared.lastCommittedItemIndex }
    { session := (pushed.setLastCommittedItemIndex (items.length - 1)).onNavigationItemCommitted env
      uniqueIdCounter := created.uniqueIdCounter }

/-- `updateCurrentItemWithURL:stateObject:`. -/
def updateCurrentItem (url : GURL) (stateObject : Option String16) : CRWSessionController :=
  let updated := s.modifyCurrentItem fun item =>
    { item.setURL url with
      serializedStateObject := stateObject
      hasStateBeenReplaced := true
      postData := none }
  -- the current item is the pending one when there is no transient one
  if s.pendingItem.isSome ∧ s.transientItem.isNone then updated
  else updated.notify .onNavigationItemChanged

/-- `copyStateFromSessionControllerAndPrune:`. -/
def copyStateFromSessionControllerAndPrune (s source : CRWSessionController) :
    CRWSessionController :=
  if !s.canPruneAllButLastCommittedItem then s
  else if source.items.isEmpty then s
  else if source.lastCommittedItem.isNone then s
  else
    let copies := (source.items.take (source.lastCommittedItemIndex.toNat + 1)).map (·.copy)
    let mergedItems := copies ++ (nth? s.items s.lastCommittedItemIndex).toList
    { s with
      items := mergedItems
      previousItemIndex := -1
      lastCommittedItemIndex := mergedItems.length - 1 }

/-- `goToItemAtIndex:discardNonCommittedItems:`. -/
def goToItemAtIndex (index : Int) (discard : Bool) : CRWSessionController :=
  if index < 0 ∨ index ≥ s.items.length then s
  else if index = s.lastCommittedItemIndex then s
  else
    let s :=
      if discard then
        if index < s.lastCommittedItemIndex then s.discardNonCommittedItems
        else s.discardTransientItem
      else s
    { s with
      previousItemIndex := s.lastCommittedItemIndex
      lastCommittedItemIndex := index }

/-- `removeItemAtIndex:`. -/
def removeItemAtIndex (index : Int) : CRWSessionController :=
  let s := s.discardNonCommittedItems
  let removed := { s with
    items := s.items.eraseIdx index.toNat
    lastCommittedItemIndex :=
      if s.lastCommittedItemIndex > index then s.lastCommittedItemIndex - 1
      else s.lastCommittedItemIndex
    previousItemIndex :=
      if s.previousItemIndex ≥ index then s.previousItemIndex - 1 else s.previousItemIndex }
  removed.notify (.onNavigationItemsPruned 1)

end CRWSessionController

/-! ## The machine -/

/-- A call of a method that involves one session. -/
inductive Call
  | addPendingItem (url : GURL) (referrer : Referrer) (transition : PageTransition)
      (initiationType : NavigationInitiationType)
      (userAgentOverrideOption : UserAgentOverrideOption)
  | setPendingItemIndex (index : Int)
  | updatePendingItem (url : GURL)
  | commitPendingItem (now : Time)
  | addTransientItem (url : GURL) (now : Time)
  | pushNewItem (url : GURL) (stateObject : Option String16) (transition : PageTransition)
      (now : Time)
  | updateCurrentItem (url : GURL) (stateObject : Option String16)
  | discardNonCommittedItems
  | goToItemAtIndex (index : Int) (discard : Bool)
  | removeItemAtIndex (index : Int)
  | setNavigationManager (navigationManager : Option NavigationManager)

/-- A call of any method; copying involves the state of a second session. -/
inductive Op
  | call (c : Call)
  | copyStateFromSessionControllerAndPrune (source : CRWSessionController)

namespace Process

open CRWSessionController (itemWithURL addPendingItem addTransientItem pushNewItem)

def new : Process := ⟨.initWithBrowserState, 0⟩

variable (p : Process)

def call : Call → Process
  | .addPendingItem url referrer transition initiationType userAgentOverrideOption =>
    addPendingItem env p url referrer transition initiationType userAgentOverrideOption
  | .setPendingItemIndex index => { p with session := p.session.setPendingItemIndex index }
  | .updatePendingItem url => { p with session := p.session.updatePendingItem url }
  | .commitPendingItem now => { p with session := p.session.commitPendingItem env now }
  | .addTransientItem url now => addTransientItem env p url now
  | .pushNewItem url stateObject transition now => pushNewItem env p url stateObject transition now
  | .updateCurrentItem url stateObject =>
    { p with session := p.session.updateCurrentItem url stateObject }
  | .discardNonCommittedItems => { p with session := p.session.discardNonCommittedItems }
  | .goToItemAtIndex index discard =>
    { p with session := p.session.goToItemAtIndex index discard }
  | .removeItemAtIndex index => { p with session := p.session.removeItemAtIndex index }
  | .setNavigationManager navigationManager =>
    { p with session := p.session.setNavigationManager navigationManager }

def apply : Op → Process
  | .call c => p.call env c
  | .copyStateFromSessionControllerAndPrune source =>
    { p with session := p.session.copyStateFromSessionControllerAndPrune source }

/-- The user agent type of the current item differs from the one a new pending
item is to be loaded with. -/
def ChangesUserAgentType (currentItem : NavigationItemImpl) :
    UserAgentOverrideOption → Prop
  | .desktop => currentItem.userAgentType ≠ .desktop
  | .mobile => currentItem.userAgentType ≠ .mobile
  | .inherit => True

instance (currentItem : NavigationItemImpl) :
    ∀ option, Decidable (ChangesUserAgentType currentItem option)
  | .desktop | .mobile => instDecidableNot
  | .inherit => instDecidableTrue

/-- What `pushNewItem` asks of the last committed item: the new URL has its
origin, and `SetUserAgentType` accepts its user agent type. -/
def AllowsPush (url : GURL) (transition : PageTransition)
    (lastCommittedItem : NavigationItemImpl) : Prop :=
  isHistoryStateChangeValid env lastCommittedItem.url url = some true ∧
    env.isAppSpecificURL (itemWithURL env p url ⟨lastCommittedItem.url, .default⟩ transition
      .userInitiated).item.getVirtualURL = (lastCommittedItem.userAgentType == .none)

instance (url : GURL) (transition : PageTransition) (lastCommittedItem : NavigationItemImpl) :
    Decidable (AllowsPush env p url transition lastCommittedItem) :=
  instDecidableAnd

/-- What the `DCHECK`s and `CHECK`s of a method ask of a call. -/
def Checked : Call → Prop
  | .addPendingItem _ _ _ _ option =>
    ∀ item ∈ (p.session.discardTransientItem.setPendingItemIndex (-1)).currentItem,
      ChangesUserAgentType item option
  | .setPendingItemIndex index => Cursor p.session.items.length index
  | .pushNewItem url _ transition _ =>
    p.session.pendingItem.isNone ∧
      ∃ item ∈ p.session.lastCommittedItem, AllowsPush env p url transition item
  | .updateCurrentItem _ _ => p.session.transientItem.isNone ∧ p.session.currentItem.isSome
  | .removeItemAtIndex index =>
    InRange p.session.items.length index ∧ index ≠ p.session.lastCommittedItemIndex
  | _ => True

instance decidableChecked :
    ∀ c : Call, Decidable (p.Checked env c)
  | .addPendingItem _ _ _ _ option =>
    inferInstanceAs (Decidable (∀ item ∈
      (p.session.discardTransientItem.setPendingItemIndex (-1)).currentItem,
      ChangesUserAgentType item option))
  | .setPendingItemIndex index => inferInstanceAs (Decidable (Cursor _ index))
  | .pushNewItem _ _ _ _ | .updateCurrentItem _ _ | .removeItemAtIndex _ => instDecidableAnd
  | .updatePendingItem .. | .commitPendingItem .. | .addTransientItem ..
  | .discardNonCommittedItems | .goToItemAtIndex .. | .setNavigationManager .. =>
    instDecidableTrue

end Process

end ChromiumIos
