import ChromiumIos.Lib.Forest
import ChromiumIos.Lib.Keyed
import ChromiumIos.Lib.Machine
import Mathlib.Data.Finset.Lattice.Lemmas

/-!
# `BookmarksSpotlightManager`

`bookmarks_spotlight_manager.mm`, with what it uses of `base_spotlight_manager.mm` and
`spotlight_util.mm`: keeps the Spotlight index of the bookmarks up to date. An item stands for the
bookmarks of one URL and title.

- `BookmarksSpotlightManager`: the manager, with the bookmarks and the index.
- `removeNodeFromIndex`, `refreshNodeInIndex`, `spotlightItemsWithURL`, `clearAndReindexModel`: what
  it does on changes.
- `Right`: the index has the items of the bookmarks.
- `machine`: the changes of the bookmarks, the icons that are found and the answers of Spotlight, in
  any order.
-/

namespace ChromiumIos

open Lib

namespace BookmarksSpotlightManager

/-- A `BookmarkNode` that is a folder. -/
structure Folder (Title : Type) where
  title : Title
  isPermanent : Bool
deriving DecidableEq, Repr

/-- A `BookmarkNode` that is a URL. -/
structure Bookmark (U Title : Type) where
  url : U
  title : Title
deriving DecidableEq, Repr

/-- The nodes below the root of a `BookmarkModel`, or a node of it. -/
abbrev Nodes (U Title : Type) := Forest (Bookmark U Title) (Folder Title)

/-- What an item is found by, `spotlightIDForURL:title:`. IDs do not collide. -/
abbrev SpotlightID (U Title : Type) := U × Title

/-- What is deleted from the index: an item, or the domain of the bookmarks, which may be indexed
again afterwards. -/
inductive Deletion (U Title : Type)
  | item (spotlightID : SpotlightID U Title)
  | domain (reindexes : Bool)
deriving DecidableEq, Repr

/-- An attempt at a deletion that waits for its answer. -/
structure Attempt (U Title : Type) where
  deletion : Deletion U Title
  retryCount : Nat
  failed : Bool
deriving DecidableEq, Repr

/-- A block that is posted to the main queue. -/
inductive Block (U : Type)
  | refresh (url : U)
  | reindex
deriving DecidableEq, Repr

/-- `kMaxInitialIndexSize`. -/
def kMaxInitialIndexSize : Nat := 1000

/-- `kMaxDeletionAttempts`. -/
def kMaxDeletionAttempts : Nat := 5

end BookmarksSpotlightManager

open BookmarksSpotlightManager

/-- `BookmarksSpotlightManager`, with the bookmarks, and the domain of the bookmarks in the index as
it is once the requests that are submitted are applied. They are applied in this order, so a request
is applied here when it is submitted. Whether the attempt at a deletion fails is known only from its
answer. -/
structure BookmarksSpotlightManager (U Title : Type) where
  bookmarkModel : Nodes U Title
  index : Keyed (SpotlightID U Title) (Finset Title)
  keywordsForSpotlightItems : Finset Title
  pendingTasks : List U
  nodesIndexed : Nat
  initialIndexDone : Bool
  /-- Whether the attempt with a number fails. -/
  fails : Nat → Bool
  attempts : Nat
  outstanding : List (Attempt U Title)
  posted : List (Block U)

namespace BookmarksSpotlightManager

variable {U Title : Type} [DecidableEq U] [DecidableEq Title]

variable (s : BookmarksSpotlightManager U Title)

/-- `cancelAllLargeIconPendingTasks`. -/
def cancelAllLargeIconPendingTasks : BookmarksSpotlightManager U Title :=
  { s with pendingTasks := [] }

/-- What a deletion that succeeds leaves of the index. -/
def Deletion.applyTo (index : Keyed (SpotlightID U Title) (Finset Title)) :
    Deletion U Title → Keyed (SpotlightID U Title) (Finset Title)
  | .item spotlightID => index.erase spotlightID
  | .domain _ => .empty

/-- `DoWithRetry`, up to the answer. -/
def doWithRetry (deletion : Deletion U Title)
    (retryCount : Nat) : BookmarksSpotlightManager U Title :=
  let failed := s.fails s.attempts
  { s with
    attempts := s.attempts + 1
    index := if failed then s.index else deletion.applyTo s.index
    outstanding := s.outstanding ++ [⟨deletion, retryCount, failed⟩] }

/-- `DeleteItemsWithIdentifiers`, of one item. -/
def deleteItemWithIdentifier
    (spotlightID : SpotlightID U Title) : BookmarksSpotlightManager U Title :=
  s.doWithRetry (.item spotlightID) kMaxDeletionAttempts

/-- `clearAllSpotlightItems:`, with the callback that indexes the bookmarks again or with none. -/
def clearAllSpotlightItems (reindexes : Bool) : BookmarksSpotlightManager U Title :=
  s.cancelAllLargeIconPendingTasks.doWithRetry (.domain reindexes) kMaxDeletionAttempts

/-- `refreshItemsWithURL:title:`, up to the icon. -/
def refreshItemsWithURL (url : U) : BookmarksSpotlightManager U Title :=
  if url ∈ s.pendingTasks then s else { s with pendingTasks := url :: s.pendingTasks }

/-- `removeNodeFromIndex:`, of every node of a forest. -/
def removeNodesFromIndex (s : BookmarksSpotlightManager U Title) :
    Nodes U Title → BookmarksSpotlightManager U Title
  | .nil => s
  | .leaf node next => (s.deleteItemWithIdentifier (node.url, node.title)).removeNodesFromIndex next
  | .node _ children next => (s.removeNodesFromIndex children).removeNodesFromIndex next

/-- `refreshNodeInIndex:initial:`, of every node of a forest. -/
def refreshNodesInIndex (s : BookmarksSpotlightManager U Title) (initial : Bool) :
    Nodes U Title → BookmarksSpotlightManager U Title
  | .nil => s
  | .leaf node next =>
    let s :=
      if initial ∧ kMaxInitialIndexSize < s.nodesIndexed then s
      else { s with nodesIndexed := s.nodesIndexed + 1 }.refreshItemsWithURL node.url
    s.refreshNodesInIndex initial next
  | .node _ children next =>
    let s :=
      if initial ∧ kMaxInitialIndexSize < s.nodesIndexed then s
      else s.refreshNodesInIndex initial children
    s.refreshNodesInIndex initial next

/-- `GetNodesByURL`, each node with the folders above it. -/
def getNodesByURL (bookmarkModel : Nodes U Title) (url : U) :
    List (Bookmark U Title × List (Folder Title)) :=
  (bookmarkModel.leavesUnder []).filter fun node => node.1.url = url

/-- `getParentKeywordsForNode:inArray:`, for a node with these folders above it. -/
def getParentKeywordsForNode (above : List (Folder Title)) : List Title :=
  (above.filter fun folder => !folder.isPermanent).map Folder.title

/-- `spotlightItemsWithURL:favicon:defaultTitle:`, with the keywords of each item. -/
def spotlightItemsWithURL (url : U) : Keyed (SpotlightID U Title) (Finset Title) :=
  (getNodesByURL s.bookmarkModel url).foldl
    (fun spotlightItems node =>
      let spotlightID := (url, node.1.title)
      let item := (spotlightItems.get? spotlightID).getD s.keywordsForSpotlightItems
      spotlightItems.set spotlightID (item ∪ (getParentKeywordsForNode node.2).toFinset))
    .empty

/-- The icon of a URL is found: `faviconBlock` of `refreshItemsWithURL:title:`. -/
def iconFound (url : U) : BookmarksSpotlightManager U Title :=
  let s := { s with pendingTasks := s.pendingTasks.filter (· ≠ url) }
  { s with index := s.index.addEntries (s.spotlightItemsWithURL url) }

/-- The answer to an attempt at a deletion, and the completion of the deletion. -/
def answered (i : Nat) : BookmarksSpotlightManager U Title :=
  match s.outstanding[i]? with
  | none => s
  | some attempt =>
    let s := { s with outstanding := s.outstanding.eraseIdx i }
    if attempt.failed ∧ 0 < attempt.retryCount then
      s.doWithRetry attempt.deletion (attempt.retryCount - 1)
    else
      match attempt.deletion with
      | .item spotlightID => { s with posted := s.posted ++ [.refresh spotlightID.1] }
      | .domain true => if attempt.failed then s else { s with posted := s.posted ++ [.reindex] }
      | .domain false => s

/-- A posted block runs. -/
def runPosted (i : Nat) : BookmarksSpotlightManager U Title :=
  match s.posted[i]? with
  | none => s
  | some block =>
    let s := { s with posted := s.posted.eraseIdx i }
    match block with
    | .refresh url => s.refreshItemsWithURL url
    | .reindex => { s with nodesIndexed := 0 }.refreshNodesInIndex true s.bookmarkModel

/-- `reindexBookmarksIfNeeded`, with `clearAndReindexModel`. -/
def reindexBookmarksIfNeeded (loaded shouldReindex : Bool) : BookmarksSpotlightManager U Title :=
  if !loaded || s.initialIndexDone then s
  else
    let s := { s with initialIndexDone := true }
    if shouldReindex then s.cancelAllLargeIconPendingTasks.clearAllSpotlightItems true else s

/-! ## The bookmarks change -/

def setModel (bookmarkModel : Nodes U Title) : BookmarksSpotlightManager U Title :=
  { s with bookmarkModel := bookmarkModel }

/-- A node, with what is below it, comes to a place: `BookmarkNodeAdded`. -/
def nodeAdded (place : List Forest.Move)
    (node : Nodes U Title) : BookmarksSpotlightManager U Title :=
  (s.setModel (s.bookmarkModel.alter (node ++ ·) place)).refreshNodesInIndex false node

/-- The node at a place goes: `OnWillRemoveBookmarks`. -/
def nodeRemoved (place : List Forest.Move) : BookmarksSpotlightManager U Title :=
  (s.removeNodesFromIndex (s.bookmarkModel.seek place).head).setModel
    (s.bookmarkModel.alter Forest.tail place)

/-- `SetTitle` and `SetURL`. A folder has no URL. -/
def changeNode (title : Title) (url : Option U) : Nodes U Title → Nodes U Title
  | .nil => .nil
  | .leaf node next => .leaf ⟨url.getD node.url, title⟩ next
  | .node folder children next => .node { folder with title := title } children next

/-- The node at a place gets another title, or another URL: `OnWillChangeBookmarkNode` and
`BookmarkNodeChanged`. -/
def nodeChanged (place : List Forest.Move) (title : Title)
    (url : Option U) : BookmarksSpotlightManager U Title :=
  let node := (s.bookmarkModel.seek place).head
  ((s.removeNodesFromIndex node).setModel
    (s.bookmarkModel.alter (changeNode title url) place)).refreshNodesInIndex false
      (changeNode title url node)

/-- `BookmarkNodeFaviconChanged`. -/
def nodeFaviconChanged (place : List Forest.Move) : BookmarksSpotlightManager U Title :=
  s.refreshNodesInIndex false (s.bookmarkModel.seek place).head

/-- The bookmarks without the node at a place. -/
def without (bookmarkModel : Nodes U Title) (place : List Forest.Move) : Nodes U Title :=
  bookmarkModel.alter Forest.tail place

/-- The node at a place moves to a place of the others: `BookmarkNodeMoved`. -/
def nodeMoved (source destination : List Forest.Move) : BookmarksSpotlightManager U Title :=
  let node := (s.bookmarkModel.seek source).head
  (s.setModel ((without s.bookmarkModel source).alter (node ++ ·) destination)).refreshNodesInIndex
    false node

/-- The permanent folders, without what is not permanent. -/
def permanentNodes : Nodes U Title → Nodes U Title
  | .nil => .nil
  | .leaf _ next => permanentNodes next
  | .node folder children next =>
    if folder.isPermanent then .node folder (permanentNodes children) (permanentNodes next)
    else permanentNodes next

/-- `BookmarkAllUserNodesRemoved`. -/
def allUserNodesRemoved : BookmarksSpotlightManager U Title :=
  (s.setModel (permanentNodes s.bookmarkModel)).clearAllSpotlightItems false

/-! ## Runs -/

inductive Op (U Title : Type)
  | nodeAdded (place : List Forest.Move) (node : Nodes U Title)
  | nodeRemoved (place : List Forest.Move)
  | nodeChanged (place : List Forest.Move) (title : Title) (url : Option U)
  | nodeFaviconChanged (place : List Forest.Move)
  | nodeMoved (source destination : List Forest.Move)
  | allUserNodesRemoved
  | reindexBookmarksIfNeeded (loaded shouldReindex : Bool)
  | iconFound (url : U)
  | answered (i : Nat)
  | runPosted (i : Nat)

def apply : Op U Title → BookmarksSpotlightManager U Title
  | .nodeAdded place node => s.nodeAdded place node
  | .nodeRemoved place => s.nodeRemoved place
  | .nodeChanged place title url => s.nodeChanged place title url
  | .nodeFaviconChanged place => s.nodeFaviconChanged place
  | .nodeMoved source destination => s.nodeMoved source destination
  | .allUserNodesRemoved => s.allUserNodesRemoved
  | .reindexBookmarksIfNeeded loaded shouldReindex =>
    s.reindexBookmarksIfNeeded loaded shouldReindex
  | .iconFound url => s.iconFound url
  | .answered i => s.answered i
  | .runPosted i => s.runPosted i

/-- A node moves to a place that there is, an icon is found that was asked for, a deletion succeeds
within its retries, and at most `kMaxInitialIndexSize` bookmarks are indexed again. -/
def Pre : Op U Title → Prop
  | .nodeMoved source destination =>
    (without s.bookmarkModel source).hasPlace destination = true
  | .iconFound url => url ∈ s.pendingTasks
  | .answered i => ∀ attempt ∈ s.outstanding[i]?, attempt.failed = true → 0 < attempt.retryCount
  | .runPosted i => s.posted[i]? = some .reindex →
    s.bookmarkModel.leaves.length ≤ kMaxInitialIndexSize
  | .nodeAdded _ _ | .nodeRemoved _ | .nodeChanged _ _ _ | .nodeFaviconChanged _
  | .allUserNodesRemoved | .reindexBookmarksIfNeeded _ _ => True

instance : ∀ op, Decidable (s.Pre op)
  | .nodeMoved _ _ => decEq _ _
  | .iconFound _ => inferInstanceAs (Decidable (_ ∈ _))
  | .answered i => inferInstanceAs (Decidable (∀ attempt ∈ s.outstanding[i]?, _ → _))
  | .runPosted _ => instDecidableForall
  | .nodeAdded _ _ | .nodeRemoved _ | .nodeChanged _ _ _ | .nodeFaviconChanged _
  | .allUserNodesRemoved | .reindexBookmarksIfNeeded _ _ => instDecidableTrue

abbrev machine (U Title : Type) [DecidableEq U] [DecidableEq Title] :
    Machine (BookmarksSpotlightManager U Title) (Op U Title) where
  Pre := Pre
  step := apply

/-! ## What the index is for -/

/-- The item stands for the node. -/
def standsFor (spotlightID : SpotlightID U Title)
    (node : Bookmark U Title × List (Folder Title)) : Bool :=
  (node.1.url, node.1.title) = spotlightID

/-- The keywords of the item that there is to be under an ID: the titles of the folders, permanent
ones apart, above the bookmarks it stands for. There is one if it stands for a bookmark. -/
def expected (bookmarkModel : Nodes U Title) (keywords : Finset Title)
    (spotlightID : SpotlightID U Title) : Option (Finset Title) :=
  let nodes := (bookmarkModel.leavesUnder []).filter (standsFor spotlightID)
  if nodes.isEmpty then none
  else some (keywords ∪ (nodes.flatMap fun node => getParentKeywordsForNode node.2).toFinset)

/-- The index has the items of the bookmarks, and no others. -/
def Right : Prop :=
  ∀ spotlightID, s.index.get? spotlightID =
    expected s.bookmarkModel s.keywordsForSpotlightItems spotlightID

/-- No icon, answer or block is waited for. -/
def Quiescent : Prop :=
  s.pendingTasks = [] ∧ s.outstanding = [] ∧ s.posted = []

end BookmarksSpotlightManager

end ChromiumIos
