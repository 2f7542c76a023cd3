import ChromiumIos.Lib.Cursor
import ChromiumIos.Spotlight.BookmarksSpotlightManager

/-!
# The index converges to the bookmarks

What is wrong with the index is about to be repaired: an item that is missing or old belongs to a
URL that is going to be refreshed (`Repairing`), and one that should not be there to a deletion that
is going to be tried again (`Deleting`). Every step keeps this, except for one: the deletion of the
domain after all user nodes were removed is tried again without anything to follow it, and takes the
items of bookmarks that were added meanwhile with it.

- `Inv`: the invariant. `Inv.change` and `Inv.doWithRetry` are the rules that the steps use.
- `right_of_quiescent`: in the runs without that step, the index is right at rest.
-/

namespace ChromiumIos

open Lib List

namespace BookmarksSpotlightManager

variable {U Title : Type} {s : BookmarksSpotlightManager U Title}

/-! ## Refreshes -/

/-- The URLs of nodes are pending afterwards, up to the limit of the initial indexing, and nothing
else changes. -/
structure Refreshed (initial : Bool) (nodes : List (Bookmark U Title))
    (s s' : BookmarksSpotlightManager U Title) : Prop where
  same : s' = { s with pendingTasks := s'.pendingTasks, nodesIndexed := s'.nodesIndexed }
  kept : ∀ url ∈ s.pendingTasks, url ∈ s'.pendingTasks
  pending : (initial = true → s.nodesIndexed + nodes.length ≤ kMaxInitialIndexSize) →
    s'.nodesIndexed = s.nodesIndexed + nodes.length ∧ ∀ node ∈ nodes, node.url ∈ s'.pendingTasks

theorem Refreshed.refl (initial : Bool) (s : BookmarksSpotlightManager U Title) :
    Refreshed initial [] s s where
  same := rfl
  kept _ h := h
  pending _ := ⟨rfl, nofun⟩

theorem Refreshed.trans {initial : Bool} {nodes others : List (Bookmark U Title)}
    {s t r : BookmarksSpotlightManager U Title} (h : Refreshed initial nodes s t)
    (h' : Refreshed initial others t r) : Refreshed initial (nodes ++ others) s r where
  same := by
    rw [h'.same, h.same]
  kept url hurl := h'.kept url (h.kept url hurl)
  pending hlimit := by
    rw [length_append] at hlimit ⊢
    obtain ⟨hcount, hnodes⟩ := h.pending fun hinitial => by
      have := hlimit hinitial
      omega
    obtain ⟨hcount', hothers⟩ := h'.pending fun hinitial => by
      have := hlimit hinitial
      omega
    refine ⟨by omega, fun node hnode => ?_⟩
    rcases mem_append.1 hnode with hnode | hnode
    · exact h'.kept _ (hnodes node hnode)
    · exact hothers node hnode

/-- Nothing is refreshed over the limit. -/
theorem Refreshed.limited {initial : Bool} {nodes : List (Bookmark U Title)}
    (hlimit : initial = true ∧ kMaxInitialIndexSize < s.nodesIndexed) :
    Refreshed initial nodes s s where
  same := rfl
  kept _ h := h
  pending hbound := by
    have := hbound hlimit.1
    omega

variable [DecidableEq U]

theorem Refreshed.item (initial : Bool) (s : BookmarksSpotlightManager U Title)
    (node : Bookmark U Title) : Refreshed initial [node] s
      ({ s with nodesIndexed := s.nodesIndexed + 1 }.refreshItemsWithURL node.url) := by
  unfold refreshItemsWithURL
  split
  case isTrue hpending =>
    exact
      { same := rfl
        kept := fun _ h => h
        pending := fun _ => ⟨rfl, fun _ hnode => mem_singleton.1 hnode ▸ hpending⟩ }
  case isFalse =>
    exact
      { same := rfl
        kept := fun _ h => mem_cons_of_mem _ h
        pending := fun _ => ⟨rfl, fun _ hnode => mem_singleton.1 hnode ▸ mem_cons_self⟩ }

theorem refreshNodesInIndex_refreshed (s : BookmarksSpotlightManager U Title) (initial : Bool)
    (nodes : Nodes U Title) :
    Refreshed initial nodes.leaves s (s.refreshNodesInIndex initial nodes) := by
  induction nodes generalizing s with
  | nil => exact Refreshed.refl initial s
  | leaf node next ih =>
    rw [refreshNodesInIndex]
    split
    case isTrue hlimit =>
      have hlimited : Refreshed initial [node] s s := .limited hlimit
      exact hlimited.trans (ih s)
    case isFalse => exact (Refreshed.item initial s node).trans (ih _)
  | node folder children next ihChildren ih =>
    rw [refreshNodesInIndex]
    split
    case isTrue hlimit => exact (Refreshed.limited hlimit).trans (ih s)
    case isFalse => exact (ihChildren s).trans (ih _)

/-! ## Items and bookmarks -/

variable [DecidableEq Title]

/-- The items of the nodes of a URL, on top of those of other nodes. -/
theorem get?_foldl_items (keywords : Finset Title) (url : U)
    (nodes : List (Bookmark U Title × List (Folder Title)))
    (items : Keyed (SpotlightID U Title) (Finset Title)) (spotlightID : SpotlightID U Title) :
    (nodes.foldl
      (fun spotlightItems node =>
        let spotlightID := (url, node.1.title)
        let item := (spotlightItems.get? spotlightID).getD keywords
        spotlightItems.set spotlightID (item ∪ (getParentKeywordsForNode node.2).toFinset))
      items).get? spotlightID =
    let own := nodes.filter fun node => (url, node.1.title) = spotlightID
    if own.isEmpty then items.get? spotlightID
    else some ((items.get? spotlightID).getD keywords ∪
      (own.flatMap fun node => getParentKeywordsForNode node.2).toFinset) := by
  induction nodes generalizing items with
  | nil => rfl
  | cons node nodes ih =>
    rw [foldl_cons, ih]
    dsimp only
    rw [Keyed.get?_set]
    by_cases hown : (url, node.1.title) = spotlightID
    · -- the item of this node is there when the others come
      subst hown
      rw [if_pos rfl, filter_cons_of_pos (by simp)]
      cases hrest : nodes.filter fun other => (url, other.1.title) = (url, node.1.title) with
      | nil => simp
      | cons other rest => simp [toFinset_append, Finset.union_assoc]
    · rw [if_neg (Ne.symm hown), filter_cons_of_neg (by simpa using hown)]

theorem get?_spotlightItemsWithURL (s : BookmarksSpotlightManager U Title) (url : U)
    (spotlightID : SpotlightID U Title) :
    (s.spotlightItemsWithURL url).get? spotlightID =
      if spotlightID.1 = url then
        expected s.bookmarkModel s.keywordsForSpotlightItems spotlightID
      else none := by
  rw [spotlightItemsWithURL, get?_foldl_items, getNodesByURL, filter_filter]
  by_cases hurl : spotlightID.1 = url
  · have hsame : (fun node : Bookmark U Title × List (Folder Title) =>
        decide ((url, node.1.title) = spotlightID) && decide (node.1.url = url)) =
        standsFor spotlightID := by
      funext node
      rw [standsFor, ← hurl, Bool.eq_iff_iff]
      simp [Prod.ext_iff, and_comm]
    rw [hsame, if_pos hurl]
    rfl
  · have hnone : (s.bookmarkModel.leavesUnder []).filter (fun node =>
        decide ((url, node.1.title) = spotlightID) && decide (node.1.url = url)) = [] := by
      rw [filter_eq_nil_iff]
      intro node _ htrue
      simp only [Bool.and_eq_true, decide_eq_true_eq] at htrue
      exact hurl (congrArg Prod.fst htrue.1).symm
    simp [hnone, hurl]

variable {bookmarkModel : Nodes U Title} {keywords : Finset Title}
  {spotlightID : SpotlightID U Title}

theorem expected_eq_none_iff : expected bookmarkModel keywords spotlightID = none ↔
      ∀ node ∈ bookmarkModel.leaves, (node.url, node.title) ≠ spotlightID := by
  have hnone : expected bookmarkModel keywords spotlightID = none ↔
      (bookmarkModel.leavesUnder []).filter (standsFor spotlightID) = [] := by
    unfold expected
    cases (bookmarkModel.leavesUnder []).filter (standsFor spotlightID) <;> simp
  rw [hnone, filter_eq_nil_iff, ← bookmarkModel.map_fst_leavesUnder [], forall_mem_map]
  simp [standsFor]

/-- A change of the bookmarks that keeps the nodes that an item stands for. -/
theorem expected_alter {f : Nodes U Title → Nodes U Title} {place : List Forest.Move}
    {spotlightID : SpotlightID U Title}
    (hf : ∀ above, ((f (bookmarkModel.seek place)).leavesUnder above).filter
      (standsFor spotlightID) =
        ((bookmarkModel.seek place).leavesUnder above).filter (standsFor spotlightID)) :
    expected (bookmarkModel.alter f place) keywords spotlightID =
      expected bookmarkModel keywords spotlightID := by
  unfold expected
  rw [Forest.filter_leavesUnder_alter hf]

/-- The item stands for no node of another URL. -/
theorem filter_standsFor_eq_nil {nodes : Nodes U Title} {spotlightID : SpotlightID U Title}
    (hurl : ∀ node ∈ nodes.leaves, node.url ≠ spotlightID.1) (above : List (Folder Title)) :
    (nodes.leavesUnder above).filter (standsFor spotlightID) = [] := by
  rw [filter_eq_nil_iff]
  intro node hnode hstands
  have hleaf : node.1 ∈ nodes.leaves := by
    rw [← nodes.map_fst_leavesUnder above]
    exact mem_map_of_mem hnode
  refine hurl node.1 hleaf ?_
  rw [← of_decide_eq_true hstands]

/-! ## The invariant -/

/-- The answer to the deletion leads to a refresh of the URL. -/
def Deletion.Refreshes (url : U) : Deletion U Title → Prop
  | .item spotlightID => spotlightID.1 = url
  | .domain reindexes => reindexes = true

/-- The deletion takes the item out of the index. -/
def Deletion.Deletes (spotlightID : SpotlightID U Title) : Deletion U Title → Prop
  | .item other => other = spotlightID
  | .domain _ => True

def Block.Refreshes (url : U) : Block U → Prop
  | .refresh other => other = url
  | .reindex => True

instance (url : U) : ∀ deletion : Deletion U Title, Decidable (deletion.Refreshes url)
  | .item _ | .domain _ => decEq _ _

instance (url : U) : ∀ block : Block U, Decidable (block.Refreshes url)
  | .refresh _ => decEq _ _
  | .reindex => instDecidableTrue

/-- The items of the URL are going to be indexed again. -/
def Repairing (s : BookmarksSpotlightManager U Title) (url : U) : Prop :=
  url ∈ s.pendingTasks ∨ (∃ attempt ∈ s.outstanding, attempt.deletion.Refreshes url) ∨
    ∃ block ∈ s.posted, block.Refreshes url

instance (s : BookmarksSpotlightManager U Title) (url : U) : Decidable (s.Repairing url) :=
  instDecidableOr

/-- A deletion of the item has failed and is going to be tried again. -/
def Deleting (s : BookmarksSpotlightManager U Title) (spotlightID : SpotlightID U Title) : Prop :=
  ∃ attempt ∈ s.outstanding, attempt.failed = true ∧ attempt.deletion.Deletes spotlightID

/-- The item is not in the index, or is going to be deleted. -/
def Gone (s : BookmarksSpotlightManager U Title) (spotlightID : SpotlightID U Title) : Prop :=
  s.index.get? spotlightID = none ∨ s.Deleting spotlightID

/-- The item that there is to be. -/
def wanted (s : BookmarksSpotlightManager U Title) (spotlightID : SpotlightID U Title) :
    Option (Finset Title) :=
  expected s.bookmarkModel s.keywordsForSpotlightItems spotlightID

/-- Each item that is wanted is there or is repaired, and the others are gone. -/
structure Inv (s : BookmarksSpotlightManager U Title) : Prop where
  present : ∀ spotlightID, s.wanted spotlightID ≠ none →
    s.index.get? spotlightID = s.wanted spotlightID ∨ s.Repairing spotlightID.1
  absent : ∀ spotlightID, s.wanted spotlightID = none → s.Gone spotlightID

/-- An index that is right, and nothing that is waited for. -/
theorem Inv.of_right (h : s.Right) : s.Inv where
  present spotlightID _ := .inl (h spotlightID)
  absent spotlightID hnone := .inl ((h spotlightID).trans hnone)

theorem Inv.right (h : s.Inv) (hquiescent : s.Quiescent) : s.Right := by
  obtain ⟨hpending, houtstanding, hposted⟩ := hquiescent
  intro spotlightID
  by_cases hwanted : s.wanted spotlightID = none
  · rcases h.absent spotlightID hwanted with hnone | ⟨attempt, hmem, -⟩
    · exact hnone.trans hwanted.symm
    · rw [houtstanding] at hmem
      exact absurd hmem not_mem_nil
  · rcases h.present spotlightID hwanted with hpresent | hmem | ⟨attempt, hmem, -⟩ |
      ⟨block, hmem, -⟩
    · exact hpresent
    · rw [hpending] at hmem
      exact absurd hmem not_mem_nil
    · rw [houtstanding] at hmem
      exact absurd hmem not_mem_nil
    · rw [hposted] at hmem
      exact absurd hmem not_mem_nil

variable {s' : BookmarksSpotlightManager U Title}

/-- The rule for what leaves the index as it is: what is newly wanted is repaired, and what is not
wanted any more is gone. -/
theorem Inv.change (h : s.Inv) (hindex : s'.index = s.index)
    (hrepair : ∀ spotlightID, s'.wanted spotlightID ≠ none → s.Repairing spotlightID.1 →
      s'.Repairing spotlightID.1)
    (hdelete : ∀ spotlightID, s.Deleting spotlightID → s'.Deleting spotlightID)
    (hpresent : ∀ spotlightID, s'.wanted spotlightID ≠ none →
      s'.wanted spotlightID = s.wanted spotlightID ∨ s'.Repairing spotlightID.1)
    (habsent : ∀ spotlightID, s'.wanted spotlightID = none →
      s.wanted spotlightID = none ∨ s.Gone spotlightID) : s'.Inv where
  present spotlightID hwanted := by
    rcases hpresent spotlightID hwanted with heq | hrepairing
    · have hrepair' := hrepair spotlightID hwanted
      rw [heq] at hwanted ⊢
      rw [hindex]
      exact (h.present spotlightID hwanted).imp_right hrepair'
    · exact .inr hrepairing
  absent spotlightID hwanted := by
    have hgone : s.Gone spotlightID :=
      (habsent spotlightID hwanted).elim (h.absent spotlightID) id
    unfold Gone
    rw [hindex]
    exact hgone.imp_right (hdelete _)

/-! ## Deletions -/

theorem Deletion.get?_applyTo (index : Keyed (SpotlightID U Title) (Finset Title))
    {deletion : Deletion U Title} {spotlightID : SpotlightID U Title}
    (h : deletion.Deletes spotlightID) : (deletion.applyTo index).get? spotlightID = none := by
  cases deletion with
  | item other => rw [Deletion.applyTo, Keyed.get?_erase, if_pos (Eq.symm h)]
  | domain _ => rfl

theorem Deletion.get?_applyTo_of_not (index : Keyed (SpotlightID U Title) (Finset Title))
    {deletion : Deletion U Title} {spotlightID : SpotlightID U Title}
    (h : ¬deletion.Deletes spotlightID) :
    (deletion.applyTo index).get? spotlightID = index.get? spotlightID := by
  cases deletion with
  | item other => rw [Deletion.applyTo, Keyed.get?_erase, if_neg (Ne.symm h)]
  | domain _ => exact absurd trivial h

/-- What a deletion deletes is gone, or is going to be deleted. -/
theorem gone_doWithRetry (s : BookmarksSpotlightManager U Title) {deletion : Deletion U Title}
    (retryCount : Nat) {spotlightID : SpotlightID U Title} (h : deletion.Deletes spotlightID) :
    (s.doWithRetry deletion retryCount).Gone spotlightID := by
  cases hfailed : s.fails s.attempts with
  | true =>
    exact .inr ⟨⟨deletion, retryCount, s.fails s.attempts⟩,
      mem_append_right _ mem_cons_self, hfailed, h⟩
  | false =>
    refine .inl ?_
    simp only [doWithRetry, hfailed, Bool.false_eq_true, if_false]
    exact Deletion.get?_applyTo _ h

/-- What is gone stays so when something is deleted. -/
theorem Gone.doWithRetry (h : s.Gone spotlightID) (deletion : Deletion U Title) (retryCount : Nat) :
    (s.doWithRetry deletion retryCount).Gone spotlightID := by
  by_cases hdeletes : deletion.Deletes spotlightID
  · exact gone_doWithRetry s retryCount hdeletes
  · rcases h with hnone | ⟨attempt, hmem, hattempt⟩
    · refine .inl ?_
      simp only [BookmarksSpotlightManager.doWithRetry]
      split
      · exact hnone
      · rw [Deletion.get?_applyTo_of_not _ hdeletes]
        exact hnone
    · exact .inr ⟨attempt, mem_append_left _ hmem, hattempt⟩

theorem Repairing.doWithRetry {url : U} (h : s.Repairing url) (deletion : Deletion U Title)
    (retryCount : Nat) : (s.doWithRetry deletion retryCount).Repairing url := by
  rcases h with hpending | ⟨attempt, hmem, hrefreshes⟩ | hposted
  · exact .inl hpending
  · exact .inr (.inl ⟨attempt, mem_append_left _ hmem, hrefreshes⟩)
  · exact .inr (.inr hposted)

theorem repairing_doWithRetry (s : BookmarksSpotlightManager U Title) {deletion : Deletion U Title}
    (retryCount : Nat) {url : U} (h : deletion.Refreshes url) :
    (s.doWithRetry deletion retryCount).Repairing url :=
  .inr (.inl ⟨⟨deletion, retryCount, s.fails s.attempts⟩,
    mem_append_right _ mem_cons_self, h⟩)

/-- The rule for deletions. Before the deletion, `t` may have lost what the deletion makes up for:
failed deletions of what it deletes, and repairs of what it refreshes. What is wanted and deleted is
repaired. -/
theorem Inv.doWithRetry {t : BookmarksSpotlightManager U Title} (h : s.Inv)
    (deletion : Deletion U Title) (retryCount : Nat) (hwanted : t.wanted = s.wanted)
    (hindex : t.index = s.index)
    (hdelete : ∀ spotlightID, s.Deleting spotlightID →
      t.Deleting spotlightID ∨ deletion.Deletes spotlightID)
    (hrepair : ∀ url, s.Repairing url → t.Repairing url ∨ deletion.Refreshes url)
    (hdeleted : ∀ spotlightID, deletion.Deletes spotlightID → t.wanted spotlightID ≠ none →
      t.Repairing spotlightID.1 ∨ deletion.Refreshes spotlightID.1) :
    (t.doWithRetry deletion retryCount).Inv where
  present spotlightID hsome := by
    have hsome' : t.wanted spotlightID ≠ none := hsome
    by_cases hdeletes : deletion.Deletes spotlightID
    · exact .inr ((hdeleted spotlightID hdeletes hsome').elim
        (fun hrepairing => hrepairing.doWithRetry deletion retryCount)
        (repairing_doWithRetry t retryCount))
    · have hsame : (t.doWithRetry deletion retryCount).index.get? spotlightID =
          s.index.get? spotlightID := by
        simp only [BookmarksSpotlightManager.doWithRetry]
        split
        · rw [hindex]
        · rw [Deletion.get?_applyTo_of_not _ hdeletes, hindex]
      rw [hwanted] at hsome'
      have hwanted' : (t.doWithRetry deletion retryCount).wanted spotlightID =
          s.wanted spotlightID := congrFun hwanted spotlightID
      rw [hsame, hwanted']
      refine (h.present spotlightID hsome').imp_right fun hrepairing => ?_
      exact (hrepair _ hrepairing).elim
        (fun hrepairing => hrepairing.doWithRetry deletion retryCount)
        (repairing_doWithRetry t retryCount)
  absent spotlightID hnone := by
    by_cases hdeletes : deletion.Deletes spotlightID
    · exact gone_doWithRetry t retryCount hdeletes
    · have hgone : t.Gone spotlightID := by
        have hnone' : s.wanted spotlightID = none := by
          rw [← hwanted]
          exact hnone
        rcases h.absent spotlightID hnone' with hindex' | hdeleting
        · exact .inl (hindex ▸ hindex')
        · exact .inr ((hdelete spotlightID hdeleting).resolve_right hdeletes)
      exact hgone.doWithRetry deletion retryCount

/-- The items of nodes are deleted, and their URLs are going to be refreshed. -/
structure Removed (nodes : List (Bookmark U Title)) (s s' : BookmarksSpotlightManager U Title) :
    Prop where
  bookmarkModel : s'.bookmarkModel = s.bookmarkModel
  keywords : s'.keywordsForSpotlightItems = s.keywordsForSpotlightItems
  inv : s.Inv → s'.Inv
  keptRepairing : ∀ url, s.Repairing url → s'.Repairing url
  keptGone : ∀ spotlightID, s.Gone spotlightID → s'.Gone spotlightID
  repairing : ∀ node ∈ nodes, s'.Repairing node.url
  gone : ∀ node ∈ nodes, s'.Gone (node.url, node.title)

theorem Removed.refl (s : BookmarksSpotlightManager U Title) : Removed [] s s where
  bookmarkModel := rfl
  keywords := rfl
  inv h := h
  keptRepairing _ h := h
  keptGone _ h := h
  repairing := nofun
  gone := nofun

theorem Removed.trans {nodes others : List (Bookmark U Title)}
    {s t r : BookmarksSpotlightManager U Title} (h : Removed nodes s t) (h' : Removed others t r) :
    Removed (nodes ++ others) s r where
  bookmarkModel := h'.bookmarkModel.trans h.bookmarkModel
  keywords := h'.keywords.trans h.keywords
  inv hinv := h'.inv (h.inv hinv)
  keptRepairing url hurl := h'.keptRepairing url (h.keptRepairing url hurl)
  keptGone spotlightID hgone := h'.keptGone spotlightID (h.keptGone spotlightID hgone)
  repairing node hnode := by
    rcases mem_append.1 hnode with hnode | hnode
    · exact h'.keptRepairing _ (h.repairing node hnode)
    · exact h'.repairing node hnode
  gone node hnode := by
    rcases mem_append.1 hnode with hnode | hnode
    · exact h'.keptGone _ (h.gone node hnode)
    · exact h'.gone node hnode

theorem Removed.item (s : BookmarksSpotlightManager U Title) (node : Bookmark U Title) :
    Removed [node] s (s.deleteItemWithIdentifier (node.url, node.title)) where
  bookmarkModel := rfl
  keywords := rfl
  inv h := h.doWithRetry (.item (node.url, node.title)) kMaxDeletionAttempts rfl rfl
    (fun _ => .inl) (fun _ => .inl) fun _ hdeletes _ => .inr (congrArg Prod.fst hdeletes)
  keptRepairing _ h := h.doWithRetry _ _
  keptGone _ h := h.doWithRetry _ _
  repairing other hother := by
    rw [mem_singleton.1 hother]
    exact repairing_doWithRetry s _ rfl
  gone other hother := by
    rw [mem_singleton.1 hother]
    exact gone_doWithRetry s _ rfl

theorem removeNodesFromIndex_removed (s : BookmarksSpotlightManager U Title)
    (nodes : Nodes U Title) : Removed nodes.leaves s (s.removeNodesFromIndex nodes) := by
  induction nodes generalizing s with
  | nil => exact Removed.refl s
  | leaf node next ih => exact (Removed.item s node).trans (ih _)
  | node folder children next ihChildren ih => exact (ihChildren s).trans (ih _)

/-! ## The bookmarks change -/

/-- A change of the bookmarks, with a refresh of nodes: what is newly wanted is among these or is
repaired already, and what is not wanted any more is gone already. -/
theorem Inv.setModel {bookmarkModel : Nodes U Title} {nodes : List (Bookmark U Title)} (h : s.Inv)
    (hrefreshed : Refreshed false nodes (s.setModel bookmarkModel) s')
    (hpresent : ∀ spotlightID : SpotlightID U Title, (∀ node ∈ nodes, node.url ≠ spotlightID.1) →
      expected bookmarkModel s.keywordsForSpotlightItems spotlightID = s.wanted spotlightID ∨
        s.Repairing spotlightID.1)
    (habsent : ∀ spotlightID,
      expected bookmarkModel s.keywordsForSpotlightItems spotlightID = none →
        s.wanted spotlightID = none ∨ s.Gone spotlightID) : s'.Inv := by
  have hkept : ∀ url, s.Repairing url → s'.Repairing url := by
    rw [hrefreshed.same]
    intro url hrepairing
    exact hrepairing.imp_left (hrefreshed.kept url)
  have hpending := (hrefreshed.pending fun hinitial => absurd hinitial Bool.false_ne_true).2
  have hwanted : s'.wanted = expected bookmarkModel s.keywordsForSpotlightItems := by
    unfold wanted
    rw [hrefreshed.same]
    rfl
  refine h.change (by rw [hrefreshed.same]; rfl) (fun _ _ => hkept _) ?_ ?_ ?_
  · intro spotlightID hdeleting
    rw [hrefreshed.same]
    exact hdeleting
  · intro spotlightID _
    by_cases hurl : ∃ node ∈ nodes, node.url = spotlightID.1
    · obtain ⟨node, hnode, hurl⟩ := hurl
      exact .inr (.inl (hurl ▸ hpending node hnode))
    · rw [hwanted]
      refine (hpresent spotlightID fun node hnode heq => hurl ⟨node, hnode, heq⟩).imp_right
        (hkept _)
  · rw [hwanted]
    exact habsent

theorem expected_insert {bookmarkModel node : Nodes U Title} {keywords : Finset Title}
    {spotlightID : SpotlightID U Title} (hurl : ∀ leaf ∈ node.leaves, leaf.url ≠ spotlightID.1)
    (place : List Forest.Move) : expected (bookmarkModel.alter (node ++ ·) place) keywords
      spotlightID = expected bookmarkModel keywords spotlightID :=
  expected_alter fun above => by
    rw [Forest.leavesUnder_append, filter_append, filter_standsFor_eq_nil hurl,
      nil_append]

theorem expected_without {place : List Forest.Move}
    (hurl : ∀ leaf ∈ (bookmarkModel.seek place).head.leaves, leaf.url ≠ spotlightID.1) :
    expected (without bookmarkModel place) keywords spotlightID =
      expected bookmarkModel keywords spotlightID :=
  expected_alter fun above => by
    conv_rhs => rw [← (bookmarkModel.seek place).head_append_tail]
    rw [Forest.leavesUnder_append, filter_append, filter_standsFor_eq_nil hurl,
      nil_append]

/-- What is wanted stays so where its nodes stay. -/
theorem expected_eq_none_of_subset {bookmarkModel other : Nodes U Title} {keywords : Finset Title}
    {spotlightID : SpotlightID U Title} (hnone : expected other keywords spotlightID = none)
    (hsubset : ∀ node ∈ bookmarkModel.leaves, (node.url, node.title) = spotlightID →
      node ∈ other.leaves) : expected bookmarkModel keywords spotlightID = none := by
  rw [expected_eq_none_iff] at hnone ⊢
  intro node hnode heq
  exact hnone node (hsubset node hnode heq) heq

theorem Inv.nodeAdded (h : s.Inv) (place : List Forest.Move) (node : Nodes U Title) :
    (s.nodeAdded place node).Inv := by
  refine h.setModel (refreshNodesInIndex_refreshed _ false node) ?_ ?_
  · intro spotlightID hurl
    exact .inl (expected_insert hurl place)
  · intro spotlightID hnone
    refine .inl (expected_eq_none_of_subset hnone fun leaf hleaf _ => ?_)
    refine Forest.mem_leaves_alter_of_mem (fun hplace => ?_) hleaf
    rw [Forest.leaves_append]
    exact mem_append_right _ hplace

/-- Once the items of a node are deleted, other nodes may stand in its place. -/
theorem Inv.replaced (h : s.Inv) {place : List Forest.Move} {f : Nodes U Title → Nodes U Title}
    {nodes : List (Bookmark U Title)} {s' : BookmarksSpotlightManager U Title}
    (hrefreshed : Refreshed false nodes
      ((s.removeNodesFromIndex (s.bookmarkModel.seek place).head).setModel
        (s.bookmarkModel.alter f place)) s')
    (hpresent : ∀ {keywords} {spotlightID : SpotlightID U Title},
      (∀ node ∈ nodes, node.url ≠ spotlightID.1) →
      (∀ node ∈ (s.bookmarkModel.seek place).head.leaves, node.url ≠ spotlightID.1) →
        expected (s.bookmarkModel.alter f place) keywords spotlightID =
          expected s.bookmarkModel keywords spotlightID)
    (hkept : ∀ node ∈ (s.bookmarkModel.seek place).tail.leaves,
      node ∈ (f (s.bookmarkModel.seek place)).leaves) : s'.Inv := by
  have hremoved := removeNodesFromIndex_removed s (s.bookmarkModel.seek place).head
  refine (hremoved.inv h).setModel hrefreshed ?_ ?_
  · intro spotlightID hnew
    unfold wanted
    rw [hremoved.bookmarkModel]
    by_cases hurl : ∃ node ∈ (s.bookmarkModel.seek place).head.leaves, node.url = spotlightID.1
    · obtain ⟨node, hnode, hurl⟩ := hurl
      exact .inr (hurl ▸ hremoved.repairing node hnode)
    · exact .inl (hpresent hnew fun node hnode heq => hurl ⟨node, hnode, heq⟩)
  · intro spotlightID hnone
    unfold wanted
    rw [hremoved.bookmarkModel]
    by_cases hitem : ∃ node ∈ (s.bookmarkModel.seek place).head.leaves,
        (node.url, node.title) = spotlightID
    · obtain ⟨node, hnode, hitem⟩ := hitem
      exact .inr (hitem ▸ hremoved.gone node hnode)
    · refine .inl (expected_eq_none_of_subset hnone fun node hnode heq => ?_)
      refine Forest.mem_leaves_alter_of_mem (fun hplace => hkept node ?_) hnode
      exact Forest.mem_leaves_tail hplace fun hhead => hitem ⟨node, hhead, heq⟩

theorem Inv.nodeRemoved (h : s.Inv) (place : List Forest.Move) : (s.nodeRemoved place).Inv :=
  h.replaced (Refreshed.refl false _) (fun _ => expected_without) fun _ => id

omit [DecidableEq U] [DecidableEq Title] in
theorem changeNode_eq (title : Title) (url : Option U) (nodes : Nodes U Title) :
    changeNode title url nodes = changeNode title url nodes.head ++ nodes.tail := by
  cases nodes <;> rfl

/-- A node that changes goes and comes again. -/
theorem Inv.nodeChanged (h : s.Inv) (place : List Forest.Move) (title : Title) (url : Option U) :
    (s.nodeChanged place title url).Inv := by
  refine h.replaced (refreshNodesInIndex_refreshed _ false _) ?_ ?_
  · intro keywords spotlightID hchanged hurl
    refine expected_alter fun above => ?_
    rw [changeNode_eq, Forest.leavesUnder_append, filter_append, filter_standsFor_eq_nil hchanged]
    conv_rhs => rw [← (s.bookmarkModel.seek place).head_append_tail]
    rw [Forest.leavesUnder_append, filter_append, filter_standsFor_eq_nil hurl]
  · intro node hnode
    rw [changeNode_eq, Forest.leaves_append]
    exact mem_append_right _ hnode

theorem Inv.nodeFaviconChanged (h : s.Inv) (place : List Forest.Move) :
    (s.nodeFaviconChanged place).Inv :=
  h.setModel (refreshNodesInIndex_refreshed s false _) (fun _ _ => .inl rfl) fun _ => .inl

/-- A node that moves keeps its items, whose keywords change. -/
theorem Inv.nodeMoved (h : s.Inv) {source destination : List Forest.Move}
    (hplace : (without s.bookmarkModel source).hasPlace destination = true) :
    (s.nodeMoved source destination).Inv := by
  refine h.setModel (refreshNodesInIndex_refreshed _ false _) ?_ ?_
  · intro spotlightID hurl
    exact .inl ((expected_insert hurl destination).trans (expected_without hurl))
  · intro spotlightID hnone
    refine .inl (expected_eq_none_of_subset hnone fun leaf hleaf _ => ?_)
    by_cases hhead : leaf ∈ (s.bookmarkModel.seek source).head.leaves
    · refine Forest.mem_leaves_alter_of_hasPlace hplace ?_
      rw [Forest.leaves_append]
      exact mem_append_left _ hhead
    · have hwithout : leaf ∈ (without s.bookmarkModel source).leaves :=
        Forest.mem_leaves_alter_of_mem (fun hsource => Forest.mem_leaves_tail hsource hhead) hleaf
      refine Forest.mem_leaves_alter_of_mem (fun hdestination => ?_) hwithout
      rw [Forest.leaves_append]
      exact mem_append_right _ hdestination

omit [DecidableEq U] [DecidableEq Title] in
theorem leaves_permanentNodes (nodes : Nodes U Title) : (permanentNodes nodes).leaves = [] := by
  induction nodes with
  | nil => rfl
  | leaf node next ih => exact ih
  | node folder children next ihChildren ih =>
    rw [permanentNodes]
    split
    · rw [Forest.leaves, ihChildren, ih]
      rfl
    · exact ih

/-- Nothing is wanted, and everything is deleted. -/
theorem allUserNodesRemoved_inv (s : BookmarksSpotlightManager U Title) :
    s.allUserNodesRemoved.Inv where
  present spotlightID hwanted := by
    refine absurd (expected_eq_none_iff.2 ?_) hwanted
    intro node hnode
    change node ∈ (permanentNodes s.bookmarkModel).leaves at hnode
    rw [leaves_permanentNodes] at hnode
    exact absurd hnode not_mem_nil
  absent spotlightID _ := gone_doWithRetry _ kMaxDeletionAttempts trivial

/-! ## Answers, icons and blocks -/

/-- Everything is deleted, and is going to be indexed again. -/
theorem Inv.reindexBookmarksIfNeeded (h : s.Inv) (loaded shouldReindex : Bool) :
    (s.reindexBookmarksIfNeeded loaded shouldReindex).Inv := by
  unfold BookmarksSpotlightManager.reindexBookmarksIfNeeded
  split
  · exact h
  · split
    · exact h.doWithRetry (.domain true) kMaxDeletionAttempts rfl rfl (fun _ _ => .inr trivial)
        (fun _ _ => .inr rfl) fun _ _ _ => .inr rfl
    · exact ⟨h.present, h.absent⟩

/-- The items of the URL are as they are wanted once its icon is found. -/
theorem Inv.iconFound (h : s.Inv) (url : U) : (s.iconFound url).Inv where
  present spotlightID hwanted := by
    have hget : (s.iconFound url).index.get? spotlightID =
        ((if spotlightID.1 = url then s.wanted spotlightID else none).or
          (s.index.get? spotlightID)) :=
      (Keyed.get?_addEntries _ _ _).trans
        (congrArg (·.or (s.index.get? spotlightID)) (get?_spotlightItemsWithURL _ url spotlightID))
    rw [hget]
    by_cases hurl : spotlightID.1 = url
    · obtain ⟨keywords, hkeywords⟩ := Option.ne_none_iff_exists'.1 hwanted
      have hkeywords' : s.wanted spotlightID = some keywords := hkeywords
      rw [if_pos hurl, hkeywords', hkeywords]
      exact .inl rfl
    · rw [if_neg hurl, Option.none_or]
      refine (h.present spotlightID hwanted).imp_right fun hrepairing => ?_
      refine hrepairing.imp_left fun hpending => ?_
      exact mem_filter.2 ⟨hpending, by simpa using hurl⟩
  absent spotlightID hnone := by
    have hnone' : s.wanted spotlightID = none := hnone
    have hget : (s.iconFound url).index.get? spotlightID = s.index.get? spotlightID := by
      refine (Keyed.get?_addEntries _ _ _).trans ?_
      rw [get?_spotlightItemsWithURL]
      change Option.or (if spotlightID.1 = url then s.wanted spotlightID else none) _ = _
      rw [hnone', ite_self, Option.none_or]
    unfold Gone
    rw [hget]
    exact h.absent spotlightID hnone'

/-- A failed deletion that is not this attempt is tried again all the same. -/
theorem Deleting.of_answered {i : Nat} {attempt : Attempt U Title}
    {spotlightID : SpotlightID U Title} (h : s.Deleting spotlightID)
    (hattempt : s.outstanding[i]? = some attempt) :
    Deleting { s with outstanding := s.outstanding.eraseIdx i } spotlightID ∨
      attempt.failed = true ∧ attempt.deletion.Deletes spotlightID := by
  obtain ⟨other, hother, hdeletes⟩ := h
  by_cases heq : other = attempt
  · exact .inr (heq ▸ hdeletes)
  · refine .inl ⟨other, mem_eraseIdx_of_ne hother ?_, hdeletes⟩
    rw [hattempt]
    exact fun hsome => heq (Option.some.inj hsome).symm

/-- A repair that does not come from this attempt stays. -/
theorem Repairing.of_answered {i : Nat} {attempt : Attempt U Title} {url : U}
    (h : s.Repairing url) (hattempt : s.outstanding[i]? = some attempt) :
    Repairing { s with outstanding := s.outstanding.eraseIdx i } url ∨
      attempt.deletion.Refreshes url := by
  rcases h with hpending | ⟨other, hother, hrefreshes⟩ | hposted
  · exact .inl (.inl hpending)
  · by_cases heq : other = attempt
    · exact .inr (heq ▸ hrefreshes)
    · refine .inl (.inr (.inl ⟨other, mem_eraseIdx_of_ne hother ?_, hrefreshes⟩))
      rw [hattempt]
      exact fun hsome => heq (Option.some.inj hsome).symm
  · exact .inl (.inr (.inr hposted))

/-- A deletion that succeeded is complete once the block is posted that refreshes what it says. -/
theorem Inv.completed (h : s.Inv) {i : Nat} {attempt : Attempt U Title}
    (hattempt : s.outstanding[i]? = some attempt) (hfailed : attempt.failed = false)
    (blocks : List (Block U)) (hblocks : ∀ url, attempt.deletion.Refreshes url →
      ∃ block ∈ blocks, block.Refreshes url) :
    Inv { s with outstanding := s.outstanding.eraseIdx i, posted := s.posted ++ blocks } := by
  refine h.change rfl ?_ ?_ (fun _ _ => .inl rfl) fun _ => .inl
  · intro spotlightID _ hrepairing
    rcases hrepairing.of_answered hattempt with hkept | hrefreshes
    · refine hkept.imp_right fun hkept => hkept.imp_right fun ⟨block, hmem, hblock⟩ => ?_
      exact ⟨block, mem_append_left _ hmem, hblock⟩
    · obtain ⟨block, hmem, hblock⟩ := hblocks _ hrefreshes
      exact .inr (.inr ⟨block, mem_append_right _ hmem, hblock⟩)
  · intro spotlightID hdeleting
    refine (hdeleting.of_answered hattempt).resolve_right fun htrue => ?_
    exact Bool.false_ne_true (hfailed.symm.trans htrue.1)

/-- The answer to an attempt: it is made again, or the deletion is complete. A domain that is
deleted for good is deleted again only while all that is wanted is repaired. -/
theorem Inv.answered (h : s.Inv) (i : Nat)
    (hsucceeds : ∀ attempt ∈ s.outstanding[i]?, attempt.failed = true → 0 < attempt.retryCount)
    (horderly : ∀ attempt ∈ s.outstanding[i]?, attempt.failed = true →
      attempt.deletion = .domain false → ∀ node ∈ s.bookmarkModel.leaves, s.Repairing node.url) :
    (s.answered i).Inv := by
  unfold BookmarksSpotlightManager.answered
  cases hattempt : s.outstanding[i]? with
  | none => exact h
  | some attempt =>
    dsimp only
    split
    case isTrue hagain =>
      refine h.doWithRetry attempt.deletion _ rfl rfl
        (fun _ hdeleting => (hdeleting.of_answered hattempt).imp_right And.right)
        (fun _ hrepairing => hrepairing.of_answered hattempt) ?_
      intro spotlightID hdeletes hwanted
      cases hdeletion : attempt.deletion with
      | item other =>
        rw [hdeletion] at hdeletes
        exact .inr (congrArg Prod.fst hdeletes)
      | domain reindexes =>
        cases reindexes with
        | true => exact .inr rfl
        | false =>
          -- the items of these nodes are deleted with nothing to follow
          obtain ⟨node, hnode, hitem⟩ : ∃ node ∈ s.bookmarkModel.leaves,
              (node.url, node.title) = spotlightID := by
            by_contra hnodes
            exact hwanted (expected_eq_none_iff.2 fun node hnode heq =>
              hnodes ⟨node, hnode, heq⟩)
          have hrepairing := horderly attempt hattempt hagain.1 hdeletion node hnode
          rw [← hitem, ← hdeletion]
          exact hrepairing.of_answered hattempt
    case isFalse hdone =>
      have hfailed : attempt.failed = false := by
        cases hfailed : attempt.failed with
        | false => rfl
        | true => exact absurd ⟨hfailed, hsucceeds attempt hattempt hfailed⟩ hdone
      cases hdeletion : attempt.deletion with
      | item spotlightID =>
        refine h.completed hattempt hfailed [.refresh spotlightID.1] fun url hrefreshes => ?_
        rw [hdeletion] at hrefreshes
        exact ⟨_, mem_cons_self, hrefreshes⟩
      | domain reindexes =>
        cases reindexes with
        | true =>
          simp only [hfailed, Bool.false_eq_true, if_false]
          exact h.completed hattempt hfailed [.reindex] fun _ _ =>
            ⟨_, mem_cons_self, trivial⟩
        | false =>
          have hkept := h.completed hattempt hfailed [] fun url hrefreshes => by
            rw [hdeletion] at hrefreshes
            exact absurd hrefreshes Bool.false_ne_true
          rw [append_nil] at hkept
          exact hkept

/-- A block that ran: the URLs that it refreshes are pending. -/
theorem Inv.ran (h : s.Inv) {i : Nat} {block : Block U} (hblock : s.posted[i]? = some block)
    (hsame : s' = { s with
      posted := s.posted.eraseIdx i
      pendingTasks := s'.pendingTasks
      nodesIndexed := s'.nodesIndexed })
    (hkept : ∀ url ∈ s.pendingTasks, url ∈ s'.pendingTasks)
    (hrefreshed : ∀ node ∈ s.bookmarkModel.leaves, block.Refreshes node.url →
      node.url ∈ s'.pendingTasks) : s'.Inv := by
  have hwanted : s'.wanted = s.wanted := by
    rw [hsame]
    rfl
  refine h.change (by rw [hsame]) ?_ ?_ (fun _ _ => .inl (by rw [hwanted])) fun _ hnone =>
    .inl (hwanted ▸ hnone)
  · intro spotlightID hsome hrepairing
    rcases hrepairing with hpending | hattempt | ⟨other, hother, hrefreshes⟩
    · exact .inl (hkept _ hpending)
    · rw [hsame]
      exact .inr (.inl hattempt)
    · by_cases heq : other = block
      · -- the item stands for a node of the URL
        obtain ⟨node, hnode, hitem⟩ : ∃ node ∈ s.bookmarkModel.leaves,
            (node.url, node.title) = spotlightID := by
          by_contra hnodes
          rw [hwanted] at hsome
          exact hsome (expected_eq_none_iff.2 fun node hnode heq => hnodes ⟨node, hnode, heq⟩)
        rw [← hitem, heq] at hrefreshes
        exact .inl (hitem ▸ hrefreshed node hnode hrefreshes)
      · rw [hsame]
        refine .inr (.inr ⟨other, mem_eraseIdx_of_ne hother ?_, hrefreshes⟩)
        rw [hblock]
        exact fun hsome => heq (Option.some.inj hsome).symm
  · intro spotlightID hdeleting
    rw [hsame]
    exact hdeleting

theorem Inv.runPosted (h : s.Inv) (i : Nat)
    (hlimit : s.posted[i]? = some .reindex →
      s.bookmarkModel.leaves.length ≤ kMaxInitialIndexSize) : (s.runPosted i).Inv := by
  unfold BookmarksSpotlightManager.runPosted
  cases hblock : s.posted[i]? with
  | none => exact h
  | some block =>
    cases block with
    | refresh url =>
      dsimp only
      unfold refreshItemsWithURL
      split
      case isTrue hpending =>
        refine h.ran hblock rfl (fun _ hurl => hurl) fun node _ hrefreshes => ?_
        exact hrefreshes ▸ hpending
      case isFalse =>
        refine h.ran hblock rfl (fun _ hurl => mem_cons_of_mem _ hurl)
          fun node _ hrefreshes => ?_
        exact hrefreshes ▸ mem_cons_self
    | reindex =>
      have hrefreshed := refreshNodesInIndex_refreshed
        { s with posted := s.posted.eraseIdx i, nodesIndexed := 0 } true s.bookmarkModel
      refine h.ran hblock hrefreshed.same hrefreshed.kept fun node hnode _ => ?_
      refine (hrefreshed.pending fun _ => ?_).2 node hnode
      rw [Nat.zero_add]
      exact hlimit hblock

/-! ## Runs -/

/-- The domain that is deleted after all user nodes were removed is deleted again only while the
items of all bookmarks are going to be indexed again. -/
def Orderly (s : BookmarksSpotlightManager U Title) : Op U Title → Prop
  | .answered i => ∀ attempt ∈ s.outstanding[i]?, attempt.failed = true →
    attempt.deletion = .domain false → ∀ node ∈ s.bookmarkModel.leaves, s.Repairing node.url
  | _ => True

instance (s : BookmarksSpotlightManager U Title) : ∀ op, Decidable (s.Orderly op)
  | .answered i => inferInstanceAs (Decidable (∀ attempt ∈ s.outstanding[i]?, _ → _ → _))
  | .nodeAdded _ _ | .nodeRemoved _ | .nodeChanged _ _ _ | .nodeFaviconChanged _
  | .nodeMoved _ _ | .allUserNodesRemoved | .reindexBookmarksIfNeeded _ _ | .iconFound _
  | .runPosted _ => instDecidableTrue

/-- The step lemma: an orderly step that may be taken keeps the invariant. -/
theorem Inv.apply (h : s.Inv) (op : Op U Title) (hpre : s.Pre op) (horderly : s.Orderly op) :
    (s.apply op).Inv := by
  cases op with
  | nodeAdded place node => exact h.nodeAdded place node
  | nodeRemoved place => exact h.nodeRemoved place
  | nodeChanged place title url => exact h.nodeChanged place title url
  | nodeFaviconChanged place => exact h.nodeFaviconChanged place
  | nodeMoved source destination => exact h.nodeMoved hpre
  | allUserNodesRemoved => exact allUserNodesRemoved_inv s
  | reindexBookmarksIfNeeded loaded shouldReindex =>
    exact h.reindexBookmarksIfNeeded loaded shouldReindex
  | iconFound url => exact h.iconFound url
  | answered i => exact h.answered i hpre horderly
  | runPosted i => exact h.runPosted i hpre

/-- **The index converges to the bookmarks**: in a run of orderly steps that starts from an index
that is right, it is right whenever nothing is waited for. -/
theorem right_of_quiescent (ops : List (Op U Title)) (hright : s.Right)
    (hlegal : (machine U Title).Legal s ops) (horderly : (machine U Title).Along Orderly s ops) :
    ∀ before, before <+: ops → Quiescent ((machine U Title).run s before) →
      Right ((machine U Title).run s before) := by
  intro before hinitial hquiescent
  have hboth := ((machine U Title).along_and hlegal horderly).of_isPrefix hinitial
  have hinv : Inv ((machine U Title).run s before) :=
    Machine.run_invariant (I := Inv) (fun _ op h hop => h.apply op hop.1 hop.2)
      (Inv.of_right hright) hboth
  exact hinv.right hquiescent

section Runs

/-- No bookmarks, and an empty index. The first attempt at a deletion fails. -/
def noBookmarks : BookmarksSpotlightManager Nat String where
  bookmarkModel := .node ⟨"Mobile Bookmarks", true⟩ .nil .nil
  index := .empty
  keywordsForSpotlightItems := {"bookmark"}
  pendingTasks := []
  nodesIndexed := 0
  initialIndexDone := false
  fails := fun attempt => attempt = 0
  attempts := 0
  outstanding := []
  posted := []

theorem noBookmarks_right : noBookmarks.Right := fun _ => rfl

/-- A bookmark gets another title, is indexed again and is removed with all others. -/
def retitledRun : List (Op Nat String) :=
  [.nodeAdded [.down] (.leaf ⟨0, "zero"⟩ .nil), .iconFound 0, .nodeChanged [.down] "nought" none,
    .answered 0, .answered 0, .runPosted 0, .iconFound 0, .reindexBookmarksIfNeeded true true,
    .answered 0, .runPosted 0, .iconFound 0, .allUserNodesRemoved, .answered 0]

theorem right_of_quiescent_retitledRun :
    (∀ before, before <+: retitledRun → Quiescent ((machine Nat String).run noBookmarks before) →
      Right ((machine Nat String).run noBookmarks before)) ∧
    Quiescent ((machine Nat String).run noBookmarks (retitledRun.take 11)) ∧
    ((machine Nat String).run noBookmarks (retitledRun.take 11)).index.contains (0, "nought") :=
  ⟨right_of_quiescent retitledRun noBookmarks_right (by decide +kernel) (by decide +kernel),
    ⟨rfl, rfl, rfl⟩, by decide +kernel⟩

/-- A bookmark is added while the deletion of the domain waits to be tried again. -/
def removedRun : List (Op Nat String) :=
  [.allUserNodesRemoved, .nodeAdded [.down] (.leaf ⟨1, "one"⟩ .nil), .iconFound 1, .answered 0,
    .answered 0]

theorem removedRun_not_right : noBookmarks.Right ∧
    (machine Nat String).Legal noBookmarks removedRun ∧
    Quiescent ((machine Nat String).run noBookmarks removedRun) ∧
    ¬Right ((machine Nat String).run noBookmarks removedRun) := by
  refine ⟨noBookmarks_right, by decide +kernel, ⟨rfl, rfl, rfl⟩, fun h => ?_⟩
  exact absurd (h (1, "one")) (by decide +kernel)

end Runs

end BookmarksSpotlightManager

end ChromiumIos
