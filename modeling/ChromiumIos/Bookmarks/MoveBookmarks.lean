import Mathlib.Data.Fin.VecNotation
import ChromiumIos.Lib.LinkedTree

/-!
# Moving many bookmarks to a folder

`bookmark_utils_ios.mm`: `MoveBookmarks` moves each node of a set, in the order in which the set is
gone through, to the end of a folder, unless this would put the folder below itself. The
`BookmarkModel` is a parameter.

- `moveBookmarks`: the loop over the set.
- `Gathered`: what is to come of it.
- `Gathering`: what holds while the loop runs; `Gathering.step` is one iteration.
- `moveBookmarks_gathers`: what comes of it, in whatever order the nodes come.
-/

namespace ChromiumIos

open Lib

/-- What `MoveBookmarks` uses of a `BookmarkModel` and its nodes. -/
structure BookmarkMoves (Node : Type) where
  hasAncestor : LinkedTree Node → Node → Node → Bool
  /-- `Move(node, new_parent, index)`. -/
  move : LinkedTree Node → Node → Node → Nat → LinkedTree Node

namespace BookmarkUtils

variable {Node : Type} [DecidableEq Node] (P : BookmarkMoves Node)

/-- The iteration over a node of the set, with the tree and `didPerformMove`. -/
def moveBookmark (folder : Node) (moved : LinkedTree Node × Bool) (node : Node) :
    LinkedTree Node × Bool :=
  if P.hasAncestor moved.1 folder node then moved
  else if moved.1.parent node ≠ some folder then
    (P.move moved.1 node folder (moved.1.children folder).length, true)
  else moved

def moveBookmarks (bookmarks : List Node) (t : LinkedTree Node) (folder : Node) :
    LinkedTree Node × Bool :=
  bookmarks.foldl (moveBookmark P folder) (t, false)

/-- What is documented of the model: `HasAncestor` finds the node itself and all nodes above it,
and `Move` gives a node another parent, with all that is below the node. -/
structure Documented : Prop where
  hasAncestor : ∀ (t : LinkedTree Node) root, t.IsTree root →
    ∀ node ancestor, P.hasAncestor t node ancestor = true ↔ t.HasAncestor node ancestor
  move : ∀ (t : LinkedTree Node) root, t.IsTree root →
    ∀ node folder, ¬t.HasAncestor folder node → t.parent node ≠ some folder →
      LinkedTree.Moved t (P.move t node folder (t.children folder).length) node folder

/-- What is to come of moving the bookmarks to the folder. -/
structure Gathered (t : LinkedTree Node) (root : Node) (bookmarks : List Node) (folder : Node)
    (moved : LinkedTree Node × Bool) : Prop where
  isTree : moved.1.IsTree root
  child : ∀ node ∈ bookmarks, ¬t.HasAncestor folder node → node ∈ moved.1.children folder
  parent_other : ∀ node, node ∉ bookmarks → moved.1.parent node = t.parent node
  order_other : ∀ y, (moved.1.children y).filter (· ∉ bookmarks) =
    (t.children y).filter (· ∉ bookmarks)
  didPerformMove : moved.2 = true ↔ ∃ node, moved.1.parent node ≠ t.parent node

/-- What holds once some of the bookmarks have been gone through. -/
structure Gathering (t : LinkedTree Node) (root : Node) (bookmarks : List Node) (folder : Node)
    (done : List Node) (moved : LinkedTree Node × Bool) : Prop where
  isTree : moved.1.IsTree root
  ancestors : ∀ a, moved.1.HasAncestor folder a ↔ t.HasAncestor folder a
  parent_done : ∀ node ∈ done, ¬t.HasAncestor folder node → moved.1.parent node = some folder
  parent_other : ∀ node, node ∉ bookmarks → moved.1.parent node = t.parent node
  order_other : ∀ y, (moved.1.children y).filter (· ∉ bookmarks) =
    (t.children y).filter (· ∉ bookmarks)
  /-- A node that has another parent has come to the folder. -/
  parent : ∀ node, moved.1.parent node ≠ t.parent node →
    moved.1.parent node = some folder ∧ t.parent node ≠ some folder
  didPerformMove : moved.2 = true ↔ ∃ node, moved.1.parent node ≠ t.parent node

variable {P} {t : LinkedTree Node} {root folder : Node} {bookmarks : List Node}

theorem gathering_nil (ht : t.IsTree root) :
    Gathering t root bookmarks folder [] (t, false) where
  isTree := ht
  ancestors _ := Iff.rfl
  parent_done node hnode := absurd hnode List.not_mem_nil
  parent_other _ _ := rfl
  order_other _ := rfl
  parent node hne := absurd rfl hne
  didPerformMove := by
    refine iff_of_false Bool.false_ne_true ?_
    rintro ⟨node, hne⟩
    exact hne rfl

theorem Gathering.kept {done : List Node} {moved : LinkedTree Node × Bool}
    (h : Gathering t root bookmarks folder done moved) {node : Node}
    (hnode : ¬t.HasAncestor folder node → moved.1.parent node = some folder) :
    Gathering t root bookmarks folder (node :: done) moved where
  isTree := h.isTree
  ancestors := h.ancestors
  parent_done other hother habove := by
    rcases List.mem_cons.1 hother with rfl | hdone
    · exact hnode habove
    · exact h.parent_done other hdone habove
  parent_other := h.parent_other
  order_other := h.order_other
  parent := h.parent
  didPerformMove := h.didPerformMove

/-- A filter that drops the node does not see that it goes or comes. -/
theorem filter_children_moved {t' : LinkedTree Node} {node : Node}
    (hm : LinkedTree.Moved t t' node folder) (hnode : node ∈ bookmarks) (y : Node) :
    (t'.children y).filter (· ∉ bookmarks) = (t.children y).filter (· ∉ bookmarks) := by
  by_cases hy : y = folder
  · subst hy
    rw [hm.children_folder, List.filter_append]
    simp [hnode]
  · rw [hm.children_other y hy, ← List.erase_filter]
    refine List.erase_of_not_mem fun hmem => ?_
    exact of_decide_eq_true (List.mem_filter.1 hmem).2 hnode

theorem Gathering.moved {done : List Node} {moved : LinkedTree Node × Bool}
    (h : Gathering t root bookmarks folder done moved) {node : Node} (hnode : node ∈ bookmarks)
    (habove : ¬t.HasAncestor folder node) (hparent : moved.1.parent node ≠ some folder)
    {t' : LinkedTree Node} (hm : LinkedTree.Moved moved.1 t' node folder) :
    Gathering t root bookmarks folder (node :: done) (t', true) := by
  have hnot : ¬moved.1.HasAncestor folder node := fun hup => habove ((h.ancestors node).1 hup)
  have hother : ∀ other, other ∉ bookmarks → other ≠ node := by
    rintro other hmem rfl
    exact hmem hnode
  -- The node is still where it was at first.
  have hfirst : t.parent node ≠ some folder := by
    intro hfolder
    refine hparent ?_
    by_cases hsame : moved.1.parent node = t.parent node
    · exact hsame.trans hfolder
    · exact (h.parent node hsame).1
  constructor
  · exact h.isTree.moved hm hnot hparent
  · exact fun a => (hm.hasAncestor_iff hnot a).trans (h.ancestors a)
  · intro other hmem hup
    rcases List.mem_cons.1 hmem with rfl | hdone
    · exact hm.parent_self
    · by_cases heq : other = node
      · exact heq ▸ hm.parent_self
      · exact (hm.parent_other other heq).trans (h.parent_done other hdone hup)
  · intro other hmem
    exact (hm.parent_other other (hother other hmem)).trans (h.parent_other other hmem)
  · intro y
    exact (filter_children_moved hm hnode y).trans (h.order_other y)
  · intro other hne
    by_cases heq : other = node
    · subst heq
      exact ⟨hm.parent_self, hfirst⟩
    · have hparent_other := hm.parent_other other heq
      rw [hparent_other] at hne ⊢
      exact h.parent other hne
  · refine iff_of_true rfl ⟨node, ?_⟩
    rw [hm.parent_self]
    exact hfirst.symm

theorem Gathering.step (hP : Documented P) {done : List Node} {moved : LinkedTree Node × Bool}
    (h : Gathering t root bookmarks folder done moved) {node : Node} (hnode : node ∈ bookmarks) :
    Gathering t root bookmarks folder (node :: done) (moveBookmark P folder moved node) := by
  have hancestor := hP.hasAncestor moved.1 root h.isTree folder node
  unfold moveBookmark
  split
  · next hup =>
    exact h.kept fun habove => absurd ((h.ancestors node).1 (hancestor.1 hup)) habove
  · next hup =>
    have hnot : ¬moved.1.HasAncestor folder node := fun habove => hup (hancestor.2 habove)
    split
    · next hparent =>
      have habove : ¬t.HasAncestor folder node := fun habove => hnot ((h.ancestors node).2 habove)
      exact h.moved hnode habove hparent (hP.move moved.1 root h.isTree node folder hnot hparent)
    · next hparent => exact h.kept fun _ => not_not.1 hparent

theorem Gathering.run (hP : Documented P) {done : List Node} {moved : LinkedTree Node × Bool}
    (h : Gathering t root bookmarks folder done moved) {rest : List Node}
    (hrest : rest ⊆ bookmarks) :
    Gathering t root bookmarks folder (rest.reverse ++ done)
      (rest.foldl (moveBookmark P folder) moved) := by
  induction rest generalizing done moved with
  | nil => exact h
  | cons node rest ih =>
    obtain ⟨hnode, hrest⟩ := List.cons_subset.1 hrest
    rw [List.reverse_cons, List.append_assoc]
    exact ih (h.step hP hnode) hrest

/-- In whatever order the bookmarks come. -/
theorem moveBookmarks_gathers (hP : Documented P) (ht : t.IsTree root) (bookmarks : List Node)
    (folder : Node) :
    Gathered t root bookmarks folder (moveBookmarks P bookmarks t folder) := by
  have h : Gathering t root bookmarks folder (bookmarks.reverse ++ [])
      (moveBookmarks P bookmarks t folder) :=
    (gathering_nil ht).run hP (List.Subset.refl bookmarks)
  constructor
  · exact h.isTree
  · intro node hnode habove
    refine (h.isTree.mem_children node folder).2 (h.parent_done node ?_ habove)
    exact List.mem_append_left _ (List.mem_reverse.2 hnode)
  · exact h.parent_other
  · exact h.order_other
  · exact h.didPerformMove

/-- A model whose nodes are numbered. -/
def numberedMoves (n : Nat) : BookmarkMoves (Fin n) where
  hasAncestor t := t.climbs n
  move t node folder index :=
    { parent := fun x => if x = node then some folder else t.parent x
      children := fun y =>
        if y = folder then ((t.children y).erase node).insertIdx index node
        else (t.children y).erase node }

theorem numberedMoves_documented (n : Nat) : Documented (numberedMoves n) where
  hasAncestor t root ht node ancestor := by
    have hclimbs := ht.climbs_iff (x := node) (a := ancestor)
    rwa [Fintype.card_fin] at hclimbs
  move t root ht node folder habove hparent := by
    have hnew : node ∉ t.children folder := fun hmem => hparent ((ht.mem_children _ _).1 hmem)
    constructor
    · exact if_pos rfl
    · exact fun x hx => if_neg hx
    · refine (if_pos rfl).trans ?_
      rw [List.erase_of_not_mem hnew, List.insertIdx_length_self]
    · exact fun y hy => if_neg hy

/-- Two folders under the root, with a bookmark, a folder and a bookmark in that in the first
one. -/
def numberedTree : LinkedTree (Fin 6) where
  parent := ![none, some 0, some 0, some 1, some 1, some 4]
  children := ![[1, 2], [3, 4], [], [], [5], []]

theorem numberedTree_isTree : numberedTree.IsTree 0 where
  parent_root := rfl
  reaches x := by
    have hclimbs : ∀ x, numberedTree.climbs 6 x 0 = true := by decide
    exact LinkedTree.hasAncestor_of_climbs (hclimbs x)
  mem_children := by decide
  nodup := by decide

/-- The root, a folder and what is in it are moved to the other folder. -/
theorem moveBookmarks_gathers_nested :
    Gathered numberedTree 0 [0, 5, 4] 2 (moveBookmarks (numberedMoves 6) [0, 5, 4] numberedTree 2) ∧
      (moveBookmarks (numberedMoves 6) [0, 5, 4] numberedTree 2).1.children 2 = [5, 4] :=
  ⟨moveBookmarks_gathers (numberedMoves_documented 6) numberedTree_isTree [0, 5, 4] 2, by decide⟩

end BookmarkUtils

end ChromiumIos
