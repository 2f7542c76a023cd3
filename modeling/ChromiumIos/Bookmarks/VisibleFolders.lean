import Mathlib.Data.Fin.VecNotation
import Mathlib.Data.Fintype.EquivFin
import ChromiumIos.Lib.LinkedTree

/-!
# The folders that a bookmark can be moved to

`bookmark_utils_ios.mm`: `VisibleNonDescendantNodes` lists the primary permanent nodes of a
`BookmarkModel` and the folders below them. The folders in a folder are put right after it, in the
order of their titles, and gone through in turn.

- `updateFoldersFromNode`, `visibleNonDescendantNodes`: the recursion.
- `Listing`: the depth-first lists of folders.
- `Listing.mem_iff`, `Listing.nodup`: what is in such a list, and once.
- `updates_from`: the recursion makes one.
- `visibleNonDescendantNodes_lists`: it ends, and with which folders.
-/

namespace ChromiumIos

open Lib List

/-- What is read of a `BookmarkModel` and of the titles of its nodes. -/
structure BookmarkFolders (Node Title : Type) where
  tree : LinkedTree Node
  isFolder : Node → Bool
  isVisible : Node → Bool
  title : Node → Title
  hasAncestor : Node → Node → Bool
  mobileNode : Node
  bookmarkBarNode : Node
  otherNode : Node
  /-- The order of the texts, and that of the collator if there is one. -/
  lessTitle : Title → Title → Bool
  collator : Option (Title → Title → Ordering)
  /-- `std::sort` with a comparator. -/
  sort : (Node → Node → Bool) → List Node → List Node

namespace BookmarkUtils

variable {Node Title : Type} [DecidableEq Node] (P : BookmarkFolders Node Title)
  (obstructions : List Node)

section Definitions

omit [DecidableEq Node]

/-- `FolderNodeComparator`. -/
def folderNodeComparator (n1 n2 : Node) : Bool :=
  match P.collator with
  | none => P.lessTitle (P.title n1) (P.title n2)
  | some compare => compare (P.title n1) (P.title n2) = .lt

def sortFolders (folders : List Node) : List Node := P.sort (folderNodeComparator P) folders

def folderHasAncestorInBookmarkNodes (folder : Node) : Bool :=
  obstructions.any (P.hasAncestor folder)

def isObstructed (node : Node) : Bool :=
  if !P.isFolder node then true
  else if !P.isVisible node then true
  else if folderHasAncestorInBookmarkNodes P obstructions node then true
  else false

def directDescendants (folder : Node) : List Node :=
  sortFolders P ((P.tree.children folder).filter fun subfolder =>
    !isObstructed P obstructions subfolder)

def primaryPermanentNodes : List Node := [P.mobileNode, P.bookmarkBarNode, P.otherNode]

def filteredPrimaryNodes : List Node :=
  (primaryPermanentNodes P).filter fun node => !isObstructed P obstructions node

end Definitions

/-- What `insert` makes of the results, after the place where the folder is found. -/
def insertAfter (results : List Node) (folder : Node) (nodes : List Node) : List Node :=
  results.take (results.idxOf folder + 1) ++ nodes ++ results.drop (results.idxOf folder + 1)

/-- `UpdateFoldersFromNode`, with a bound on the depth of the recursion. -/
def updateFoldersFromNode : Nat → List Node → Node → Option (List Node)
  | 0, _, _ => none
  | depth + 1, results, folder =>
    (directDescendants P obstructions folder).foldlM (updateFoldersFromNode depth)
      (insertAfter results folder (directDescendants P obstructions folder))

def visibleNonDescendantNodes (depth : Nat) : Option (List Node) :=
  (filteredPrimaryNodes P obstructions).foldlM (updateFoldersFromNode P obstructions depth)
    (filteredPrimaryNodes P obstructions)

/-! ## Depth-first lists -/

section Listings

omit [DecidableEq Node]

/-- What is documented of the model, and of a sorted vector. -/
structure FoldersDocumented (root : Node) : Prop where
  isTree : P.tree.IsTree root
  hasAncestor : ∀ node ancestor,
    P.hasAncestor node ancestor = true ↔ P.tree.HasAncestor node ancestor
  permanent : ∀ node ∈ primaryPermanentNodes P, P.tree.parent node = some root
  permanent_nodup : (primaryPermanentNodes P).Nodup
  sort_perm : ∀ folders, (sortFolders P folders).Perm folders
  sort_pairwise : ∀ folders, (sortFolders P folders).Pairwise fun n1 n2 =>
    folderNodeComparator P n2 n1 = false

/-- A visible folder that is neither an obstruction nor below one. -/
def Shown (node : Node) : Prop := isObstructed P obstructions node = false

/-- The folders shown in a folder, in the order of their titles. -/
structure ShownIn (folder : Node) (folders : List Node) : Prop where
  perm : folders.Perm ((P.tree.children folder).filter fun subfolder =>
    !isObstructed P obstructions subfolder)
  sorted : folders.Pairwise fun n1 n2 => folderNodeComparator P n2 n1 = false

/-- Each folder, and right after it the list of those in it. -/
inductive Listing : List Node → List Node → Prop
  | nil : Listing [] []
  | cons (folder : Node) {folders below rest after : List Node} :
      ShownIn P obstructions folder folders → Listing folders below → Listing rest after →
        Listing (folder :: rest) (folder :: (below ++ after))

/-- A node is another one, or below it with only shown nodes between. -/
def ShownBelow (node folder : Node) : Prop :=
  Relation.ReflTransGen (fun x y => P.tree.parent x = some y ∧ Shown P obstructions x) node folder

/-- No node is below two of the folders. -/
def Apart (folders : List Node) : Prop :=
  folders.Pairwise fun a b => ∀ x, P.tree.HasAncestor x a → ¬P.tree.HasAncestor x b

variable {P obstructions} {root : Node}

theorem ShownBelow.hasAncestor {node folder : Node} (h : ShownBelow P obstructions node folder) :
    P.tree.HasAncestor node folder := by
  induction h with
  | refl => exact .refl _ _
  | tail _ hup ih => exact ih.trans (.head hup.1 (.refl _ _))

theorem ShownIn.mem_iff {folder : Node} {folders : List Node}
    (hP : FoldersDocumented P root) (h : ShownIn P obstructions folder folders) (node : Node) :
    node ∈ folders ↔ P.tree.parent node = some folder ∧ Shown P obstructions node := by
  rw [h.perm.mem_iff, mem_filter, hP.isTree.mem_children]
  simp [Shown]

theorem ShownIn.apart {folder : Node} {folders : List Node} (hP : FoldersDocumented P root)
    (h : ShownIn P obstructions folder folders) : Apart P folders := by
  have hnodup : folders.Nodup :=
    h.perm.nodup_iff.2 ((hP.isTree.nodup folder).filter _)
  refine hnodup.imp_of_mem fun {a b} ha hb hne x hxa => ?_
  exact hP.isTree.not_below_siblings ((h.mem_iff hP a).1 ha).1 ((h.mem_iff hP b).1 hb).1 hne hxa

theorem Listing.mem_iff (hP : FoldersDocumented P root) {folders listed : List Node}
    (h : Listing P obstructions folders listed) (node : Node) :
    node ∈ listed ↔ ∃ folder ∈ folders, ShownBelow P obstructions node folder := by
  induction h with
  | nil => simp
  | @cons folder folders below rest after hshown _ _ ihbelow ihafter =>
    rw [mem_cons, mem_append, ihbelow, ihafter, exists_mem_cons_iff]
    have hfolder : ShownBelow P obstructions node folder ↔
        node = folder ∨ ∃ subfolder ∈ folders, ShownBelow P obstructions node subfolder := by
      unfold ShownBelow
      rw [Relation.ReflTransGen.cases_tail_iff]
      constructor
      · rintro (rfl | ⟨subfolder, hnode, hup⟩)
        · exact .inl rfl
        · exact .inr ⟨subfolder, (hshown.mem_iff hP subfolder).2 hup, hnode⟩
      · rintro (rfl | ⟨subfolder, hmem, hnode⟩)
        · exact .inl rfl
        · exact .inr ⟨subfolder, hnode, (hshown.mem_iff hP subfolder).1 hmem⟩
    rw [hfolder, or_assoc]

theorem Listing.nodup (hP : FoldersDocumented P root) {folders listed : List Node}
    (h : Listing P obstructions folders listed) (hapart : Apart P folders) : listed.Nodup := by
  induction h with
  | nil => exact nodup_nil
  | @cons folder folders below rest after hshown hbelow hafter ihbelow ihafter =>
    obtain ⟨hfirst, hrest⟩ := pairwise_cons.1 hapart
    -- What is below the folder is not below another one of the list.
    have hother : ∀ node, P.tree.HasAncestor node folder → node ∉ after := by
      intro node hnode hmem
      obtain ⟨other, hmem, habove⟩ := (hafter.mem_iff hP node).1 hmem
      exact hfirst other hmem node hnode habove.hasAncestor
    have hin : ∀ node ∈ below, ∃ subfolder, P.tree.parent subfolder = some folder ∧
        P.tree.HasAncestor node subfolder := by
      intro node hmem
      obtain ⟨subfolder, hmem, habove⟩ := (hbelow.mem_iff hP node).1 hmem
      exact ⟨subfolder, ((hshown.mem_iff hP subfolder).1 hmem).1, habove.hasAncestor⟩
    rw [nodup_cons, mem_append, nodup_append']
    refine ⟨?_, ihbelow (hshown.apart hP), ihafter hrest, ?_⟩
    · rintro (hmem | hmem)
      · obtain ⟨subfolder, hup, habove⟩ := hin folder hmem
        exact hP.isTree.not_up_hasAncestor hup habove
      · exact hother folder (.refl _ _) hmem
    · intro node hmem hmem'
      obtain ⟨subfolder, hup, habove⟩ := hin node hmem
      exact hother node (habove.trans (.head hup (.refl _ _))) hmem'

end Listings

/-! ## The recursion -/

section Recursion

variable {P obstructions} {root : Node}

theorem insertAfter_append {before after nodes : List Node} {folder : Node}
    (h : folder ∉ before) :
    insertAfter (before ++ folder :: after) folder nodes =
      before ++ folder :: (nodes ++ after) := by
  have hidx : (before ++ folder :: after).idxOf folder = before.length := by
    rw [idxOf_append_of_notMem h, idxOf_cons_self, Nat.add_zero]
  have hsplit : before ++ folder :: after = (before ++ [folder]) ++ after := by simp
  have hlength : before.length + 1 = (before ++ [folder]).length := by simp
  rw [insertAfter, hidx, hsplit, hlength, take_left, drop_left]
  simp

/-- From some depth on, the recursion puts the list of what is below a folder after it, where no
node before it is below the folder. -/
def Updates (P : BookmarkFolders Node Title) (obstructions : List Node) (folder : Node) : Prop :=
  ∃ depth folders below, ShownIn P obstructions folder folders ∧
    Listing P obstructions folders below ∧ ∀ d ≥ depth, ∀ before after,
      (∀ node ∈ before, ¬P.tree.HasAncestor node folder) →
      updateFoldersFromNode P obstructions d (before ++ folder :: after) folder =
        some (before ++ folder :: (below ++ after))

/-- Folders that are apart are gone through one after the other. -/
theorem updates_list (hP : FoldersDocumented P root) {folders : List Node}
    (hfolders : ∀ folder ∈ folders, Updates P obstructions folder) (hapart : Apart P folders) :
    ∃ depth listed, Listing P obstructions folders listed ∧
      ∀ d ≥ depth, ∀ before after,
        (∀ node ∈ before, ∀ folder ∈ folders, ¬P.tree.HasAncestor node folder) →
          folders.foldlM (updateFoldersFromNode P obstructions d) (before ++ folders ++ after) =
            some (before ++ listed ++ after) := by
  induction folders with
  | nil => exact ⟨0, [], .nil, fun _ _ before after _ => rfl⟩
  | cons folder rest ih =>
    obtain ⟨hfirst, hrest⟩ := pairwise_cons.1 hapart
    obtain ⟨depth, inside, below, hshown, hbelow, hupdate⟩ :=
      hfolders folder mem_cons_self
    obtain ⟨depth', listed, hlisted, hupdates⟩ :=
      ih (fun other hother => hfolders other (mem_cons_of_mem _ hother)) hrest
    refine ⟨max depth depth', folder :: (below ++ listed), .cons folder hshown hbelow hlisted, ?_⟩
    intro d hd before after hbefore
    have hnode : updateFoldersFromNode P obstructions d
        (before ++ folder :: (rest ++ after)) folder =
          some (before ++ folder :: (below ++ (rest ++ after))) :=
      hupdate d (le_trans (le_max_left _ _) hd) before (rest ++ after)
        fun node hmem => hbefore node hmem folder mem_cons_self
    have hothers : rest.foldlM (updateFoldersFromNode P obstructions d)
        ((before ++ folder :: below) ++ rest ++ after) =
          some ((before ++ folder :: below) ++ listed ++ after) := by
      refine hupdates d (le_trans (le_max_right _ _) hd) _ _ fun node hmem other hother => ?_
      rcases mem_append.1 hmem with hmem | hmem
      · exact hbefore node hmem other (mem_cons_of_mem _ hother)
      · refine hfirst other hother node ?_
        rcases mem_cons.1 hmem with rfl | hmem
        · exact .refl _ _
        · obtain ⟨subfolder, hsub, habove⟩ := (hbelow.mem_iff hP node).1 hmem
          have hup := ((hshown.mem_iff hP subfolder).1 hsub).1
          exact habove.hasAncestor.trans (.head hup (.refl _ _))
    rw [foldlM_cons, append_assoc, cons_append, hnode, Option.bind_eq_bind,
      Option.bind_some]
    simpa using hothers

omit [DecidableEq Node] in
theorem shownIn_directDescendants (hP : FoldersDocumented P root) (folder : Node) :
    ShownIn P obstructions folder (directDescendants P obstructions folder) :=
  ⟨hP.sort_perm _, hP.sort_pairwise _⟩

/-- By induction from the folders in a folder. -/
theorem updates_from [Finite Node] (hP : FoldersDocumented P root) (folder : Node) :
    Updates P obstructions folder := by
  induction folder using hP.isTree.wellFounded.induction with
  | _ folder ih =>
    have hshown : ShownIn P obstructions folder (directDescendants P obstructions folder) :=
      shownIn_directDescendants hP folder
    obtain ⟨depth, below, hbelow, hupdates⟩ :=
      updates_list hP (fun node hnode => ih node ((hshown.mem_iff hP node).1 hnode).1)
        (hshown.apart hP)
    refine ⟨depth + 1, _, below, hshown, hbelow, fun d hd before after hbefore => ?_⟩
    obtain ⟨d, rfl⟩ : ∃ d', d = d' + 1 := ⟨d - 1, by omega⟩
    have hnot : folder ∉ before := fun hmem => hbefore folder hmem (.refl _ _)
    have hclear : ∀ node ∈ before ++ [folder], ∀ sub ∈ directDescendants P obstructions folder,
        ¬P.tree.HasAncestor node sub := by
      intro node hmem sub hsub habove
      have hup := ((hshown.mem_iff hP sub).1 hsub).1
      rcases mem_append.1 hmem with hmem | hmem
      · exact hbefore node hmem (habove.trans (.head hup (.refl _ _)))
      · obtain rfl := mem_singleton.1 hmem
        exact hP.isTree.not_up_hasAncestor hup habove
    have hall := hupdates d (by omega) (before ++ [folder]) after hclear
    rw [updateFoldersFromNode, insertAfter_append hnot]
    simpa using hall

omit [DecidableEq Node] in
/-- What is reached through shown nodes only. -/
theorem shownBelow_iff (hP : FoldersDocumented P root) {node folder : Node} :
    Shown P obstructions folder ∧ ShownBelow P obstructions node folder ↔
      P.tree.HasAncestor node folder ∧
        ∀ a, P.tree.HasAncestor node a → P.tree.HasAncestor a folder → Shown P obstructions a := by
  constructor
  · rintro ⟨hfolder, h⟩
    refine ⟨h.hasAncestor, ?_⟩
    induction h using Relation.ReflTransGen.head_induction_on with
    | refl =>
      intro a habove hbelow
      rwa [hP.isTree.antisymm hbelow habove]
    | @head x y hup _ ih =>
      intro a habove hbelow
      rcases LinkedTree.hasAncestor_iff.1 habove with rfl | ⟨z, hz, hza⟩
      · exact hup.2
      · obtain rfl := Option.some.inj (hup.1.symm.trans hz)
        exact ih a hza hbelow
  · rintro ⟨h, hshown⟩
    refine ⟨hshown folder h (.refl _ _), ?_⟩
    induction h using Relation.ReflTransGen.head_induction_on with
    | refl => exact .refl
    | @head x y hup habove ih =>
      refine .head ⟨hup, hshown x (.refl _ _) (.head hup habove)⟩ (ih fun a hy hbelow => ?_)
      exact hshown a (.head hup hy) hbelow

omit [DecidableEq Node] in
theorem shown_iff (hP : FoldersDocumented P root) {node : Node} :
    Shown P obstructions node ↔ P.isFolder node = true ∧ P.isVisible node = true ∧
      ∀ obstruction ∈ obstructions, ¬P.tree.HasAncestor node obstruction := by
  have hany : folderHasAncestorInBookmarkNodes P obstructions node = true ↔
      ∃ obstruction ∈ obstructions, P.tree.HasAncestor node obstruction := by
    rw [folderHasAncestorInBookmarkNodes, any_eq_true]
    exact exists_congr fun obstruction => and_congr_right fun _ => hP.hasAncestor node obstruction
  unfold Shown isObstructed
  have hnone : folderHasAncestorInBookmarkNodes P obstructions node = false ↔
      ∀ obstruction ∈ obstructions, ¬P.tree.HasAncestor node obstruction := by
    rw [← Bool.not_eq_true, hany]
    simp
  cases P.isFolder node <;> cases P.isVisible node <;> simp [hnone]

/-- The primary permanent nodes and all folders below them that are reached through visible
folders, without the obstructions and what is below them, are listed once each, depth first and by
title. -/
theorem visibleNonDescendantNodes_lists [Finite Node] (hP : FoldersDocumented P root)
    (obstructions : List Node) :
    ∃ depth results, (∀ d ≥ depth, visibleNonDescendantNodes P obstructions d = some results) ∧
      Listing P obstructions (filteredPrimaryNodes P obstructions) results ∧ results.Nodup ∧
      ∀ node, node ∈ results ↔
        (∃ primary ∈ primaryPermanentNodes P, P.tree.HasAncestor node primary ∧
          ∀ a, P.tree.HasAncestor node a → P.tree.HasAncestor a primary →
            P.isFolder a = true ∧ P.isVisible a = true) ∧
        ∀ obstruction ∈ obstructions, ¬P.tree.HasAncestor node obstruction := by
  have hapart : Apart P (filteredPrimaryNodes P obstructions) := by
    refine (hP.permanent_nodup.filter _).imp_of_mem fun {a b} ha hb hne x hxa => ?_
    exact hP.isTree.not_below_siblings (hP.permanent a (mem_of_mem_filter ha))
      (hP.permanent b (mem_of_mem_filter hb)) hne hxa
  obtain ⟨depth, results, hlisting, hupdates⟩ :=
    updates_list hP (fun folder _ => updates_from hP folder) hapart
  refine ⟨depth, results, fun d hd => ?_, hlisting, hlisting.nodup hP hapart, fun node => ?_⟩
  · simpa [visibleNonDescendantNodes] using hupdates d hd [] [] (by simp)
  · rw [hlisting.mem_iff hP]
    constructor
    · rintro ⟨primary, hmem, hbelow⟩
      obtain ⟨hprimary, hfiltered⟩ := mem_filter.1 hmem
      have hshown : Shown P obstructions primary := by simpa [Shown] using hfiltered
      obtain ⟨habove, hall⟩ := (shownBelow_iff hP).1 ⟨hshown, hbelow⟩
      refine ⟨⟨primary, hprimary, habove, fun a ha ha' => ?_⟩, ?_⟩
      · obtain ⟨hfolder, hvisible, -⟩ := (shown_iff hP).1 (hall a ha ha')
        exact ⟨hfolder, hvisible⟩
      · exact ((shown_iff hP).1 (hall node (.refl _ _) habove)).2.2
    · rintro ⟨⟨primary, hprimary, habove, hall⟩, hclear⟩
      have hshown : ∀ a, P.tree.HasAncestor node a → P.tree.HasAncestor a primary →
          Shown P obstructions a := by
        intro a ha ha'
        obtain ⟨hfolder, hvisible⟩ := hall a ha ha'
        refine (shown_iff hP).2 ⟨hfolder, hvisible, fun obstruction hmem hbelow => ?_⟩
        exact hclear obstruction hmem (ha.trans hbelow)
      obtain ⟨hself, hbelow⟩ := (shownBelow_iff hP).2 ⟨habove, hshown⟩
      have hfiltered : isObstructed P obstructions primary = false := hself
      exact ⟨primary, mem_filter.2 ⟨hprimary, by rw [hfiltered]; rfl⟩, hbelow⟩

end Recursion

/-- The permanent nodes 1, 2 and 3 under the root: in the first one the folders 4 and 5, of which
the second comes first by title and has the bookmark 7, in the second one the folder 6. -/
def pickerTree : LinkedTree (Fin 8) where
  parent := ![none, some 0, some 0, some 0, some 1, some 1, some 2, some 5]
  children := ![[1, 2, 3], [4, 5], [6], [], [], [7], [], []]

/-- All nodes are visible, 7 is no folder. -/
def pickerFolders : BookmarkFolders (Fin 8) Char where
  tree := pickerTree
  isFolder node := node ≠ 7
  isVisible _ := true
  title := ![' ', 'm', 'b', 'o', 'z', 'a', 'f', 'u']
  hasAncestor := pickerTree.climbs 8
  mobileNode := 1
  bookmarkBarNode := 2
  otherNode := 3
  lessTitle t1 t2 := t1 < t2
  collator := none
  sort less nodes := nodes.insertionSort fun n1 n2 => less n2 n1 = false

theorem pickerTree_isTree : pickerTree.IsTree 0 where
  parent_root := rfl
  reaches x := by
    have hclimbs : ∀ x, pickerTree.climbs 8 x 0 = true := by decide
    exact LinkedTree.hasAncestor_of_climbs (hclimbs x)
  mem_children := by decide
  nodup := by decide

theorem pickerFolders_documented : FoldersDocumented pickerFolders 0 where
  isTree := pickerTree_isTree
  hasAncestor _ _ := pickerTree_isTree.climbs_iff
  permanent := by decide
  permanent_nodup := by decide
  sort_perm folders := perm_insertionSort _ folders
  sort_pairwise folders := by
    have htotal : ∀ n1 n2, folderNodeComparator pickerFolders n2 n1 = false ∨
        folderNodeComparator pickerFolders n1 n2 = false := by decide
    have htrans : ∀ n1 n2 n3, folderNodeComparator pickerFolders n2 n1 = false →
        folderNodeComparator pickerFolders n3 n2 = false →
          folderNodeComparator pickerFolders n3 n1 = false := by decide
    have : Std.Total fun n1 n2 => folderNodeComparator pickerFolders n2 n1 = false := ⟨htotal⟩
    have : IsTrans (Fin 8) fun n1 n2 => folderNodeComparator pickerFolders n2 n1 = false :=
      ⟨htrans⟩
    exact pairwise_insertionSort _ folders

theorem pickerFolders_lists :
    ∃ depth results, (∀ d ≥ depth, visibleNonDescendantNodes pickerFolders [4] d = some results) ∧
      Listing pickerFolders [4] (filteredPrimaryNodes pickerFolders [4]) results ∧
      results.Nodup := by
  obtain ⟨depth, results, hresults, hlisting, hnodup, -⟩ :=
    visibleNonDescendantNodes_lists pickerFolders_documented [4]
  exact ⟨depth, results, hresults, hlisting, hnodup⟩

/-- The permanent nodes themselves are listed. -/
theorem pickerFolders_not_below :
    visibleNonDescendantNodes pickerFolders [] 3 = some [1, 5, 4, 2, 6, 3] ∧
      ¬∀ node, node ∈ [1, 5, 4, 2, 6, 3] ↔ pickerFolders.isFolder node = true ∧
        pickerFolders.isVisible node = true ∧ ∃ primary ∈ primaryPermanentNodes pickerFolders,
          node ≠ primary ∧ pickerTree.climbs 8 node primary = true := by
  decide

end BookmarkUtils

end ChromiumIos
