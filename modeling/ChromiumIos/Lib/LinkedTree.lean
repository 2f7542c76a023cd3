import Mathlib.Data.Fintype.Card

/-!
# Trees of linked nodes

The nodes of a tree know their parent and, in order, their children.

- `HasAncestor`: a node is another one or below it.
- `IsTree`: the links agree, and every node is below the root.
- `climbs`: the search for an ancestor. `IsTree.climbs_iff`: it may end after as many steps as
  there are nodes.
- `IsTree.acyclic`, `IsTree.not_below_siblings`: no node is below itself, nor below two siblings.
- `IsTree.wellFounded`: induction from the children of a node, in a finite tree.
- `Moved`, `IsTree.moved`: a node with all that is below it gets another parent.
-/

namespace Lib

open Finset

universe u

structure LinkedTree (α : Type u) where
  parent : α → Option α
  children : α → List α

namespace LinkedTree

variable {α : Type u}

/-- `y` is the parent of `x`. -/
def Up (t : LinkedTree α) (x y : α) : Prop := t.parent x = some y

/-- `a` is `x`, or one of its ancestors. -/
def HasAncestor (t : LinkedTree α) (x a : α) : Prop := Relation.ReflTransGen t.Up x a

/-- All nodes are those of one tree. -/
structure IsTree (t : LinkedTree α) (root : α) : Prop where
  parent_root : t.parent root = none
  reaches : ∀ x, t.HasAncestor x root
  mem_children : ∀ x y, x ∈ t.children y ↔ t.parent x = some y
  nodup : ∀ y, (t.children y).Nodup

/-! ## Ancestors -/

section Ancestors

variable {t : LinkedTree α} {x y z a b : α}

theorem up_rightUnique (t : LinkedTree α) : Relator.RightUnique t.Up := by
  intro x y z hy hz
  exact Option.some.inj (hy.symm.trans hz)

theorem HasAncestor.refl (t : LinkedTree α) (x : α) : t.HasAncestor x x :=
  Relation.ReflTransGen.refl

theorem HasAncestor.trans (h : t.HasAncestor x y) (h' : t.HasAncestor y z) : t.HasAncestor x z :=
  Relation.ReflTransGen.trans h h'

theorem HasAncestor.head (h : t.parent x = some y) (h' : t.HasAncestor y z) : t.HasAncestor x z :=
  Relation.ReflTransGen.head h h'

theorem hasAncestor_iff :
    t.HasAncestor x a ↔ x = a ∨ ∃ y, t.parent x = some y ∧ t.HasAncestor y a :=
  Relation.ReflTransGen.cases_head_iff

/-- The ancestors of a node are above one another. -/
theorem HasAncestor.total (ha : t.HasAncestor x a) (hb : t.HasAncestor x b) :
    t.HasAncestor a b ∨ t.HasAncestor b a :=
  Relation.ReflTransGen.total_of_right_unique t.up_rightUnique ha hb

variable {root : α}

theorem IsTree.acyclic (h : t.IsTree root) (x : α) : ¬Relation.TransGen t.Up x x := by
  intro hcycle
  -- The cycle goes on for ever, but the root has no parent.
  have hroot : Relation.TransGen t.Up root root := by
    have hup : ∀ z, t.HasAncestor x z → Relation.TransGen t.Up z z := by
      intro z hz
      induction hz with
      | refl => exact hcycle
      | @tail y z _ hyz ih =>
        obtain ⟨next, hnext, hback⟩ := Relation.TransGen.head'_iff.1 ih
        obtain rfl : next = z := t.up_rightUnique hnext hyz
        exact Relation.TransGen.tail' hback hyz
    exact hup root (h.reaches x)
  obtain ⟨next, hnext, -⟩ := Relation.TransGen.head'_iff.1 hroot
  exact absurd (h.parent_root.symm.trans hnext) (Option.some_ne_none next).symm

theorem IsTree.not_up_hasAncestor (h : t.IsTree root) (hup : t.parent x = some y)
    (hback : t.HasAncestor y x) : False :=
  h.acyclic x (Relation.TransGen.head' hup hback)

/-- Two nodes that are below each other are one. -/
theorem IsTree.antisymm (h : t.IsTree root) (hxy : t.HasAncestor x y) (hyx : t.HasAncestor y x) :
    x = y := by
  rcases hasAncestor_iff.1 hxy with rfl | ⟨z, hz, hzy⟩
  · rfl
  · exact (h.not_up_hasAncestor hz (hzy.trans hyx)).elim

/-- Nothing is below two children of a node. -/
theorem IsTree.not_below_siblings (h : t.IsTree root) (ha : t.parent a = some y)
    (hb : t.parent b = some y) (hne : a ≠ b) (hxa : t.HasAncestor x a) :
    ¬t.HasAncestor x b := by
  have hnot : ∀ c d, t.parent c = some y → t.parent d = some y → c ≠ d → ¬t.HasAncestor c d := by
    intro c d hc hd hcd habove
    rcases hasAncestor_iff.1 habove with rfl | ⟨p, hp, hpd⟩
    · exact hcd rfl
    · obtain rfl : p = y := t.up_rightUnique hp hc
      exact h.not_up_hasAncestor hd hpd
  intro hxb
  rcases hxa.total hxb with hab | hba
  · exact hnot a b ha hb hne hab
  · exact hnot b a hb ha hne.symm hba

/-- What holds of a node if it holds of its children holds of all nodes. -/
theorem IsTree.wellFounded [Finite α] (h : t.IsTree root) : WellFounded t.Up := by
  have hirrefl : Std.Irrefl (Relation.TransGen t.Up) := ⟨h.acyclic⟩
  have hwf : WellFounded (Relation.TransGen t.Up) := Finite.wellFounded_of_trans_of_irrefl _
  exact Subrelation.wf (fun hup => Relation.TransGen.single hup) hwf

/-! ## Climbing -/

section Climbing

variable [DecidableEq α]

/-- Whether `a` is `x` or found within so many steps to the parent. -/
def climbs (t : LinkedTree α) : Nat → α → α → Bool
  | 0, x, a => x = a
  | n + 1, x, a => x = a || (t.parent x).any (t.climbs n · a)

theorem hasAncestor_of_climbs {n : Nat} (h : t.climbs n x a = true) : t.HasAncestor x a := by
  induction n generalizing x with
  | zero => exact of_decide_eq_true h ▸ .refl t x
  | succ n ih =>
    rw [climbs, Bool.or_eq_true, decide_eq_true_iff, Option.any_eq_true] at h
    rcases h with rfl | ⟨y, hy, hclimbs⟩
    · exact .refl t x
    · exact .head hy (ih hclimbs)

theorem IsTree.climbs_of_hasAncestor [Fintype α] (h : t.IsTree root) (ha : t.HasAncestor x a) :
    t.climbs (Fintype.card α) x a = true := by
  classical
  let above (x : α) : Finset α := univ.filter (t.HasAncestor x)
  -- The parent of a node has fewer ancestors than the node.
  have hfewer : ∀ x y, t.parent x = some y → (above y).card < (above x).card := by
    intro x y hup
    refine card_lt_card ⟨fun z hz => ?_, fun hsub => ?_⟩
    · exact mem_filter.2 ⟨mem_univ z, .head hup (mem_filter.1 hz).2⟩
    · have hself : x ∈ above x := mem_filter.2 ⟨mem_univ x, .refl t x⟩
      exact h.not_up_hasAncestor hup (mem_filter.1 (hsub hself)).2
  have hclimbs : ∀ n x, (above x).card ≤ n → t.HasAncestor x a → t.climbs n x a = true := by
    intro n
    induction n with
    | zero =>
      intro x hcard ha
      have hself : x ∈ above x := mem_filter.2 ⟨mem_univ x, .refl t x⟩
      rw [card_eq_zero.1 (Nat.le_zero.1 hcard)] at hself
      cases hself
    | succ n ih =>
      intro x hcard ha
      rw [climbs, Bool.or_eq_true, decide_eq_true_iff, Option.any_eq_true]
      rcases LinkedTree.hasAncestor_iff.1 ha with rfl | ⟨y, hy, hya⟩
      · exact .inl rfl
      · exact .inr ⟨y, hy, ih y (by have := hfewer x y hy; omega) hya⟩
  exact hclimbs _ x (card_le_univ _) ha

theorem IsTree.climbs_iff [Fintype α] (h : t.IsTree root) :
    t.climbs (Fintype.card α) x a = true ↔ t.HasAncestor x a :=
  ⟨hasAncestor_of_climbs, h.climbs_of_hasAncestor⟩

end Climbing

end Ancestors

/-! ## Another parent -/

/-- In `t'` the node has come to the end of the children of the folder, from another parent. -/
structure Moved [DecidableEq α] (t t' : LinkedTree α) (node folder : α) : Prop where
  parent_self : t'.parent node = some folder
  parent_other : ∀ x, x ≠ node → t'.parent x = t.parent x
  children_folder : t'.children folder = t.children folder ++ [node]
  children_other : ∀ y, y ≠ folder → t'.children y = (t.children y).erase node

section Moved

variable [DecidableEq α] {t t' : LinkedTree α} {node folder root : α}

/-- Above what is not below the node nothing changes. -/
theorem Moved.hasAncestor_iff (hm : Moved t t' node folder) {x : α}
    (hnot : ¬t.HasAncestor x node) (a : α) : t'.HasAncestor x a ↔ t.HasAncestor x a := by
  constructor
  · intro h
    induction h using Relation.ReflTransGen.head_induction_on with
    | refl => exact .refl t a
    | @head x y hup _ ih =>
      have hx : x ≠ node := fun heq => hnot (heq ▸ .refl t x)
      have hparent : t.parent x = some y := (hm.parent_other x hx).symm.trans hup
      exact .head hparent (ih fun hy => hnot (.head hparent hy))
  · intro h
    induction h using Relation.ReflTransGen.head_induction_on with
    | refl => exact .refl t' a
    | @head x y hup _ ih =>
      have hx : x ≠ node := fun heq => hnot (heq ▸ .refl t x)
      have hparent : t'.parent x = some y := (hm.parent_other x hx).trans hup
      exact .head hparent (ih fun hy => hnot (.head hup hy))

/-- What is below the node stays below it. -/
theorem Moved.below (hm : Moved t t' node folder) {x : α} (h : t.HasAncestor x node) :
    t'.HasAncestor x node := by
  induction h using Relation.ReflTransGen.head_induction_on with
  | refl => exact .refl t' node
  | @head x y hup _ ih =>
    by_cases hx : x = node
    · exact hx ▸ .refl t' x
    · exact .head ((hm.parent_other x hx).trans hup) ih

theorem IsTree.moved (h : t.IsTree root) (hm : Moved t t' node folder)
    (hnot : ¬t.HasAncestor folder node) (hparent : t.parent node ≠ some folder) :
    t'.IsTree root where
  parent_root := by
    have hroot : root ≠ node := fun heq => hnot (heq ▸ h.reaches folder)
    rw [hm.parent_other root hroot, h.parent_root]
  reaches x := by
    by_cases hx : t.HasAncestor x node
    · have hfolder : t'.HasAncestor folder root :=
        (hm.hasAncestor_iff hnot root).2 (h.reaches folder)
      exact (hm.below hx).trans (.head hm.parent_self hfolder)
    · exact (hm.hasAncestor_iff hx root).2 (h.reaches x)
  mem_children x y := by
    by_cases hx : x = node
    · subst hx
      by_cases hy : y = folder
      · subst hy
        rw [hm.children_folder, hm.parent_self]
        simp
      · rw [hm.children_other y hy, hm.parent_self]
        have hgone : x ∉ (t.children y).erase x := (h.nodup y).not_mem_erase
        refine iff_of_false hgone fun heq => hy (Option.some.inj heq).symm
    · rw [hm.parent_other x hx, ← h.mem_children x y]
      by_cases hy : y = folder
      · subst hy
        rw [hm.children_folder]
        simp [hx]
      · rw [hm.children_other y hy]
        exact List.mem_erase_of_ne hx
  nodup y := by
    by_cases hy : y = folder
    · subst hy
      have hnew : node ∉ t.children y := fun hmem => hparent ((h.mem_children node y).1 hmem)
      rw [hm.children_folder, List.nodup_append_comm]
      exact List.nodup_cons.2 ⟨hnew, h.nodup y⟩
    · rw [hm.children_other y hy]
      exact (h.nodup y).erase node

end Moved

end LinkedTree

end Lib
