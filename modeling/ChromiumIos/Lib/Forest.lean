import Mathlib.Algebra.GroupWithZero.Nat
import Mathlib.Data.List.Basic

/-!
# Ordered forests

A *forest* is a sequence of trees whose inner nodes and whose leaves carry data: each tree comes
with the trees that follow it.

- `Forest.append`: one forest after another.
- `Forest.expand`: every leaf is replaced by a forest. `expand_expand` is the composition of
  two replacements, `expand_congr` says that only the leaves that occur matter.
- `Forest.trees`, `Forest.select`: the trees at the top, and the inner nodes with a property.
- `Forest.modify`: one of the selected inner nodes is changed.
- `Forest.seek`, `Forest.alter`: what is at a place, and a change of it. What the change keeps of
  the leaves at the place it keeps of all leaves.
-/

namespace Lib

open List

universe u v

inductive Forest (L : Type u) (N : Type v)
  | nil
  | leaf (a : L) (next : Forest L N)
  | node (b : N) (children next : Forest L N)
deriving DecidableEq, Repr

namespace Forest

variable {L : Type u} {N : Type v}

/-! ## One after another -/

def append : Forest L N → Forest L N → Forest L N
  | nil, t => t
  | leaf a next, t => leaf a (next.append t)
  | node b children next, t => node b children (next.append t)

instance : Append (Forest L N) := ⟨append⟩

@[simp] theorem nil_append (t : Forest L N) : nil ++ t = t := rfl

@[simp] theorem leaf_append (a : L) (next t : Forest L N) :
    leaf a next ++ t = leaf a (next ++ t) := rfl

@[simp] theorem node_append (b : N) (children next t : Forest L N) :
    node b children next ++ t = node b children (next ++ t) := rfl

@[simp] theorem append_nil (s : Forest L N) : s ++ nil = s := by
  induction s with
  | nil => rfl
  | leaf a next ih => exact congrArg (leaf a) ih
  | node b children next _ ih => exact congrArg (node b children) ih

theorem append_assoc (s t r : Forest L N) : s ++ t ++ r = s ++ (t ++ r) := by
  induction s with
  | nil => rfl
  | leaf a next ih => exact congrArg (leaf a) ih
  | node b children next _ ih => exact congrArg (node b children) ih

/-- Several forests, one after another. -/
def concat : List (Forest L N) → Forest L N
  | [] => nil
  | t :: ts => t ++ concat ts

@[simp] theorem concat_nil : concat ([] : List (Forest L N)) = nil := rfl

@[simp] theorem concat_cons (t : Forest L N) (ts : List (Forest L N)) :
    concat (t :: ts) = t ++ concat ts := rfl

theorem concat_append (ss ts : List (Forest L N)) :
    concat (ss ++ ts) = concat ss ++ concat ts := by
  induction ss with
  | nil => rfl
  | cons s ss ih => rw [cons_append, concat_cons, concat_cons, ih, append_assoc]

/-! ## Leaves -/

/-- The leaves from left to right. -/
def leaves : Forest L N → List L
  | nil => []
  | leaf a next => a :: next.leaves
  | node _ children next => children.leaves ++ next.leaves

@[simp] theorem leaves_append (s t : Forest L N) : (s ++ t).leaves = s.leaves ++ t.leaves := by
  induction s with
  | nil => rfl
  | leaf a next ih => exact congrArg (a :: ·) ih
  | node b children next _ ih =>
    exact (congrArg (children.leaves ++ ·) ih).trans (List.append_assoc _ _ _).symm

theorem mem_leaves_concat {a : L} {ts : List (Forest L N)} :
    a ∈ (concat ts).leaves ↔ ∃ t ∈ ts, a ∈ t.leaves := by
  induction ts with
  | nil => simp [concat, leaves]
  | cons t ts ih => simp [ih]

/-! ## Replacing leaves -/

/-- Every leaf is replaced by a forest. -/
def expand (f : L → Forest L N) : Forest L N → Forest L N
  | nil => nil
  | leaf a next => f a ++ next.expand f
  | node b children next => node b (children.expand f) (next.expand f)

variable (f : L → Forest L N)

@[simp] theorem expand_nil : (nil : Forest L N).expand f = nil := rfl

@[simp] theorem expand_leaf (a : L) (next : Forest L N) :
    (leaf a next).expand f = f a ++ next.expand f := rfl

@[simp] theorem expand_node (b : N) (children next : Forest L N) :
    (node b children next).expand f = node b (children.expand f) (next.expand f) := rfl

@[simp] theorem expand_append (s t : Forest L N) :
    (s ++ t).expand f = s.expand f ++ t.expand f := by
  induction s with
  | nil => rfl
  | leaf a next ih => rw [leaf_append, expand_leaf, expand_leaf, ih, append_assoc]
  | node b children next _ ih => rw [node_append, expand_node, expand_node, ih, node_append]

theorem mem_leaves_expand {f : L → Forest L N} {c : L} {s : Forest L N} :
    c ∈ (s.expand f).leaves ↔ ∃ a ∈ s.leaves, c ∈ (f a).leaves := by
  induction s with
  | nil => simp [leaves]
  | leaf a next ih => simp [leaves, ih]
  | node b children next ihChildren ih => simp [leaves, ihChildren, ih, or_and_right, exists_or]

/-- One replacement after another. -/
theorem expand_expand (f g : L → Forest L N) (s : Forest L N) :
    (s.expand f).expand g = s.expand fun a => (f a).expand g := by
  induction s with
  | nil => rfl
  | leaf a next ih => rw [expand_leaf, expand_append, ih, expand_leaf]
  | node b children next ihChildren ih => rw [expand_node, expand_node, ihChildren, ih, expand_node]

/-- Only the leaves that occur matter. -/
theorem expand_congr {f g : L → Forest L N} {s : Forest L N} (h : ∀ a ∈ s.leaves, f a = g a) :
    s.expand f = s.expand g := by
  induction s with
  | nil => rfl
  | leaf a next ih =>
    rw [expand_leaf, expand_leaf, h a mem_cons_self,
      ih fun b hb => h b (mem_cons_of_mem a hb)]
  | node b children next ihChildren ih =>
    rw [expand_node, expand_node, ihChildren fun a ha => h a (mem_append_left _ ha),
      ih fun a ha => h a (mem_append_right _ ha)]

theorem expand_id (s : Forest L N) : s.expand (fun a => leaf a nil) = s := by
  induction s with
  | nil => rfl
  | leaf a next ih => rw [expand_leaf, ih, leaf_append, nil_append]
  | node b children next ihChildren ih => rw [expand_node, ihChildren, ih]

/-- Nothing changes where every leaf that occurs is kept. -/
theorem expand_eq_self {f : L → Forest L N} {s : Forest L N}
    (h : ∀ a ∈ s.leaves, f a = leaf a nil) : s.expand f = s :=
  (expand_congr h).trans s.expand_id

/-! ## Trees -/

/-- A leaf, or an inner node with the forest below it. -/
inductive Tree (L : Type u) (N : Type v)
  | leaf (a : L)
  | node (b : N) (children : Forest L N)
deriving DecidableEq, Repr

/-- The trees at the top. -/
def trees : Forest L N → List (Tree L N)
  | nil => []
  | leaf a next => .leaf a :: next.trees
  | node b children next => .node b children :: next.trees

/-- The number of trees in the forest, at any depth. -/
def size : Forest L N → Nat
  | nil => 0
  | leaf _ next => next.size + 1
  | node _ children next => children.size + next.size + 1

def Tree.size : Tree L N → Nat
  | .leaf _ => 1
  | .node _ children => children.size + 1

theorem sum_size_trees (s : Forest L N) : (s.trees.map Tree.size).sum = s.size := by
  induction s with
  | nil => rfl
  | leaf a next ih =>
    rw [trees, map_cons, sum_cons, ih, size, Tree.size]
    omega
  | node b children next _ ih =>
    rw [trees, map_cons, sum_cons, ih, size, Tree.size]
    omega

/-- The inner nodes that `p` holds of, in document order, each with the forest below it. -/
def select (p : N → Bool) : Forest L N → List (N × Forest L N)
  | nil => []
  | leaf _ next => next.select p
  | node b children next =>
    (if p b then [(b, children)] else []) ++ (children.select p ++ next.select p)

/-- The inner node at a position among those that `p` holds of is changed by `f`. -/
def modify (p : N → Bool) (f : N → N) : Nat → Forest L N → Forest L N
  | _, nil => nil
  | i, leaf a next => leaf a (next.modify p f i)
  | i, node b children next =>
    if p b then
      match i with
      | 0 => node (f b) children next
      | i + 1 =>
        if i < (children.select p).length then node b (children.modify p f i) next
        else node b children (next.modify p f (i - (children.select p).length))
    else if i < (children.select p).length then node b (children.modify p f i) next
    else node b children (next.modify p f (i - (children.select p).length))

/-- The number of selected nodes stays where `f` keeps `p`. -/
theorem length_select_modify {p : N → Bool} {f : N → N} (hf : ∀ b, p (f b) = p b) (i : Nat)
    (s : Forest L N) : ((s.modify p f i).select p).length = (s.select p).length := by
  induction s generalizing i with
  | nil => rfl
  | leaf a next ih => exact ih i
  | node b children next ihChildren ih =>
    by_cases hp : p b = true
    · cases i with
      | zero => simp [modify, select, hp, hf]
      | succ i =>
        by_cases hi : i < (children.select p).length
        · simp [modify, select, hp, hi, ihChildren]
        · simp [modify, select, hp, hi, ih]
    · by_cases hi : i < (children.select p).length
      · simp [modify, select, hp, hi, ihChildren]
      · simp [modify, select, hp, hi, ih]

/-! ## Places -/

/-- A move to a place of a forest: past its first tree, or below its first node. -/
inductive Move
  | next
  | down
deriving DecidableEq, Repr

/-- What is at a place, with the trees that follow. -/
def seek : List Move → Forest L N → Forest L N
  | [], t => t
  | .next :: place, leaf _ next => next.seek place
  | .next :: place, node _ _ next => next.seek place
  | .down :: place, node _ children _ => children.seek place
  | _ :: _, _ => nil

/-- What is at a place, with the trees that follow, is changed by `f`. -/
def alter (f : Forest L N → Forest L N) : List Move → Forest L N → Forest L N
  | [], t => f t
  | .next :: place, leaf a next => leaf a (next.alter f place)
  | .next :: place, node b children next => node b children (next.alter f place)
  | .down :: place, node b children next => node b (children.alter f place) next
  | _ :: _, t => t

/-- The forest has the place. -/
def hasPlace : List Move → Forest L N → Bool
  | [], _ => true
  | .next :: place, leaf _ next => next.hasPlace place
  | .next :: place, node _ _ next => next.hasPlace place
  | .down :: place, node _ children _ => children.hasPlace place
  | _ :: _, _ => false

/-- The first tree. -/
def head : Forest L N → Forest L N
  | nil => nil
  | leaf a _ => leaf a nil
  | node b children _ => node b children nil

/-- The trees after the first. -/
def tail : Forest L N → Forest L N
  | nil => nil
  | leaf _ next => next
  | node _ _ next => next

theorem head_append_tail (t : Forest L N) : t.head ++ t.tail = t := by
  cases t <;> rfl

theorem mem_leaves_tail {t : Forest L N} {a : L} (ha : a ∈ t.leaves) (hhead : a ∉ t.head.leaves) :
    a ∈ t.tail.leaves := by
  rw [← t.head_append_tail, leaves_append, mem_append] at ha
  exact ha.resolve_left hhead

theorem mem_leaves_alter_of_mem {f : Forest L N → Forest L N} {place : List Move} {a : L}
    {t : Forest L N} (hf : a ∈ (t.seek place).leaves → a ∈ (f (t.seek place)).leaves)
    (ha : a ∈ t.leaves) : a ∈ (t.alter f place).leaves := by
  induction place generalizing t with
  | nil => exact hf ha
  | cons move place ih =>
    cases t with
    | nil => cases move <;> exact ha
    | leaf b next =>
      cases move with
      | down => exact ha
      | next =>
        rcases mem_cons.1 ha with rfl | ha
        · exact mem_cons_self
        · exact mem_cons_of_mem b (ih hf ha)
    | node b children next =>
      cases move with
      | next =>
        rcases mem_append.1 ha with ha | ha
        · exact mem_append_left _ ha
        · exact mem_append_right _ (ih hf ha)
      | down =>
        rcases mem_append.1 ha with ha | ha
        · exact mem_append_left _ (ih hf ha)
        · exact mem_append_right _ ha

/-- The leaves of the changed part are leaves of the forest. -/
theorem mem_leaves_alter_of_hasPlace {f : Forest L N → Forest L N} {place : List Move} {a : L}
    {t : Forest L N} (hplace : t.hasPlace place = true) (ha : a ∈ (f (t.seek place)).leaves) :
    a ∈ (t.alter f place).leaves := by
  induction place generalizing t with
  | nil => exact ha
  | cons move place ih =>
    cases t with
    | nil => cases move <;> exact absurd hplace Bool.false_ne_true
    | leaf b next =>
      cases move with
      | down => exact absurd hplace Bool.false_ne_true
      | next => exact mem_cons_of_mem b (ih hplace ha)
    | node b children next =>
      cases move with
      | next => exact mem_append_right _ (ih hplace ha)
      | down => exact mem_append_left _ (ih hplace ha)

/-! ## Leaves and the nodes above them -/

/-- Each leaf with the inner nodes above it, the lowest first. -/
def leavesUnder (above : List N) : Forest L N → List (L × List N)
  | nil => []
  | leaf a next => (a, above) :: next.leavesUnder above
  | node b children next => children.leavesUnder (b :: above) ++ next.leavesUnder above

@[simp] theorem leavesUnder_append (above : List N) (s t : Forest L N) :
    (s ++ t).leavesUnder above = s.leavesUnder above ++ t.leavesUnder above := by
  induction s with
  | nil => rfl
  | leaf a next ih => exact congrArg (cons _) ih
  | node b children next _ ih =>
    exact (congrArg (_ ++ ·) ih).trans (List.append_assoc _ _ _).symm

theorem map_fst_leavesUnder (above : List N) (t : Forest L N) :
    (t.leavesUnder above).map Prod.fst = t.leaves := by
  induction t generalizing above with
  | nil => rfl
  | leaf a next ih => exact congrArg (cons a) (ih above)
  | node b children next ihChildren ih =>
    rw [leavesUnder, map_append, ihChildren, ih, leaves]

/-- What the change keeps of the selected leaves of its place it keeps of all of them. -/
theorem filter_leavesUnder_alter {p : L × List N → Bool} {f : Forest L N → Forest L N}
    {place : List Move} {t : Forest L N}
    (hf : ∀ above, ((f (t.seek place)).leavesUnder above).filter p =
      ((t.seek place).leavesUnder above).filter p) (above : List N) :
    ((t.alter f place).leavesUnder above).filter p = (t.leavesUnder above).filter p := by
  induction place generalizing t above with
  | nil => exact hf above
  | cons move place ih =>
    cases t with
    | nil => cases move <;> rfl
    | leaf a next =>
      cases move with
      | down => rfl
      | next =>
        rw [alter, leavesUnder, leavesUnder, filter_cons, filter_cons, ih hf]
    | node b children next =>
      cases move with
      | next => rw [alter, leavesUnder, leavesUnder, filter_append, filter_append, ih hf]
      | down => rw [alter, leavesUnder, leavesUnder, filter_append, filter_append, ih hf]

end Forest

end Lib
