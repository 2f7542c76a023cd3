import Mathlib.Data.List.TakeWhile
import Mathlib.Order.Lattice

/-!
# Ordered sets

A container in the order of its elements' keys, with at most one element of each
key, as `std::set` is one for a comparator.

- `OrderedSet.insert`, `erase`, `ofList`: their effect on membership.
- `OrderedSet.firsts`: what `ofList` keeps of a range.
- `OrderedSet.find`: an iterator, as the elements it has still to visit.
- `setDifference`: the merge that `std::set_difference` makes of two ordered
  ranges, which may use a finer key than the sets they come from.
- `setIntersection`: the merge of `std::set_intersection`, which keeps the rest of
  the first range.
-/

namespace Lib

open List

universe u v

variable {α : Type u} {κ : Type v} [LinearOrder κ]

/-- A list in increasing order of the keys. -/
structure OrderedSet (key : α → κ) where
  elems : List α
  sorted : elems.Pairwise fun a b => key a < key b

namespace OrderedSet

variable {key : α → κ}

instance : Membership α (OrderedSet key) := ⟨fun s a => a ∈ s.elems⟩

variable {s : OrderedSet key}

theorem mem_def {a : α} : a ∈ s ↔ a ∈ s.elems := Iff.rfl

def empty : OrderedSet key := ⟨[], .nil⟩

@[simp] theorem notMem_empty (a : α) : a ∉ (empty : OrderedSet key) := not_mem_nil

/-! ## Insertion -/

/-- Inserts `x` in its place, unless an element of its key is there. -/
def insertIn (key : α → κ) (x : α) : List α → List α
  | [] => [x]
  | y :: l =>
    if key x < key y then x :: y :: l
    else if key y < key x then y :: insertIn key x l
    else y :: l

theorem mem_insertIn {x y : α} {l : List α} (hl : l.Pairwise fun a b => key a < key b) :
    y ∈ insertIn key x l ↔ y ∈ l ∨ (y = x ∧ ∀ z ∈ l, key z ≠ key x) := by
  induction hl with
  | nil => simp [insertIn]
  | @cons z l hz _ ih =>
    rw [insertIn]
    split
    · next hlt =>
      have hne : ∀ z' ∈ z :: l, key z' ≠ key x := by
        intro z' hz'
        rcases mem_cons.1 hz' with rfl | hmem
        · exact hlt.ne'
        · exact (hlt.trans (hz z' hmem)).ne'
      simp only [mem_cons (b := x), or_comm (a := y = x), and_iff_left hne]
    · next hnlt =>
      split
      · next hgt => simp [ih, hgt.ne, or_assoc]
      · next hngt =>
        have heq : key z = key x := le_antisymm (not_lt.1 hnlt) (not_lt.1 hngt)
        simp [heq]

theorem pairwise_insertIn {x : α} {l : List α} (hl : l.Pairwise fun a b => key a < key b) :
    (insertIn key x l).Pairwise fun a b => key a < key b := by
  induction hl with
  | nil => exact pairwise_singleton _ _
  | @cons z l hz hl ih =>
    rw [insertIn]
    split
    · next hlt =>
      refine .cons (fun y hy => ?_) (.cons hz hl)
      rcases mem_cons.1 hy with rfl | hmem
      · exact hlt
      · exact hlt.trans (hz y hmem)
    · split
      · next hgt =>
        refine .cons (fun y hy => ?_) ih
        rcases (mem_insertIn hl).1 hy with hmem | ⟨rfl, -⟩
        · exact hz y hmem
        · exact hgt
      · exact .cons hz hl

/-- `insert` of `std::set`: an element of the same key stays. -/
def insert (s : OrderedSet key) (x : α) : OrderedSet key :=
  ⟨insertIn key x s.elems, pairwise_insertIn s.sorted⟩

theorem mem_insert {x y : α} : y ∈ s.insert x ↔ y ∈ s ∨ (y = x ∧ ∀ z ∈ s, key z ≠ key x) :=
  mem_insertIn s.sorted

/-- The set of the elements of a range, inserted one after the other. -/
def ofList (key : α → κ) (l : List α) : OrderedSet key := l.foldl insert empty

/-- Elements with distinct keys all get in. -/
theorem mem_foldl_insert {l : List α} {s : OrderedSet key}
    (hl : l.Pairwise fun a b => key a ≠ key b)
    (hs : ∀ a ∈ l, ∀ b ∈ s, key b ≠ key a) {x : α} :
    x ∈ l.foldl insert s ↔ x ∈ s ∨ x ∈ l := by
  induction hl generalizing s with
  | nil => simp
  | @cons a l ha _ ih =>
    have hins : ∀ {y : α}, y ∈ s.insert a ↔ y ∈ s ∨ y = a := by
      intro y
      rw [mem_insert, and_iff_left (hs a mem_cons_self)]
    rw [foldl_cons, ih, hins, mem_cons, or_assoc]
    intro c hc b hb
    rcases hins.1 hb with hb' | rfl
    · exact hs c (mem_cons_of_mem _ hc) b hb'
    · exact ha c hc

theorem mem_ofList {l : List α} (hl : l.Pairwise fun a b => key a ≠ key b) {x : α} :
    x ∈ ofList key l ↔ x ∈ l := by
  rw [ofList, mem_foldl_insert hl (fun _ _ b hb => absurd hb (notMem_empty b))]
  exact or_iff_right (notMem_empty x)

/-- The elements of a range that are the first of their key. -/
def firsts (key : α → κ) : List α → List α
  | [] => []
  | a :: l => a :: (firsts key l).filter fun b => key b ≠ key a

theorem mem_firsts_cons {a x : α} {l : List α} :
    x ∈ firsts key (a :: l) ↔ x = a ∨ (x ∈ firsts key l ∧ key a ≠ key x) := by
  rw [firsts, mem_cons, mem_filter, decide_eq_true_iff, ne_comm]

/-- Of the elements of a range, those get in that are the first of a key that
is not there yet. -/
theorem mem_foldl_insert_firsts {l : List α} {s : OrderedSet key} {x : α} :
    x ∈ l.foldl insert s ↔ x ∈ s ∨ (x ∈ firsts key l ∧ ∀ b ∈ s, key b ≠ key x) := by
  induction l generalizing s with
  | nil => simp [firsts]
  | cons a l ih =>
    rw [foldl_cons, ih, mem_insert, mem_firsts_cons]
    -- the first element is in the set from now on, or one of its key is
    have hfree : (∀ b ∈ s.insert a, key b ≠ key x) ↔
        (∀ b ∈ s, key b ≠ key x) ∧ key a ≠ key x := by
      simp only [mem_insert]
      constructor
      · intro h
        refine ⟨fun b hb => h b (.inl hb), fun heq => ?_⟩
        by_cases hin : ∀ z ∈ s, key z ≠ key a
        · exact h a (.inr ⟨rfl, hin⟩) heq
        · push Not at hin
          obtain ⟨z, hz, hkey⟩ := hin
          exact h z (.inl hz) (hkey.trans heq)
      · rintro ⟨hs, ha⟩ b (hb | ⟨rfl, -⟩)
        · exact hs b hb
        · exact ha
    rw [hfree]
    constructor
    · rintro ((hx | ⟨rfl, hnew⟩) | ⟨hx, hs, ha⟩)
      · exact .inl hx
      · exact .inr ⟨.inl rfl, hnew⟩
      · exact .inr ⟨.inr ⟨hx, ha⟩, hs⟩
    · rintro (hx | ⟨rfl | ⟨hx, ha⟩, hs⟩)
      · exact .inl (.inl hx)
      · exact .inl (.inr ⟨rfl, hs⟩)
      · exact .inr ⟨hx, hs, ha⟩

theorem mem_ofList_iff {l : List α} {x : α} : x ∈ ofList key l ↔ x ∈ firsts key l := by
  rw [ofList, mem_foldl_insert_firsts, or_iff_right (notMem_empty x), and_iff_left]
  exact fun b hb => absurd hb (notMem_empty b)

/-! ## Removal and search -/

/-- How many elements `erase` removes. -/
def erased (s : OrderedSet key) (k : κ) : Nat := s.elems.countP fun a => key a = k

/-- `erase` of `std::set`. -/
def erase (s : OrderedSet key) (k : κ) : OrderedSet key :=
  ⟨s.elems.filter fun a => key a ≠ k, s.sorted.filter _⟩

@[simp] theorem mem_erase {k : κ} {a : α} : a ∈ s.erase k ↔ a ∈ s ∧ key a ≠ k := by
  rw [mem_def, mem_def, erase, mem_filter, decide_eq_true_iff]

/-- An element of the key is the only one. -/
theorem erased_eq_one {a : α} (ha : a ∈ s) : s.erased (key a) = 1 := by
  rw [mem_def] at ha
  obtain ⟨l₁, l₂, hl⟩ := append_of_mem ha
  have hsorted := s.sorted
  rw [erased]
  rw [hl] at hsorted ⊢
  obtain ⟨-, h₂, h₁⟩ := pairwise_append.1 hsorted
  have hleft : l₁.countP (fun b => key b = key a) = 0 := by
    rw [countP_eq_zero]
    intro b hb
    simpa using (h₁ b hb a mem_cons_self).ne
  have hright : l₂.countP (fun b => key b = key a) = 0 := by
    rw [countP_eq_zero]
    intro b hb
    simpa using ((pairwise_cons.1 h₂).1 b hb).ne'
  rw [countP_append, countP_cons, hleft, hright]
  simp

/-- `find` of `std::set`: the iterator at the element of the key, as the
elements from there on; none is `end()`. -/
def find (s : OrderedSet key) (k : κ) : List α := s.elems.dropWhile fun a => key a ≠ k

theorem find_eq_nil_iff {k : κ} : s.find k = [] ↔ ∀ a ∈ s, key a ≠ k := by
  rw [find, dropWhile_eq_nil_iff]
  simp only [decide_eq_true_iff]
  rfl

/-- What an iterator visits after the element that was found. -/
theorem find_eq_cons {k : κ} {a : α} {it : List α} (h : s.find k = a :: it) :
    key a = k ∧ (a :: it).Pairwise (fun a b => key a < key b) ∧
      ∀ b, b ∈ it ↔ b ∈ s ∧ k < key b := by
  have hsplit := takeWhile_append_dropWhile (p := fun a => decide (key a ≠ k)) (l := s.elems)
  have hsorted := s.sorted
  rw [find] at h
  rw [← hsplit, h] at hsorted
  obtain ⟨-, hit, hlt⟩ := pairwise_append.1 hsorted
  have ha : key a = k := by
    have hhead := head?_dropWhile_not (fun a => decide (key a ≠ k)) s.elems
    rw [h] at hhead
    simpa using hhead
  refine ⟨ha, hit, fun b => ⟨fun hb => ⟨?_, ?_⟩, fun ⟨hb, hkb⟩ => ?_⟩⟩
  · rw [mem_def, ← hsplit, h]
    exact mem_append_right _ (mem_cons_of_mem _ hb)
  · rw [← ha]
    exact (pairwise_cons.1 hit).1 b hb
  · rw [mem_def, ← hsplit, h] at hb
    rcases mem_append.1 hb with hleft | hright
    · -- before the element found, the keys are smaller
      have := hlt b hleft a mem_cons_self
      rw [ha] at this
      exact absurd hkb this.asymm
    · rcases mem_cons.1 hright with rfl | hmem
      · exact absurd ha hkb.ne'
      · exact hmem

end OrderedSet

/-! ## Difference of ordered ranges -/

/-- `std::set_difference`: a merge of two ranges in the order of `key`. What is
smaller in the second range is passed over. -/
def setDifference (key : α → κ) : List α → List α → List α
  | [], _ => []
  | a :: as, bs =>
    match bs.dropWhile fun b => key b < key a with
    | [] => a :: as
    | b :: bs' =>
      if key a < key b then a :: setDifference key as (b :: bs') else setDifference key as bs'

theorem setDifference_sublist (key : α → κ) (as bs : List α) :
    (setDifference key as bs).Sublist as := by
  induction as generalizing bs with
  | nil => exact .slnil
  | cons a as ih =>
    rw [setDifference]
    split
    · exact .refl _
    · split
      · exact (ih _).cons_cons a
      · exact (ih _).cons a

/-- What is passed over is smaller than all that follows. -/
theorem mem_of_dropWhile_lt {key : α → κ} {k : κ} {bs : List α}
    (hbs : bs.Pairwise fun a b => key a < key b) :
    (bs.dropWhile fun b => key b < k).Pairwise (fun a b => key a < key b) ∧
      (∀ b ∈ bs.dropWhile fun b => key b < k, k ≤ key b) ∧
      ∀ b ∈ bs, b ∈ (bs.dropWhile fun b => key b < k) ∨ key b < k := by
  induction hbs with
  | nil => simp
  | @cons b bs hb hbs ih =>
    rw [dropWhile_cons]
    by_cases hlt : key b < k
    · rw [if_pos (decide_eq_true hlt)]
      refine ⟨ih.1, ih.2.1, fun c hc => ?_⟩
      rcases mem_cons.1 hc with rfl | hmem
      · exact .inr hlt
      · exact ih.2.2 c hmem
    · rw [if_neg (by simpa using hlt)]
      refine ⟨.cons hb hbs, fun c hc => ?_, fun c hc => .inl hc⟩
      rcases mem_cons.1 hc with rfl | hmem
      · exact not_lt.1 hlt
      · exact (not_lt.1 hlt).trans (hb c hmem).le

/-- What is in the first range and has no element of its key in the second. -/
theorem mem_setDifference {key : α → κ} {as bs : List α}
    (has : as.Pairwise fun a b => key a < key b) (hbs : bs.Pairwise fun a b => key a < key b)
    {x : α} : x ∈ setDifference key as bs ↔ x ∈ as ∧ ∀ b ∈ bs, key b ≠ key x := by
  induction has generalizing bs with
  | nil => simp [setDifference]
  | @cons a as ha has ih =>
    obtain ⟨hdrop, hge, hmem⟩ := mem_of_dropWhile_lt (k := key a) hbs
    -- of the second range, only what is not passed over can match
    have hmatch : ∀ y ∈ a :: as, (∀ b ∈ bs, key b ≠ key y) ↔
        ∀ b ∈ bs.dropWhile fun b => key b < key a, key b ≠ key y := by
      intro y hy
      refine ⟨fun h b hb => h b (dropWhile_subset _ hb), fun h b hb => ?_⟩
      rcases hmem b hb with hb' | hlt
      · exact h b hb'
      · rcases mem_cons.1 hy with rfl | hy'
        · exact hlt.ne
        · exact (hlt.trans (ha y hy')).ne
    rw [and_congr_right fun hx => hmatch x hx, setDifference]
    generalize bs.dropWhile (fun b => key b < key a) = bs' at hdrop hge
    match bs' with
    | [] => simp
    | b :: bs' =>
      obtain ⟨hb, hdrop'⟩ := pairwise_cons.1 hdrop
      simp only
      split
      · next hlt =>
        have hne : ∀ c ∈ b :: bs', key c ≠ key a := by
          intro c hc
          rcases mem_cons.1 hc with rfl | hmem'
          · exact hlt.ne'
          · exact (hlt.trans (hb c hmem')).ne'
        rw [mem_cons, mem_cons, ih hdrop, or_and_right]
        refine or_congr_left (and_iff_left_of_imp ?_).symm
        rintro rfl
        exact hne
      · next hnlt =>
        have heq : key b = key a :=
          le_antisymm (not_lt.1 hnlt) (hge b mem_cons_self)
        rw [ih hdrop', mem_cons, forall_mem_cons, heq]
        constructor
        · rintro ⟨hx, hne⟩
          exact ⟨.inr hx, (ha x hx).ne, hne⟩
        · rintro ⟨rfl | hx, hne, hne'⟩
          · exact absurd rfl hne
          · exact ⟨hx, hne'⟩

/-! ## Intersection of ordered ranges -/

/-- `std::set_intersection`: what it takes comes from the first range. -/
def setIntersection (key : α → κ) : List α → List α → List α
  | [], _ => []
  | a :: as, bs =>
    match bs.dropWhile fun b => key b < key a with
    | [] => []
    | b :: bs' =>
      if key a < key b then setIntersection key as (b :: bs') else a :: setIntersection key as bs'

theorem setIntersection_sublist (key : α → κ) (as bs : List α) :
    (setIntersection key as bs).Sublist as := by
  induction as generalizing bs with
  | nil => exact .slnil
  | cons a as ih =>
    rw [setIntersection]
    split
    · exact nil_sublist _
    · split
      · exact (ih _).cons a
      · exact (ih _).cons_cons a

/-- The two merges share the first range out. -/
theorem perm_setDifference_append (key : α → κ) (as bs : List α) :
    (setDifference key as bs ++ setIntersection key as bs).Perm as := by
  induction as generalizing bs with
  | nil => exact .refl _
  | cons a as ih =>
    rw [setDifference, setIntersection]
    split
    · rw [append_nil]
    · split
      · exact (ih _).cons a
      · exact perm_middle.trans ((ih _).cons a)

/-- What is in the first range and has an element of its key in the second. -/
theorem mem_setIntersection {key : α → κ} {as bs : List α}
    (has : as.Pairwise fun a b => key a < key b) (hbs : bs.Pairwise fun a b => key a < key b)
    {x : α} : x ∈ setIntersection key as bs ↔ x ∈ as ∧ ∃ b ∈ bs, key b = key x := by
  have hperm := perm_setDifference_append key as bs
  have hnodup : as.Nodup := has.imp fun hlt heq => (heq ▸ hlt).false
  have hdisjoint := (nodup_append.1 (hperm.nodup_iff.2 hnodup)).2.2
  have hmem := mem_setDifference has hbs (x := x)
  constructor
  · intro hx
    have hxas : x ∈ as := hperm.mem_iff.1 (mem_append_right _ hx)
    refine ⟨hxas, ?_⟩
    by_contra hnone
    push Not at hnone
    exact hdisjoint x (hmem.2 ⟨hxas, hnone⟩) x hx rfl
  · rintro ⟨hxas, b, hb, hkey⟩
    refine (mem_append.1 (hperm.mem_iff.2 hxas)).resolve_left ?_
    intro hx
    exact (hmem.1 hx).2 b hb hkey

end Lib
