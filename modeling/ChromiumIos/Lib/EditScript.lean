import Mathlib.Data.List.Basic

/-!
# Edit scripts by position

The operations that turn one list into another, each by the position it is about:
a deletion and a substitution by a position of the first list, an insertion by a
position of the second.

- `Turns`: a script that turns the first items of one list into those of another.
- `replay`: deletes and inserts as a script says, and tells of each item where it
  comes from.
- `Turns.replay`: what is replayed is the second list, but for the substitutions.
-/

namespace Lib

open List Nat

universe u

structure EditScript where
  substitutions : List Nat
  deletions : List Nat
  insertions : List Nat
deriving DecidableEq, Repr

namespace EditScript

variable {α : Type u}

/-- How many operations there are. -/
def cost (s : EditScript) : Nat :=
  s.substitutions.length + s.deletions.length + s.insertions.length

/-- The script turns the first `i` items of `xs` into the first `j` of `ys`. -/
inductive Turns (xs ys : List α) : Nat → Nat → EditScript → Prop
  | nil : Turns xs ys 0 0 ⟨[], [], []⟩
  | keep {i j : Nat} {s : EditScript} (hx : i < xs.length) (hy : j < ys.length)
      (heq : xs[i] = ys[j]) (h : Turns xs ys i j s) : Turns xs ys (i + 1) (j + 1) s
  | substitute {i j : Nat} {s : EditScript} (hx : i < xs.length) (hy : j < ys.length)
      (h : Turns xs ys i j s) :
      Turns xs ys (i + 1) (j + 1) ⟨s.substitutions ++ [i], s.deletions, s.insertions⟩
  | delete {i j : Nat} {s : EditScript} (hx : i < xs.length) (h : Turns xs ys i j s) :
      Turns xs ys (i + 1) j ⟨s.substitutions, s.deletions ++ [i], s.insertions⟩
  | insert {i j : Nat} {s : EditScript} (hy : j < ys.length) (h : Turns xs ys i j s) :
      Turns xs ys i (j + 1) ⟨s.substitutions, s.deletions, s.insertions ++ [j]⟩

/-- The positions are below `i` and `j`. -/
structure Bounded (i j : Nat) (s : EditScript) : Prop where
  substitutions : ∀ k ∈ s.substitutions, k < i
  deletions : ∀ k ∈ s.deletions, k < i
  insertions : ∀ k ∈ s.insertions, k < j

/-- The positions of each kind ascend. -/
structure Ascending (s : EditScript) : Prop where
  substitutions : s.substitutions.Pairwise (· < ·)
  deletions : s.deletions.Pairwise (· < ·)
  insertions : s.insertions.Pairwise (· < ·)

variable {xs ys : List α} {i j : Nat} {s : EditScript}

theorem forall_mem_append_lt {l : List Nat} {n : Nat} (h : ∀ k ∈ l, k < n) :
    ∀ k ∈ l ++ [n], k < n + 1 := by
  intro k hk
  rcases mem_append.1 hk with hl | hn
  · exact lt_succ_of_lt (h k hl)
  · rw [mem_singleton.1 hn]
    exact lt_succ_self n

theorem pairwise_append_lt {l : List Nat} {n : Nat} (hl : l.Pairwise (· < ·))
    (h : ∀ k ∈ l, k < n) : (l ++ [n]).Pairwise (· < ·) := by
  refine pairwise_append.2 ⟨hl, pairwise_singleton _ _, fun k hk m hm => ?_⟩
  rw [mem_singleton.1 hm]
  exact h k hk

theorem Turns.bounded (h : Turns xs ys i j s) : Bounded i j s := by
  induction h with
  | nil =>
    constructor <;> exact fun k hk => absurd hk not_mem_nil
  | keep hx hy heq h ih =>
    exact ⟨fun k hk => lt_succ_of_lt (ih.substitutions k hk),
      fun k hk => lt_succ_of_lt (ih.deletions k hk),
      fun k hk => lt_succ_of_lt (ih.insertions k hk)⟩
  | substitute hx hy h ih =>
    exact ⟨forall_mem_append_lt ih.substitutions,
      fun k hk => lt_succ_of_lt (ih.deletions k hk),
      fun k hk => lt_succ_of_lt (ih.insertions k hk)⟩
  | delete hx h ih =>
    exact ⟨fun k hk => lt_succ_of_lt (ih.substitutions k hk),
      forall_mem_append_lt ih.deletions, ih.insertions⟩
  | insert hy h ih =>
    exact ⟨ih.substitutions, ih.deletions, forall_mem_append_lt ih.insertions⟩

theorem Turns.ascending (h : Turns xs ys i j s) : s.Ascending := by
  induction h with
  | nil => exact ⟨.nil, .nil, .nil⟩
  | keep hx hy heq h ih => exact ih
  | substitute hx hy h ih =>
    exact ⟨pairwise_append_lt ih.substitutions h.bounded.substitutions, ih.deletions,
      ih.insertions⟩
  | delete hx h ih =>
    exact ⟨ih.substitutions, pairwise_append_lt ih.deletions h.bounded.deletions, ih.insertions⟩
  | insert hy h ih =>
    exact ⟨ih.substitutions, ih.deletions, pairwise_append_lt ih.insertions h.bounded.insertions⟩

/-! ## Replaying a script -/

/-- The items that are not deleted, each with its position. -/
def kept (xs : List α) (deletions : List Nat) : List (Option Nat × α) :=
  (xs.zipIdx.filter fun p => p.2 ∉ deletions).map fun p => (some p.2, p.1)

/-- Inserts the item that `ys` has at position `k` there. -/
def insertItem (ys : List α) (l : List (Option Nat × α)) (k : Nat) : List (Option Nat × α) :=
  match ys[k]? with
  | some item => l.insertIdx k (none, item)
  | none => l

/-- Deletes from `xs`, then inserts items of `ys`. Each item comes with the position
that it had in `xs`, an inserted one without. -/
def replay (s : EditScript) (xs ys : List α) : List (Option Nat × α) :=
  s.insertions.foldl (insertItem ys) (kept xs s.deletions)

/-- Where its item is not one to be substituted, `l` agrees with `ys`. -/
def Agrees (ys : List α) (substitutions : List Nat) (l : List (Option Nat × α)) : Prop :=
  ∀ (k : Nat) (origin : Option Nat) (item : α), l[k]? = some (origin, item) →
    (∀ i ∈ origin, i ∉ substitutions) → ys[k]? = some item

/-- Each of the items is inserted at a position that is there by then. -/
def Fits (ys : List α) : List Nat → Nat → Prop
  | [], _ => True
  | k :: ks, length => k < ys.length ∧ k ≤ length ∧ Fits ys ks (length + 1)

theorem Fits.succ {ks : List Nat} {n : Nat} (h : Fits ys ks n) : Fits ys ks (n + 1) := by
  induction ks generalizing n with
  | nil => trivial
  | cons k ks ih => exact ⟨h.1, le_succ_of_le h.2.1, ih h.2.2⟩

theorem Fits.append {ks : List Nat} {n k : Nat} (h : Fits ys ks n) (hk : k < ys.length)
    (hle : k ≤ n + ks.length) : Fits ys (ks ++ [k]) n := by
  induction ks generalizing n with
  | nil => exact ⟨hk, hle, trivial⟩
  | cons k' ks ih =>
    refine ⟨h.1, h.2.1, ih h.2.2 ?_⟩
    rw [length_cons] at hle
    omega

theorem insertItem_of_lt {l : List (Option Nat × α)} {k : Nat} (hk : k < ys.length) :
    insertItem ys l k = l.insertIdx k (none, ys[k]) := by
  rw [insertItem, getElem?_eq_getElem hk]

theorem length_foldl_insertItem {ks : List Nat} {l : List (Option Nat × α)}
    (h : Fits ys ks l.length) : (ks.foldl (insertItem ys) l).length = l.length + ks.length := by
  induction ks generalizing l with
  | nil => rfl
  | cons k ks ih =>
    have hlength : (insertItem ys l k).length = l.length + 1 := by
      rw [insertItem_of_lt h.1, length_insertIdx_of_le_length h.2.1]
    rw [foldl_cons, ih (hlength ▸ h.2.2), hlength, length_cons]
    omega

theorem insertIdx_append {β : Type u} {l l' : List β} {k : Nat} (hk : k ≤ l.length) (b : β) :
    (l ++ l').insertIdx k b = l.insertIdx k b ++ l' := by
  induction l generalizing k with
  | nil =>
    rw [le_zero.1 hk]
    rfl
  | cons a l ih =>
    cases k with
    | zero => rfl
    | succ k =>
      rw [cons_append, insertIdx_succ_cons, insertIdx_succ_cons, cons_append,
        ih (le_of_succ_le_succ hk)]

/-- An item at the end stays at the end. -/
theorem foldl_insertItem_append {ks : List Nat} {l : List (Option Nat × α)}
    (h : Fits ys ks l.length) (p : Option Nat × α) :
    ks.foldl (insertItem ys) (l ++ [p]) = ks.foldl (insertItem ys) l ++ [p] := by
  induction ks generalizing l with
  | nil => rfl
  | cons k ks ih =>
    have hlength : (insertItem ys l k).length = l.length + 1 := by
      rw [insertItem_of_lt h.1, length_insertIdx_of_le_length h.2.1]
    have hinsert : insertItem ys (l ++ [p]) k = insertItem ys l k ++ [p] := by
      rw [insertItem_of_lt h.1, insertItem_of_lt h.1]
      exact insertIdx_append h.2.1 _
    rw [foldl_cons, foldl_cons, hinsert]
    exact ih (hlength ▸ h.2.2)

theorem kept_take_succ (hx : i < xs.length) (deletions : List Nat) :
    kept (xs.take (i + 1)) deletions =
      kept (xs.take i) deletions ++ if i ∈ deletions then [] else [(some i, xs[i])] := by
  have hlength : (xs.take i).length = i := length_take_of_le (Nat.le_of_lt hx)
  rw [kept, kept, take_succ_eq_append_getElem hx, zipIdx_append, filter_append,
    map_append, hlength]
  by_cases hi : i ∈ deletions
  · simp [hi]
  · simp [hi]

/-- Positions that are not there can be deleted. -/
theorem kept_append_of_le {deletions : List Nat} (h : xs.length ≤ i) :
    kept xs (deletions ++ [i]) = kept xs deletions := by
  rw [kept, kept]
  refine congrArg (List.map _) (filter_congr fun p hp => ?_)
  have hlt : p.2 < xs.length := by
    obtain ⟨-, hlt, -⟩ := mem_zipIdx hp
    omega
  have hne : p.2 ≠ i := by omega
  simp [hne]

/-- What the first `i` and `j` items have become. -/
structure Replays (xs ys : List α) (i j : Nat) (s : EditScript) : Prop where
  fits : Fits ys s.insertions (kept (xs.take i) s.deletions).length
  length : (s.replay (xs.take i) ys).length = j
  agrees : Agrees ys s.substitutions (s.replay (xs.take i) ys)

/-- One more item at the end. -/
theorem Agrees.append {l : List (Option Nat × α)} {substitutions : List Nat}
    (h : Agrees ys substitutions l) {p : Option Nat × α}
    (hp : (∀ i ∈ p.1, i ∉ substitutions) → ys[l.length]? = some p.2) :
    Agrees ys substitutions (l ++ [p]) := by
  intro k origin item hk hsubstitutions
  rcases Nat.lt_trichotomy k l.length with hlt | rfl | hgt
  · rw [getElem?_append_left hlt] at hk
    exact h k origin item hk hsubstitutions
  · rw [getElem?_concat_length] at hk
    cases hk
    exact hp hsubstitutions
  · rw [getElem?_eq_none (by rw [length_append, length_singleton]; omega)] at hk
    cases hk

/-- A step that appends an item to what is replayed. -/
theorem Replays.append {s s' : EditScript} {i' : Nat} {p : Option Nat × α}
    (h : Replays xs ys i j s)
    (hfits : Fits ys s'.insertions (kept (xs.take i') s'.deletions).length)
    (hreplay : s'.replay (xs.take i') ys = s.replay (xs.take i) ys ++ [p])
    (hsubstitutions : s.substitutions ⊆ s'.substitutions)
    (hp : (∀ k ∈ p.1, k ∉ s'.substitutions) → ys[j]? = some p.2) :
    Replays xs ys i' (j + 1) s' := by
  refine ⟨hfits, ?_, ?_⟩
  · rw [hreplay, length_append, h.length]
    rfl
  · rw [hreplay]
    refine Agrees.append ?_ ?_
    · intro k origin item hk hnot
      exact h.agrees k origin item hk fun k' hk' hmem => hnot k' hk' (hsubstitutions hmem)
    · rw [h.length]
      exact hp

/-- The next item of `xs`, if it is not deleted. -/
theorem Replays.keep {s : EditScript} (h : Replays xs ys i j s) (hx : i < xs.length)
    (hi : i ∉ s.deletions) :
    Fits ys s.insertions (kept (xs.take (i + 1)) s.deletions).length ∧
      s.replay (xs.take (i + 1)) ys = s.replay (xs.take i) ys ++ [(some i, xs[i])] := by
  have hkept := kept_take_succ hx s.deletions
  rw [if_neg hi] at hkept
  constructor
  · rw [hkept, length_append]
    exact h.fits.succ
  · rw [EditScript.replay, hkept, foldl_insertItem_append h.fits]
    rfl

theorem Turns.replays (h : Turns xs ys i j s) : Replays xs ys i j s := by
  induction h with
  | nil =>
    refine ⟨trivial, rfl, fun k origin item hk _ => ?_⟩
    rw [take_zero] at hk
    cases hk
  | @keep i j s hx hy heq h ih =>
    have hi : i ∉ s.deletions := fun hmem => Nat.lt_irrefl i (h.bounded.deletions i hmem)
    obtain ⟨hfits, hreplay⟩ := ih.keep hx hi
    refine ih.append hfits hreplay (List.Subset.refl _) fun _ => ?_
    rw [getElem?_eq_getElem hy, heq]
  | @substitute i j s hx hy h ih =>
    have hi : i ∉ s.deletions := fun hmem => Nat.lt_irrefl i (h.bounded.deletions i hmem)
    obtain ⟨hfits, hreplay⟩ := ih.keep hx hi
    -- the item stays in place, as one that is to be substituted
    refine ih.append hfits hreplay (subset_append_left _ _) fun hnot => ?_
    exact absurd (mem_append_right _ mem_cons_self) (hnot i rfl)
  | @delete i j s hx h ih =>
    have hlength : (xs.take i).length ≤ i := length_take_le i xs
    have hkept : kept (xs.take (i + 1)) (s.deletions ++ [i]) = kept (xs.take i) s.deletions := by
      rw [kept_take_succ hx, if_pos (mem_append_right _ mem_cons_self), append_nil,
        kept_append_of_le hlength]
    have hreplay : EditScript.replay ⟨s.substitutions, s.deletions ++ [i], s.insertions⟩
        (xs.take (i + 1)) ys =
          s.replay (xs.take i) ys := by
      rw [EditScript.replay, hkept]
      rfl
    refine ⟨?_, ?_, ?_⟩
    · rw [hkept]
      exact ih.fits
    · rw [hreplay]
      exact ih.length
    · rw [hreplay]
      exact ih.agrees
  | @insert i j s hy h ih =>
    have hlength := ih.length
    rw [EditScript.replay, length_foldl_insertItem ih.fits] at hlength
    have hreplay : EditScript.replay ⟨s.substitutions, s.deletions, s.insertions ++ [j]⟩
        (xs.take i) ys =
          s.replay (xs.take i) ys ++ [(none, ys[j])] := by
      -- all positions before it are taken, so the item is inserted at the end
      have hend : ∀ p, (s.replay (xs.take i) ys).insertIdx j p =
          s.replay (xs.take i) ys ++ [p] := by
        intro p
        rw [← ih.length]
        exact insertIdx_length_self
      rw [EditScript.replay, foldl_append, foldl_cons, foldl_nil,
        insertItem_of_lt hy]
      exact hend (none, ys[j])
    refine ih.append (ih.fits.append hy (Nat.le_of_eq hlength.symm)) hreplay
      (List.Subset.refl _) fun _ => ?_
    exact getElem?_eq_getElem hy

/-- **Replay**: a script that turns `xs` into `ys` gives a list of the length of
`ys` with its items, except where an item of `xs` is to be substituted. -/
theorem Turns.replay (h : Turns xs ys xs.length ys.length s) :
    (s.replay xs ys).length = ys.length ∧ Agrees ys s.substitutions (s.replay xs ys) := by
  have hreplays := h.replays
  have htake : xs.take xs.length = xs := take_length
  exact ⟨htake ▸ hreplays.length, htake ▸ hreplays.agrees⟩

end EditScript

end Lib
