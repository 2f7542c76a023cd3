import Mathlib.Data.List.Perm.Basic

/-!
# Integer cursors into lists

Many programs keep a position in a sequence as a signed integer, with `-1` for
"no position", and move that integer by hand when the sequence is edited.

- `nth? l c`: the element a cursor designates, `none` for a negative cursor or
  one past the end.
- `Cursor n c`: `c` is `-1` or a position below `n`.
- `insertShift`, `eraseShift`, `moveShift`: how a cursor has to move with one
  edit of the list to keep designating the same element
  (`nth?_insertIdx_shift`, `nth?_eraseIdx_shift`, `nth?_moveIdx_shift`).
- `getElem?_foldl_modify`: a loop that edits one position after the other.
-/

namespace Lib

open List

universe u

variable {α : Type u} {β : Type*} (l : List α)

/-- The element at a signed position. -/
def nth? (c : Int) : Option α :=
  if 0 ≤ c then l[c.toNat]? else none

theorem nth?_of_neg {c : Int} (h : c < 0) : nth? l c = none :=
  if_neg (by omega)

@[simp] theorem nth?_natCast (n : Nat) : nth? l (n : Int) = l[n]? := by
  simp [nth?]

@[simp] theorem nth?_neg_one : nth? l (-1) = none := nth?_of_neg l (by omega)

theorem nth?_map (f : α → β) (l : List α) (c : Int) :
    nth? (l.map f) c = (nth? l c).map f := by
  unfold nth?
  split
  · exact getElem?_map
  · rfl

/-- A position inside a sequence of length `n`. -/
def InRange (n : Nat) (c : Int) : Prop := 0 ≤ c ∧ c < n

instance (n : Nat) (c : Int) : Decidable (InRange n c) := instDecidableAnd

/-- A position inside a sequence of length `n`, or `-1` for none. -/
def Cursor (n : Nat) (c : Int) : Prop := -1 ≤ c ∧ c < n

instance (n : Nat) (c : Int) : Decidable (Cursor n c) := instDecidableAnd

theorem cursor_iff {n : Nat} {c : Int} : Cursor n c ↔ c = -1 ∨ InRange n c := by
  unfold Cursor InRange
  omega

theorem InRange.cursor {n : Nat} {c : Int} (h : InRange n c) : Cursor n c :=
  cursor_iff.2 (.inr h)

theorem cursor_neg_one (n : Nat) : Cursor n (-1) := cursor_iff.2 (.inl rfl)

theorem InRange.toNat_lt {n : Nat} {c : Int} (h : InRange n c) : c.toNat < n := by
  obtain ⟨h0, hn⟩ := h
  omega

theorem InRange.exists_nat {n : Nat} {c : Int} (h : InRange n c) :
    ∃ k : Nat, k < n ∧ c = k :=
  ⟨c.toNat, h.toNat_lt, (Int.toNat_of_nonneg h.1).symm⟩

theorem nth?_of_inRange {l : List α} {c : Int} (h : InRange l.length c) :
    nth? l c = some (l.get ⟨c.toNat, h.toNat_lt⟩) := by
  rw [nth?, if_pos h.1]
  exact getElem?_eq_getElem _

theorem nth?_eq_some_iff {l : List α} {c : Int} {x : α} :
    nth? l c = some x ↔ ∃ k : Nat, c = k ∧ l[k]? = some x := by
  constructor
  · intro h
    by_cases hc : 0 ≤ c
    · refine ⟨c.toNat, (Int.toNat_of_nonneg hc).symm, ?_⟩
      rwa [nth?, if_pos hc] at h
    · rw [nth?_of_neg l (by omega)] at h
      cases h
  · rintro ⟨k, rfl, hk⟩
    rwa [nth?_natCast]

theorem nth?_isSome_iff {l : List α} {c : Int} :
    (nth? l c).isSome ↔ InRange l.length c := by
  constructor
  · intro h
    obtain ⟨x, hx⟩ := Option.isSome_iff_exists.1 h
    obtain ⟨k, rfl, hk⟩ := nth?_eq_some_iff.1 hx
    have hlt := (List.getElem?_eq_some_iff.1 hk).1
    exact ⟨by omega, by omega⟩
  · intro h
    rw [nth?_of_inRange h]
    rfl

theorem mem_of_nth? {l : List α} {c : Int} {x : α} (h : nth? l c = some x) : x ∈ l := by
  obtain ⟨k, -, hk⟩ := nth?_eq_some_iff.1 h
  exact mem_of_getElem? hk

/-- An inserted element is changed. -/
theorem modify_insertIdx_self (i : Nat) (x : α) (f : α → α) :
    (l.insertIdx i x).modify i f = l.insertIdx i (f x) := by
  induction l generalizing i with
  | nil => cases i <;> simp [modify_zero_cons, insertIdx_zero]
  | cons y l ih =>
    cases i with
    | zero => rfl
    | succ i => rw [insertIdx_succ_cons, modify_succ_cons, ih, insertIdx_succ_cons]

/-! ## Cursors that follow an edit -/

/-- Where a cursor goes when an element is inserted at `i`. -/
def insertShift (i c : Int) : Int := if i ≤ c then c + 1 else c

/-- Where a cursor to another element goes when the element at `i` is erased. -/
def eraseShift (i c : Int) : Int := if i < c then c - 1 else c

/-- Where a cursor goes when the element at `f` is moved to `t`. -/
def moveShift (f t c : Int) : Int :=
  if c = f then t else insertShift t (eraseShift f c)

/-- `moveShift` by the range the move passes over: the cursors between the two
positions go one step towards `f`. -/
theorem moveShift_eq (f t c : Int) :
    (if c = f then t
      else if min f t ≤ c ∧ c ≤ max f t then c + (if f < t then -1 else 1)
      else c) = moveShift f t c := by
  rw [moveShift, insertShift, eraseShift]
  by_cases hc : c = f
  · rw [if_pos hc, if_pos hc]
  · rw [if_neg hc, if_neg hc]
    by_cases hft : f < t <;> split <;> split <;> split <;> omega

/-- Take the element at `f` out and put it back at position `t`. -/
def moveIdx (f t : Nat) : List α :=
  match l[f]? with
  | some x => (l.eraseIdx f).insertIdx t x
  | none => l

theorem nth?_insertIdx_shift (x : α) (i : Nat) (c : Int) :
    nth? (l.insertIdx i x) (insertShift i c) = nth? l c := by
  unfold insertShift
  by_cases hc : 0 ≤ c
  · obtain ⟨k, rfl⟩ := Int.eq_ofNat_of_zero_le hc
    split
    · have hk : i < k + 1 := by omega
      rw [show (k : Int) + 1 = ((k + 1 : Nat) : Int) from rfl, nth?_natCast, nth?_natCast,
        getElem?_insertIdx, if_neg (by omega), if_neg (by omega)]
      rfl
    · rw [nth?_natCast, nth?_natCast, getElem?_insertIdx, if_pos (by omega)]
  · rw [if_neg (by omega), nth?_of_neg _ (by omega), nth?_of_neg _ (by omega)]

theorem nth?_insertIdx_self {l : List α} {i : Nat} (h : i ≤ l.length) (x : α) :
    nth? (l.insertIdx i x) i = some x := by
  rw [nth?_natCast, getElem?_insertIdx, if_neg (by omega), if_pos rfl, if_pos h]

theorem nth?_eraseIdx_shift (i : Nat) {c : Int} (hc : c ≠ i) :
    nth? (l.eraseIdx i) (eraseShift i c) = nth? l c := by
  unfold eraseShift
  by_cases h0 : 0 ≤ c
  · obtain ⟨k, rfl⟩ := Int.eq_ofNat_of_zero_le h0
    split
    · obtain ⟨j, rfl⟩ : ∃ j, k = j + 1 := ⟨k - 1, by omega⟩
      rw [show ((j + 1 : Nat) : Int) - 1 = (j : Int) by omega, nth?_natCast, nth?_natCast,
        getElem?_eraseIdx, if_neg (by omega)]
    · rw [nth?_natCast, nth?_natCast, getElem?_eraseIdx, if_pos (by omega)]
  · rw [if_neg (by omega), nth?_of_neg _ (by omega), nth?_of_neg _ (by omega)]

theorem length_moveIdx {l : List α} {f t : Nat} (ht : t < l.length) :
    (moveIdx l f t).length = l.length := by
  unfold moveIdx
  split
  · next x hx =>
    have hf := (List.getElem?_eq_some_iff.1 hx).1
    rw [length_insertIdx_of_le_length, length_eraseIdx_of_lt hf]
    · omega
    · rw [length_eraseIdx_of_lt hf]
      omega
  · rfl

theorem nth?_moveIdx_shift {l : List α} {f t : Nat} (hf : f < l.length) (ht : t < l.length)
    (c : Int) : nth? (moveIdx l f t) (moveShift f t c) = nth? l c := by
  have hx : l[f]? = some l[f] := getElem?_eq_getElem hf
  have hm : moveIdx l f t = (l.eraseIdx f).insertIdx t l[f] := by rw [moveIdx, hx]
  rw [hm]
  by_cases hc : c = f
  · subst hc
    rw [moveShift, if_pos rfl, nth?_natCast l, hx]
    refine nth?_insertIdx_self ?_ _
    rw [length_eraseIdx_of_lt hf]
    omega
  · rw [moveShift, if_neg hc, nth?_insertIdx_shift, nth?_eraseIdx_shift l f hc]

theorem moveIdx_perm {f t : Nat} (ht : t < l.length) : (moveIdx l f t).Perm l := by
  unfold moveIdx
  split
  · next x hx =>
    obtain ⟨hf, rfl⟩ := List.getElem?_eq_some_iff.1 hx
    have hlen : t ≤ (l.eraseIdx f).length := by
      rw [length_eraseIdx_of_lt hf]
      omega
    exact (perm_insertIdx _ _ hlen).trans (getElem_cons_eraseIdx_perm hf)
  · rfl

theorem map_moveIdx (g : α → β) (l : List α) (f t : Nat) :
    (moveIdx l f t).map g = moveIdx (l.map g) f t := by
  unfold moveIdx
  rw [getElem?_map]
  cases l[f]? with
  | none => rfl
  | some x => rw [Option.map_some, map_insertIdx, eraseIdx_map]

/-! ## What an edit leaves in the list -/

theorem mem_eraseIdx_of_ne {s : List α} {i : Nat} {w : α} (hw : w ∈ s) (hne : s[i]? ≠ some w) :
    w ∈ s.eraseIdx i := by
  obtain ⟨k, hk⟩ := mem_iff_getElem?.1 hw
  refine mem_eraseIdx_iff_getElem?.2 ⟨k, ?_, hk⟩
  rintro rfl
  exact hne hk

theorem mem_set_of_ne {s : List α} {i : Nat} {w x : α} (hw : w ∈ s) (hne : s[i]? ≠ some w) :
    w ∈ s.set i x := by
  obtain ⟨k, hk⟩ := mem_iff_getElem?.1 hw
  refine mem_iff_getElem?.2 ⟨k, ?_⟩
  rw [getElem?_set, if_neg, hk]
  rintro rfl
  exact hne hk

/-! ## Editing in place -/

/-- Edits of one position agree when they agree on the element there. -/
theorem modify_congr {l : List α} {i : Nat} {f g : α → α} (h : ∀ x, l[i]? = some x → f x = g x) :
    l.modify i f = l.modify i g := by
  refine ext_getElem? fun k => ?_
  rw [getElem?_modify, getElem?_modify]
  by_cases hik : i = k
  · subst hik
    cases hx : l[i]? with
    | none => rfl
    | some x => simp [h x hx]
  · simp [hik]

/-- What every element satisfies and an edit keeps, every element of the edited
list satisfies. -/
theorem forall_mem_modify {P : α → Prop} {l : List α} {f : α → α} (i : Nat)
    (hl : ∀ x ∈ l, P x) (hf : ∀ x, P x → P (f x)) : ∀ x ∈ l.modify i f, P x := by
  intro x hx
  obtain ⟨j, hj⟩ := mem_iff_getElem?.1 hx
  rw [getElem?_modify] at hj
  cases hy : l[j]? with
  | none =>
    rw [hy] at hj
    cases hj
  | some y =>
    have hPy := hl y (mem_of_getElem? hy)
    rw [hy] at hj
    obtain rfl := Option.some.inj hj
    split
    · exact hf y hPy
    · exact hPy

/-- Editing the positions from `n` on, one after the other. -/
theorem getElem?_foldl_modify (f : α → α) (n m : Nat) (l : List α) (i : Nat) :
    ((List.range' n m).foldl (fun l k => l.modify k f) l)[i]? =
      if n ≤ i ∧ i < n + m then l[i]?.map f else l[i]? := by
  induction m generalizing n l with
  | zero =>
    rw [if_neg (by omega)]
    rfl
  | succ m ih =>
    rw [range'_succ, foldl_cons, ih, getElem?_modify]
    by_cases hni : n = i
    · subst hni
      rw [if_neg (by omega), if_pos (by omega)]
      simp
    · by_cases hrange : n + 1 ≤ i ∧ i < n + 1 + m
      · rw [if_pos hrange, if_pos (by omega)]
        simp [hni]
      · rw [if_neg hrange, if_neg (by omega)]
        simp [hni]

/-! ## Bounds -/

theorem Cursor.insertShift {n : Nat} {i c : Int} (hc : Cursor n c) :
    Cursor (n + 1) (insertShift i c) := by
  unfold Cursor Lib.insertShift at *
  split <;> omega

theorem Cursor.eraseShift {n : Nat} {i c : Int} (hi : InRange n i) (hc : Cursor n c)
    (hne : c ≠ i) : Cursor (n - 1) (eraseShift i c) := by
  unfold Cursor InRange Lib.eraseShift at *
  split <;> omega

theorem Cursor.moveShift {n : Nat} {f t c : Int} (hf : InRange n f) (ht : InRange n t)
    (hc : Cursor n c) : Cursor n (moveShift f t c) := by
  unfold Cursor InRange Lib.moveShift Lib.insertShift Lib.eraseShift at *
  split
  · omega
  · split <;> split <;> omega

end Lib
