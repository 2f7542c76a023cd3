import Mathlib.Algebra.BigOperators.Group.List.Basic
import Mathlib.Algebra.GroupWithZero.Nat
import Mathlib.Data.List.Infix

/-!
# Replacing a text in another one

The occurrences of a text are replaced from the left and without overlap, as far as they lie in the
first part of the whole. Elements have a size, in which that part is measured.

- `joinPieces`: a text in pieces, some of which stand for the text that is replaced.
- `Separates`: that text occurs only as one of these pieces.
- `separates_intersperse`: that is so if the pieces are divided by what it does not have.
- `replaceWithin`: the replacement.
- `replaceWithin_joinPieces`: then it puts the other text in their place, and leaves the other
  pieces as they are.
- `findFrom`: the first occurrence from a position on.
- `replaceAll`: the replacement in all of a text, which goes from one such occurrence to the next.
-/

namespace Lib

open List Option Nat

universe u v

variable {α : Type u}

/-- The size of a text. -/
def textSize (size : α → Nat) (text : List α) : Nat := (text.map size).sum

section Size

variable {size : α → Nat}

@[simp] theorem textSize_cons (x : α) (text : List α) :
    textSize size (x :: text) = size x + textSize size text := by
  rw [textSize, map_cons, sum_cons, textSize]

@[simp] theorem textSize_append (text rest : List α) :
    textSize size (text ++ rest) = textSize size text + textSize size rest := by
  rw [textSize, map_append, List.sum_append, textSize, textSize]

end Size

/-! ## Texts in pieces -/

section Pieces

variable {target : List α}

/-- A text whose pieces `none` all stand for `target`. -/
def joinPieces (target : List α) (pieces : List (Option (List α))) : List α :=
  (pieces.map fun piece => piece.getD target).flatten

@[simp] theorem joinPieces_cons (piece : Option (List α)) (pieces : List (Option (List α))) :
    joinPieces target (piece :: pieces) = piece.getD target ++ joinPieces target pieces := rfl

@[simp] theorem joinPieces_append (pieces rest : List (Option (List α))) :
    joinPieces target (pieces ++ rest) = joinPieces target pieces ++ joinPieces target rest := by
  rw [joinPieces, map_append, flatten_append, joinPieces, joinPieces]

/-- Each occurrence of `target` in the text is one of the pieces `none`. -/
def Separates (target : List α) (pieces : List (Option (List α))) : Prop :=
  ∀ before after, joinPieces target pieces = before ++ target ++ after →
    ∃ left right, pieces = left ++ none :: right ∧ joinPieces target left = before

theorem Separates.tail {piece : Option (List α)} {pieces : List (Option (List α))}
    (h : Separates target (piece :: pieces)) (htarget : target ≠ []) : Separates target pieces := by
  intro before after heq
  have hwhole : joinPieces target (piece :: pieces) =
      (piece.getD target ++ before) ++ target ++ after := by
    rw [joinPieces_cons, heq, append_assoc, append_assoc, append_assoc]
  obtain ⟨left, right, hpieces, hleft⟩ := h _ _ hwhole
  cases left with
  | nil =>
    obtain rfl : piece = none := (List.cons.inj hpieces).1
    have hnil : target ++ before = [] := hleft.symm
    exact absurd (append_eq_nil_iff.1 hnil).1 htarget
  | cons first left =>
    rw [cons_append] at hpieces
    obtain ⟨rfl, htail⟩ := List.cons.inj hpieces
    exact ⟨left, right, htail, append_cancel_left hleft⟩

/-- No occurrence starts in another piece. -/
theorem Separates.not_start {text : List α} {pieces : List (Option (List α))}
    (h : Separates target (some text :: pieces)) {i : Nat} (hi : i < text.length) :
    ¬ target <+: text.drop i ++ joinPieces target pieces := by
  rintro ⟨after, hafter⟩
  have hwhole : joinPieces target (some text :: pieces) = text.take i ++ target ++ after := by
    rw [append_assoc, hafter, ← append_assoc, take_append_drop]
    rfl
  obtain ⟨left, right, hpieces, hleft⟩ := h _ _ hwhole
  cases left with
  | nil => cases (List.cons.inj hpieces).1
  | cons first left =>
    rw [cons_append] at hpieces
    obtain ⟨rfl, -⟩ := List.cons.inj hpieces
    have hlength := congrArg List.length hleft
    rw [joinPieces_cons, getD_some, length_append, length_take] at hlength
    omega

theorem map_intersperse {β : Type v} (f : α → β) (x : α) (xs : List α) :
    (xs.intersperse x).map f = (xs.map f).intersperse (f x) := by
  induction xs with
  | nil => rfl
  | cons y ys ih =>
    cases ys with
    | nil => rfl
    | cons z zs =>
      rw [intersperse_cons_cons, map_cons, map_cons, ih]
      rfl

/-- A text that has no `x` is on one side of each `x`. -/
theorem occurs_beside {x : α} (hx : x ∉ target) (htarget : target ≠ [])
    {first rest before after : List α} (h : first ++ x :: rest = before ++ (target ++ after)) :
    (∃ after', first = before ++ (target ++ after')) ∨
      ∃ before', before = first ++ x :: before' ∧ rest = before' ++ (target ++ after) := by
  obtain ⟨before', rfl, hrest⟩ | ⟨tail, rfl, htail⟩ := append_eq_append_iff.1 h
  · right
    cases before' with
    | nil =>
      obtain ⟨y, target', rfl⟩ := exists_cons_of_ne_nil htarget
      obtain rfl : x = y := (List.cons.inj hrest).1
      exact absurd mem_cons_self hx
    | cons y before' =>
      have hcons := List.cons.inj hrest
      obtain rfl : x = y := hcons.1
      exact ⟨before', rfl, hcons.2⟩
  · left
    obtain ⟨after', rfl, -⟩ | ⟨crossing, rfl, hcrossing⟩ := append_eq_append_iff.1 htail
    · exact ⟨after', rfl⟩
    · cases crossing with
      | nil =>
        refine ⟨[], ?_⟩
        rw [append_nil, append_nil]
      | cons y crossing =>
        obtain rfl : x = y := (List.cons.inj hcrossing).1
        exact absurd (mem_append_right tail mem_cons_self) hx

/-- Texts are divided by an element that `target` does not have. -/
theorem separates_intersperse {x : α} (hx : x ∉ target) (htarget : target ≠ [])
    {pieces : List (Option (List α))} (hpieces : ∀ text, some text ∈ pieces → ¬ target <:+: text) :
    Separates target (pieces.intersperse (some [x])) := by
  -- An occurrence in one of the pieces is all of it.
  have hone : ∀ piece ∈ pieces, ∀ before after : List α,
      piece.getD target = before ++ (target ++ after) → piece = none ∧ before = [] := by
    intro piece hpiece before after heq
    cases piece with
    | some text =>
      rw [← append_assoc] at heq
      exact absurd ⟨before, after, heq.symm⟩ (hpieces text hpiece)
    | none =>
      have hlength := congrArg List.length heq
      rw [length_append, length_append, getD_none] at hlength
      exact ⟨rfl, length_eq_zero_iff.1 (by omega)⟩
  clear hpieces
  intro before after heq
  rw [append_assoc] at heq
  induction pieces generalizing before with
  | nil =>
    have hnil : before ++ (target ++ after) = [] := heq.symm
    exact absurd (append_eq_nil_iff.1 (append_eq_nil_iff.1 hnil).2).1 htarget
  | cons piece pieces ih =>
    obtain ⟨hfirst, hone⟩ := forall_mem_cons.1 hone
    cases pieces with
    | nil =>
      rw [intersperse_singleton, joinPieces_cons] at heq
      obtain ⟨rfl, rfl⟩ := hfirst before after ((append_nil _).symm.trans heq)
      exact ⟨[], [], rfl, rfl⟩
    | cons next pieces =>
      rw [intersperse_cons_cons, joinPieces_cons, joinPieces_cons] at heq
      obtain ⟨after', hpiece⟩ | ⟨before', rfl, hrest⟩ := occurs_beside hx htarget heq
      · obtain ⟨rfl, rfl⟩ := hfirst before after' hpiece
        exact ⟨[], _, rfl, rfl⟩
      · obtain ⟨left, right, hpieces, rfl⟩ := ih hone before' hrest
        refine ⟨piece :: some [x] :: left, right, ?_, ?_⟩
        · rw [intersperse_cons_cons, hpieces, cons_append, cons_append]
        · rw [joinPieces_cons, joinPieces_cons]
          rfl

end Pieces

/-! ## The replacement -/

variable [DecidableEq α]

/-- A text in whose first part, of size `limit`, the occurrences of `target` are replaced. The first
`skip` elements belong to an occurrence that has been replaced. -/
def replaceWithin (size : α → Nat) (target replacement : List α) :
    (limit skip : Nat) → List α → List α
  | _, _, [] => []
  | limit, skip + 1, x :: rest =>
    replaceWithin size target replacement (limit - size x) skip rest
  | limit, 0, x :: rest =>
    if target <+: x :: rest ∧ textSize size target ≤ limit then
      replacement ++
        replaceWithin size target replacement (limit - size x) (target.length - 1) rest
    else x :: replaceWithin size target replacement (limit - size x) 0 rest

section Replacement

variable {size : α → Nat} {target replacement : List α}

theorem replaceWithin_skip (limit : Nat) (skipped rest : List α) :
    replaceWithin size target replacement limit skipped.length (skipped ++ rest) =
      replaceWithin size target replacement (limit - textSize size skipped) 0 rest := by
  induction skipped generalizing limit with
  | nil => rfl
  | cons x skipped ih =>
    rw [length_cons, cons_append, replaceWithin, ih, textSize_cons, Nat.sub_sub]

/-- An occurrence at the start. -/
theorem replaceWithin_target (htarget : target ≠ []) {limit : Nat}
    (hlimit : textSize size target ≤ limit) (rest : List α) :
    replaceWithin size target replacement limit 0 (target ++ rest) =
      replacement ++
        replaceWithin size target replacement (limit - textSize size target) 0 rest := by
  obtain ⟨x, target', rfl⟩ := exists_cons_of_ne_nil htarget
  have hstart : x :: target' <+: x :: (target' ++ rest) := ⟨rest, rfl⟩
  rw [cons_append, replaceWithin, if_pos ⟨hstart, hlimit⟩, length_cons,
    Nat.add_sub_cancel, replaceWithin_skip, textSize_cons, Nat.sub_sub]

/-- No occurrence starts in a text. -/
theorem replaceWithin_append (limit : Nat) {text rest : List α}
    (hnone : ∀ i < text.length, ¬ target <+: text.drop i ++ rest) :
    replaceWithin size target replacement limit 0 (text ++ rest) =
      text ++ replaceWithin size target replacement (limit - textSize size text) 0 rest := by
  induction text generalizing limit with
  | nil => rfl
  | cons x text ih =>
    have hfirst : ¬ target <+: x :: (text ++ rest) := hnone 0 (succ_pos _)
    have hlater : ∀ i < text.length, ¬ target <+: text.drop i ++ rest := fun i hi =>
      hnone (i + 1) (succ_lt_succ hi)
    rw [cons_append, replaceWithin, if_neg fun h => hfirst h.1, ih _ hlater, textSize_cons,
      Nat.sub_sub, cons_append]

/-- Where all occurrences lie in the part they are replaced in, they are replaced, and nothing else
is. -/
theorem replaceWithin_joinPieces (htarget : target ≠ []) {pieces : List (Option (List α))}
    (h : Separates target pieces) {limit : Nat}
    (hlimit : ∀ left right, pieces = left ++ none :: right →
      textSize size (joinPieces target left ++ target) ≤ limit) :
    replaceWithin size target replacement limit 0 (joinPieces target pieces) =
      joinPieces replacement pieces := by
  induction pieces generalizing limit with
  | nil => rfl
  | cons piece pieces ih =>
    have hlater : ∀ left right, pieces = left ++ none :: right →
        textSize size (joinPieces target left ++ target) ≤
          limit - textSize size (piece.getD target) := by
      intro left right heq
      have hle := hlimit (piece :: left) right (by rw [heq, cons_append])
      rw [joinPieces_cons, append_assoc, textSize_append] at hle
      omega
    have hih := ih (h.tail htarget) hlater
    rw [joinPieces_cons, joinPieces_cons]
    cases piece with
    | none =>
      have hfits : textSize size target ≤ limit := hlimit [] pieces rfl
      rw [getD_none, replaceWithin_target htarget hfits, getD_none]
      exact congrArg _ hih
    | some text =>
      rw [getD_some, replaceWithin_append limit fun i hi => h.not_start hi,
        getD_some]
      exact congrArg _ hih

/-- All of a text is the part in which another one is replaced. -/
theorem replaceWithin_joinPieces_all (htarget : target ≠ []) {pieces : List (Option (List α))}
    (h : Separates target pieces) :
    replaceWithin size target replacement (textSize size (joinPieces target pieces)) 0
      (joinPieces target pieces) = joinPieces replacement pieces := by
  refine replaceWithin_joinPieces htarget h fun left right heq => ?_
  rw [heq, joinPieces_append, joinPieces_cons, ← append_assoc,
    textSize_append (joinPieces target left ++ _)]
  exact le_add_right _ _

end Replacement

/-! ## Searching -/

/-- The first position at which `target` occurs. -/
def findText (target : List α) : List α → Option Nat
  | [] => if target = [] then some 0 else none
  | x :: rest =>
    if target <+: x :: rest then some 0 else (findText target rest).map (· + 1)

/-- The first position from `pos` on at which `target` occurs. -/
def findFrom (target text : List α) (pos : Nat) : Option Nat :=
  if pos ≤ text.length then (findText target (text.drop pos)).map (· + pos) else none

/-- All of a text: the elements have no size. -/
def replaceAll (target replacement text : List α) : List α :=
  replaceWithin (fun _ => 0) target replacement 0 0 text

section Searching

variable {target replacement text : List α}

theorem findFrom_append (before text : List α) :
    findFrom target (before ++ text) before.length =
      (findText target text).map (· + before.length) := by
  have hle : before.length ≤ (before ++ text).length := by
    rw [length_append]
    exact le_add_right _ _
  rw [findFrom, if_pos hle, drop_left]

/-- It occurs nowhere. -/
theorem findText_eq_none (h : findText target text = none) :
    ∀ i ≤ text.length, ¬ target <+: text.drop i := by
  induction text with
  | nil =>
    intro i _ hstart
    have hnil : target = [] := prefix_nil.1 (drop_nil ▸ hstart)
    rw [findText, if_pos hnil] at h
    cases h
  | cons x text ih =>
    rw [findText] at h
    split at h
    · cases h
    · next hfirst =>
      intro i hi
      cases i with
      | zero => exact hfirst
      | succ i => exact ih (map_eq_none_iff.1 h) i (le_of_succ_le_succ hi)

/-- What is before and after the first occurrence. -/
theorem findText_eq_some {p : Nat} (h : findText target text = some p) :
    ∃ before after, text = before ++ (target ++ after) ∧ before.length = p ∧
      ∀ i < before.length, ¬ target <+: before.drop i ++ (target ++ after) := by
  induction text generalizing p with
  | nil =>
    rw [findText] at h
    split at h
    · next hnil =>
      obtain rfl := some.inj h
      exact ⟨[], [], by rw [hnil]; rfl, rfl, fun i hi => absurd hi (not_lt_zero i)⟩
    · cases h
  | cons x text ih =>
    rw [findText] at h
    split at h
    · next hfirst =>
      obtain rfl := some.inj h
      obtain ⟨after, hafter⟩ := hfirst
      exact ⟨[], after, hafter.symm, rfl, fun i hi => absurd hi (not_lt_zero i)⟩
    · next hfirst =>
      obtain ⟨q, hq, rfl⟩ := map_eq_some_iff.1 h
      obtain ⟨before, after, rfl, rfl, hnone⟩ := ih hq
      refine ⟨x :: before, after, rfl, rfl, fun i hi => ?_⟩
      cases i with
      | zero => exact hfirst
      | succ i => exact hnone i (lt_of_succ_lt_succ hi)

theorem replaceAll_of_none (h : findText target text = none) :
    replaceAll target replacement text = text := by
  have hnone : ∀ i < text.length, ¬ target <+: text.drop i ++ [] := by
    intro i hi
    rw [append_nil]
    exact findText_eq_none h i (le_of_lt hi)
  have hall : replaceAll target replacement (text ++ []) = text ++ [] :=
    replaceWithin_append 0 hnone
  rwa [append_nil] at hall

omit [DecidableEq α] in
theorem textSize_zero (text : List α) : textSize (fun _ => 0) text = 0 := by
  induction text with
  | nil => rfl
  | cons x text ih => rw [textSize_cons, ih]

/-- The replacement at the first occurrence, and after it. -/
theorem replaceAll_first (htarget : target ≠ []) {before after : List α}
    (hnone : ∀ i < before.length, ¬ target <+: before.drop i ++ (target ++ after)) :
    replaceAll target replacement (before ++ (target ++ after)) =
      before ++ (replacement ++ replaceAll target replacement after) := by
  rw [replaceAll, replaceWithin_append 0 hnone, Nat.zero_sub,
    replaceWithin_target htarget (Nat.le_of_eq (textSize_zero target)), Nat.zero_sub, replaceAll]

theorem replaceAll_joinPieces (htarget : target ≠ []) {pieces : List (Option (List α))}
    (h : Separates target pieces) :
    replaceAll target replacement (joinPieces target pieces) = joinPieces replacement pieces :=
  replaceWithin_joinPieces htarget h fun _ _ _ => le_of_eq (textSize_zero _)

/-- What is separated occurs if it is one of the pieces. -/
theorem findText_joinPieces {pieces : List (Option (List α))} (h : Separates target pieces) :
    (findText target (joinPieces target pieces)).isSome = true ↔ none ∈ pieces := by
  constructor
  · intro hsome
    obtain ⟨p, hp⟩ := isSome_iff_exists.1 hsome
    obtain ⟨before, after, heq, -, -⟩ := findText_eq_some hp
    rw [← append_assoc] at heq
    obtain ⟨left, right, hpieces, -⟩ := h before after heq
    rw [hpieces]
    exact mem_append_right left mem_cons_self
  · intro hmem
    obtain ⟨left, right, rfl⟩ := append_of_mem hmem
    by_contra hnone
    rw [not_isSome_iff_eq_none] at hnone
    refine findText_eq_none hnone (joinPieces target left).length ?_ ?_
    · rw [joinPieces_append, length_append]
      exact le_add_right _ _
    · rw [joinPieces_append, drop_left, joinPieces_cons]
      exact prefix_append target _

end Searching

end Lib
