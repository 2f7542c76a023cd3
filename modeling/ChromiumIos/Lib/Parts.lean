import ChromiumIos.Lib.Trimming
import Mathlib.Data.List.Infix

/-!
# The parts of a text

A text is taken apart at every separator, and a part into a key and a value at the first one of
another kind.

- `splitFirst`, `splitOn_eq_pair_iff`: a key and a value, and when splitting at every separator
  gives the same.
- `pairs`, `pairs_intercalate`: the keys and values of all parts, and of texts that are joined.
- `find?_splitOn`: the part with the first occurrence of a word is the first one that has it.
-/

namespace Lib

open List

universe u

variable {α : Type u} [DecidableEq α]

/-! ## Keys and values -/

/-- What is before and after the first `x`. -/
def splitFirst (x : α) (part : List α) : Option (List α × List α) :=
  if x ∈ part then some (part.takeWhile (· ≠ x), (part.dropWhile (· ≠ x)).tail) else none

theorem splitFirst_of_notMem {x : α} {part : List α} (h : x ∉ part) : splitFirst x part = none :=
  if_neg h

theorem splitFirst_append {x : α} {key : List α} (hkey : x ∉ key) (value : List α) :
    splitFirst x (key ++ x :: value) = some (key, value) := by
  have hall : ∀ y ∈ key, decide (y ≠ x) = true := by
    intro y hy
    exact decide_eq_true fun heq => hkey (heq ▸ hy)
  have hstop : decide (x ≠ x) = false := by simp
  rw [splitFirst, if_pos (by simp), takeWhile_append_of_pos hall, dropWhile_append_of_pos hall,
    takeWhile_cons_of_neg (by simp), dropWhile_cons_of_neg (by simp), append_nil, tail_cons]

theorem splitFirst_eq_some_iff {x : α} {part key value : List α} :
    splitFirst x part = some (key, value) ↔ x ∉ key ∧ part = key ++ x :: value := by
  constructor
  · intro h
    by_cases hx : x ∈ part
    · obtain ⟨key', value', rfl, hkey'⟩ := eq_append_cons_of_mem hx
      rw [splitFirst_append hkey', Option.some_inj, Prod.mk.injEq] at h
      obtain ⟨rfl, rfl⟩ := h
      exact ⟨hkey', rfl⟩
    · rw [splitFirst_of_notMem hx] at h
      cases h
  · rintro ⟨hkey, rfl⟩
    exact splitFirst_append hkey value

/-- Splitting at every separator gives a pair if there is just one. -/
theorem splitOn_eq_pair_iff {x : α} {part key value : List α} :
    part.splitOn x = [key, value] ↔ splitFirst x part = some (key, value) ∧ x ∉ value := by
  constructor
  · intro h
    have hkey : x ∉ key := notMem_of_mem_splitOn (h ▸ mem_cons_self)
    have hvalue : x ∉ value := notMem_of_mem_splitOn (h ▸ mem_cons_of_mem _ mem_cons_self)
    refine ⟨splitFirst_eq_some_iff.2 ⟨hkey, ?_⟩, hvalue⟩
    rw [← show [x].intercalate (part.splitOn x) = part from intercalate_splitOn x, h]
    simp
  · rintro ⟨hpair, hvalue⟩
    obtain ⟨hkey, rfl⟩ := splitFirst_eq_some_iff.1 hpair
    rw [splitOn_append_cons_self_of_not_mem hkey, splitOn_eq_singleton hvalue]

/-- The keys and values of the parts that have one. -/
def pairs (sep x : α) (text : List α) : List (List α × List α) :=
  (text.splitOn sep).filterMap (splitFirst x)

section Pairs

variable {sep x : α}

theorem pairs_append_cons (text rest : List α) :
    pairs sep x (text ++ sep :: rest) = pairs sep x text ++ pairs sep x rest := by
  rw [pairs, splitOn_append_cons_self, filterMap_append, pairs, pairs]

/-- A text that is one part. -/
theorem pairs_of_notMem {text : List α} (h : sep ∉ text) :
    pairs sep x text = (splitFirst x text).toList := by
  rw [pairs, splitOn_eq_singleton h, filterMap_cons, filterMap_nil]
  cases splitFirst x text <;> rfl

/-- Texts that are joined keep their pairs. -/
theorem pairs_intercalate (texts : List (List α)) :
    pairs sep x ([sep].intercalate texts) = texts.flatMap (pairs sep x) := by
  induction texts with
  | nil => rfl
  | cons text texts ih =>
    cases texts with
    | nil => rw [intercalate_singleton, flatMap_singleton]
    | cons other texts =>
      rw [intercalate_cons_cons, append_assoc, singleton_append, pairs_append_cons, ih,
        flatMap_cons (x := text)]

end Pairs

/-! ## Words -/

section Words

variable {x : α} {word : List α}

omit [DecidableEq α] in
/-- A text has a word if it starts with it somewhere. -/
theorem isInfix_iff_exists_drop {text : List α} :
    word <:+: text ↔ ∃ i ≤ text.length, word <+: text.drop i := by
  constructor
  · rintro ⟨before, after, rfl⟩
    refine ⟨before.length, by simp, after, ?_⟩
    rw [append_assoc, drop_left]
  · rintro ⟨i, -, hstart⟩
    exact hstart.isInfix.trans (drop_suffix i text).isInfix

theorem splitOn_eq_takeWhile_cons (x : α) (text : List α) :
    ∃ rest, text.splitOn x = text.takeWhile (· ≠ x) :: rest := by
  by_cases hx : x ∈ text
  · obtain ⟨first, rest, rfl, hfirst⟩ := eq_append_cons_of_mem hx
    have hall : ∀ y ∈ first, decide (y ≠ x) = true := by
      intro y hy
      exact decide_eq_true fun heq => hfirst (heq ▸ hy)
    rw [splitOn_append_cons_self_of_not_mem hfirst, takeWhile_append_of_pos hall,
      takeWhile_cons_of_neg (by simp), append_nil]
    exact ⟨_, rfl⟩
  · refine ⟨[], ?_⟩
    rw [splitOn_eq_singleton hx, takeWhile_eq_self_iff.2]
    intro y hy
    exact decide_eq_true fun heq => hx (heq ▸ hy)

theorem rtakeWhile_append_cons (before rest : List α) :
    (before ++ x :: rest).rtakeWhile (· ≠ x) = rest.rtakeWhile (· ≠ x) := by
  rw [rtakeWhile, rtakeWhile, reverse_append, reverse_cons, append_assoc, singleton_append,
    takeWhile_append]
  split
  · next hall =>
    rw [takeWhile_cons_of_neg (by simp), append_nil, ( takeWhile_prefix _).eq_of_length hall]
  · rfl

/-- What a part has, the text has. -/
theorem isInfix_of_mem_splitOn {text part : List α} (hpart : part ∈ text.splitOn x) :
    part <:+: text := by
  induction hn : text.length using Nat.strong_induction_on generalizing text with
  | _ n ih =>
    subst hn
    by_cases hx : x ∈ text
    · obtain ⟨first, rest, rfl, hfirst⟩ := eq_append_cons_of_mem hx
      rw [splitOn_append_cons_self_of_not_mem hfirst, mem_cons] at hpart
      rcases hpart with rfl | hpart
      · exact (prefix_append part (x :: rest)).isInfix
      · have hrest : part <:+: rest := ih _ (by simp; omega) hpart rfl
        exact hrest.trans (((suffix_cons x rest).trans (suffix_append first _)).isInfix)
    · rw [splitOn_eq_singleton hx, mem_singleton] at hpart
      rw [hpart]

/-- The first occurrence of a word lies in the first part that has the word. -/
theorem find?_splitOn (hword : x ∉ word) {before after : List α}
    (hfirst : ∀ i < before.length, ¬word <+: before.drop i ++ (word ++ after)) :
    ((before ++ (word ++ after)).splitOn x).find? (fun part => word <:+: part) =
      some (before.rtakeWhile (· ≠ x) ++ (word ++ after.takeWhile (· ≠ x))) := by
  have hall : ∀ {text : List α}, x ∉ text → ∀ y ∈ text, decide (y ≠ x) = true := by
    intro text htext y hy
    exact decide_eq_true fun heq => htext (heq ▸ hy)
  induction hn : before.length using Nat.strong_induction_on generalizing before with
  | _ n ih =>
    subst hn
    by_cases hx : x ∈ before
    · -- The first part is over before the word starts.
      obtain ⟨first, rest, rfl, hnot⟩ := eq_append_cons_of_mem hx
      have hskip : ¬word <:+: first := by
        intro hinfix
        obtain ⟨i, hi, hstart⟩ := isInfix_iff_exists_drop.1 hinfix
        refine hfirst i (by simp; omega) ?_
        rw [drop_append_of_le_length hi, append_assoc]
        exact hstart.trans (prefix_append _ _)
      rw [append_assoc, cons_append, splitOn_append_cons_self_of_not_mem hnot,
        find?_cons_of_neg (by simpa using hskip), rtakeWhile_append_cons]
      refine ih _ (by simp; omega) (fun i hi => ?_) rfl
      have hdrop : (first ++ x :: rest).drop (first.length + (i + 1)) = rest.drop i := by
        rw [drop_append, drop_eq_nil_of_le (by omega), nil_append, Nat.add_sub_cancel_left,
          drop_succ_cons]
      have hlater := hfirst (first.length + (i + 1)) (by simp; omega)
      rwa [hdrop] at hlater
    · obtain ⟨rest, hsplit⟩ := splitOn_eq_takeWhile_cons x (before ++ (word ++ after))
      rw [takeWhile_append_of_pos (hall hx), takeWhile_append_of_pos (hall hword)] at hsplit
      rw [hsplit, rtakeWhile_eq_self_iff.2 (hall hx), find?_cons_of_pos]
      exact decide_eq_true ⟨before, after.takeWhile (· ≠ x), append_assoc _ _ _⟩

end Words

end Lib
