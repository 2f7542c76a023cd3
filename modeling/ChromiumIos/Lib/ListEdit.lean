import Mathlib.Data.List.Chain

/-!
# Edits of a list and its chains

A history is edited in a few ways: it is cut off and continued, one entry is
rewritten or taken out, something is put before its end. Each edit of a list
whose neighbours are all related leaves such a list exactly when it relates the
few neighbours it makes.

- `ListEdit`, `ListEdit.apply`: the edits, and what they do.
- `ListEdit.Fits`: the pairs of new neighbours are related.
- `ListEdit.isChain_apply_iff`: nothing else has to be.
-/

namespace Lib

universe u

/-- An edit of a list. -/
inductive ListEdit (α : Type u)
  | keep
  /-- Keeps the first `n` elements and puts `x` behind them. -/
  | extend (n : Nat) (x : α)
  /-- Puts `x` in the place of the element at `i`. -/
  | write (i : Nat) (x : α)
  | erase (i : Nat)
  /-- Keeps nothing; `x` stands behind the elements `before`. -/
  | merge (before : List α) (x : α)
deriving DecidableEq, Repr

namespace ListEdit

variable {α : Type u}

def apply (l : List α) : ListEdit α → List α
  | .keep => l
  | .extend n x => l.take n ++ [x]
  | .write i x => l.set i x
  | .erase i => l.eraseIdx i
  | .merge before x => before ++ [x]

/-- The neighbours an edit makes are related. -/
def Fits (R : α → α → Prop) (l : List α) : ListEdit α → Prop
  | .keep => True
  | .extend n x => ∀ a ∈ (l.take n).getLast?, R a x
  | .write i x =>
    i < l.length → (∀ a ∈ (l.take i).getLast?, R a x) ∧ ∀ b ∈ l[i + 1]?, R x b
  | .erase i => ∀ a ∈ (l.take i).getLast?, ∀ b ∈ l[i + 1]?, R a b
  | .merge before x => before.IsChain R ∧ ∀ a ∈ before.getLast?, R a x

instance decidableFits (R : α → α → Prop) [DecidableRel R] (l : List α) :
    ∀ e : ListEdit α, Decidable (e.Fits R l)
  | .keep => instDecidableTrue
  | .extend n x => inferInstanceAs (Decidable (∀ a ∈ (l.take n).getLast?, R a x))
  | .write _ _ => instDecidableForall
  | .erase i =>
    inferInstanceAs (Decidable (∀ a ∈ (l.take i).getLast?, ∀ b ∈ l[i + 1]?, R a b))
  | .merge _ _ => instDecidableAnd

variable {R : α → α → Prop} {l : List α}

theorem isChain_concat_iff {x : α} :
    (l ++ [x]).IsChain R ↔ l.IsChain R ∧ ∀ a ∈ l.getLast?, R a x := by
  rw [List.isChain_append]
  constructor
  · rintro ⟨hl, -, hends⟩
    exact ⟨hl, fun a ha => hends a ha x rfl⟩
  · rintro ⟨hl, hlast⟩
    refine ⟨hl, List.isChain_singleton x, fun a ha y hy => ?_⟩
    obtain rfl := Option.some.inj hy
    exact hlast a ha

theorem head?_drop_succ (i : Nat) : (l.drop (i + 1)).head? = l[i + 1]? :=
  List.head?_drop

/-- Between two parts that are chains, only the ends have to be related. -/
theorem isChain_write_iff (h : l.IsChain R) {i : Nat} (hi : i < l.length) {x : α} :
    (l.set i x).IsChain R ↔
      (∀ a ∈ (l.take i).getLast?, R a x) ∧ ∀ b ∈ l[i + 1]?, R x b := by
  rw [List.set_eq_take_append_cons_drop, if_pos hi, List.isChain_append, ← head?_drop_succ]
  have htake := h.take i
  have hdrop := h.drop (i + 1)
  constructor
  · rintro ⟨-, hrest, hends⟩
    exact ⟨fun a ha => hends a ha x rfl, (List.isChain_cons.1 hrest).1⟩
  · rintro ⟨hbefore, hafter⟩
    refine ⟨htake, List.isChain_cons.2 ⟨hafter, hdrop⟩, fun a ha y hy => ?_⟩
    obtain rfl := Option.some.inj hy
    exact hbefore a ha

theorem isChain_erase_iff (h : l.IsChain R) (i : Nat) :
    (l.eraseIdx i).IsChain R ↔ ∀ a ∈ (l.take i).getLast?, ∀ b ∈ l[i + 1]?, R a b := by
  rw [List.eraseIdx_eq_take_drop_succ, List.isChain_append, head?_drop_succ]
  exact ⟨fun hparts => hparts.2.2, fun hends => ⟨h.take i, h.drop (i + 1), hends⟩⟩

/-- **An edit keeps a chain** exactly when it fits. -/
theorem isChain_apply_iff (h : l.IsChain R) (e : ListEdit α) :
    (e.apply l).IsChain R ↔ e.Fits R l := by
  cases e with
  | keep => exact ⟨fun _ => trivial, fun _ => h⟩
  | extend n x => exact isChain_concat_iff.trans ⟨And.right, fun hends => ⟨h.take n, hends⟩⟩
  | write i x =>
    by_cases hi : i < l.length
    · exact (isChain_write_iff h hi).trans ⟨fun hends _ => hends, fun hends => hends hi⟩
    · show (l.set i x).IsChain R ↔ (i < l.length → _)
      rw [List.set_eq_of_length_le (Nat.not_lt.1 hi)]
      exact ⟨fun _ hlt => absurd hlt hi, fun _ => h⟩
  | erase i => exact isChain_erase_iff h i
  | merge before x => exact isChain_concat_iff

end ListEdit

end Lib
