import ChromiumIos.Lib.Cursor

/-!
# The skeleton of a session history

What the operations of a session history do to its items and indices, whatever
an item is: a list of committed entries, the three indices into it, and the
entry of a new navigation that is not in the list yet.

- `Skeleton.act`: the effect of one action.
- `Skeleton.Valid` and `Skeleton.act_valid`: the indices stay in range.
- `Skeleton.HistoryOrNew`: a pending navigation is either one within the
  history or a new one, not both; exactly then does a commit leave nothing
  pending (`Skeleton.pendingEntry_commit_iff`).

`SessionInvariant` connects the session controller to its skeleton.
-/

namespace ChromiumIos

open Lib

@[ext] structure Skeleton (ι : Type) where
  entries : List ι
  last : Int
  previous : Int
  pending : Int
  /-- The entry of a pending new navigation. -/
  owned : Option ι
deriving DecidableEq, Repr

namespace Skeleton

variable {ι : Type}

/-- A history as it starts out. -/
def new : Skeleton ι := ⟨[], -1, -1, -1, none⟩

variable (k : Skeleton ι)

/-- The entry a pending navigation leads to. -/
def pendingEntry : Option ι :=
  if k.pending = -1 then k.owned else nth? k.entries k.pending

/-- Drops the entries after the last committed one. -/
def clearForward : Skeleton ι :=
  if k.last + 1 ≥ k.entries.length then k
  else { k with
    entries := k.entries.take (k.last + 1).toNat
    previous := if k.previous ≥ k.last + 1 then -1 else k.previous }

/-- Makes `x` the last entry and the committed one. -/
def push (x : ι) : Skeleton ι :=
  let cleared := k.clearForward
  { cleared with
    entries := cleared.entries ++ [x]
    last := cleared.entries.length
    previous := cleared.last }

/-- Commits the pending navigation. -/
def commit : Skeleton ι :=
  if k.pending = -1 then
    match k.owned with
    | some x => { k.push x with owned := none }
    | none => k
  else if (nth? k.entries k.pending).isSome then
    { k with previous := k.last, last := k.pending, pending := -1 }
  else k

/-- Forgets the pending navigation. -/
def discard : Skeleton ι := { k with pending := -1, owned := none }

/-- Jumps to an entry; `discard` is whether that ends a pending navigation when
it goes back. -/
def goTo (index : Int) (discard : Bool) : Skeleton ι :=
  if ¬ InRange k.entries.length index ∨ index = k.last then k
  else
    let k := if discard ∧ index < k.last then k.discard else k
    { k with previous := k.last, last := index }

/-- Takes an entry out. -/
def remove (index : Int) : Skeleton ι where
  entries := k.entries.eraseIdx index.toNat
  last := eraseShift index k.last
  previous := if k.previous ≥ index then k.previous - 1 else k.previous
  pending := -1
  owned := none

/-- Puts the committed part of another history before the committed entry, and
drops the rest. -/
def copyAndPrune (k source : Skeleton ι) : Skeleton ι :=
  let merged := source.entries.take (source.last.toNat + 1) ++ (nth? k.entries k.last).toList
  { k with entries := merged, previous := -1, last := merged.length - 1 }

/-- What a method of the session controller does to the skeleton. -/
inductive Action (ι : Type)
  | keep
  /-- The pending navigation within the history ends; a new one replaces the one
  there was when an entry is given. -/
  | addPending (entry : Option ι)
  | setPending (index : Int)
  | commit
  | push (entry : ι)
  | discard
  | goTo (index : Int) (discard : Bool)
  | remove (index : Int)
deriving DecidableEq, Repr

def act : Action ι → Skeleton ι
  | .keep => k
  | .addPending entry => { k with pending := -1, owned := entry.or k.owned }
  | .setPending index => { k with pending := index }
  | .commit => k.commit
  | .push entry => k.push entry
  | .discard => k.discard
  | .goTo index discard => k.goTo index discard
  | .remove index => k.remove index

/-! ## The index invariant -/

/-- The three indices are in range, and an entry is committed unless there is
none. -/
structure Valid : Prop where
  last : Cursor k.entries.length k.last
  last_eq : k.last = -1 ↔ k.entries = []
  previous : Cursor k.entries.length k.previous
  pending : Cursor k.entries.length k.pending

theorem valid_new : (new : Skeleton ι).Valid where
  last := cursor_neg_one 0
  last_eq := ⟨fun _ => rfl, fun _ => rfl⟩
  previous := cursor_neg_one 0
  pending := cursor_neg_one 0

/-- What an action may be asked to do to a valid history. -/
def Allows : Action ι → Prop
  | .setPending index => Cursor k.entries.length index
  | .push _ => k.pending = -1
  | .remove index => InRange k.entries.length index ∧ index ≠ k.last
  | _ => True

theorem length_clearForward {k : Skeleton ι} (h : k.Valid) :
    (k.clearForward.entries.length : Int) = k.last + 1 := by
  obtain ⟨hlow, hhigh⟩ := h.last
  rw [clearForward]
  split
  · omega
  · show ((k.entries.take (k.last + 1).toNat).length : Int) = _
    rw [List.length_take]
    omega

@[simp] theorem clearForward_last : k.clearForward.last = k.last := by
  rw [clearForward]
  split <;> rfl

@[simp] theorem clearForward_pending : k.clearForward.pending = k.pending := by
  rw [clearForward]
  split <;> rfl

@[simp] theorem clearForward_owned : k.clearForward.owned = k.owned := by
  rw [clearForward]
  split <;> rfl

theorem clearForward_entries : ∃ n, k.clearForward.entries = k.entries.take n := by
  rw [clearForward]
  split
  · exact ⟨k.entries.length, List.take_length.symm⟩
  · exact ⟨_, rfl⟩

/-- Without a pending navigation there is nothing to commit. -/
theorem commit_of_pendingEntry {k : Skeleton ι} (h : k.pendingEntry = none) : k.commit = k := by
  rw [pendingEntry] at h
  rw [commit]
  by_cases hnew : k.pending = -1
  · rw [if_pos hnew] at h ⊢
    rw [h]
  · rw [if_neg hnew] at h ⊢
    rw [h]
    rfl

/-- A push leaves the indices at the end of the list. -/
theorem push_valid {k : Skeleton ι} (h : k.Valid) (hpending : k.pending = -1) (x : ι) :
    (k.push x).Valid := by
  have hlen := length_clearForward h
  have hlast := h.last.1
  have hpushed : (k.push x).entries.length = k.clearForward.entries.length + 1 :=
    List.length_append
  constructor
  · rw [hpushed]
    exact ⟨by show -1 ≤ (k.clearForward.entries.length : Int); omega, by
      show (k.clearForward.entries.length : Int) < _; omega⟩
  · constructor
    · intro hnone
      have : (k.clearForward.entries.length : Int) = -1 := hnone
      omega
    · intro hnil
      rw [hnil] at hpushed
      cases hpushed
  · show Cursor _ k.clearForward.last
    rw [clearForward_last, hpushed]
    exact ⟨hlast, by omega⟩
  · show Cursor _ k.clearForward.pending
    rw [clearForward_pending, hpending]
    exact cursor_neg_one _

theorem commit_valid {k : Skeleton ι} (h : k.Valid) : k.commit.Valid := by
  rw [commit]
  by_cases hnew : k.pending = -1
  · rw [if_pos hnew]
    cases k.owned with
    | none => exact h
    | some x =>
      obtain ⟨hlast, hlast_eq, hprevious, hpending⟩ := push_valid h hnew x
      exact ⟨hlast, hlast_eq, hprevious, hpending⟩
  · rw [if_neg hnew]
    split
    · next hsome =>
      have hin := nth?_isSome_iff.1 hsome
      refine ⟨hin.cursor, ⟨fun hneg => absurd hneg hnew, fun hnil => ?_⟩, h.last,
        cursor_neg_one _⟩
      rw [show k.entries = [] from hnil] at hin
      exact absurd hin.2 (Int.not_lt.2 hin.1)
    · exact h

theorem goTo_valid {k : Skeleton ι} (h : k.Valid) (index : Int) (discard : Bool) :
    (k.goTo index discard).Valid := by
  rw [goTo]
  split
  · exact h
  · next hgo =>
    have hin : InRange k.entries.length index := by
      by_contra hout
      exact hgo (.inl hout)
    have hne : k.entries ≠ [] := by
      intro hnil
      rw [hnil] at hin
      exact absurd hin.2 (Int.not_lt.2 hin.1)
    have hlast_eq : index = -1 ↔ k.entries = [] :=
      ⟨fun hneg => absurd hin.1 (by omega), fun hnil => absurd hnil hne⟩
    split
    · exact ⟨hin.cursor, hlast_eq, h.last, cursor_neg_one _⟩
    · exact ⟨hin.cursor, hlast_eq, h.last, h.pending⟩

theorem remove_valid {k : Skeleton ι} (h : k.Valid) {index : Int}
    (hin : InRange k.entries.length index) (hne : index ≠ k.last) : (k.remove index).Valid := by
  have hlen : (k.remove index).entries.length = k.entries.length - 1 :=
    List.length_eraseIdx_of_lt hin.toNat_lt
  have hnil : k.entries ≠ [] := by
    intro hnil
    rw [hnil] at hin
    exact absurd hin.2 (Int.not_lt.2 hin.1)
  have hlast : k.last ≠ -1 := fun hneg => hnil (h.last_eq.1 hneg)
  obtain ⟨hlow, hhigh⟩ := h.last
  obtain ⟨hi0, hin'⟩ := hin
  constructor
  · rw [hlen]
    exact h.last.eraseShift ⟨hi0, hin'⟩ (Ne.symm hne)
  · -- the committed entry is another one, so one is left
    have hshift : (k.remove index).last = eraseShift index k.last := rfl
    constructor
    · intro hneg
      rw [hshift, eraseShift] at hneg
      split at hneg <;> omega
    · intro hempty
      rw [hempty, List.length_nil] at hlen
      omega
  · rw [hlen]
    obtain ⟨hp0, hpn⟩ := h.previous
    show Cursor _ (if k.previous ≥ index then k.previous - 1 else k.previous)
    split
    · exact ⟨by omega, by omega⟩
    · exact ⟨by omega, by omega⟩
  · exact cursor_neg_one _

theorem act_valid {k : Skeleton ι} (h : k.Valid) {a : Action ι} (ha : k.Allows a) :
    (k.act a).Valid := by
  cases a with
  | keep => exact h
  | addPending entry => exact ⟨h.last, h.last_eq, h.previous, cursor_neg_one _⟩
  | setPending index => exact ⟨h.last, h.last_eq, h.previous, ha⟩
  | commit => exact commit_valid h
  | push entry => exact push_valid h ha entry
  | discard => exact ⟨h.last, h.last_eq, h.previous, cursor_neg_one _⟩
  | goTo index discard => exact goTo_valid h index discard
  | remove index => exact remove_valid h ha.1 ha.2

theorem copyAndPrune_valid {k source : Skeleton ι} (hpending : k.pending = -1)
    (hlast : (nth? k.entries k.last).isSome) : (k.copyAndPrune source).Valid := by
  obtain ⟨x, hx⟩ := Option.isSome_iff_exists.1 hlast
  have hlen : 0 < (k.copyAndPrune source).entries.length := by
    show 0 < (source.entries.take _ ++ (nth? k.entries k.last).toList).length
    rw [hx, List.length_append]
    exact Nat.succ_pos _
  have hlast' : (k.copyAndPrune source).last = (k.copyAndPrune source).entries.length - 1 := rfl
  constructor
  · exact ⟨by omega, by omega⟩
  · constructor
    · intro hneg
      omega
    · intro hnil
      rw [hnil] at hlen
      cases hlen
  · exact ⟨by show -1 ≤ (-1 : Int); omega, by show (-1 : Int) < _; omega⟩
  · show Cursor _ k.pending
    rw [hpending]
    exact cursor_neg_one _

/-! ## One pending navigation at a time -/

/-- A pending navigation is within the history or a new one, not both. -/
def HistoryOrNew : Prop := k.pending = -1 ∨ k.owned = none

/-- From a valid history a commit leaves nothing pending exactly when at most
one navigation was. -/
theorem pendingEntry_commit_iff {k : Skeleton ι} (h : k.Valid) :
    (k.commit.pending = -1 ∧ k.commit.pendingEntry = none) ↔ k.HistoryOrNew := by
  rw [HistoryOrNew, commit]
  by_cases hnew : k.pending = -1
  · rw [if_pos hnew]
    refine ⟨fun _ => .inl hnew, fun _ => ?_⟩
    cases howned : k.owned with
    | none => exact ⟨hnew, by rw [pendingEntry, if_pos hnew, howned]⟩
    | some x =>
      have hpending : (k.push x).pending = -1 := by
        show k.clearForward.pending = -1
        rw [clearForward_pending, hnew]
      refine ⟨hpending, ?_⟩
      rw [pendingEntry, if_pos hpending]
  · have hin : (nth? k.entries k.pending).isSome :=
      nth?_isSome_iff.2 ((cursor_iff.1 h.pending).resolve_left hnew)
    rw [if_neg hnew, if_pos hin]
    constructor
    · rintro ⟨-, hentry⟩
      exact .inr hentry
    · intro hor
      exact ⟨rfl, hor.resolve_left hnew⟩

/-- No action makes two navigations pending but starting one within the history
while a new one is. -/
theorem act_historyOrNew {k : Skeleton ι} (h : k.HistoryOrNew) {a : Action ι}
    (ha : ∀ index, a = .setPending index → index = -1 ∨ k.owned = none) :
    (k.act a).HistoryOrNew := by
  cases a with
  | keep => exact h
  | addPending entry => exact .inl rfl
  | setPending index => exact ha index rfl
  | commit =>
    show k.commit.HistoryOrNew
    rw [commit]
    split
    · split
      · exact .inr rfl
      · exact h
    · split
      · exact .inl rfl
      · exact h
  | push entry =>
    show k.clearForward.pending = -1 ∨ k.clearForward.owned = none
    rw [clearForward_pending, clearForward_owned]
    exact h
  | discard => exact .inl rfl
  | goTo index discard =>
    show (k.goTo index discard).HistoryOrNew
    rw [goTo]
    split
    · exact h
    · split
      · exact .inl rfl
      · exact h
  | remove index => exact .inl rfl

theorem copyAndPrune_historyOrNew {k : Skeleton ι} (h : k.HistoryOrNew) (source : Skeleton ι) :
    (k.copyAndPrune source).HistoryOrNew := h

end Skeleton

end ChromiumIos
