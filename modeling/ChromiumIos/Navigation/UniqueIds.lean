import Mathlib.Data.List.Nodup
import ChromiumIos.Navigation.SessionInvariant

/-!
# Unique IDs of committed items

Every new item draws its unique ID from one counter, and an ID stays with its
item from pending to committed. Copying a history duplicates IDs: the copies in
the receiver have the IDs of the originals in the source.

- `World`: any number of sessions that share the counter.
- `Distinct`: within a session the committed IDs differ, and the ID of a pending
  new item occurs nowhere else.
- `unique_ids`: this holds after every run in which no copy brings the receiver's
  own item together with a second one of the same ID, and the counter does not wrap
  around (`CopiesApart`), and then the lookup of a committed item by its ID finds that
  item.
-/

namespace ChromiumIos

open Lib List CRWSessionController Function Process Option

/-! ## Looking committed items up -/

namespace CRWSessionController

/-- `GetCommittedItemIndexWithUniqueID`. -/
def getCommittedItemIndexWithUniqueID (s : CRWSessionController) (uniqueId : Int) : Int :=
  match s.items.findIdx? fun item => item.uniqueId == uniqueId with
  | some index => index
  | none => -1

/-- `GetCommittedItemWithUniqueID`. -/
def getCommittedItemWithUniqueID (s : CRWSessionController) (uniqueId : Int) :
    Option NavigationItemImpl :=
  let index := s.getCommittedItemIndexWithUniqueID uniqueId
  if index ≠ -1 then nth? s.items index else none

/-- Between distinct IDs the lookup finds the item it is asked for. -/
theorem getCommittedItemIndexWithUniqueID_eq {s : CRWSessionController}
    (h : (s.items.map (·.uniqueId)).Nodup) {n : Nat} {item : NavigationItemImpl}
    (hitem : s.items[n]? = some item) :
    s.getCommittedItemIndexWithUniqueID item.uniqueId = n := by
  obtain ⟨hn, rfl⟩ := List.getElem?_eq_some_iff.1 hitem
  have hfind : s.items.findIdx? (fun other => other.uniqueId == s.items[n].uniqueId) = some n := by
    refine findIdx?_eq_some_iff_getElem.2 ⟨hn, beq_self_eq_true _, fun m hm => ?_⟩
    have hne : s.items[m].uniqueId ≠ s.items[n].uniqueId := by
      intro heq
      have hm' : m < (s.items.map (·.uniqueId)).length := by
        rw [length_map]
        omega
      have hget : (s.items.map (·.uniqueId))[m]? = (s.items.map (·.uniqueId))[n]? := by
        rw [getElem?_map, getElem?_map, getElem?_eq_getElem hn,
          getElem?_eq_getElem (by omega), map_some, map_some, heq]
      exact absurd ((getElem?_inj hm' h).1 hget) (by omega)
    simpa using hne
  rw [getCommittedItemIndexWithUniqueID, hfind]

theorem getCommittedItemWithUniqueID_eq {s : CRWSessionController}
    (h : (s.items.map (·.uniqueId)).Nodup) {n : Nat} {item : NavigationItemImpl}
    (hitem : s.items[n]? = some item) :
    s.getCommittedItemWithUniqueID item.uniqueId = some item := by
  rw [getCommittedItemWithUniqueID, getCommittedItemIndexWithUniqueID_eq h hitem]
  show (if (n : Int) ≠ -1 then _ else _) = _
  rw [if_pos (by omega), nth?_natCast, hitem]

end CRWSessionController

/-! ## Where the entries of a skeleton come from -/

namespace Skeleton

variable {ι : Type}

/-- The new entry an action makes pending. -/
def Action.adds : Action ι → Option ι
  | .addPending entry => entry
  | _ => none

/-- The new entry an action commits. -/
def Action.pushes : Action ι → Option ι
  | .push entry => some entry
  | _ => none

theorem Action.not_adds_and_pushes {a : Action ι} {x y : ι} (hadds : a.adds = some x)
    (hpushes : a.pushes = some y) : False := by
  cases a with
  | addPending entry => cases hpushes
  | _ => cases hadds

variable {k : Skeleton ι}

theorem mem_push {x y : ι} (h : y ∈ (k.push x).entries) : y ∈ k.entries ∨ y = x := by
  obtain ⟨n, hn⟩ := k.clearForward_entries
  replace h : y ∈ k.clearForward.entries ++ [x] := h
  rw [hn, mem_append, mem_singleton] at h
  exact h.imp_left mem_of_mem_take

/-- An entry after an action was one before, or the owned one that a commit
moved, or the action's own. -/
theorem mem_act {a : Action ι} {y : ι} (h : y ∈ (k.act a).entries) :
    y ∈ k.entries ∨ (k.owned = some y ∧ (k.act a).owned = none) ∨ a.pushes = some y := by
  cases a with
  | push x => exact (mem_push h).imp_right fun heq => .inr (congrArg some heq.symm)
  | commit =>
    replace h : y ∈ k.commit.entries := h
    show _ ∨ (_ ∧ k.commit.owned = none) ∨ _
    rw [commit] at h ⊢
    by_cases hnew : k.pending = -1
    · rw [if_pos hnew] at h ⊢
      cases howned : k.owned with
      | none =>
        rw [howned] at h
        exact .inl h
      | some x =>
        rw [howned] at h
        exact (mem_push h).imp_right fun heq => .inl ⟨congrArg some heq.symm, rfl⟩
    · rw [if_neg hnew] at h
      split at h
      · exact .inl h
      · exact .inl h
  | goTo index discard =>
    replace h : y ∈ (k.goTo index discard).entries := h
    rw [goTo] at h
    refine .inl ?_
    split at h
    · exact h
    · split at h
      · exact h
      · exact h
  | remove index => exact .inl (mem_of_mem_eraseIdx h)
  | keep => exact .inl h
  | addPending entry => exact .inl h
  | setPending index => exact .inl h
  | discard => exact .inl h

/-- The owned entry after an action was owned before, or is the action's own. -/
theorem owned_act {a : Action ι} {y : ι} (h : (k.act a).owned = some y) :
    k.owned = some y ∨ a.adds = some y := by
  cases a with
  | addPending entry =>
    cases entry with
    | none => exact .inl h
    | some x => exact .inr h
  | push x =>
    refine .inl ?_
    rwa [← clearForward_owned]
  | commit =>
    refine .inl ?_
    replace h : k.commit.owned = some y := h
    rw [commit] at h
    split at h
    · cases howned : k.owned with
      | none =>
        rw [howned] at h
        exact howned.symm.trans h
      | some x =>
        rw [howned] at h
        cases h
    · split at h
      · exact h
      · exact h
  | goTo index discard =>
    refine .inl ?_
    replace h : (k.goTo index discard).owned = some y := h
    rw [goTo] at h
    split at h
    · exact h
    · split at h
      · cases h
      · exact h
  | discard => cases h
  | remove index => cases h
  | keep => exact .inl h
  | setPending index => exact .inl h

theorem push_nodup (h : k.entries.Nodup) {x : ι} (hx : x ∉ k.entries) :
    (k.push x).entries.Nodup := by
  obtain ⟨n, hn⟩ := k.clearForward_entries
  show (k.clearForward.entries ++ [x]).Nodup
  rw [hn]
  refine nodup_append.2 ⟨h.sublist (take_sublist n _), nodup_singleton x, ?_⟩
  intro y hy z hz heq
  rw [mem_singleton.1 hz] at heq
  exact hx (heq ▸ mem_of_mem_take hy)

/-- Actions keep the entries distinct when neither the owned entry nor the
action's own is among them. -/
theorem act_nodup (h : k.entries.Nodup) (howned : ∀ x ∈ k.owned, x ∉ k.entries)
    {a : Action ι} (ha : ∀ x ∈ a.pushes, x ∉ k.entries) : (k.act a).entries.Nodup := by
  cases a with
  | push x => exact push_nodup h (ha x rfl)
  | commit =>
    show k.commit.entries.Nodup
    rw [commit]
    split
    · cases hx : k.owned with
      | none => exact h
      | some x => exact push_nodup h (howned x hx)
    · split
      · exact h
      · exact h
  | goTo index discard =>
    show (k.goTo index discard).entries.Nodup
    rw [goTo]
    split
    · exact h
    · split
      · exact h
      · exact h
  | remove index => exact h.sublist (eraseIdx_sublist _ _)
  | keep => exact h
  | addPending entry => exact h
  | setPending index => exact h
  | discard => exact h

/-- Merging keeps the entries distinct exactly when the committed entry is none
of those put before it. -/
theorem copyAndPrune_nodup_iff {k source : Skeleton ι} (h : source.entries.Nodup) :
    (k.copyAndPrune source).entries.Nodup ↔
      ∀ x ∈ nth? k.entries k.last, x ∉ source.entries.take (source.last.toNat + 1) := by
  have htake := h.sublist (take_sublist (source.last.toNat + 1) _)
  show (source.entries.take _ ++ (nth? k.entries k.last).toList).Nodup ↔ _
  rw [nodup_append]
  constructor
  · rintro ⟨-, -, hdisjoint⟩ x hx hmem
    exact hdisjoint x hmem x (mem_toList.2 hx) rfl
  · intro hapart
    refine ⟨htake, ?_, fun y hy z hz heq => hapart z (mem_toList.1 hz) (heq ▸ hy)⟩
    cases nth? k.entries k.last with
    | none => exact nodup_nil
    | some x => exact nodup_singleton x

theorem mem_copyAndPrune {k source : Skeleton ι} {x : ι}
    (h : x ∈ (k.copyAndPrune source).entries) : x ∈ source.entries ∨ x ∈ k.entries := by
  replace h : x ∈ source.entries.take _ ++ (nth? k.entries k.last).toList := h
  rcases mem_append.1 h with htake | hlast
  · exact .inl (mem_of_mem_take htake)
  · exact .inr (mem_of_nth? (mem_toList.1 hlast))

end Skeleton

/-! ## Sessions that share the counter -/

/-- Any number of sessions, named by `κ`. -/
structure World (κ : Type) where
  sessions : κ → CRWSessionController
  uniqueIdCounter : Int

/-- A call in a world of sessions. -/
inductive WorldOp (κ : Type)
  | call (session : κ) (c : Call)
  | copyStateFromSessionControllerAndPrune (receiver source : κ)

namespace World

variable {κ : Type}

def new : World κ := ⟨fun _ => .initWithBrowserState, 0⟩

/-- One of the sessions, with the counter. -/
def process (w : World κ) (i : κ) : Process := ⟨w.sessions i, w.uniqueIdCounter⟩

/-- The IDs of a world, by session. -/
def skeleton (w : World κ) (i : κ) : Skeleton Int := (w.sessions i).skeleton

section Machine

variable [DecidableEq κ]

def apply (env : Environment) (w : World κ) : WorldOp κ → World κ
  | .call i c =>
    let p := (w.process i).call env c
    ⟨update w.sessions i p.session, p.uniqueIdCounter⟩
  | .copyStateFromSessionControllerAndPrune i j =>
    let session := (w.sessions i).copyStateFromSessionControllerAndPrune (w.sessions j)
    { w with sessions := update w.sessions i session }

def machine (κ : Type) [DecidableEq κ] (env : Environment) : Machine (World κ) (WorldOp κ) where
  Pre w
    | .call i c => (w.process i).Checked env c
    | .copyStateFromSessionControllerAndPrune _ _ => True
  step := apply env

instance decidablePre (env : Environment) (w : World κ) :
    ∀ op : WorldOp κ, Decidable ((machine κ env).Pre w op)
  | .call i c => decidableChecked env (w.process i) c
  | .copyStateFromSessionControllerAndPrune _ _ => instDecidableTrue

end Machine

/-- A copy that takes effect does not put an item with the receiver's last
committed ID before the receiver's last committed item. A call finds IDs left. -/
def CopiesApart (w : World κ) : WorldOp κ → Prop
  | .call _ _ => w.uniqueIdCounter < intMax
  | .copyStateFromSessionControllerAndPrune i j =>
    (w.sessions i).canPruneAllButLastCommittedItem = true →
      (w.sessions j).lastCommittedItem.isSome = true →
        ∀ item ∈ (w.sessions i).lastCommittedItem,
          ∀ other ∈ (w.sessions j).items.take ((w.sessions j).lastCommittedItemIndex.toNat + 1),
            other.uniqueId ≠ item.uniqueId

instance decidableCopiesApart (w : World κ) : ∀ op : WorldOp κ, Decidable (w.CopiesApart op)
  | .call _ _ => inferInstanceAs (Decidable (_ < _))
  | .copyStateFromSessionControllerAndPrune _ _ => instDecidableForall

/-- The committed IDs of a session differ, and a pending new item has an ID that
no committed item and no other pending one has. -/
structure Distinct (w : World κ) : Prop where
  nodup : ∀ i, (w.skeleton i).entries.Nodup
  owned_notMem : ∀ i j, ∀ x ∈ (w.skeleton i).owned, x ∉ (w.skeleton j).entries
  owned_inj : ∀ i j, ∀ x ∈ (w.skeleton i).owned, x ∈ (w.skeleton j).owned → i = j
  entries_le : ∀ i, ∀ x ∈ (w.skeleton i).entries, x ≤ w.uniqueIdCounter
  owned_le : ∀ i, ∀ x ∈ (w.skeleton i).owned, x ≤ w.uniqueIdCounter
  counter_nonneg : 0 ≤ w.uniqueIdCounter

theorem distinct_new : (new : World κ).Distinct where
  nodup _ := nodup_nil
  owned_notMem _ _ _ h := nomatch h
  owned_inj _ _ _ h := nomatch h
  entries_le _ _ h := nomatch h
  owned_le _ _ h := nomatch h
  counter_nonneg := Int.le_refl 0

/-- `CopiesApart` by IDs. -/
theorem CopiesApart.notMem {w : World κ} {i j : κ}
    (hapart : w.CopiesApart (.copyStateFromSessionControllerAndPrune i j))
    (hprune : (w.sessions i).canPruneAllButLastCommittedItem = true)
    (hsource : (w.sessions j).lastCommittedItem.isSome = true) :
    ∀ x ∈ nth? (w.skeleton i).entries (w.skeleton i).last,
      x ∉ (w.skeleton j).entries.take ((w.skeleton j).last.toNat + 1) := by
  intro x hx hmem
  replace hx : nth? ((w.sessions i).items.map (·.uniqueId)) (w.sessions i).lastCommittedItemIndex =
    some x := hx
  replace hmem : x ∈ ((w.sessions j).items.map (·.uniqueId)).take
    ((w.sessions j).lastCommittedItemIndex.toNat + 1) := hmem
  rw [nth?_map, ← lastCommittedItem_eq] at hx
  obtain ⟨item, hitem, rfl⟩ := map_eq_some_iff.1 hx
  rw [← map_take] at hmem
  obtain ⟨other, hother, heq⟩ := mem_map.1 hmem
  exact hapart hprune hsource item hitem other hother heq

end World

namespace Process

/-- A new entry of an action has the next ID, which is used up. -/
def TakesNextId (env : Environment) (p : Process) (c : Call) : Prop :=
  ((p.call env c).uniqueIdCounter = p.uniqueIdCounter ∨
      (p.call env c).uniqueIdCounter = nextId p) ∧
    ∀ x, x ∈ (p.action c).adds ∨ x ∈ (p.action c).pushes →
      x = nextId p ∧ (p.call env c).uniqueIdCounter = x

theorem takesNextId_of_keeps {env : Environment} {p : Process} {c : Call}
    (hcounter : (p.call env c).uniqueIdCounter = p.uniqueIdCounter)
    (hadds : (p.action c).adds = none) (hpushes : (p.action c).pushes = none) :
    p.TakesNextId env c := by
  refine ⟨.inl hcounter, fun x hx => ?_⟩
  rw [hadds, hpushes] at hx
  rcases hx with h | h <;> cases h

theorem takesNextId_of_creates {env : Environment} {p : Process} {c : Call}
    (hcounter : (p.call env c).uniqueIdCounter = nextId p)
    (hadds : ∀ x ∈ (p.action c).adds, x = nextId p)
    (hpushes : ∀ x ∈ (p.action c).pushes, x = nextId p) :
    p.TakesNextId env c := by
  refine ⟨.inr hcounter, fun x hx => ?_⟩
  have hid : x = nextId p := hx.elim (hadds x) (hpushes x)
  exact ⟨hid, hcounter.trans hid.symm⟩

theorem takesNextId (env : Environment) (p : Process) (c : Call) : p.TakesNextId env c := by
  cases c with
  | addPendingItem url referrer transition initiationType userAgentOverrideOption =>
    by_cases hnew : (p.session.discardTransientItem.setPendingItemIndex (-1)).shouldCreatePendingItem
        url transition userAgentOverrideOption = true
    · refine takesNextId_of_creates ?_ (fun x hx => ?_) (fun x hx => ?_)
      · rw [call, addPendingItem]
        simp only
        rw [if_pos hnew, uniqueIdCounter_itemWithURL]
        rfl
      · rw [action, if_pos hnew] at hx
        exact (some.inj hx).symm
      · rw [action, if_pos hnew] at hx
        cases hx
    · refine takesNextId_of_keeps ?_ ?_ rfl
      · rw [call, addPendingItem]
        simp only
        rw [if_neg hnew]
      · rw [action, if_neg hnew]
        rfl
  | pushNewItem url stateObject transition now =>
    cases hlast : p.session.lastCommittedItem with
    | none =>
      have hkeep : p.action (.pushNewItem url stateObject transition now) = .keep := by
        rw [action, hlast]
        rfl
      refine takesNextId_of_keeps ?_ ?_ ?_
      · rw [call, pushNewItem, hlast]
      · rw [hkeep]
        rfl
      · rw [hkeep]
        rfl
    | some item =>
      have hpush : p.action (.pushNewItem url stateObject transition now) =
          .push (nextId p) := by
        rw [action, hlast]
        rfl
      refine takesNextId_of_creates ?_ (fun x hx => ?_) (fun x hx => ?_)
      · rw [call, pushNewItem, hlast]
        rfl
      · rw [hpush] at hx
        cases hx
      · rw [hpush] at hx
        exact (some.inj hx).symm
  | addTransientItem url now =>
    refine takesNextId_of_creates rfl (fun x hx => ?_) (fun x hx => ?_)
    · cases hx
    · cases hx
  | setPendingItemIndex index => exact takesNextId_of_keeps rfl rfl rfl
  | updatePendingItem url => exact takesNextId_of_keeps rfl rfl rfl
  | commitPendingItem now => exact takesNextId_of_keeps rfl rfl rfl
  | updateCurrentItem url stateObject => exact takesNextId_of_keeps rfl rfl rfl
  | discardNonCommittedItems => exact takesNextId_of_keeps rfl rfl rfl
  | goToItemAtIndex index discard => exact takesNextId_of_keeps rfl rfl rfl
  | removeItemAtIndex index => exact takesNextId_of_keeps rfl rfl rfl
  | setNavigationManager navigationManager => exact takesNextId_of_keeps rfl rfl rfl

end Process

namespace World

variable {κ : Type} [DecidableEq κ]

theorem skeleton_call (env : Environment) (w : World κ) (i : κ) (c : Call) :
    (w.apply env (.call i c)).skeleton =
      update w.skeleton i ((w.skeleton i).act ((w.process i).action c)) := by
  funext j
  show CRWSessionController.skeleton (update w.sessions i _ j) = _
  by_cases h : j = i
  · subst h
    rw [update_self, update_self]
    exact Process.skeleton_call env (w.process j) c
  · rw [update_of_ne h, update_of_ne h]
    rfl

theorem skeleton_copyState (env : Environment) (w : World κ) (i j : κ) :
    (w.apply env (.copyStateFromSessionControllerAndPrune i j)).skeleton =
      update w.skeleton i
        (if (w.sessions i).canPruneAllButLastCommittedItem = true ∧
            (w.sessions j).lastCommittedItem.isSome = true then
          (w.skeleton i).copyAndPrune (w.skeleton j)
        else w.skeleton i) := by
  funext k
  show CRWSessionController.skeleton (update w.sessions i _ k) = _
  by_cases h : k = i
  · subst h
    rw [update_self, update_self]
    exact CRWSessionController.skeleton_copyState _ _
  · rw [update_of_ne h, update_of_ne h]
    rfl

/-- An ID committed after a call was committed before it, was pending before it,
or is the one the call pushes. -/
theorem mem_entries_call {env : Environment} {w : World κ} {i : κ} {c : Call} {j : κ} {x : Int}
    (hx : x ∈ ((w.apply env (.call i c)).skeleton j).entries) :
    x ∈ (w.skeleton j).entries ∨
      (x ∈ (w.skeleton i).owned ∧ ((w.apply env (.call i c)).skeleton i).owned = none) ∨
      x ∈ ((w.process i).action c).pushes := by
  rw [skeleton_call] at hx
  by_cases hj : j = i
  · subst hj
    rw [skeleton_call, update_self]
    rw [update_self] at hx
    exact Skeleton.mem_act hx
  · rw [update_of_ne hj] at hx
    exact .inl hx

/-- An ID pending after a call was pending before it, or is the one the call adds. -/
theorem mem_owned_call {env : Environment} {w : World κ} {i : κ} {c : Call} {j : κ} {x : Int}
    (hx : x ∈ ((w.apply env (.call i c)).skeleton j).owned) :
    x ∈ (w.skeleton j).owned ∨ (j = i ∧ x ∈ ((w.process i).action c).adds) := by
  rw [skeleton_call] at hx
  by_cases hj : j = i
  · subst hj
    rw [update_self] at hx
    exact (Skeleton.owned_act hx).imp_right fun heq => ⟨rfl, heq⟩
  · rw [update_of_ne hj] at hx
    exact .inl hx

/-- One call keeps the IDs of a world distinct. -/
theorem Distinct.call (env : Environment) {w : World κ} (h : w.Distinct) (i : κ) (c : Call)
    (hleft : w.uniqueIdCounter < intMax) : (w.apply env (.call i c)).Distinct := by
  obtain ⟨hkeeps, hnew⟩ : ((w.apply env (.call i c)).uniqueIdCounter = w.uniqueIdCounter ∨
      (w.apply env (.call i c)).uniqueIdCounter = _) ∧
      ∀ x, x ∈ ((w.process i).action c).adds ∨ x ∈ ((w.process i).action c).pushes →
        x = _ ∧ (w.apply env (.call i c)).uniqueIdCounter = x :=
    takesNextId env (w.process i) c
  have hnonneg := h.counter_nonneg
  have hid : nextId (w.process i) = w.uniqueIdCounter + 1 := by
    show wrapInt (w.uniqueIdCounter + 1) = _
    exact wrapInt_of_index (by omega) (by omega)
  have hcounter : w.uniqueIdCounter ≤ (w.apply env (.call i c)).uniqueIdCounter := by
    omega
  -- an ID in use is not the new one
  have hfresh : ∀ x, x ∈ ((w.process i).action c).adds ∨ x ∈ ((w.process i).action c).pushes →
      ¬ x ≤ w.uniqueIdCounter := by
    intro x hx
    have := (hnew x hx).1
    omega
  constructor
  · rw [skeleton_call, forall_update_iff w.skeleton fun _ k => k.entries.Nodup]
    refine ⟨?_, fun j _ => h.nodup j⟩
    refine Skeleton.act_nodup (h.nodup i) (h.owned_notMem i i) fun x hx hmem => ?_
    exact hfresh x (.inr hx) (h.entries_le i x hmem)
  · intro j k x hown hmem
    rcases mem_owned_call hown with hold | ⟨-, hadds⟩
    · rcases mem_entries_call hmem with hmem' | ⟨hcommit, hnone⟩ | hpushes
      · exact h.owned_notMem j k x hold hmem'
      · -- the committed one is not owned any more
        rw [h.owned_inj j i x hold hcommit, hnone] at hown
        cases hown
      · exact hfresh x (.inr hpushes) (h.owned_le j x hold)
    · rcases mem_entries_call hmem with hmem' | ⟨hcommit, -⟩ | hpushes
      · exact hfresh x (.inl hadds) (h.entries_le k x hmem')
      · exact hfresh x (.inl hadds) (h.owned_le i x hcommit)
      · exact Skeleton.Action.not_adds_and_pushes hadds hpushes
  · intro j k x hj hk
    rcases mem_owned_call hj with hj' | ⟨rfl, hadds⟩
    · rcases mem_owned_call hk with hk' | ⟨rfl, hadds⟩
      · exact h.owned_inj j k x hj' hk'
      · exact absurd (h.owned_le j x hj') (hfresh x (.inl hadds))
    · rcases mem_owned_call hk with hk' | ⟨rfl, -⟩
      · exact absurd (h.owned_le k x hk') (hfresh x (.inl hadds))
      · rfl
  · intro j x hx
    rcases mem_entries_call hx with hold | ⟨hcommit, -⟩ | hpushes
    · exact Int.le_trans (h.entries_le j x hold) hcounter
    · exact Int.le_trans (h.owned_le i x hcommit) hcounter
    · exact Int.le_of_eq (hnew x (.inr hpushes)).2.symm
  · intro j x hx
    rcases mem_owned_call hx with hold | ⟨-, hadds⟩
    · exact Int.le_trans (h.owned_le j x hold) hcounter
    · exact Int.le_of_eq (hnew x (.inl hadds)).2.symm
  · exact Int.le_trans hnonneg hcounter

/-- A step of one session that only moves committed IDs around. -/
theorem Distinct.of_update {w w' : World κ} (h : w.Distinct) {i : κ} {k : Skeleton Int}
    (hskeleton : w'.skeleton = update w.skeleton i k)
    (hcounter : w'.uniqueIdCounter = w.uniqueIdCounter) (hnodup : k.entries.Nodup)
    (hentries : ∀ x ∈ k.entries, ∃ j, x ∈ (w.skeleton j).entries)
    (howned : k.owned = (w.skeleton i).owned) : w'.Distinct := by
  replace hnodup : ∀ j, (w'.skeleton j).entries.Nodup := by
    rw [hskeleton, forall_update_iff w.skeleton fun _ k => k.entries.Nodup]
    exact ⟨hnodup, fun j _ => h.nodup j⟩
  replace hentries : ∀ j, ∀ x ∈ (w'.skeleton j).entries, ∃ j', x ∈ (w.skeleton j').entries := by
    rw [hskeleton, forall_update_iff w.skeleton
      fun _ k => ∀ x ∈ k.entries, ∃ j', x ∈ (w.skeleton j').entries]
    exact ⟨hentries, fun j _ x hx => ⟨j, hx⟩⟩
  replace howned : ∀ j, (w'.skeleton j).owned = (w.skeleton j).owned := by
    rw [hskeleton, forall_update_iff w.skeleton fun j k => k.owned = (w.skeleton j).owned]
    exact ⟨howned, fun j _ => rfl⟩
  constructor
  · exact hnodup
  · intro j j' x hx hmem
    obtain ⟨l, hl⟩ := hentries j' x hmem
    exact h.owned_notMem j l x (howned j ▸ hx) hl
  · intro j j' x hj hj'
    exact h.owned_inj j j' x (howned j ▸ hj) (howned j' ▸ hj')
  · intro j x hx
    obtain ⟨l, hl⟩ := hentries j x hx
    exact hcounter ▸ h.entries_le l x hl
  · intro j x hx
    exact hcounter ▸ h.owned_le j x (howned j ▸ hx)
  · exact hcounter ▸ h.counter_nonneg

/-- A copy that does not bring two items of one ID together keeps the IDs
distinct. -/
theorem Distinct.copyState (env : Environment) {w : World κ} (h : w.Distinct) (i j : κ)
    (hapart : w.CopiesApart (.copyStateFromSessionControllerAndPrune i j)) :
    (w.apply env (.copyStateFromSessionControllerAndPrune i j)).Distinct := by
  refine h.of_update (skeleton_copyState env w i j) rfl ?_ ?_ ?_
  · split
    next hcopy =>
      exact (Skeleton.copyAndPrune_nodup_iff (h.nodup j)).2 (hapart.notMem hcopy.1 hcopy.2)
    next => exact h.nodup i
  · intro x hx
    split at hx
    · rcases Skeleton.mem_copyAndPrune hx with hj | hi
      · exact ⟨j, hj⟩
      · exact ⟨i, hi⟩
    · exact ⟨i, hx⟩
  · split
    · rfl
    · rfl

/-- One step of a world keeps its IDs distinct. -/
theorem Distinct.apply (env : Environment) {w : World κ} (h : w.Distinct) {op : WorldOp κ}
    (hop : w.CopiesApart op) : (w.apply env op).Distinct := by
  cases op with
  | call i c => exact h.call env i c hop
  | copyStateFromSessionControllerAndPrune i j => exact h.copyState env i j hop

/-- **Unique IDs**: after every run of calls among any number of sessions in
which the copies stay apart, the committed items of a session have distinct
IDs, and looking one up by its ID finds its own index. -/
theorem unique_ids (env : Environment) (ops : List (WorldOp κ))
    (hops : (machine κ env).Along CopiesApart new ops) (i : κ) :
    let s := ((machine κ env).run new ops).sessions i
    (s.items.map (·.uniqueId)).Nodup ∧
      ∀ (n : Nat) (item : NavigationItemImpl), s.items[n]? = some item →
        s.getCommittedItemIndexWithUniqueID item.uniqueId = n ∧
          s.getCommittedItemWithUniqueID item.uniqueId = some item := by
  intro s
  have hdistinct : ((machine κ env).run new ops).Distinct := by
    refine Machine.run_invariant (M := machine κ env) ?_ distinct_new hops
    exact fun w op h hop => h.apply env hop
  have hnodup : (s.items.map (·.uniqueId)).Nodup := hdistinct.nodup i
  refine ⟨hnodup, fun n item hitem => ?_⟩
  exact ⟨getCommittedItemIndexWithUniqueID_eq hnodup hitem,
    getCommittedItemWithUniqueID_eq hnodup hitem⟩

/-- Loading and committing a page in one of two sessions. -/
def loadPageIn (i : Bool) (path : String) : List (WorldOp Bool) :=
  [.call i (.addPendingItem ⟨"http://a.com/" ++ path, true⟩ .new .typed .userInitiated .inherit),
    .call i (.commitPendingItem 0)]

/-- A run with one copy: the third item of the receiver is found at its index. -/
theorem unique_ids_one_copy :
    let ops := loadPageIn true "1" ++ loadPageIn true "2" ++ loadPageIn false "3" ++
      [.copyStateFromSessionControllerAndPrune false true]
    let s := ((machine Bool plainEnvironment).run new ops).sessions false
    (s.items.map (·.uniqueId)).Nodup ∧ s.items.length = 3 ∧
      s.getCommittedItemIndexWithUniqueID 3 = 2 := by
  intro ops s
  have hops : (machine Bool plainEnvironment).Along CopiesApart new ops := by decide
  obtain ⟨hnodup, hlookup⟩ := unique_ids plainEnvironment ops hops false
  have hlen : s.items.length = 3 := by decide
  have hlt : 2 < s.items.length := hlen ▸ Nat.lt_succ_self 2
  obtain ⟨hindex, -⟩ := hlookup 2 (s.items.get ⟨2, hlt⟩) (getElem?_eq_getElem hlt)
  exact ⟨hnodup, hlen, hindex⟩

/-- Copying back and forth: the first session gets a copy of the item of the
second, and the second then a copy of that copy. -/
theorem copyBack_duplicates_id :
    let ops := loadPageIn true "1" ++ loadPageIn false "2" ++
      [.copyStateFromSessionControllerAndPrune true false,
        .copyStateFromSessionControllerAndPrune false true]
    let s := ((machine Bool plainEnvironment).run new ops).sessions false
    (machine Bool plainEnvironment).Along (machine Bool plainEnvironment).Pre
        new ops ∧
      s.items.map (·.uniqueId) = [2, 1, 2] ∧ ¬ (s.items.map (·.uniqueId)).Nodup ∧
      (s.items.map fun item => s.getCommittedItemIndexWithUniqueID item.uniqueId) = [0, 1, 0] := by
  decide

end World

end ChromiumIos
