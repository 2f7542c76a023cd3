import ChromiumIos.Navigation.SessionInvariant

/-!
# What a commit leaves pending

A pending navigation within the history is an index, a pending new navigation
an owned item. `commitPendingItem` ends the one that `pendingItem` designates,
and its `DCHECK(!_pendingItem)` says that there was no other.

There can be: `setPendingItemIndex` does not look at the owned item. After
`addPendingItem` and `setPendingItemIndex`, a commit goes to the history item
and the owned one is pending again. `commit_leaves_nothing_pending` says when
this does not happen, for one commit and for whole runs.
-/

namespace ChromiumIos

open Lib

namespace CRWSessionController

/-- After `commitPendingItem` there is no pending item, and the `DCHECK` inside
it passed. -/
structure CommitsAll (env : Environment) (s : CRWSessionController) (now : Time) : Prop where
  index : (s.commitPendingItem env now).pendingItemIndex = -1
  item : (s.commitPendingItem env now).pendingItem = none
  check : s.pendingItem.isSome → s.commitItem.ownedPendingItem = none

/-- The pending navigation is within the history or a new one, not both. -/
def OnePending (s : CRWSessionController) : Prop :=
  s.pendingItemIndex = -1 ∨ s.ownedPendingItem = none

theorem onePending_iff_skeleton {s : CRWSessionController} :
    s.OnePending ↔ s.skeleton.HistoryOrNew :=
  or_congr Iff.rfl Option.map_eq_none_iff.symm

theorem pendingItem_eq_none {s : CRWSessionController} :
    s.pendingItem = none ↔ s.skeleton.pendingEntry = none := by
  rw [← pendingItem_map, Option.map_eq_none_iff]

theorem commitsAll_iff (env : Environment) {s : CRWSessionController} (h : s.Valid) (now : Time) :
    s.CommitsAll env now ↔ s.OnePending := by
  have hskeleton := skeleton_commitPendingItem env s now
  have hcommit := Skeleton.pendingEntry_commit_iff (valid_iff_skeleton.1 h)
  rw [onePending_iff_skeleton, ← hcommit, ← hskeleton, ← pendingItem_eq_none]
  constructor
  · rintro ⟨hindex, hitem, -⟩
    exact ⟨hindex, hitem⟩
  · rintro ⟨hindex, hitem⟩
    refine ⟨hindex, hitem, fun hsome => ?_⟩
    -- the rest of the method does not touch the owned item
    have hitem' : s.commitItem.skeleton.pendingEntry = none := by
      rw [skeleton_commitItem hsome, ← hskeleton]
      exact pendingItem_eq_none.1 hitem
    have hindex' : s.commitItem.skeleton.pending = -1 := by
      rw [skeleton_commitItem hsome, ← hskeleton]
      exact hindex
    rw [Skeleton.pendingEntry, if_pos hindex'] at hitem'
    exact Option.map_eq_none_iff.1 hitem'

end CRWSessionController

namespace Process

/-- A call does not start a navigation within the history while a new one is
pending. -/
def KeepsOnePending (p : Process) : Op → Prop
  | .call (.setPendingItemIndex index) => index = -1 ∨ p.session.ownedPendingItem = none
  | _ => True

theorem apply_onePending (env : Environment) {p : Process} (h : p.session.OnePending) {op : Op}
    (hop : p.KeepsOnePending op) : (p.apply env op).session.OnePending := by
  rw [CRWSessionController.onePending_iff_skeleton] at h ⊢
  cases op with
  | call c =>
    show (p.call env c).session.skeleton.HistoryOrNew
    rw [skeleton_call]
    refine Skeleton.act_historyOrNew h fun index hindex => ?_
    cases c with
    | setPendingItemIndex i =>
      obtain rfl : i = index := Skeleton.Action.setPending.inj hindex
      exact hop.imp_right fun hnone => Option.map_eq_none_iff.2 hnone
    | pushNewItem url stateObject transition now =>
      rw [action] at hindex
      split at hindex <;> cases hindex
    | _ => cases hindex
  | copyStateFromSessionControllerAndPrune source =>
    show (p.session.copyStateFromSessionControllerAndPrune source).skeleton.HistoryOrNew
    rw [CRWSessionController.skeleton_copyState]
    split
    · exact Skeleton.copyAndPrune_historyOrNew h _
    · exact h

/-- **Commit**: in every state a run of calls in bounds reaches, a commit
leaves nothing pending exactly when at most one navigation was; and at most one
ever is when no call of `setPendingItemIndex` finds a pending new item. -/
theorem commit_leaves_nothing_pending (env : Environment) (ops : List Op)
    (hops : (machine env).Along InBounds new ops) (now : Time) :
    let s := ((machine env).run new ops).session
    (s.CommitsAll env now ↔ s.pendingItemIndex = -1 ∨ s.ownedPendingItem = none) ∧
      ((machine env).Along KeepsOnePending new ops → s.CommitsAll env now) := by
  intro s
  have hvalid : s.Valid := run_valid env hops
  have hiff := CRWSessionController.commitsAll_iff env hvalid now
  refine ⟨hiff, fun hkeeps => hiff.2 ?_⟩
  refine Machine.run_invariant (M := machine env) (I := fun p => p.session.OnePending) ?_ ?_ hkeeps
  · exact fun p op h hop => apply_onePending env h hop
  · exact .inl rfl

/-- A run that goes back and commits, then commits a new page. -/
theorem commit_leaves_nothing_pending_two_pages :
    let ops := loadPage "1" ++ loadPage "2" ++
      [.call (.setPendingItemIndex 0), .call (.commitPendingItem 0),
        .call (.addPendingItem ⟨"http://a.com/3", true⟩ .new .typed .userInitiated .inherit)]
    let s := ((machine plainEnvironment).run new ops).session
    s.pendingItem.isSome ∧ s.CommitsAll plainEnvironment 0 := by
  intro ops s
  have hlegal : (machine plainEnvironment).Along (machine plainEnvironment).Pre new ops := by decide
  have hops : (machine plainEnvironment).Along InBounds new ops :=
    hlegal.imp fun _ _ => InBounds.of_pre
  have h := commit_leaves_nothing_pending plainEnvironment ops hops 0
  exact ⟨by decide, h.1.2 (by decide)⟩

/-- A new page is pending when a history navigation starts: the commit goes to
the history item, and the new page is pending again. -/
theorem stalePendingItem_survives_commit :
    let ops := loadPage "1" ++
      [.call (.addPendingItem ⟨"http://a.com/2", true⟩ .new .typed .userInitiated .inherit),
        .call (.setPendingItemIndex 0)]
    let s := ((machine plainEnvironment).run new ops).session
    (machine plainEnvironment).Along (machine plainEnvironment).Pre new ops ∧
      ¬ ((s.commitPendingItem plainEnvironment 0).pendingItemIndex = -1 ∧
        (s.commitPendingItem plainEnvironment 0).pendingItem = none) ∧
      (s.commitPendingItem plainEnvironment 0).pendingItem.map (·.url) =
        some ⟨"http://a.com/2", true⟩ := by
  decide

end Process

end ChromiumIos
