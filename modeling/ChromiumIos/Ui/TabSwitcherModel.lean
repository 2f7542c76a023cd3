import Mathlib.Data.List.Sort
import ChromiumIos.Lib.OrderedSet
import ChromiumIos.Lib.Positions

/-!
# `TabSwitcherModel`

`tab_switcher_model.mm` tells its delegate which distant sessions were removed and
which were inserted, by their indexes; `tab_switcher_controller.mm` has a panel for
each of them and follows the calls.

- `sortedIndexes_eq`: the indexes of the sessions that are in one list only.
- `panels_follow_sessions`: what the panels are after the calls.
-/

namespace ChromiumIos

open Lib List

/-- `TagAndIndex`, which is ordered by its tag. -/
structure TagAndIndex (Tag : Type) where
  tag : Tag
  index : Nat
deriving DecidableEq, Repr

/-- A call of `TabSwitcherModelDelegate`; no array is `nil`. -/
inductive TabSwitcherModelDelegateCall (Tag : Type)
  | distantSessionsRemovedAtSortedIndexes (removedIndexes insertedIndexes : Option (List Nat))
  | distantSessionMayNeedUpdate (tag : Tag)
deriving DecidableEq, Repr

namespace TabSwitcherModel

variable {Tag : Type} [LinearOrder Tag]

/-- `FillSetUsingSessions`, for sessions with the given tags. -/
def fillSetUsingSessions (sessions : List Tag) : OrderedSet (@TagAndIndex.tag Tag) :=
  .ofList _ (sessions.zipIdx.map fun session => ⟨session.1, session.2⟩)

/-- The tags of the sessions of the first list that are not in the second one. -/
def tagsOfDifference (sessions others : List Tag) : OrderedSet (@TagAndIndex.tag Tag) :=
  .ofList _ (setDifference TagAndIndex.tag (fillSetUsingSessions sessions).elems
    (fillSetUsingSessions others).elems)

/-- The tags of the sessions that are in both lists, with the indexes of the first. -/
def tagsOfIntersection (sessions others : List Tag) :
    OrderedSet (@TagAndIndex.tag Tag) :=
  .ofList _ (setIntersection TagAndIndex.tag (fillSetUsingSessions sessions).elems
    (fillSetUsingSessions others).elems)

/-- `sortedArrayUsingSelector:@selector(compare:)` of the indexes, unless the set is
empty. -/
def sortedIndexes (tags : OrderedSet (@TagAndIndex.tag Tag)) : Option (List Nat) :=
  if tags.elems.isEmpty then none
  else some ((tags.elems.map TagAndIndex.index).insertionSort (· ≤ ·))

/-- `notifyDelegate:aboutChangeFrom:to:`, as the calls of the delegate. -/
def notifyDelegate (oldSessions newSessions : List Tag) :
    List (TabSwitcherModelDelegateCall Tag) :=
  let removedIndexesSorted := sortedIndexes (tagsOfDifference oldSessions newSessions)
  let insertedIndexesSorted := sortedIndexes (tagsOfDifference newSessions oldSessions)
  let changes :=
    if removedIndexesSorted.isSome || insertedIndexesSorted.isSome then
      [.distantSessionsRemovedAtSortedIndexes removedIndexesSorted insertedIndexesSorted]
    else []
  changes ++ (tagsOfIntersection newSessions oldSessions).elems.map fun tagAndIndexOfSession =>
    .distantSessionMayNeedUpdate tagAndIndexOfSession.tag

end TabSwitcherModel

namespace TabSwitcherController

variable {Tag : Type}

/-- `distantSessionsRemovedAtSortedIndexes:insertedAtSortedIndexes:`, with the tags of
the panel controllers, when the model has the given sessions. It fails where
`_controllersOfDistantSessions` raises an exception. -/
def distantSessionsRemovedAtSortedIndexes (sessions : List Tag)
    (removedIndexes insertedIndexes : Option (List Nat))
    (controllersOfDistantSessions : List Tag) : Option (List Tag) :=
  ((removedIndexes.getD []).reverse.foldlM removeAt controllersOfDistantSessions).bind
    fun controllers =>
      (insertedIndexes.getD []).foldlM
        (fun controllers index => sessions[index]?.bind (insertAt controllers index)) controllers

/-- What a call of the delegate makes of the panels. -/
def handle (sessions controllersOfDistantSessions : List Tag) :
    TabSwitcherModelDelegateCall Tag → Option (List Tag)
  | .distantSessionsRemovedAtSortedIndexes removedIndexes insertedIndexes =>
    distantSessionsRemovedAtSortedIndexes sessions removedIndexes insertedIndexes
      controllersOfDistantSessions
  | .distantSessionMayNeedUpdate _ => some controllersOfDistantSessions

/-- The panels after the calls about a change of the sessions. -/
def panelsAfter [LinearOrder Tag] (oldSessions newSessions : List Tag) : Option (List Tag) :=
  (TabSwitcherModel.notifyDelegate oldSessions newSessions).foldlM (handle newSessions) oldSessions

end TabSwitcherController

namespace TabSwitcherModel

variable {Tag : Type} [LinearOrder Tag] {sessions others : List Tag}

theorem mem_fillSetUsingSessions (h : sessions.Nodup) {x : TagAndIndex Tag} :
    x ∈ fillSetUsingSessions sessions ↔ sessions[x.index]? = some x.tag := by
  have hdistinct : (sessions.zipIdx.map fun session =>
      (⟨session.1, session.2⟩ : TagAndIndex Tag)).Pairwise fun a b => a.tag ≠ b.tag := by
    rw [pairwise_map, ← pairwise_map (f := Prod.fst), zipIdx_map_fst]
    exact h
  rw [fillSetUsingSessions, OrderedSet.mem_ofList hdistinct, mem_map]
  constructor
  · rintro ⟨⟨tag, index⟩, hmem, rfl⟩
    exact mk_mem_zipIdx_iff_getElem?.1 hmem
  · intro hat
    exact ⟨(x.tag, x.index), mk_mem_zipIdx_iff_getElem?.2 hat, rfl⟩

section

variable (hsessions : sessions.Nodup) (hothers : others.Nodup)
include hsessions hothers

theorem mem_tagsOfDifference {x : TagAndIndex Tag} :
    x ∈ tagsOfDifference sessions others ↔ sessions[x.index]? = some x.tag ∧ x.tag ∉ others := by
  have hsorted := (fillSetUsingSessions sessions).sorted
  have hdistinct := (hsorted.sublist (setDifference_sublist TagAndIndex.tag _
    (fillSetUsingSessions others).elems)).imp fun hlt => hlt.ne
  rw [tagsOfDifference, OrderedSet.mem_ofList hdistinct,
    mem_setDifference hsorted (fillSetUsingSessions others).sorted, ← OrderedSet.mem_def,
    mem_fillSetUsingSessions hsessions]
  refine and_congr_right fun _ => ?_
  constructor
  · intro h hmem
    obtain ⟨index, hat⟩ := mem_iff_getElem?.1 hmem
    exact h ⟨x.tag, index⟩ ((mem_fillSetUsingSessions hothers).2 hat) rfl
  · intro h b hb heq
    exact h (heq ▸ mem_of_getElem? ((mem_fillSetUsingSessions hothers).1 hb))

theorem mem_tagsOfIntersection {x : TagAndIndex Tag} :
    x ∈ tagsOfIntersection sessions others ↔ sessions[x.index]? = some x.tag ∧ x.tag ∈ others := by
  have hsorted := (fillSetUsingSessions sessions).sorted
  have hdistinct : (setIntersection TagAndIndex.tag (fillSetUsingSessions sessions).elems
      (fillSetUsingSessions others).elems).Pairwise fun a b => a.tag ≠ b.tag :=
    (hsorted.sublist (setIntersection_sublist ..)).imp fun hlt => hlt.ne
  rw [tagsOfIntersection, OrderedSet.mem_ofList hdistinct,
    mem_setIntersection hsorted (fillSetUsingSessions others).sorted, ← OrderedSet.mem_def,
    mem_fillSetUsingSessions hsessions]
  refine and_congr_right fun _ => ?_
  constructor
  · rintro ⟨b, hb, heq⟩
    exact heq ▸ mem_of_getElem? ((mem_fillSetUsingSessions hothers).1 hb)
  · intro hmem
    obtain ⟨index, hat⟩ := mem_iff_getElem?.1 hmem
    exact ⟨⟨x.tag, index⟩, (mem_fillSetUsingSessions hothers).2 hat, rfl⟩

/-- The delegate hears of every session that is in both lists. -/
theorem mayNeedUpdate_mem_notifyDelegate {tag : Tag} :
    .distantSessionMayNeedUpdate tag ∈ notifyDelegate others sessions ↔
      tag ∈ others ∧ tag ∈ sessions := by
  have hchanges : ∀ removed inserted : Option (List Nat),
      TabSwitcherModelDelegateCall.distantSessionMayNeedUpdate tag ∉
        if removed.isSome || inserted.isSome then
          [.distantSessionsRemovedAtSortedIndexes removed inserted]
        else [] := by
    intro removed inserted
    split <;> simp
  refine (mem_append.trans (or_iff_right (hchanges _ _))).trans ?_
  rw [mem_map]
  constructor
  · rintro ⟨x, hx, heq⟩
    cases heq
    obtain ⟨hat, hmem⟩ := (mem_tagsOfIntersection hsessions hothers).1 hx
    exact ⟨hmem, mem_of_getElem? hat⟩
  · rintro ⟨hmem, htag⟩
    obtain ⟨index, hat⟩ := mem_iff_getElem?.1 htag
    exact ⟨⟨tag, index⟩, (mem_tagsOfIntersection hsessions hothers).2 ⟨hat, hmem⟩, rfl⟩

/-- The indexes, in ascending order, of the sessions that the other list has not. -/
theorem sortedIndexes_eq : (sortedIndexes (tagsOfDifference sessions others)).getD [] =
      sessions.findIdxs fun tag => tag ∉ others := by
  have hindexes : (sortedIndexes (tagsOfDifference sessions others)).getD [] =
      ((tagsOfDifference sessions others).elems.map TagAndIndex.index).insertionSort (· ≤ ·) := by
    rw [sortedIndexes]
    split
    · next hempty => rw [List.isEmpty_iff.1 hempty]; rfl
    · rfl
  have hmem : ∀ x ∈ (tagsOfDifference sessions others).elems,
      sessions[x.index]? = some x.tag ∧ x.tag ∉ others :=
    fun x hx => (mem_tagsOfDifference hsessions hothers).1 hx
  -- an index comes with one tag only
  have hnodup : ((tagsOfDifference sessions others).elems.map TagAndIndex.index).Nodup := by
    refine List.Nodup.map_on ?_ ((tagsOfDifference sessions others).sorted.imp fun hlt heq =>
      (heq ▸ hlt).false)
    rintro ⟨tag, index⟩ hx ⟨tag', index'⟩ hy heq
    cases heq
    have hat := (hmem _ hx).1
    rw [(hmem _ hy).1] at hat
    exact congrArg (TagAndIndex.mk · index) (Option.some.inj hat).symm
  rw [hindexes]
  refine List.Perm.eq_of_pairwise' (pairwise_insertionSort (· ≤ ·) _)
    (pairwise_findIdxs.imp Nat.le_of_lt) ?_
  refine (perm_insertionSort _ _).trans
    ((perm_ext_iff_of_nodup hnodup nodup_findIdxs).2 fun index => ?_)
  rw [mem_findIdxs_iff_exists_getElem_pos, mem_map]
  constructor
  · rintro ⟨x, hx, rfl⟩
    obtain ⟨hat, hnot⟩ := hmem x hx
    obtain ⟨hlt, heq⟩ := List.getElem?_eq_some_iff.1 hat
    exact ⟨hlt, by rw [heq]; exact decide_eq_true hnot⟩
  · rintro ⟨hlt, hnot⟩
    exact ⟨⟨sessions[index], index⟩, (mem_tagsOfDifference hsessions hothers).2
      ⟨getElem?_eq_getElem hlt, of_decide_eq_true hnot⟩, rfl⟩

end

end TabSwitcherModel

/-! ## The panels -/

namespace TabSwitcherController

variable {Tag : Type} [LinearOrder Tag] {oldSessions newSessions : List Tag}

open TabSwitcherModel

/-- The sessions of both lists are as many in one as in the other. -/
theorem length_common (hold : oldSessions.Nodup) (hnew : newSessions.Nodup) :
    (oldSessions.filter (· ∈ newSessions)).length =
      newSessions.countP fun tag => !decide (tag ∉ oldSessions) := by
  have hperm : (oldSessions.filter (· ∈ newSessions)).Perm
      (newSessions.filter fun tag => !decide (tag ∉ oldSessions)) := by
    refine (perm_ext_iff_of_nodup (hold.filter _) (hnew.filter _)).2 fun tag => ?_
    simp [and_comm]
  rw [hperm.length_eq, countP_eq_length_filter]

/-- What the delegate calls come to: sessions are removed, then inserted. -/
theorem panelsAfter_eq_changes (oldSessions newSessions : List Tag) :
    panelsAfter oldSessions newSessions =
      distantSessionsRemovedAtSortedIndexes newSessions
        (sortedIndexes (tagsOfDifference oldSessions newSessions))
        (sortedIndexes (tagsOfDifference newSessions oldSessions)) oldSessions := by
  have hupdates : ∀ (tags : List (TagAndIndex Tag)) (panels : List Tag),
      (tags.map fun x => TabSwitcherModelDelegateCall.distantSessionMayNeedUpdate x.tag).foldlM
        (handle newSessions) panels = some panels := by
    intro tags
    induction tags with
    | nil => exact fun _ => rfl
    | cons x tags ih => exact ih
  rw [panelsAfter, notifyDelegate, foldlM_append]
  cases sortedIndexes (tagsOfDifference oldSessions newSessions) with
  | none =>
    cases sortedIndexes (tagsOfDifference newSessions oldSessions) with
    | none => exact hupdates _ _
    | some inserted =>
      show ((distantSessionsRemovedAtSortedIndexes newSessions none (some inserted)
        oldSessions).bind some).bind _ = _
      simp only [hupdates, Option.bind_fun_some]
  | some removed =>
    show ((distantSessionsRemovedAtSortedIndexes newSessions (some removed) _
      oldSessions).bind some).bind _ = _
    simp only [hupdates, Option.bind_fun_some]

/-- The sessions of both lists stay, and those of the new list are woven in. -/
theorem panelsAfter_eq (hold : oldSessions.Nodup) (hnew : newSessions.Nodup) :
    panelsAfter oldSessions newSessions =
      some (weave (· ∉ oldSessions) newSessions (oldSessions.filter (· ∈ newSessions))) := by
  have hremoved := removeAt_findIdxs (fun tag => decide (tag ∉ newSessions)) [] oldSessions
  have hinserted := @insertAt_findIdxs Tag (fun tag => decide (tag ∉ oldSessions))
    (fun index => newSessions[index]?) [] newSessions (oldSessions.filter (· ∈ newSessions))
    (fun k => by rw [length_nil, Nat.zero_add]) (length_common hold hnew)
  simp only [length_nil, nil_append, decide_not, Bool.not_not] at hremoved hinserted
  rw [panelsAfter_eq_changes, distantSessionsRemovedAtSortedIndexes, sortedIndexes_eq hold hnew,
    sortedIndexes_eq hnew hold]
  simp only [decide_not, hremoved, Option.bind_some]
  exact hinserted

/-- What the panels are after a change of the sessions. -/
structure PanelsFollow (oldSessions newSessions panels : List Tag) : Prop where
  length : panels.length = newSessions.length
  inserted : ∀ (index : Nat) (tag : Tag), newSessions[index]? = some tag → tag ∉ oldSessions →
    panels[index]? = some tag
  kept : panels.filter (· ∈ oldSessions) = oldSessions.filter (· ∈ newSessions)

/-- The calls keep the sessions of both lists in their old order; they give the new
list if and only if that is their order in it. -/
theorem panels_follow_sessions (oldSessions newSessions : List Tag) (hold : oldSessions.Nodup)
    (hnew : newSessions.Nodup) :
    ∃ panels, panelsAfter oldSessions newSessions = some panels ∧
      PanelsFollow oldSessions newSessions panels ∧
      (∀ tag, .distantSessionMayNeedUpdate tag ∈ notifyDelegate oldSessions newSessions ↔
        tag ∈ oldSessions ∧ tag ∈ newSessions) ∧
      (panels = newSessions ↔
        oldSessions.filter (· ∈ newSessions) = newSessions.filter (· ∈ oldSessions)) := by
  have hcommon := length_common hold hnew
  have hnot : ∀ tag ∈ oldSessions.filter (· ∈ newSessions),
      decide (tag ∉ oldSessions) = false := by
    intro tag hmem
    exact decide_eq_false fun h => h (mem_filter.1 hmem).1
  refine ⟨_, panelsAfter_eq hold hnew, ⟨length_weave hcommon, ?_, ?_⟩, ?_, ?_⟩
  · intro index tag hat htag
    exact getElem?_weave hcommon hat (decide_eq_true htag)
  · have hkept := filter_weave hcommon hnot
    simp only [decide_not, Bool.not_not] at hkept ⊢
    exact hkept
  · exact fun tag => mayNeedUpdate_mem_notifyDelegate hnew hold
  · have hself := weave_eq_self_iff hcommon hnot
    simp only [decide_not, Bool.not_not] at hself ⊢
    exact hself

/-- A session goes, one comes, and the others keep their order. -/
theorem panels_follow_kept_order :
    ∃ panels, panelsAfter [0, 1, 2] [3, 0, 2] = some panels ∧ panels = [3, 0, 2] := by
  obtain ⟨panels, hafter, -, -, hiff⟩ := panels_follow_sessions [0, 1, 2] [3, 0, 2]
    (by decide) (by decide)
  exact ⟨panels, hafter, hiff.2 (by decide)⟩

/-- Two sessions change places, and nothing is reported. -/
theorem reordering_not_reported :
    [0, 1].Nodup ∧ [1, 0].Nodup ∧
      notifyDelegate [0, 1] [1, 0] =
        [.distantSessionMayNeedUpdate 0, .distantSessionMayNeedUpdate 1] ∧
      panelsAfter [0, 1] [1, 0] = some [0, 1] ∧ panelsAfter [0, 1] [1, 0] ≠ some [1, 0] := by
  decide

end TabSwitcherController

end ChromiumIos
