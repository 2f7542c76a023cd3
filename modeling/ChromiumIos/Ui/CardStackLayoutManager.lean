import Mathlib.Data.List.Chain
import Mathlib.Tactic.Linarith

/-!
# `CardStackLayoutManager`

`card_stack_layout_manager.mm`: the offsets of the cards of a stack along the layout axis. A
`CGFloat` is an exact number.

- `fanOutCardsWithStartIndex`, `scrollCardAtIndex`, `eliminateOverscroll`,
  `layOutStartStackWithLimit`, `layOutEndStack`: the methods that move cards.
- `StartStackCases`, `EndStackCases`: what the layout of an edge stack does.
-/

namespace ChromiumIos

open List Nat

/-- The properties of the manager that are set from outside. -/
structure StackGeometry where
  maxStagger : ℚ
  maximumOverextensionAmount : ℚ
  startLimit : ℚ
  endLimit : ℚ
deriving DecidableEq, Repr

/-- The offsets of the cards, and the indices that bound the edge stacks. -/
structure CardStack where
  offsets : List ℚ
  lastStartStackCardIndex : Int
  firstEndStackCardIndex : Int
deriving DecidableEq, Repr

namespace CardStack

/-- The maximum number of cards that should be staggered at a collapse point. -/
def kMaxVisibleStaggerCount : ℕ := 4

/-- The amount that each of the staggered cards in a stack should be staggered when fully
collapsed. -/
def kMinStackStaggerAmount : ℚ := 4

/-- An epsilon to allow for floating-point imprecision. -/
def kDistanceBeforeOverextension : ℚ := 1 / 10000

/-- The factor by which scroll is decayed on overscroll. -/
def kOverextensionDecayFactor : ℚ := 2

def staggerOffsetForIndexFromEdge (countFromEdge : ℕ) : ℚ :=
  (min countFromEdge (kMaxVisibleStaggerCount - 1) : ℕ) * kMinStackStaggerAmount

def pushThresholdForIndexFromEdge (countFromEdge : ℕ) : ℚ :=
  (min countFromEdge kMaxVisibleStaggerCount : ℕ) * kMinStackStaggerAmount

variable (g : StackGeometry) (s : CardStack)

def count : ℕ := s.offsets.length

/-- `cardOffsetOnLayoutAxis:` of the card at an index. -/
def offset (index : ℕ) : ℚ := s.offsets.getD index 0

/-! ## Moving cards -/

/-- `moveOriginOfCardAtIndex:toOffset:` for each card. -/
def moveOrigins (toOffset : ℕ → ℚ) : CardStack :=
  { s with offsets := s.offsets.mapIdx fun i _ => toOffset i }

def moveCardAtIndex (index : ℕ) (amount : ℚ) : CardStack :=
  { s with offsets := s.offsets.modify index (· + amount) }

def moveCardsFromIndex (startIndex endIndex : ℕ) (amount : ℚ) : CardStack :=
  s.moveOrigins fun i =>
    if startIndex ≤ i ∧ i ≤ endIndex then s.offset i + amount else s.offset i

/-! ## The edge stacks -/

def isInStartStack (index : ℕ) : Bool := (index : Int) ≤ s.lastStartStackCardIndex

def isInEndStack (index : ℕ) : Bool := s.firstEndStackCardIndex ≤ (index : Int)

def computeEdgeStackBoundaryIndex (startStack : Bool) (visualStackLimit : ℚ) : Int :=
  if startStack then
    (List.range s.count).foldl (fun boundaryIndex i =>
      if s.offset i ≤ visualStackLimit + pushThresholdForIndexFromEdge i then (i : Int)
      else boundaryIndex) (-1)
  else
    match (List.range s.count).find? fun i =>
        visualStackLimit - pushThresholdForIndexFromEdge (s.count - 1 - i) ≤ s.offset i with
    | some i => i
    | none => s.count

def computeEdgeStackInnerEdge (startStack : Bool) (visualStackLimit : ℚ) : ℚ :=
  if startStack then
    max (visualStackLimit + staggerOffsetForIndexFromEdge s.lastStartStackCardIndex.toNat)
      (s.offset s.lastStartStackCardIndex.toNat)
  else
    min (visualStackLimit -
        staggerOffsetForIndexFromEdge (s.count - 1 - s.firstEndStackCardIndex.toNat))
      (s.offset s.firstEndStackCardIndex.toNat)

def layOutStartStackWithLimit (limit : ℚ) : CardStack :=
  let s := { s with lastStartStackCardIndex := s.computeEdgeStackBoundaryIndex true limit }
  if s.lastStartStackCardIndex = -1 then s
  else
    let stackInnerEdge := s.computeEdgeStackInnerEdge true limit
    s.moveOrigins fun i =>
      if (i : Int) ≤ s.lastStartStackCardIndex then
        max limit
          (stackInnerEdge - ((s.lastStartStackCardIndex - i : Int) : ℚ) * kMinStackStaggerAmount)
      else s.offset i

def layOutStartStack : CardStack := s.layOutStartStackWithLimit g.startLimit

/-- The limit of the end stack that leaves the last card visible. -/
def visualEndLimit : ℚ := g.endLimit - kMinStackStaggerAmount

def layOutEndStack : CardStack :=
  let s :=
    { s with firstEndStackCardIndex := s.computeEdgeStackBoundaryIndex false (visualEndLimit g) }
  if s.firstEndStackCardIndex = s.count then s
  else
    let stackInnerEdge := s.computeEdgeStackInnerEdge false (visualEndLimit g)
    s.moveOrigins fun i =>
      if s.firstEndStackCardIndex ≤ (i : Int) then
        min (visualEndLimit g)
          (stackInnerEdge + ((i - s.firstEndStackCardIndex : Int) : ℚ) * kMinStackStaggerAmount)
      else s.offset i

def layOutEdgeStacksWithStartLimit (startLimit : ℚ) : CardStack :=
  (s.layOutStartStackWithLimit startLimit).layOutEndStack g

def fanOutCardsWithStartIndex (startIndex : ℕ) : CardStack :=
  if s.count = 0 then s
  else
    (s.moveOrigins fun i =>
      if startIndex ≤ i then ((i - startIndex : ℕ) : ℚ) * g.maxStagger + g.startLimit
      else g.startLimit - ((startIndex - i : ℕ) : ℚ) * g.maxStagger).layOutEdgeStacksWithStartLimit
        g g.startLimit

/-! ## Scrolling -/

def overextensionTowardStartOnCardAtIndex (index : ℕ) : Bool :=
  s.offset index <
    g.startLimit + staggerOffsetForIndexFromEdge index - kDistanceBeforeOverextension

def overextensionTowardEndOnFirstCard : Bool :=
  s.count ≠ 0 ∧ g.startLimit + kDistanceBeforeOverextension < s.offset 0

def limitOfOverextensionTowardStart : ℚ := g.startLimit - g.maximumOverextensionAmount

def limitOfOverscrollTowardEnd : ℚ := g.startLimit + g.maximumOverextensionAmount

def startStackLimitAllowingForOverextensionOnCardAtIndex (index : ℕ) : ℚ :=
  if s.overextensionTowardStartOnCardAtIndex g index then
    max (s.offset index - staggerOffsetForIndexFromEdge index) (limitOfOverextensionTowardStart g)
  else g.startLimit

def capOverscrollTowardEnd : CardStack :=
  if s.count = 0 then s
  else
    let distance := s.offset 0 - limitOfOverscrollTowardEnd g
    if 0 < distance then s.moveCardsFromIndex 0 (s.count - 1) (-distance) else s

def capOverscrollWithScrolledIndex (scrolledIndex : ℕ) (allowEarlyOverscroll : Bool) : CardStack :=
  let s := s.capOverscrollTowardEnd g
  let allowedStartOverscrollIndex := if allowEarlyOverscroll then scrolledIndex else s.count - 1
  s.layOutEdgeStacksWithStartLimit g
    (s.startStackLimitAllowingForOverextensionOnCardAtIndex g allowedStartOverscrollIndex)

/-- How far the current card is moved, next to one that has been moved by `currentAmount`. -/
def amountRestoringFanout (toEnd restoreFanOutInStartStack : Bool)
    (currentIndex precedingIndex : ℕ) (currentAmount : ℚ) : ℚ :=
  let restoreFanout :=
    if toEnd then
      restoreFanOutInStartStack ||
        !s.isInStartStack currentIndex && !s.isInStartStack precedingIndex
    else !s.isInEndStack currentIndex && !s.isInEndStack precedingIndex
  if restoreFanout then
    -- The card at the preceding index has already been moved.
    let distance := |s.offset precedingIndex - s.offset currentIndex| - |currentAmount|
    let amountToRestoreFanOut := max 0 (g.maxStagger - distance)
    if |currentAmount| < amountToRestoreFanOut then 0
    else if 0 < currentAmount then currentAmount - amountToRestoreFanOut
    else currentAmount + amountToRestoreFanOut
  else currentAmount

/-- The cards behind one that has been moved, one by one. -/
def restoreFanoutLoop (toEnd restoreFanOutInStartStack : Bool) :
    (numCardsToMove precedingIndex : ℕ) → (currentAmount : ℚ) → CardStack → CardStack
  | 0, _, _, s => s
  | numCardsToMove + 1, precedingIndex, currentAmount, s =>
    let currentIndex := if toEnd then precedingIndex + 1 else precedingIndex - 1
    let amount := s.amountRestoringFanout g toEnd restoreFanOutInStartStack currentIndex
      precedingIndex currentAmount
    restoreFanoutLoop toEnd restoreFanOutInStartStack numCardsToMove currentIndex amount
      (s.moveCardAtIndex currentIndex amount)

def moveCardsrestoringFanoutFromIndex (index : ℕ) (toEnd : Bool) (amount : ℚ)
    (restoreFanOutInStartStack : Bool) : CardStack :=
  restoreFanoutLoop g toEnd restoreFanOutInStartStack
    (if toEnd then s.count - index - 1 else index) index amount s

/-- What is left of a scroll when the stack is overscrolled. -/
def decayedDelta (delta : ℚ) (decayOnOverscroll : Bool) : ℚ :=
  if decayOnOverscroll &&
      (s.overextensionTowardStartOnCardAtIndex g 0 || s.overextensionTowardEndOnFirstCard g) then
    delta / kOverextensionDecayFactor
  else delta

def scrollCardAtIndex (index : ℕ) (delta : ℚ)
    (allowEarlyOverscroll decayOnOverscroll scrollLeadingCards : Bool) : CardStack :=
  if s.count = 0 then s
  else
    let scrollIsTowardsEnd : Bool := 0 < delta
    let delta := s.decayedDelta g delta decayOnOverscroll
    let leadingIndex :=
      if scrollLeadingCards then if scrollIsTowardsEnd then s.count - 1 else 0 else index
    let moved :=
      if scrollIsTowardsEnd then s.moveCardsFromIndex index leadingIndex delta
      else s.moveCardsFromIndex leadingIndex index delta
    (moved.moveCardsrestoringFanoutFromIndex g index (!scrollIsTowardsEnd) delta
      allowEarlyOverscroll).capOverscrollWithScrolledIndex g index allowEarlyOverscroll

/-- If cards were overscrolled toward the end, they scroll back; else they move back into place. -/
def eliminateOverscroll : CardStack :=
  if s.count = 0 then s
  else
    let overscrollEliminationAmount := g.startLimit - s.offset 0
    let scrolled :=
      if overscrollEliminationAmount ≤ 0 then
        s.scrollCardAtIndex g 0 overscrollEliminationAmount true false true
      else s
    scrolled.layOutEdgeStacksWithStartLimit g g.startLimit

/-! ## What the moves do to an offset -/

section Moves

variable {g : StackGeometry} {s : CardStack}

@[simp] theorem count_moveOrigins (toOffset : ℕ → ℚ) : (s.moveOrigins toOffset).count = s.count :=
  length_mapIdx

@[simp] theorem count_moveCardAtIndex (index : ℕ) (amount : ℚ) :
    (s.moveCardAtIndex index amount).count = s.count :=
  length_modify _ _ _

@[simp] theorem count_moveCardsFromIndex (startIndex endIndex : ℕ) (amount : ℚ) :
    (s.moveCardsFromIndex startIndex endIndex amount).count = s.count :=
  count_moveOrigins _

theorem offset_eq_getElem {i : ℕ} (hi : i < s.offsets.length) : s.offset i = s.offsets[i] := by
  rw [offset, getD_eq_getElem?_getD, getElem?_eq_getElem hi, Option.getD_some]

@[simp] theorem offset_moveOrigins (toOffset : ℕ → ℚ) {i : ℕ} (hi : i < s.count) :
    (s.moveOrigins toOffset).offset i = toOffset i := by
  have hi' : i < (s.moveOrigins toOffset).offsets.length := by
    rw [moveOrigins, length_mapIdx]
    exact hi
  rw [offset_eq_getElem hi']
  exact getElem_mapIdx

theorem offset_moveCardAtIndex {index : ℕ} (amount : ℚ) (hindex : index < s.count) :
    (s.moveCardAtIndex index amount).offset index = s.offset index + amount := by
  have hlength : index < (s.moveCardAtIndex index amount).offsets.length := by
    rw [moveCardAtIndex, length_modify]
    exact hindex
  rw [offset_eq_getElem hlength, offset_eq_getElem hindex]
  exact getElem_modify_eq (· + amount) index s.offsets hlength

theorem offset_moveCardAtIndex_of_ne {index i : ℕ} (amount : ℚ) (h : index ≠ i) :
    (s.moveCardAtIndex index amount).offset i = s.offset i := by
  rw [offset, offset, getD_eq_getElem?_getD, getD_eq_getElem?_getD, moveCardAtIndex,
    getElem?_modify_ne (· + amount) s.offsets h]

theorem offset_moveCardsFromIndex (startIndex endIndex : ℕ) (amount : ℚ) {i : ℕ}
    (hi : i < s.count) :
    (s.moveCardsFromIndex startIndex endIndex amount).offset i =
      if startIndex ≤ i ∧ i ≤ endIndex then s.offset i + amount else s.offset i :=
  offset_moveOrigins _ hi

end Moves

/-! ## The layout of an edge stack -/

section EdgeStacks

variable {g : StackGeometry} {s : CardStack} {limit : ℚ}

theorem staggerOffset_nonneg (i : ℕ) : 0 ≤ staggerOffsetForIndexFromEdge i := by
  rw [staggerOffsetForIndexFromEdge, kMinStackStaggerAmount]
  positivity

theorem staggerOffset_mono {i j : ℕ} (h : i ≤ j) :
    staggerOffsetForIndexFromEdge i ≤ staggerOffsetForIndexFromEdge j := by
  have hcast : ((min i (kMaxVisibleStaggerCount - 1) : ℕ) : ℚ) ≤
      (min j (kMaxVisibleStaggerCount - 1) : ℕ) := cast_le.2 (min_le_min_right _ h)
  rw [staggerOffsetForIndexFromEdge, staggerOffsetForIndexFromEdge, kMinStackStaggerAmount]
  linarith

/-- Cards behind the visible ones take no more room. -/
theorem staggerOffset_le_collapsed (i : ℕ) :
    staggerOffsetForIndexFromEdge i ≤ staggerOffsetForIndexFromEdge kMaxVisibleStaggerCount := by
  obtain hle | hgt := le_total i kMaxVisibleStaggerCount
  · exact staggerOffset_mono hle
  · rw [staggerOffsetForIndexFromEdge, staggerOffsetForIndexFromEdge]
    have hmin : min i (kMaxVisibleStaggerCount - 1) =
        min kMaxVisibleStaggerCount (kMaxVisibleStaggerCount - 1) := by
      rw [min_eq_right ((sub_le _ _).trans hgt), min_eq_right (sub_le _ _)]
    rw [hmin]

theorem staggerOffset_le_pushThreshold {i j : ℕ} (h : i ≤ j) :
    staggerOffsetForIndexFromEdge i ≤ pushThresholdForIndexFromEdge j := by
  have hle : min i (kMaxVisibleStaggerCount - 1) ≤ min j kMaxVisibleStaggerCount := by
    rw [kMaxVisibleStaggerCount]
    omega
  rw [staggerOffsetForIndexFromEdge, pushThresholdForIndexFromEdge, kMinStackStaggerAmount]
  have hcast : ((min i (kMaxVisibleStaggerCount - 1) : ℕ) : ℚ) ≤
      (min j kMaxVisibleStaggerCount : ℕ) := cast_le.2 hle
  linarith

theorem pushThreshold_le (i : ℕ) :
    pushThresholdForIndexFromEdge i ≤ i * kMinStackStaggerAmount := by
  rw [pushThresholdForIndexFromEdge, kMinStackStaggerAmount]
  have hcast : ((min i kMaxVisibleStaggerCount : ℕ) : ℚ) ≤ i := cast_le.2 (min_le_left _ _)
  linarith

/-- The start stack holds no card, or the cards up to the last one that is near the limit. -/
inductive StartStackCases (s t : CardStack) (limit : ℚ) : Prop
  | none (hfar : ∀ i < s.count, limit + pushThresholdForIndexFromEdge i < s.offset i)
      (hmoved : ∀ i < s.count, t.offset i = s.offset i)
  | upTo (last : ℕ) (hlast : last < s.count)
      (hnear : s.offset last ≤ limit + pushThresholdForIndexFromEdge last)
      (hfar : ∀ i, last < i → i < s.count → limit + pushThresholdForIndexFromEdge i < s.offset i)
      (hmoved : ∀ i < s.count, t.offset i =
        if i ≤ last then
          max limit (max (limit + staggerOffsetForIndexFromEdge last) (s.offset last) -
            ((last : ℚ) - i) * kMinStackStaggerAmount)
        else s.offset i)

/-- The last index below a bound at which a condition holds, as a loop finds it. -/
theorem foldl_range_last (p : ℕ → Prop) [DecidablePred p] (n : ℕ) :
    let last := (List.range n).foldl (fun found i => if p i then (i : Int) else found) (-1)
    (last = -1 ∧ ∀ i < n, ¬ p i) ∨ ∃ i < n, last = i ∧ p i ∧ ∀ j, i < j → j < n → ¬ p j := by
  induction n with
  | zero => exact .inl ⟨rfl, fun i hi => absurd hi (not_lt_zero i)⟩
  | succ n ih =>
    dsimp only at ih ⊢
    rw [range_succ, foldl_append, foldl_cons, foldl_nil]
    by_cases hn : p n
    · rw [if_pos hn]
      exact .inr ⟨n, lt_succ_self n, rfl, hn, fun j hj hj' => by omega⟩
    · rw [if_neg hn]
      obtain ⟨hlast, hnone⟩ | ⟨i, hi, hlast, hp, hlater⟩ := ih
      · refine .inl ⟨hlast, fun j hj => ?_⟩
        obtain hj | rfl := Nat.lt_succ_iff_lt_or_eq.1 hj
        · exact hnone j hj
        · exact hn
      · refine .inr ⟨i, lt_succ_of_lt hi, hlast, hp, fun j hij hj => ?_⟩
        obtain hj | rfl := Nat.lt_succ_iff_lt_or_eq.1 hj
        · exact hlater j hij hj
        · exact hn

theorem layOutStartStackWithLimit_of_none (h : s.computeEdgeStackBoundaryIndex true limit = -1) :
    s.layOutStartStackWithLimit limit = { s with lastStartStackCardIndex := -1 } := by
  rw [layOutStartStackWithLimit, h]
  exact if_pos rfl

theorem layOutStartStackWithLimit_of_last {last : ℕ}
    (h : s.computeEdgeStackBoundaryIndex true limit = last) :
    s.layOutStartStackWithLimit limit =
      ({ s with lastStartStackCardIndex := last } : CardStack).moveOrigins fun i =>
        if i ≤ last then
          max limit (max (limit + staggerOffsetForIndexFromEdge last) (s.offset last) -
            ((last : ℚ) - i) * kMinStackStaggerAmount)
        else s.offset i := by
  have hne : (last : Int) ≠ -1 := by omega
  rw [layOutStartStackWithLimit, h]
  refine (if_neg hne).trans ?_
  dsimp only
  refine congrArg _ (funext fun i => ?_)
  rw [computeEdgeStackInnerEdge, if_pos rfl, Int.toNat_natCast, Int.cast_sub, Int.cast_natCast,
    Int.cast_natCast]
  exact if_congr Int.ofNat_le rfl rfl

theorem layOutStartStackWithLimit_cases (s : CardStack) (limit : ℚ) :
    StartStackCases s (s.layOutStartStackWithLimit limit) limit := by
  have hboundary := foldl_range_last
    (fun i => s.offset i ≤ limit + pushThresholdForIndexFromEdge i) s.count
  dsimp only at hboundary
  have hcompute : s.computeEdgeStackBoundaryIndex true limit =
      (List.range s.count).foldl (fun found i =>
        if s.offset i ≤ limit + pushThresholdForIndexFromEdge i then (i : Int) else found) (-1) :=
    if_pos rfl
  rw [← hcompute] at hboundary
  obtain ⟨hlast, hfar⟩ | ⟨last, hlt, hlast, hnear, hfar⟩ := hboundary
  · rw [layOutStartStackWithLimit_of_none hlast]
    exact .none (fun i hi => lt_of_not_ge (hfar i hi)) fun i hi => rfl
  · rw [layOutStartStackWithLimit_of_last hlast]
    exact .upTo last hlt hnear (fun i hi hi' => lt_of_not_ge (hfar i hi hi')) fun i hi =>
      offset_moveOrigins _ hi

/-- The end stack holds no card, or the cards from the first one that is near the limit. -/
inductive EndStackCases (g : StackGeometry) (s t : CardStack) : Prop
  | none
      (hfar : ∀ i < s.count,
        s.offset i < visualEndLimit g - pushThresholdForIndexFromEdge (s.count - 1 - i))
      (hmoved : ∀ i < s.count, t.offset i = s.offset i)
  | fromIndex (first : ℕ) (hfirst : first < s.count)
      (hfar : ∀ i < first,
        s.offset i < visualEndLimit g - pushThresholdForIndexFromEdge (s.count - 1 - i))
      (hnear : visualEndLimit g - pushThresholdForIndexFromEdge (s.count - 1 - first) ≤
        s.offset first)
      (hmoved : ∀ i < s.count, t.offset i =
        if first ≤ i then
          min (visualEndLimit g)
            (min (visualEndLimit g - staggerOffsetForIndexFromEdge (s.count - 1 - first))
              (s.offset first) + ((i : ℚ) - first) * kMinStackStaggerAmount)
        else s.offset i)

theorem layOutEndStack_of_none
    (h : s.computeEdgeStackBoundaryIndex false (visualEndLimit g) = s.count) :
    s.layOutEndStack g = { s with firstEndStackCardIndex := s.count } := by
  rw [layOutEndStack, h]
  exact if_pos rfl

theorem layOutEndStack_of_first {first : ℕ} (hfirst : first < s.count)
    (h : s.computeEdgeStackBoundaryIndex false (visualEndLimit g) = first) :
    s.layOutEndStack g =
      ({ s with firstEndStackCardIndex := first } : CardStack).moveOrigins fun i =>
        if first ≤ i then
          min (visualEndLimit g)
            (min (visualEndLimit g - staggerOffsetForIndexFromEdge (s.count - 1 - first))
              (s.offset first) + ((i : ℚ) - first) * kMinStackStaggerAmount)
        else s.offset i := by
  have hne : (first : Int) ≠ s.count := by omega
  rw [layOutEndStack, h]
  refine (if_neg hne).trans ?_
  dsimp only
  refine congrArg _ (funext fun i => ?_)
  rw [computeEdgeStackInnerEdge, if_neg Bool.false_ne_true, Int.toNat_natCast, Int.cast_sub,
    Int.cast_natCast, Int.cast_natCast]
  exact if_congr Int.ofNat_le rfl rfl

theorem layOutEndStack_cases (g : StackGeometry) (s : CardStack) :
    EndStackCases g s (s.layOutEndStack g) := by
  have hcompute : s.computeEdgeStackBoundaryIndex false (visualEndLimit g) = _ :=
    if_neg Bool.false_ne_true
  cases hfind : (List.range s.count).find? fun i =>
      visualEndLimit g - pushThresholdForIndexFromEdge (s.count - 1 - i) ≤ s.offset i with
  | none =>
    rw [hfind] at hcompute
    rw [layOutEndStack_of_none hcompute]
    refine .none (fun i hi => ?_) fun i hi => rfl
    have hfar := find?_range_eq_none.1 hfind i hi
    exact lt_of_not_ge (by simpa using hfar)
  | some first =>
    rw [hfind] at hcompute
    obtain ⟨hnear, hfirst, hfar⟩ := find?_range_eq_some.1 hfind
    have hfirst' : first < s.count := mem_range.1 hfirst
    rw [layOutEndStack_of_first hfirst' hcompute]
    refine .fromIndex first hfirst' (fun i hi => ?_) (by simpa using hnear) fun i hi =>
      offset_moveOrigins _ hi
    have hfar := hfar i hi
    exact lt_of_not_ge (by simpa using hfar)

end EdgeStacks

end CardStack

end ChromiumIos
