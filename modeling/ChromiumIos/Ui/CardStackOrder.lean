import ChromiumIos.Lib.Machine
import ChromiumIos.Ui.CardStackLayoutManager

/-!
# The order of the cards of a stack

Methods that move cards keep the cards in order, and keep the stack between its limits.

- `Ordered`: the offsets do not decrease.
- `FirstWithin`, `BeforeEnd`: the first card is not overscrolled too far, and all cards are visible
  before the end limit.
- `StartStackCases.ordered`, `EndStackCases.ordered`: the layout of an edge stack.
- `scrollCardAtIndex_inPlace`: a scroll, unless it takes one card alone past its neighbour.
- `run_inPlace`: all that is done to a stack.
-/

namespace ChromiumIos

open Lib Nat

namespace CardStack

def Ordered (s : CardStack) : Prop := s.offsets.Pairwise (· ≤ ·)

variable (g : StackGeometry)

/-- Where the first card is when all cards are in the end stack. -/
def firstInEndStack (s : CardStack) : ℚ :=
  visualEndLimit g - staggerOffsetForIndexFromEdge (s.count - 1)

/-- The first card is not further from the start limit than it may be overscrolled, or in its place
in an end stack that begins before. -/
def FirstWithin (s : CardStack) : Prop :=
  0 < s.count →
    s.offset 0 ≤ limitOfOverscrollTowardEnd g ∧
      min (limitOfOverextensionTowardStart g) (s.firstInEndStack g) ≤ s.offset 0

/-- All cards are before the end limit, and the last one is visible. -/
def BeforeEnd (s : CardStack) : Prop :=
  ∀ offset ∈ s.offsets, offset ≤ visualEndLimit g

instance (s : CardStack) : Decidable s.Ordered :=
  inferInstanceAs (Decidable (s.offsets.Pairwise (· ≤ ·)))

instance (s : CardStack) : Decidable (s.FirstWithin g) := instDecidableForall

instance (s : CardStack) : Decidable (s.BeforeEnd g) := List.decidableBAll _ _

variable {g : StackGeometry} {s t : CardStack} {limit : ℚ}

theorem ordered_iff : s.Ordered ↔ ∀ i, i + 1 < s.count → s.offset i ≤ s.offset (i + 1) := by
  rw [Ordered, ← List.isChain_iff_pairwise, List.isChain_iff_getElem]
  constructor
  · intro h i hi
    rw [offset_eq_getElem (lt_of_succ_lt hi), offset_eq_getElem hi]
    exact h i hi
  · intro h i hi
    have hle := h i hi
    rwa [offset_eq_getElem (lt_of_succ_lt hi), offset_eq_getElem hi] at hle

theorem beforeEnd_iff : s.BeforeEnd g ↔ ∀ i < s.count, s.offset i ≤ visualEndLimit g := by
  rw [BeforeEnd, List.forall_mem_iff_getElem]
  constructor
  · intro h i hi
    rw [offset_eq_getElem hi]
    exact h i hi
  · intro h i hi
    have hle := h i hi
    rwa [offset_eq_getElem hi] at hle

/-! ## The edge stacks -/

theorem StartStackCases.ordered (h : StartStackCases s t limit) (hcount : t.count = s.count)
    (hs : ∀ i, i + 1 < s.count → s.offset i ≤ s.offset (i + 1) ∨
      ∃ j < s.count, i < j ∧ s.offset j ≤ limit + pushThresholdForIndexFromEdge j) : t.Ordered := by
  rw [ordered_iff, hcount]
  intro i hi
  have hi' : i < s.count := lt_of_succ_lt hi
  cases h with
  | none hfar hmoved =>
    rw [hmoved i hi', hmoved (i + 1) hi]
    obtain hle | ⟨j, hj, -, hnear⟩ := hs i hi
    · exact hle
    · exact absurd hnear (not_le_of_gt (hfar j hj))
  | upTo last hlast hnear hfar hmoved =>
    rw [hmoved i hi', hmoved (i + 1) hi]
    -- Behind the stack the cards are in order.
    have hbehind : last ≤ i → s.offset i ≤ s.offset (i + 1) := by
      intro hle
      obtain hle | ⟨j, hj, hij, hnear⟩ := hs i hi
      · exact hle
      · exact absurd hnear (not_le_of_gt (hfar j (lt_of_le_of_lt hle hij) hj))
    obtain hlt | rfl | hgt := lt_trichotomy i last
    · rw [if_pos (le_of_lt hlt), if_pos (succ_le_of_lt hlt)]
      refine max_le_max_left limit ?_
      rw [kMinStackStaggerAmount, cast_succ]
      linarith
    · rw [if_pos (le_refl i), if_neg (not_succ_le_self i)]
      have hpast := hfar (i + 1) (lt_succ_self i) hi
      have hstagger := staggerOffset_le_pushThreshold (le_succ i)
      have hnonneg := staggerOffset_nonneg i
      rw [sub_self, zero_mul, sub_zero]
      refine max_le ?_ (max_le ?_ (hbehind (le_refl i)))
      · linarith
      · linarith
    · rw [if_neg (Nat.not_le_of_lt hgt), if_neg (Nat.not_le_of_lt (Nat.lt_succ_of_lt hgt))]
      exact hbehind (le_of_lt hgt)

/-- The first card is at the limit, unless the stack holds no card. -/
theorem StartStackCases.first (h : StartStackCases s t limit) (hpos : 0 < s.count) :
    t.offset 0 = limit ∨ limit < s.offset 0 ∧ t.offset 0 = s.offset 0 ∧
      ∀ i < s.count, limit + pushThresholdForIndexFromEdge i < s.offset i := by
  cases h with
  | none hfar hmoved =>
    have hpast := hfar 0 hpos
    have hzero : pushThresholdForIndexFromEdge 0 = 0 := by
      rw [pushThresholdForIndexFromEdge, zero_min, cast_zero, zero_mul]
    rw [hzero, add_zero] at hpast
    exact .inr ⟨hpast, hmoved 0 hpos, hfar⟩
  | upTo last hlast hnear hfar hmoved =>
    left
    rw [hmoved 0 hpos, if_pos (zero_le last), max_eq_left_iff, cast_zero, sub_zero]
    have hpush := pushThreshold_le last
    have hstagger := staggerOffset_le_pushThreshold (le_refl last)
    have hinner : max (limit + staggerOffsetForIndexFromEdge last) (s.offset last) ≤
        limit + last * kMinStackStaggerAmount := by
      refine max_le ?_ ?_
      · linarith
      · linarith
    linarith

/-- No card is past a bound that leaves room for the stack. -/
theorem StartStackCases.le (h : StartStackCases s t limit) {bound : ℚ}
    (hroom : limit + staggerOffsetForIndexFromEdge (s.count - 1) ≤ bound)
    (hs : ∀ i < s.count, s.offset i ≤ bound) : ∀ i < s.count, t.offset i ≤ bound := by
  intro i hi
  cases h with
  | none hfar hmoved =>
    rw [hmoved i hi]
    exact hs i hi
  | upTo last hlast hnear hfar hmoved =>
    rw [hmoved i hi]
    split
    · next hle =>
      have hnonneg := staggerOffset_nonneg last
      have hstagger := staggerOffset_mono (le_sub_one_of_lt hlast)
      have hinner : max (limit + staggerOffsetForIndexFromEdge last) (s.offset last) ≤ bound := by
        refine max_le ?_ (hs last hlast)
        linarith
      have hdistance : 0 ≤ ((last : ℚ) - i) * kMinStackStaggerAmount := by
        have hcast : (i : ℚ) ≤ last := cast_le.2 hle
        rw [kMinStackStaggerAmount]
        linarith
      refine max_le ?_ ?_
      · linarith
      · linarith
    · exact hs i hi

theorem EndStackCases.ordered (h : EndStackCases g s t) (hcount : t.count = s.count)
    (hs : s.Ordered) : t.Ordered := by
  rw [ordered_iff] at hs ⊢
  rw [hcount]
  intro i hi
  have hi' : i < s.count := lt_of_succ_lt hi
  cases h with
  | none hfar hmoved =>
    rw [hmoved i hi', hmoved (i + 1) hi]
    exact hs i hi
  | fromIndex first hfirst hfar hnear hmoved =>
    rw [hmoved i hi', hmoved (i + 1) hi]
    obtain hlt | hle := lt_or_ge i first
    · rw [if_neg (Nat.not_le_of_lt hlt)]
      split
      · next hle =>
        obtain rfl : first = i + 1 := le_antisymm hle hlt
        have hbefore := hfar i hlt
        have hstagger : staggerOffsetForIndexFromEdge (s.count - 1 - (i + 1)) ≤
            pushThresholdForIndexFromEdge (s.count - 1 - i) :=
          staggerOffset_le_pushThreshold (by omega)
        have hnonneg := staggerOffset_nonneg (s.count - 1 - (i + 1))
        rw [sub_self, zero_mul, add_zero]
        refine le_min ?_ (le_min ?_ (hs i hi))
        · linarith
        · linarith
      · exact hs i hi
    · rw [if_pos hle, if_pos (le_succ_of_le hle)]
      refine min_le_min_left _ ?_
      rw [kMinStackStaggerAmount, cast_succ]
      linarith

theorem EndStackCases.beforeEnd (h : EndStackCases g s t) (hcount : t.count = s.count) :
    t.BeforeEnd g := by
  rw [beforeEnd_iff, hcount]
  intro i hi
  have hpush : ∀ j, 0 ≤ pushThresholdForIndexFromEdge j := fun j =>
    le_trans (staggerOffset_nonneg j) (staggerOffset_le_pushThreshold (le_refl j))
  cases h with
  | none hfar hmoved =>
    rw [hmoved i hi]
    linarith [hfar i hi, hpush (s.count - 1 - i)]
  | fromIndex first hfirst hfar hnear hmoved =>
    rw [hmoved i hi]
    split
    · exact min_le_left _ _
    · next hlt => linarith [hfar i (Nat.lt_of_not_le hlt), hpush (s.count - 1 - i)]

/-- The first card stays where it is, unless the end stack takes it. -/
theorem EndStackCases.first (h : EndStackCases g s t) (hpos : 0 < s.count) :
    t.offset 0 = min (s.firstInEndStack g) (s.offset 0) := by
  have hstagger : ∀ j, staggerOffsetForIndexFromEdge j ≤ pushThresholdForIndexFromEdge j :=
    fun j => staggerOffset_le_pushThreshold (le_refl j)
  cases h with
  | none hfar hmoved =>
    rw [hmoved 0 hpos, eq_comm, min_eq_right_iff, firstInEndStack]
    have hbefore := hfar 0 hpos
    rw [Nat.sub_zero] at hbefore
    linarith [hstagger (s.count - 1)]
  | fromIndex first hfirst hfar hnear hmoved =>
    rw [hmoved 0 hpos]
    split
    · next hle =>
      obtain rfl : first = 0 := le_zero.1 hle
      rw [sub_self, zero_mul, add_zero, Nat.sub_zero, ← firstInEndStack, min_eq_right_iff]
      refine le_trans (min_le_left _ _) ?_
      rw [firstInEndStack]
      linarith [staggerOffset_nonneg (s.count - 1)]
    · next hlt =>
      have hbefore := hfar 0 (Nat.lt_of_not_le hlt)
      rw [Nat.sub_zero] at hbefore
      rw [eq_comm, min_eq_right_iff, firstInEndStack]
      linarith [hstagger (s.count - 1)]

@[simp] theorem count_layOutStartStackWithLimit :
    (s.layOutStartStackWithLimit limit).count = s.count := by
  rw [layOutStartStackWithLimit]
  dsimp only
  split
  · rfl
  · exact count_moveOrigins _

@[simp] theorem count_layOutEndStack : (s.layOutEndStack g).count = s.count := by
  rw [layOutEndStack]
  dsimp only
  split
  · rfl
  · exact count_moveOrigins _

theorem layOutStartStackWithLimit_ordered (limit : ℚ) (hs : s.Ordered) :
    (s.layOutStartStackWithLimit limit).Ordered :=
  (layOutStartStackWithLimit_cases s limit).ordered count_layOutStartStackWithLimit fun i hi =>
    .inl (ordered_iff.1 hs i hi)

theorem layOutEndStack_ordered (g : StackGeometry) (hs : s.Ordered) :
    (s.layOutEndStack g).Ordered :=
  (layOutEndStack_cases g s).ordered count_layOutEndStack hs

theorem layOutEndStack_beforeEnd (g : StackGeometry) (s : CardStack) :
    (s.layOutEndStack g).BeforeEnd g :=
  (layOutEndStack_cases g s).beforeEnd count_layOutEndStack

theorem layOutStartStackWithLimit_beforeEnd
    (hroom : limit + staggerOffsetForIndexFromEdge (s.count - 1) ≤ visualEndLimit g)
    (hs : s.BeforeEnd g) : (s.layOutStartStackWithLimit limit).BeforeEnd g := by
  rw [beforeEnd_iff] at hs ⊢
  rw [count_layOutStartStackWithLimit]
  exact (layOutStartStackWithLimit_cases s limit).le hroom hs

/-- The first card is within the limits of a scroll, or the start stack takes it there. -/
theorem layOutStartStackWithLimit_firstWithin (hlow : limitOfOverextensionTowardStart g ≤ limit)
    (hhigh : limit ≤ limitOfOverscrollTowardEnd g)
    (hs : 0 < s.count → s.offset 0 ≤ limitOfOverscrollTowardEnd g ∨
      ∃ j < s.count, s.offset j ≤ limit + pushThresholdForIndexFromEdge j) :
    (s.layOutStartStackWithLimit limit).FirstWithin g := by
  intro hpos
  rw [count_layOutStartStackWithLimit] at hpos
  obtain hat | ⟨hpast, hsame, hfar⟩ := (layOutStartStackWithLimit_cases s limit).first hpos
  · rw [hat]
    exact ⟨hhigh, (min_le_left _ _).trans hlow⟩
  · rw [hsame]
    obtain hle | ⟨j, hj, hnear⟩ := hs hpos
    · exact ⟨hle, (min_le_left _ _).trans (hlow.trans (le_of_lt hpast))⟩
    · exact absurd hnear (not_le_of_gt (hfar j hj))

theorem layOutEndStack_firstWithin (hs : s.FirstWithin g) :
    (s.layOutEndStack g).FirstWithin g := by
  intro hpos
  rw [count_layOutEndStack] at hpos
  obtain ⟨hupper, hlower⟩ := hs hpos
  have hsame : (s.layOutEndStack g).firstInEndStack g = s.firstInEndStack g := by
    rw [firstInEndStack, count_layOutEndStack, firstInEndStack]
  rw [(layOutEndStack_cases g s).first hpos, hsame]
  exact ⟨(min_le_right _ _).trans hupper, le_min (min_le_right _ _) hlower⟩

/-- The three properties, when both edge stacks are laid out. -/
structure InPlace (g : StackGeometry) (s : CardStack) : Prop where
  ordered : s.Ordered
  first : s.FirstWithin g
  last : s.BeforeEnd g

/-- Cards that the start stack takes need not be in order before, nor within the limits. -/
theorem layOutEdgeStacks_inPlace (hlow : limitOfOverextensionTowardStart g ≤ limit)
    (hhigh : limit ≤ limitOfOverscrollTowardEnd g)
    (hfirst : 0 < s.count → s.offset 0 ≤ limitOfOverscrollTowardEnd g ∨
      ∃ j < s.count, s.offset j ≤ limit + pushThresholdForIndexFromEdge j)
    (hs : ∀ i, i + 1 < s.count → s.offset i ≤ s.offset (i + 1) ∨
      ∃ j < s.count, i < j ∧ s.offset j ≤ limit + pushThresholdForIndexFromEdge j) :
    (s.layOutEdgeStacksWithStartLimit g limit).InPlace g where
  ordered := layOutEndStack_ordered g <|
    (layOutStartStackWithLimit_cases s limit).ordered count_layOutStartStackWithLimit hs
  first := layOutEndStack_firstWithin (layOutStartStackWithLimit_firstWithin hlow hhigh hfirst)
  last := layOutEndStack_beforeEnd g _

theorem inPlace_of_empty (h : s.count = 0) : s.InPlace g := by
  have hnil : s.offsets = [] := List.length_eq_zero_iff.1 h
  refine ⟨?_, fun hpos => absurd h (ne_of_gt hpos), ?_⟩
  · rw [Ordered, hnil]
    exact .nil
  · rw [BeforeEnd, hnil]
    exact fun offset hoffset => absurd hoffset List.not_mem_nil

theorem startLimit_within (hmax : 0 ≤ g.maximumOverextensionAmount) :
    limitOfOverextensionTowardStart g ≤ g.startLimit ∧
      g.startLimit ≤ limitOfOverscrollTowardEnd g := by
  rw [limitOfOverextensionTowardStart, limitOfOverscrollTowardEnd]
  constructor <;> linarith

theorem startStackLimit_within (hmax : 0 ≤ g.maximumOverextensionAmount) (s : CardStack)
    (index : ℕ) :
    let limit := s.startStackLimitAllowingForOverextensionOnCardAtIndex g index
    limitOfOverextensionTowardStart g ≤ limit ∧ limit ≤ limitOfOverscrollTowardEnd g := by
  obtain ⟨hlow, hhigh⟩ := startLimit_within hmax
  dsimp only
  rw [startStackLimitAllowingForOverextensionOnCardAtIndex]
  split
  · next hover =>
    rw [overextensionTowardStartOnCardAtIndex, decide_eq_true_iff,
      kDistanceBeforeOverextension] at hover
    refine ⟨le_max_right _ _, max_le ?_ (hlow.trans hhigh)⟩
    linarith
  · exact ⟨hlow, hhigh⟩

/-! ## Fanning out -/

theorem fanOutCardsWithStartIndex_inPlace (hmax : 0 ≤ g.maximumOverextensionAmount)
    {startIndex : ℕ} (hstart : startIndex < s.count) :
    (s.fanOutCardsWithStartIndex g startIndex).InPlace g := by
  obtain ⟨hlow, hhigh⟩ := startLimit_within hmax
  have hpush : ∀ j, 0 ≤ pushThresholdForIndexFromEdge j := fun j =>
    (staggerOffset_nonneg j).trans (staggerOffset_le_pushThreshold (le_refl j))
  rw [fanOutCardsWithStartIndex, if_neg (ne_of_gt (zero_lt_of_lt hstart))]
  -- The card at the start index is at the start limit, so the start stack takes it.
  have hnear : ∀ fanned : CardStack, fanned.offset startIndex =
      ((startIndex - startIndex : ℕ) : ℚ) * g.maxStagger + g.startLimit →
        fanned.offset startIndex ≤ g.startLimit + pushThresholdForIndexFromEdge startIndex := by
    intro fanned hoffset
    rw [hoffset, Nat.sub_self, Nat.cast_zero, zero_mul, zero_add]
    linarith [hpush startIndex]
  refine layOutEdgeStacks_inPlace hlow hhigh (fun _ => ?_) fun i hi => ?_
  · rw [count_moveOrigins]
    refine .inr ⟨startIndex, hstart, hnear _ ?_⟩
    rw [offset_moveOrigins _ hstart, if_pos (le_refl _)]
  · rw [count_moveOrigins] at hi ⊢
    obtain hlt | hle := lt_or_ge i startIndex
    · refine .inr ⟨startIndex, hstart, hlt, hnear _ ?_⟩
      rw [offset_moveOrigins _ hstart, if_pos (le_refl _)]
    · rw [offset_moveOrigins _ (lt_of_succ_lt hi), offset_moveOrigins _ hi, if_pos hle,
        if_pos (le_succ_of_le hle), succ_sub hle, cast_succ]
      obtain hstagger | hstagger := le_or_gt 0 g.maxStagger
      · left
        linarith
      · refine .inr ⟨i + 1, hi, lt_succ_self i, ?_⟩
        rw [offset_moveOrigins _ hi, if_pos (le_succ_of_le hle)]
        have hback : ((i + 1 - startIndex : ℕ) : ℚ) * g.maxStagger ≤ 0 :=
          mul_nonpos_of_nonneg_of_nonpos (cast_nonneg _) (le_of_lt hstagger)
        linarith [hpush (i + 1)]

/-! ## Scrolling -/

theorem offset_capOverscrollTowardEnd {i : ℕ} (hi : i < s.count) :
    (s.capOverscrollTowardEnd g).offset i =
      s.offset i - max 0 (s.offset 0 - limitOfOverscrollTowardEnd g) := by
  rw [capOverscrollTowardEnd, if_neg (ne_of_gt (zero_lt_of_lt hi))]
  dsimp only
  split
  · next hpos =>
    rw [offset_moveCardsFromIndex _ _ _ hi, if_pos ⟨zero_le i, le_sub_one_of_lt hi⟩,
      max_eq_right (le_of_lt hpos)]
    exact (sub_eq_add_neg _ _).symm
  · next hneg => rw [max_eq_left (le_of_not_gt hneg), sub_zero]

@[simp] theorem count_capOverscrollTowardEnd : (s.capOverscrollTowardEnd g).count = s.count := by
  rw [capOverscrollTowardEnd]
  dsimp only
  split
  · rfl
  · split
    · exact count_moveCardsFromIndex _ _ _
    · rfl

theorem capOverscrollWithScrolledIndex_inPlace (hmax : 0 ≤ g.maximumOverextensionAmount)
    (hs : s.Ordered) (index : ℕ) (early : Bool) :
    (s.capOverscrollWithScrolledIndex g index early).InPlace g := by
  obtain ⟨hlow, hhigh⟩ := startStackLimit_within hmax (s.capOverscrollTowardEnd g)
    (if early then index else s.count - 1)
  rw [capOverscrollWithScrolledIndex, count_capOverscrollTowardEnd]
  refine layOutEdgeStacks_inPlace hlow hhigh (fun hpos => .inl ?_) fun i hi => .inl ?_
  · rw [count_capOverscrollTowardEnd] at hpos
    rw [offset_capOverscrollTowardEnd hpos]
    linarith [le_max_right 0 (s.offset 0 - limitOfOverscrollTowardEnd g)]
  · rw [count_capOverscrollTowardEnd] at hi
    rw [offset_capOverscrollTowardEnd (lt_of_succ_lt hi), offset_capOverscrollTowardEnd hi]
    linarith [ordered_iff.1 hs i hi]

/-- A move in the same direction as another one, and not further. -/
def Follows (amount' amount : ℚ) : Prop :=
  (amount ≤ 0 → amount ≤ amount' ∧ amount' ≤ 0) ∧ (0 ≤ amount → 0 ≤ amount' ∧ amount' ≤ amount)

theorem follows_self (amount : ℚ) : Follows amount amount :=
  ⟨fun h => ⟨le_refl _, h⟩, fun h => ⟨h, le_refl _⟩⟩

theorem follows_ite {c : Prop} [Decidable c] {first second amount : ℚ} (h : Follows first amount)
    (h' : Follows second amount) : Follows (if c then first else second) amount := by
  split
  · exact h
  · exact h'

theorem follows_restored (amount : ℚ) {restore : ℚ} (hnonneg : 0 ≤ restore) :
    Follows (if |amount| < restore then 0
      else if 0 < amount then amount - restore else amount + restore) amount := by
  split
  · exact ⟨fun h => ⟨h, le_refl 0⟩, fun h => ⟨le_refl 0, h⟩⟩
  · next hle =>
    have hle := le_of_not_gt hle
    split
    · next hpos =>
      rw [abs_of_pos hpos] at hle
      exact ⟨fun h => absurd hpos (not_lt_of_ge h), fun _ => ⟨by linarith, by linarith⟩⟩
    · next hneg =>
      have hneg := le_of_not_gt hneg
      rw [abs_of_nonpos hneg] at hle
      exact ⟨fun _ => ⟨by linarith, by linarith⟩, fun h => ⟨by linarith, by linarith⟩⟩

theorem follows_amountRestoringFanout (g : StackGeometry) (s : CardStack) (toEnd early : Bool)
    (current preceding : ℕ) (amount : ℚ) :
    Follows (s.amountRestoringFanout g toEnd early current preceding amount) amount := by
  have hnonneg : 0 ≤ max 0 (g.maxStagger -
      (|s.offset preceding - s.offset current| - |amount|)) := le_max_left _ _
  exact follows_ite (follows_restored amount hnonneg) (follows_self amount)

@[simp] theorem count_restoreFanoutLoop (toEnd early : Bool) (n preceding : ℕ) (amount : ℚ) :
    (restoreFanoutLoop g toEnd early n preceding amount s).count = s.count := by
  induction n generalizing preceding amount s with
  | zero => rfl
  | succ n ih => rw [restoreFanoutLoop, ih, count_moveCardAtIndex]

/-- The cards after one that has been moved by `amount` toward the start. -/
theorem restoreFanoutLoop_toEnd (early : Bool) (n preceding : ℕ) {amount : ℚ}
    (hn : preceding + n + 1 = s.count) (hamount : amount ≤ 0)
    (hnext : preceding + 1 < s.count → s.offset preceding - amount ≤ s.offset (preceding + 1))
    (hlater : ∀ i, preceding < i → i + 1 < s.count → s.offset i ≤ s.offset (i + 1)) :
    let t := restoreFanoutLoop g true early n preceding amount s
    (∀ i ≤ preceding, t.offset i = s.offset i) ∧
      ∀ i, preceding ≤ i → i + 1 < s.count → t.offset i ≤ t.offset (i + 1) := by
  induction n generalizing preceding amount s with
  | zero => exact ⟨fun i _ => rfl, fun i hi hi' => by omega⟩
  | succ n ih =>
    have hcurrent : preceding + 1 < s.count := by omega
    have hfollows :=
      (follows_amountRestoringFanout g s true early (preceding + 1) preceding amount).1 hamount
    have hloop : restoreFanoutLoop g true early (n + 1) preceding amount s =
        restoreFanoutLoop g true early n (preceding + 1)
          (s.amountRestoringFanout g true early (preceding + 1) preceding amount)
          (s.moveCardAtIndex (preceding + 1)
            (s.amountRestoringFanout g true early (preceding + 1) preceding amount)) := rfl
    rw [hloop]
    generalize s.amountRestoringFanout g true early (preceding + 1) preceding amount = amount'
      at hfollows ⊢
    obtain ⟨hless, hnonpos⟩ := hfollows
    have hmoved := offset_moveCardAtIndex amount' hcurrent
    have hother : ∀ i, preceding + 1 ≠ i →
        (s.moveCardAtIndex (preceding + 1) amount').offset i = s.offset i := fun i hi =>
      offset_moveCardAtIndex_of_ne amount' hi
    obtain ⟨hsame, hordered⟩ := ih (s := s.moveCardAtIndex (preceding + 1) amount') (preceding + 1)
      (by rw [count_moveCardAtIndex]; omega) hnonpos
      (fun hi => by
        rw [count_moveCardAtIndex] at hi
        rw [hmoved, hother _ (by omega), add_sub_cancel_right]
        exact hlater _ (lt_succ_self _) hi)
      (fun i hi hi' => by
        rw [count_moveCardAtIndex] at hi'
        rw [hother _ (by omega), hother _ (by omega)]
        exact hlater i (by omega) hi')
    rw [count_moveCardAtIndex] at hordered
    refine ⟨fun i hi => ?_, fun i hi hi' => ?_⟩
    · rw [hsame i (by omega), hother i (by omega)]
    · obtain rfl | hlt := eq_or_lt_of_le hi
      · rw [hsame _ (le_succ _), hsame _ (le_refl _), hother _ (by omega), hmoved]
        linarith [hnext hcurrent]
      · exact hordered i hlt hi'

/-- The cards before one that has been moved by `amount` toward the end. -/
theorem restoreFanoutLoop_toStart (early : Bool) (n : ℕ) {amount : ℚ}
    (hn : n < s.count) (hamount : 0 ≤ amount)
    (hnext : 0 < n → s.offset (n - 1) ≤ s.offset n - amount)
    (hearlier : ∀ i, i + 1 < n → s.offset i ≤ s.offset (i + 1)) :
    let t := restoreFanoutLoop g false early n n amount s
    (∀ i, n ≤ i → t.offset i = s.offset i) ∧
      ∀ i, i + 1 ≤ n → t.offset i ≤ t.offset (i + 1) := by
  induction n generalizing amount s with
  | zero => exact ⟨fun i _ => rfl, fun i hi => absurd hi (not_succ_le_zero i)⟩
  | succ n ih =>
    have hcurrent : n < s.count := lt_of_succ_lt hn
    have hfollows := (follows_amountRestoringFanout g s false early n (n + 1) amount).2 hamount
    have hloop : restoreFanoutLoop g false early (n + 1) (n + 1) amount s =
        restoreFanoutLoop g false early n n
          (s.amountRestoringFanout g false early n (n + 1) amount)
          (s.moveCardAtIndex n (s.amountRestoringFanout g false early n (n + 1) amount)) := rfl
    rw [hloop]
    generalize s.amountRestoringFanout g false early n (n + 1) amount = amount' at hfollows ⊢
    obtain ⟨hnonneg, hless⟩ := hfollows
    have hmoved := offset_moveCardAtIndex amount' hcurrent
    have hother : ∀ i, n ≠ i → (s.moveCardAtIndex n amount').offset i = s.offset i := fun i hi =>
      offset_moveCardAtIndex_of_ne amount' hi
    obtain ⟨hsame, hordered⟩ := ih (s := s.moveCardAtIndex n amount')
      (by rw [count_moveCardAtIndex]; exact hcurrent) hnonneg
      (fun hpos => by
        rw [hmoved, hother _ (by omega), add_sub_cancel_right]
        have hle := hearlier (n - 1) (by omega)
        rwa [Nat.sub_add_cancel hpos] at hle)
      (fun i hi => by
        rw [hother _ (by omega), hother _ (by omega)]
        exact hearlier i (by omega))
    refine ⟨fun i hi => ?_, fun i hi => ?_⟩
    · rw [hsame i (by omega), hother i (by omega)]
    · obtain hlt | heq := lt_or_eq_of_le hi
      · exact hordered i (le_of_lt_succ hlt)
      · obtain rfl : i = n := succ.inj heq
        rw [hsame i (le_refl i), hsame (i + 1) (le_succ i), hother (i + 1) (by omega),
          hmoved]
        have hle := hnext (succ_pos i)
        rw [Nat.add_sub_cancel] at hle
        linarith

/-- The cards from the scrolled one on are in order, and those before it follow. -/
theorem moveCardsrestoringFanout_toStart_ordered {index : ℕ} {amount : ℚ}
    (hindex : index < s.count) (hamount : 0 ≤ amount) (early : Bool)
    (hahead : ∀ i, index ≤ i → i + 1 < s.count → s.offset i ≤ s.offset (i + 1))
    (hnext : 0 < index → s.offset (index - 1) ≤ s.offset index - amount)
    (hearlier : ∀ i, i + 1 < index → s.offset i ≤ s.offset (i + 1)) :
    (s.moveCardsrestoringFanoutFromIndex g index false amount early).Ordered := by
  have hloop : s.moveCardsrestoringFanoutFromIndex g index false amount early =
      restoreFanoutLoop g false early index index amount s := rfl
  obtain ⟨hsame, hbehind⟩ :=
    restoreFanoutLoop_toStart (g := g) early index hindex hamount hnext hearlier
  rw [hloop, ordered_iff, count_restoreFanoutLoop]
  intro i hi
  obtain hlt | hge := lt_or_ge i index
  · exact hbehind i hlt
  · rw [hsame i hge, hsame (i + 1) (le_succ_of_le hge)]
    exact hahead i hge hi

/-- The cards up to the scrolled one are in order, and those after it follow. -/
theorem moveCardsrestoringFanout_toEnd_ordered {index : ℕ} {amount : ℚ}
    (hindex : index < s.count) (hamount : amount ≤ 0) (early : Bool)
    (hahead : ∀ i, i + 1 ≤ index → s.offset i ≤ s.offset (i + 1))
    (hnext : index + 1 < s.count → s.offset index - amount ≤ s.offset (index + 1))
    (hlater : ∀ i, index < i → i + 1 < s.count → s.offset i ≤ s.offset (i + 1)) :
    (s.moveCardsrestoringFanoutFromIndex g index true amount early).Ordered := by
  have hloop : s.moveCardsrestoringFanoutFromIndex g index true amount early =
      restoreFanoutLoop g true early (s.count - index - 1) index amount s := rfl
  obtain ⟨hsame, hbehind⟩ :=
    restoreFanoutLoop_toEnd (g := g) early (s.count - index - 1) index (by omega) hamount hnext
      hlater
  rw [hloop, ordered_iff, count_restoreFanoutLoop]
  intro i hi
  obtain hlt | hge := lt_or_ge i index
  · rw [hsame i (le_of_lt hlt), hsame (i + 1) hlt]
    exact hahead i hlt
  · exact hbehind i hge hi

theorem decayedDelta_sign (g : StackGeometry) (s : CardStack) (delta : ℚ) (decay : Bool) :
    (0 < delta → 0 ≤ s.decayedDelta g delta decay) ∧
      (delta ≤ 0 → s.decayedDelta g delta decay ≤ 0) := by
  rw [decayedDelta, kOverextensionDecayFactor]
  split
  · constructor <;> intro h <;> linarith
  · exact ⟨le_of_lt, id⟩

theorem scrollTowardEnd_ordered (hs : s.Ordered) {index leading : ℕ} {amount : ℚ}
    (hindex : index < s.count) (hamount : 0 ≤ amount) (early : Bool)
    (hleading : leading = s.count - 1 ∨ leading = index ∧
      (index + 1 < s.count → s.offset index + amount ≤ s.offset (index + 1))) :
    ((s.moveCardsFromIndex index leading amount).moveCardsrestoringFanoutFromIndex g index false
      amount early).Ordered := by
  rw [ordered_iff] at hs
  have hmoved : ∀ i < s.count, (s.moveCardsFromIndex index leading amount).offset i =
      if index ≤ i ∧ i ≤ leading then s.offset i + amount else s.offset i := fun i hi =>
    offset_moveCardsFromIndex _ _ _ hi
  have hbounds : index ≤ leading := by
    obtain rfl | ⟨rfl, -⟩ := hleading
    · exact le_sub_one_of_lt hindex
    · exact le_refl leading
  refine moveCardsrestoringFanout_toStart_ordered (by rwa [count_moveCardsFromIndex]) hamount early
    (fun i hi hi' => ?_) (fun hpos => ?_) fun i hi => ?_
  · rw [count_moveCardsFromIndex] at hi'
    rw [hmoved i (by omega), hmoved (i + 1) hi']
    have hle := hs i hi'
    obtain rfl | ⟨rfl, hstays⟩ := hleading
    · rw [if_pos (by omega), if_pos (by omega)]
      linarith
    · obtain rfl | hlt := eq_or_lt_of_le hi
      · rw [if_pos (by omega), if_neg (by omega)]
        exact hstays hi'
      · rw [if_neg (by omega), if_neg (by omega)]
        exact hle
  · rw [hmoved _ (by omega), hmoved _ hindex, if_neg (by omega), if_pos ⟨le_refl _, hbounds⟩]
    have hnext := hs (index - 1) (by omega)
    rw [Nat.sub_add_cancel hpos] at hnext
    linarith
  · rw [hmoved _ (by omega), hmoved _ (by omega), if_neg (by omega), if_neg (by omega)]
    exact hs i (by omega)

theorem scrollTowardStart_ordered (hs : s.Ordered) {index leading : ℕ} {amount : ℚ}
    (hindex : index < s.count) (hamount : amount ≤ 0) (early : Bool)
    (hleading : leading = 0 ∨ leading = index ∧
      (0 < index → s.offset (index - 1) ≤ s.offset index + amount)) :
    ((s.moveCardsFromIndex leading index amount).moveCardsrestoringFanoutFromIndex g index true
      amount early).Ordered := by
  rw [ordered_iff] at hs
  have hmoved : ∀ i < s.count, (s.moveCardsFromIndex leading index amount).offset i =
      if leading ≤ i ∧ i ≤ index then s.offset i + amount else s.offset i := fun i hi =>
    offset_moveCardsFromIndex _ _ _ hi
  have hbounds : leading ≤ index := by
    obtain rfl | ⟨rfl, -⟩ := hleading
    · exact zero_le index
    · exact le_refl leading
  refine moveCardsrestoringFanout_toEnd_ordered (by rwa [count_moveCardsFromIndex]) hamount early
    (fun i hi => ?_) (fun hi => ?_) fun i hi hi' => ?_
  · rw [hmoved i (by omega), hmoved (i + 1) (by omega)]
    have hle := hs i (by omega)
    obtain rfl | ⟨rfl, hstays⟩ := hleading
    · rw [if_pos (by omega), if_pos (by omega)]
      linarith
    · obtain rfl | hlt := eq_or_lt_of_le hi
      · rw [if_neg (by omega), if_pos (by omega)]
        exact hstays (succ_pos i)
      · rw [if_neg (by omega), if_neg (by omega)]
        exact hle
  · rw [count_moveCardsFromIndex] at hi
    rw [hmoved _ hindex, hmoved _ hi, if_pos ⟨hbounds, le_refl _⟩, if_neg (by omega)]
    linarith [hs index hi]
  · rw [count_moveCardsFromIndex] at hi'
    rw [hmoved _ (by omega), hmoved _ hi', if_neg (by omega), if_neg (by omega)]
    exact hs i hi'

/-- A scroll of the card alone, without those before it in the direction of the scroll, does not
take it past the next one. -/
def StaysBehind (g : StackGeometry) (s : CardStack) (index : ℕ) (delta : ℚ)
    (decayOnOverscroll : Bool) : Prop :=
  (0 < delta → index + 1 < s.count →
    s.offset index + s.decayedDelta g delta decayOnOverscroll ≤ s.offset (index + 1)) ∧
  (delta ≤ 0 → 0 < index →
    s.offset (index - 1) ≤ s.offset index + s.decayedDelta g delta decayOnOverscroll)

theorem scrollCardAtIndex_inPlace (hmax : 0 ≤ g.maximumOverextensionAmount) (hs : s.Ordered)
    {index : ℕ} (hindex : index < s.count) (delta : ℚ) (early decay leading : Bool)
    (hleading : leading = true ∨ s.StaysBehind g index delta decay) :
    (s.scrollCardAtIndex g index delta early decay leading).InPlace g := by
  obtain ⟨hforward, hback⟩ := decayedDelta_sign g s delta decay
  rw [scrollCardAtIndex, if_neg (ne_of_gt (zero_lt_of_lt hindex))]
  dsimp only
  refine capOverscrollWithScrolledIndex_inPlace hmax ?_ index early
  obtain hpos | hneg := lt_or_ge 0 delta
  · rw [if_pos (decide_eq_true hpos), decide_eq_true hpos]
    refine scrollTowardEnd_ordered hs hindex (hforward hpos) early ?_
    cases leading with
    | true => exact .inl rfl
    | false =>
      obtain hleading | hstays := hleading
      · cases hleading
      · exact .inr ⟨rfl, hstays.1 hpos⟩
  · have hneg' : decide (0 < delta) = false := decide_eq_false (not_lt_of_ge hneg)
    rw [hneg']
    refine scrollTowardStart_ordered hs hindex (hback hneg) early ?_
    cases leading with
    | true => exact .inl rfl
    | false =>
      obtain hleading | hstays := hleading
      · cases hleading
      · exact .inr ⟨rfl, hstays.2 hneg⟩

/-! ## All methods -/

/-- Fanning out and scrolling put a stack in order in its place. The layout of an edge stack keeps
the order, and each limit: the layout of the start stack keeps the end limit if there is room for
the stack. -/
theorem inPlace_of_ordered (hmax : 0 ≤ g.maximumOverextensionAmount) (hs : s.Ordered) :
    (∀ startIndex < s.count, (s.fanOutCardsWithStartIndex g startIndex).InPlace g) ∧
    (∀ index < s.count, ∀ delta early decay leading,
      (leading = true ∨ s.StaysBehind g index delta decay) →
        (s.scrollCardAtIndex g index delta early decay leading).InPlace g) ∧
    (∀ limit, (s.layOutStartStackWithLimit limit).Ordered ∧
      (limitOfOverextensionTowardStart g ≤ limit → limit ≤ limitOfOverscrollTowardEnd g →
        s.FirstWithin g → (s.layOutStartStackWithLimit limit).FirstWithin g) ∧
      (limit + staggerOffsetForIndexFromEdge (s.count - 1) ≤ visualEndLimit g →
        s.BeforeEnd g → (s.layOutStartStackWithLimit limit).BeforeEnd g)) ∧
    (s.layOutEndStack g).Ordered ∧ (s.FirstWithin g → (s.layOutEndStack g).FirstWithin g) ∧
      (s.layOutEndStack g).BeforeEnd g := by
  refine ⟨fun startIndex hstart => fanOutCardsWithStartIndex_inPlace hmax hstart,
    fun index hindex delta early decay leading hleading =>
      scrollCardAtIndex_inPlace hmax hs hindex delta early decay leading hleading,
    fun limit => ⟨layOutStartStackWithLimit_ordered limit hs, fun hlow hhigh hfirst => ?_,
      layOutStartStackWithLimit_beforeEnd⟩,
    layOutEndStack_ordered g hs, layOutEndStack_firstWithin, layOutEndStack_beforeEnd g s⟩
  exact layOutStartStackWithLimit_firstWithin hlow hhigh fun hpos => .inl (hfirst hpos).1

def demoGeometry : StackGeometry := ⟨40, 200, 5, 400⟩

/-- A stack of six cards, fanned out. -/
def demoStack : CardStack := ⟨[5, 45, 85, 125, 165, 205], 0, 6⟩

theorem inPlace_of_ordered_demo :
    (demoStack.fanOutCardsWithStartIndex demoGeometry 2).InPlace demoGeometry ∧
    (demoStack.scrollCardAtIndex demoGeometry 3 (-200) true true true).InPlace demoGeometry ∧
    (demoStack.scrollCardAtIndex demoGeometry 3 30 true true false).InPlace demoGeometry ∧
    (demoStack.layOutStartStack demoGeometry).BeforeEnd demoGeometry ∧
    (demoStack.layOutEndStack demoGeometry).FirstWithin demoGeometry := by
  have hmax : 0 ≤ demoGeometry.maximumOverextensionAmount := by decide +kernel
  have hordered : demoStack.Ordered := by decide +kernel
  obtain ⟨hfan, hscroll, hstart, -, hend, -⟩ := inPlace_of_ordered hmax hordered
  refine ⟨hfan 2 (by decide), hscroll 3 (by decide) (-200) true true true (.inl rfl),
    hscroll 3 (by decide) 30 true true false (.inr ?_), (hstart _).2.2 ?_ ?_, hend ?_⟩
  · exact ⟨fun _ _ => by decide +kernel, fun h => absurd h (by decide +kernel)⟩
  · decide +kernel
  · decide +kernel
  · decide +kernel

/-- A card that is scrolled alone can pass its neighbour, the layout of the start stack leaves cards
past the end limit, and that of the end stack a first card far before the start limit. -/
theorem scrolledAlone_not_ordered :
    demoStack.Ordered ∧
    ¬(demoStack.scrollCardAtIndex demoGeometry 3 100 true false false).Ordered ∧
    ¬((⟨[5, 500], -1, 2⟩ : CardStack).layOutStartStack demoGeometry).BeforeEnd demoGeometry ∧
    ¬((⟨[-500, 5], -1, 2⟩ : CardStack).layOutEndStack demoGeometry).FirstWithin demoGeometry := by
  decide +kernel

/-! ## Runs -/

theorem eliminateOverscroll_inPlace (hmax : 0 ≤ g.maximumOverextensionAmount) (hs : s.Ordered) :
    (s.eliminateOverscroll g).InPlace g := by
  obtain ⟨hlow, hhigh⟩ := startLimit_within hmax
  have hlayout : ∀ u : CardStack, u.Ordered →
      (0 < u.count → u.offset 0 ≤ limitOfOverscrollTowardEnd g) →
        (u.layOutEdgeStacksWithStartLimit g g.startLimit).InPlace g := fun u hu hfirst =>
    layOutEdgeStacks_inPlace hlow hhigh (fun hpos => .inl (hfirst hpos)) fun i hi =>
      .inl (ordered_iff.1 hu i hi)
  rw [eliminateOverscroll]
  split
  · next hempty => exact inPlace_of_empty hempty
  · next hcards =>
    dsimp only
    split
    · have hscroll := scrollCardAtIndex_inPlace hmax hs (pos_of_ne_zero hcards)
        (g.startLimit - s.offset 0) true false true (.inl rfl)
      exact hlayout _ hscroll.ordered fun hpos => (hscroll.first hpos).1
    · next hbefore => exact hlayout s hs fun _ => by linarith

/-- The methods that move the cards of a stack. -/
inductive Op
  | fanOut (startIndex : ℕ)
  | scroll (index : ℕ) (delta : ℚ)
      (allowEarlyOverscroll decayOnOverscroll scrollLeadingCards : Bool)
  | eliminateOverscroll
  | layOutStartStack
  | layOutEndStack

/-- What the callers see to. -/
def Op.Pre (g : StackGeometry) (s : CardStack) : Op → Prop
  | .fanOut startIndex => startIndex < s.count
  | .scroll index delta _ decay leading =>
    index < s.count ∧ (leading = true ∨ s.StaysBehind g index delta decay)
  | .eliminateOverscroll | .layOutStartStack | .layOutEndStack => True

def machine (g : StackGeometry) : Machine CardStack Op where
  Pre s op := op.Pre g s
  step s op :=
    match op with
    | .fanOut startIndex => s.fanOutCardsWithStartIndex g startIndex
    | .scroll index delta early decay leading =>
      s.scrollCardAtIndex g index delta early decay leading
    | .eliminateOverscroll => s.eliminateOverscroll g
    | .layOutStartStack => s.layOutStartStack g
    | .layOutEndStack => s.layOutEndStack g

/-- A stack that is in its place stays there, if there is room for it when it is collapsed. -/
theorem run_inPlace (hmax : 0 ≤ g.maximumOverextensionAmount)
    (hroom : g.startLimit + staggerOffsetForIndexFromEdge kMaxVisibleStaggerCount ≤
      visualEndLimit g) (hs : s.InPlace g) {ops : List Op}
    (hlegal : (machine g).Legal s ops) : ((machine g).run s ops).InPlace g := by
  obtain ⟨hlow, hhigh⟩ := startLimit_within hmax
  refine Machine.run_invariant (fun s op hs hop => ?_) hs hlegal
  cases op with
  | fanOut startIndex => exact fanOutCardsWithStartIndex_inPlace hmax hop
  | scroll index delta early decay leading =>
    exact scrollCardAtIndex_inPlace hmax hs.ordered hop.1 delta early decay leading hop.2
  | eliminateOverscroll => exact eliminateOverscroll_inPlace hmax hs.ordered
  | layOutStartStack =>
    have hstagger := staggerOffset_le_collapsed (s.count - 1)
    exact ⟨layOutStartStackWithLimit_ordered _ hs.ordered,
      layOutStartStackWithLimit_firstWithin hlow hhigh fun hpos => .inl (hs.first hpos).1,
      layOutStartStackWithLimit_beforeEnd (by linarith) hs.last⟩
  | layOutEndStack =>
    exact ⟨layOutEndStack_ordered g hs.ordered, layOutEndStack_firstWithin hs.first,
      layOutEndStack_beforeEnd g s⟩

theorem run_inPlace_demo :
    ((machine demoGeometry).run demoStack
      [.fanOut 3, .scroll 2 40 false true true, .eliminateOverscroll, .layOutStartStack]).InPlace
      demoGeometry :=
  run_inPlace (by decide +kernel) (by decide +kernel)
    ⟨by decide +kernel, by decide +kernel, by decide +kernel⟩
    ⟨show 3 < 6 by decide, ⟨by decide +kernel, .inl rfl⟩, trivial, trivial, trivial⟩

end CardStack

end ChromiumIos
