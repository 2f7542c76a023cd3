import Mathlib.Data.List.Nodup

/-!
# Promises behind slots

A program that answers a promise later keeps its resolver in a variable. Each variable, a *slot*,
has room for one resolver.

- `create`, `hand`, `settle`: a resolver is put into a slot, its promise is given away, and it is
  settled and the slot cleared.
- `Sound`: every resolver in a slot is in one slot, and unsettled.
- `Answered`: no promise is settled twice, and none that was given away is lost unsettled.
- `answered_create`, `isLost_create`: a new resolver loses the promise whose resolver it replaces,
  if that was given away.
-/

namespace Lib

open Function

universe u v

/-- Promises, numbered in the order of their creation, and the resolvers in the slots. -/
structure PromiseSlots (K : Type u) (R : Type v) where
  slots : K → Option Nat
  next : Nat
  handed : List Nat
  settled : List (Nat × R)

namespace PromiseSlots

variable {K : Type u} {R : Type v}

def empty : PromiseSlots K R := ⟨fun _ => none, 0, [], []⟩

/-- Whether the promise was settled. -/
def isSettled (ps : PromiseSlots K R) (promise : Nat) : Prop := promise ∈ ps.settled.map Prod.fst

/-- Gives away the promise of the slot. -/
def hand (ps : PromiseSlots K R) (k : K) : PromiseSlots K R :=
  { ps with handed := (ps.slots k).toList ++ ps.handed }

section Update

variable [DecidableEq K]

/-- Puts a new resolver into the slot. -/
def create (ps : PromiseSlots K R) (k : K) : PromiseSlots K R :=
  { ps with
    slots := update ps.slots k (some ps.next)
    next := ps.next + 1 }

/-- Settles the promise of the slot, and clears the slot. -/
def settle (ps : PromiseSlots K R) (k : K) (outcome : R) : PromiseSlots K R :=
  match ps.slots k with
  | none => ps
  | some promise =>
    { ps with
      slots := update ps.slots k none
      settled := (promise, outcome) :: ps.settled }

end Update

/-! ## What holds of the slots -/

/-- The resolvers in the slots are distinct, and their promises unsettled. -/
structure Sound (ps : PromiseSlots K R) : Prop where
  distinct : ∀ k k' promise, ps.slots k = some promise → ps.slots k' = some promise → k = k'
  unsettled : ∀ k promise, ps.slots k = some promise → ¬ps.isSettled promise
  slots_lt : ∀ k promise, ps.slots k = some promise → promise < ps.next
  handed_lt : ∀ promise ∈ ps.handed, promise < ps.next
  settled_lt : ∀ promise, ps.isSettled promise → promise < ps.next

/-- Promises are settled once, and those given away are settled or can still be. -/
structure Answered (ps : PromiseSlots K R) : Prop where
  once : (ps.settled.map Prod.fst).Nodup
  waits : ∀ promise ∈ ps.handed, ps.isSettled promise ∨ ∃ k, ps.slots k = some promise

/-- A promise that was given away and that nothing can settle. -/
structure IsLost (ps : PromiseSlots K R) (promise : Nat) : Prop where
  handed : promise ∈ ps.handed
  unsettled : ¬ps.isSettled promise
  unslotted : ∀ k, ps.slots k ≠ some promise

theorem sound_empty : Sound (empty : PromiseSlots K R) where
  distinct _ _ _ := nofun
  unsettled _ _ := nofun
  slots_lt _ _ := nofun
  handed_lt := nofun
  settled_lt _ := nofun

theorem answered_empty : Answered (empty : PromiseSlots K R) := ⟨.nil, nofun⟩

variable {ps : PromiseSlots K R}

theorem IsLost.not_answered {promise : Nat} (h : ps.IsLost promise) : ¬ps.Answered := by
  intro hanswered
  rcases hanswered.waits promise h.handed with hsettled | ⟨k, hslot⟩
  · exact h.unsettled hsettled
  · exact h.unslotted k hslot

theorem IsLost.hand {promise : Nat} (h : ps.IsLost promise) (k : K) : (ps.hand k).IsLost promise :=
  ⟨List.mem_append_right _ h.handed, h.unsettled, h.unslotted⟩

theorem Sound.hand (h : ps.Sound) (k : K) : (ps.hand k).Sound :=
  { h with
    handed_lt := fun promise hmem => (List.mem_append.1 hmem).elim
      (fun hslot => h.slots_lt k promise (Option.mem_toList.1 hslot)) (h.handed_lt promise) }

/-- The promise that is given away can still be settled. -/
theorem Answered.hand (h : ps.Answered) (k : K) : (ps.hand k).Answered where
  once := h.once
  waits promise hmem := (List.mem_append.1 hmem).elim
    (fun hslot => .inr ⟨k, Option.mem_toList.1 hslot⟩) (h.waits promise)

section Update

variable [DecidableEq K]

theorem slots_create_self (k : K) : (ps.create k).slots k = some ps.next := update_self ..

theorem slots_create_of_ne {k k' : K} (hne : k' ≠ k) : (ps.create k).slots k' = ps.slots k' :=
  update_of_ne hne ..

theorem slots_create {k k' : K} {promise : Nat} :
    (ps.create k).slots k' = some promise ↔
      (k' = k ∧ promise = ps.next) ∨ (k' ≠ k ∧ ps.slots k' = some promise) := by
  by_cases heq : k' = k
  · rw [heq, slots_create_self, Option.some_inj]
    exact ⟨fun h => .inl ⟨rfl, h.symm⟩, fun h => h.elim (·.2.symm) fun h => absurd rfl h.1⟩
  · rw [slots_create_of_ne heq]
    exact ⟨fun h => .inr ⟨heq, h⟩, fun h => h.elim (fun h => absurd h.1 heq) (·.2)⟩

theorem Sound.create (h : ps.Sound) (k : K) : (ps.create k).Sound where
  distinct k₁ k₂ promise h₁ h₂ := by
    rcases slots_create.1 h₁ with ⟨hk₁, hnew₁⟩ | ⟨-, hold₁⟩ <;>
      rcases slots_create.1 h₂ with ⟨hk₂, hnew₂⟩ | ⟨-, hold₂⟩
    · exact hk₁.trans hk₂.symm
    · exact absurd hnew₁ (Nat.ne_of_lt (h.slots_lt k₂ promise hold₂))
    · exact absurd hnew₂ (Nat.ne_of_lt (h.slots_lt k₁ promise hold₁))
    · exact h.distinct k₁ k₂ promise hold₁ hold₂
  unsettled k' promise hslot hsettled := by
    rcases slots_create.1 hslot with ⟨-, rfl⟩ | ⟨-, hslot⟩
    · exact absurd (h.settled_lt _ hsettled) (Nat.lt_irrefl _)
    · exact h.unsettled k' promise hslot hsettled
  slots_lt k' promise hslot := by
    rcases slots_create.1 hslot with ⟨-, rfl⟩ | ⟨-, hslot⟩
    · exact Nat.lt_succ_self _
    · exact Nat.lt_succ_of_lt (h.slots_lt k' promise hslot)
  handed_lt promise hmem := Nat.lt_succ_of_lt (h.handed_lt promise hmem)
  settled_lt promise hmem := Nat.lt_succ_of_lt (h.settled_lt promise hmem)

/-- A new resolver loses no promise where the old one's was not given away. -/
theorem answered_create (h : ps.Answered) {k : K}
    (hunhanded : ∀ promise ∈ ps.slots k, promise ∉ ps.handed) : (ps.create k).Answered where
  once := h.once
  waits promise hmem := by
    refine (h.waits promise hmem).imp_right fun ⟨k', hslot⟩ => ?_
    refine ⟨k', slots_create.2 (.inr ⟨?_, hslot⟩)⟩
    rintro rfl
    exact hunhanded promise hslot hmem

/-- Otherwise that promise is lost. -/
theorem isLost_create (h : ps.Sound) {k : K} {promise : Nat} (hslot : ps.slots k = some promise)
    (hmem : promise ∈ ps.handed) : (ps.create k).IsLost promise := by
  refine ⟨hmem, h.unsettled k promise hslot, fun k' hslot' => ?_⟩
  rcases slots_create.1 hslot' with ⟨-, heq⟩ | ⟨hne, hslot'⟩
  · exact Nat.ne_of_lt (h.slots_lt k promise hslot) heq
  · exact hne (h.distinct k' k promise hslot' hslot)

theorem slots_settle {k k' : K} {outcome : R} {promise : Nat} :
    (ps.settle k outcome).slots k' = some promise ↔ k' ≠ k ∧ ps.slots k' = some promise := by
  rw [settle]
  cases hslot : ps.slots k with
  | none =>
    refine ⟨fun h => ⟨?_, h⟩, fun h => h.2⟩
    rintro rfl
    exact Option.some_ne_none promise (h.symm.trans hslot)
  | some old =>
    show update ps.slots k none k' = some promise ↔ _
    by_cases heq : k' = k
    · rw [heq, update_self]
      exact iff_of_false nofun fun h => h.1 rfl
    · rw [update_of_ne heq]
      exact ⟨fun h => ⟨heq, h⟩, fun h => h.2⟩

theorem isSettled_settle {k : K} {outcome : R} {promise : Nat} :
    (ps.settle k outcome).isSettled promise ↔ ps.slots k = some promise ∨ ps.isSettled promise := by
  rw [settle]
  cases hslot : ps.slots k with
  | none => exact ⟨.inr, fun h => h.resolve_left nofun⟩
  | some old =>
    rw [isSettled, List.map_cons, List.mem_cons, Option.some_inj, eq_comm, isSettled]

theorem handed_settle (k : K) (outcome : R) : (ps.settle k outcome).handed = ps.handed := by
  rw [settle]
  split <;> rfl

theorem Sound.settle (h : ps.Sound) (k : K) (outcome : R) : (ps.settle k outcome).Sound where
  distinct k₁ k₂ promise h₁ h₂ :=
    h.distinct k₁ k₂ promise (slots_settle.1 h₁).2 (slots_settle.1 h₂).2
  unsettled k' promise hslot hsettled := by
    obtain ⟨hne, hslot⟩ := slots_settle.1 hslot
    rcases isSettled_settle.1 hsettled with hold | hsettled
    · exact hne (h.distinct k' k promise hslot hold)
    · exact h.unsettled k' promise hslot hsettled
  slots_lt k' promise hslot := by
    have hlt := h.slots_lt k' promise (slots_settle.1 hslot).2
    rw [PromiseSlots.settle]
    split <;> exact hlt
  handed_lt promise hmem := by
    have hlt := h.handed_lt promise (handed_settle k outcome ▸ hmem)
    rw [PromiseSlots.settle]
    split <;> exact hlt
  settled_lt promise hsettled := by
    have hlt : promise < ps.next := by
      rcases isSettled_settle.1 hsettled with hold | hsettled
      · exact h.slots_lt k promise hold
      · exact h.settled_lt promise hsettled
    rw [PromiseSlots.settle]
    split <;> exact hlt

theorem IsLost.settle {promise : Nat} (h : ps.IsLost promise) (k : K) (outcome : R) :
    (ps.settle k outcome).IsLost promise where
  handed := (handed_settle k outcome).symm ▸ h.handed
  unsettled hsettled := (isSettled_settle.1 hsettled).elim (h.unslotted k) h.unsettled
  unslotted k' hslot := h.unslotted k' (slots_settle.1 hslot).2

/-- A resolver in a slot settles its promise for the first time. -/
theorem Answered.settle (h : ps.Answered) (hsound : ps.Sound) (k : K) (outcome : R) :
    (ps.settle k outcome).Answered where
  once := by
    rw [PromiseSlots.settle]
    cases hslot : ps.slots k with
    | none => exact h.once
    | some promise => exact List.nodup_cons.2 ⟨hsound.unsettled k promise hslot, h.once⟩
  waits promise hmem := by
    rw [handed_settle] at hmem
    rw [isSettled_settle]
    rcases h.waits promise hmem with hsettled | ⟨k', hslot⟩
    · exact .inl (.inr hsettled)
    · by_cases heq : k' = k
      · exact .inl (.inl (heq ▸ hslot))
      · exact .inr ⟨k', slots_settle.2 ⟨heq, hslot⟩⟩

end Update

end PromiseSlots

end Lib
