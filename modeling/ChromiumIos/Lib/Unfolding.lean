import Mathlib.Algebra.GroupWithZero.Nat
import Mathlib.Data.Finset.Card

/-!
# Work that spawns work

`children x` is the work that doing `x` adds. Nothing recognises work that was
done before, so all of it is finite exactly when no item spawns itself.

- `total`: the weight of an item and of all the work that follows from it.
- `acc_iff_no_cycle`: with finitely many items that spawn anything, the work
  that follows from an item is well-founded exactly when it has no cycle.
-/

namespace Lib

universe u

variable {α : Type u} (children : α → List α)

/-- `x` spawns `y`. -/
def Spawned (y x : α) : Prop := y ∈ children x

/-- The weight of all work that follows from an item whose work is well-founded. -/
noncomputable def totalOfAcc (weight : α → Nat) {x : α} (h : Acc (Spawned children) x) : Nat :=
  h.rec fun x _ ih => weight x + ((children x).attach.map fun y => ih y.1 y.2).sum

open Classical in
/-- The weight of all work that follows from an item, if it is well-founded. -/
noncomputable def total (weight : α → Nat) (x : α) : Nat :=
  if h : Acc (Spawned children) x then totalOfAcc children weight h else 0

variable {children} {weight : α → Nat} {x y : α}

theorem total_of_acc (h : Acc (Spawned children) x) :
    total children weight x = totalOfAcc children weight h := dif_pos h

/-- The work of an item is its own and that of its children. -/
theorem total_eq (h : Acc (Spawned children) x) :
    total children weight x =
      weight x + ((children x).map (total children weight)).sum := by
  rw [total_of_acc h]
  cases h with
  | intro _ hchildren =>
    show weight x + ((children x).attach.map fun y =>
      totalOfAcc children weight (hchildren y.1 y.2)).sum = _
    have hmap : ((children x).attach.map fun y =>
        totalOfAcc children weight (hchildren y.1 y.2)) =
          (children x).map (total children weight) := by
      rw [← List.attach_map_val (f := total children weight)]
      refine List.map_congr_left fun y _ => ?_
      exact (total_of_acc (hchildren y.1 y.2)).symm
    rw [hmap]

/-! ## Cycles -/

theorem Acc.not_transGen_self (h : Acc (Spawned children) x) :
    ¬ Relation.TransGen (Spawned children) x x := by
  have hacc := h.transGen
  induction hacc with
  | intro x _ ih => exact fun hcycle => ih x hcycle h hcycle

/-- Where few items spawn work and none spawns itself, work ends: each item has
fewer items that spawn work below it than its parent. -/
theorem acc_of_no_cycle {support : List α} (hsupport : ∀ x, x ∉ support → children x = [])
    (hcycle : ∀ y, Relation.ReflTransGen (Spawned children) y x →
      ¬ Relation.TransGen (Spawned children) y y) : Acc (Spawned children) x := by
  classical
  let below (x : α) : Finset α :=
    support.toFinset.filter fun z => Relation.TransGen (Spawned children) z x
  induction hn : (below x).card using Nat.strong_induction_on generalizing x with
  | _ n ih =>
    refine Acc.intro x fun y hy => ?_
    by_cases hleaf : children y = []
    · refine Acc.intro y fun z hz => ?_
      rw [Spawned, hleaf] at hz
      cases hz
    · have hmem : y ∈ support := by
        by_contra hnot
        exact hleaf (hsupport y hnot)
      have hcycle' : ∀ z, Relation.ReflTransGen (Spawned children) z y →
          ¬ Relation.TransGen (Spawned children) z z := fun z hz => hcycle z (hz.tail hy)
      have hless : (below y).card < (below x).card := by
        refine Finset.card_lt_card ⟨fun z hz => ?_, fun hsub => ?_⟩
        · obtain ⟨hzmem, hzy⟩ := Finset.mem_filter.1 hz
          exact Finset.mem_filter.2 ⟨hzmem, hzy.tail hy⟩
        · have hyx : y ∈ below x :=
            Finset.mem_filter.2 ⟨List.mem_toFinset.2 hmem, .single hy⟩
          exact hcycle' y .refl (Finset.mem_filter.1 (hsub hyx)).2
      exact ih _ (hn ▸ hless) hcycle' rfl

/-- **Well-foundedness**: the work that follows from an item ends exactly when
no item in it spawns itself. -/
theorem acc_iff_no_cycle {support : List α} (hsupport : ∀ x, x ∉ support → children x = []) :
    Acc (Spawned children) x ↔
      ∀ y, Relation.ReflTransGen (Spawned children) y x →
        ¬ Relation.TransGen (Spawned children) y y := by
  constructor
  · intro h y hy
    rcases Relation.reflTransGen_iff_eq_or_transGen.1 hy with rfl | htrans
    · exact Acc.not_transGen_self h
    · exact Acc.not_transGen_self (h.inv_of_transGen htrans)
  · exact acc_of_no_cycle hsupport

/-- An item whose work does not end spawns one. -/
theorem exists_child_not_acc (h : ¬ Acc (Spawned children) x) :
    ∃ y ∈ children x, ¬ Acc (Spawned children) y := by
  by_contra hnone
  refine h (Acc.intro x fun y hy => ?_)
  by_contra hy'
  exact hnone ⟨y, hy, hy'⟩

end Lib
