import Mathlib.Data.List.Basic

/-!
# Walks of a partial function

A partial function `next` leads from a position to the following one, or ends.

- `steps next k a`: where `k` steps from `a` lead, if the walk is that long.
- `IsTrail next a l`: `l` lists all positions after `a`.
- `IsTrail.steps_eq`: so the list can be read instead of taking the steps.
-/

namespace Lib

universe u

variable {α : Type u}

/-- `k` steps of a partial function. -/
def steps (next : α → Option α) : Nat → α → Option α
  | 0, a => some a
  | k + 1, a => (next a).bind (steps next k)

/-- The last step of a walk. -/
theorem steps_succ (next : α → Option α) (k : Nat) (a : α) :
    steps next (k + 1) a = (steps next k a).bind next := by
  induction k generalizing a with
  | zero =>
    show (next a).bind (steps next 0) = next a
    cases next a <;> rfl
  | succ k ih =>
    show (next a).bind (steps next (k + 1)) = ((next a).bind (steps next k)).bind next
    rw [Option.bind_assoc, funext ih]

/-- `l` lists the positions after `a`, to the end of the walk. -/
def IsTrail (next : α → Option α) : α → List α → Prop
  | a, [] => next a = none
  | a, b :: l => next a = some b ∧ IsTrail next b l

theorem IsTrail.steps_eq {next : α → Option α} {a : α} {l : List α} (h : IsTrail next a l)
    (k : Nat) : steps next k a = (a :: l)[k]? := by
  induction k generalizing a l with
  | zero => rfl
  | succ k ih =>
    cases l with
    | nil =>
      rw [steps, show next a = none from h]
      rfl
    | cons b l =>
      obtain ⟨hb, hl⟩ := h
      rw [steps, hb]
      exact ih hl

end Lib
