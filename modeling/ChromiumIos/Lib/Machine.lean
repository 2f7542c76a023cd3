import Mathlib.Data.List.Basic

/-!
# Guarded machines and their runs

A *machine* is a deterministic transition function whose operations carry a
precondition. A run is a finite sequence of operations; it is *legal* when
every operation meets its precondition in the state it is applied to.

- `Machine.run_invariant`: what each legal step preserves, each legal run
  preserves.
- `Machine.along_of_detected`: what no state of a run shows, no step of it did;
  `Machine.always_iff_along` is the equivalence.
- `Machine.observe`: a second component that follows a machine only through
  the events its steps emit. `Machine.run_coupled` lifts a coupling between
  the two from steps to runs.
-/

namespace Lib

universe u v w x

/-- A deterministic transition system with a precondition per operation. -/
structure Machine (σ : Type u) (α : Type v) where
  Pre : σ → α → Prop
  step : σ → α → σ

namespace Machine

variable {σ : Type u} {α : Type v} (M : Machine σ α)

/-- The state after applying the operations from left to right. -/
def run (s : σ) : List α → σ
  | [] => s
  | a :: as => run (M.step s a) as

/-- `C` holds of every operation of the run, in the state it is applied to. -/
def Along (C : σ → α → Prop) : σ → List α → Prop
  | _, [] => True
  | s, a :: as => C s a ∧ Along C (M.step s a) as

/-- Every operation of the run meets its precondition. -/
def Legal (s : σ) (as : List α) : Prop := M.Along M.Pre s as

instance decidableAlong {C : σ → α → Prop} [∀ s a, Decidable (C s a)] :
    ∀ (s : σ) (as : List α), Decidable (M.Along C s as)
  | _, [] => instDecidableTrue
  | s, a :: as => @instDecidableAnd (C s a) _ _ (decidableAlong (M.step s a) as)

instance decidableLegal [∀ s a, Decidable (M.Pre s a)] (s : σ) (as : List α) :
    Decidable (M.Legal s as) :=
  M.decidableAlong s as

theorem along_and {C D : σ → α → Prop} {s : σ} {as : List α}
    (hC : M.Along C s as) (hD : M.Along D s as) :
    M.Along (fun t a => C t a ∧ D t a) s as := by
  induction as generalizing s with
  | nil => trivial
  | cons a as ih => exact ⟨⟨hC.1, hD.1⟩, ih hC.2 hD.2⟩

variable {C : σ → α → Prop}

/-- A condition that always holds. -/
theorem along_of_forall (hC : ∀ s a, C s a) (s : σ) (as : List α) : M.Along C s as := by
  induction as generalizing s with
  | nil => trivial
  | cons a as ih => exact ⟨hC s a, ih _⟩

/-- A condition on the operations alone. -/
theorem along_of_mem {Q : α → Prop} (s : σ) {as : List α} (hQ : ∀ a ∈ as, Q a) :
    M.Along (fun _ a => Q a) s as := by
  induction as generalizing s with
  | nil => trivial
  | cons a as ih =>
    exact ⟨hQ a List.mem_cons_self, ih _ fun b hb => hQ b (List.mem_cons_of_mem a hb)⟩

variable {M}

theorem Along.imp {C D : σ → α → Prop} (hCD : ∀ s a, C s a → D s a) {s : σ} {as : List α}
    (h : M.Along C s as) : M.Along D s as := by
  induction as generalizing s with
  | nil => trivial
  | cons a as ih => exact ⟨hCD s a h.1, ih h.2⟩

variable {I : σ → Prop}

/-- **Run rule**: what every step under `C` preserves holds after every run
whose steps all meet `C`. -/
theorem run_invariant (hstep : ∀ s a, I s → C s a → I (M.step s a)) {s : σ} {as : List α}
    (hs : I s) (has : M.Along C s as) : I (M.run s as) := by
  induction as generalizing s with
  | nil => exact hs
  | cons a as ih => exact ih (hstep s a hs has.1) has.2

/-- The run rule for what every step preserves. -/
theorem run_invariant_of_step (hstep : ∀ s a, I s → I (M.step s a)) {s : σ}
    (hs : I s) (as : List α) : I (M.run s as) :=
  run_invariant (C := fun _ _ => True) (fun s a h _ => hstep s a h) hs
    (M.along_of_forall (fun _ _ => trivial) s as)

/-- Conditions that agree where the invariant holds agree along a run. -/
theorem along_congr {C D E : σ → α → Prop}
    (hiff : ∀ s a, I s → C s a → (D s a ↔ E s a))
    (hstep : ∀ s a, I s → C s a → I (M.step s a)) {s : σ} {as : List α}
    (hs : I s) (has : M.Along C s as) : M.Along D s as ↔ M.Along E s as := by
  induction as generalizing s with
  | nil => exact Iff.rfl
  | cons a as ih => exact and_congr (hiff s a hs has.1) (ih (hstep s a hs has.1) has.2)

/-- A view that every step changes by the operation alone. -/
theorem foldl_eq_run {β : Type x} {f : β → α → β} {g : σ → β}
    (hstep : ∀ s a, g (M.step s a) = f (g s) a) (s : σ) (as : List α) :
    as.foldl f (g s) = g (M.run s as) := by
  induction as generalizing s with
  | nil => rfl
  | cons a as ih =>
    rw [List.foldl_cons, ← hstep]
    exact ih (M.step s a)

/-! ## Prefixes of a run -/

theorem run_append (s : σ) (as bs : List α) : M.run s (as ++ bs) = M.run (M.run s as) bs := by
  induction as generalizing s with
  | nil => rfl
  | cons a as ih => exact ih (M.step s a)

theorem along_append {s : σ} {as bs : List α} :
    M.Along C s (as ++ bs) ↔ M.Along C s as ∧ M.Along C (M.run s as) bs := by
  induction as generalizing s with
  | nil => exact ⟨fun h => ⟨trivial, h⟩, fun h => h.2⟩
  | cons a as ih =>
    constructor
    · rintro ⟨ha, h⟩
      exact ⟨⟨ha, (ih.1 h).1⟩, (ih.1 h).2⟩
    · rintro ⟨⟨ha, has⟩, hbs⟩
      exact ⟨ha, ih.2 ⟨has, hbs⟩⟩

theorem Along.of_isPrefix {s : σ} {as bs : List α} (h : M.Along C s bs)
    (hinitial : as <+: bs) : M.Along C s as := by
  obtain ⟨rest, rfl⟩ := hinitial
  exact (along_append.1 h).1

/-- **Detection rule**: if a step outside `D` always leads out of `P`, and no
state of the run is outside `P`, then every step of the run meets `D`. -/
theorem along_of_detected {I P : σ → Prop} {C D : σ → α → Prop}
    (hstep : ∀ s a, I s → C s a → D s a → I (M.step s a))
    (hdetect : ∀ s a, I s → C s a → ¬D s a → ¬P (M.step s a))
    {s : σ} {as : List α} (hs : I s) (has : M.Along C s as)
    (hP : ∀ before, before <+: as → P (M.run s before)) : M.Along D s as := by
  induction as generalizing s with
  | nil => trivial
  | cons a as ih =>
    have hD : D s a := by
      by_contra hbad
      exact hdetect s a hs has.1 hbad (hP [a] ⟨as, rfl⟩)
    refine ⟨hD, ih (hstep s a hs has.1 hD) has.2 ?_⟩
    rintro before ⟨rest, rfl⟩
    exact hP (a :: before) ⟨rest, rfl⟩

/-- **Exactness rule**: if every step under `D` keeps the invariant, and every
other step leads out of `P`, then `P` holds in every state of a run if and only
if every step of the run meets `D`. -/
theorem always_iff_along {I P : σ → Prop} {C D : σ → α → Prop} (hP : ∀ s, I s → P s)
    (hstep : ∀ s a, I s → C s a → D s a → I (M.step s a))
    (hdetect : ∀ s a, I s → C s a → ¬D s a → ¬P (M.step s a))
    {s : σ} {as : List α} (hs : I s) (has : M.Along C s as) :
    (∀ before, before <+: as → P (M.run s before)) ↔ M.Along D s as := by
  constructor
  · exact along_of_detected hstep hdetect hs has
  · intro hD before hinitial
    have hboth := (M.along_and has hD).of_isPrefix hinitial
    exact hP _ (run_invariant (fun s a hs h => hstep s a hs h.1 h.2) hs hboth)

/-! ## Observers -/

section Observe

variable {τ : Type w} {ε : Type x}

/-- The machine together with an observer that sees only the emitted events. -/
def observe (M : Machine σ α) (emit : σ → α → List ε) (see : τ → ε → τ) :
    Machine (σ × τ) α where
  Pre p a := M.Pre p.1 a
  step p a := (M.step p.1 a, (emit p.1 a).foldl see p.2)

variable {emit : σ → α → List ε} {see : τ → ε → τ}

/-- **Coupling rule**: a relation between machine and observer that every
step under `C` preserves, given an invariant of the machine, holds after
every run whose steps all meet `C`. -/
theorem run_coupled {R : σ → τ → Prop} {C : σ → α → Prop}
    (hinv : ∀ s a, I s → C s a → I (M.step s a))
    (hstep : ∀ s t a, I s → C s a → R s t →
      R (M.step s a) ((emit s a).foldl see t))
    {s : σ} {t : τ} {as : List α} (hs : I s) (hst : R s t)
    (has : M.Along C s as) :
    R (M.run s as) ((M.observe emit see).run (s, t) as).2 := by
  induction as generalizing s t with
  | nil => exact hst
  | cons a as ih => exact ih (hinv s a hs has.1) (hstep s t a hs has.1 hst) has.2

end Observe

end Machine

end Lib
