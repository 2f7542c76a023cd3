import Mathlib.Data.List.Chain

/-!
# Loops

A *loop* goes from state to state, round by round, until a round ends it with a result.

- `rounds`, `Ends`: the result within some rounds, or at all. There is at most one.
- `rounds_found`, `rounds_missed`: a loop that goes along a list of states ends at the first hit, or
  with the list.
- `exists_ends_of_variant`: a loop whose rounds keep an invariant and go down in a variant ends.
- `not_ends_of_invariant`: a loop that can always go on does not end.
-/

namespace Lib

universe u v

/-- One round: the result that ends the loop, or the state it goes on with. -/
abbrev Loop (σ : Type u) (ρ : Type v) := σ → ρ ⊕ σ

namespace Loop

variable {σ : Type u} {ρ : Type v} (round : Loop σ ρ)

/-- The result, if there is one within `n` rounds. -/
def rounds : Nat → σ → Option ρ
  | 0, _ => none
  | n + 1, s =>
    match round s with
    | .inl result => some result
    | .inr next => rounds n next

/-- The loop ends with this result. -/
def Ends (s : σ) (result : ρ) : Prop := ∃ n, rounds round n s = some result

variable {round} {s next : σ} {result : ρ}

theorem rounds_inl (h : round s = .inl result) (n : Nat) :
    rounds round (n + 1) s = some result := by
  rw [rounds, h]

theorem rounds_inr (h : round s = .inr next) (n : Nat) :
    rounds round (n + 1) s = rounds round n next := by
  rw [rounds, h]

/-- More rounds do not change the result. -/
theorem rounds_mono {n m : Nat} (hle : n ≤ m) (h : rounds round n s = some result) :
    rounds round m s = some result := by
  induction n generalizing s m with
  | zero => cases h
  | succ n ih =>
    obtain ⟨m, rfl⟩ := Nat.exists_eq_add_of_le' (Nat.le_trans (Nat.le_add_left 1 n) hle)
    cases hround : round s with
    | inl r =>
      rw [rounds_inl hround] at h ⊢
      exact h
    | inr next =>
      rw [rounds_inr hround] at h ⊢
      exact ih (Nat.le_of_succ_le_succ hle) h

theorem Ends.unique {result' : ρ} (h : Ends round s result) (h' : Ends round s result') :
    result = result' := by
  obtain ⟨n, hn⟩ := h
  obtain ⟨m, hm⟩ := h'
  have hmax := rounds_mono (Nat.le_max_left n m) hn
  rw [rounds_mono (Nat.le_max_right n m) hm] at hmax
  exact (Option.some.inj hmax).symm

theorem ends_inl_iff {result' : ρ} (h : round s = .inl result) :
    Ends round s result' ↔ result' = result := by
  have hends : Ends round s result := ⟨1, rounds_inl h 0⟩
  constructor
  · exact fun hends' => hends'.unique hends
  · rintro rfl
    exact hends

theorem ends_inr_iff (h : round s = .inr next) : Ends round s result ↔ Ends round next result := by
  constructor
  · rintro ⟨n, hn⟩
    cases n with
    | zero => cases hn
    | succ n => exact ⟨n, (rounds_inr h n).symm.trans hn⟩
  · rintro ⟨n, hn⟩
    exact ⟨n + 1, (rounds_inr h n).trans hn⟩

section Along

variable {hit : σ → Bool} {states : List σ}

/-- The loop goes from each state of the list to the next one, and ends where it is hit. -/
theorem rounds_found {u : σ} (hu : states.find? hit = some u) (hfound : round u = .inl result)
    (hnext : states.IsChain fun t t' => hit t = false → round t = .inr t') :
    ∀ t ∈ states.head?, rounds round states.length t = some result := by
  induction states with
  | nil => cases hu
  | cons t states ih =>
    intro _ ht
    obtain rfl := Option.some.inj ht
    cases hhit : hit t with
    | true =>
      rw [List.find?_cons_of_pos hhit] at hu
      obtain rfl := Option.some.inj hu
      exact rounds_inl hfound _
    | false =>
      rw [List.find?_cons_of_neg (by simp [hhit])] at hu
      cases states with
      | nil => cases hu
      | cons t' states =>
        obtain ⟨hround, hnext⟩ := List.isChain_cons_cons.1 hnext
        rw [List.length_cons, rounds_inr (hround hhit)]
        exact ih hu hnext t' rfl

/-- The loop goes along the list without a hit, and ends with it. -/
theorem rounds_missed (hnone : ∀ t ∈ states, hit t = false)
    (hmissed : ∀ t ∈ states.getLast?, round t = .inl result)
    (hnext : states.IsChain fun t t' => hit t = false → round t = .inr t') :
    ∀ t ∈ states.head?, rounds round states.length t = some result := by
  induction states with
  | nil => simp
  | cons t states ih =>
    intro _ ht
    obtain rfl := Option.some.inj ht
    obtain ⟨hhit, hnone⟩ := List.forall_mem_cons.1 hnone
    cases states with
    | nil => exact rounds_inl (hmissed t rfl) _
    | cons t' states =>
      obtain ⟨hround, hnext⟩ := List.isChain_cons_cons.1 hnext
      rw [List.length_cons, rounds_inr (hround hhit)]
      exact ih hnone (fun v hv => hmissed v (by rwa [List.getLast?_cons_cons])) hnext t' rfl

end Along

/-- **Variant rule**: a loop that keeps `I`, goes down in the variant in every round, and only ends
with a result that meets `Q`, ends with such a result. -/
theorem exists_ends_of_variant {I : σ → Prop} {Q : ρ → Prop} (variant : σ → Nat)
    (hround : ∀ t, I t → (∃ r, round t = .inl r ∧ Q r) ∨
      ∃ t', round t = .inr t' ∧ I t' ∧ variant t' < variant t)
    (hs : I s) : ∃ r, Ends round s r ∧ Q r := by
  induction hn : variant s using Nat.strong_induction_on generalizing s with
  | _ n ih =>
    rcases hround s hs with ⟨r, hr, hQ⟩ | ⟨t, ht, hI, hlt⟩
    · exact ⟨r, ⟨1, rounds_inl hr 0⟩, hQ⟩
    · obtain ⟨r, ⟨m, hm⟩, hQ⟩ := ih _ (hn ▸ hlt) hI rfl
      exact ⟨r, ⟨m + 1, (rounds_inr ht m).trans hm⟩, hQ⟩

/-- A loop that keeps `I`, and goes on where `I` holds, does not end. -/
theorem not_ends_of_invariant {I : σ → Prop} (hround : ∀ t, I t → ∃ t', round t = .inr t' ∧ I t')
    (hs : I s) : ¬Ends round s result := by
  rintro ⟨n, hn⟩
  induction n generalizing s with
  | zero => cases hn
  | succ n ih =>
    obtain ⟨t', hnext, ht'⟩ := hround s hs
    rw [rounds_inr hnext] at hn
    exact ih ht' hn

end Loop

end Lib
