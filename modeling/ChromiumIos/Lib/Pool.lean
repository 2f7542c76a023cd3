import Mathlib.Data.List.Nodup

/-!
# Pools

A vector that owns its elements, as `std::vector<std::unique_ptr<T>>` does: an
element keeps its number, which is never used again, while others come and go.

- `alloc` appends an element under a new number, `modify` writes to one and
  `remove` frees one. The numbers are in the order of the vector.
- `get?_alloc`, `get?_modify` and `get?_remove` say what is read afterwards.
-/

namespace Lib

open List

/-- Elements under distinct numbers, all smaller than the next number. -/
structure Pool (α : Type) where
  entries : List (Nat × α)
  next : Nat
  nodup : (entries.map (·.1)).Nodup
  lt_next : ∀ p ∈ entries.map (·.1), p < next

namespace Pool

variable {α : Type}

def empty : Pool α := ⟨[], 0, nodup_nil, fun _ h => absurd h not_mem_nil⟩

/-- The numbers, from the front to the back. -/
def pointers (pool : Pool α) : List Nat := pool.entries.map (·.1)

/-- The element under a number. -/
def get? (pool : Pool α) (p : Nat) : Option α := pool.entries.lookup p

def alloc (pool : Pool α) (a : α) : Pool α where
  entries := pool.entries ++ [(pool.next, a)]
  next := pool.next + 1
  nodup := by
    rw [map_append]
    refine pool.nodup.append (nodup_singleton _) ?_
    intro p hp hsingle
    rw [mem_singleton.1 hsingle] at hp
    exact Nat.lt_irrefl _ (pool.lt_next _ hp)
  lt_next := by
    intro p hp
    rw [map_append, mem_append] at hp
    rcases hp with hold | hsingle
    · exact Nat.lt_succ_of_lt (pool.lt_next p hold)
    · rw [mem_singleton.1 hsingle]
      exact Nat.lt_succ_self _

/-- One entry of a list that is modified under a number. -/
def modifyEntry (p : Nat) (f : α → α) (entry : Nat × α) : Nat × α :=
  (entry.1, if entry.1 = p then f entry.2 else entry.2)

theorem map_fst_modifyEntry (p : Nat) (f : α → α) (entries : List (Nat × α)) :
    (entries.map (modifyEntry p f)).map (·.1) = entries.map (·.1) := by
  rw [map_map]
  exact map_congr_left fun _ _ => rfl

def modify (pool : Pool α) (p : Nat) (f : α → α) : Pool α where
  entries := pool.entries.map (modifyEntry p f)
  next := pool.next
  nodup := by
    rw [map_fst_modifyEntry]
    exact pool.nodup
  lt_next := by
    rw [map_fst_modifyEntry]
    exact pool.lt_next

def remove (pool : Pool α) (p : Nat) : Pool α where
  entries := pool.entries.filter fun entry => entry.1 ≠ p
  next := pool.next
  nodup := pool.nodup.sublist (filter_sublist.map _)
  lt_next := fun q hq => pool.lt_next q ((filter_sublist.map _).subset hq)

variable (pool : Pool α)

@[simp] theorem pointers_modify (p : Nat) (f : α → α) :
    (pool.modify p f).pointers = pool.pointers :=
  map_fst_modifyEntry p f pool.entries

@[simp] theorem pointers_remove (p : Nat) :
    (pool.remove p).pointers = pool.pointers.filter (· ≠ p) := by
  rw [pointers, pointers, remove, filter_map]
  rfl

theorem pointers_nodup : pool.pointers.Nodup := pool.nodup

theorem isSome_get?_iff {pool : Pool α} {p : Nat} :
    (pool.get? p).isSome ↔ p ∈ pool.pointers := by
  rw [get?, pointers]
  induction pool.entries with
  | nil => simp
  | cons entry rest ih =>
    rw [lookup_cons, map_cons, mem_cons, ← ih]
    by_cases hp : p = entry.1
    · simp [hp]
    · simp [hp, beq_false_of_ne hp]

theorem mem_pointers_of_get? {pool : Pool α} {p : Nat} {a : α} (h : pool.get? p = some a) :
    p ∈ pool.pointers :=
  isSome_get?_iff.1 (Option.isSome_of_eq_some h)

theorem lt_next_of_get? {pool : Pool α} {p : Nat} {a : α} (h : pool.get? p = some a) :
    p < pool.next :=
  pool.lt_next p (mem_pointers_of_get? h)

@[simp] theorem get?_next : pool.get? pool.next = none := by
  cases h : pool.get? pool.next with
  | none => rfl
  | some a => exact absurd (lt_next_of_get? h) (Nat.lt_irrefl _)

@[simp] theorem get?_alloc (a : α) (p : Nat) :
    (pool.alloc a).get? p = if p = pool.next then some a else pool.get? p := by
  have hlookup : (pool.alloc a).get? p = (pool.get? p).or ([(pool.next, a)].lookup p) :=
    lookup_append
  rw [hlookup, lookup_cons, lookup_nil]
  by_cases hp : p = pool.next
  · simp [hp]
  · simp [hp, beq_false_of_ne hp]

/-- Writing to an element changes that element only. -/
@[simp] theorem get?_modify (p : Nat) (f : α → α) (q : Nat) :
    (pool.modify p f).get? q = if q = p then (pool.get? q).map f else pool.get? q := by
  have hlookup : ∀ entries : List (Nat × α), (entries.map (modifyEntry p f)).lookup q =
      if q = p then (entries.lookup q).map f else entries.lookup q := by
    intro entries
    induction entries with
    | nil => simp
    | cons entry rest ih =>
      rw [map_cons, lookup_cons, lookup_cons, modifyEntry, ih]
      by_cases hentry : q = entry.1
      · by_cases hp : entry.1 = p
        · simp [hentry, hp]
        · simp [hentry, hp]
      · rw [beq_false_of_ne hentry]
  exact hlookup pool.entries

/-- Removing an element frees that element only. -/
@[simp] theorem get?_remove (p q : Nat) :
    (pool.remove p).get? q = if q = p then none else pool.get? q := by
  have hlookup : ∀ entries : List (Nat × α),
      (entries.filter fun entry => decide (entry.1 ≠ p)).lookup q =
        if q = p then none else entries.lookup q := by
    intro entries
    induction entries with
    | nil => simp
    | cons entry rest ih =>
      rw [filter_cons, lookup_cons]
      by_cases hp : entry.1 = p
      · rw [if_neg (by simp [hp]), ih]
        by_cases hq : q = p
        · rw [if_pos hq, if_pos hq]
        · rw [if_neg hq, if_neg hq, hp, beq_false_of_ne hq]
      · rw [if_pos (by simp [hp]), lookup_cons, ih]
        by_cases hentry : q = entry.1
        · rw [hentry, if_neg hp, if_neg hp]
        · rw [beq_false_of_ne hentry]
  exact hlookup pool.entries

end Pool

end Lib
