/-!
# Keyed values

A store of values under keys, as a dictionary or a keyed archive is one.

- `set` puts a value under a key, in place of the one that was there.
- `addEntries` sets everything another store holds.
- `erase` removes a key.
- `get?_set` and `get?_erase` say what is read afterwards; `keys` are the keys
  that have a value.
-/

namespace Lib

/-- Values under keys, the one set last first. -/
structure Keyed (K V : Type) where
  entries : List (K × V)
deriving DecidableEq, Repr

namespace Keyed

variable {K V : Type}

def empty : Keyed K V := ⟨[]⟩

/-- Sets the value under `key`. -/
def set (m : Keyed K V) (key : K) (value : V) : Keyed K V := ⟨(key, value) :: m.entries⟩

/-- Sets every value of `other`. -/
def addEntries (m other : Keyed K V) : Keyed K V := ⟨other.entries ++ m.entries⟩

@[simp] theorem addEntries_empty (m : Keyed K V) : m.addEntries empty = m := rfl

variable [DecidableEq K] (m : Keyed K V)

/-- The value under `key`. -/
def get? (key : K) : Option V := m.entries.lookup key

/-- Whether there is a value under `key`. -/
def contains (key : K) : Bool := (m.get? key).isSome

@[simp] theorem get?_empty (key : K) : (empty : Keyed K V).get? key = none := rfl

/-- Setting a key changes that key only. -/
@[simp] theorem get?_set (key : K) (value : V) (other : K) :
    (m.set key value).get? other = if other = key then some value else m.get? other := by
  rw [get?, set, List.lookup_cons]
  by_cases h : other = key
  · simp [h]
  · have hbeq : (other == key) = false := beq_false_of_ne h
    simp [h, hbeq, get?]

/-- The entries of the other store come first. -/
theorem get?_addEntries (m other : Keyed K V) (key : K) :
    (m.addEntries other).get? key = (other.get? key).or (m.get? key) :=
  List.lookup_append

/-- Removes the value under `key`. -/
def erase (key : K) : Keyed K V := ⟨m.entries.filter fun entry => entry.1 ≠ key⟩

/-- Erasing a key changes that key only. -/
@[simp] theorem get?_erase (key other : K) :
    (m.erase key).get? other = if other = key then none else m.get? other := by
  rw [get?, get?, erase]
  induction m.entries with
  | nil => simp
  | cons entry rest ih =>
    rw [List.filter_cons, List.lookup_cons]
    by_cases hkey : entry.1 = key
    · have hne : ¬ other = key → (other == entry.1) = false := by
        intro h
        rw [hkey]
        exact beq_false_of_ne h
      rw [if_neg (by simp [hkey]), ih]
      by_cases h : other = key
      · rw [if_pos h, if_pos h]
      · rw [if_neg h, if_neg h, hne h]
    · rw [if_pos (by simp [hkey]), List.lookup_cons, ih]
      by_cases h : other = entry.1
      · rw [h, if_neg hkey, if_neg hkey]
      · rw [beq_false_of_ne h]

/-- Erasing keys one after the other. -/
theorem get?_foldl_erase (keys : List K) (other : K) :
    (keys.foldl erase m).get? other = if other ∈ keys then none else m.get? other := by
  induction keys generalizing m with
  | nil => rfl
  | cons key keys ih =>
    rw [List.foldl_cons, ih, get?_erase]
    by_cases hkey : other = key
    · simp [hkey]
    · simp [hkey]

/-! ## Keys -/

/-- The keys that have a value, as often as they were set. -/
def keys : List K := m.entries.map Prod.fst

@[simp] theorem mem_keys {m : Keyed K V} {key : K} : key ∈ m.keys ↔ m.get? key ≠ none := by
  rw [keys, get?, Option.ne_none_iff_isSome]
  induction m.entries with
  | nil => simp
  | cons entry rest ih =>
    rw [List.map_cons, List.mem_cons, ih, List.lookup_cons]
    by_cases h : key = entry.1
    · simp [h]
    · simp [h, beq_false_of_ne h]

instance decidableForallKey {p : K → Prop} [DecidablePred p] (m : Keyed K V) :
    Decidable (∀ key, m.get? key ≠ none → p key) :=
  decidable_of_iff (∀ key ∈ m.keys, p key) (forall_congr' fun _ => imp_congr_left mem_keys)

end Keyed

end Lib
