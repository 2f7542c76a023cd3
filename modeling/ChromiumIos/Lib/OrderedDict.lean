import Mathlib.Data.List.Nodup

/-!
# Dictionaries in insertion order

Values under keys, iterated in the order in which the keys were first set, as a
script object or an ordered dictionary is.

- `set` keeps the place of a key that is there, and appends a new one.
- `delete` removes a key.
- `get?_eq_some`: the entries are the values under the keys.
- `keys_set`, `keys_delete`, `get?_set`, `get?_delete`, `size_set` and
  `size_delete` say what each leaves.
- `get?_foldl_of_local`: changing one key after the other, each by itself.
-/

namespace Lib

open List Prod

/-- Values under distinct keys, the key set first in front. -/
structure OrderedDict (K V : Type) where
  entries : List (K × V)
  nodup : (entries.map fst).Nodup

namespace OrderedDict

variable {K V : Type}

def empty : OrderedDict K V := ⟨[], .nil⟩

/-- The keys, in the order of iteration. -/
def keys (d : OrderedDict K V) : List K := d.entries.map fst

def size (d : OrderedDict K V) : Nat := d.entries.length

theorem keys_nodup (d : OrderedDict K V) : d.keys.Nodup := d.nodup

@[simp] theorem length_keys (d : OrderedDict K V) : d.keys.length = d.size := length_map _

variable [DecidableEq K] (d : OrderedDict K V)

/-- The value under `key`. -/
def get? (key : K) : Option V := d.entries.lookup key

variable (key : K)

@[simp] theorem get?_empty : (empty : OrderedDict K V).get? key = none := rfl

theorem lookup_eq_none {entries : List (K × V)} {key : K} :
    entries.lookup key = none ↔ key ∉ entries.map fst := by
  induction entries with
  | nil => simp
  | cons entry rest ih =>
    rw [lookup_cons, map_cons, mem_cons, not_or, ← ih]
    by_cases h : key = entry.1
    · simp [h]
    · simp [h, beq_false_of_ne h]

@[simp] theorem mem_keys {d : OrderedDict K V} {key : K} : key ∈ d.keys ↔ d.get? key ≠ none := by
  rw [keys, get?, ne_eq, lookup_eq_none, not_not]

theorem lookup_eq_some {entries : List (K × V)} (hnodup : (entries.map fst).Nodup) {key : K}
    {value : V} : entries.lookup key = some value ↔ (key, value) ∈ entries := by
  induction entries with
  | nil => exact iff_of_false nofun not_mem_nil
  | cons entry rest ih =>
    obtain ⟨hentry, hrest⟩ := nodup_cons.1 hnodup
    rw [lookup_cons, mem_cons]
    by_cases h : key = entry.1
    · have hnot : (key, value) ∉ rest := fun hmem => hentry (h ▸ mem_map_of_mem hmem)
      rw [h, beq_self_eq_true, ← h]
      refine Option.some_inj.trans ((or_iff_left hnot).trans ⟨?_, ?_⟩).symm
      · exact fun heq => (congrArg snd heq).symm
      · exact fun heq => Prod.ext h heq.symm
    · have hne : (key, value) ≠ entry := fun heq => h (congrArg fst heq)
      rw [beq_false_of_ne h, or_iff_right hne]
      exact ih hrest

/-- The entries are the values under the keys. -/
theorem get?_eq_some {d : OrderedDict K V} {key : K} {value : V} :
    d.get? key = some value ↔ (key, value) ∈ d.entries :=
  lookup_eq_some d.nodup

/-! ## Setting a key -/

/-- Overwrites the value where the key is, and appends where it is not. -/
def setIn (key : K) (value : V) : List (K × V) → List (K × V)
  | [] => [(key, value)]
  | entry :: rest =>
    if entry.1 = key then (key, value) :: rest else entry :: setIn key value rest

variable (value : V) (entries : List (K × V))

theorem map_fst_setIn :
    (setIn key value entries).map fst =
      if key ∈ entries.map fst then entries.map fst
      else entries.map fst ++ [key] := by
  induction entries with
  | nil => simp [setIn]
  | cons entry rest ih =>
    rw [setIn]
    by_cases h : entry.1 = key
    · simp [h]
    · have hne : ¬key = entry.1 := fun heq => h heq.symm
      rw [if_neg h, map_cons, ih]
      have hcons : key ∈ (entry :: rest).map fst ↔ key ∈ rest.map fst := by
        rw [map_cons, mem_cons]
        exact or_iff_right hne
      by_cases hmem : key ∈ rest.map fst
      · rw [if_pos hmem, if_pos (hcons.2 hmem), map_cons]
      · rw [if_neg hmem, if_neg (mt hcons.1 hmem)]
        rfl

theorem nodup_setIn {entries : List (K × V)}
    (h : (entries.map fst).Nodup) : ((setIn key value entries).map fst).Nodup := by
  rw [map_fst_setIn]
  split
  · exact h
  · next hmem =>
    refine nodup_append.2 ⟨h, nodup_singleton key, ?_⟩
    rintro other hother _ hkey rfl
    exact hmem (mem_singleton.1 hkey ▸ hother)

theorem lookup_setIn (other : K) :
    (setIn key value entries).lookup other =
      if other = key then some value else entries.lookup other := by
  induction entries with
  | nil =>
    by_cases h : other = key
    · simp [setIn, h]
    · simp [setIn, lookup_cons, h, beq_false_of_ne h]
  | cons entry rest ih =>
    rw [setIn]
    by_cases hkey : entry.1 = key
    · rw [if_pos hkey, lookup_cons, lookup_cons, hkey]
      by_cases h : other = key
      · simp [h]
      · simp [h, beq_false_of_ne h]
    · rw [if_neg hkey, lookup_cons, lookup_cons, ih]
      by_cases h : other = entry.1
      · rw [h, if_neg hkey, if_neg hkey]
      · rw [beq_false_of_ne h]

/-- Sets the value under `key`. -/
def set (key : K) (value : V) : OrderedDict K V :=
  ⟨setIn key value d.entries, nodup_setIn key value d.nodup⟩

/-- Setting a key changes that key only. -/
@[simp] theorem get?_set (other : K) :
    (d.set key value).get? other = if other = key then some value else d.get? other :=
  lookup_setIn key value d.entries other

/-- Setting several keys, each to its own value. -/
theorem get?_foldl_set (f : K → V) (keys : List K) (d : OrderedDict K V) (key : K) :
    (keys.foldl (fun d key => d.set key (f key)) d).get? key =
      if key ∈ keys then some (f key) else d.get? key := by
  induction keys generalizing d with
  | nil => rfl
  | cons other keys ih =>
    rw [foldl_cons, ih, get?_set]
    by_cases hmem : key ∈ keys
    · rw [if_pos hmem, if_pos (mem_cons_of_mem other hmem)]
    · by_cases h : key = other
      · rw [if_neg hmem, if_pos h, if_pos (h ▸ mem_cons_self), h]
      · rw [if_neg hmem, if_neg h, if_neg fun hcons => (mem_cons.1 hcons).elim h hmem]

theorem keys_set :
    (d.set key value).keys = if d.get? key = none then d.keys ++ [key] else d.keys := by
  have hkeys : (d.set key value).keys = if key ∈ d.keys then d.keys else d.keys ++ [key] :=
    map_fst_setIn key value d.entries
  rw [hkeys]
  by_cases h : d.get? key = none
  · rw [if_pos h, if_neg (by rw [mem_keys]; exact not_not.2 h)]
  · rw [if_neg h, if_pos (mem_keys.2 h)]

/-- Setting a key counts once, however often it is set. -/
theorem size_set : (d.set key value).size = if d.get? key = none then d.size + 1 else d.size := by
  rw [← length_keys, keys_set]
  split
  · rw [length_append, length_keys, length_singleton]
  · exact length_keys d

/-- Sets the keys of another dictionary, in its order. -/
def update (d other : OrderedDict K V) : OrderedDict K V :=
  other.entries.foldl (fun d entry => d.set entry.1 entry.2) d

theorem mem_keys_set {d : OrderedDict K V} {key : K} {value : V} {other : K} :
    other ∈ (d.set key value).keys ↔ other = key ∨ other ∈ d.keys := by
  rw [mem_keys, mem_keys, get?_set]
  by_cases h : other = key
  · simp [h]
  · simp [h]

/-- An update keeps the keys and adds those of the other dictionary. -/
theorem mem_keys_update {d other : OrderedDict K V} {key : K} :
    key ∈ (d.update other).keys ↔ key ∈ d.keys ∨ key ∈ other.keys := by
  have hfoldl : ∀ (entries : List (K × V)) (d : OrderedDict K V),
      key ∈ (entries.foldl (fun d entry => d.set entry.1 entry.2) d).keys ↔
        key ∈ d.keys ∨ key ∈ entries.map fst := by
    intro entries
    induction entries with
    | nil => exact fun d => (or_iff_left not_mem_nil).symm
    | cons entry entries ih =>
      intro d
      rw [foldl_cons, ih, mem_keys_set, map_cons, mem_cons, or_comm (a := key = _),
        or_assoc]
  exact hfoldl other.entries d

/-! ## Deleting a key -/

theorem map_fst_filter :
    (entries.filter fun entry => entry.1 ≠ key).map fst =
      (entries.map fst).filter fun other => other ≠ key := by
  rw [filter_map]
  rfl

theorem lookup_filter (other : K) :
    (entries.filter fun entry => entry.1 ≠ key).lookup other =
      if other = key then none else entries.lookup other := by
  induction entries with
  | nil => simp
  | cons entry rest ih =>
    rw [filter_cons, lookup_cons]
    by_cases hkey : entry.1 = key
    · rw [if_neg (by simp [hkey]), ih]
      by_cases h : other = key
      · rw [if_pos h, if_pos h]
      · rw [if_neg h, if_neg h, beq_false_of_ne (hkey ▸ h)]
    · rw [if_pos (by simp [hkey]), lookup_cons, ih]
      by_cases h : other = entry.1
      · rw [h, if_neg hkey, if_neg hkey]
      · rw [beq_false_of_ne h]

/-- Removes the value under `key`. -/
def delete (key : K) : OrderedDict K V :=
  ⟨d.entries.filter fun entry => entry.1 ≠ key, by
    rw [map_fst_filter]
    exact d.nodup.filter _⟩

theorem keys_delete : (d.delete key).keys = d.keys.erase key := by
  rw [d.keys_nodup.erase_eq_filter key]
  refine (map_fst_filter key d.entries).trans (filter_congr fun other _ => ?_)
  by_cases h : other = key
  · simp [h]
  · simp [h]

/-- Deleting a key changes that key only. -/
@[simp] theorem get?_delete (key other : K) :
    (d.delete key).get? other = if other = key then none else d.get? other :=
  lookup_filter key d.entries other

theorem mem_keys_delete {d : OrderedDict K V} {key other : K} :
    other ∈ (d.delete key).keys ↔ other ≠ key ∧ other ∈ d.keys := by
  rw [mem_keys, mem_keys, get?_delete]
  by_cases h : other = key
  · simp [h]
  · simp [h]

/-- Deleting a key that is there takes one away. -/
theorem size_delete {d : OrderedDict K V} {key : K} (h : d.get? key ≠ none) :
    (d.delete key).size + 1 = d.size := by
  have hmem : key ∈ d.keys := mem_keys.2 h
  have hpos : 0 < d.keys.length := length_pos_of_mem hmem
  rw [← length_keys, keys_delete, length_erase_of_mem hmem, ← length_keys]
  omega

/-- Deleting several keys. -/
theorem get?_foldl_delete (keys : List K) (d : OrderedDict K V) (key : K) :
    (keys.foldl delete d).get? key = if key ∈ keys then none else d.get? key := by
  induction keys generalizing d with
  | nil => rfl
  | cons other keys ih =>
    rw [foldl_cons, ih, get?_delete]
    by_cases h : key = other
    · simp [h]
    · simp [h]

/-! ## One key after the other -/

/-- Changing the values under several keys, each from its own old one. -/
theorem get?_foldl_of_local {f : OrderedDict K V → K → OrderedDict K V} {g : Option V → Option V}
    (hf : ∀ d key other,
      (f d key).get? other = if other = key then g (d.get? key) else d.get? other)
    {keys : List K} (hnodup : keys.Nodup) (d : OrderedDict K V) (key : K) :
    (keys.foldl f d).get? key = if key ∈ keys then g (d.get? key) else d.get? key := by
  induction keys generalizing d with
  | nil => rfl
  | cons other keys ih =>
    obtain ⟨hother, hkeys⟩ := nodup_cons.1 hnodup
    rw [foldl_cons, ih hkeys, hf]
    by_cases h : key = other
    · rw [if_neg (h ▸ hother), if_pos h, if_pos (h ▸ mem_cons_self), h]
    · have hcons : key ∈ other :: keys ↔ key ∈ keys := mem_cons.trans (or_iff_right h)
      rw [if_neg h, if_congr hcons rfl rfl]

/-- Dictionaries with the same keys have the same size. -/
theorem size_congr {d d' : OrderedDict K V}
    (h : ∀ key, d.get? key = none ↔ d'.get? key = none) : d.size = d'.size := by
  have hperm : d.keys.Perm d'.keys := by
    refine (perm_ext_iff_of_nodup d.keys_nodup d'.keys_nodup).2 fun key => ?_
    rw [mem_keys, mem_keys]
    exact not_congr (h key)
  rw [← length_keys, ← length_keys, hperm.length_eq]

theorem size_eq_zero {d : OrderedDict K V} : d.size = 0 ↔ ∀ key, d.get? key = none := by
  rw [← length_keys, length_eq_zero_iff, eq_nil_iff_forall_not_mem]
  exact forall_congr' fun key => by rw [mem_keys, not_not]

end OrderedDict

end Lib
