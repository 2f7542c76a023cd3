import ChromiumIos.Base.Ints
import ChromiumIos.Lib.Cursor

/-!
# `WebStateList`: the list and its queries

`web_state_list.mm`. A `WebStateList` owns a vector of wrappers, each holding a
`WebState` and the opener it was created from, and the index of the active one.

- `W` stands for `web::WebState*`: only the identity of a `WebState` matters
  here, so the type is a parameter with decidable equality.
- Indices are `int`s with `kInvalidIndex = -1`; `Lib.nth?` reads the vector at
  such an index.
- What a query needs from a `WebState` itself, the index of its last committed
  item, is a function argument.
-/

namespace ChromiumIos

open Lib

/-- `WebStateOpener`: the `WebState` another one was opened from, with the last
committed item index of that opener at the time. -/
structure WebStateOpener (W : Type) where
  opener : Option W
  navigationIndex : Int
deriving DecidableEq, Repr

/-- `WebStateOpener(nullptr)`. -/
def WebStateOpener.null {W : Type} : WebStateOpener W := ⟨none, -1⟩

/-- `WebStateList::WebStateWrapper`. -/
structure WebStateWrapper (W : Type) where
  webState : W
  opener : WebStateOpener W
deriving DecidableEq, Repr

namespace WebStateWrapper

variable {W : Type}

/-- A wrapper as its constructor leaves it: no opener. -/
def new (webState : W) : WebStateWrapper W := ⟨webState, .null⟩

/-- Replaces the wrapped `WebState` and clears the opener. -/
def replaceWebState (_ : WebStateWrapper W) (webState : W) : WebStateWrapper W :=
  ⟨webState, .null⟩

/-- Whether `opener` spawned the wrapped `WebState`; with `useGroup` the
navigation index has to match too. -/
def wasOpenedBy [DecidableEq W] (wrapper : WebStateWrapper W) (opener : W) (openerNavigationIndex : Int)
    (useGroup : Bool) : Bool :=
  if wrapper.opener.opener ≠ some opener then false
  else if !useGroup then true
  else wrapper.opener.navigationIndex == openerNavigationIndex

end WebStateWrapper

structure WebStateList (W : Type) where
  wrappers : List (WebStateWrapper W)
  activeIndex : Int
deriving DecidableEq, Repr

namespace WebStateList

variable {W : Type}

def kInvalidIndex : Int := -1

/-- The list as its constructor leaves it. -/
def new : WebStateList W := ⟨[], kInvalidIndex⟩

variable (l : WebStateList W)

def count : Int := l.wrappers.length

def empty : Bool := l.wrappers.isEmpty

/-- The `WebState`s in order. -/
def webStates : List W := l.wrappers.map (·.webState)

def ContainsIndex (index : Int) : Prop :=
  InRange l.wrappers.length index

instance (index : Int) : Decidable (l.ContainsIndex index) :=
  inferInstanceAs (Decidable (InRange _ _))

/-- `GetWebStateAt`, with `none` where its `DCHECK(ContainsIndex(index))`
fails. -/
def getWebStateAt (index : Int) : Option W := nth? l.webStates index

/-- `GetActiveWebState`; `none` is the null pointer. -/
def getActiveWebState : Option W :=
  if l.activeIndex ≠ kInvalidIndex then l.getWebStateAt l.activeIndex else none

/-- `GetOpenerOfWebStateAt`. -/
def getOpenerOfWebStateAt (index : Int) : WebStateOpener W :=
  match nth? l.wrappers index with
  | some wrapper => wrapper.opener
  | none => .null

section Search

variable [DecidableEq W]

/-- `GetIndexOfWebState`: the first position holding `webState`. -/
def getIndexOfWebState (l : WebStateList W) (webState : W) : Int :=
  match l.wrappers.findIdx? fun wrapper => wrapper.webState == webState with
  | some index => index
  | none => kInvalidIndex

/-- The loop of `GetIndexOfNthWebStateOpenedBy` over the wrappers from `index`
on; `foundIndex` and `n` are its local variables. -/
def nthOpenedByLoop (opener : W) (openerNavigationIndex : Int) (useGroup : Bool) :
    List (WebStateWrapper W) → (index foundIndex : Int) → (n : Nat) → Int
  | [], _, foundIndex, _ => foundIndex
  | _ :: _, _, foundIndex, 0 => foundIndex
  | wrapper :: rest, index, foundIndex, n + 1 =>
    if wrapper.wasOpenedBy opener openerNavigationIndex useGroup then
      nthOpenedByLoop opener openerNavigationIndex useGroup rest (index + 1) index n
    else if foundIndex ≠ kInvalidIndex then foundIndex
    else nthOpenedByLoop opener openerNavigationIndex useGroup rest (index + 1) foundIndex (n + 1)

/-- `GetIndexOfNthWebStateOpenedBy`; `lastCommittedItemIndex` is
`GetNavigationManager()->GetLastCommittedItemIndex()` of a `WebState`. -/
def getIndexOfNthWebStateOpenedBy (l : WebStateList W) (lastCommittedItemIndex : W → Int)
    (opener : Option W) (startIndex : Int) (useGroup : Bool) (n : Nat) : Int :=
  match opener with
  | none => kInvalidIndex
  | some opener =>
    if ¬ l.ContainsIndex startIndex ∨ startIndex = intMax then kInvalidIndex
    else
      nthOpenedByLoop opener (if useGroup then lastCommittedItemIndex opener else -1) useGroup
        (l.wrappers.drop (startIndex + 1).toNat) (startIndex + 1) kInvalidIndex n

/-- `GetIndexOfNextWebStateOpenedBy`. -/
def getIndexOfNextWebStateOpenedBy (l : WebStateList W) (lastCommittedItemIndex : W → Int)
    (opener : Option W) (startIndex : Int) (useGroup : Bool) : Int :=
  l.getIndexOfNthWebStateOpenedBy lastCommittedItemIndex opener startIndex useGroup 1

/-- `GetIndexOfLastWebStateOpenedBy`. -/
def getIndexOfLastWebStateOpenedBy (l : WebStateList W) (lastCommittedItemIndex : W → Int)
    (opener : Option W) (startIndex : Int) (useGroup : Bool) : Int :=
  l.getIndexOfNthWebStateOpenedBy lastCommittedItemIndex opener startIndex useGroup intMax.toNat

end Search

/-! ## What the queries return -/

@[simp] theorem length_webStates :
    l.webStates.length = l.wrappers.length := List.length_map _

theorem getWebStateAt_eq (index : Int) :
    l.getWebStateAt index = (nth? l.wrappers index).map (·.webState) :=
  nth?_map _ _ _

theorem getActiveWebState_eq : l.getActiveWebState = nth? l.webStates l.activeIndex := by
  rw [getActiveWebState]
  split
  · rfl
  · next h =>
    rw [Classical.not_not.1 h]
    exact (nth?_neg_one _).symm

/-- `GetIndexOfWebState` of a member is a position holding it. -/
theorem getIndexOfWebState_spec [DecidableEq W] {l : WebStateList W} {w : W}
    (h : w ∈ l.webStates) :
    l.ContainsIndex (l.getIndexOfWebState w) ∧
      l.getWebStateAt (l.getIndexOfWebState w) = some w := by
  obtain ⟨wrapper, hmem, hw⟩ := List.mem_map.1 h
  rw [getIndexOfWebState]
  cases hfind : l.wrappers.findIdx? (fun wrapper => wrapper.webState == w) with
  | none =>
    have := List.findIdx?_eq_none_iff.1 hfind wrapper hmem
    simp [hw] at this
  | some index =>
    obtain ⟨hlt, heq, -⟩ := List.findIdx?_eq_some_iff_getElem.1 hfind
    refine ⟨⟨Int.natCast_nonneg _, Int.ofNat_lt.2 hlt⟩, ?_⟩
    show l.getWebStateAt (index : Int) = some w
    rw [getWebStateAt_eq, nth?_natCast, List.getElem?_eq_getElem hlt, Option.map_some,
      beq_iff_eq.1 heq]

/-- `GetIndexOfWebState` of anything else is `kInvalidIndex`. -/
theorem getIndexOfWebState_of_not_mem [DecidableEq W] {l : WebStateList W} {w : W}
    (h : w ∉ l.webStates) : l.getIndexOfWebState w = kInvalidIndex := by
  have hfind : l.wrappers.findIdx? (fun wrapper => wrapper.webState == w) = none := by
    refine List.findIdx?_eq_none_iff.2 fun wrapper hmem => ?_
    exact beq_eq_false_iff_ne.2 fun hw => h (hw ▸ List.mem_map_of_mem hmem)
  rw [getIndexOfWebState, hfind]

theorem containsIndex_getIndexOfWebState [DecidableEq W] {l : WebStateList W} {w : W} :
    l.ContainsIndex (l.getIndexOfWebState w) ↔ w ∈ l.webStates := by
  constructor
  · intro h
    by_contra hw
    rw [getIndexOfWebState_of_not_mem hw] at h
    exact absurd h.1 (by decide)
  · exact fun h => (getIndexOfWebState_spec h).1

/-- What the search loop returns: the value it started with, or a later
position it looked at. -/
theorem nthOpenedByLoop_range [DecidableEq W] (opener : W) (openerNavigationIndex : Int)
    (useGroup : Bool) (rest : List (WebStateWrapper W)) (index foundIndex : Int) (n : Nat) :
    let result := nthOpenedByLoop opener openerNavigationIndex useGroup rest index foundIndex n
    result = foundIndex ∨ (index ≤ result ∧ result < index + rest.length) := by
  induction rest generalizing index foundIndex n with
  | nil => exact .inl rfl
  | cons wrapper rest ih =>
    cases n with
    | zero => exact .inl rfl
    | succ n =>
      rw [nthOpenedByLoop]
      simp only [List.length_cons]
      split
      · rcases ih (index + 1) index n with h | h <;> omega
      · split
        · exact .inl rfl
        · rcases ih (index + 1) foundIndex (n + 1) with h | h <;> omega

/-- A search for an opened `WebState` finds none or one after the start. -/
theorem getIndexOfNthWebStateOpenedBy_range [DecidableEq W] (l : WebStateList W)
    (lastCommittedItemIndex : W → Int) (opener : Option W) (startIndex : Int)
    (useGroup : Bool) (n : Nat) :
    let result := l.getIndexOfNthWebStateOpenedBy lastCommittedItemIndex opener startIndex
      useGroup n
    result = kInvalidIndex ∨ (startIndex < result ∧ result < l.count) := by
  cases opener with
  | none => exact .inl rfl
  | some opener =>
    rw [getIndexOfNthWebStateOpenedBy]
    split
    · exact .inl rfl
    · next hstart =>
      have hin : l.ContainsIndex startIndex := by
        by_contra h
        exact hstart (.inl h)
      obtain ⟨k, hk, rfl⟩ := hin.exists_nat
      rcases nthOpenedByLoop_range opener
        (if useGroup = true then lastCommittedItemIndex opener else -1) useGroup
        (l.wrappers.drop ((k : Int) + 1).toNat) (k + 1) kInvalidIndex n with h | h
      · exact .inl h
      · rw [List.length_drop] at h
        refine .inr ?_
        rw [count]
        omega

end WebStateList

end ChromiumIos
