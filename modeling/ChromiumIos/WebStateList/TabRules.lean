import ChromiumIos.WebStateList.Invariant

/-!
# Where a child goes and which tab is next

The rules behind `WebStateListOrderController`, in terms of the tabs and not of their indices.

- `childPlace`: how many of the tabs behind an opener come before its new child.
  `appendWebState_place` says that `AppendWebState` follows it.
- `nextActive`: the tab that becomes active when another one is removed.
  `detachWebStateAt_nextActive_iff` says when `DetachWebStateAt` chooses it.
-/

namespace ChromiumIos

open Lib List

namespace WebStateList

variable {W : Type} [DecidableEq W]

/-! ## The search for opened tabs -/

/-- The run that a search has come to is followed to its end. -/
theorem nthOpenedByLoop_run (opener : W) (openerNavigationIndex : Int) (useGroup : Bool)
    {rest : List (WebStateWrapper W)} {foundIndex : Int} {n : Nat} (hfound : 0 ≤ foundIndex)
    (hn : rest.length ≤ n) :
    nthOpenedByLoop opener openerNavigationIndex useGroup rest (foundIndex + 1) foundIndex n =
      foundIndex +
        (rest.takeWhile (·.wasOpenedBy opener openerNavigationIndex useGroup)).length := by
  induction rest generalizing foundIndex n with
  | nil => simp [nthOpenedByLoop]
  | cons wrapper rest ih =>
    obtain ⟨n, rfl⟩ : ∃ m, n = m + 1 := ⟨n - 1, by rw [length_cons] at hn; omega⟩
    rw [length_cons] at hn
    rw [nthOpenedByLoop]
    by_cases hopened : wrapper.wasOpenedBy opener openerNavigationIndex useGroup = true
    · rw [if_pos hopened, ih (by omega) (by omega), takeWhile_cons, if_pos hopened,
        length_cons]
      omega
    · have hne : foundIndex ≠ kInvalidIndex := by
        rw [kInvalidIndex]
        omega
      rw [if_neg hopened, if_pos hne, takeWhile_cons, if_neg hopened]
      simp

/-- The first run of tabs that `opened` holds of. -/
def firstRun (opened : WebStateWrapper W → Bool) (following : List (WebStateWrapper W)) :
    List (WebStateWrapper W) :=
  (following.dropWhile (!opened ·)).takeWhile opened

/-- How many of the tabs behind an opener come before its new child: those up to the end of the
first run, none if there is no run. -/
def childPlace (opened : WebStateWrapper W → Bool) (following : List (WebStateWrapper W)) : Nat :=
  if firstRun opened following = [] then 0
  else (following.takeWhile (!opened ·)).length + (firstRun opened following).length

/-- `GetIndexOfLastWebStateOpenedBy`: the last tab of the first run. -/
theorem nthOpenedByLoop_last (opener : W) (openerNavigationIndex : Int) (useGroup : Bool)
    {rest : List (WebStateWrapper W)} {index : Int} {n : Nat} (hindex : 0 ≤ index)
    (hn : rest.length ≤ n) :
    nthOpenedByLoop opener openerNavigationIndex useGroup rest index kInvalidIndex n =
      if firstRun (·.wasOpenedBy opener openerNavigationIndex useGroup) rest = [] then
        kInvalidIndex
      else
        index + childPlace (·.wasOpenedBy opener openerNavigationIndex useGroup) rest - 1 := by
  induction rest generalizing index n with
  | nil => rfl
  | cons wrapper rest ih =>
    obtain ⟨n, rfl⟩ : ∃ m, n = m + 1 := ⟨n - 1, by rw [length_cons] at hn; omega⟩
    rw [length_cons] at hn
    rw [nthOpenedByLoop]
    by_cases hopened : wrapper.wasOpenedBy opener openerNavigationIndex useGroup = true
    · -- the run begins here
      have hrun : firstRun (·.wasOpenedBy opener openerNavigationIndex useGroup)
          (wrapper :: rest) = wrapper ::
            rest.takeWhile (·.wasOpenedBy opener openerNavigationIndex useGroup) := by
        rw [firstRun, dropWhile_cons, if_neg (by simp [hopened]),
          takeWhile_cons, if_pos hopened]
      rw [if_pos hopened, nthOpenedByLoop_run _ _ _ hindex (by omega), childPlace, hrun,
        if_neg (cons_ne_nil _ _), if_neg (cons_ne_nil _ _),
        takeWhile_cons, if_neg (by simp [hopened]), length_cons, length_nil]
      omega
    · have hrun : firstRun (·.wasOpenedBy opener openerNavigationIndex useGroup)
          (wrapper :: rest) = firstRun (·.wasOpenedBy opener openerNavigationIndex useGroup)
            rest := by
        rw [firstRun, dropWhile_cons, if_pos (by simp [hopened]), firstRun]
      rw [if_neg hopened, if_neg (fun h => h rfl), ih (by omega) (by omega), childPlace, childPlace,
        hrun]
      by_cases hnone : firstRun (·.wasOpenedBy opener openerNavigationIndex useGroup) rest = []
      · rw [if_pos hnone, if_pos hnone]
      · rw [if_neg hnone, if_neg hnone, if_neg hnone, if_neg hnone, takeWhile_cons,
          if_pos (by simp [hopened]), length_cons]
        omega

/-- `GetIndexOfNextWebStateOpenedBy`: the first tab that was opened. -/
theorem nthOpenedByLoop_next (opener : W) (openerNavigationIndex : Int) (useGroup : Bool)
    (rest : List (WebStateWrapper W)) (index : Int) :
    nthOpenedByLoop opener openerNavigationIndex useGroup rest index kInvalidIndex 1 =
      match rest.findIdx? (·.wasOpenedBy opener openerNavigationIndex useGroup) with
      | none => kInvalidIndex
      | some k => index + k := by
  induction rest generalizing index with
  | nil => rfl
  | cons wrapper rest ih =>
    rw [nthOpenedByLoop, findIdx?_cons]
    by_cases hopened : wrapper.wasOpenedBy opener openerNavigationIndex useGroup = true
    · rw [if_pos hopened, if_pos hopened]
      cases rest with
      | nil => simp [nthOpenedByLoop]
      | cons next rest => simp [nthOpenedByLoop]
    · rw [if_neg hopened, if_neg hopened, if_neg (fun h => h rfl), ih]
      cases rest.findIdx? (·.wasOpenedBy opener openerNavigationIndex useGroup) with
      | none => rfl
      | some k =>
        show index + 1 + (k : Int) = index + ((k + 1 : Nat) : Int)
        omega

variable {l : WebStateList W}

/-- `GetIndexOfWebState` of a member, as its position. -/
theorem getIndexOfWebState_eq_idxOf {w : W} (h : w ∈ l.webStates) :
    l.getIndexOfWebState w = l.webStates.idxOf w := by
  obtain ⟨wrapper, hmem, hw⟩ := mem_map.1 h
  have hfind : l.wrappers.findIdx? (fun wrapper => wrapper.webState == w) =
      some (l.wrappers.findIdx fun wrapper => wrapper.webState == w) :=
    findIdx?_eq_some_of_exists ⟨wrapper, hmem, beq_iff_eq.2 hw⟩
  rw [getIndexOfWebState, hfind, webStates, idxOf, findIdx_map]
  rfl

/-- The search from a tab of the list is the loop over the tabs behind it. -/
theorem getIndexOfNthWebStateOpenedBy_eq (hcount : l.count ≤ intMax)
    (lastCommittedItemIndex : W → Int) (opener : W) {i : Nat} (hi : i < l.wrappers.length)
    (useGroup : Bool) (n : Nat) :
    l.getIndexOfNthWebStateOpenedBy lastCommittedItemIndex (some opener) i useGroup n =
      nthOpenedByLoop opener (if useGroup then lastCommittedItemIndex opener else -1) useGroup
        (l.wrappers.drop (i + 1)) (i + 1) kInvalidIndex n := by
  have hin : l.ContainsIndex (i : Int) := ⟨Int.natCast_nonneg _, Int.ofNat_lt.2 hi⟩
  have hne : (i : Int) ≠ intMax := by
    rw [count] at hcount
    omega
  rw [getIndexOfNthWebStateOpenedBy]
  exact if_neg fun h => h.elim (fun h => h hin) hne

/-! ## Where a child goes -/

/-- The wrappers behind a `WebState`. -/
def behind (l : WebStateList W) (w : W) : List (WebStateWrapper W) :=
  l.wrappers.drop (l.webStates.idxOf w + 1)

/-- The position of an appended tab. -/
def placeOf (l : WebStateList W) (lastCommittedItemIndex : W → Int) (transition : PageTransition)
    (opener : Option W) : Nat :=
  match opener with
  | none => l.wrappers.length
  | some opener =>
    if transition.coreTypeIs .link then
      l.webStates.idxOf opener + 1 +
        childPlace (·.wasOpenedBy opener (lastCommittedItemIndex opener) true) (l.behind opener)
    else l.wrappers.length

omit [DecidableEq W] in
theorem childPlace_le (opened : WebStateWrapper W → Bool) (following : List (WebStateWrapper W)) :
    childPlace opened following ≤ following.length := by
  rw [childPlace]
  split
  · exact Nat.zero_le _
  · have hrun := (List.takeWhile_prefix opened (l := following.dropWhile (!opened ·))).length_le
    have hall := congrArg List.length (takeWhile_append_dropWhile
      (p := (!opened ·)) (l := following))
    rw [length_append] at hall
    rw [firstRun]
    omega

theorem placeOf_le (lastCommittedItemIndex : W → Int)
    (transition : PageTransition) {opener : Option W} (hopener : ∀ o ∈ opener, o ∈ l.webStates) :
    l.placeOf lastCommittedItemIndex transition opener ≤ l.wrappers.length := by
  cases opener with
  | none => exact Nat.le_refl _
  | some o =>
    rw [placeOf]
    split
    · have hidx := idxOf_lt_length_of_mem (hopener o rfl)
      have hplace := childPlace_le (·.wasOpenedBy o (lastCommittedItemIndex o) true) (l.behind o)
      rw [length_webStates] at hidx
      rw [behind, length_drop] at hplace
      rw [behind]
      omega
    · exact Nat.le_refl _

/-- **`DetermineInsertionIndex`** is the place of the child. -/
theorem determineInsertionIndex_eq (hcount : l.count ≤ intMax)
    (lastCommittedItemIndex : W → Int) (transition : PageTransition) {opener : Option W}
    (hopener : ∀ o ∈ opener, o ∈ l.webStates) :
    l.determineInsertionIndex lastCommittedItemIndex transition opener =
      l.placeOf lastCommittedItemIndex transition opener := by
  cases opener with
  | none => rfl
  | some o =>
    rw [determineInsertionIndex, placeOf]
    by_cases hlink : transition.coreTypeIs .link = true
    · have hidx := idxOf_lt_length_of_mem (hopener o rfl)
      rw [length_webStates] at hidx
      have hlength : (l.behind o).length ≤ intMax.toNat := by
        rw [count] at hcount
        rw [behind, length_drop]
        omega
      rw [if_neg (by simp [hlink]), if_pos hlink]
      simp only [getIndexOfWebState_eq_idxOf (hopener o rfl), getIndexOfLastWebStateOpenedBy,
        getIndexOfNthWebStateOpenedBy_eq hcount lastCommittedItemIndex o hidx, if_true]
      rw [← behind, nthOpenedByLoop_last o _ true (by omega) hlength]
      by_cases hnone : firstRun (·.wasOpenedBy o (lastCommittedItemIndex o) true) (l.behind o) = []
      · rw [if_pos hnone, if_neg (fun h => h rfl), childPlace, if_pos hnone]
        rfl
      · rw [if_neg hnone, if_pos]
        · omega
        · rw [kInvalidIndex, childPlace, if_neg hnone]
          omega
    · rw [if_pos (by simp [hlink]), if_neg hlink]
      rfl

/-- **A child goes behind the first run of its siblings**, with its opener, and the other tabs
stay in their order. Any other tab goes to the end. -/
theorem appendWebState_place (l : WebStateList W) (hcount : l.count ≤ intMax)
    (lastCommittedItemIndex : W → Int) (transition : PageTransition) (webState : W)
    (opener : WebStateOpener W) (hopener : ∀ o ∈ opener.opener, o ∈ l.webStates) :
    let appended := (l.appendWebState lastCommittedItemIndex transition webState opener).list
    let place := l.placeOf lastCommittedItemIndex transition opener.opener
    appended.wrappers = l.wrappers.insertIdx place
        ⟨webState, if opener.opener = none then .null else opener⟩ ∧
      appended.webStates.eraseIdx place = l.webStates ∧
      appended.getWebStateAt place = some webState ∧
      (appended.getOpenerOfWebStateAt place).opener = opener.opener := by
  intro appended place
  have hle : place ≤ l.wrappers.length := placeOf_le lastCommittedItemIndex transition hopener
  have hindex := determineInsertionIndex_eq hcount lastCommittedItemIndex transition hopener
  have hinserted : (if (place : Int) < 0 ∨ l.count < place then l.count else (place : Int)) =
      place := by
    refine if_neg fun h => ?_
    rw [count] at h
    omega
  have hwrappers : appended.wrappers = l.wrappers.insertIdx place
      ⟨webState, if opener.opener = none then .null else opener⟩ := by
    show (l.appendWebState lastCommittedItemIndex transition webState opener).list.wrappers = _
    rw [appendWebState]
    simp only [hindex]
    rw [hinserted]
    by_cases hnone : opener.opener = none
    · rw [if_neg (fun h => h hnone), if_pos hnone]
      rfl
    · rw [if_pos hnone, if_neg hnone]
      show (l.wrappers.insertIdx place (.new webState)).modify place _ = _
      rw [modify_insertIdx_self]
      rfl
  have hat : nth? appended.wrappers place =
      some ⟨webState, if opener.opener = none then .null else opener⟩ := by
    rw [hwrappers]
    exact nth?_insertIdx_self hle _
  refine ⟨hwrappers, ?_, ?_, ?_⟩
  · rw [webStates, hwrappers, map_insertIdx, eraseIdx_insertIdx_self]
    rfl
  · rw [getWebStateAt_eq, hat]
    rfl
  · rw [getOpenerOfWebStateAt, hat]
    show (if opener.opener = none then WebStateOpener.null else opener).opener = opener.opener
    by_cases hnone : opener.opener = none
    · rw [if_pos hnone, hnone]
      rfl
    · rw [if_neg hnone]

/-- The opener of a family: its first run of children is the tab behind it, and a last one follows
behind a stranger. -/
def family : WebStateList Nat :=
  ⟨[.new 0, ⟨1, ⟨some 0, 3⟩⟩, .new 2, ⟨4, ⟨some 0, 3⟩⟩], 0⟩

theorem appendWebState_place_family :
    (family.appendWebState (fun _ => 3) .link 5 ⟨some 0, 3⟩).list.webStates.eraseIdx 2 =
        [0, 1, 2, 4] ∧
      (family.appendWebState (fun _ => 3) .link 5 ⟨some 0, 3⟩).list.getWebStateAt 2 = some 5 := by
  obtain ⟨-, herase, hat, -⟩ := appendWebState_place family (by decide) (fun _ => 3) .link 5
    ⟨some 0, 3⟩ (by decide)
  exact ⟨herase, hat⟩

/-! ## Which tab is next -/

/-- A tab opened by `opener`. -/
def openedBy (opener : W) (wrapper : WebStateWrapper W) : Bool :=
  wrapper.opener.opener = some opener

/-- The tab that becomes active when the one at `i` is removed: its first child behind it, else
its next sibling behind it, else its opener. Without children and opener it is the next tab, or
the one before if there is none. -/
def nextActive (l : WebStateList W) (i : Nat) : Option W :=
  match l.wrappers[i]? with
  | none => none
  | some removed =>
    match (l.wrappers.drop (i + 1)).find? (openedBy removed.webState) with
    | some child => some child.webState
    | none =>
      match removed.opener.opener with
      | some opener =>
        match (l.wrappers.drop (i + 1)).find? (openedBy opener) with
        | some sibling => some sibling.webState
        | none => some opener
      | none =>
        if i + 1 < l.wrappers.length then l.webStates[i + 1]?
        else if i = 0 then none
        else l.webStates[i - 1]?

/-- The position of the child, sibling or opener that becomes active. -/
def relatedIndex (l : WebStateList W) (i : Nat) : Option Nat :=
  match l.wrappers[i]? with
  | none => none
  | some removed =>
    match (l.wrappers.drop (i + 1)).findIdx? (openedBy removed.webState) with
    | some k => some (i + 1 + k)
    | none =>
      match removed.opener.opener with
      | some opener =>
        match (l.wrappers.drop (i + 1)).findIdx? (openedBy opener) with
        | some k => some (i + 1 + k)
        | none => some (l.webStates.idxOf opener)
      | none => none

theorem wasOpenedBy_eq_openedBy (opener : W) :
    (fun wrapper : WebStateWrapper W => wrapper.wasOpenedBy opener (-1) false) =
      openedBy opener := by
  funext wrapper
  rw [WebStateWrapper.wasOpenedBy, openedBy]
  by_cases h : wrapper.opener.opener = some opener
  · rw [if_neg (fun hne => hne h), decide_eq_true h]
    rfl
  · rw [if_pos h, decide_eq_false h]

theorem getIndexOfNextWebStateOpenedBy_eq (hcount : l.count ≤ intMax)
    (opener : W) {i : Nat} (hi : i < l.wrappers.length) :
    l.getIndexOfNextWebStateOpenedBy (fun _ => -1) (some opener) i false =
      match (l.wrappers.drop (i + 1)).findIdx? (openedBy opener) with
      | none => kInvalidIndex
      | some k => ((i + 1 + k : Nat) : Int) := by
  rw [getIndexOfNextWebStateOpenedBy, getIndexOfNthWebStateOpenedBy_eq hcount _ _ hi,
    if_neg Bool.false_ne_true, nthOpenedByLoop_next, wasOpenedBy_eq_openedBy]
  cases (l.wrappers.drop (i + 1)).findIdx? (openedBy opener) with
  | none => rfl
  | some k => exact (by omega : ((i : Int) + 1 + k = ((i + 1 + k : Nat) : Int)))

omit [DecidableEq W] in
/-- What is found behind a tab, by its position. -/
theorem find?_drop_eq {i k : Nat} {opened : WebStateWrapper W → Bool}
    (h : (l.wrappers.drop (i + 1)).findIdx? opened = some k) :
    ∃ wrapper, (l.wrappers.drop (i + 1)).find? opened = some wrapper ∧
      l.webStates[i + 1 + k]? = some wrapper.webState := by
  obtain ⟨hk, hopened, hfirst⟩ := findIdx?_eq_some_iff_getElem.1 h
  refine ⟨(l.wrappers.drop (i + 1))[k], ?_, ?_⟩
  · exact find?_eq_some_iff_getElem.2 ⟨hopened, k, hk, rfl, fun j hj => by
      have := hfirst j hj
      simpa using this⟩
  · rw [webStates, getElem?_map, getElem_drop, getElem?_eq_getElem]
    rfl

omit [DecidableEq W] in
theorem find?_eq_none_of_findIdx? {wrappers : List (WebStateWrapper W)}
    {opened : WebStateWrapper W → Bool} (h : wrappers.findIdx? opened = none) :
    wrappers.find? opened = none :=
  find?_eq_none.2 fun wrapper hmem =>
    Bool.eq_false_iff.1 (findIdx?_eq_none_iff.1 h wrapper hmem)

/-- `DetermineNewActiveIndex`: the position of the related tab, made an index of the list without
the removed one, or an index beside the removed one. -/
theorem determineNewActiveIndex_eq (hcount : l.count ≤ intMax)
    (hopeners : OpenersIn l.wrappers l.webStates) {i : Nat} (hi : i < l.wrappers.length) :
    l.determineNewActiveIndex i =
      match l.relatedIndex i with
      | some j => getValidIndex j i
      | none =>
        if l.count = 1 then kInvalidIndex else if (i : Int) ≥ l.count - 1 then i - 1 else i := by
  have hget := getElem?_eq_getElem hi
  have hat : l.getWebStateAt (i : Int) = some l.wrappers[i].webState := by
    rw [getWebStateAt_eq, nth?_natCast, hget]
    rfl
  have hopener : (l.getOpenerOfWebStateAt (i : Int)) = l.wrappers[i].opener := by
    rw [getOpenerOfWebStateAt, nth?_natCast, hget]
  rw [determineNewActiveIndex, relatedIndex, hget]
  simp only [hat, hopener, getIndexOfNextWebStateOpenedBy_eq hcount _ hi]
  cases hchild : (l.wrappers.drop (i + 1)).findIdx? (openedBy l.wrappers[i].webState) with
  | some k =>
    have hne : ((i + 1 + k : Nat) : Int) ≠ kInvalidIndex := by
      rw [kInvalidIndex]
      omega
    exact if_pos hne
  | none =>
    simp only
    rw [if_neg (fun h => h rfl)]
    cases hop : l.wrappers[i].opener.opener with
    | none => rfl
    | some opener =>
      cases hsibling : (l.wrappers.drop (i + 1)).findIdx? (openedBy opener) with
      | some k =>
        simp only [hsibling]
        have hne : ((i + 1 + k : Nat) : Int) ≠ kInvalidIndex := by
          rw [kInvalidIndex]
          omega
        exact if_pos hne
      | none =>
        simp only [hsibling]
        rw [if_neg (fun h => h rfl), getIndexOfWebState_eq_idxOf]
        exact hopeners _ (getElem_mem hi) _ hop

/-- The related tab stands at its position. -/
theorem nextActive_of_related (hopeners : OpenersIn l.wrappers l.webStates)
    {i j : Nat} (hj : l.relatedIndex i = some j) :
    j < l.webStates.length ∧ l.nextActive i = l.webStates[j]? := by
  have hfound : ∀ {k : Nat} {opened : WebStateWrapper W → Bool},
      (l.wrappers.drop (i + 1)).findIdx? opened = some k → ∃ wrapper,
        (l.wrappers.drop (i + 1)).find? opened = some wrapper ∧
          i + 1 + k < l.webStates.length ∧ some wrapper.webState = l.webStates[i + 1 + k]? := by
    intro k opened h
    obtain ⟨wrapper, hfind, hat⟩ := find?_drop_eq h
    exact ⟨wrapper, hfind, (List.getElem?_eq_some_iff.1 hat).1, hat.symm⟩
  rw [relatedIndex] at hj
  rw [nextActive]
  cases hremoved : l.wrappers[i]? with
  | none =>
    rw [hremoved] at hj
    cases hj
  | some removed =>
    simp only [hremoved] at hj ⊢
    cases hchild : (l.wrappers.drop (i + 1)).findIdx? (openedBy removed.webState) with
    | some k =>
      simp only [hchild, Option.some.injEq] at hj
      subst hj
      obtain ⟨wrapper, hfind, hlt, hat⟩ := hfound hchild
      rw [hfind]
      exact ⟨hlt, hat⟩
    | none =>
      simp only [hchild] at hj
      rw [find?_eq_none_of_findIdx? hchild]
      cases hop : removed.opener.opener with
      | none =>
        simp only [hop] at hj
        cases hj
      | some opener =>
        simp only [hop] at hj ⊢
        cases hsibling : (l.wrappers.drop (i + 1)).findIdx? (openedBy opener) with
        | some k =>
          simp only [hsibling, Option.some.injEq] at hj
          subst hj
          obtain ⟨wrapper, hfind, hlt, hat⟩ := hfound hsibling
          rw [hfind]
          exact ⟨hlt, hat⟩
        | none =>
          simp only [hsibling, Option.some.injEq] at hj
          subst hj
          rw [find?_eq_none_of_findIdx? hsibling]
          have hmem := hopeners removed (mem_of_getElem? hremoved) opener hop
          have hlt := idxOf_lt_length_of_mem hmem
          refine ⟨hlt, ?_⟩
          rw [getElem?_eq_getElem hlt, getElem_idxOf hlt]

/-- Without a related tab the next one follows, or the one before. -/
theorem nextActive_of_unrelated {i : Nat} (hi : i < l.wrappers.length)
    (hnone : l.relatedIndex i = none) :
    l.nextActive i =
      if i + 1 < l.wrappers.length then l.webStates[i + 1]?
      else if i = 0 then none
      else l.webStates[i - 1]? := by
  rw [relatedIndex, getElem?_eq_getElem hi] at hnone
  rw [nextActive, getElem?_eq_getElem hi]
  simp only at hnone ⊢
  cases hchild : (l.wrappers.drop (i + 1)).findIdx? (openedBy l.wrappers[i].webState) with
  | some k =>
    simp only [hchild] at hnone
    cases hnone
  | none =>
    simp only [hchild] at hnone
    rw [find?_eq_none_of_findIdx? hchild]
    cases hop : l.wrappers[i].opener.opener with
    | none => rfl
    | some opener =>
      simp only [hop] at hnone
      cases hsibling : (l.wrappers.drop (i + 1)).findIdx? (openedBy opener) with
      | some k =>
        simp only [hsibling] at hnone
        cases hnone
      | none =>
        simp only [hsibling] at hnone
        cases hnone

/-- The active tab after the active one has been removed. -/
theorem getActiveWebState_detachWebStateAt {i : Nat}
    (hi : i < l.wrappers.length) (hactive : l.activeIndex = i) :
    (l.detachWebStateAt i).list.getActiveWebState =
      nth? (l.webStates.eraseIdx i) (l.determineNewActiveIndex i) := by
  have hin : l.ContainsIndex (i : Int) := ⟨Int.natCast_nonneg _, Int.ofNat_lt.2 hi⟩
  rw [getActiveWebState_eq, webStates_detachWebStateAt hin, detachWebStateAt_list hin,
    Int.toNat_natCast]
  exact congrArg (nth? _) (if_pos hactive)

omit [DecidableEq W] in
/-- A related tab behind the removed one is looked for at the first position. -/
theorem nth?_eraseIdx_getValidIndex (l : List W) (i j : Nat) :
    nth? (l.eraseIdx i) (getValidIndex j i) =
      if j < i then l[j]? else if j = i then l[i + 1]? else if i = 0 then l[1]? else l[0]? := by
  by_cases hlt : j < i
  · rw [if_pos hlt, getValidIndex, if_neg (by omega), nth?_natCast, getElem?_eraseIdx,
      if_pos hlt]
  · rw [if_neg hlt]
    by_cases heq : j = i
    · rw [if_pos heq, heq, getValidIndex, if_neg (by omega), nth?_natCast, getElem?_eraseIdx,
        if_neg (Nat.lt_irrefl i)]
    · rw [if_neg heq, getValidIndex_of_lt (by omega) (by omega)]
      show nth? _ ((0 : Nat) : Int) = _
      rw [nth?_natCast, getElem?_eraseIdx]
      by_cases h0 : i = 0
      · rw [if_pos h0, if_neg (by omega)]
      · rw [if_neg h0, if_pos (by omega)]

/-- **The next active tab**: when the active tab is removed, the tab that follows by the rules
becomes active if and only if it is not a related one that stands behind the removed one, unless
these are the first two, and the removed tab is not left as its own opener. -/
theorem detachWebStateAt_nextActive_iff (l : WebStateList W) (hvalid : l.Valid)
    (hnodup : l.webStates.Nodup) (hcount : l.count ≤ intMax) (i : Nat)
    (hi : i < l.wrappers.length) (hactive : l.activeIndex = i) :
    (l.detachWebStateAt i).list.getActiveWebState = l.nextActive i ↔
      ∀ j ∈ l.relatedIndex i, j < i ∨ (i = 0 ∧ j = 1) := by
  rw [getActiveWebState_detachWebStateAt hi hactive,
    determineNewActiveIndex_eq hcount hvalid.openers hi]
  cases hrelated : l.relatedIndex i with
  | none =>
    rw [nextActive_of_unrelated hi hrelated]
    refine iff_of_true ?_ nofun
    have hlength : l.count = l.wrappers.length := rfl
    simp only
    by_cases hone : l.count = 1
    · rw [if_pos hone, if_neg (by omega), if_pos (by omega)]
      rfl
    · rw [if_neg hone]
      by_cases hlast : (i : Int) ≥ l.count - 1
      · rw [if_pos hlast, if_neg (by omega), if_neg (by omega),
          show ((i : Int) - 1) = ((i - 1 : Nat) : Int) by omega, nth?_natCast,
          getElem?_eraseIdx, if_pos (by omega)]
      · rw [if_neg hlast, if_pos (by omega), nth?_natCast, getElem?_eraseIdx,
          if_neg (Nat.lt_irrefl i)]
  | some j =>
    obtain ⟨hj, hnext⟩ := nextActive_of_related hvalid.openers hrelated
    have hi' : i < l.webStates.length := by rwa [length_webStates]
    -- no tab stands at two positions
    have hinj : ∀ k, l.webStates[k]? = l.webStates[j]? ↔ k = j := fun k =>
      ⟨fun h => ((getElem?_inj hj hnodup).1 h.symm).symm, fun h => by rw [h]⟩
    rw [hnext, nth?_eraseIdx_getValidIndex]
    have hiff : (∀ k ∈ some j, k < i ∨ (i = 0 ∧ k = 1)) ↔ j < i ∨ (i = 0 ∧ j = 1) :=
      ⟨fun h => h j rfl, fun h k hk => Option.some.inj hk ▸ h⟩
    rw [hiff]
    by_cases hlt : j < i
    · rw [if_pos hlt]
      exact iff_of_true rfl (.inl hlt)
    · rw [if_neg hlt]
      by_cases heq : j = i
      · rw [if_pos heq, hinj]
        omega
      · rw [if_neg heq]
        by_cases h0 : i = 0
        · rw [if_pos h0, hinj]
          omega
        · rw [if_neg h0, hinj]
          omega

/-- Of two tabs the first one has opened the second: it is the next one. -/
theorem child_of_first_tab_is_next :
    let l : WebStateList Nat := ⟨[.new 0, ⟨1, ⟨some 0, 3⟩⟩], 0⟩
    (l.detachWebStateAt 0).list.getActiveWebState = some 1 :=
  (detachWebStateAt_nextActive_iff ⟨[.new 0, ⟨1, ⟨some 0, 3⟩⟩], 0⟩ (by decide) (by decide)
    (by decide) 0 (by decide) (by decide)).2 (by decide)

/-- Of three tabs the second one has opened the third: the first one is activated instead. -/
theorem child_of_second_tab_is_not_next :
    let l : WebStateList Nat := ⟨[.new 0, .new 1, ⟨2, ⟨some 1, 3⟩⟩], 1⟩
    l.Valid ∧ l.nextActive 1 = some 2 ∧
      (l.detachWebStateAt 1).list.getActiveWebState = some 0 := by
  decide

end WebStateList

end ChromiumIos
