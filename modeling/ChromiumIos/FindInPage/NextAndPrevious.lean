import ChromiumIos.FindInPage.PumpSearch
import ChromiumIos.Lib.Loop
import Mathlib.Data.List.Nodup

/-!
# The next and the previous match

`goNext` and `goPrev` go from span to span until one is visible. Their loops stop at the span where
they started; `goPrev` compares before it looks whether that span is visible, and it finds no such
span when none was selected.

- `GoNextEnds`, `GoPrevEnds`: the calls, with whether they return at all.
- `forward`, `backward`: the spans in the order they are to be tried.
- `SelectsFirst`: the call returns, and has selected the first span that is visible.
- `goNext_goPrev_iff`: `goNext` always does so, and when `goPrev` does.
-/

namespace ChromiumIos

open Lib List Nat

namespace FindInPage

namespace State

variable (browser : Browser) (s : State)

/-! ## The calls -/

/-- A round of the loop of `goNext`. It ends with whether there is a visible span. -/
def nextRound (oldIndex : Int) : Loop State (Bool × State) := fun s =>
  if s.getCurrentSpan.any (browser.isVisible s.documents) then .inl (true, s)
  else if oldIndex = s.index then .inl (false, s)
  else if s.incrementIndex.index = 0 ∧ oldIndex < 0 then .inl (false, s.incrementIndex)
  else .inr s.incrementIndex

def decrementIndex : State :=
  if s.index ≤ 0 then { s with index := (s.spans.length : Int) - 1 }
  else { s with index := s.index - 1 }

/-- A round of the loop of `goPrev`. -/
def prevRound (old : Int) : Loop State (Bool × State) := fun s =>
  if s.getCurrentSpan.any (browser.isVisible s.documents) then .inl (true, s)
  else if old = s.decrementIndex.index then .inl (false, s.decrementIndex)
  else .inr s.decrementIndex

/-- What is returned behind the loop. -/
def returned : Bool × State → String × State
  | (true, s) => (s.findScrollDimensions browser, s)
  | (false, s) => ("", s)

/-- `goNext` returns `result.1`. -/
def GoNextEnds (result : String × State) : Prop :=
  if s.spans.length = 0 then result = ("", s)
  else ∃ r, (nextRound browser s.index).Ends s.incrementIndex r ∧ result = returned browser r

/-- `goPrev` returns `result.1`. -/
def GoPrevEnds (result : String × State) : Prop :=
  if s.spans.length = 0 then result = ("", s)
  else ∃ r, (prevRound browser s.index).Ends s.decrementIndex r ∧ result = returned browser r

/-! ## What they are for -/

/-- The span at `j` is visible. -/
def shows (j : Nat) : Bool := s.spans[j]?.any (browser.isVisible s.documents)

/-- Where the spans are tried from `j` on, up to `j` again. -/
def cycle (n j : Nat) : List Nat := List.range' j (n - j) ++ List.range j

/-- From behind the current span, or from the first one. -/
def forward : List Nat := cycle s.spans.length (s.index + 1).toNat

/-- From before the current span, or from the last one. -/
def backward : List Nat := (cycle s.spans.length s.index.toNat).reverse

/-- The call returns; it has selected the first visible span in the order, and it returns the empty
text if and only if there is none. -/
structure SelectsFirst (ends : String × State → Prop) (order : List Nat) : Prop where
  terminates : ∃ result, ends result
  selects : ∀ result, ends result → ∀ j ∈ order.find? (s.shows browser), result.2.index = j
  empty : ∀ result, ends result →
    (result.1 = "" ↔ ∀ elem ∈ s.spans, browser.isVisible s.documents elem = false)

/-- There is a visible span if none is selected, and another one if only the selected one is
visible. A single span counts as another one. -/
structure PreviousFound : Prop where
  unselected : s.index < 0 → ∃ j, s.shows browser j = true
  selected : 0 ≤ s.index → s.shows browser s.index.toNat = true → s.spans.length ≠ 1 →
    ∃ j, j ≠ s.index.toNat ∧ s.shows browser j = true

/-! ## Going round -/

section Cycle

variable {n j a : Nat}

theorem length_cycle (h : j ≤ n) : (cycle n j).length = n := by
  rw [cycle, length_append, length_range', length_range]
  omega

theorem getElem_cycle {k : Nat} (hk : k < (cycle n j).length) :
    (cycle n j)[k] = if k < n - j then j + k else k - (n - j) := by
  simp only [cycle, getElem_append, length_range', getElem_range',
    getElem_range, one_mul]
  split <;> rfl

theorem nodup_cycle : (cycle n j).Nodup := by
  rw [cycle, nodup_append]
  refine ⟨nodup_range', nodup_range, fun a ha b hb => ?_⟩
  rw [mem_range'_1] at ha
  rw [mem_range] at hb
  omega

theorem mem_cycle (h : j ≤ n) : a ∈ cycle n j ↔ a < n := by
  simp only [cycle, mem_append, mem_range'_1, mem_range]
  omega

/-- The cycle goes up by one, or from the last position to the first; it does not come back to where
it starts. -/
theorem isChain_cycle (h : j ≤ n) :
    (cycle n j).IsChain fun a b => b < n ∧ (b = a + 1 ∨ a + 1 = n ∧ b = 0) ∧ b ≠ j % n := by
  rw [isChain_iff_getElem]
  intro k hk
  rw [length_cycle h] at hk
  rw [getElem_cycle, getElem_cycle]
  rcases lt_or_ge j n with hlt | hge
  · rw [mod_eq_of_lt hlt]
    split <;> split <;> omega
  · rw [show j = n by omega, mod_self]
    split <;> split <;> omega

theorem head?_cycle (hn : 0 < n) (h : j ≤ n) : (cycle n j).head? = some (j % n) := by
  rw [head?_eq_getElem?, getElem?_eq_getElem (by rwa [length_cycle h]), getElem_cycle]
  rcases lt_or_ge j n with hlt | hge
  · rw [if_pos (by omega), mod_eq_of_lt hlt, add_zero]
  · rw [if_neg (by omega), show j = n by omega, Nat.mod_self, Nat.zero_sub]

theorem getLast?_cycle (hn : 0 < n) (h : j ≤ n) :
    (cycle n j).getLast? = some (if j = 0 then n - 1 else j - 1) := by
  rw [getLast?_eq_getElem?, length_cycle h,
    getElem?_eq_getElem (by rw [length_cycle h]; omega), getElem_cycle]
  congr 1
  split <;> split <;> omega

end Cycle

/-! ## The rounds -/

section Rounds

variable {browser : Browser} {s : State} {j a b : Nat}

/-- The state with the span at `j` selected. -/
def select (s : State) (j : Nat) : State := { s with index := j }

theorem any_getCurrentSpan_select :
    (s.select j).getCurrentSpan.any (browser.isVisible (s.select j).documents) =
      s.shows browser j := by
  have hindex : 0 ≤ (s.select j).index := Int.natCast_nonneg j
  rw [getCurrentSpan, if_pos hindex]
  rfl

theorem incrementIndex_select (hb : b = a + 1 ∨ a + 1 = s.spans.length ∧ b = 0)
    (hlt : b < s.spans.length) : (s.select a).incrementIndex = s.select b := by
  unfold incrementIndex select
  rcases hb with rfl | ⟨hlast, rfl⟩
  · rw [if_neg (by simp only; omega)]
    rfl
  · rw [if_pos (by simp only; omega)]
    rfl

theorem decrementIndex_select (hb : b = a + 1 ∨ a + 1 = s.spans.length ∧ b = 0) :
    (s.select b).decrementIndex = s.select a := by
  unfold decrementIndex select
  rcases hb with rfl | ⟨hlast, rfl⟩
  · rw [if_neg (by simp only; omega)]
    simp only [mk.injEq, true_and, and_true]
    omega
  · rw [if_pos (by simp only; omega)]
    simp only [mk.injEq, true_and, and_true]
    omega

theorem nextRound_shown {oldIndex : Int} (h : s.shows browser j = true) :
    nextRound browser oldIndex (s.select j) = .inl (true, s.select j) := by
  rw [nextRound, if_pos (any_getCurrentSpan_select.trans h)]

theorem prevRound_shown {old : Int} (h : s.shows browser j = true) :
    prevRound browser old (s.select j) = .inl (true, s.select j) := by
  rw [prevRound, if_pos (any_getCurrentSpan_select.trans h)]

theorem nextRound_hidden {oldIndex : Int} (h : s.shows browser a = false)
    (hb : b = a + 1 ∨ a + 1 = s.spans.length ∧ b = 0) (hlt : b < s.spans.length) :
    nextRound browser oldIndex (s.select a) =
      if oldIndex = (a : Int) then .inl (false, s.select a)
      else if (b : Int) = 0 ∧ oldIndex < 0 then .inl (false, s.select b)
      else .inr (s.select b) := by
  rw [nextRound, if_neg (by rw [any_getCurrentSpan_select, h]; simp), incrementIndex_select hb hlt]
  rfl

theorem nextRound_old {oldIndex : Int} (h : s.shows browser a = false)
    (hold : oldIndex = (a : Int)) :
    nextRound browser oldIndex (s.select a) = .inl (false, s.select a) := by
  rw [nextRound, if_neg (by rw [any_getCurrentSpan_select, h]; simp)]
  exact if_pos hold

/-- Where `goNext` starts. -/
theorem incrementIndex_eq (hn : 0 < s.spans.length) (hlow : -1 ≤ s.index)
    (hhigh : s.index < s.spans.length) :
    s.incrementIndex = s.select ((s.index + 1).toNat % s.spans.length) := by
  unfold incrementIndex select
  split
  · rw [show (s.index + 1).toNat = s.spans.length by omega, mod_self]
    rfl
  · rw [mod_eq_of_lt (by omega), Int.toNat_of_nonneg (by omega)]

/-- Where `goPrev` starts. -/
theorem decrementIndex_eq (hn : 0 < s.spans.length) :
    s.decrementIndex =
      s.select (if s.index.toNat = 0 then s.spans.length - 1 else s.index.toNat - 1) := by
  unfold decrementIndex select
  split
  · rw [if_pos (by omega)]
    simp only [mk.injEq, true_and, and_true]
    omega
  · rw [if_neg (by omega)]
    simp only [mk.injEq, true_and, and_true]
    omega

theorem prevRound_hidden {old : Int} (h : s.shows browser b = false)
    (hb : b = a + 1 ∨ a + 1 = s.spans.length ∧ b = 0) :
    prevRound browser old (s.select b) =
      if old = (a : Int) then .inl (false, s.select a) else .inr (s.select a) := by
  rw [prevRound, if_neg (by rw [any_getCurrentSpan_select, h]; simp), decrementIndex_select hb]
  rfl

/-- What a loop that tries the spans in this order ends with. -/
structure Answers (browser : Browser) (s : State) (order : List Nat) (r : Bool × State) : Prop where
  found : ∀ j ∈ order.find? (s.shows browser), r = (true, s.select j)
  missed : order.find? (s.shows browser) = none → r.1 = false

/-- A loop that goes along the order, and stops at its end if nothing is found. -/
theorem answers_along (round : Loop State (Bool × State)) (start : State) (order : List Nat)
    (t : State)
    (hshown : ∀ j, s.shows browser j = true → round (s.select j) = .inl (true, s.select j))
    (hnext : order.IsChain fun a b =>
      s.shows browser a = false → round (s.select a) = .inr (s.select b))
    (hlast : (∀ b ∈ order, s.shows browser b = false) →
      ∀ a ∈ order.getLast?, round (s.select a) = .inl (false, t))
    (hstart : order.head?.map s.select = some start) :
    ∃ r, Loop.rounds round order.length start = some r ∧ Answers browser s order r := by
  have hhit : ∀ j, (fun t : State => t.getCurrentSpan.any (browser.isVisible t.documents))
      (s.select j) = s.shows browser j := fun _ => any_getCurrentSpan_select
  have hchain : (order.map s.select).IsChain fun t t' : State =>
      t.getCurrentSpan.any (browser.isVisible t.documents) = false → round t = .inr t' := by
    rw [isChain_map]
    exact hnext.imp fun a b h hhidden => h ((hhit a).symm.trans hhidden)
  have hhead : start ∈ (order.map s.select).head? := by
    rw [head?_map, hstart]
    rfl
  cases hfind : order.find? (s.shows browser) with
  | some j =>
    have hfound : (order.map s.select).find?
        (fun t => t.getCurrentSpan.any (browser.isVisible t.documents)) = some (s.select j) := by
      rw [find?_map, Function.comp_def, funext hhit, hfind]
      rfl
    have hrounds := Loop.rounds_found hfound (hshown j (find?_some hfind)) hchain start hhead
    rw [length_map] at hrounds
    refine ⟨_, hrounds, fun j' hj' => ?_, fun hnone => ?_⟩
    · rw [Option.some.inj (hfind.symm.trans hj')]
    · rw [hfind] at hnone
      cases hnone
  | none =>
    have hhidden : ∀ b ∈ order, s.shows browser b = false := by
      simpa using hfind
    have hmissed : ∀ u ∈ (order.map s.select).getLast?, round u = .inl (false, t) := by
      intro u hu
      rw [getLast?_map] at hu
      obtain ⟨a, ha, rfl⟩ := Option.map_eq_some_iff.1 hu
      exact hlast hhidden a ha
    have hrounds := Loop.rounds_missed (fun u hu => ?_) hmissed hchain start hhead
    · rw [length_map] at hrounds
      refine ⟨_, hrounds, fun j hj => ?_, fun _ => rfl⟩
      rw [hfind] at hj
      cases hj
    · obtain ⟨b, hb, rfl⟩ := mem_map.1 hu
      exact (hhit b).trans (hhidden b hb)

/-- The loop of `goNext` tries every span. -/
theorem next_rounds (browser : Browser) (hn : 0 < s.spans.length) (hlow : -1 ≤ s.index)
    (hhigh : s.index < s.spans.length) :
    ∃ r, Loop.rounds (nextRound browser s.index) s.spans.length s.incrementIndex = some r ∧
      Answers browser s s.forward r := by
  have hle : (s.index + 1).toNat ≤ s.spans.length := by omega
  have hrounds : ∃ r, Loop.rounds (nextRound browser s.index) s.forward.length s.incrementIndex =
      some r ∧ Answers browser s s.forward r := by
    refine answers_along _ _ s.forward (s.select s.index.toNat) (fun j h => nextRound_shown h)
      ?_ ?_ ?_
    · refine (isChain_cycle hle).imp fun a b hab hhidden => ?_
      obtain ⟨hb, hnext, hfirst⟩ := hab
      have hold : s.index ≠ (a : Int) := by
        rintro heq
        apply hfirst
        rw [heq]
        rcases hnext with rfl | ⟨hlast, rfl⟩
        · exact (mod_eq_of_lt hb).symm
        · rw [show ((a : Int) + 1).toNat = s.spans.length by omega, mod_self]
      have hstop : ¬((b : Int) = 0 ∧ s.index < 0) := by
        rintro ⟨hzero, hneg⟩
        apply hfirst
        rw [show (s.index + 1).toNat = 0 by omega, zero_mod]
        omega
      rw [nextRound_hidden hhidden hnext hb, if_neg hold, if_neg hstop]
    · intro hhidden a ha
      rw [forward, getLast?_cycle hn hle] at ha
      obtain rfl := Option.some.inj ha
      by_cases hneg : s.index < 0
      · have hj : (s.index + 1).toNat = 0 := by omega
        have hzero : s.index.toNat = 0 := by omega
        have hlast := hhidden (s.spans.length - 1) ((mem_cycle hle).2 (by omega))
        rw [if_pos hj, nextRound_hidden hlast (.inr ⟨by omega, rfl⟩) hn, if_neg (by omega),
          if_pos ⟨rfl, hneg⟩, hzero]
      · have hindex : s.index = (s.index.toNat : Int) := by omega
        rw [if_neg (by omega), show (s.index + 1).toNat - 1 = s.index.toNat by omega]
        exact nextRound_old (hhidden _ ((mem_cycle hle).2 (by omega))) hindex
    · rw [forward, head?_cycle hn hle, incrementIndex_eq hn hlow hhigh]
      rfl
  rwa [forward, length_cycle hle] at hrounds

/-- Where no span is selected, the loop of `goPrev` ends at the first one that is visible. -/
theorem prev_rounds_unselected (hn : 0 < s.spans.length) (hneg : s.index < 0)
    (hshown : ∃ j < s.spans.length, s.shows browser j = true) :
    ∃ r, Loop.rounds (prevRound browser s.index) s.spans.length s.decrementIndex = some r ∧
      Answers browser s s.backward r := by
  have hzero : s.index.toNat = 0 := by omega
  have hlength : s.backward.length = s.spans.length := by
    rw [backward, length_reverse, length_cycle (by omega)]
  rw [← hlength]
  refine answers_along _ _ s.backward s (fun j h => prevRound_shown h) ?_ ?_ ?_
  · rw [backward, isChain_reverse, hzero]
    refine (isChain_cycle (zero_le _)).imp fun a b hab hhidden => ?_
    rw [prevRound_hidden hhidden hab.2.1, if_neg (by omega)]
  · intro hhidden
    obtain ⟨j, hj, hshow⟩ := hshown
    rw [hhidden j (mem_reverse.2 ((mem_cycle (by omega)).2 hj))] at hshow
    cases hshow
  · rw [backward, head?_reverse, getLast?_cycle hn (by omega), decrementIndex_eq hn]
    rfl

/-- Where a span is selected, the loop of `goPrev` ends without looking at it, unless it is the only
one. -/
theorem prev_rounds_selected (browser : Browser) (hpos : 0 ≤ s.index)
    (hhigh : s.index < s.spans.length) (hn : 1 < s.spans.length) {rest : List Nat}
    (hrest : cycle s.spans.length s.index.toNat = s.index.toNat :: rest) :
    ∃ r, Loop.rounds (prevRound browser s.index) rest.reverse.length s.decrementIndex = some r ∧
      Answers browser s rest.reverse r := by
  have hle : s.index.toNat ≤ s.spans.length := by omega
  have hchain := isChain_cycle hle
  have hnot : s.index.toNat ∉ rest := by
    have hnodup := nodup_cycle (n := s.spans.length) (j := s.index.toNat)
    rw [hrest] at hnodup
    exact (nodup_cons.1 hnodup).1
  have hne : rest ≠ [] := by
    rintro rfl
    have hlength := length_cycle hle
    rw [hrest] at hlength
    exact absurd hlength (by simp; omega)
  rw [hrest] at hchain
  refine answers_along _ _ rest.reverse (s.select s.index.toNat) (fun j h => prevRound_shown h)
    ?_ ?_ ?_
  · rw [isChain_reverse]
    refine hchain.tail.imp_of_mem_imp fun a b ha _ hab hhidden => ?_
    have hother : s.index ≠ (a : Int) := by
      rintro heq
      exact hnot (by rwa [heq, Int.toNat_natCast])
    rw [prevRound_hidden hhidden hab.2.1, if_neg hother]
  · intro hhidden a ha
    rw [getLast?_reverse] at ha
    obtain ⟨x, later, rfl⟩ := exists_cons_of_ne_nil hne
    obtain rfl := Option.some.inj ha
    have hx := hhidden x (mem_reverse.2 mem_cons_self)
    rw [prevRound_hidden hx (isChain_cons_cons.1 hchain).1.2.1, if_pos (by omega)]
  · have hlast := getLast?_cycle (lt_of_succ_lt hn) hle
    rw [hrest, getLast?_cons_of_ne_nil hne] at hlast
    rw [head?_reverse, hlast, decrementIndex_eq (lt_of_succ_lt hn)]
    rfl

/-- A single span is looked at, also when it is the one that is selected. -/
theorem prev_rounds_single (browser : Browser) (hindex : s.index = 0) (hn : s.spans.length = 1) :
    ∃ r, Loop.rounds (prevRound browser s.index) 1 s.decrementIndex = some r ∧
      Answers browser s s.backward r := by
  have hbackward : s.backward = [0] := by
    rw [backward, hn, hindex]
    rfl
  rw [hbackward]
  refine answers_along _ _ [0] (s.select 0) (fun j h => prevRound_shown h) ?_ ?_ ?_
  · exact isChain_singleton _
  · intro hhidden a ha
    obtain rfl := Option.some.inj ha
    show prevRound browser s.index (s.select 0) = _
    rw [prevRound_hidden (hhidden 0 mem_cons_self) (.inr ⟨hn.symm, rfl⟩)]
    exact if_pos hindex
  · rw [decrementIndex_eq (by omega), hindex, hn]
    rfl

/-- Where no span is selected and none is visible, the loop of `goPrev` goes round and round. -/
theorem prev_goes_round (hn : 0 < s.spans.length) (hneg : s.index < 0)
    (hhidden : ∀ j, s.shows browser j = false) {r : Bool × State} :
    ¬Loop.Ends (prevRound browser s.index) s.decrementIndex r := by
  refine Loop.not_ends_of_invariant
    (I := fun t => ∃ j, j < s.spans.length ∧ t = s.select j) ?_ ⟨_, ?_, decrementIndex_eq hn⟩
  · rintro _ ⟨j, hj, rfl⟩
    by_cases hzero : j = 0
    · have hlast : s.spans.length - 1 + 1 = s.spans.length := by omega
      refine ⟨_, ?_, s.spans.length - 1, by omega, rfl⟩
      rw [prevRound_hidden (hhidden j) (.inr ⟨hlast, hzero⟩), if_neg (by omega)]
    · have hj' : j = j - 1 + 1 := by omega
      refine ⟨_, ?_, j - 1, by omega, rfl⟩
      rw [prevRound_hidden (hhidden j) (.inl hj'), if_neg (by omega)]
  · split <;> omega

/-! ## What is selected -/

theorem shows_lt (h : s.shows browser j = true) : j < s.spans.length := by
  rw [shows] at h
  cases hj : s.spans[j]? with
  | none =>
    rw [hj] at h
    cases h
  | some elem => exact (List.getElem?_eq_some_iff.1 hj).1

theorem forall_hidden_iff : (∀ elem ∈ s.spans, browser.isVisible s.documents elem = false) ↔
    ∀ j, s.shows browser j = false := by
  constructor
  · intro h j
    rw [shows]
    cases hj : s.spans[j]? with
    | none => rfl
    | some elem => exact h elem (mem_of_getElem? hj)
  · intro h elem helem
    obtain ⟨j, hj⟩ := getElem?_of_mem helem
    have hshows := h j
    rwa [shows, hj] at hshows

theorem findScrollDimensions_ne (h : s.shows browser j = true) :
    (s.select j).findScrollDimensions browser ≠ "" := by
  have hspan : (s.select j).getCurrentSpan = s.spans[j]? := if_pos (Int.natCast_nonneg j)
  rw [findScrollDimensions, hspan]
  rw [shows] at h
  cases hj : s.spans[j]? with
  | none =>
    rw [hj] at h
    cases h
  | some elem =>
    intro hempty
    have hlength := congrArg String.length hempty
    simp [String.length_append] at hlength

/-- The answers of a loop that tries the spans in the right order, up to spans that are hidden. -/
theorem selectsFirst_of_answers {round : Loop State (Bool × State)} {start : State}
    {order tried : List Nat} {r : Bool × State} (hends : Loop.Ends round start r)
    (hanswers : Answers browser s tried r)
    (hfind : order.find? (s.shows browser) = tried.find? (s.shows browser))
    (hmem : ∀ j < s.spans.length, j ∈ order) :
    SelectsFirst browser s
      (fun result => ∃ r, Loop.Ends round start r ∧ result = returned browser r) order where
  terminates := ⟨_, r, hends, rfl⟩
  selects := by
    rintro _ ⟨r', hr', rfl⟩ j hj
    obtain rfl := hr'.unique hends
    rw [hfind] at hj
    rw [hanswers.found j hj]
    rfl
  empty := by
    rintro _ ⟨r', hr', rfl⟩
    obtain rfl := hr'.unique hends
    rw [forall_hidden_iff]
    cases htried : tried.find? (s.shows browser) with
    | some j =>
      have hshown := find?_some htried
      rw [hanswers.found j htried]
      constructor
      · intro hempty
        exact absurd hempty (findScrollDimensions_ne hshown)
      · intro hhidden
        rw [hhidden j] at hshown
        cases hshown
    | none =>
      obtain ⟨found, t⟩ := r'
      obtain rfl : found = false := hanswers.missed htried
      refine iff_of_true rfl fun j => ?_
      cases hj : s.shows browser j with
      | false => rfl
      | true =>
        rw [htried, find?_eq_none] at hfind
        exact absurd hj (hfind j (hmem j (shows_lt hj)))

end Rounds

variable {browser : Browser} {s : State}

theorem goNext_selectsFirst (hne : s.spans ≠ []) (hlow : -1 ≤ s.index)
    (hhigh : s.index < s.spans.length) :
    SelectsFirst browser s (s.GoNextEnds browser) s.forward := by
  have hn := length_pos_iff.2 hne
  obtain ⟨r, hrounds, hanswers⟩ := next_rounds browser hn hlow hhigh
  have hspec := selectsFirst_of_answers ⟨_, hrounds⟩ hanswers rfl fun j hj =>
    (mem_cycle (by omega)).2 hj
  have hends : s.GoNextEnds browser = fun result =>
      ∃ r, (nextRound browser s.index).Ends s.incrementIndex r ∧ result = returned browser r := by
    funext result
    exact if_neg (ne_of_gt hn)
  rwa [hends]

theorem goPrevEnds_eq (hne : s.spans ≠ []) : s.GoPrevEnds browser = fun result =>
    ∃ r, (prevRound browser s.index).Ends s.decrementIndex r ∧ result = returned browser r := by
  funext result
  exact if_neg (ne_of_gt (length_pos_iff.2 hne))

/-- The spans that `goPrev` looks at when one of several is selected: all but that one. -/
theorem goPrev_of_selected (browser : Browser) (hpos : 0 ≤ s.index)
    (hhigh : s.index < s.spans.length) (hn : s.spans.length ≠ 1) :
    ∃ tried, s.backward = tried ++ [s.index.toNat] ∧
      ∃ r, (prevRound browser s.index).Ends s.decrementIndex r ∧ Answers browser s tried r := by
  have hle : s.index.toNat ≤ s.spans.length := by omega
  have hhead := head?_cycle (by omega) hle
  rw [mod_eq_of_lt (by omega)] at hhead
  obtain ⟨rest, hrest⟩ := head?_eq_some_iff.1 hhead
  obtain ⟨r, hrounds, hanswers⟩ :=
    prev_rounds_selected browser hpos hhigh (by omega) hrest
  refine ⟨rest.reverse, ?_, r, ⟨_, hrounds⟩, hanswers⟩
  rw [backward, hrest, reverse_cons]

theorem goPrev_selectsFirst (hne : s.spans ≠ []) (hhigh : s.index < s.spans.length)
    (hfound : s.PreviousFound browser) :
    SelectsFirst browser s (s.GoPrevEnds browser) s.backward := by
  have hn := length_pos_iff.2 hne
  have hmem : ∀ j < s.spans.length, j ∈ s.backward := fun j hj =>
    mem_reverse.2 ((mem_cycle (by omega)).2 hj)
  rw [goPrevEnds_eq hne]
  by_cases hneg : s.index < 0
  · obtain ⟨j, hj⟩ := hfound.unselected hneg
    obtain ⟨r, hrounds, hanswers⟩ := prev_rounds_unselected hn hneg ⟨j, shows_lt hj, hj⟩
    exact selectsFirst_of_answers ⟨_, hrounds⟩ hanswers rfl hmem
  by_cases hsingle : s.spans.length = 1
  · obtain ⟨r, hrounds, hanswers⟩ :=
      prev_rounds_single browser (by omega) hsingle
    exact selectsFirst_of_answers ⟨_, hrounds⟩ hanswers rfl hmem
  obtain ⟨tried, hbackward, r, hends, hanswers⟩ :=
    goPrev_of_selected browser (by omega) hhigh hsingle
  refine selectsFirst_of_answers hends hanswers ?_ hmem
  rw [hbackward, find?_append]
  cases hcurrent : s.shows browser s.index.toNat with
  | false => simp [hcurrent]
  | true =>
    -- the selected span is not needed: another one is visible
    obtain ⟨j, hother, hj⟩ := hfound.selected (by omega) hcurrent hsingle
    have hin : j ∈ tried ++ [s.index.toNat] := hbackward ▸ hmem j (shows_lt hj)
    have htried : j ∈ tried := (mem_append.1 hin).resolve_right (by simpa using hother)
    have hsome := find?_isSome.2 ⟨j, htried, hj⟩
    rw [Option.or_of_isSome hsome]

/-- `goNext` selects the first visible span behind the current one; `goPrev` selects the first one
before it if and only if there is a visible span that it looks at. -/
theorem goNext_goPrev_iff (browser : Browser) (s : State) (hne : s.spans ≠ []) (hlow : -1 ≤ s.index)
    (hhigh : s.index < s.spans.length) :
    SelectsFirst browser s (s.GoNextEnds browser) s.forward ∧
        SelectsFirst browser s (s.GoPrevEnds browser) s.backward ↔
      s.PreviousFound browser := by
  constructor
  · rintro ⟨-, hprev⟩
    rw [goPrevEnds_eq hne] at hprev
    constructor
    · intro hneg
      obtain ⟨_, r, hends, -⟩ := hprev.terminates
      by_contra hnone
      exact prev_goes_round (length_pos_iff.2 hne) hneg (by simpa using hnone) hends
    · intro hpos hcurrent hsingle
      by_contra hnone
      obtain ⟨tried, hbackward, r, hends, hanswers⟩ :=
        goPrev_of_selected browser hpos hhigh hsingle
      have hnodup : (tried ++ [s.index.toNat]).Nodup := by
        rw [← hbackward, backward]
        exact nodup_reverse.2 nodup_cycle
      have hnot : s.index.toNat ∉ tried := fun hmem =>
        (nodup_append.1 hnodup).2.2 _ hmem _ mem_cons_self rfl
      have htried : tried.find? (s.shows browser) = none := by
        rw [find?_eq_none]
        intro j hj hshown
        exact hnone ⟨j, fun heq => hnot (heq ▸ hj), hshown⟩
      obtain ⟨found, t⟩ := r
      obtain rfl : found = false := hanswers.missed htried
      -- nothing is returned although the selected span is visible
      have hhidden := forall_hidden_iff.1 ((hprev.empty _ ⟨_, hends, rfl⟩).1 rfl)
      rw [hhidden] at hcurrent
      cases hcurrent
  · intro hfound
    exact ⟨goNext_selectsFirst hne hlow hhigh, goPrev_selectsFirst hne hhigh hfound⟩

/-- A search that found spans, some of which are visible. -/
def searched (index : Int) (spans : List Nat) : State where
  documents := .nil
  node := none
  stack := []
  replacements := []
  replacementsIndex := 0
  replacementNewNodesIndex := 0
  spans
  visibleFound := 0
  visibleIndex := 0
  index
  searchInProgress := false
  checks := 0

/-- The browser that shows one span. -/
def showing (visible : Nat) : Browser where
  regex := ⟨fun _ => []⟩
  isVisible _ elem := elem = visible
  coordinates _ _ := "0,0"
  overTime _ := false

/-- Three spans, the second one visible and the third one selected. -/
theorem goPrev_skips_hidden :
    SelectsFirst (showing 1) (searched 2 [0, 1, 2]) ((searched 2 [0, 1, 2]).GoNextEnds (showing 1))
        [0, 1, 2] ∧
      SelectsFirst (showing 1) (searched 2 [0, 1, 2])
        ((searched 2 [0, 1, 2]).GoPrevEnds (showing 1)) [1, 0, 2] :=
  (goNext_goPrev_iff (showing 1) (searched 2 [0, 1, 2]) (by decide) (by decide) (by decide)).2
    ⟨fun h => absurd h (by decide), fun _ h => absurd h (by decide)⟩

/-- `goPrev` does not return where no span is selected and the only one is hidden. It returns the
empty text where the first of two spans is selected and is the only one that is visible. -/
theorem goPrev_not_mirrored :
    ¬SelectsFirst (showing 1) (searched (-1) [0]) ((searched (-1) [0]).GoPrevEnds (showing 1))
        (searched (-1) [0]).backward ∧
      ¬SelectsFirst (showing 0) (searched 0 [0, 1]) ((searched 0 [0, 1]).GoPrevEnds (showing 0))
        (searched 0 [0, 1]).backward := by
  constructor
  · intro h
    obtain ⟨_, r, hends, -⟩ := h.terminates
    refine prev_goes_round (s := searched (-1) [0]) (by decide) (by decide) (fun j => ?_) hends
    cases j <;> rfl
  · intro h
    have hends : (searched 0 [0, 1]).GoPrevEnds (showing 0) ("", searched 0 [0, 1]) :=
      ⟨(false, searched 0 [0, 1]), ⟨1, by decide⟩, rfl⟩
    have hhidden := (h.empty _ hends).1 rfl 0 mem_cons_self
    cases hhidden

end State

end FindInPage

end ChromiumIos
