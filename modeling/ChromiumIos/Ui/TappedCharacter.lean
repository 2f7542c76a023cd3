import ChromiumIos.Lib.Loop
import ChromiumIos.Web.Types
import Mathlib.Data.Nat.Find
import Mathlib.Order.Bounds.Basic

/-!
# The tapped character

`contextualsearch.js`: the character of a text node whose rectangle contains a point is searched for
with ranges of the text, each of which has rectangles of its own.

- `search`: the binary search.
- `Narrowed`: its invariant. The first character that contains the point stays inside.
- `search_ends`: it ends by itself, with that character if it is one of a word.
-/

namespace ChromiumIos

open Lib

namespace TappedCharacter

/-- `Context.GET_RANGE_TIMEOUT_MS`. -/
def GET_RANGE_TIMEOUT_MS : Int := 50

/-- A rectangle, in coordinates of any kind. -/
structure Rect (K : Type) where
  left : K
  right : K
  top : K
  bottom : K
deriving DecidableEq, Repr

/-- A text node, and the rectangles that the browser gives a range of its text. -/
structure TextNode (K : Type) where
  textContent : String16
  getClientRects : (startOffset endOffset : Int) → List (Rect K)

variable {K : Type}

section Points

variable [LE K] [DecidableLE K]

def rectContainsPoint (rect : Rect K) (x y : K) : Bool :=
  rect.left ≤ x && x ≤ rect.right && rect.top ≤ y && y ≤ rect.bottom

/-- `Context.rangeContainsPoint`, for the rectangles of a range. -/
def rangeContainsPoint (rects : List (Rect K)) (x y : K) : Bool :=
  rects.any fun rect => rectContainsPoint rect x y

end Points

/-- `[\u00C0-\u1FFF\u2C00-\uD7FF\w]`. -/
def isWordCharacter (c : UInt16) : Bool :=
  (0xC0 ≤ c && c ≤ 0x1FFF) || (0x2C00 ≤ c && c ≤ 0xD7FF) || (0x41 ≤ c && c ≤ 0x5A) ||
    (0x61 ≤ c && c ≤ 0x7A) || (0x30 ≤ c && c ≤ 0x39) || c == 0x5F

/-- `Context.reWordCharacter_.test`. -/
def hasWordCharacter (text : String16) : Bool := text.any isWordCharacter

namespace TextNode

/-- `range.toString()`. -/
def rangeText (node : TextNode K) (startOffset endOffset : Int) : String16 :=
  (node.textContent.take endOffset.toNat).drop startOffset.toNat

end TextNode

/-! ## The search -/

/-- The variables of the loop. -/
structure Search where
  start : Int
  end_ : Int
  /-- The offsets of the range. -/
  range : Int × Int
  /-- It is not set at first, which is as good as `false`. -/
  found : Bool
  /-- How often the time was read. -/
  reads : Nat
deriving DecidableEq, Repr

/-- Before the loop, with a range that is collapsed. -/
def Search.new (node : TextNode K) : Search where
  start := 0
  end_ := node.textContent.length - 1
  range := (0, 0)
  found := false
  reads := 1

/-- What is returned after the loop. -/
def Search.position (s : Search) (node : TextNode K) : Int :=
  if s.found && hasWordCharacter (node.rangeText s.range.1 s.range.2) then s.start else -1

section Points

variable [LE K] [DecidableLE K]

/-- The loop of `Context.findCharacterPositionInTextFromPoint`; `getTime` are the times that are
read one after the other. -/
def findCharacterPositionInTextFromPoint (node : TextNode K) (x y : K) (getTime : Nat → Int) :
    Loop Search Int := fun s =>
  if !s.found || s.end_ - s.start + 1 > 1 then
    if getTime s.reads - getTime 0 > GET_RANGE_TIMEOUT_MS then .inl (s.position node)
    else
      let middle := (s.start + s.end_) / 2
      let range := (s.start, middle + 1)
      let found := rangeContainsPoint (node.getClientRects range.1 range.2) x y
      if found then .inr { s with end_ := middle, range, found, reads := s.reads + 1 }
      else .inr { s with start := middle + 1, range, found, reads := s.reads + 1 }
  else .inl (s.position node)

/-! ## Its invariant -/

/-- The characters have rectangles, and a range contains what one of its characters contains. -/
def RangesAreCharacters (node : TextNode K) (character : Nat → Rect K) (x y : K) : Prop :=
  ∀ startOffset endOffset : Nat, startOffset < endOffset →
    endOffset ≤ node.textContent.length →
      (rangeContainsPoint (node.getClientRects startOffset endOffset) x y = true ↔
        ∃ i, startOffset ≤ i ∧ i < endOffset ∧ rectContainsPoint (character i) x y = true)

/-- The positions of the characters that contain the point. -/
def Containing (node : TextNode K) (character : Nat → Rect K) (x y : K) : Set Nat :=
  { i | i < node.textContent.length ∧ rectContainsPoint (character i) x y = true }

end Points

/-- The character `k` is among those that are left, and a range that was found last is what is
left. -/
structure Narrowed (node : TextNode K) (k : Nat) (s : Search) : Prop where
  start_nonneg : 0 ≤ s.start
  start_le : s.start ≤ k
  le_end : k ≤ s.end_
  end_lt : s.end_ < node.textContent.length
  range : s.found = true → s.range = (s.start, s.end_ + 1)

/-- A probe halves what is left. A single character that is left is probed once more, unless it was
found. -/
def Search.variant (s : Search) : Nat :=
  2 * (s.end_ - s.start).toNat + if s.found then 0 else 1

variable {node : TextNode K} {k : Nat} {s : Search}

theorem narrowed_new (hk : k < node.textContent.length) : Narrowed node k (Search.new node) where
  start_nonneg := Int.le_refl 0
  start_le := Int.natCast_nonneg k
  le_end := by
    simp only [Search.new]
    omega
  end_lt := by
    simp only [Search.new]
    omega
  range h := absurd h Bool.false_ne_true

theorem Narrowed.found (h : Narrowed node k s) {middle : Int} (hhigh : middle ≤ s.end_)
    (hk : k ≤ middle) (reads : Nat) :
    Narrowed node k
      { s with end_ := middle, range := (s.start, middle + 1), found := true, reads } where
  start_nonneg := h.start_nonneg
  start_le := h.start_le
  le_end := hk
  end_lt := Int.lt_of_le_of_lt hhigh h.end_lt
  range _ := rfl

theorem Narrowed.missed (h : Narrowed node k s) {middle : Int} (hlow : s.start ≤ middle)
    (hk : ¬k ≤ middle) (range : Int × Int) (reads : Nat) :
    Narrowed node k { s with start := middle + 1, range, found := false, reads } where
  start_nonneg := by
    have := h.start_nonneg
    dsimp only
    omega
  start_le := by
    dsimp only
    omega
  le_end := h.le_end
  end_lt := h.end_lt
  range hfound := absurd hfound Bool.false_ne_true

theorem variant_found_lt {middle : Int} (hgoes : s.found = false ∨ s.end_ - s.start + 1 > 1)
    (hlow : s.start ≤ middle) (hmiddle : middle = (s.start + s.end_) / 2) (range : Int × Int)
    (reads : Nat) :
    Search.variant { s with end_ := middle, range, found := true, reads } < s.variant := by
  simp only [Search.variant, if_true]
  cases hfound : s.found with
  | false =>
    simp only [Bool.false_eq_true, if_false]
    omega
  | true =>
    simp only [hfound, Bool.true_eq_false, false_or] at hgoes
    simp only [if_true]
    omega

theorem variant_missed_lt {middle : Int} (hlow : s.start ≤ middle) (hhigh : middle < s.end_)
    (range : Int × Int) (reads : Nat) :
    Search.variant { s with start := middle + 1, range, found := false, reads } < s.variant := by
  simp only [Search.variant, Bool.false_eq_true, if_false]
  omega

/-- The result for the first character that contains the point. -/
def resultAt (node : TextNode K) (k : Nat) : Int :=
  if node.textContent[k]?.any isWordCharacter then k else -1

/-- A single character that was found is the range. -/
theorem Narrowed.position_eq (h : Narrowed node k s) (hfound : s.found = true)
    (hsingle : ¬s.end_ - s.start + 1 > 1) : s.position node = resultAt node k := by
  have hstart := h.start_le
  have hend := h.le_end
  have hk : s.start = k := by omega
  have hk' : s.end_ + 1 = ((k + 1 : Nat) : Int) := by omega
  have htext : node.rangeText s.range.1 s.range.2 = node.textContent[k]?.toList := by
    rw [h.range hfound, TextNode.rangeText, hk, hk', Int.toNat_natCast, Int.toNat_natCast,
      List.drop_take, Nat.add_sub_cancel_left, List.take_one, List.head?_drop]
  rw [Search.position, hfound, Bool.true_and, htext, hk, resultAt, hasWordCharacter]
  cases node.textContent[k]? <;> simp

section Points

variable [LE K] [DecidableLE K] {character : Nat → Rect K} {x y : K} {getTime : Nat → Int}

/-- What a probe tells: whether the first character is in the lower half. -/
theorem Narrowed.rangeContainsPoint_iff (h : Narrowed node k s)
    (hranges : RangesAreCharacters node character x y)
    (hk : IsLeast (Containing node character x y) k) {middle : Int} (hlow : s.start ≤ middle)
    (hhigh : middle ≤ s.end_) :
    rangeContainsPoint (node.getClientRects s.start (middle + 1)) x y = true ↔ k ≤ middle := by
  have hend := h.end_lt
  obtain ⟨start, hstart⟩ := Int.eq_ofNat_of_zero_le h.start_nonneg
  obtain ⟨m, rfl⟩ := Int.eq_ofNat_of_zero_le (Int.le_trans h.start_nonneg hlow)
  have hspec := hranges start (m + 1) (by omega) (by omega)
  rw [hstart, show (m : Int) + 1 = ((m + 1 : Nat) : Int) from rfl, hspec]
  constructor
  · rintro ⟨i, -, hi, hcontains⟩
    have hle : k ≤ i := hk.2 ⟨by omega, hcontains⟩
    omega
  · intro hkm
    have hle := h.start_le
    exact ⟨k, by omega, by omega, hk.1.2⟩

/-- One round ends with the result, or goes on with less. -/
theorem Narrowed.round (h : Narrowed node k s)
    (hranges : RangesAreCharacters node character x y)
    (hk : IsLeast (Containing node character x y) k)
    (htime : ∀ n, getTime n - getTime 0 ≤ GET_RANGE_TIMEOUT_MS) :
    (∃ r, findCharacterPositionInTextFromPoint node x y getTime s = .inl r ∧
        r = resultAt node k) ∨
      ∃ t, findCharacterPositionInTextFromPoint node x y getTime s = .inr t ∧ Narrowed node k t ∧
        t.variant < s.variant := by
  have hle := Int.le_trans h.start_le h.le_end
  by_cases hgoes : (!s.found || s.end_ - s.start + 1 > 1) = true
  · right
    have hgoes' : s.found = false ∨ s.end_ - s.start + 1 > 1 := by
      simpa only [Bool.or_eq_true, Bool.not_eq_true', decide_eq_true_eq] using hgoes
    have hlow : s.start ≤ (s.start + s.end_) / 2 := by omega
    have hhigh : (s.start + s.end_) / 2 ≤ s.end_ := by omega
    have hprobe := h.rangeContainsPoint_iff hranges hk hlow hhigh
    rw [findCharacterPositionInTextFromPoint, if_pos hgoes, if_neg (Int.not_lt.2 (htime s.reads))]
    dsimp only
    by_cases hfound : (k : Int) ≤ (s.start + s.end_) / 2
    · rw [hprobe.2 hfound, if_pos rfl]
      exact ⟨_, rfl, h.found hhigh hfound _, variant_found_lt hgoes' hlow rfl _ _⟩
    · rw [eq_false_of_ne_true (mt hprobe.1 hfound), if_neg Bool.false_ne_true]
      have hlast := h.le_end
      exact ⟨_, rfl, h.missed hlow hfound _ _, variant_missed_lt hlow (by omega) _ _⟩
  · left
    rw [findCharacterPositionInTextFromPoint, if_neg hgoes]
    simp only [Bool.or_eq_true, Bool.not_eq_true', decide_eq_true_eq, not_or,
      Bool.not_eq_false] at hgoes
    exact ⟨_, rfl, h.position_eq hgoes.1 hgoes.2⟩

/-- Without the time-out the search ends, and its result is the first character that contains the
point if that is a character of a word. -/
theorem search_ends (hpoint : (Containing node character x y).Nonempty)
    (hranges : RangesAreCharacters node character x y)
    (htime : ∀ n, getTime n - getTime 0 ≤ GET_RANGE_TIMEOUT_MS) :
    ∃ k, IsLeast (Containing node character x y) k ∧
      Loop.Ends (findCharacterPositionInTextFromPoint node x y getTime) (Search.new node)
        (resultAt node k) := by
  classical
  have hk : IsLeast (Containing node character x y) (Nat.find hpoint) :=
    ⟨Nat.find_spec hpoint, fun i hi => Nat.find_min' hpoint hi⟩
  obtain ⟨r, hends, rfl⟩ := Loop.exists_ends_of_variant Search.variant
    (fun t ht => Narrowed.round ht hranges hk htime) (narrowed_new hk.1.1)
  exact ⟨_, hk, hends⟩

end Points

/-! ## A line of text -/

/-- The `i`-th character of a line, which is 10 wide. -/
def characterInLine (i : Nat) : Rect Int := ⟨10 * i, 10 * i + 9, 0, 9⟩

def line (textContent : String16) : TextNode Int where
  textContent
  getClientRects startOffset endOffset :=
    (List.range (endOffset - startOffset).toNat).map fun i =>
      characterInLine (startOffset.toNat + i)

theorem rangesAreCharacters_line (textContent : String16) (x y : Int) :
    RangesAreCharacters (line textContent) characterInLine x y := by
  intro startOffset endOffset hlt _
  simp only [rangeContainsPoint, line, List.any_map, List.any_eq_true, List.mem_range,
    Function.comp_apply, Int.toNat_natCast]
  constructor
  · rintro ⟨i, hi, hcontains⟩
    exact ⟨startOffset + i, by omega, by omega, hcontains⟩
  · rintro ⟨i, hlow, hhigh, hcontains⟩
    exact ⟨i - startOffset, by omega, by rwa [Nat.add_sub_cancel' hlow]⟩

/-- In the line `"a b"` the point is in the `b`. -/
theorem search_ends_line :
    ∃ k, IsLeast (Containing (line [97, 32, 98]) characterInLine 25 5) k ∧
      Loop.Ends (findCharacterPositionInTextFromPoint (line [97, 32, 98]) 25 5 fun _ => 0)
        (Search.new (line [97, 32, 98])) (resultAt (line [97, 32, 98]) k) :=
  search_ends ⟨2, by decide, by decide⟩ (rangesAreCharacters_line _ 25 5) fun _ => by decide

end TappedCharacter

end ChromiumIos
