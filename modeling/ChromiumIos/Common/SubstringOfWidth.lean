import ChromiumIos.Lib.Loop
import Mathlib

/-!
# `SubstringOfWidth`

`string_util.mm`: the longest start of a string that fits into a width, or the longest end of it.
The number of characters is guessed, and then there is one more or one less in every round.

- `substringOfWidth`: the function, with a bound for the rounds.
- `Fits`: what is returned is not too wide, and with one more character it would not be narrower
  than the target.
- `fits_iff`: for which guesses it fits. A round that grows the string up to its end is the last
  one, too wide or not.
-/

namespace ChromiumIos

open Lib List Loop Nat

namespace SubstringOfWidth

variable {α W : Type} [LinearOrder W]

/-- A string to be cut, how wide a string is, and how wide it may be. -/
structure Cut (α W : Type) where
  string : List α
  width : List α → W
  targetWidth : W
  trailing : Bool

/-- The variables of the loop. -/
structure Search (W : Type) where
  characters : Nat
  increment : Int
  prevWidth : W
deriving DecidableEq, Repr

namespace Cut

variable (c : Cut α W)

def getSubstring (chars : Nat) : List α :=
  if c.trailing then c.string.drop (c.string.length - min c.string.length chars)
  else c.string.take (min chars c.string.length)

/-- Before the loop. The estimate is `targetWidth / (font.xHeight * 0.8)`, without the fraction. -/
def start (estimate : Nat) : Search W :=
  let characters := min estimate c.string.length
  ⟨characters, 1, c.width (c.getSubstring characters)⟩

/-- The end of a round. -/
def continueWhile (s : Search W) (substring : List α) : List α ⊕ Search W :=
  if 0 < s.characters ∧ s.characters < c.string.length then .inr s else .inl substring

def round : Loop (Search W) (List α) := fun s =>
  let characters := (s.characters + s.increment).toNat
  let substring := c.getSubstring characters
  let thisWidth := c.width substring
  if c.targetWidth < s.prevWidth then
    if thisWidth ≤ c.targetWidth then .inl substring
    else c.continueWhile ⟨characters, -1, thisWidth⟩ substring
  else if s.prevWidth < c.targetWidth then
    if thisWidth < c.targetWidth then c.continueWhile ⟨characters, 1, thisWidth⟩ substring
    else .inl (c.getSubstring (characters - s.increment).toNat)
  else c.continueWhile ⟨characters, s.increment, thisWidth⟩ substring

/-- What is returned within some rounds. The outer `none` is no answer, the inner one `nil`. -/
def substringOfWidth (estimate n : Nat) : Option (Option (List α)) :=
  if c.string.length = 0 then some none else (rounds c.round n (c.start estimate)).map some

/-! ## What fits -/

/-- The part is at the end of the string that is kept. -/
def IsEnd (part : List α) : Prop :=
  if c.trailing then part <:+ c.string else part <+: c.string

structure Fits (part : List α) : Prop where
  isEnd : c.IsEnd part
  width_le : c.width part ≤ c.targetWidth
  maximal : part = c.string ∨ c.targetWidth ≤ c.width (c.getSubstring (part.length + 1))

/-- The function returns, and what it returns fits. `nil` is the empty string. -/
def ReturnsFitting (estimate : Nat) : Prop :=
  ∃ n result, c.substringOfWidth estimate n = some result ∧ c.Fits (result.getD [])

/-- The width of so many characters. -/
def widthOf (chars : Nat) : W := c.width (c.getSubstring chars)

/-- Either the string fits as it is, or the guess is narrower than the target, or it is wider and
leaves out more than one character, or it is as wide and so is not all but two characters. -/
def GuessedWell (estimate : Nat) : Prop :=
  let length := c.string.length
  let guess := min estimate length
  c.widthOf length ≤ c.targetWidth ∨ c.widthOf guess < c.targetWidth ∨
    c.targetWidth < c.widthOf guess ∧ guess + 1 < length ∨
    c.widthOf guess = c.targetWidth ∧ c.targetWidth < c.widthOf (length - 2)

/-- The width is 0 for the empty string, and a string with more characters at the end where it is
cut is not narrower. -/
structure Measured [Zero W] (c : Cut α W) : Prop where
  width_nil : c.width [] = 0
  width_mono : ∀ part whole, (if c.trailing then part <:+ whole else part <+: whole) →
    c.width part ≤ c.width whole
  targetWidth_nonneg : 0 ≤ c.targetWidth

/-! ## The substrings -/

variable {c : Cut α W}

section

omit [LinearOrder W]

theorem length_getSubstring (c : Cut α W) (chars : Nat) :
    (c.getSubstring chars).length = min chars c.string.length := by
  rw [getSubstring]
  split
  · rw [length_drop]
    omega
  · rw [length_take]
    omega

theorem getSubstring_of_le {chars : Nat} (h : c.string.length ≤ chars) :
    c.getSubstring chars = c.string := by
  rw [getSubstring]
  split
  · rw [Nat.min_eq_left h, Nat.sub_self, drop_zero]
  · rw [min_eq_right h, take_length]

theorem isEnd_getSubstring (c : Cut α W) (chars : Nat) : c.IsEnd (c.getSubstring chars) := by
  rw [IsEnd, getSubstring]
  split
  · exact drop_suffix _ _
  · exact take_prefix _ _

/-- The substrings extend each other. -/
theorem getSubstring_extends (c : Cut α W) {i j : Nat} (hij : i ≤ j) :
    if c.trailing then c.getSubstring i <:+ c.getSubstring j
    else c.getSubstring i <+: c.getSubstring j := by
  rw [getSubstring, getSubstring]
  split
  · exact drop_suffix_drop_left _ (by omega)
  · exact take_prefix_take_left (by omega)

end

variable [Zero W]

theorem Measured.widthOf_mono (h : c.Measured) {i j : Nat} (hij : i ≤ j) :
    c.widthOf i ≤ c.widthOf j :=
  h.width_mono _ _ (c.getSubstring_extends hij)

theorem Measured.widthOf_zero_le (h : c.Measured) : c.widthOf 0 ≤ c.targetWidth := by
  have hnil : c.getSubstring 0 = [] := by
    rw [← length_eq_zero_iff, length_getSubstring, zero_min]
  rw [widthOf, hnil, h.width_nil]
  exact h.targetWidth_nonneg

omit [Zero W] in
theorem fits_getSubstring {chars : Nat} (hle : chars ≤ c.string.length)
    (hwidth : c.widthOf chars ≤ c.targetWidth)
    (hmax : chars = c.string.length ∨ c.targetWidth ≤ c.widthOf (chars + 1)) :
    c.Fits (c.getSubstring chars) where
  isEnd := c.isEnd_getSubstring chars
  width_le := hwidth
  maximal := by
    rw [length_getSubstring, min_eq_left hle]
    exact hmax.imp_left fun heq => getSubstring_of_le heq.ge

/-! ## The rounds -/

/-- The loop ends with a substring that fits. -/
def EndsFitting (c : Cut α W) (s : Search W) : Prop := ∃ part, Ends c.round s part ∧ c.Fits part

/-- The variables when so many characters were tried. -/
def tried (c : Cut α W) (chars : Nat) (increment : Int) : Search W :=
  ⟨chars, increment, c.widthOf chars⟩

section Rounds

variable {chars : Nat}

omit [Zero W]

theorem EndsFitting.of_inl {s : Search W} {part : List α} (h : c.round s = .inl part) :
    c.EndsFitting s ↔ c.Fits part := by
  simp only [EndsFitting, ends_inl_iff h, exists_eq_left]

theorem EndsFitting.of_inr {s next : Search W} (h : c.round s = .inr next) :
    c.EndsFitting s ↔ c.EndsFitting next := by
  simp only [EndsFitting, ends_inr_iff h]

/-- A round that is the last one if it comes to the end of the string. -/
theorem EndsFitting.of_continueWhile {s : Search W} {increment : Int} (hpos : 0 < chars)
    (h : c.round s = c.continueWhile (c.tried chars increment) (c.getSubstring chars)) :
    c.EndsFitting s ↔ if chars < c.string.length then c.EndsFitting (c.tried chars increment)
      else c.Fits c.string := by
  rw [continueWhile, tried] at h
  split
  · next hlt =>
    rw [if_pos ⟨hpos, hlt⟩] at h
    exact EndsFitting.of_inr h
  · next hlt =>
    rw [if_neg fun hboth => hlt hboth.2, getSubstring_of_le (Nat.le_of_not_lt hlt)] at h
    exact EndsFitting.of_inl h

theorem round_narrow (h : c.widthOf chars < c.targetWidth) :
    c.round (c.tried chars 1) = if c.widthOf (chars + 1) < c.targetWidth
      then c.continueWhile (c.tried (chars + 1) 1) (c.getSubstring (chars + 1))
      else .inl (c.getSubstring chars) := by
  have hchars : ((chars : Int) + 1).toNat = chars + 1 := by omega
  have hback : (((chars + 1 : Nat) : Int) - 1).toNat = chars := by omega
  rw [round]
  simp only [tried, hchars, hback]
  rw [if_neg (not_lt_of_gt h), if_pos h]
  rfl

theorem round_equal (h : c.widthOf chars = c.targetWidth) :
    c.round (c.tried chars 1) =
      c.continueWhile (c.tried (chars + 1) 1) (c.getSubstring (chars + 1)) := by
  have hchars : ((chars : Int) + 1).toNat = chars + 1 := by omega
  rw [round]
  simp only [tried, hchars]
  rw [if_neg h.not_gt, if_neg h.not_lt]
  rfl

/-- Too wide: the direction changes. -/
theorem round_wide (increment : Int) {next : Nat} (h : c.targetWidth < c.widthOf chars)
    (hnext : ((chars : Int) + increment).toNat = next) :
    c.round (c.tried chars increment) = if c.widthOf next ≤ c.targetWidth
      then .inl (c.getSubstring next)
      else c.continueWhile (c.tried next (-1)) (c.getSubstring next) := by
  rw [round]
  simp only [tried, hnext]
  rw [if_pos h]
  rfl

end Rounds

/-! ## How the loop ends -/

variable {chars : Nat}

omit [Zero W] in
/-- What is narrow grows as long as it stays narrow. -/
theorem endsFitting_narrow (hwidth : c.widthOf chars < c.targetWidth)
    (hle : chars ≤ c.string.length) : c.EndsFitting (c.tried chars 1) := by
  induction hn : c.string.length - chars generalizing chars with
  | zero =>
    have hwhole : chars = c.string.length := by omega
    have hsame : c.widthOf (chars + 1) = c.widthOf chars := by
      rw [widthOf, widthOf, getSubstring_of_le (by omega), getSubstring_of_le (by omega)]
    have hround := round_narrow hwidth
    rw [hsame, if_pos hwidth] at hround
    rw [EndsFitting.of_continueWhile (succ_pos chars) hround, if_neg (by omega)]
    rw [← getSubstring_of_le hwhole.ge]
    exact fits_getSubstring hle hwidth.le (.inl hwhole)
  | succ n ih =>
    have hround := round_narrow hwidth
    by_cases hnext : c.widthOf (chars + 1) < c.targetWidth
    · rw [if_pos hnext] at hround
      rw [EndsFitting.of_continueWhile (succ_pos chars) hround]
      split
      · exact ih hnext (by omega) (by omega)
      · rw [← getSubstring_of_le (show c.string.length ≤ chars + 1 by omega)]
        exact fits_getSubstring (by omega) hnext.le (.inl (by omega))
    · rw [if_neg hnext] at hround
      rw [EndsFitting.of_inl hround]
      exact fits_getSubstring hle hwidth.le (.inr (le_of_not_gt hnext))

namespace Measured

/-- What is too wide shrinks until it fits. Nothing at all does. -/
theorem endsFitting_shrink (h : c.Measured) (hwidth : c.targetWidth < c.widthOf chars)
    (hlt : chars < c.string.length) : c.EndsFitting (c.tried chars (-1)) := by
  induction chars with
  | zero => exact absurd hwidth (not_lt_of_ge h.widthOf_zero_le)
  | succ chars ih =>
    have hround :=
      round_wide (-1) hwidth (show ((chars + 1 : Nat) + (-1) : Int).toNat = chars by omega)
    by_cases hnext : c.widthOf chars ≤ c.targetWidth
    · rw [if_pos hnext] at hround
      rw [EndsFitting.of_inl hround]
      exact fits_getSubstring (by omega) hnext (.inr hwidth.le)
    · rw [if_neg hnext] at hround
      have hpos : 0 < chars := by
        rcases Nat.eq_zero_or_pos chars with rfl | hpos
        · exact absurd h.widthOf_zero_le hnext
        · exact hpos
      rw [EndsFitting.of_continueWhile hpos hround, if_pos (by omega)]
      exact ih (lt_of_not_ge hnext) (by omega)

theorem not_fits_string (h : c.Measured) (hwidth : c.targetWidth < c.widthOf chars) :
    ¬c.Fits c.string := by
  have hwhole : c.getSubstring (max chars c.string.length) = c.string :=
    getSubstring_of_le (le_max_right _ _)
  have hmono : c.widthOf chars ≤ c.width c.string := by
    rw [← hwhole]
    exact h.widthOf_mono (le_max_left _ _)
  exact fun hfits => absurd hfits.width_le (not_le_of_gt (hwidth.trans_le hmono))

/-- What is too wide grows once before it shrinks. -/
theorem endsFitting_wide_iff (h : c.Measured) (hwidth : c.targetWidth < c.widthOf chars) :
    c.EndsFitting (c.tried chars 1) ↔ chars + 1 < c.string.length := by
  have hnext : c.targetWidth < c.widthOf (chars + 1) :=
    hwidth.trans_le (h.widthOf_mono (le_succ chars))
  have hround := round_wide 1 hwidth (show ((chars : Int) + 1).toNat = chars + 1 by omega)
  rw [if_neg (not_le_of_gt hnext)] at hround
  rw [EndsFitting.of_continueWhile (succ_pos chars) hround]
  split
  · next hlt => exact iff_of_true (h.endsFitting_shrink hnext hlt) hlt
  · next hlt => exact iff_of_false (h.not_fits_string hnext) hlt

/-- What is as wide as the target grows until it is too wide, and then once more. -/
theorem endsFitting_equal_iff (h : c.Measured) (hwidth : c.widthOf chars = c.targetWidth)
    (hle : chars ≤ c.string.length) :
    c.EndsFitting (c.tried chars 1) ↔ c.widthOf c.string.length ≤ c.targetWidth ∨
      c.targetWidth < c.widthOf (c.string.length - 2) := by
  induction hn : c.string.length - chars using Nat.strong_induction_on generalizing chars with
  | _ n ih =>
    rw [EndsFitting.of_continueWhile (succ_pos chars) (round_equal hwidth)]
    split
    · next hlt =>
      rcases (h.widthOf_mono (le_succ chars)).eq_or_lt with heq | hwide
      · exact ih _ (by omega) (heq.symm.trans hwidth) hlt.le rfl
      · rw [hwidth] at hwide
        have hlong : c.targetWidth < c.widthOf c.string.length :=
          hwide.trans_le (h.widthOf_mono hlt.le)
        rw [h.endsFitting_wide_iff hwide, or_iff_right (not_le_of_gt hlong)]
        constructor
        · intro hmore
          exact hwide.trans_le (h.widthOf_mono (by omega))
        · intro hshort
          by_contra hmore
          have hleft : c.string.length - 2 = chars := by omega
          rw [hleft, hwidth] at hshort
          exact lt_irrefl _ hshort
    · next hlt =>
      have hshort : c.widthOf (c.string.length - 2) ≤ c.targetWidth :=
        (h.widthOf_mono (by omega)).trans_eq hwidth
      rw [or_iff_left (not_lt_of_ge hshort)]
      constructor
      · intro hfits
        by_contra hlong
        exact h.not_fits_string (lt_of_not_ge hlong) hfits
      · intro hwhole
        rw [← getSubstring_of_le (le_refl c.string.length)]
        exact fits_getSubstring (le_refl _) hwhole (.inl rfl)

end Measured

omit [Zero W] in
theorem returnsFitting_iff (hstring : c.string.length ≠ 0) (estimate : Nat) :
    c.ReturnsFitting estimate ↔ c.EndsFitting (c.tried (min estimate c.string.length) 1) := by
  have hreturn : ∀ n, c.substringOfWidth estimate n =
      (rounds c.round n (c.tried (min estimate c.string.length) 1)).map some := by
    intro n
    exact if_neg hstring
  constructor
  · rintro ⟨n, result, hresult, hfits⟩
    rw [hreturn, Option.map_eq_some_iff] at hresult
    obtain ⟨part, hpart, rfl⟩ := hresult
    exact ⟨part, ⟨n, hpart⟩, hfits⟩
  · rintro ⟨part, ⟨n, hpart⟩, hfits⟩
    exact ⟨n, some part, by rw [hreturn, hpart]; rfl, hfits⟩

/-! ## That the loop ends -/

section Ending

omit [Zero W]

/-- The string that is tried grows, or is too wide and shrinks. -/
inductive Underway (c : Cut α W) : Search W → Prop
  | grows {chars : Nat} : chars ≤ c.string.length → Underway c (c.tried chars 1)
  | shrinks {chars : Nat} : 0 < chars → chars < c.string.length →
      c.targetWidth < c.widthOf chars → Underway c (c.tried chars (-1))

/-- Growing may turn into shrinking, and not the other way round. -/
def roundsLeft (c : Cut α W) (s : Search W) : Nat :=
  if s.increment = 1 then 2 * c.string.length + 1 - s.characters else s.characters

omit [LinearOrder W] in
theorem roundsLeft_grows (c : Cut α W) (chars : Nat) :
    c.roundsLeft (c.tried chars 1) = 2 * c.string.length + 1 - chars := rfl

omit [LinearOrder W] in
theorem roundsLeft_shrinks (c : Cut α W) (chars : Nat) :
    c.roundsLeft (c.tried chars (-1)) = chars := rfl

/-- The round ends the loop, or leads to where less rounds are left. -/
def Progresses (c : Cut α W) (s : Search W) : Prop :=
  (∃ part, c.round s = .inl part ∧ True) ∨
    ∃ next, c.round s = .inr next ∧ c.Underway next ∧ c.roundsLeft next < c.roundsLeft s

theorem progresses_of_continueWhile {s : Search W} {increment : Int} {part : List α}
    (h : c.round s = c.continueWhile (c.tried chars increment) part)
    (hnext : 0 < chars → chars < c.string.length → c.Underway (c.tried chars increment) ∧
      c.roundsLeft (c.tried chars increment) < c.roundsLeft s) : c.Progresses s := by
  rw [continueWhile, tried] at h
  split at h
  · next hbetween => exact .inr ⟨_, h, hnext hbetween.1 hbetween.2⟩
  · exact .inl ⟨part, h, trivial⟩

theorem Underway.progresses {s : Search W} (h : c.Underway s) : c.Progresses s := by
  cases h with
  | @grows chars hle =>
    have hgrows : 0 < chars + 1 → chars + 1 < c.string.length →
        c.Underway (c.tried (chars + 1) 1) ∧
          c.roundsLeft (c.tried (chars + 1) 1) < c.roundsLeft (c.tried chars 1) := by
      intro _ hlt
      rw [roundsLeft_grows, roundsLeft_grows]
      exact ⟨.grows hlt.le, by omega⟩
    rcases lt_trichotomy (c.widthOf chars) c.targetWidth with hwidth | hwidth | hwidth
    · have hround := round_narrow hwidth
      split at hround
      · exact progresses_of_continueWhile hround hgrows
      · exact .inl ⟨_, hround, trivial⟩
    · exact progresses_of_continueWhile (round_equal hwidth) hgrows
    · have hround :=
        round_wide 1 hwidth (show ((chars : Int) + 1).toNat = chars + 1 by omega)
      split at hround
      · exact .inl ⟨_, hround, trivial⟩
      · next hwide =>
        refine progresses_of_continueWhile hround fun hpos hlt => ?_
        rw [roundsLeft_grows, roundsLeft_shrinks]
        exact ⟨.shrinks hpos hlt (lt_of_not_ge hwide), by omega⟩
  | @shrinks chars hpos hlt hwidth =>
    have hround :=
      round_wide (-1) hwidth (show ((chars : Int) + (-1)).toNat = chars - 1 by omega)
    split at hround
    · exact .inl ⟨_, hround, trivial⟩
    · next hwide =>
      refine progresses_of_continueWhile hround fun hpos' hlt' => ?_
      rw [roundsLeft_shrinks, roundsLeft_shrinks]
      exact ⟨.shrinks hpos' hlt' (lt_of_not_ge hwide), by omega⟩

theorem returns (c : Cut α W) (estimate : Nat) :
    ∃ n result, c.substringOfWidth estimate n = some result := by
  by_cases hempty : c.string.length = 0
  · exact ⟨0, none, if_pos hempty⟩
  · have hstart : c.Underway (c.start estimate) := .grows (min_le_right _ _)
    obtain ⟨part, ⟨n, hn⟩, -⟩ :=
      exists_ends_of_variant c.roundsLeft (fun _ h => Underway.progresses h) hstart
    refine ⟨n, some part, ?_⟩
    rw [substringOfWidth, if_neg hempty, hn]
    rfl

end Ending

/-- The loop ends, and what is returned fits if and only if the guess is a good one. -/
theorem fits_iff (h : c.Measured) (estimate : Nat) :
    (∃ n result, c.substringOfWidth estimate n = some result) ∧
      (c.ReturnsFitting estimate ↔ c.GuessedWell estimate) := by
  have hle := min_le_right estimate c.string.length
  refine ⟨returns c estimate, ?_⟩
  rw [GuessedWell]
  rcases Nat.eq_zero_or_pos c.string.length with hempty | hpos
  · have hnil : c.getSubstring 0 = [] := by
      rw [← length_eq_zero_iff, length_getSubstring, zero_min]
    refine iff_of_true ⟨0, none, if_pos hempty, ?_⟩ (.inl ?_)
    · rw [Option.getD_none, ← hnil]
      exact fits_getSubstring (zero_le _) h.widthOf_zero_le (.inl hempty.symm)
    · rw [hempty]
      exact h.widthOf_zero_le
  · rw [returnsFitting_iff hpos.ne']
    set guess := min estimate c.string.length
    have hlong : c.targetWidth < c.widthOf guess → c.targetWidth < c.widthOf c.string.length :=
      fun hwide => hwide.trans_le (h.widthOf_mono hle)
    rcases lt_trichotomy (c.widthOf guess) c.targetWidth with hwidth | hwidth | hwidth
    · exact iff_of_true (endsFitting_narrow hwidth hle) (.inr (.inl hwidth))
    · rw [h.endsFitting_equal_iff hwidth hle]
      simp [hwidth]
    · rw [h.endsFitting_wide_iff hwidth]
      simp [hwidth, hlong hwidth, hwidth.not_gt, hwidth.ne']

/-- Every character is one wide. -/
def monospaced (string : String) (targetWidth : Nat) : Cut Char Nat :=
  ⟨string.toList, List.length, targetWidth, false⟩

theorem monospaced_measured (string : String) (targetWidth : Nat) :
    (monospaced string targetWidth).Measured where
  width_nil := rfl
  width_mono _ _ h := IsPrefix.length_le h
  targetWidth_nonneg := zero_le _

/-- The guess leaves out a few characters. -/
theorem fits_someText : (monospaced "some text" 4).ReturnsFitting 6 :=
  (fits_iff (monospaced_measured "some text" 4) 6).2.2 (.inr (.inr (.inl (by decide))))

/-- The guess is the whole string. -/
theorem someText_too_wide :
    (monospaced "some text" 4).substringOfWidth 20 1 = some (some "some text".toList) ∧
      ¬(monospaced "some text" 4).ReturnsFitting 20 := by
  refine ⟨by decide, ?_⟩
  have hwide : (monospaced "some text" 4).targetWidth < (monospaced "some text" 4).widthOf 9 := by
    decide
  rw [returnsFitting_iff (by decide)]
  exact fun hfits =>
    absurd (((monospaced_measured "some text" 4).endsFitting_wide_iff hwide).1 hfits) (by decide)

end Cut

end SubstringOfWidth

end ChromiumIos
