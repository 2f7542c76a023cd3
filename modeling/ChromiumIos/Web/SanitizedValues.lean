import ChromiumIos.Lib.Trimming
import ChromiumIos.Web.Types

/-!
# Sanitized form values

`common.js`: before a value is put into a form field, what the field would not take is removed from
it, in the way of the type of the field.

- `sanitizeValueForInputElement`: the value for a field.
- `Sanitized`: the specification. A second time changes nothing, and no control character is left.
- `sanitized_iff`: which values of a text field meet it.
-/

namespace ChromiumIos

open Lib List

namespace SanitizedValues

inductive InputType
  | text
  | email
  | password
  | search
  | tel
  | url
  | number
  | hidden
  | other (type : String)
deriving DecidableEq, Repr

structure Element where
  type : InputType
  multiple : Bool
deriving DecidableEq, Repr

def isTextField (element : Element) : Bool :=
  match element.type with
  | .hidden => false
  | .text | .email | .password | .search | .tel | .url | .number => true
  | .other _ => false

def lineFeed : UInt16 := 0x0A
def carriageReturn : UInt16 := 0x0D
def comma : UInt16 := 0x2C

/-- `\s`. -/
def isWhitespace (c : UInt16) : Bool :=
  (0x09 ≤ c && c ≤ 0x0D) || c == 0x20 || c == 0xA0 || c == 0x1680 || (0x2000 ≤ c && c ≤ 0x200A) ||
    c == 0x2028 || c == 0x2029 || c == 0x202F || c == 0x205F || c == 0x3000 || c == 0xFEFF

/-- `current < ' ' && current != '\t'`. -/
def isControl (c : UInt16) : Bool := c < 0x20 && c != 0x09

def trim (str : String16) : String16 := Lib.trim isWhitespace str

/-- `replace(/(\r\n|\n|\r)/gm, '')`. -/
def removeLineBreaks : String16 → String16
  | [] => []
  | [c] => if c = lineFeed ∨ c = carriageReturn then [] else [c]
  | c :: d :: s =>
    if c = carriageReturn ∧ d = lineFeed then removeLineBreaks s
    else if c = lineFeed ∨ c = carriageReturn then removeLineBreaks (d :: s)
    else c :: removeLineBreaks (d :: s)

/-- A carriage return and a line feed, in either order. -/
def IsLineBreakPair (c d : UInt16) : Prop :=
  c = carriageReturn ∧ d = lineFeed ∨ c = lineFeed ∧ d = carriageReturn

instance (c d : UInt16) : Decidable (IsLineBreakPair c d) := instDecidableOr

/-- `replace(/(\r\n|\n\r)/gm, '')`. -/
def removeLineBreakPairs : String16 → String16
  | [] => []
  | [c] => [c]
  | c :: d :: s =>
    if IsLineBreakPair c d then removeLineBreakPairs s else c :: removeLineBreakPairs (d :: s)

def sanitizeValueForEmailInputType (proposedValue : String16) (element : Element) : String16 :=
  let valueWithLineBreakRemoved := removeLineBreakPairs proposedValue
  if !element.multiple then trim proposedValue
  else
    let addresses := valueWithLineBreakRemoved.splitOn comma
    [comma].intercalate (addresses.map trim)

/-- `number` is the decimal text of the number that a text is, if it is one. -/
def sanitizeValueForNumberInputType (number : String16 → Option String16)
    (proposedValue : String16) : String16 :=
  (number proposedValue).getD []

def sanitizeValueForTextFieldInputType (number : String16 → Option String16)
    (proposedValue : String16) (element : Element) : String16 :=
  if element.type = .email then sanitizeValueForEmailInputType proposedValue element
  else if element.type = .number then sanitizeValueForNumberInputType number proposedValue
  else
    let valueWithLineBreakRemoved := removeLineBreaks proposedValue
    let newLength := valueWithLineBreakRemoved.findIdx isControl
    valueWithLineBreakRemoved.take newLength

def sanitizeValueForInputElement (number : String16 → Option String16) (proposedValue : String16)
    (element : Element) : String16 :=
  if proposedValue = [] then []
  else if isTextField element then
    sanitizeValueForTextFieldInputType number proposedValue element
  else proposedValue

/-! ## The specification -/

/-- No character below the space but the tab: no line feed and no carriage return either. -/
def Plain (s : String16) : Prop := ∀ c ∈ s, isControl c = false

structure Sanitized (number : String16 → Option String16) (element : Element)
    (proposedValue : String16) : Prop where
  idempotent :
    sanitizeValueForInputElement number
        (sanitizeValueForInputElement number proposedValue element) element =
      sanitizeValueForInputElement number proposedValue element
  plain : Plain (sanitizeValueForInputElement number proposedValue element)

/-- Control characters only occur in pairs that are line breaks. -/
inductive Paired : String16 → Prop
  | nil : Paired []
  | char {c : UInt16} {s : String16} : isControl c = false → Paired s → Paired (c :: s)
  | pair {c d : UInt16} {s : String16} : IsLineBreakPair c d → Paired s → Paired (c :: d :: s)

/-- What an email address may have, but for whitespace around it. -/
def Sanitizable (element : Element) (proposedValue : String16) : Prop :=
  element.type = .email →
    if element.multiple then
      ∀ address ∈ proposedValue.splitOn comma, Surrounded isWhitespace Paired address
    else Surrounded isWhitespace Plain proposedValue

/-! ## Line breaks -/

variable {c : UInt16}

theorem isControl_of_lineBreak (h : c = lineFeed ∨ c = carriageReturn) : isControl c = true := by
  rcases h with rfl | rfl <;> rfl

theorem IsLineBreakPair.isWhitespace {c d : UInt16} (h : IsLineBreakPair c d) :
    isWhitespace c = true ∧ isWhitespace d = true := by
  rcases h with ⟨rfl, rfl⟩ | ⟨rfl, rfl⟩ <;> exact ⟨rfl, rfl⟩

theorem IsLineBreakPair.isControl {c d : UInt16} (h : IsLineBreakPair c d) :
    isControl c = true ∧ isControl d = true := by
  rcases h with ⟨rfl, rfl⟩ | ⟨rfl, rfl⟩ <;> exact ⟨rfl, rfl⟩

variable {s : String16}

theorem removeLineBreaks_of_plain (h : Plain s) : removeLineBreaks s = s := by
  induction s using removeLineBreaks.induct with
  | case1 => rfl
  | case2 c hc =>
    exact absurd (isControl_of_lineBreak hc) (ne_true_of_eq_false (h c mem_cons_self))
  | case3 c hc => rw [removeLineBreaks, if_neg hc]
  | case4 c d s hpair =>
    exact absurd (isControl_of_lineBreak (.inr hpair.1))
      (ne_true_of_eq_false (h c mem_cons_self))
  | case5 c d s hpair hc =>
    exact absurd (isControl_of_lineBreak hc) (ne_true_of_eq_false (h c mem_cons_self))
  | case6 c d s hpair hc ih =>
    rw [removeLineBreaks, if_neg hpair, if_neg hc, ih fun x hx => h x (mem_cons_of_mem c hx)]

theorem removeLineBreakPairs_cons {s : String16} (h : ∀ d ∈ s.head?, ¬IsLineBreakPair c d) :
    removeLineBreakPairs (c :: s) = c :: removeLineBreakPairs s := by
  cases s with
  | nil => rfl
  | cons d s => rw [removeLineBreakPairs, if_neg (h d rfl)]

theorem removeLineBreakPairs_pair {c d : UInt16} (h : IsLineBreakPair c d) (s : String16) :
    removeLineBreakPairs (c :: d :: s) = removeLineBreakPairs s := by
  rw [removeLineBreakPairs, if_pos h]

theorem removeLineBreakPairs_char (h : isControl c = false) (s : String16) :
    removeLineBreakPairs (c :: s) = c :: removeLineBreakPairs s :=
  removeLineBreakPairs_cons fun _ _ hpair => ne_true_of_eq_false h hpair.isControl.1

theorem removeLineBreakPairs_sublist (s : String16) : (removeLineBreakPairs s).Sublist s := by
  induction s using removeLineBreakPairs.induct with
  | case1 | case2 => exact List.Sublist.refl _
  | case3 c d s hpair ih =>
    rw [removeLineBreakPairs_pair hpair]
    exact (ih.cons d).cons c
  | case4 c d s hpair ih =>
    rw [removeLineBreakPairs, if_neg hpair]
    exact ih.cons_cons c

theorem removeLineBreakPairs_of_plain (h : Plain s) : removeLineBreakPairs s = s := by
  induction s with
  | nil => rfl
  | cons c s ih =>
    rw [removeLineBreakPairs_char (h c mem_cons_self),
      ih fun x hx => h x (mem_cons_of_mem c hx)]

/-- No line break pair crosses a comma. -/
theorem removeLineBreakPairs_comma (s t : String16) :
    removeLineBreakPairs (s ++ comma :: t) =
      removeLineBreakPairs s ++ comma :: removeLineBreakPairs t := by
  have hcomma : isControl comma = false := rfl
  induction s using removeLineBreakPairs.induct with
  | case1 => exact removeLineBreakPairs_char hcomma t
  | case2 c =>
    have hnot : ¬IsLineBreakPair c comma := fun h => Bool.false_ne_true h.isControl.2
    rw [singleton_append, removeLineBreakPairs_cons (by rintro d ⟨⟩; exact hnot),
      removeLineBreakPairs_char hcomma]
    rfl
  | case3 c d s hpair ih =>
    rw [removeLineBreakPairs_pair hpair, ← ih]
    exact removeLineBreakPairs_pair hpair _
  | case4 c d s hpair ih =>
    have hcons (u : String16) : removeLineBreakPairs (c :: d :: u) =
        c :: removeLineBreakPairs (d :: u) := by rw [removeLineBreakPairs, if_neg hpair]
    rw [hcons]
    exact (hcons (s ++ comma :: t)).trans (congrArg (c :: ·) ih)

theorem splitOn_removeLineBreakPairs (s : String16) :
    (removeLineBreakPairs s).splitOn comma = (s.splitOn comma).map removeLineBreakPairs :=
  splitOn_map removeLineBreakPairs_comma
    (fun s h hmem => h ((removeLineBreakPairs_sublist s).subset hmem)) s

/-! ## What is left of an address -/

/-- The removal splits where its result does. -/
theorem removeLineBreakPairs_eq_append {s x y : String16} (h : removeLineBreakPairs s = x ++ y) :
    ∃ s₁ s₂, s = s₁ ++ s₂ ∧ removeLineBreakPairs s₁ = x ∧ removeLineBreakPairs s₂ = y := by
  induction s using removeLineBreakPairs.induct generalizing x with
  | case1 =>
    obtain ⟨rfl, rfl⟩ := nil_eq_append_iff.1 h
    exact ⟨[], [], rfl, rfl, rfl⟩
  | case2 c =>
    cases x with
    | nil => exact ⟨[], [c], rfl, rfl, h⟩
    | cons d x =>
      obtain ⟨rfl, hnil⟩ := cons.inj h
      obtain ⟨rfl, rfl⟩ := nil_eq_append_iff.1 hnil
      exact ⟨[c], [], rfl, rfl, rfl⟩
  | case3 c d s hpair ih =>
    rw [removeLineBreakPairs_pair hpair] at h
    obtain ⟨s₁, s₂, rfl, h₁, h₂⟩ := ih h
    exact ⟨c :: d :: s₁, s₂, rfl, (removeLineBreakPairs_pair hpair s₁).trans h₁, h₂⟩
  | case4 c d s hpair ih =>
    cases x with
    | nil => exact ⟨[], c :: d :: s, rfl, rfl, h⟩
    | cons e x =>
      rw [removeLineBreakPairs, if_neg hpair] at h
      obtain ⟨rfl, hrest⟩ := cons.inj h
      obtain ⟨s₁, s₂, hs, rfl, h₂⟩ := ih hrest
      refine ⟨c :: s₁, s₂, congrArg (c :: ·) hs, removeLineBreakPairs_cons fun e he => ?_, h₂⟩
      have hhead : e ∈ (s₁ ++ s₂).head? := mem_head?_append_of_mem_head? he
      rw [← hs] at hhead
      exact Option.some.inj hhead ▸ hpair

theorem isWhitespace_of_removeLineBreakPairs
    (h : ∀ c ∈ removeLineBreakPairs s, isWhitespace c = true) : ∀ c ∈ s, isWhitespace c = true := by
  induction s using removeLineBreakPairs.induct with
  | case1 | case2 => exact h
  | case3 c d s hpair ih =>
    rw [removeLineBreakPairs_pair hpair] at h
    exact forall_mem_cons.2
      ⟨hpair.isWhitespace.1, forall_mem_cons.2 ⟨hpair.isWhitespace.2, ih h⟩⟩
  | case4 c d s hpair ih =>
    rw [removeLineBreakPairs, if_neg hpair, forall_mem_cons] at h
    exact forall_mem_cons.2 ⟨h.1, ih h.2⟩

theorem paired_of_removeLineBreakPairs (h : Plain (removeLineBreakPairs s)) : Paired s := by
  induction s using removeLineBreakPairs.induct with
  | case1 => exact .nil
  | case2 c => exact .char (h c mem_cons_self) .nil
  | case3 c d s hpair ih =>
    rw [removeLineBreakPairs_pair hpair] at h
    exact .pair hpair (ih h)
  | case4 c d s hpair ih =>
    rw [removeLineBreakPairs, if_neg hpair] at h
    exact .char (h c mem_cons_self) (ih fun x hx => h x (mem_cons_of_mem c hx))

theorem isWhitespace_removeLineBreakPairs (h : ∀ c ∈ s, isWhitespace c = true) :
    ∀ c ∈ removeLineBreakPairs s, isWhitespace c = true :=
  fun c hc => h c ((removeLineBreakPairs_sublist s).subset hc)

/-- From the first character of what was paired on, the pairs are removed as they are. -/
theorem removeLineBreakPairs_paired {core after : String16} (hcore : Paired core)
    (hafter : ∀ c ∈ after, isWhitespace c = true) :
    ∃ plain rest, removeLineBreakPairs (core ++ after) = plain ++ rest ∧ Plain plain ∧
      ∀ c ∈ rest, isWhitespace c = true := by
  induction hcore with
  | nil => exact ⟨[], _, rfl, forall_mem_nil _, isWhitespace_removeLineBreakPairs hafter⟩
  | @char c s hc _ ih =>
    obtain ⟨plain, rest, heq, hplain, hrest⟩ := ih
    refine ⟨c :: plain, rest, ?_, forall_mem_cons.2 ⟨hc, hplain⟩, hrest⟩
    exact (removeLineBreakPairs_char hc _).trans (congrArg (c :: ·) heq)
  | @pair c d s hpair _ ih =>
    obtain ⟨plain, rest, heq, hplain, hrest⟩ := ih
    exact ⟨plain, rest, (removeLineBreakPairs_pair hpair _).trans heq, hplain, hrest⟩

theorem surrounded_cons {s : String16} (hc : isWhitespace c = true)
    (h : Surrounded isWhitespace Plain s) : Surrounded isWhitespace Plain (c :: s) := by
  obtain ⟨before, core, after, rfl, hbefore, hafter, hcore⟩ := h
  exact ⟨c :: before, core, after, rfl, forall_mem_cons.2 ⟨hc, hbefore⟩, hafter, hcore⟩

theorem surrounded_removeLineBreakPairs_paired {core after : String16} (hcore : Paired core)
    (hafter : ∀ c ∈ after, isWhitespace c = true) :
    Surrounded isWhitespace Plain (removeLineBreakPairs (core ++ after)) := by
  obtain ⟨plain, rest, heq, hplain, hrest⟩ := removeLineBreakPairs_paired hcore hafter
  exact ⟨[], plain, rest, heq, forall_mem_nil _, hrest, hplain⟩

/-- Whitespace in front of a pair may take its first half. The other half is whitespace in front of
what follows the pair then. -/
theorem surrounded_removeLineBreakPairs_cons {core after : String16}
    (hc : isWhitespace c = true) (hcore : Paired core)
    (hafter : ∀ c ∈ after, isWhitespace c = true) :
    Surrounded isWhitespace Plain (removeLineBreakPairs (c :: (core ++ after))) := by
  induction hcore generalizing c with
  | nil =>
    refine ⟨_, [], [], (append_nil _).symm, ?_, forall_mem_nil _, forall_mem_nil _⟩
    exact isWhitespace_removeLineBreakPairs (forall_mem_cons.2 ⟨hc, hafter⟩)
  | @char d s hd hs =>
    rw [removeLineBreakPairs_cons fun e he hpair => ?_]
    · exact surrounded_cons hc (surrounded_removeLineBreakPairs_paired (hs.char hd) hafter)
    · obtain rfl : d = e := Option.some.inj he
      exact ne_true_of_eq_false hd hpair.isControl.2
  | @pair d e s hde hs ih =>
    by_cases hpair : IsLineBreakPair c d
    · rw [cons_append, removeLineBreakPairs_pair hpair]
      exact ih hde.isWhitespace.2
    · rw [removeLineBreakPairs_cons fun x hx => Option.some.inj hx ▸ hpair]
      exact surrounded_cons hc (surrounded_removeLineBreakPairs_paired (hs.pair hde) hafter)

theorem surrounded_removeLineBreakPairs_iff {address : String16} :
    Surrounded isWhitespace Plain (removeLineBreakPairs address) ↔
      Surrounded isWhitespace Paired address := by
  constructor
  · rintro ⟨before, core, after, heq, hbefore, hafter, hcore⟩
    obtain ⟨s₁, rest, rfl, rfl, hrest⟩ := removeLineBreakPairs_eq_append heq
    obtain ⟨s₂, s₃, rfl, rfl, rfl⟩ := removeLineBreakPairs_eq_append hrest
    exact ⟨s₁, s₂, s₃, rfl, isWhitespace_of_removeLineBreakPairs hbefore,
      isWhitespace_of_removeLineBreakPairs hafter, paired_of_removeLineBreakPairs hcore⟩
  · rintro ⟨before, core, after, rfl, hbefore, hafter, hcore⟩
    induction before using removeLineBreakPairs.induct with
    | case1 =>
      rw [nil_append]
      exact surrounded_removeLineBreakPairs_paired hcore hafter
    | case2 c =>
      rw [singleton_append]
      exact surrounded_removeLineBreakPairs_cons (hbefore c mem_cons_self) hcore hafter
    | case3 c d s hpair ih =>
      rw [cons_append, cons_append, removeLineBreakPairs_pair hpair]
      exact ih fun x hx => hbefore x (mem_cons_of_mem c (mem_cons_of_mem d hx))
    | case4 c d s hpair ih =>
      rw [cons_append, cons_append, removeLineBreakPairs, if_neg hpair]
      exact surrounded_cons (hbefore c mem_cons_self)
        (ih fun x hx => hbefore x (mem_cons_of_mem c hx))

/-! ## The types -/

variable {number : String16 → Option String16} {element : Element} {proposedValue : String16}

theorem sanitizeValueForInputElement_of_textField (htext : isTextField element = true) :
    sanitizeValueForInputElement number proposedValue element =
      if proposedValue = [] then []
      else sanitizeValueForTextFieldInputType number proposedValue element := by
  rw [sanitizeValueForInputElement, if_pos htext]

/-- For a sanitizer that leaves the empty value empty. -/
theorem sanitized_iff_of_eq {f : String16 → String16} (hnil : f [] = [])
    (hf : ∀ value, sanitizeValueForInputElement number value element =
      if value = [] then [] else f value) :
    Sanitized number element proposedValue ↔
      f (f proposedValue) = f proposedValue ∧ Plain (f proposedValue) := by
  have heq : ∀ value, sanitizeValueForInputElement number value element = f value := by
    intro value
    rw [hf]
    split_ifs with hempty
    · rw [hempty, hnil]
    · rfl
  constructor
  · rintro ⟨hidem, hplain⟩
    simp only [heq] at hidem hplain
    exact ⟨hidem, hplain⟩
  · rintro ⟨hidem, hplain⟩
    exact ⟨by simp only [heq]; exact hidem, by rw [heq]; exact hplain⟩

/-- Up to the first control character that is left without the line breaks. -/
def limitLength (s : String16) : String16 :=
  (removeLineBreaks s).take ((removeLineBreaks s).findIdx isControl)

theorem limitLength_eq (s : String16) :
    limitLength s = (removeLineBreaks s).takeWhile fun c => !isControl c := by
  rw [takeWhile_eq_take_findIdx_not]
  simp only [Bool.not_not]
  rfl

theorem plain_limitLength (s : String16) : Plain (limitLength s) := by
  intro c hc
  rw [limitLength_eq] at hc
  have := mem_takeWhile_imp hc
  rwa [Bool.not_eq_true'] at this

theorem limitLength_of_plain (h : Plain s) : limitLength s = s := by
  rw [limitLength_eq, removeLineBreaks_of_plain h, takeWhile_eq_self_iff]
  exact fun c hc => Bool.not_eq_true' _ ▸ h c hc

theorem sanitized_of_not_email (htext : isTextField element = true)
    (hnumber : element.type ≠ .number) (hemail : element.type ≠ .email) :
    Sanitized number element proposedValue := by
  refine (sanitized_iff_of_eq (f := limitLength) rfl fun value => ?_).2
    ⟨limitLength_of_plain (plain_limitLength _), plain_limitLength _⟩
  rw [sanitizeValueForInputElement_of_textField htext, sanitizeValueForTextFieldInputType,
    if_neg hemail, if_neg hnumber]
  rfl

theorem sanitizeValueForEmail (hemail : element.type = .email) (value : String16) :
    sanitizeValueForInputElement number value element =
      if value = [] then [] else sanitizeValueForEmailInputType value element := by
  have htext : isTextField element = true := by
    rw [isTextField, hemail]
  rw [sanitizeValueForInputElement_of_textField htext, sanitizeValueForTextFieldInputType,
    if_pos hemail]

theorem sanitized_single_iff (hemail : element.type = .email)
    (hsingle : element.multiple = false) :
    Sanitized number element proposedValue ↔ Surrounded isWhitespace Plain proposedValue := by
  rw [sanitized_iff_of_eq (f := trim) rfl fun value => ?_]
  · exact (and_iff_right (trim_trim isWhitespace proposedValue)).trans forall_mem_trim_iff
  · rw [sanitizeValueForEmail hemail, sanitizeValueForEmailInputType, hsingle]
    rfl

/-- Several addresses, each of which is trimmed. -/
def trimAddresses (value : String16) : String16 :=
  [comma].intercalate (((removeLineBreakPairs value).splitOn comma).map trim)

theorem splitOn_trimAddresses (value : String16) : (trimAddresses value).splitOn comma =
    ((removeLineBreakPairs value).splitOn comma).map trim := by
  refine splitOn_intercalate comma ?_ ?_
  · intro address haddress hcomma
    obtain ⟨part, hpart, rfl⟩ := mem_map.1 haddress
    exact notMem_of_mem_splitOn hpart (trim_subset isWhitespace part hcomma)
  · exact mt map_eq_nil_iff.1 (splitOn_ne_nil comma _)

theorem plain_intercalate {addresses : List String16} :
    Plain ([comma].intercalate addresses) ↔ ∀ address ∈ addresses, Plain address := by
  induction addresses with
  | nil => exact iff_of_true (forall_mem_nil _) (forall_mem_nil _)
  | cons address rest ih =>
    by_cases hrest : rest = []
    · rw [hrest, intercalate_singleton, forall_mem_singleton]
    · rw [intercalate_cons_of_ne_nil hrest, forall_mem_cons, ← ih]
      simp only [Plain, forall_mem_append, forall_mem_singleton]
      exact ⟨fun h => ⟨h.1.1, h.2⟩, fun h => ⟨⟨h.1, rfl⟩, h.2⟩⟩

theorem plain_trimAddresses_iff : Plain (trimAddresses proposedValue) ↔
    ∀ address ∈ proposedValue.splitOn comma, Surrounded isWhitespace Paired address := by
  rw [trimAddresses, plain_intercalate, splitOn_removeLineBreakPairs, map_map,
    forall_mem_map]
  refine forall₂_congr fun address _ => ?_
  exact forall_mem_trim_iff.trans surrounded_removeLineBreakPairs_iff

/-- Without control characters there is no pair left, and nothing to trim. -/
theorem trimAddresses_idempotent (h : Plain (trimAddresses proposedValue)) :
    trimAddresses (trimAddresses proposedValue) = trimAddresses proposedValue := by
  have htrim : trim ∘ trim = trim := funext (trim_trim isWhitespace)
  conv_lhs => rw [trimAddresses]
  rw [removeLineBreakPairs_of_plain h, splitOn_trimAddresses, map_map, htrim]
  rfl

theorem sanitized_multiple_iff (hemail : element.type = .email)
    (hmultiple : element.multiple = true) :
    Sanitized number element proposedValue ↔
      ∀ address ∈ proposedValue.splitOn comma, Surrounded isWhitespace Paired address := by
  rw [sanitized_iff_of_eq (f := trimAddresses) rfl fun value => ?_, ← plain_trimAddresses_iff]
  · exact and_iff_right_of_imp trimAddresses_idempotent
  · rw [sanitizeValueForEmail hemail, sanitizeValueForEmailInputType, hmultiple]
    rfl

/-- A value of a text field other than a number is sanitized unless it is for an email field and has
control characters inside an address. -/
theorem sanitized_iff (htext : isTextField element = true) (hnumber : element.type ≠ .number) :
    Sanitized number element proposedValue ↔ Sanitizable element proposedValue := by
  by_cases hemail : element.type = .email
  · rw [Sanitizable, imp_iff_right hemail]
    split_ifs with hmultiple
    · exact sanitized_multiple_iff hemail hmultiple
    · exact sanitized_single_iff hemail (eq_false_of_ne_true hmultiple)
  · exact iff_of_true (sanitized_of_not_email htext hnumber hemail) fun h => absurd h hemail

/-- `"a\r\n,b"`, for an email field with several addresses. -/
theorem sanitized_twoAddresses :
    Sanitized (fun _ => none) ⟨.email, true⟩ [97, 13, 10, 44, 98] := by
  have hparts : [97, 13, 10, 44, 98].splitOn comma = [[97, 13, 10], [98]] := by decide
  refine (sanitized_iff rfl (by decide)).2 fun _ => ?_
  rw [if_pos rfl, hparts, forall_mem_cons, forall_mem_singleton]
  exact ⟨⟨[], [97], [13, 10], rfl, forall_mem_nil _, all_eq_true.1 rfl, .char rfl .nil⟩,
    ⟨[], [98], [], rfl, forall_mem_nil _, forall_mem_nil _, .char rfl .nil⟩⟩

/-- `"a\nb"`, for an email field with one address. -/
theorem email_not_sanitized :
    isTextField ⟨.email, false⟩ = true ∧
      ¬Sanitized (fun _ => none) ⟨.email, false⟩ [97, 10, 98] := by
  refine ⟨rfl, fun h => ?_⟩
  have hplain := h.plain 10 (by decide)
  revert hplain
  decide

end SanitizedValues

end ChromiumIos
