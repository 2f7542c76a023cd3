import Mathlib.Data.List.Nodup
import Mathlib.Data.List.Range
import ChromiumIos.Web.Types

/-!
# Request group IDs

`request_group_util.mm`: the IDs that tie a request to its tab are numbers from a
counter, and travel at the end of the user agent.

- `generateNewRequestGroupID`: the first thousand numbers are rotated by an offset, which is
  drawn once for a process.
- `generated_eq_iff`: two calls give one ID exactly when the counter, which is 64 bits wide, is the
  same.
- `request_group_round_trip`: the IDs of a run differ as long as the counter does not wrap around,
  and an ID is extracted from the user agent it was added to, unless its first character is a mark
  that combines with the parenthesis.
-/

namespace ChromiumIos

open List Nat

/-- A character of an ASCII literal. -/
def asciiUnit (c : Char) : UInt16 := c.toNat.toUInt16

namespace RequestGroup

/-- Minimum length for a request group ID. A shorter string is considered as an
invalid ID. -/
def minimumIDLength : Nat := 5

/-- `kGroupSize`. -/
def groupSize : UInt64 := 1000

/-- The static variables of `GenerateNewRequestGroupID`. -/
structure Generator where
  count : UInt64
  offset : UInt32
deriving DecidableEq, Repr

/-- `%06lu`. -/
def format06 (n : UInt64) : String16 :=
  let digits := toDigits 10 n.toNat
  (List.replicate (6 - digits.length) '0' ++ digits).map asciiUnit

namespace Generator

/-- Before the first call, with the offset that is drawn then. -/
def new (offset : UInt32) : Generator := ⟨0, offset⟩

/-- The number that the next ID shows. -/
def current (g : Generator) : UInt64 :=
  if g.count < groupSize then (g.count + g.offset.toUInt64) % groupSize else g.count

def generateNewRequestGroupID (g : Generator) : String16 × Generator :=
  (format06 g.current, { g with count := g.count + 1 })

/-- The IDs of a number of calls. -/
def generateIDs (g : Generator) : Nat → List String16
  | 0 => []
  | calls + 1 =>
    let (id, g) := g.generateNewRequestGroupID
    id :: g.generateIDs calls

end Generator

/-- Where the characters of a text end, which Foundation's searches respect. -/
structure CharacterBreaks where
  /-- Whether a text goes on with the character before it, as a combining mark does. -/
  continues : String16 → Bool
  nil : continues [] = false
  ascii : ∀ unit text, unit < 128 → continues (unit :: text) = false

variable (breaks : CharacterBreaks)

/-- `componentsSeparatedByString:@" "`. -/
def components : String16 → List String16
  | [] => [[]]
  | unit :: text =>
    if unit = asciiUnit ' ' ∧ breaks.continues text = false then [] :: components text
    else (components text).modifyHead (unit :: ·)

/-- `ExtractRequestGroupIDFromUserAgent`. -/
def extractRequestGroupIDFromUserAgent (userAgent : String16) : Option String16 :=
  if userAgent.length = 0 then none
  else
    -- The last space-delimited fragment.
    let fragment := ((components breaks userAgent).getLast?).getD []
    let hasPrefix := [asciiUnit '('].isPrefixOf fragment && !breaks.continues (fragment.drop 1)
    if hasPrefix && [asciiUnit ')'].isSuffixOf fragment then
      let requestGroupID := (fragment.drop 1).take (fragment.length - 2)
      -- "(gzip)" is no ID.
      if requestGroupID.length < minimumIDLength then none else some requestGroupID
    else none

/-- `AddRequestGroupIDToUserAgent`. -/
def addRequestGroupIDToUserAgent (baseUserAgent : String16) : Option String16 → String16
  | none => baseUserAgent
  | some requestGroupID =>
    baseUserAgent ++ [asciiUnit ' ', asciiUnit '('] ++ requestGroupID ++ [asciiUnit ')']

/-! ## The number of an ID -/

/-- The number that the digits of an ID show. -/
def numberOf (id : String16) : Nat :=
  ofDigitChars 10 (id.map fun unit => Char.ofNat unit.toNat) 0

theorem toNat_lt_of_isDigit {c : Char} (h : c.isDigit = true) : 48 ≤ c.toNat ∧ c.toNat ≤ 57 := by
  simpa [Char.isDigit, UInt32.le_iff_toNat_le] using h

theorem ofNat_asciiUnit {c : Char} (h : c.isDigit = true) :
    Char.ofNat (asciiUnit c).toNat = c := by
  have hlt : c.toNat < 2 ^ 16 := lt_of_le_of_lt (toNat_lt_of_isDigit h).2 (by decide)
  rw [asciiUnit, toUInt16, UInt16.toNat_ofNat', mod_eq_of_lt hlt]
  exact Char.ofNat_toNat c

theorem isDigit_padded {n : UInt64} {c : Char}
    (h : c ∈ List.replicate (6 - (toDigits 10 n.toNat).length) '0' ++
      toDigits 10 n.toNat) : c.isDigit = true := by
  rcases mem_append.1 h with hzero | hdigit
  · rw [eq_of_mem_replicate hzero]
    decide
  · exact isDigit_of_mem_toDigits (by decide) (by decide) hdigit

/-- The zeros in front do not count. -/
theorem numberOf_format06 (n : UInt64) : numberOf (format06 n) = n.toNat := by
  rw [numberOf, format06, map_map]
  have hsame : ∀ c ∈ List.replicate (6 - (toDigits 10 n.toNat).length) '0' ++
      toDigits 10 n.toNat, ((fun unit : UInt16 => Char.ofNat unit.toNat) ∘ asciiUnit) c = c :=
    fun c hc => ofNat_asciiUnit (isDigit_padded hc)
  rw [map_congr_left hsame, map_id', ofDigitChars_append,
    ofDigitChars_replicate_zero, mul_zero, ofDigitChars_ten_toDigits]

theorem format06_inj {m n : UInt64} : format06 m = format06 n ↔ m = n := by
  constructor
  · intro h
    have hnumber := congrArg numberOf h
    rw [numberOf_format06, numberOf_format06] at hnumber
    exact UInt64.toNat_inj.1 hnumber
  · rintro rfl
    rfl

/-! ## The IDs of a run -/

namespace Generator

theorem toNat_current (count : UInt64) (offset : UInt32) :
    (current ⟨count, offset⟩).toNat =
      if count.toNat < 1000 then (count.toNat + offset.toNat) % 1000 else count.toNat := by
  have hoffset := offset.toNat_lt
  rw [current]
  by_cases hsmall : count.toNat < 1000
  · -- the sum is far from `2 ^ 64`
    have hsum : count.toNat + offset.toNat < 2 ^ 64 := by omega
    rw [if_pos (UInt64.lt_iff_toNat_lt.2 hsmall), if_pos hsmall, UInt64.toNat_mod,
      UInt64.toNat_add, UInt32.toNat_toUInt64, mod_eq_of_lt hsum]
    rfl
  · rw [if_neg fun h => hsmall (UInt64.lt_iff_toNat_lt.1 h), if_neg hsmall]

/-- The rotation by the offset gives every number of the group once. -/
theorem current_inj {a b : UInt64} {offset : UInt32} :
    current ⟨a, offset⟩ = current ⟨b, offset⟩ ↔ a = b := by
  rw [← UInt64.toNat_inj, ← UInt64.toNat_inj, toNat_current, toNat_current]
  constructor
  · intro h
    split at h
    · split at h <;> omega
    · split at h <;> omega
  · intro h
    rw [h]

/-- Two calls give one ID exactly when the counter is the same. -/
theorem generated_eq_iff {a b : UInt64} {offset : UInt32} :
    (generateNewRequestGroupID ⟨a, offset⟩).1 = (generateNewRequestGroupID ⟨b, offset⟩).1 ↔
      a = b :=
  format06_inj.trans current_inj

/-- The IDs of a run, call by call. -/
theorem generateIDs_eq (calls : Nat) (count : UInt64) (offset : UInt32) :
    generateIDs ⟨count, offset⟩ calls = (List.range calls).map fun call =>
      (generateNewRequestGroupID ⟨count + UInt64.ofNat call, offset⟩).1 := by
  induction calls generalizing count with
  | zero => rfl
  | succ calls ih =>
    rw [generateIDs, range_succ_eq_map, map_cons, map_map]
    refine congrArg₂ List.cons ?_ ((ih (count + 1)).trans (map_congr_left fun call _ => ?_))
    · rw [show UInt64.ofNat 0 = 0 from rfl, UInt64.add_zero]
      rfl
    · dsimp only [Function.comp_apply]
      rw [succ_eq_add_one, UInt64.ofNat_add, UInt64.add_assoc, UInt64.add_comm 1]
      rfl

/-- The IDs of a run differ as long as the counter does not wrap around. -/
theorem nodup_generateIDs_iff (calls : Nat) (offset : UInt32) :
    ((new offset).generateIDs calls).Nodup ↔ calls ≤ 2 ^ 64 := by
  rw [new, generateIDs_eq]
  constructor
  · intro hnodup
    by_contra hlong
    have hcalls : 2 ^ 64 < calls := by omega
    have hinj := inj_on_of_nodup_map hnodup (x := 0) (mem_range.2 (by omega))
      (y := 2 ^ 64) (mem_range.2 hcalls)
    have hwrap : UInt64.ofNat 0 = UInt64.ofNat (2 ^ 64) := by decide
    exact absurd (hinj (by rw [hwrap])) (by decide)
  · intro hcalls
    refine nodup_range.map_on fun a ha b hb h => ?_
    have hcount := congrArg UInt64.toNat (generated_eq_iff.1 h)
    rw [mem_range] at ha hb
    rw [UInt64.zero_add, UInt64.zero_add, UInt64.toNat_ofNat', UInt64.toNat_ofNat',
      mod_eq_of_lt (by omega), mod_eq_of_lt (by omega)] at hcount
    exact hcount

end Generator

/-! ## The user agent -/

variable {breaks : CharacterBreaks}

theorem components_of_notMem {text : String16} (hspace : asciiUnit ' ' ∉ text) :
    components breaks text = [text] := by
  induction text with
  | nil => rfl
  | cons unit text ih =>
    rw [mem_cons, not_or] at hspace
    rw [components, if_neg fun h => hspace.1 h.1.symm, ih hspace.2]
    rfl

/-- What follows the last space is the last of several fragments, unless it goes on with the
space. -/
theorem components_append {fragment : String16} (hspace : asciiUnit ' ' ∉ fragment)
    (hbreak : breaks.continues fragment = false) (before : String16) :
    ∃ first rest, components breaks (before ++ asciiUnit ' ' :: fragment) =
      first :: (rest ++ [fragment]) := by
  induction before with
  | nil =>
    rw [nil_append, components, if_pos ⟨rfl, hbreak⟩, components_of_notMem hspace]
    exact ⟨[], [], rfl⟩
  | cons unit before ih =>
    obtain ⟨first, rest, heq⟩ := ih
    rw [cons_append, components, heq]
    split
    · exact ⟨[], first :: rest, rfl⟩
    · exact ⟨unit :: first, rest, rfl⟩

theorem extract_add {requestGroupID : String16} (hspace : asciiUnit ' ' ∉ requestGroupID)
    (hlength : minimumIDLength ≤ requestGroupID.length)
    (hbreak : breaks.continues (requestGroupID ++ [asciiUnit ')']) = false)
    (baseUserAgent : String16) :
    extractRequestGroupIDFromUserAgent breaks
      (addRequestGroupIDToUserAgent baseUserAgent (some requestGroupID)) = some requestGroupID := by
  let fragment := asciiUnit '(' :: (requestGroupID ++ [asciiUnit ')'])
  have hfragment : asciiUnit ' ' ∉ fragment := by
    intro hmem
    rcases mem_cons.1 hmem with hopen | hrest
    · exact absurd hopen (by decide)
    · rcases mem_append.1 hrest with hid | hclose
      · exact hspace hid
      · exact absurd (mem_singleton.1 hclose) (by decide)
  have hadd : addRequestGroupIDToUserAgent baseUserAgent (some requestGroupID) =
      baseUserAgent ++ asciiUnit ' ' :: fragment := by
    simp [addRequestGroupIDToUserAgent, fragment]
  obtain ⟨first, rest, hcomponents⟩ :=
    components_append hfragment (breaks.ascii _ _ (by decide)) baseUserAgent
  have hlast : (components breaks (baseUserAgent ++ asciiUnit ' ' :: fragment)).getLast? =
      some fragment := by
    rw [hcomponents, ← cons_append, getLast?_concat]
  have hopens : [asciiUnit '('].isPrefixOf fragment = true := isPrefixOf_iff_prefix.2 ⟨_, rfl⟩
  have hcloses : [asciiUnit ')'].isSuffixOf fragment = true :=
    isSuffixOf_iff_suffix.2 ⟨asciiUnit '(' :: requestGroupID, rfl⟩
  have hmiddle : (fragment.drop 1).take (fragment.length - 2) = requestGroupID := by
    simp [fragment]
  have hid : breaks.continues (fragment.drop 1) = false := hbreak
  rw [hadd, extractRequestGroupIDFromUserAgent, if_neg (by simp), hlast]
  dsimp only [Option.getD_some]
  rw [hopens, hcloses, hid, hmiddle]
  exact if_neg (not_lt.2 hlength)

/-- The IDs of a run differ exactly as long as it has no more than `2 ^ 64` calls, whatever the
offset is, and an ID that does not go on with the parenthesis is extracted from every user agent it
was added to. -/
theorem request_group_round_trip (breaks : CharacterBreaks) (offset : UInt32)
    (baseUserAgent requestGroupID : String16) (hspace : asciiUnit ' ' ∉ requestGroupID)
    (hlength : minimumIDLength ≤ requestGroupID.length)
    (hbreak : breaks.continues (requestGroupID ++ [asciiUnit ')']) = false) :
    (∀ calls, ((Generator.new offset).generateIDs calls).Nodup ↔ calls ≤ 2 ^ 64) ∧
    extractRequestGroupIDFromUserAgent breaks
      (addRequestGroupIDToUserAgent baseUserAgent (some requestGroupID)) = some requestGroupID :=
  ⟨fun calls => Generator.nodup_generateIDs_iff calls offset,
    extract_add hspace hlength hbreak baseUserAgent⟩

/-- The marks from U+0300 on combine. -/
def combiningMarks : CharacterBreaks where
  continues text := text.head?.any fun unit => 0x300 ≤ unit && unit < 0x370
  nil := rfl
  ascii unit text h := by
    have hlow : ¬ 0x300 ≤ unit := UInt16.not_le.2 (UInt16.lt_trans h (by decide))
    simp [hlow]

/-- The user agent may end like one with an ID, and the ID may hold a parenthesis. -/
theorem request_group_round_trip_gzip :
    let ascii := fun text : String => text.toList.map asciiUnit
    (∀ calls, ((Generator.new 7).generateIDs calls).Nodup ↔ calls ≤ 2 ^ 64) ∧
    extractRequestGroupIDFromUserAgent combiningMarks
      (addRequestGroupIDToUserAgent (ascii "Mozilla (gzip)") (some (ascii "(gzip"))) =
        some (ascii "(gzip") :=
  request_group_round_trip combiningMarks 7 _ _ (by decide) (by decide) (by decide)

/-- After `2 ^ 64` calls the first ID comes again, and an ID that begins with an accent is not
found. -/
theorem generated_ids_repeat :
    ¬((Generator.new 0).generateIDs (2 ^ 64 + 1)).Nodup ∧
      extractRequestGroupIDFromUserAgent combiningMarks
        (addRequestGroupIDToUserAgent [asciiUnit 'a'] (some (0x301 :: format06 0))) = none :=
  ⟨fun h => absurd ((Generator.nodup_generateIDs_iff (2 ^ 64 + 1) 0).1 h) (by decide),
    by decide⟩

end RequestGroup

end ChromiumIos
