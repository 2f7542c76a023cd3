import ChromiumIos.Lib.Parts
import ChromiumIos.Lib.Replacement

/-!
# `ChromeAppStartupParameters`

`chrome_app_startup_parameters.mm`: which app opened this one, and whether a Smart App Banner was
what the user tapped there. Then `safarisab` is a parameter of the query.

- `callerApp`, `launchSource`: the two questions.
- `launchSource_eq`: the query is judged by the first part that has the key anywhere.
- `detects_iff`: when a banner is detected.
-/

namespace ChromiumIos

open Lib List

inductive MobileSessionCallerApp
  | googleSearch
  | googleGmail
  | googlePlus
  | googleDrive
  | googleEarth
  | googleOther
  | other
  | appleMobilesafari
  | appleOther
  | googleYoutube
  | googleMaps
  | notAvailable
  | googleChromeTodayExtension
deriving DecidableEq, Repr

/-- `first_run::ExternalLaunch`. -/
inductive ExternalLaunch
  | launchByOthers
  | launchByMobilesafari
  | launchBySmartappbanner
deriving DecidableEq, Repr

/-- The apps, and the query of the complete URL, if it has one. -/
structure ChromeAppStartupParameters where
  declaredSourceApp : Option String
  secureSourceApp : Option String
  query : Option (List Char)
deriving DecidableEq, Repr

namespace ChromeAppStartupParameters

def kSmartAppBannerKey : List Char := "safarisab".toList

def callerApp (p : ChromeAppStartupParameters) : MobileSessionCallerApp :=
  if p.secureSourceApp = some "TodayExtension" then .googleChromeTodayExtension
  else
    match p.declaredSourceApp with
    | none | some "" => .notAvailable
    | some "com.google.GoogleMobile" => .googleSearch
    | some "com.google.Gmail" => .googleGmail
    | some "com.google.GooglePlus" => .googlePlus
    | some "com.google.Drive" => .googleDrive
    | some "com.google.b612" => .googleEarth
    | some "com.google.ios.youtube" => .googleYoutube
    | some "com.google.Maps" => .googleMaps
    | some app =>
      if "com.google.".toList <+: app.toList then .googleOther
      else if app = "com.apple.mobilesafari" then .appleMobilesafari
      else if "com.apple.".toList <+: app.toList then .appleOther
      else .other

/-- The end of `launchSource`. -/
def launchSourceOfQuery (query : List Char) : ExternalLaunch :=
  if query.length = 0 then .launchByMobilesafari
  else
    match findText kSmartAppBannerKey query with
    | none => .launchByMobilesafari
    | some location =>
      let charAfter := query[location + kSmartAppBannerKey.length]?
      let charBefore := if 0 < location then query[location - 1]? else none
      if charAfter.any (fun c => c != '&' && c != '=') then .launchByMobilesafari
      else if charBefore.any (fun c => c != '&') then .launchByMobilesafari
      else .launchBySmartappbanner

def launchSource (p : ChromeAppStartupParameters) : ExternalLaunch :=
  if p.callerApp ≠ .appleMobilesafari then .launchByOthers
  else launchSourceOfQuery (p.query.getD [])

/-! ## What is to be detected -/

/-- The parts of the query. -/
def parts (p : ChromeAppStartupParameters) : List (List Char) := (p.query.getD []).splitOn '&'

/-- The part is the key, with a value or without one. -/
def IsBanner (part : List Char) : Prop :=
  part = kSmartAppBannerKey ∨ kSmartAppBannerKey ++ ['='] <+: part

instance (part : List Char) : Decidable (IsBanner part) := instDecidableOr

/-- A banner is told from the parts of the query. -/
def Detects (p : ChromeAppStartupParameters) : Prop :=
  p.launchSource =
    if ∃ part ∈ p.parts, IsBanner part then .launchBySmartappbanner else .launchByMobilesafari

instance (p : ChromeAppStartupParameters) : Decidable p.Detects := decEq _ _

/-- If some part is the key, so is the first part that has the key in it. -/
def FirstIsBanner (p : ChromeAppStartupParameters) : Prop :=
  (∃ part ∈ p.parts, IsBanner part) →
    ∀ part ∈ p.parts.find? (fun part => kSmartAppBannerKey <:+: part), IsBanner part

theorem IsBanner.isInfix {part : List Char} (h : IsBanner part) : kSmartAppBannerKey <:+: part := by
  rcases h with rfl | h
  · exact infix_rfl
  · exact ((prefix_append _ _).trans h).isInfix

/-! ## The first occurrence -/

section Occurrence

variable {before after : List Char}

/-- The key is not in the part any earlier. -/
theorem isBanner_append_iff (hfirst : ∀ i < before.length,
    ¬kSmartAppBannerKey <+: before.drop i ++ (kSmartAppBannerKey ++ after)) :
    IsBanner (before ++ (kSmartAppBannerKey ++ after)) ↔
      before = [] ∧ (after = [] ∨ ∃ value, after = '=' :: value) := by
  constructor
  · intro h
    have hstart : kSmartAppBannerKey <+: before ++ (kSmartAppBannerKey ++ after) := by
      rcases h with h | h
      · rw [h]
      · exact (prefix_append _ _).trans h
    cases before with
    | cons c before => exact absurd hstart (hfirst 0 (Nat.succ_pos _))
    | nil =>
      refine ⟨rfl, ?_⟩
      rw [nil_append] at h
      rcases h with h | h
      · exact .inl (List.append_right_eq_self.1 h)
      · obtain ⟨value, hvalue⟩ := (prefix_append_right_inj _).1 h
        exact .inr ⟨value, hvalue.symm⟩
  · rintro ⟨rfl, rfl | ⟨value, rfl⟩⟩
    · exact .inl (append_nil _)
    · exact .inr ((prefix_append_right_inj _).2 ⟨value, rfl⟩)

/-- The character after the key ends the part, or the key. -/
theorem charAfter_iff (after : List Char) :
    after.head?.any (fun c => c != '&' && c != '=') = false ↔
      after.takeWhile (· ≠ '&') = [] ∨ ∃ value, after.takeWhile (· ≠ '&') = '=' :: value := by
  cases after with
  | nil => simp
  | cons c after =>
    by_cases hc : c = '&'
    · simp [hc]
    · simp [hc]

/-- The character before the key ends the part before. -/
theorem charBefore_iff (before : List Char) :
    before.getLast?.any (fun c => c != '&') = false ↔ before.rtakeWhile (· ≠ '&') = [] := by
  rw [rtakeWhile_eq_nil_iff]
  rcases eq_nil_or_concat before with rfl | ⟨before, c, rfl⟩
  · simp
  · simp

theorem charAfter_eq (before after : List Char) :
    (before ++ (kSmartAppBannerKey ++ after))[before.length + kSmartAppBannerKey.length]? =
      after.head? := by
  rw [getElem?_append_right (Nat.le_add_right _ _), Nat.add_sub_cancel_left,
    getElem?_append_right (Nat.le_refl _), Nat.sub_self, head?_eq_getElem?]

theorem charBefore_eq (before rest : List Char) :
    (if 0 < before.length then (before ++ rest)[before.length - 1]? else none) =
      before.getLast? := by
  cases before with
  | nil => rfl
  | cons c before =>
    rw [if_pos (by simp), getElem?_append_left (by simp), getLast?_eq_getElem?]

/-- The part that the first occurrence of the key lies in. -/
theorem isBanner_part_iff (hfirst : ∀ i < before.length,
    ¬kSmartAppBannerKey <+: before.drop i ++ (kSmartAppBannerKey ++ after)) :
    IsBanner (before.rtakeWhile (· ≠ '&') ++
        (kSmartAppBannerKey ++ after.takeWhile (· ≠ '&'))) ↔
      before.rtakeWhile (· ≠ '&') = [] ∧ (after.takeWhile (· ≠ '&') = [] ∨
        ∃ value, after.takeWhile (· ≠ '&') = '=' :: value) := by
  refine isBanner_append_iff fun i hi hstart => ?_
  obtain ⟨lead, hlead⟩ := rtakeWhile_suffix (fun c => decide (c ≠ '&')) before
  have hdrop : before.drop (lead.length + i) = (before.rtakeWhile (· ≠ '&')).drop i := by
    conv_lhs => rw [← hlead]
    rw [drop_append, drop_eq_nil_of_le (by omega), nil_append, Nat.add_sub_cancel_left]
  have hlength := congrArg List.length hlead
  rw [length_append] at hlength
  refine hfirst (lead.length + i) (by omega) ?_
  rw [hdrop]
  refine hstart.trans ((prefix_append_right_inj _).2 ((prefix_append_right_inj _).2 ?_))
  exact takeWhile_prefix _

end Occurrence

/-- The query is judged by the first part that has the key anywhere. -/
theorem launchSourceOfQuery_eq (query : List Char) :
    launchSourceOfQuery query =
      if ∃ part ∈ (query.splitOn '&').find? (fun part => kSmartAppBannerKey <:+: part),
        IsBanner part
      then .launchBySmartappbanner else .launchByMobilesafari := by
  rw [launchSourceOfQuery]
  split
  · next hempty =>
    rw [length_eq_zero_iff.1 hempty]
    decide
  · cases hfind : findText kSmartAppBannerKey query with
    | none =>
      have hnone : (query.splitOn '&').find? (fun part => kSmartAppBannerKey <:+: part) = none := by
        rw [find?_eq_none]
        intro part hpart hkey
        obtain ⟨i, hi, hstart⟩ := isInfix_iff_exists_drop.1
          ((of_decide_eq_true hkey).trans (isInfix_of_mem_splitOn hpart))
        exact findText_eq_none hfind i hi hstart
      rw [hnone]
      simp
    | some location =>
      obtain ⟨before, after, rfl, rfl, hfirst⟩ := findText_eq_some hfind
      rw [find?_splitOn (by decide) hfirst]
      simp only [Option.mem_some_iff, exists_eq_left', isBanner_part_iff hfirst, charAfter_eq,
        charBefore_eq, ← charAfter_iff, ← charBefore_iff]
      cases after.head?.any (fun c => c != '&' && c != '=') <;>
        cases before.getLast?.any (fun c => c != '&') <;> rfl

/-- A banner is detected if and only if no other part that has the key in it comes first. -/
theorem detects_iff (p : ChromeAppStartupParameters) (hcaller : p.callerApp = .appleMobilesafari) :
    p.Detects ↔ p.FirstIsBanner := by
  have hsource : p.launchSource = launchSourceOfQuery (p.query.getD []) :=
    if_neg (not_not.2 hcaller)
  rw [Detects, hsource, launchSourceOfQuery_eq, ← parts, FirstIsBanner]
  cases hfind : p.parts.find? (fun part => kSmartAppBannerKey <:+: part) with
  | none =>
    have hno : ¬∃ part ∈ p.parts, IsBanner part := by
      rintro ⟨part, hpart, hbanner⟩
      exact find?_eq_none.1 hfind part hpart (decide_eq_true hbanner.isInfix)
    simp [hno]
  | some part =>
    have hmem : part ∈ p.parts := mem_of_find?_eq_some hfind
    by_cases hbanner : IsBanner part
    · have hsome : ∃ part ∈ p.parts, IsBanner part := ⟨part, hmem, hbanner⟩
      simp [hbanner, hsome]
    · by_cases hsome : ∃ part ∈ p.parts, IsBanner part
      · simp [hbanner, hsome]
      · simp [hbanner, hsome]

/-- Mobile Safari opens a URL with this query. -/
def openedBySafari (query : String) : ChromeAppStartupParameters :=
  ⟨some "com.apple.mobilesafari", none, some query.toList⟩

theorem detects_banner : (openedBySafari "query=pony&safarisab=1&hl=en").Detects :=
  (detects_iff _ (by decide)).2 fun _ => by decide

/-- The key is the second parameter, and the first one ends like it. -/
theorem second_mention_not_detected :
    (openedBySafari "notsafarisab=1&safarisab=1").launchSource = .launchByMobilesafari ∧
      ¬(openedBySafari "notsafarisab=1&safarisab=1").Detects := by
  decide

end ChromeAppStartupParameters

end ChromiumIos
