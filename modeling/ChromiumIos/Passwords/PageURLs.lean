import Mathlib.Data.List.TakeWhile

/-!
# URLs of a page, parsed and as text

Native code parses a URL and removes components; scripts of the page search its text.

- `URL.stripURL`: without user, password, query and fragment.
- `removeQueryAndReferenceFromURL`: cut at the first `?`, or else at the first `#`.
- `removeQuery_eq_spec_iff`: when the two agree.
-/

namespace ChromiumIos

open List

abbrev Text := List Char

/-- The components of a URL. `userInfo` is user and password, `host` has the port; URLs such as
those of `data:` have no authority. -/
structure URLComponents where
  scheme : Text
  authority : Option (Text × Text)
  path : Text
  query : Option Text
  ref : Option Text
deriving DecidableEq, Repr

namespace URLComponents

def userInfo (url : URLComponents) : Text := (url.authority.map Prod.fst).getD []

/-- The authority as it is written. -/
def authoritySpec : Option (Text × Text) → Text
  | none => []
  | some ([], host) => '/' :: '/' :: host
  | some (userInfo, host) => '/' :: '/' :: (userInfo ++ '@' :: host)

/-- What stands before query and fragment. -/
def base (url : URLComponents) : Text :=
  url.scheme ++ ':' :: (authoritySpec url.authority ++ url.path)

def tail (url : URLComponents) : Text :=
  (url.query.map ('?' :: ·)).getD [] ++ (url.ref.map ('#' :: ·)).getD []

/-- `spec()`. -/
def spec (url : URLComponents) : Text := url.base ++ url.tail

/-- Without user and password. -/
def withoutUser (url : URLComponents) : URLComponents :=
  { url with authority := url.authority.map fun authority => ([], authority.2) }

theorem authoritySpec_withoutUser_sublist (authority : Option (Text × Text)) :
    (authoritySpec (authority.map fun authority => ([], authority.2))).Sublist
      (authoritySpec authority) := by
  match authority with
  | none => exact .refl _
  | some ([], host) => exact .refl _
  | some (c :: userInfo, host) =>
    exact ((sublist_append_right (c :: userInfo ++ ['@']) host).trans
      (by rw [append_assoc]; exact .refl _)).cons_cons '/' |>.cons_cons '/'

theorem base_withoutUser_sublist (url : URLComponents) :
    url.withoutUser.base.Sublist url.base :=
  List.Sublist.append (.refl _)
    (((authoritySpec_withoutUser_sublist url.authority).append (.refl url.path)).cons_cons ':')

/-- The user is seen in the length. -/
theorem length_base_lt {url : URLComponents} (h : url.userInfo ≠ []) :
    url.withoutUser.base.length < url.base.length := by
  obtain ⟨scheme, authority, path, query, ref⟩ := url
  match authority, h with
  | none, h => exact absurd rfl h
  | some ([], host), h => exact absurd rfl h
  | some (c :: userInfo, host), _ =>
    simp only [base, withoutUser, authoritySpec, Option.map_some, length_append,
      length_cons]
    omega

theorem withoutUser_of_userInfo {url : URLComponents} (h : url.userInfo = []) :
    url.withoutUser = url := by
  obtain ⟨scheme, authority, path, query, ref⟩ := url
  match authority, h with
  | none, _ => rfl
  | some (userInfo, host), h =>
    obtain rfl : userInfo = [] := h
    rfl

end URLComponents

/-- A valid URL: what would be taken for a query or a fragment is written differently. -/
structure URL extends URLComponents where
  clean : ∀ c ∈ toURLComponents.base, c ≠ '?' ∧ c ≠ '#'
  cleanQuery : ∀ text ∈ query, '#' ∉ text
deriving DecidableEq

namespace URL

/-- `stripURL`. -/
def stripURL (url : URL) : URL where
  toURLComponents := { url.withoutUser with query := none, ref := none }
  clean := fun c hmem => url.clean c (url.base_withoutUser_sublist.subset hmem)
  cleanQuery := nofun

@[simp] theorem spec_stripURL (url : URL) : url.stripURL.spec = url.withoutUser.base :=
  append_nil _

/-- No user is written, and a fragment that has a `?` comes after a query. -/
structure Plain (url : URL) : Prop where
  userInfo : url.userInfo = []
  ref : url.query = none → ∀ text ∈ url.ref, '?' ∉ text

end URL

/-! ## Cutting the text -/

/-- `removeQueryAndReferenceFromURL`. -/
def removeQueryAndReferenceFromURL (url : Text) : Text :=
  if '?' ∈ url then url.takeWhile (· ≠ '?')
  else if '#' ∈ url then url.takeWhile (· ≠ '#')
  else url

/-- Every text in which the character occurs. -/
theorem exists_of_mem_takeWhile_ne {c : Char} {text : Text} (h : c ∈ text) :
    ∃ rest, text = text.takeWhile (· ≠ c) ++ c :: rest := by
  induction text with
  | nil => cases h
  | cons d text ih =>
    by_cases heq : d = c
    · subst heq
      exact ⟨text, by simp⟩
    · obtain ⟨rest, hrest⟩ := ih ((mem_cons.1 h).resolve_left (Ne.symm heq))
      refine ⟨rest, ?_⟩
      rw [takeWhile_cons, if_pos (decide_eq_true heq), cons_append, ← hrest]

/-- What is cut off begins with a `?`, or with a `#` if there is no `?`. -/
theorem exists_tail (text : Text) :
    (∃ rest, text = removeQueryAndReferenceFromURL text ++ '?' :: rest) ∨
      (∃ rest, text = removeQueryAndReferenceFromURL text ++ '#' :: rest ∧ '?' ∉ rest) ∨
      text = removeQueryAndReferenceFromURL text := by
  unfold removeQueryAndReferenceFromURL
  split
  · next hquery => exact .inl (exists_of_mem_takeWhile_ne hquery)
  · next hquery =>
    split
    · next href =>
      obtain ⟨rest, hrest⟩ := exists_of_mem_takeWhile_ne href
      refine .inr (.inl ⟨rest, hrest, fun hmem => hquery ?_⟩)
      rw [hrest]
      exact mem_append_right _ (mem_cons_of_mem _ hmem)
    · exact .inr (.inr rfl)

/-- What has neither `?` nor `#` stays. -/
theorem removeQuery_append {text : Text} (h : ∀ c ∈ text, c ≠ '?' ∧ c ≠ '#') (tail : Text) :
    removeQueryAndReferenceFromURL (text ++ tail) =
      text ++ removeQueryAndReferenceFromURL tail := by
  have hmem : ∀ c, c = '?' ∨ c = '#' → (c ∈ text ++ tail ↔ c ∈ tail) := by
    intro c hc
    rw [mem_append]
    refine or_iff_right fun hin => ?_
    rcases hc with rfl | rfl
    · exact (h _ hin).1 rfl
    · exact (h _ hin).2 rfl
  simp only [removeQueryAndReferenceFromURL, hmem _ (.inl rfl), hmem _ (.inr rfl)]
  split
  · exact takeWhile_append_of_pos fun c hin => decide_eq_true (h c hin).1
  · split
    · exact takeWhile_append_of_pos fun c hin => decide_eq_true (h c hin).2
    · rfl

/-- A query is cut off, with what comes after it. -/
theorem removeQuery_query (rest : Text) : removeQueryAndReferenceFromURL ('?' :: rest) = [] := by
  rw [removeQueryAndReferenceFromURL, if_pos mem_cons_self]
  rfl

/-- A fragment is cut off where it has no `?`. -/
theorem removeQuery_ref (rest : Text) :
    removeQueryAndReferenceFromURL ('#' :: rest) = [] ↔ '?' ∉ rest := by
  rw [removeQueryAndReferenceFromURL]
  by_cases hmem : '?' ∈ rest
  · rw [if_pos (mem_cons_of_mem _ hmem), takeWhile_cons, if_pos (by decide)]
    exact iff_of_false (cons_ne_nil _ _) fun hnot => hnot hmem
  · have hquery : '?' ∉ '#' :: rest := by simpa using hmem
    rw [if_neg hquery, if_pos mem_cons_self]
    exact iff_of_true rfl hmem

namespace URL

/-- What is left of query and fragment. -/
theorem removeQuery_tail_iff (url : URLComponents) :
    removeQueryAndReferenceFromURL url.tail = [] ↔
      (url.query = none → ∀ text ∈ url.ref, '?' ∉ text) := by
  obtain ⟨scheme, authority, path, query, ref⟩ := url
  cases query with
  | some text => exact iff_of_true (removeQuery_query _) nofun
  | none =>
    cases ref with
    | none => exact iff_of_true rfl fun _ _ hmem => nomatch hmem
    | some text =>
      refine (removeQuery_ref text).trans ⟨fun h _ other hmem => ?_, fun h => h rfl _ rfl⟩
      obtain rfl := Option.some.inj hmem
      exact h

/-- Of a plain URL the scripts leave what native code leaves of it, and of no other. -/
theorem removeQuery_spec_iff (url : URL) :
    removeQueryAndReferenceFromURL url.spec = url.stripURL.spec ↔ url.Plain := by
  rw [spec_stripURL, URLComponents.spec, removeQuery_append url.clean]
  constructor
  · intro heq
    have hlength := congrArg List.length heq
    have hle := url.base_withoutUser_sublist.length_le
    rw [length_append] at hlength
    refine ⟨?_, (removeQuery_tail_iff _).1 (eq_nil_of_length_eq_zero (by omega))⟩
    by_contra huser
    have hlt := URLComponents.length_base_lt huser
    omega
  · intro hplain
    rw [(removeQuery_tail_iff _).2 hplain.ref, append_nil,
      URLComponents.withoutUser_of_userInfo hplain.userInfo]

theorem eq_of_components {url other : URL} (h : url.toURLComponents = other.toURLComponents) :
    url = other := by
  cases url
  cases other
  cases h
  rfl

/-- What is stripped of a URL may be put in its place. -/
theorem exists_stripURL_eq (url : URL) (query ref : Option Text)
    (hquery : ∀ text ∈ query, '#' ∉ text) (href : query = none → ∀ text ∈ ref, '?' ∉ text) :
    ∃ other : URL, other.toURLComponents = { url.withoutUser with query, ref } ∧
      other.stripURL = url.stripURL ∧ other.Plain := by
  refine ⟨⟨{ url.withoutUser with query, ref }, url.stripURL.clean, hquery⟩, rfl,
    eq_of_components ?_, ?_, href⟩
  · simp only [stripURL, URLComponents.withoutUser, Option.map_map]
    rfl
  · show ((url.authority.map _).map Prod.fst).getD [] = []
    cases url.authority <;> rfl

/-- **Agreement**: what the scripts leave of a text is what native code leaves of a URL exactly
if the text is that of a plain URL of which native code leaves the same. -/
theorem removeQuery_eq_spec_iff (text : Text) (url : URL) :
    removeQueryAndReferenceFromURL text = url.stripURL.spec ↔
      ∃ other : URL, text = other.spec ∧ other.stripURL = url.stripURL ∧ other.Plain := by
  constructor
  · intro heq
    rw [spec_stripURL] at heq
    -- The other URL has the query and the fragment that were cut off.
    have hspec : ∀ {other : URL} {query ref : Option Text},
        other.toURLComponents = { url.withoutUser with query, ref } →
        other.spec = url.withoutUser.base ++
          ((query.map ('?' :: ·)).getD [] ++ (ref.map ('#' :: ·)).getD []) := by
      intro other query ref hother
      rw [URLComponents.spec, hother]
      rfl
    rcases exists_tail text with ⟨rest, hrest⟩ | ⟨rest, hrest, hnone⟩ | hrest
    · rw [heq] at hrest
      by_cases href : '#' ∈ rest
      · obtain ⟨after, hafter⟩ := exists_of_mem_takeWhile_ne href
        obtain ⟨other, hother, hstrip, hplain⟩ := url.exists_stripURL_eq
          (some (rest.takeWhile (· ≠ '#'))) (some after)
          (fun text htext hmem => by
            obtain rfl := Option.some.inj htext
            exact absurd (mem_takeWhile_imp hmem) (by decide)) nofun
        refine ⟨other, hrest.trans ?_, hstrip, hplain⟩
        rw [hspec hother]
        exact congrArg (fun rest => url.withoutUser.base ++ '?' :: rest) hafter
      · obtain ⟨other, hother, hstrip, hplain⟩ := url.exists_stripURL_eq (some rest) none
          (fun text htext => by
            obtain rfl := Option.some.inj htext
            exact href) nofun
        refine ⟨other, hrest.trans ?_, hstrip, hplain⟩
        rw [hspec hother]
        exact congrArg (url.withoutUser.base ++ ·) (append_nil _).symm
    · rw [heq] at hrest
      obtain ⟨other, hother, hstrip, hplain⟩ := url.exists_stripURL_eq none (some rest) nofun
        (fun _ text htext => by
          obtain rfl := Option.some.inj htext
          exact hnone)
      exact ⟨other, hrest.trans (hspec hother).symm, hstrip, hplain⟩
    · rw [heq] at hrest
      obtain ⟨other, hother, hstrip, hplain⟩ := url.exists_stripURL_eq none none nofun nofun
      refine ⟨other, hrest.trans ?_, hstrip, hplain⟩
      rw [hspec hother]
      exact (append_nil _).symm
  · rintro ⟨other, rfl, hstrip, hplain⟩
    rw [← hstrip, removeQuery_spec_iff]
    exact hplain

end URL

end ChromiumIos
