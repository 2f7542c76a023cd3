import ChromiumIos.Net.CookieStoreIOS

/-!
# The order of a cookie header

`CompareCookies` may give a cookie its creation time while the system sorts.
Once a time is on record it stays, so the answers of a comparison are those that
the times on record afterwards give.

- `compareCookies_eq`: on recorded cookies it compares `cookieSortKey`.
- `cookieSortKey_injective`: no two cookies for one URL share the key. Their
  texts in the manager could agree only if a domain had a semicolon.
- `cookie_header_order`: the list for a URL is in the order of the keys, and a
  later query gives the same list.
-/

namespace ChromiumIos

open Lib List CookieCreationTimeManager CookieStoreIOS

variable {Options : Type}

/-- What else is documented of the platform: an array is sorted into the order
of the comparison, and `cookiesForURL:` returns cookies whose domain is that of
the host of the URL, in which there is no semicolon. -/
structure CookiePlatform.Orders (P : CookiePlatform Options) : Prop where
  sortsByKey : ∀ cookies, ComparisonSort.SortsByKey.{0, 0} (P.sortedArray cookies)
  domain : ∀ url cookie, P.isForURL url cookie = true → ';' ∉ cookie.domain.toList

/-- What `CompareCookies` looks at: the longest paths come first, and the oldest
cookies among them. -/
def cookieSortKey (manager : CookieCreationTimeManager) (cookie : NSHTTPCookie) : Int ×ₗ Time :=
  toLex (-(nsStringLength cookie.path : Int),
    (manager.creationTimes.get? (getCookieUniqueID cookie)).getD 0)

/-- Every cookie of a list has a creation time. -/
def Recorded (manager : CookieCreationTimeManager) (cookies : List NSHTTPCookie) : Prop :=
  ∀ cookie ∈ cookies, (manager.creationTimes.get? (getCookieUniqueID cookie)).isSome

/-! ## Texts of cookies -/

theorem nsStringLength_append (x y : List Char) :
    nsStringLength (String.ofList (x ++ y)) =
      nsStringLength (String.ofList x) + nsStringLength (String.ofList y) := by
  simp [nsStringLength]

/-- A text with a character has a length. -/
theorem nsStringLength_cons_pos (c : Char) (x : List Char) :
    0 < nsStringLength (String.ofList (c :: x)) := by
  have hchar : 0 < nsStringLength (String.ofList [c]) := by
    simp only [nsStringLength, String.toList_ofList, map_cons, map_nil, sum_cons,
      sum_nil]
    split
    · exact Nat.one_pos
    · exact Nat.two_pos
  rw [show c :: x = [c] ++ x from rfl, nsStringLength_append]
  exact Nat.lt_of_lt_of_le hchar (Nat.le_add_right _ _)

/-- Of two texts with a common end, one is the other without its start; they
have the same length only when they agree. -/
theorem eq_of_append_eq_append {a b x y : List Char} (h : a ++ x = b ++ y)
    (hlength : nsStringLength (String.ofList x) = nsStringLength (String.ofList y)) : x = y := by
  rcases append_eq_append_iff.1 h with ⟨start, -, hx⟩ | ⟨start, -, hy⟩
  · cases start with
    | nil => exact hx
    | cons c start =>
      rw [hx, nsStringLength_append] at hlength
      have := nsStringLength_cons_pos c start
      omega
  · cases start with
    | nil => exact hy.symm
    | cons c start =>
      rw [hy, nsStringLength_append] at hlength
      have := nsStringLength_cons_pos c start
      omega

/-- The last semicolon of a text cuts it. -/
theorem eq_of_append_semicolon {a b x y : List Char} (h : a ++ ';' :: x = b ++ ';' :: y)
    (hx : ';' ∉ x) (hy : ';' ∉ y) : a = b ∧ x = y := by
  rcases append_eq_append_iff.1 h with ⟨start, hb, heq⟩ | ⟨start, ha, heq⟩
  · cases start with
    | nil => exact ⟨by rw [hb, append_nil], (cons.inj heq).2⟩
    | cons c start =>
      refine absurd ?_ hx
      rw [(cons.inj heq).2]
      exact mem_append_right _ mem_cons_self
  · cases start with
    | nil => exact ⟨by rw [ha, append_nil], (cons.inj heq).2.symm⟩
    | cons c start =>
      refine absurd ?_ hy
      rw [(cons.inj heq).2]
      exact mem_append_right _ mem_cons_self

/-- Cookies with the same text and paths of one length are told apart by
nothing else. -/
theorem identity_eq_of_uniqueID {a b : NSHTTPCookie}
    (hid : getCookieUniqueID a = getCookieUniqueID b)
    (hpath : nsStringLength a.path = nsStringLength b.path) (ha : ';' ∉ a.domain.toList)
    (hb : ';' ∉ b.domain.toList) : a.identity = b.identity := by
  have hlist := congrArg String.toList hid
  simp only [getCookieUniqueID, uniqueIDOf, String.toList_append] at hlist
  have hpaths : a.path.toList = b.path.toList := by
    refine eq_of_append_eq_append hlist ?_
    rwa [String.ofList_toList, String.ofList_toList]
  rw [hpaths] at hlist
  have hdomains := append_cancel_right (append_cancel_right hlist)
  rw [append_assoc, append_assoc] at hdomains
  obtain ⟨hname, hdomain⟩ := eq_of_append_semicolon hdomains ha hb
  rw [NSHTTPCookie.identity, NSHTTPCookie.identity, String.toList_inj.1 hname,
    String.toList_inj.1 hdomain, String.toList_inj.1 hpaths]

/-! ## The comparison once times are on record -/

section Comparison

variable {P : CookiePlatform Options} {manager recorded : CookieCreationTimeManager}

/-- Reading a recorded time changes nothing. -/
theorem getCreationTime_of_recorded {cookie : NSHTTPCookie} {time : Time}
    (h : manager.creationTimes.get? (getCookieUniqueID cookie) = some time) :
    manager.getCreationTime P.fromCFAbsoluteTime cookie = (time, manager) := by
  rw [getCreationTime, h]

theorem sortKey_lt_iff {a b : NSHTTPCookie} :
    cookieSortKey recorded a < cookieSortKey recorded b ↔
      nsStringLength b.path < nsStringLength a.path ∨
        nsStringLength a.path = nsStringLength b.path ∧
          (recorded.creationTimes.get? (getCookieUniqueID a)).getD 0 <
            (recorded.creationTimes.get? (getCookieUniqueID b)).getD 0 := by
  rw [cookieSortKey, cookieSortKey, Prod.Lex.toLex_lt_toLex]
  constructor
  · rintro (hlt | ⟨heq, hlt⟩)
    · exact .inl (by omega)
    · exact .inr ⟨by omega, hlt⟩
  · rintro (hlt | ⟨heq, hlt⟩)
    · exact .inl (by show -(_ : Int) < -(_ : Int); omega)
    · exact .inr ⟨by show -(_ : Int) = -(_ : Int); omega, hlt⟩

/-- The answer of a comparison, by the times that are on record afterwards. -/
theorem answer_eq_compare (a b : NSHTTPCookie)
    (h : (compareCookies P manager a b).2.Extends recorded) :
    manager.Extends recorded ∧ (compareCookies P manager a b).1 =
      compare (cookieSortKey recorded a) (cookieSortKey recorded b) := by
  rw [compareCookies] at h ⊢
  by_cases hshorter : nsStringLength a.path < nsStringLength b.path
  · rw [if_pos hshorter] at h ⊢
    exact ⟨h, (compare_gt_iff_gt.2 (sortKey_lt_iff.2 (.inl hshorter))).symm⟩
  · rw [if_neg hshorter] at h ⊢
    by_cases hlonger : nsStringLength b.path < nsStringLength a.path
    · rw [if_pos hlonger] at h ⊢
      exact ⟨h, (compare_lt_iff_lt.2 (sortKey_lt_iff.2 (.inl hlonger))).symm⟩
    · rw [if_neg hlonger] at h ⊢
      have hpath : nsStringLength a.path = nsStringLength b.path := by omega
      simp only at h ⊢
      have hfirst := manager.extends_getCreationTime P.fromCFAbsoluteTime a
      have ha := manager.get?_getCreationTime P.fromCFAbsoluteTime a (getCookieUniqueID a)
      generalize manager.getCreationTime P.fromCFAbsoluteTime a = first at h hfirst ha ⊢
      have hsecond := first.2.extends_getCreationTime P.fromCFAbsoluteTime b
      have hb := first.2.get?_getCreationTime P.fromCFAbsoluteTime b (getCookieUniqueID b)
      generalize first.2.getCreationTime P.fromCFAbsoluteTime b = second at h hsecond hb ⊢
      rw [if_pos rfl] at ha hb
      -- both times stay on record
      have ha' := h _ _ (hsecond _ _ ha)
      have hb' := h _ _ hb
      refine ⟨(hfirst.trans hsecond).trans h, ?_⟩
      rcases lt_trichotomy first.1 second.1 with hlt | heq | hgt
      · rw [if_pos hlt]
        refine (compare_lt_iff_lt.2 (sortKey_lt_iff.2 (.inr ⟨hpath, ?_⟩))).symm
        rw [ha', hb']
        exact hlt
      · rw [if_neg heq.not_lt, if_neg heq.not_gt]
        refine (compare_eq_iff_eq.2 ?_).symm
        rw [cookieSortKey, cookieSortKey, ha', hb', hpath, heq]
      · rw [if_neg hgt.not_gt, if_pos hgt]
        refine (compare_gt_iff_gt.2 (sortKey_lt_iff.2 (.inr ⟨hpath.symm, ?_⟩))).symm
        rw [ha', hb']
        exact hgt

/-- On recorded cookies a comparison changes nothing. -/
theorem compareCookies_eq {a b : NSHTTPCookie} (h : Recorded manager [a, b]) :
    compareCookies P manager a b =
      (compare (cookieSortKey manager a) (cookieSortKey manager b), manager) := by
  obtain ⟨timeA, ha⟩ := Option.isSome_iff_exists.1 (h a mem_cons_self)
  obtain ⟨timeB, hb⟩ := Option.isSome_iff_exists.1
    (h b (mem_cons_of_mem _ mem_cons_self))
  have hafter : (compareCookies P manager a b).2 = manager := by
    rw [compareCookies]
    split
    · rfl
    · split
      · rfl
      · simp only [getCreationTime_of_recorded ha, getCreationTime_of_recorded hb]
  refine Prod.ext (answer_eq_compare a b ?_).2 hafter
  rw [hafter]
  exact .refl manager

/-- No two cookies for a URL share a key. -/
theorem cookieSortKey_injective (hP : P.Orders) (hrecorded : recorded.Valid)
    {systemStore : NSHTTPCookieStorage} {url : GURL}
    (hall : Recorded recorded (systemStore.cookies.filter (P.isForURL url))) {a b : NSHTTPCookie}
    (ha : a ∈ systemStore.cookies.filter (P.isForURL url))
    (hb : b ∈ systemStore.cookies.filter (P.isForURL url))
    (h : cookieSortKey recorded a = cookieSortKey recorded b) : a = b := by
  obtain ⟨timeA, htimeA⟩ := Option.isSome_iff_exists.1 (hall a ha)
  obtain ⟨timeB, htimeB⟩ := Option.isSome_iff_exists.1 (hall b hb)
  rw [cookieSortKey, cookieSortKey, htimeA, htimeB] at h
  have hpair := Prod.mk.inj (toLex.injective h)
  have hpath : nsStringLength a.path = nsStringLength b.path := by
    have := hpair.1
    omega
  obtain ⟨hstoreA, hmatchA⟩ := mem_filter.1 ha
  obtain ⟨hstoreB, hmatchB⟩ := mem_filter.1 hb
  have hid := hrecorded.injective _ _ _ htimeA (htimeB.trans (congrArg some hpair.2.symm))
  exact NSHTTPCookieStorage.eq_of_identity_eq hstoreA hstoreB
    (identity_eq_of_uniqueID hid hpath (hP.domain url a hmatchA) (hP.domain url b hmatchB))

end Comparison

/-! ## Queries -/

section Queries

open CookieCreationTimeManager (Ready)

variable {P : CookiePlatform Options} {systemStore : NSHTTPCookieStorage} {url : GURL}
  {manager recorded : CookieCreationTimeManager}

theorem getCookiesForURL_perm (hP : P.Lawful) :
    (getCookiesForURL P systemStore url manager).1.Perm
      (systemStore.cookies.filter (P.isForURL url)) :=
  ComparisonSort.run_perm (hP.sorts _) manager

theorem ready_getCookiesForURL (hP : P.Lawful) {all : List NSHTTPCookie}
    (hsub : systemStore.cookies.filter (P.isForURL url) ⊆ all)
    (h : Ready P.fromCFAbsoluteTime all manager) :
    Ready P.fromCFAbsoluteTime all (getCookiesForURL P systemStore url manager).2 :=
  ready_run (hP.sorts _) hsub h

theorem extends_getCookiesForURL (hP : P.Lawful) :
    manager.Extends (getCookiesForURL P systemStore url manager).2 :=
  ComparisonSort.run_invariant (I := fun m => manager.Extends m)
    (fun _ a _ b _ h => h.trans (answer_eq_compare a b (.refl _)).1) (hP.sorts _) (.refl manager)

/-- The list is in the order of the times on record afterwards. -/
theorem getCookiesForURL_sorted (hP : P.Orders)
    (h : (getCookiesForURL P systemStore url manager).2.Extends recorded) :
    (getCookiesForURL P systemStore url manager).1.Pairwise fun a b =>
      cookieSortKey recorded a ≤ cookieSortKey recorded b := by
  have hrun : manager.Extends recorded ∧
      ((P.sortedArray (systemStore.cookies.filter (P.isForURL url))).run (compareCookies P)
        manager).1 = ComparisonSort.runByKey (cookieSortKey recorded) _ :=
    ComparisonSort.run_eq_of_answers (A := fun m : CookieCreationTimeManager => m.Extends recorded)
      (fun m a b hafter => answer_eq_compare a b hafter) _ h
  rw [getCookiesForURL, hrun.2]
  exact hP.sortsByKey _ _ _

theorem nodup_forURL (P : CookiePlatform Options) (systemStore : NSHTTPCookieStorage) (url : GURL) :
    (systemStore.cookies.filter (P.isForURL url)).Nodup :=
  (List.Nodup.of_map _ systemStore.distinct).filter _

/-- With distinct keys the order is strict. -/
theorem getCookiesForURL_strictlySorted (hP : P.Lawful) (hP' : P.Orders)
    (h : (getCookiesForURL P systemStore url manager).2.Extends recorded)
    (hrecorded : recorded.Valid)
    (hall : Recorded recorded (systemStore.cookies.filter (P.isForURL url))) :
    (getCookiesForURL P systemStore url manager).1.Pairwise fun a b =>
      cookieSortKey recorded a < cookieSortKey recorded b := by
  have hperm : (getCookiesForURL P systemStore url manager).1.Perm _ := getCookiesForURL_perm hP
  have hnodup := hperm.nodup_iff.2 (nodup_forURL P systemStore url)
  refine ((getCookiesForURL_sorted hP' h).and hnodup).imp_of_mem fun ha hb hab => ?_
  refine lt_of_le_of_ne hab.1 fun heq => hab.2 ?_
  exact cookieSortKey_injective hP' hrecorded hall (hperm.subset ha) (hperm.subset hb) heq

/-- Cookies whose times have been read are recorded. -/
theorem recorded_of_subset {cookies read : List NSHTTPCookie} (h : cookies ⊆ read) :
    Recorded (withCreationTimes P read manager).2 cookies := by
  intro cookie hcookie
  obtain ⟨p, hp, rfl⟩ := (mem_withCreationTimes P manager).2 (h hcookie)
  rw [recorded_withCreationTimes hp]
  rfl

end Queries

/-- **Order of the cookie header**: after every run of the creation time manager whose calls
found a time, the list for a URL is a permutation of the cookies for it. Let there be room
for the times that are read. As soon as the cookies all have creation times,
`CompareCookies` is a strict total order on them, and the list is in it: longer paths
first, then earlier times. A later query gives the same list, whatever times are read in
between and in whatever order the system lists the cookies. -/
theorem cookie_header_order {P : CookiePlatform Options} (hP : P.Lawful) (hP' : P.Orders)
    (ops : List CookieCreationTimeManager.Op)
    (hops : (machine P.fromCFAbsoluteTime).Along
      (FindsTime P.fromCFAbsoluteTime) .new ops)
    (systemStore : NSHTTPCookieStorage) (url : GURL) :
    let manager := (machine P.fromCFAbsoluteTime).run .new ops
    let matching := systemStore.cookies.filter (P.isForURL url)
    let first := getCookiesForURL P systemStore url manager
    first.1.Perm matching ∧
      ∀ read : List NSHTTPCookie,
        HasRoom P.fromCFAbsoluteTime manager (matching ++ read) →
        let recorded := (withCreationTimes P read first.2).2
        (matching ⊆ read →
          (∀ a ∈ matching, ∀ b ∈ matching, (compareCookies P recorded a b).2 = recorded) ∧
          IsStrictTotalOrder {cookie // cookie ∈ matching}
            (fun a b => (compareCookies P recorded a b).1 = .lt) ∧
          first.1.Pairwise fun a b =>
            nsStringLength b.path < nsStringLength a.path ∨
              nsStringLength a.path = nsStringLength b.path ∧
                (recorded.creationTimes.get? (getCookieUniqueID a)).getD 0 <
                  (recorded.creationTimes.get? (getCookieUniqueID b)).getD 0) ∧
        ∀ relisted : NSHTTPCookieStorage, relisted.cookies.Perm systemStore.cookies →
          (getCookiesForURL P relisted url recorded).1 = first.1 := by
  intro manager matching first
  refine ⟨getCookiesForURL_perm hP, fun read hroom => ?_⟩
  intro recorded
  have hmatching : matching ⊆ matching ++ read := subset_append_left _ _
  have hfirst := ready_getCookiesForURL hP hmatching
    ⟨valid_run hops, hroom⟩
  have hrecorded := ready_withCreationTimes (subset_append_right matching read) hfirst
  have hextends : first.2.Extends recorded := extends_withCreationTimes P read first.2
  refine ⟨fun hread => ?_, fun relisted hrelisted => ?_⟩
  · have hall : Recorded recorded matching := recorded_of_subset hread
    have hcompare : ∀ a ∈ matching, ∀ b ∈ matching, compareCookies P recorded a b =
        (compare (cookieSortKey recorded a) (cookieSortKey recorded b), recorded) := by
      intro a ha b hb
      refine compareCookies_eq (forall_mem_cons.2 ⟨hall a ha, ?_⟩)
      exact forall_mem_singleton.2 (hall b hb)
    refine ⟨fun a ha b hb => by rw [hcompare a ha b hb], ?_, ?_⟩
    · let embedding : (fun a b : {cookie // cookie ∈ matching} =>
          (compareCookies P recorded a b).1 = .lt) ↪r
          ((· < ·) : Int ×ₗ Time → Int ×ₗ Time → Prop) :=
        { toFun := fun cookie => cookieSortKey recorded cookie
          inj' := fun a b heq =>
            Subtype.ext (cookieSortKey_injective hP' hrecorded.valid hall a.2 b.2 heq)
          map_rel_iff' := fun {a b} => by
            rw [hcompare a a.2 b b.2]
            exact compare_lt_iff_lt.symm }
      exact embedding.isStrictTotalOrder
    · have hsorted := getCookiesForURL_strictlySorted hP hP' hextends hrecorded.valid hall
      exact hsorted.imp fun hlt => sortKey_lt_iff.1 hlt
  · -- both lists are in the order of the times on record after all of it
    have hlisted : (relisted.cookies.filter (P.isForURL url)).Perm matching := hrelisted.filter _
    let second := getCookiesForURL P relisted url recorded
    let final := (withCreationTimes P matching second.2).2
    have hsecond := ready_getCookiesForURL hP (fun _ h => hmatching (hlisted.subset h)) hrecorded
    have hfinal := (ready_withCreationTimes hmatching hsecond).valid
    have hsecondFinal : second.2.Extends final := extends_withCreationTimes P matching second.2
    have hfirstFinal : first.2.Extends final :=
      (hextends.trans (extends_getCookiesForURL hP)).trans hsecondFinal
    have hall : Recorded final matching := recorded_of_subset (List.Subset.refl _)
    have hfirstSorted := getCookiesForURL_strictlySorted hP hP' hfirstFinal hfinal hall
    have hsecondSorted := getCookiesForURL_strictlySorted hP hP' hsecondFinal hfinal
      fun cookie hcookie => hall cookie (hlisted.subset hcookie)
    have hperm : second.1.Perm first.1 :=
      ((getCookiesForURL_perm hP).trans hlisted).trans (getCookiesForURL_perm hP).symm
    exact hperm.eq_of_pairwise (fun a b _ _ hab hba => absurd hab hba.asymm) hsecondSorted
      hfirstSorted

/-- The platform of `plainPlatform`, with cookies for the URL of their domain. -/
def hostPlatform : CookiePlatform Unit :=
  { plainPlatform with
    isForURL := fun url cookie =>
      url.possiblyInvalidSpec == "http://" ++ cookie.domain ++ "/" &&
        !cookie.domain.toList.contains ';' }

theorem lawful_hostPlatform : hostPlatform.Lawful where
  sorts := lawful_plainPlatform.sorts
  pos := lawful_plainPlatform.pos

theorem orders_hostPlatform : hostPlatform.Orders where
  sortsByKey := ComparisonSort.insertion_sortsByKey
  domain url cookie h := by
    have hnone := (Bool.and_eq_true_iff.1 h).2
    simpa using hnone

/-- The second of two cookies has the earlier time, and so comes first, in a
later query as well. -/
theorem cookie_header_order_two_cookies :
    let manager := (machine hostPlatform.fromCFAbsoluteTime).run .new
      [.setCreationTime (cookieWithProperties "a" "1") 7,
        .setCreationTime (cookieWithProperties "b" "2") 5]
    let query := getCookiesForURL hostPlatform twoCookies.systemStore
      ⟨"http://example.com/", true⟩
    (query manager).1.map (·.name) = ["b", "a"] ∧
      (query (query manager).2).1 = (query manager).1 := by
  intro manager query
  have h := (cookie_header_order lawful_hostPlatform orders_hostPlatform
    [.setCreationTime (cookieWithProperties "a" "1") 7,
      .setCreationTime (cookieWithProperties "b" "2") 5]
    ⟨⟨9, by decide, find_eq_nil_iff.1 (by decide +kernel)⟩,
      ⟨9, by decide, find_eq_nil_iff.1 (by decide +kernel)⟩, trivial⟩
    twoCookies.systemStore ⟨"http://example.com/", true⟩).2 []
    (fun cookie hcookie hnone => absurd hnone (by revert cookie; decide +kernel))
  exact ⟨by decide +kernel, h.2 _ (.refl _)⟩

/-- Two cookies whose times wrapped around share one, and neither comes first. -/
theorem cookie_header_order_wrapped_times :
    let manager := (machine hostPlatform.fromCFAbsoluteTime).run .new
      [.setCreationTime (cookieWithProperties "c" "3") .max,
        .setCreationTime (cookieWithProperties "a" "1") .max,
        .setCreationTime (cookieWithProperties "b" "2") .max]
    let matching := twoCookies.systemStore.cookies.filter
      (hostPlatform.isForURL ⟨"http://example.com/", true⟩)
    Recorded manager matching ∧
      ¬ IsStrictTotalOrder {cookie // cookie ∈ matching}
        (fun a b => (compareCookies hostPlatform manager a b).1 = .lt) := by
  intro manager matching
  refine ⟨by rw [Recorded]; decide +kernel, fun h => ?_⟩
  let a : {cookie // cookie ∈ matching} := ⟨cookieWithProperties "a" "1", by decide +kernel⟩
  let b : {cookie // cookie ∈ matching} := ⟨cookieWithProperties "b" "2", by decide +kernel⟩
  have hab : ¬ (compareCookies hostPlatform manager a b).1 = .lt := by decide +kernel
  have hba : ¬ (compareCookies hostPlatform manager b a).1 = .lt := by decide +kernel
  exact absurd (congrArg (·.1.name) (h.trichotomous a b hab hba)) (by decide)

end ChromiumIos
