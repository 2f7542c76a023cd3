import ChromiumIos.Lib.Parts

/-!
# `MailtoHandler`

`mailto_handler.mm`: a `mailto:` URL is rewritten into one that opens another app, with the
recipient and the headers that the app supports as parameters.

- `rewriteMailtoURL`: the rewriting.
- `LosesNothing`: the recipient and every supported header are parameters of the other URL.
- `losesNothing_iff`: when it loses nothing. A separator within a value, or within the recipient, is
  what it does not expect.
-/

namespace ChromiumIos

open Lib List

/-- What is asked of the `mailto:` URL. Its texts are ASCII. -/
structure MailtoURL where
  scheme : List Char
  path : List Char
  query : List Char
deriving DecidableEq, Repr

/-- A handler with what its subclass overrides. -/
structure MailtoHandler where
  beginningScheme : List Char
  supportedHeaders : List (List Char)
deriving DecidableEq, Repr

namespace MailtoHandler

/-- The handler of the base class. -/
def base : MailtoHandler where
  beginningScheme := "mailtohandler:/co?".toList
  supportedHeaders := ["to", "cc", "bcc", "subject", "body"].map String.toList

/-- `MailtoHandlerGmail`. -/
def gmail : MailtoHandler := { base with beginningScheme := "googlegmail:/co?".toList }

/-- The parameter for a part of the query. -/
def outParam (handler : MailtoHandler) (keyvalue : List Char) : Option (List Char) :=
  match keyvalue.splitOn '=' with
  | [key, value] => if handler.supportedHeaders.contains key then some (key ++ '=' :: value) else none
  | _ => none

/-- `outParams`. -/
def outParams (handler : MailtoHandler) (url : MailtoURL) : List (List Char) :=
  (if url.path.length ≠ 0 then ["to=".toList ++ url.path] else []) ++
    (url.query.splitOn '&').filterMap handler.outParam

/-- `rewriteMailtoURL:`: the URL that opens the app with the parameters, for a `mailto:` URL. -/
def rewriteMailtoURL (handler : MailtoHandler) (url : MailtoURL) : Option (List Char) :=
  if url.scheme ≠ "mailto".toList then none
  else some (handler.beginningScheme ++ ['&'].intercalate (handler.outParams url))

/-! ## What is to be kept -/

/-- The supported headers of the URL, with their values. -/
def headers (handler : MailtoHandler) (url : MailtoURL) : List (List Char × List Char) :=
  (pairs '&' '=' url.query).filter fun pair => handler.supportedHeaders.contains pair.1

/-- The recipient, if there is one, as a parameter. -/
def recipient (url : MailtoURL) : List (List Char × List Char) :=
  if url.path = [] then [] else [("to".toList, url.path)]

/-- The parameters behind the prefix are the recipient and the supported headers. -/
def LosesNothing (handler : MailtoHandler) (url : MailtoURL) : Prop :=
  ∃ parameters, handler.rewriteMailtoURL url = some (handler.beginningScheme ++ parameters) ∧
    pairs '&' '=' parameters = recipient url ++ handler.headers url

/-- No separator is within the recipient or within the value of a supported header. -/
def Separated (handler : MailtoHandler) (url : MailtoURL) : Prop :=
  '&' ∉ url.path ∧ ∀ header ∈ handler.headers url, '=' ∉ header.2

/-! ## The parameters -/

variable {handler : MailtoHandler} {url : MailtoURL}

/-- A part without a pair gives no parameter. -/
theorem outParam_of_none {keyvalue : List Char} (h : splitFirst '=' keyvalue = none) :
    handler.outParam keyvalue = none := by
  rw [outParam]
  split
  · next key value hsplit =>
    rw [(splitOn_eq_pair_iff.1 hsplit).1] at h
    cases h
  · rfl

/-- A part is a parameter as it is if the key is supported and the value has no separator. -/
theorem outParam_of_some {keyvalue key value : List Char}
    (h : splitFirst '=' keyvalue = some (key, value)) :
    handler.outParam keyvalue =
      if handler.supportedHeaders.contains key ∧ '=' ∉ value then some keyvalue else none := by
  rw [outParam]
  split
  · next key' value' hsplit =>
    obtain ⟨hpair, hvalue⟩ := splitOn_eq_pair_iff.1 hsplit
    rw [hpair, Option.some_inj, Prod.mk.injEq] at h
    obtain ⟨rfl, rfl⟩ := h
    rw [(splitFirst_eq_some_iff.1 hpair).2]
    exact if_congr (and_iff_left hvalue).symm rfl rfl
  · next hsplit =>
    rw [if_neg]
    rintro ⟨-, hvalue⟩
    exact hsplit key value (splitOn_eq_pair_iff.2 ⟨h, hvalue⟩)

/-- Of the supported headers, those are parameters whose value has no separator. -/
theorem pairs_outParam {parts : List (List Char)} (hparts : ∀ part ∈ parts, '&' ∉ part) :
    (parts.filterMap handler.outParam).flatMap (pairs '&' '=') =
      ((parts.filterMap (splitFirst '=')).filter fun pair =>
        handler.supportedHeaders.contains pair.1).filter fun pair => '=' ∉ pair.2 := by
  induction parts with
  | nil => rfl
  | cons part parts ih =>
    obtain ⟨hpart, hparts⟩ := forall_mem_cons.1 hparts
    cases hsplit : splitFirst '=' part with
    | none =>
      rw [filterMap_cons_none (outParam_of_none hsplit), filterMap_cons_none hsplit, ih hparts]
    | some pair =>
      obtain ⟨key, value⟩ := pair
      rw [filterMap_cons_some hsplit, filterMap_cons, outParam_of_some hsplit]
      by_cases hkept : handler.supportedHeaders.contains key ∧ '=' ∉ value
      · have hpair : pairs '&' '=' part = [(key, value)] := by
          rw [pairs_of_notMem hpart, hsplit]
          rfl
        rw [if_pos hkept, flatMap_cons, hpair, ih hparts]
        simp [List.contains_iff_mem.1 hkept.1, hkept.2]
      · rw [if_neg hkept, ih hparts]
        by_cases hkey : handler.supportedHeaders.contains key
        · have hvalue : '=' ∈ value := by
            by_contra hvalue
            exact hkept ⟨hkey, hvalue⟩
          simp [List.contains_iff_mem.1 hkey, hvalue]
        · simp [mt List.contains_iff_mem.2 hkey]

theorem pairs_outParams (handler : MailtoHandler) (url : MailtoURL) :
    (handler.outParams url).flatMap (pairs '&' '=') =
      (if url.path = [] then [] else pairs '&' '=' ("to=".toList ++ url.path)) ++
        (handler.headers url).filter fun pair => '=' ∉ pair.2 := by
  rw [outParams, flatMap_append, pairs_outParam fun _ => notMem_of_mem_splitOn]
  refine congrArg (· ++ _) ?_
  cases url.path with
  | nil => rfl
  | cons c path => rw [if_pos (by simp), if_neg (by simp), flatMap_singleton]

/-- A recipient with a separator within it is cut off there. -/
theorem pairs_recipient {path : List Char} (hpath : path ≠ []) :
    ∃ first rest, pairs '&' '=' ("to=".toList ++ path) = ("to".toList, first) :: rest ∧
      (first = path ↔ '&' ∉ path) ∧ ('&' ∉ path → rest = []) := by
  have hsplit : ∀ value : List Char,
      splitFirst '=' ("to=".toList ++ value) = some ("to".toList, value) :=
    fun value => splitFirst_append (show '=' ∉ "to".toList by decide) value
  by_cases hmem : '&' ∈ path
  · obtain ⟨first, rest, rfl, hnot⟩ := eq_append_cons_of_mem hmem
    have hfirst : '&' ∉ "to=".toList ++ first := by
      rw [mem_append]
      exact not_or_intro (by decide) hnot
    refine ⟨first, pairs '&' '=' rest, ?_, ?_, fun h => absurd hmem h⟩
    · rw [← append_assoc, pairs_append_cons, pairs_of_notMem hfirst, hsplit]
      rfl
    · simp
  · refine ⟨path, [], ?_, by simp [hmem], fun _ => rfl⟩
    have hall : '&' ∉ "to=".toList ++ path := by
      rw [mem_append]
      exact not_or_intro (by decide) hmem
    rw [pairs_of_notMem hall, hsplit]
    rfl

/-- Nothing is lost if and only if the separators are only where they separate. -/
theorem losesNothing_iff (handler : MailtoHandler) (url : MailtoURL)
    (hscheme : url.scheme = "mailto".toList) :
    handler.LosesNothing url ↔ handler.Separated url := by
  have hrewrite : handler.rewriteMailtoURL url =
      some (handler.beginningScheme ++ ['&'].intercalate (handler.outParams url)) :=
    if_neg (not_not.2 hscheme)
  have hheaders : (handler.headers url).filter (fun pair => '=' ∉ pair.2) = handler.headers url ↔
      ∀ header ∈ handler.headers url, '=' ∉ header.2 := by
    simp [filter_eq_self]
  have hloses : handler.LosesNothing url ↔
      (if url.path = [] then [] else pairs '&' '=' ("to=".toList ++ url.path)) ++
        (handler.headers url).filter (fun pair => '=' ∉ pair.2) =
          recipient url ++ handler.headers url := by
    rw [← pairs_outParams, ← pairs_intercalate]
    constructor
    · rintro ⟨parameters, hresult, hpairs⟩
      rw [hrewrite, Option.some_inj, append_cancel_left_eq] at hresult
      rwa [hresult]
    · exact fun hpairs => ⟨_, hrewrite, hpairs⟩
  rw [hloses, Separated, recipient, ← hheaders]
  by_cases hpath : url.path = []
  · simp [hpath]
  · obtain ⟨first, rest, hfirst, hwhole, hrest⟩ := pairs_recipient hpath
    rw [if_neg hpath, if_neg hpath, hfirst, cons_append, cons_append, nil_append]
    constructor
    · intro h
      obtain ⟨hhead, htail⟩ := List.cons.inj h
      have hseparated := hwhole.1 (Prod.mk.inj hhead).2
      rw [hrest hseparated, nil_append] at htail
      exact ⟨hseparated, htail⟩
    · rintro ⟨hseparated, htail⟩
      rw [hwhole.2 hseparated, hrest hseparated, nil_append, htail]

/-- A URL with a recipient, a header that is supported and one that is not. -/
def someone : MailtoURL :=
  ⟨"mailto".toList, "someone@there.com".toList, "garbage=in&garbageOut&subject=trash".toList⟩

theorem someone_losesNothing : base.LosesNothing someone :=
  (losesNothing_iff base someone rfl).2 ⟨by decide, by decide⟩

/-- A link in the text of the mail. -/
def withLink : MailtoURL :=
  ⟨"mailto".toList, "someone@there.com".toList, "subject=look&body=there.com/?page=2".toList⟩

/-- The text is gone. -/
theorem withLink_loses :
    base.rewriteMailtoURL withLink =
        some "mailtohandler:/co?to=someone@there.com&subject=look".toList ∧
      ¬base.LosesNothing withLink := by
  refine ⟨by decide, ?_⟩
  rintro ⟨parameters, hresult, hpairs⟩
  have hparameters : parameters = "to=someone@there.com&subject=look".toList := by
    have hrewrite : base.rewriteMailtoURL withLink =
        some (base.beginningScheme ++ "to=someone@there.com&subject=look".toList) := by
      decide
    rw [hrewrite, Option.some_inj, append_cancel_left_eq] at hresult
    exact hresult.symm
  subst hparameters
  exact absurd hpairs (by decide)

end MailtoHandler

end ChromiumIos
