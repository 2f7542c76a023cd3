import ChromiumIos.Lib.Keyed
import Mathlib.Data.List.Forall2
import Mathlib.Data.List.TakeWhile

/-!
# The response that a protocol handler makes of a request

`protocol_handler_util.mm`: `GetNSURLResponseForRequest` copies the header lines of a response
into a dictionary. Names are compared regardless of case to find `Cache-Control` and
`Content-Type`; the dictionary itself tells differently spelled names apart.

- `getNSURLResponseForRequest`: the response.
- `get?_copyHeaderLines`: what the dictionary holds when all lines are copied.
- `response_converts`: the fields of a response whose lines are UTF-8.
-/

namespace ChromiumIos

open Lib List

/-- An `NSString`. -/
abbrev HeaderString := List Char

/-- An `NSDictionary` of header fields. -/
abbrev HeaderFields := Keyed HeaderString HeaderString

/-- Names and values. -/
abbrev DecodedLines := List (HeaderString × HeaderString)

/-- The strings of the platform, and the encodings that `base` knows. -/
structure HeaderStrings (Bytes Encoding : Type) where
  /-- `base::SysUTF8ToNSString`; the bytes need not be UTF-8. -/
  sysUTF8ToNSString : Bytes → Option HeaderString
  detectEncoding : Bytes → Option Encoding
  convertToUtf8AndNormalize : Bytes → Encoding → Option Bytes
  /-- Two strings are the same for `caseInsensitiveCompare:` if they fold to the same. -/
  foldCase : HeaderString → HeaderString

/-- `net::HttpResponseHeaders`, with the lines that `EnumerateHeaderLines` gives. -/
structure HttpResponseHeaders (Bytes : Type) where
  lines : List (Bytes × Bytes)
  majorValue : UInt16
  minorValue : UInt16

/-- What is read of a `net::URLRequest`. -/
structure HeaderRequest (URL Bytes : Type) where
  url : URL
  schemeIsData : Bool
  mimeType : Bytes
  charset : Bytes
  responseHeaders : Option (HttpResponseHeaders Bytes)
  responseCode : Int

/-- The `NSURLResponse` of a data URL, with strings that are checked not to be nil, and the
`CRNHTTPURLResponse` of any other. -/
inductive HandlerResponse (URL : Type)
  | data (url : URL) (mimeType : Option HeaderString) (expectedContentLength : Int)
      (textEncodingName : Option HeaderString)
  | http (url : URL) (statusCode : Int) (httpVersion : HeaderString)
      (headerFields : HeaderFields)

namespace ProtocolHandlerUtil

def kContentType : HeaderString := "Content-Type".toList

def kCacheControl : HeaderString := "Cache-Control".toList

def kNoStore : HeaderString := "no-store".toList

variable {URL Bytes Encoding : Type} (P : HeaderStrings Bytes Encoding)

/-- `caseInsensitiveCompare:` gives `NSOrderedSame`. -/
def Same (name other : HeaderString) : Prop := P.foldCase name = P.foldCase other

instance (name other : HeaderString) : Decidable (Same P name other) := decEq _ _

/-- What is documented of the comparison. -/
structure Documented : Prop where
  cacheControl : Same P "cache-control".toList kCacheControl
  contentType : ¬Same P kContentType kCacheControl

/-- What the loop over the lines has copied. -/
structure CopiedHeaders where
  hasContentTypeHeader : Bool
  headerFields : HeaderFields
deriving DecidableEq

/-- The value as a string; where it is not UTF-8 its encoding is inferred. -/
def headerValue (value : Bytes) : Option HeaderString :=
  match P.sysUTF8ToNSString value with
  | some v => some v
  | none =>
    (P.detectEncoding value).bind fun encoding =>
      (P.convertToUtf8AndNormalize value encoding).bind P.sysUTF8ToNSString

/-- A value goes after the one that there is. -/
def appendValue (existing : Option HeaderString) (v : HeaderString) : Option HeaderString :=
  some (existing.elim v (· ++ ',' :: v))

def appendField (headerFields : HeaderFields) (key v : HeaderString) :
    HeaderFields :=
  match headerFields.get? key with
  | some existing => headerFields.set key (existing ++ ',' :: v)
  | none => headerFields.set key v

/-- The body of the loop over the lines. -/
def copyHeaderLine (copied : CopiedHeaders) (line : Bytes × Bytes) : CopiedHeaders :=
  match P.sysUTF8ToNSString line.1 with
  | none => copied
  | some key =>
    if Same P key "cache-control".toList then copied
    else
      let isContentType := decide (Same P key kContentType)
      let key := if isContentType then kContentType else key
      let copied :=
        { copied with hasContentTypeHeader := copied.hasContentTypeHeader || isContentType }
      match headerValue P line.2 with
      | none => copied
      | some v => { copied with headerFields := appendField copied.headerFields key v }

def copyHeaderLines (lines : List (Bytes × Bytes)) : CopiedHeaders :=
  lines.foldl (copyHeaderLine P) ⟨false, .empty⟩

/-- The MIME type stands in for a `Content-Type` that there is none of. -/
def addMimeType (mimeType : Bytes) (copied : CopiedHeaders) : HeaderFields :=
  if copied.hasContentTypeHeader then copied.headerFields
  else
    let type := (P.sysUTF8ToNSString mimeType).getD []
    if type.length ≠ 0 then copied.headerFields.set kContentType type else copied.headerFields

/-- Of several `Content-Type` headers the first one is kept. -/
def keepFirstContentType (headerFields : HeaderFields) : HeaderFields :=
  match headerFields.get? kContentType with
  | none => headerFields
  | some contentType =>
    if ',' ∈ contentType then headerFields.set kContentType (contentType.takeWhile (· ≠ ','))
    else headerFields

def headerLines (request : HeaderRequest URL Bytes) : List (Bytes × Bytes) :=
  request.responseHeaders.elim [] (·.lines)

def headerFields (request : HeaderRequest URL Bytes) : HeaderFields :=
  let copied := copyHeaderLines P (headerLines request)
  (keepFirstContentType (addMimeType P request.mimeType copied)).set kCacheControl kNoStore

def httpVersion (headers : HttpResponseHeaders Bytes) : HeaderString :=
  "HTTP/".toList ++ (toString headers.majorValue).toList ++
    '.' :: (toString headers.minorValue).toList

def getNSURLResponseForRequest (request : HeaderRequest URL Bytes) : HandlerResponse URL :=
  if request.schemeIsData then
    .data request.url (P.sysUTF8ToNSString request.mimeType) (-1)
      (P.sysUTF8ToNSString request.charset)
  else
    .http request.url request.responseCode
      (request.responseHeaders.elim "HTTP/1.1".toList httpVersion) (headerFields P request)

/-! ## What is to come of the lines -/

/-- The lines are UTF-8, and these are their strings. -/
def Decodes (lines : List (Bytes × Bytes)) (decoded : DecodedLines) : Prop :=
  List.Forall₂ (fun line strings => P.sysUTF8ToNSString line.1 = some strings.1 ∧
    P.sysUTF8ToNSString line.2 = some strings.2) lines decoded

/-- The values of the lines of a name, however it is spelled. -/
def valuesFor (decoded : DecodedLines) (name : HeaderString) : List HeaderString :=
  (decoded.filter fun line => Same P line.1 name).map Prod.snd

def joined (values : List HeaderString) : HeaderString := [','].intercalate values

/-- The value of the first `Content-Type` line, or the MIME type where there is none. -/
def contentTypeFor (decoded : DecodedLines) (mimeType : Option HeaderString) :
    Option HeaderString :=
  (valuesFor P decoded kContentType).head?.or (mimeType.filter (· ≠ []))

/-- The header fields that are to come of the lines and the MIME type. -/
structure Converts (decoded : DecodedLines) (mimeType : Option HeaderString)
    (headerFields : HeaderFields) : Prop where
  cacheControl : ∀ key, Same P key kCacheControl →
    headerFields.get? key = if key = kCacheControl then some kNoStore else none
  /-- Only what stands before the first comma is kept. -/
  contentType : ∀ key, Same P key kContentType →
    headerFields.get? key =
      if key = kContentType then
        (contentTypeFor P decoded mimeType).map (·.takeWhile (· ≠ ','))
      else none
  /-- A name that is always spelled in the same way. -/
  joined : ∀ name, ¬Same P name kCacheControl → ¬Same P name kContentType →
    name ∈ decoded.map Prod.fst → (∀ line ∈ decoded, Same P line.1 name → line.1 = name) →
      ∀ key, Same P key name → headerFields.get? key =
        if key = name then some (joined (valuesFor P decoded name)) else none
  noOther : ∀ key, headerFields.get? key ≠ none → Same P key kCacheControl ∨
    Same P key kContentType ∨ ∃ line ∈ decoded, Same P line.1 key

/-! ## Copying -/

theorem get?_appendField (headerFields : HeaderFields) (key v other : HeaderString) :
    (appendField headerFields key v).get? other =
      if other = key then appendValue (headerFields.get? key) v else headerFields.get? other := by
  unfold appendField appendValue
  cases headerFields.get? key with
  | none => exact Keyed.get?_set _ _ _ _
  | some existing => exact Keyed.get?_set _ _ _ _

variable {P}

/-- The key that a line is copied under. -/
def keyFor (P : HeaderStrings Bytes Encoding) (name : HeaderString) : Option HeaderString :=
  if Same P name kCacheControl then none
  else if Same P name kContentType then some kContentType
  else some name

theorem same_cacheControl_iff (h : Documented P) (name : HeaderString) :
    Same P name "cache-control".toList ↔ Same P name kCacheControl :=
  ⟨fun hname => hname.trans h.cacheControl, fun hname => hname.trans h.cacheControl.symm⟩

/-- What a line of UTF-8 does. -/
theorem copyHeaderLine_eq (h : Documented P) {line : Bytes × Bytes} {name value : HeaderString}
    (hname : P.sysUTF8ToNSString line.1 = some name)
    (hvalue : P.sysUTF8ToNSString line.2 = some value) (copied : CopiedHeaders) :
    copyHeaderLine P copied line =
      (keyFor P name).elim copied fun key =>
        ⟨copied.hasContentTypeHeader || decide (Same P name kContentType),
          appendField copied.headerFields key value⟩ := by
  have hheader : headerValue P line.2 = some value := by rw [headerValue, hvalue]
  unfold copyHeaderLine keyFor
  rw [hname]
  dsimp only
  by_cases hcache : Same P name kCacheControl
  · rw [if_pos ((same_cacheControl_iff h name).2 hcache), if_pos hcache]
    rfl
  · rw [if_neg fun hlower => hcache ((same_cacheControl_iff h name).1 hlower), if_neg hcache,
      hheader]
    by_cases hcontent : Same P name kContentType
    · simp [hcontent]
    · simp [hcontent]

/-- The values that are copied under a key. -/
def copiedValues (P : HeaderStrings Bytes Encoding) (decoded : DecodedLines)
    (key : HeaderString) : List HeaderString :=
  (decoded.filter fun line => keyFor P line.1 = some key).map Prod.snd

theorem copiedValues_cons (name value : HeaderString) (decoded : DecodedLines)
    (key : HeaderString) :
    copiedValues P ((name, value) :: decoded) key =
      if keyFor P name = some key then value :: copiedValues P decoded key
      else copiedValues P decoded key := by
  by_cases hkey : keyFor P name = some key
  · simp [copiedValues, hkey]
  · simp [copiedValues, hkey]

theorem not_contentType_of_keyFor (h : Documented P) {name : HeaderString}
    (hname : keyFor P name = none) : ¬Same P name kContentType := by
  intro hcontent
  by_cases hcache : Same P name kCacheControl
  · exact h.contentType (hcontent.symm.trans hcache)
  · rw [keyFor, if_neg hcache, if_pos hcontent] at hname
    cases hname

theorem copyHeaderLines_from (h : Documented P) {lines : List (Bytes × Bytes)}
    {decoded : DecodedLines} (hlines : Decodes P lines decoded)
    (copied : CopiedHeaders) :
    (lines.foldl (copyHeaderLine P) copied).hasContentTypeHeader =
        (copied.hasContentTypeHeader || decoded.any fun line => Same P line.1 kContentType) ∧
      ∀ key, (lines.foldl (copyHeaderLine P) copied).headerFields.get? key =
        (copiedValues P decoded key).foldl appendValue (copied.headerFields.get? key) := by
  induction hlines generalizing copied with
  | nil => exact ⟨(Bool.or_false _).symm, fun _ => rfl⟩
  | @cons line strings lines decoded hline hlines ih =>
    obtain ⟨name, value⟩ := strings
    rw [foldl_cons, copyHeaderLine_eq h hline.1 hline.2]
    cases hname : keyFor P name with
    | none =>
      obtain ⟨hhas, hget⟩ := ih copied
      refine ⟨?_, fun key => ?_⟩
      · rw [any_cons, decide_eq_false (not_contentType_of_keyFor h hname), Bool.false_or]
        exact hhas
      · rw [copiedValues_cons, hname, if_neg (Option.some_ne_none key).symm]
        exact hget key
    | some copiedKey =>
      obtain ⟨hhas, hget⟩ := ih ⟨copied.hasContentTypeHeader || decide (Same P name kContentType),
        appendField copied.headerFields copiedKey value⟩
      refine ⟨?_, fun key => ?_⟩
      · rw [any_cons, ← Bool.or_assoc]
        exact hhas
      · rw [copiedValues_cons, hname]
        refine (hget key).trans ?_
        rw [get?_appendField]
        by_cases hkey : key = copiedKey
        · rw [if_pos hkey, if_pos (congrArg some hkey.symm), foldl_cons, hkey]
        · rw [if_neg hkey, if_neg fun heq => hkey (Option.some.inj heq).symm]

/-! ## Joining -/

theorem joined_cons (v : HeaderString) (values : List HeaderString) :
    joined (v :: values) = v ++ values.flatMap (',' :: ·) := by
  induction values generalizing v with
  | nil => simp [joined, intercalate]
  | cons w values ih =>
    have hrest : joined (v :: w :: values) = v ++ ',' :: joined (w :: values) := by
      simp [joined, intercalate]
    rw [hrest, ih, flatMap_cons, cons_append]

theorem foldl_appendValue (values : List HeaderString) :
    values.foldl appendValue none = if values = [] then none else some (joined values) := by
  have hsome : ∀ (values : List HeaderString) (v : HeaderString),
      values.foldl appendValue (some v) = some (v ++ values.flatMap (',' :: ·)) := by
    intro values
    induction values with
    | nil =>
      intro v
      rw [foldl_nil, flatMap_nil, append_nil]
    | cons w values ih =>
      intro v
      show values.foldl appendValue (some (v ++ ',' :: w)) = _
      rw [ih, flatMap_cons, append_assoc]
  cases values with
  | nil => rfl
  | cons v values =>
    rw [if_neg (cons_ne_nil _ _), joined_cons]
    exact hsome values v

/-- The first value ends at its first comma, or where the next one is appended. -/
theorem takeWhile_joined (v : HeaderString) (values : List HeaderString) :
    (joined (v :: values)).takeWhile (· ≠ ',') = v.takeWhile (· ≠ ',') := by
  rw [joined_cons, takeWhile_append]
  split
  · next hall =>
    have hnil : (values.flatMap (',' :: ·)).takeWhile (· ≠ ',') = [] := by
      cases values with
      | nil => rfl
      | cons w values => simp
    rw [hnil, append_nil]
    exact (List.takeWhile_prefix _).eq_of_length hall |>.symm
  · rfl

/-- What is copied under each key. -/
theorem get?_copyHeaderLines (h : Documented P) {lines : List (Bytes × Bytes)}
    {decoded : DecodedLines} (hlines : Decodes P lines decoded) (key : HeaderString) :
    (copyHeaderLines P lines).headerFields.get? key =
      if copiedValues P decoded key = [] then none
      else some (joined (copiedValues P decoded key)) := by
  rw [copyHeaderLines, (copyHeaderLines_from h hlines _).2, Keyed.get?_empty, foldl_appendValue]

/-! ## The fields -/

theorem copiedValues_contentType (h : Documented P) (decoded : DecodedLines) :
    copiedValues P decoded kContentType = valuesFor P decoded kContentType := by
  refine congrArg (List.map Prod.snd) (filter_congr fun line _ => ?_)
  refine decide_eq_decide.2 ?_
  constructor
  · intro hkey
    by_contra hcontent
    unfold keyFor at hkey
    split at hkey
    · cases hkey
    · exact hcontent (congrArg P.foldCase (Option.some.inj hkey))
  · intro hcontent
    have hcache : ¬Same P line.1 kCacheControl := fun hcache =>
      h.contentType (hcontent.symm.trans hcache)
    rw [keyFor, if_neg hcache, if_pos hcontent]

/-- The keys of lines are spelled as the lines are, and are neither of the two names. -/
theorem keyFor_eq_some_iff {name key : HeaderString} (hkey : ¬key = kContentType) :
    keyFor P name = some key ↔
      name = key ∧ ¬Same P key kCacheControl ∧ ¬Same P key kContentType := by
  unfold keyFor
  split
  · next hcache =>
    refine ⟨fun hnone => absurd hnone.symm (Option.some_ne_none key), ?_⟩
    rintro ⟨rfl, hnot, -⟩
    exact absurd hcache hnot
  · next hcache =>
    split
    · next hcontent =>
      refine ⟨fun heq => absurd (Option.some.inj heq).symm hkey, ?_⟩
      rintro ⟨rfl, -, hnot⟩
      exact absurd hcontent hnot
    · next hcontent =>
      constructor
      · intro heq
        obtain rfl := Option.some.inj heq
        exact ⟨rfl, hcache, hcontent⟩
      · rintro ⟨rfl, -, -⟩
        rfl

theorem copiedValues_eq_nil {decoded : DecodedLines} {key : HeaderString}
    (hkey : ¬key = kContentType) (hname : Same P key kCacheControl ∨ Same P key kContentType) :
    copiedValues P decoded key = [] := by
  refine map_eq_nil_iff.2 (filter_eq_nil_iff.2 fun line _ => ?_)
  intro hline
  obtain ⟨-, hcache, hcontent⟩ := (keyFor_eq_some_iff hkey).1 (of_decide_eq_true hline)
  exact hname.elim hcache hcontent

theorem get?_keepFirstContentType (headerFields : HeaderFields) (key : HeaderString) :
    (keepFirstContentType headerFields).get? key =
      if key = kContentType then
        (headerFields.get? kContentType).map (·.takeWhile (· ≠ ','))
      else headerFields.get? key := by
  unfold keepFirstContentType
  by_cases hkey : key = kContentType
  · rw [if_pos hkey, hkey]
    cases hfield : headerFields.get? kContentType with
    | none => exact hfield
    | some contentType =>
      dsimp only
      split
      · rw [Keyed.get?_set, if_pos rfl, Option.map_some]
      · next hcomma =>
        have hwhole : contentType.takeWhile (· ≠ ',') = contentType :=
          takeWhile_eq_self_iff.2 fun c hc => decide_eq_true fun heq => hcomma (heq ▸ hc)
        rw [hfield, Option.map_some, hwhole]
  · rw [if_neg hkey]
    split
    · rfl
    · split
      · rw [Keyed.get?_set, if_neg hkey]
      · rfl

theorem get?_addMimeType_of_ne (mimeType : Bytes) (copied : CopiedHeaders) {key : HeaderString}
    (hkey : ¬key = kContentType) :
    (addMimeType P mimeType copied).get? key = copied.headerFields.get? key := by
  unfold addMimeType
  dsimp only
  split
  · rfl
  · split
    · rw [Keyed.get?_set, if_neg hkey]
    · rfl

/-- The `Content-Type` before it is cut. -/
theorem get?_addMimeType (h : Documented P) {lines : List (Bytes × Bytes)}
    {decoded : DecodedLines} (hlines : Decodes P lines decoded) (mimeType : Bytes) :
    ((addMimeType P mimeType (copyHeaderLines P lines)).get? kContentType).map
        (·.takeWhile (· ≠ ',')) =
      (contentTypeFor P decoded (P.sysUTF8ToNSString mimeType)).map (·.takeWhile (· ≠ ',')) := by
  have hhas : (copyHeaderLines P lines).hasContentTypeHeader =
      decoded.any fun line => Same P line.1 kContentType :=
    (copyHeaderLines_from h hlines _).1.trans (Bool.false_or _)
  have hget := get?_copyHeaderLines h hlines kContentType
  rw [copiedValues_contentType h] at hget
  unfold addMimeType contentTypeFor
  cases hvalues : valuesFor P decoded kContentType with
  | nil =>
    have hnone : (copyHeaderLines P lines).hasContentTypeHeader = false := by
      rw [hhas, any_eq_false]
      exact fun line hline hsame =>
        filter_eq_nil_iff.1 (map_eq_nil_iff.1 hvalues) line hline hsame
    rw [hvalues, if_pos rfl] at hget
    rw [hnone, if_neg Bool.false_ne_true]
    cases hmime : P.sysUTF8ToNSString mimeType with
    | none => simpa using hget
    | some type =>
      by_cases hempty : type = []
      · simp [hempty, hget, Option.filter]
      · simp [hempty, Option.filter]
  | cons v values =>
    have hsome : (copyHeaderLines P lines).hasContentTypeHeader = true := by
      by_contra hnone
      rw [hhas, Bool.not_eq_true, any_eq_false] at hnone
      have hnil : valuesFor P decoded kContentType = [] :=
        map_eq_nil_iff.2 (filter_eq_nil_iff.2 hnone)
      cases hnil.symm.trans hvalues
    rw [hvalues, if_neg (cons_ne_nil _ _)] at hget
    rw [hsome, if_pos rfl, hget, Option.map_some, takeWhile_joined]
    rfl

theorem converts_headerFields (h : Documented P) (request : HeaderRequest URL Bytes)
    {decoded : DecodedLines} (hlines : Decodes P (headerLines request) decoded) :
    Converts P decoded (P.sysUTF8ToNSString request.mimeType) (headerFields P request) := by
  have hother : ∀ key, ¬key = kCacheControl → ¬key = kContentType →
      (headerFields P request).get? key =
        if copiedValues P decoded key = [] then none
        else some (joined (copiedValues P decoded key)) := by
    intro key hcache hcontent
    rw [headerFields, Keyed.get?_set, if_neg hcache, get?_keepFirstContentType, if_neg hcontent,
      get?_addMimeType_of_ne _ _ hcontent, get?_copyHeaderLines h hlines]
  have hdiffer : ¬kContentType = kCacheControl := fun heq =>
    h.contentType (congrArg P.foldCase heq)
  constructor
  · intro key hsame
    by_cases hkey : key = kCacheControl
    · rw [headerFields, Keyed.get?_set, if_pos hkey, if_pos hkey]
    · have hcontent : ¬key = kContentType := by
        rintro rfl
        exact h.contentType hsame
      rw [hother key hkey hcontent, copiedValues_eq_nil hcontent (.inl hsame), if_pos rfl,
        if_neg hkey]
  · intro key hsame
    have hcache : ¬key = kCacheControl := by
      rintro rfl
      exact h.contentType hsame.symm
    by_cases hkey : key = kContentType
    · rw [headerFields, Keyed.get?_set, if_neg hcache, get?_keepFirstContentType, if_pos hkey,
        if_pos hkey]
      exact get?_addMimeType h hlines request.mimeType
    · rw [hother key hcache hkey, copiedValues_eq_nil hkey (.inr hsame), if_pos rfl, if_neg hkey]
  · intro name hcache hcontent hmem hspelled key hsame
    have hkeyCache : ¬key = kCacheControl := fun heq => hcache (heq ▸ hsame.symm)
    have hkeyContent : ¬key = kContentType := fun heq => hcontent (heq ▸ hsame.symm)
    rw [hother key hkeyCache hkeyContent]
    by_cases hkey : key = name
    · obtain ⟨line, hline, rfl⟩ := mem_map.1 hmem
      have hvalues : copiedValues P decoded key = valuesFor P decoded line.1 := by
        refine congrArg (List.map Prod.snd) (filter_congr fun other hmem => ?_)
        rw [decide_eq_decide, keyFor_eq_some_iff hkeyContent, hkey]
        constructor
        · rintro ⟨heq, -⟩
          exact congrArg P.foldCase heq
        · exact fun hother => ⟨hspelled other hmem hother, hcache, hcontent⟩
      have hsome : valuesFor P decoded line.1 ≠ [] :=
        ne_nil_of_mem (mem_map_of_mem (mem_filter.2 ⟨hline, decide_eq_true rfl⟩))
      rw [hvalues, if_neg hsome, if_pos hkey]
    · have hnone : copiedValues P decoded key = [] := by
        refine map_eq_nil_iff.2 (filter_eq_nil_iff.2 fun line hline hcopied => hkey ?_)
        obtain ⟨rfl, -⟩ := (keyFor_eq_some_iff hkeyContent).1 (of_decide_eq_true hcopied)
        exact hspelled line hline hsame
      rw [hnone, if_pos rfl, if_neg hkey]
  · intro key hkey
    by_contra hnot
    simp only [not_or, not_exists, not_and] at hnot
    obtain ⟨hcache, hcontent, hlines⟩ := hnot
    have hkeyContent : ¬key = kContentType := fun heq => hcontent (congrArg P.foldCase heq)
    have hnone : copiedValues P decoded key = [] := by
      refine map_eq_nil_iff.2 (filter_eq_nil_iff.2 fun line hline hcopied => ?_)
      obtain ⟨rfl, -⟩ := (keyFor_eq_some_iff hkeyContent).1 (of_decide_eq_true hcopied)
      exact hlines line hline rfl
    refine hkey ?_
    rw [hother key (fun heq => hcache (congrArg P.foldCase heq)) hkeyContent, hnone, if_pos rfl]

/-- The response to a request that is not for a data URL has the fields that the lines are to
give, where names and values are UTF-8. -/
theorem response_converts (h : Documented P) (request : HeaderRequest URL Bytes)
    (hdata : request.schemeIsData = false) {decoded : DecodedLines}
    (hlines : Decodes P (headerLines request) decoded) :
    ∃ httpVersion fields, getNSURLResponseForRequest P request =
        .http request.url request.responseCode httpVersion fields ∧
      Converts P decoded (P.sysUTF8ToNSString request.mimeType) fields := by
  refine ⟨request.responseHeaders.elim "HTTP/1.1".toList httpVersion, headerFields P request, ?_,
    converts_headerFields h request hlines⟩
  rw [getNSURLResponseForRequest, hdata, if_neg Bool.false_ne_true]

/-- Texts as their own bytes, of which all are UTF-8; upper-case letters fold to lower-case
ones. -/
def plainStrings : HeaderStrings HeaderString Unit where
  sysUTF8ToNSString := some
  detectEncoding _ := none
  convertToUtf8AndNormalize _ _ := none
  foldCase := List.map Char.toLower

/-- A request for a page, with the lines of its response. -/
def pageRequest (lines : List (String × String)) : HeaderRequest Unit HeaderString where
  url := ()
  schemeIsData := false
  mimeType := "text/html".toList
  charset := []
  responseHeaders := some ⟨lines.map fun line => (line.1.toList, line.2.toList), 1, 0⟩
  responseCode := 200

/-- Two types in one line, and a name twice. -/
def duplicateLines : List (String × String) :=
  [("cache-Control", "max-age=600"), ("coNteNt-tYPe", "text/plain; charset=iso-8859-4, image/png"),
    ("Foo", "A"), ("Content-Type", "text/html"), ("Bar", "B"), ("Foo", "D")]

theorem documented_plainStrings : Documented plainStrings := ⟨by decide, by decide⟩

theorem decodes_plainStrings (lines : DecodedLines) :
    Decodes plainStrings lines lines :=
  forall₂_same.2 fun _ _ => ⟨rfl, rfl⟩

theorem response_converts_duplicateLines :
    ∃ httpVersion fields, getNSURLResponseForRequest plainStrings (pageRequest duplicateLines) =
        .http () 200 httpVersion fields ∧
      Converts plainStrings (headerLines (pageRequest duplicateLines)) (some "text/html".toList)
        fields :=
  response_converts documented_plainStrings (pageRequest duplicateLines) rfl
    (decodes_plainStrings (headerLines (pageRequest duplicateLines)))

/-- A type that is cut within its line, and a name that is spelled in two ways. -/
theorem headerFields_not_joined :
    let fields := headerFields plainStrings (pageRequest
      [("Content-Type", "text/plain; charset=iso-8859-4, image/png"), ("Foo", "A"), ("foo", "B")])
    fields.get? kContentType = some "text/plain; charset=iso-8859-4".toList ∧
      ¬∃ key, ∀ other, Same plainStrings other "foo".toList → fields.get? other ≠ none →
        other = key := by
  intro fields
  refine ⟨by decide, ?_⟩
  rintro ⟨key, hkey⟩
  have hupper := hkey "Foo".toList (by decide) (by decide)
  have hlower := hkey "foo".toList (by decide) (by decide)
  exact absurd (hupper.trans hlower.symm) (by decide)

end ProtocolHandlerUtil

end ChromiumIos
