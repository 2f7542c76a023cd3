import ChromiumIos.Web.WebUITags

/-!
# Inlining the subresources of a WebUI page

What the page builder makes of a page: each tag becomes the elements that hold the script or the
stylesheet and what that imports, and the rest of the page stays.

The builder edits a text. It replaces a URL string wherever the first characters of the page show
it, so the string may be part of another URL or of what the page says, and a tag that earlier edits
have moved is not found.

- `WellTagged`: what holds of the page and of the resources.
- `RewritesTags`: a URL string that is rewritten stands in tags only, and near enough to the start.
- `Inlines`: no tag is left, and nothing but tags is replaced.
- `run_inlines`: so it is in every run that rewrites only tags.
-/

namespace ChromiumIos

open Lib List

namespace CRWWebUIPageBuilder

section Inlining

variable (w : WebUIResources) (literal : Char → Prop) (webUIURL : GURL)

/-- What is relied on of Foundation and of `GURL`. Texts of `literal` characters are compared
character by character: others may combine with the one before them, or be equivalent to it. -/
structure Documented : Prop where
  ascii : ∀ c : Char, c.val < 128 → literal c
  /-- Occurrences are replaced from the left, without overlap, where they lie in the range. -/
  replaceOccurrences : ∀ (text target replacement : String) (length : Nat), target ≠ "" →
    (∀ c ∈ text.toList, literal c) → (∀ c ∈ target.toList, literal c) →
    (w.replaceOccurrences text target replacement length).toList =
      replaceWithin utf16Units target.toList replacement.toList length 0 text.toList
  /-- The spec of a valid URL is not relative. -/
  resolve_spec : ∀ base base' urlString, (w.resolve base urlString).isValid = true →
    w.resolve base' (w.resolve base urlString).spec = w.resolve base urlString

/-- The kind of tag that `flattenHTML:` looks for. -/
def kindOf (url : GURL) : TagKind :=
  if isCSSSubresourceURL w url then .stylesheet else .script

def tagOf (url : GURL) : Tag := ⟨kindOf w url, url.spec⟩

def webUIJSURL : GURL := ⟨kWebUIJSURL, true⟩

/-- What a page leads to. -/
inductive Subresource : GURL → Prop
  | reference {url : GURL} (h : url ∈ references w webUIURL) : Subresource url
  | imported {url url' : GURL} (h : Subresource url) (himport : url' ∈ imports w url) :
    Subresource url'

/-- The URLs of the tags that are looked for. -/
def Found (url : String) : Prop :=
  url ∈ urlStringsFromHTML w (resource w webUIURL) ∨
    (∃ subresource, Subresource w webUIURL subresource ∧ url = subresource.spec) ∨
    url = kWebUIJSURL

/-- No tag is found in a text. -/
def Untagged (text : List Char) : Prop :=
  ∀ tag : Tag, Found w webUIURL tag.url → ¬ tag.text.toList <:+: text

/-- A text in which tags are not found, and that does not keep other ones from being found. -/
structure Harmless (text : List Char) : Prop where
  untagged : Untagged w webUIURL text
  literal : ∀ c ∈ text, literal c

/-- A tag has quotation marks. -/
theorem untagged_of_quote {w : WebUIResources} {webUIURL : GURL} {text : List Char}
    (h : '"' ∉ text) : Untagged w webUIURL text := by
  rintro tag - ⟨before, after, rfl⟩
  refine h (mem_append_left _ (mem_append_right _ ?_))
  rw [Tag.text_toList]
  simp

/-- A page that is fetched in these tokens, and resources that fit it. -/
structure WellTagged (page : List Token) : Prop where
  html : (resource w webUIURL).toList = render page
  spaced : page.IsChain fun token next => token.isText = true → next.isText = false
  /-- The URL strings are found in the tags. -/
  found : ∀ url, url ∈ urlStringsFromHTML w (resource w webUIURL) ↔
    ∃ kind, .tag ⟨kind, url⟩ ∈ page
  clean : ∀ url, Found w webUIURL url → url ≠ "" ∧ CleanURL url ∧ ∀ c ∈ url.toList, literal c
  harmless : ∀ token ∈ page, (∀ tag, token ≠ .tag tag) → Harmless w literal webUIURL token.chars
  resources : ∀ url, Subresource w webUIURL url →
    Harmless w literal webUIURL ((kindOf w url).inlined (resource w url)).toList
  webUIJavaScript :
    Harmless w literal webUIURL ((kindOf w webUIJSURL).inlined w.webUIJavaScript).toList
  /-- The extension of a URL is that of its tags. -/
  kind : ∀ tag, .tag tag ∈ page → tag.url ≠ kWebUIJSURL →
    tag.kind = kindOf w (w.resolve webUIURL tag.url)
  kindJS : ∀ tag, .tag tag ∈ page → tag.url = kWebUIJSURL → tag.kind = kindOf w webUIJSURL
  stylesheet : ∀ url, Subresource w webUIURL url → ∀ url' ∈ imports w url,
    kindOf w url' = .stylesheet
  valid : ∀ url, Subresource w webUIURL url → url.isValid = true

/-- If a loop rewrites the URL string that it visits next, that string stands in tags only, and in
the part that is searched. -/
def Loop.RewritesTags (html : String) : Loop → Prop
  | .page pageURL htmlLength (urlString :: _) =>
    urlString ≠ kWebUIJSURL → (w.resolve pageURL urlString).spec ≠ urlString →
      htmlLength ≤ nsStringLength html ∧ InTags urlString htmlLength html.toList
  | _ => True

instance decidableLoopRewritesTags (html : String) :
    ∀ loop : Loop, Decidable (loop.RewritesTags w html)
  | .page _ _ (_ :: _) => inferInstanceAs (Decidable (_ → _ → _ ∧ _))
  | .page _ _ [] => inferInstanceAs (Decidable True)
  | .subresource _ _ _ => inferInstanceAs (Decidable True)

/-- A rewrite of a URL string finds it in tags only, and all of it. -/
def RewritesTags (b : Build) : Op → Prop
  | .reply _ => True
  | .iterate => ∀ loop ∈ b.loops.head?, loop.RewritesTags w b.webUIHTML

instance decidableRewritesTags (b : Build) : ∀ op : Op, Decidable (RewritesTags w b op)
  | .reply _ => inferInstanceAs (Decidable True)
  | .iterate =>
    inferInstanceAs (Decidable (∀ loop ∈ b.loops.head?, loop.RewritesTags w b.webUIHTML))

end Inlining

/-- A page with some tokens in the place of each tag. -/
def Expands (page : List Token) (P : Token → Prop) (html : List Char) : Prop :=
  ∃ f : Tag → List Token, html = render (expand f page) ∧
    ∀ tag, .tag tag ∈ page → f tag ≠ [] ∧ ∀ token ∈ f tag, P token

/-- **What is built of a page**: none of the tags is left, each has become some inlined resources,
and everything else is as it was. -/
structure Inlines (w : WebUIResources) (webUIURL : GURL) (page : List Token) (built : String) :
    Prop where
  complete : Untagged w webUIURL built.toList
  confined : Expands page (fun token => ∃ kind contents, token = .inlined kind contents)
    built.toList

/-! ## Edits of the text -/

section Edits

variable {w : WebUIResources} {literal : Char → Prop} {webUIURL : GURL} {page : List Token}
  {P Q : Token → Prop} {html : String}

/-- A token that does not hide a tag. -/
structure Open (w : WebUIResources) (literal : Char → Prop) (webUIURL : GURL) (token : Token) :
    Prop where
  noText : token.isText = false
  found : ∀ tag, token = .tag tag → Found w webUIURL tag.url
  harmless : (∀ tag, token ≠ .tag tag) → Harmless w literal webUIURL token.chars

theorem Expands.imp {html : List Char} (h : Expands page P html)
    (himp : ∀ token, P token → Q token) : Expands page Q html := by
  obtain ⟨f, hhtml, hf⟩ := h
  exact ⟨f, hhtml, fun tag htag => ⟨(hf tag htag).1, fun token htoken =>
    himp token ((hf tag htag).2 token htoken)⟩⟩

/-- One more edit of a page, whose tags `edit` replaces. -/
theorem Expands.edit {f edit : Tag → List Token}
    (hf : ∀ tag, .tag tag ∈ page → f tag ≠ [] ∧ ∀ token ∈ f tag, P token)
    (hne : ∀ tag, edit tag ≠ []) (htag : ∀ tag, P (.tag tag) → ∀ token ∈ edit tag, Q token)
    (hother : ∀ token, P token → (∀ tag, token ≠ .tag tag) → Q token) :
    Expands page Q (render (expand edit (expand f page))) := by
  refine ⟨fun tag => expand edit (f tag), by rw [expand_expand], fun tag hmem => ?_⟩
  obtain ⟨hnonempty, htokens⟩ := hf tag hmem
  refine ⟨expand_ne_nil (fun _ _ => hne _) hnonempty, fun token htoken => ?_⟩
  rcases mem_expand htoken with ⟨hold, hnot⟩ | ⟨other, hold, hnew⟩
  · exact hother token (htokens token hold) hnot
  · exact htag other (htokens _ hold) token hnew

theorem WellTagged.legible (h : WellTagged w literal webUIURL page) {f : Tag → List Token}
    (hf : ∀ tag, .tag tag ∈ page → f tag ≠ [] ∧ ∀ token ∈ f tag, Open w literal webUIURL token)
    {tag : Tag} (htag : Found w webUIURL tag.url) : Legible tag (expand f page) where
  spaced := by
    have hreplaces : Replaces f page :=
      ⟨fun tag htag => (hf tag htag).1, fun tag htag token htoken =>
        ((hf tag htag).2 token htoken).noText⟩
    exact hreplaces.spaced h.spaced
  clean other hother := by
    rcases mem_expand hother with ⟨-, hnot⟩ | ⟨original, horiginal, hmem⟩
    · exact absurd rfl (hnot other)
    · exact (h.clean _ (((hf original horiginal).2 _ hmem).found other rfl)).2.1
  quiet token htoken hnot := by
    rcases mem_expand htoken with ⟨hpage, -⟩ | ⟨original, horiginal, hmem⟩
    · exact (h.harmless token hpage hnot).untagged tag htag
    · exact (((hf original horiginal).2 _ hmem).harmless hnot).untagged tag htag

section

variable (hw : Documented w literal) (h : WellTagged w literal webUIURL page)
include hw h

theorem WellTagged.literal_tag
    {tag : Tag} (htag : Found w webUIURL tag.url) : ∀ c ∈ tag.text.toList, literal c := by
  intro c hc
  rw [Tag.text, String.toList_append, String.toList_append, mem_append, mem_append] at hc
  rcases hc with (hstart | hurl) | hend
  · exact hw.ascii c (tag.kind.affixes_ascii.1 c hstart)
  · exact (h.clean _ htag).2.2 c hurl
  · exact hw.ascii c (tag.kind.affixes_ascii.2 c hend)

theorem WellTagged.literal_render {f : Tag → List Token}
    (hf : ∀ tag, .tag tag ∈ page → f tag ≠ [] ∧ ∀ token ∈ f tag, Open w literal webUIURL token) :
    ∀ c ∈ render (expand f page), literal c := by
  intro c hc
  obtain ⟨token, htoken, hc⟩ := mem_render.1 hc
  rcases mem_expand htoken with ⟨hpage, hnot⟩ | ⟨original, horiginal, hmem⟩
  · exact (h.harmless token hpage hnot).literal c hc
  · have hopen := (hf original horiginal).2 _ hmem
    by_cases htag : ∀ tag, token ≠ .tag tag
    · exact (hopen.harmless htag).literal c hc
    · rw [not_forall_not] at htag
      obtain ⟨tag, rfl⟩ := htag
      exact h.literal_tag hw (hopen.found tag rfl) c hc

/-- A tag is replaced wherever it stands. -/
theorem Expands.replaceAll (hopen : ∀ token, P token → Open w literal webUIURL token)
    (hhtml : Expands page P html.toList) {tag : Tag} (htag : Found w webUIURL tag.url)
    {replacement : String} {tokens : List Token} (htokens : replacement.toList = render tokens)
    (hne : tokens ≠ []) (hnew : P (.tag tag) → ∀ token ∈ tokens, Q token)
    (hold : ∀ token, P token → token ≠ .tag tag → Q token) :
    Expands page Q (replaceAll w html tag.text replacement).toList := by
  obtain ⟨f, hrender, hf⟩ := hhtml
  have hf' : ∀ tag, .tag tag ∈ page → f tag ≠ [] ∧ ∀ token ∈ f tag, Open w literal webUIURL token :=
    fun tag htag => ⟨(hf tag htag).1, fun token htoken =>
      hopen token ((hf tag htag).2 token htoken)⟩
  have hnonempty : tag.text.toList ≠ [] := by
    rw [Tag.text_toList]
    exact cons_ne_nil _ _
  have hseparates := (h.legible hf' htag).separates (h.clean _ htag).2.1
  have htext : (CRWWebUIPageBuilder.replaceAll w html tag.text replacement).toList =
      render (expand (insteadOf tag tokens) (expand f page)) := by
    rw [CRWWebUIPageBuilder.replaceAll, hw.replaceOccurrences _ _ _ _
      (fun hempty => hnonempty (by rw [hempty]; rfl)) (hrender ▸ h.literal_render hw hf')
      (h.literal_tag hw htag), nsStringLength_eq, hrender, ← joinPieces_piece,
      replaceWithin_joinPieces_all hnonempty hseparates, htokens, joinPieces_insteadOf]
  rw [htext]
  refine Expands.edit hf (fun other => ?_) (fun other hother token htoken => ?_)
    fun token hP hnot => hold token hP (hnot tag)
  · rw [insteadOf]
    split
    · exact hne
    · exact cons_ne_nil _ _
  · rw [insteadOf] at htoken
    split at htoken
    · next heq => exact hnew (heq ▸ hother) token htoken
    · next hdiffers =>
      obtain rfl := mem_singleton.1 htoken
      exact hold _ hother fun heq => hdiffers (Token.tag.inj heq)

/-- A URL string is rewritten in its tags. -/
theorem Expands.rewrite (hopen : ∀ token, P token → Open w literal webUIURL token)
    (hhtml : Expands page P html.toList) {url url' : String} (hfound : Found w webUIURL url)
    {length : Nat} (hin : InTags url length html.toList)
    (hnew : ∀ kind, P (.tag ⟨kind, url⟩) → Q (.tag ⟨kind, url'⟩))
    (hold : ∀ token, P token → (∀ kind, token ≠ .tag ⟨kind, url⟩) → Q token) :
    Expands page Q (w.replaceOccurrences html url url' length).toList := by
  obtain ⟨f, hrender, hf⟩ := hhtml
  have hf' : ∀ tag, .tag tag ∈ page → f tag ≠ [] ∧ ∀ token ∈ f tag, Open w literal webUIURL token :=
    fun tag htag => ⟨(hf tag htag).1, fun token htoken =>
      hopen token ((hf tag htag).2 token htoken)⟩
  obtain ⟨hne, hclean, hliteral⟩ := h.clean url hfound
  have hnonempty : url.toList ≠ [] := fun hnil => hne (String.toList_inj.1 hnil)
  rw [hrender] at hin
  have hlegible : ∀ kind, Legible ⟨kind, url⟩ (expand f page) := fun kind =>
    h.legible hf' (show Found w webUIURL (Tag.mk kind url).url from hfound)
  have htext : (w.replaceOccurrences html url url' length).toList =
      render (expand (rewritten url url') (expand f page)) := by
    rw [hw.replaceOccurrences _ _ _ _ hne (hrender ▸ h.literal_render hw hf') hliteral, hrender,
      hin.replaceWithin hnonempty hclean hlegible]
  rw [htext]
  refine Expands.edit hf (fun _ => cons_ne_nil _ _) (fun tag htag token htoken => ?_)
    fun token hP hnot => hold token hP fun kind => hnot _
  obtain rfl := mem_singleton.1 htoken
  split
  · next heq =>
    subst heq
    exact hnew tag.kind htag
  · next hdiffers =>
    exact hold _ htag fun kind heq => hdiffers (congrArg Tag.url (Token.tag.inj heq))

end

/-! ## Flattening -/

/-- An entry of the map of subresources. -/
structure Known (w : WebUIResources) (literal : Char → Prop) (webUIURL : GURL)
    (entry : GURL × String) : Prop where
  found : Found w webUIURL (tagOf w entry.1).url
  harmless : Harmless w literal webUIURL ((kindOf w entry.1).inlined entry.2).toList

/-- A tag that is still to be replaced, or a resource in the place of one. -/
def Flat (w : WebUIResources) (resources rest : List (GURL × String)) (token : Token) : Prop :=
  (∃ entry ∈ rest, token = .tag (tagOf w entry.1)) ∨
    ∃ entry ∈ resources, token = .inlined (kindOf w entry.1) entry.2

theorem flat_open {resources rest : List (GURL × String)}
    (hknown : ∀ entry ∈ resources, Known w literal webUIURL entry) (hrest : rest ⊆ resources)
    {token : Token} (h : Flat w resources rest token) : Open w literal webUIURL token := by
  rcases h with ⟨entry, hentry, rfl⟩ | ⟨entry, hentry, rfl⟩
  · refine ⟨rfl, fun tag htag => ?_, fun hnot => absurd rfl (hnot _)⟩
    rw [← Token.tag.inj htag]
    exact (hknown entry (hrest hentry)).found
  · exact ⟨rfl, fun _ => Token.noConfusion, fun _ => (hknown entry hentry).harmless⟩

theorem flattenHTML_eq (html : String) (subresources : List (GURL × String)) :
    flattenHTML w html subresources =
      (assign webUIJSURL w.webUIJavaScript subresources).foldl (fun html entry =>
        replaceAll w html (tagOf w entry.1).text ((kindOf w entry.1).inlined entry.2)) html := by
  rw [flattenHTML]
  congr 1
  funext html entry
  simp only [tagOf, kindOf]
  split
  · rfl
  · rfl

/-- Each entry replaces its tag, and leaves those of the entries behind it. -/
theorem flat_foldl (hw : Documented w literal) (h : WellTagged w literal webUIURL page)
    {resources rest : List (GURL × String)}
    (hknown : ∀ entry ∈ resources, Known w literal webUIURL entry) (hrest : rest ⊆ resources)
    (hhtml : Expands page (Flat w resources rest) html.toList) :
    Expands page (Flat w resources []) (rest.foldl (fun html entry =>
      replaceAll w html (tagOf w entry.1).text
        ((kindOf w entry.1).inlined entry.2)) html).toList := by
  induction rest generalizing html with
  | nil => exact hhtml
  | cons entry rest ih =>
    have hentry : entry ∈ resources := hrest mem_cons_self
    have hinlined : ((kindOf w entry.1).inlined entry.2).toList =
        render [.inlined (kindOf w entry.1) entry.2] := (append_nil _).symm
    refine ih (cons_subset.1 hrest).2 ?_
    refine hhtml.replaceAll hw h (fun _ => flat_open hknown hrest) (hknown entry hentry).found
      hinlined (cons_ne_nil _ _) ?_ ?_
    · intro _ token htoken
      exact .inr ⟨entry, hentry, mem_singleton.1 htoken⟩
    · rintro token (⟨other, hother, rfl⟩ | hinlined) hne
      · rcases mem_cons.1 hother with rfl | hlater
        · exact absurd rfl hne
        · exact .inl ⟨other, hlater, rfl⟩
      · exact .inr hinlined

theorem inlines_of_flat (h : WellTagged w literal webUIURL page)
    {resources : List (GURL × String)}
    (hknown : ∀ entry ∈ resources, Known w literal webUIURL entry)
    (hhtml : Expands page (Flat w resources []) html.toList) :
    Inlines w webUIURL page html where
  complete := by
    obtain ⟨f, hrender, hf⟩ := hhtml
    rintro tag htag ⟨before, after, hbetween⟩
    have hlegible : Legible tag (expand f page) :=
      h.legible (fun tag htag => ⟨(hf tag htag).1, fun token htoken =>
        flat_open hknown (nil_subset _) ((hf tag htag).2 token htoken)⟩) htag
    obtain ⟨left, right, hsplit, -⟩ :=
      hlegible.occurs (h.clean _ htag).2.1 (hrender.symm.trans hbetween.symm)
    have hmem : .tag tag ∈ expand f page := by
      rw [hsplit]
      exact mem_append_right _ mem_cons_self
    rcases mem_expand hmem with ⟨-, hnot⟩ | ⟨original, horiginal, hleft⟩
    · exact hnot tag rfl
    · rcases (hf original horiginal).2 _ hleft with ⟨entry, hentry, -⟩ | ⟨entry, -, hinlined⟩
      · cases hentry
      · cases hinlined
  confined := hhtml.imp fun token hflat => by
    rcases hflat with ⟨entry, hentry, -⟩ | ⟨entry, -, rfl⟩
    · cases hentry
    · exact ⟨_, _, rfl⟩

/-! ## The map of subresources -/

theorem eq_of_valid {url url' : GURL} (hvalid : url.isValid = true) (hvalid' : url'.isValid = true)
    (heq : url.eq url' = true) : url = url' := by
  cases url
  cases url'
  simp_all [GURL.eq]

section

variable {url : GURL} {text : String} {entries : List (GURL × String)} (hurl : url.isValid = true)
  (hentries : ∀ entry ∈ entries, entry.1.isValid = true)
include hurl hentries

theorem mem_assign {entry : GURL × String} (h : entry ∈ assign url text entries) :
    entry ∈ entries ∨ entry = (url, text) := by
  induction entries with
  | nil => exact .inr (mem_singleton.1 h)
  | cons first entries ih =>
    obtain ⟨hfirst, hrest⟩ := forall_mem_cons.1 hentries
    rw [assign] at h
    split at h
    · rcases mem_cons.1 h with rfl | hold
      · exact .inr rfl
      · exact .inl hold
    · split at h
      · next heq =>
        rcases mem_cons.1 h with rfl | hold
        · exact .inr (by rw [eq_of_valid hurl hfirst heq])
        · exact .inl (mem_cons_of_mem _ hold)
      · rcases mem_cons.1 h with rfl | hold
        · exact .inl mem_cons_self
        · exact (ih hrest hold).imp_left (mem_cons_of_mem _)

theorem mem_keys_assign {key : GURL} (h : key = url ∨ key ∈ entries.map Prod.fst) :
    key ∈ (assign url text entries).map Prod.fst := by
  induction entries with
  | nil =>
    rcases h with rfl | hnone
    · exact mem_singleton_self _
    · cases hnone
  | cons first entries ih =>
    obtain ⟨hfirst, hrest⟩ := forall_mem_cons.1 hentries
    rw [map_cons, mem_cons] at h
    rw [assign]
    split
    · rw [map_cons, map_cons, mem_cons, mem_cons]
      exact h
    · split
      · next heq =>
        rw [map_cons, mem_cons]
        rcases h with rfl | h
        · exact .inl (eq_of_valid hurl hfirst heq)
        · exact h
      · rw [map_cons, mem_cons]
        rcases h with hkey | hkey | hkey
        · exact .inr (ih hrest (.inl hkey))
        · exact .inl hkey
        · exact .inr (ih hrest (.inr hkey))

end

end Edits

/-! ## A page being built -/

/-- A subresource that is fetched, is being read, or is in the map. -/
inductive Build.Covers (b : Build) (url : GURL) : Prop
  | outstanding (handler : Handler) (h : (handler, url) ∈ b.outstanding)
  | loop (text : String) (rest : List String) (h : .subresource url text rest ∈ b.loops)
  | kept (h : url ∈ b.subresources.map Prod.fst)

/-- The tags there are while a page is being built: those whose URL the loop over the page has yet
to visit, that of the file of the bundle, and those of subresources. -/
inductive Pending (w : WebUIResources) (webUIURL : GURL) (page : List Token) (b : Build) :
    Token → Prop
  | unvisited {tag : Tag} (hpage : .tag tag ∈ page) {pageURL : GURL} {htmlLength : Nat}
      {rest : List String} (hloop : .page pageURL htmlLength rest ∈ b.loops)
      (hrest : tag.url ∈ rest) : Pending w webUIURL page b (.tag tag)
  | webUIJS : Pending w webUIURL page b (.tag (tagOf w webUIJSURL))
  | subresource {url : GURL} (hurl : Subresource w webUIURL url) (h : b.Covers url) :
      Pending w webUIURL page b (.tag (tagOf w url))

/-- What holds while a page is being built. -/
structure Building (w : WebUIResources) (webUIURL : GURL) (page : List Token) (b : Build) :
    Prop where
  html : Expands page (Pending w webUIURL page b) b.webUIHTML.toList
  outstanding : ∀ fetch ∈ b.outstanding,
    fetch.1 = .subresource ∧ Subresource w webUIURL fetch.2
  pages : ∀ pageURL htmlLength rest, .page pageURL htmlLength rest ∈ b.loops →
    pageURL = webUIURL ∧ ∀ urlString ∈ rest, urlString ∈ urlStringsFromHTML w (resource w webUIURL)
  loops : ∀ url text rest, .subresource url text rest ∈ b.loops → Subresource w webUIURL url ∧
    text = resource w url ∧ ∀ urlString ∈ rest, w.resolve url urlString ∈ imports w url
  subresources : ∀ entry ∈ b.subresources,
    Subresource w webUIURL entry.1 ∧ entry.2 = resource w entry.1

section Steps

variable {w : WebUIResources} {literal : Char → Prop} {webUIURL : GURL} {page : List Token}
  {b b' : Build} {pageURL subresourceURL : GURL} {htmlLength : Nat} {subresource urlString : String}
  {rest : List String} {loops : List Loop}

theorem iterate_pageEnds (heq : b.loops = .page pageURL htmlLength [] :: loops) :
    b.iterate w = { b with loops, inDelegate := true } := by
  simp only [Build.iterate, heq]

theorem iterate_pageSkips
    (heq : b.loops = .page pageURL htmlLength (kWebUIJSURL :: rest) :: loops) :
    b.iterate w = { b with
      loops := .page pageURL htmlLength rest :: loops
      inDelegate := false }.decrementPending w := by
  simp only [Build.iterate, heq, if_true]

/-- The page with the URL string rewritten that differs from the URL. -/
def rewriteURL (w : WebUIResources) (html : String) (urlString : String) (url : GURL)
    (htmlLength : Nat) : String :=
  if url.spec ≠ urlString then w.replaceOccurrences html urlString url.spec htmlLength else html

theorem iterate_pageFetches
    (heq : b.loops = .page pageURL htmlLength (urlString :: rest) :: loops)
    (hkept : urlString ≠ kWebUIJSURL)
    (hfits : (w.resolve pageURL urlString).spec ≠ urlString →
      htmlLength ≤ nsStringLength b.webUIHTML) :
    b.iterate w = { b with
      loops := .page pageURL htmlLength rest :: loops
      inDelegate := false
      webUIHTML := rewriteURL w b.webUIHTML urlString (w.resolve pageURL urlString)
        htmlLength }.fetch (w.resolve pageURL urlString) := by
  by_cases hsame : (w.resolve pageURL urlString).spec = urlString
  · simp [Build.iterate, heq, hkept, hsame, rewriteURL]
  · have hlong : ¬ nsStringLength b.webUIHTML < htmlLength := Nat.not_lt.2 (hfits hsame)
    simp [Build.iterate, heq, hkept, hsame, rewriteURL, hlong]

theorem iterate_subresourceEnds
    (heq : b.loops = .subresource subresourceURL subresource [] :: loops) :
    b.iterate w = { b with
      loops
      inDelegate := true
      subresources := assign subresourceURL subresource b.subresources }.decrementPending w := by
  simp only [Build.iterate, heq]

theorem iterate_subresourceFetches
    (heq : b.loops = .subresource subresourceURL subresource (urlString :: rest) :: loops) :
    b.iterate w = { b with
      loops := .subresource subresourceURL subresource rest :: loops
      webUIHTML := addCSSTag w b.webUIHTML (w.resolve subresourceURL urlString) subresourceURL
      pendingSubresourceCount := b.pendingSubresourceCount + 1 }.fetch
        (w.resolve subresourceURL urlString) := by
  simp only [Build.iterate, heq]

theorem Pending.open (h : WellTagged w literal webUIURL page) {token : Token}
    (hpending : Pending w webUIURL page b token) : Open w literal webUIURL token := by
  have hopen : ∀ tag : Tag, Found w webUIURL tag.url → Open w literal webUIURL (.tag tag) :=
    fun tag hfound => ⟨rfl, fun _ heq => Token.tag.inj heq ▸ hfound,
      fun hnot => absurd rfl (hnot _)⟩
  cases hpending with
  | unvisited hpage hloop hrest => exact hopen _ (.inl ((h.found _).2 ⟨_, hpage⟩))
  | webUIJS => exact hopen _ (.inr (.inr rfl))
  | subresource hurl hcovers => exact hopen _ (.inr (.inl ⟨_, hurl, rfl⟩))

/-- Tags stay pending where the loops over the page stay as they are. -/
theorem Pending.imp {token : Token}
    (hunvisited : ∀ tag pageURL htmlLength rest, token = .tag tag → .tag tag ∈ page →
      .page pageURL htmlLength rest ∈ b.loops → tag.url ∈ rest →
        Pending w webUIURL page b' (.tag tag))
    (hcovers : ∀ url, b.Covers url → b'.Covers url) (h : Pending w webUIURL page b token) :
    Pending w webUIURL page b' token := by
  cases h with
  | unvisited hpage hloop hrest => exact hunvisited _ _ _ _ rfl hpage hloop hrest
  | webUIJS => exact .webUIJS
  | subresource hurl h => exact .subresource hurl (hcovers _ h)

theorem Building.handleSubresource (hb : Building w webUIURL page b) {i : Nat}
    {handler : Handler} {url : GURL} (hget : b.outstanding[i]? = some (handler, url)) :
    Building w webUIURL page
      ({ b with outstanding := b.outstanding.eraseIdx i }.handleSubresource w
        (resource w url) url) where
  html := by
    refine hb.html.imp fun token => Pending.imp (fun tag _ _ _ _ hpage hloop hrest => ?_) ?_
    · exact .unvisited hpage (mem_cons_of_mem _ hloop) hrest
    · rintro other (⟨handler', hmem⟩ | ⟨text, rest, hmem⟩ | hmem)
      · rcases mem_cons.1 ((outstanding_perm hget).mem_iff.1 hmem) with heq | hold
        · obtain ⟨-, rfl⟩ := Prod.mk.inj heq
          exact .loop _ _ mem_cons_self
        · exact .outstanding _ hold
      · exact .loop _ _ (mem_cons_of_mem _ hmem)
      · exact .kept hmem
  outstanding fetch hfetch := hb.outstanding fetch (mem_of_mem_eraseIdx hfetch)
  pages pageURL htmlLength rest hloop := by
    rcases mem_cons.1 hloop with heq | hold
    · cases heq
    · exact hb.pages _ _ _ hold
  loops other text rest hloop := by
    rcases mem_cons.1 hloop with heq | hold
    · obtain ⟨rfl, rfl, rfl⟩ := Loop.subresource.inj heq
      refine ⟨(hb.outstanding _ (mem_of_getElem? hget)).2, rfl, fun urlString hmem => ?_⟩
      rw [imports]
      split at hmem
      · next hcss =>
        rw [if_pos hcss]
        exact mem_map_of_mem hmem
      · cases hmem
    · exact hb.loops _ _ _ hold
  subresources := hb.subresources

/-- A loop over the page that has visited a URL string, or is over. -/
theorem Building.pageLoop (hb : Building w webUIURL page b) (visited : List String)
    (loops' : List Loop) (heq : b.loops = .page pageURL htmlLength (visited ++ rest) :: loops)
    (hloops : b'.loops = loops' ++ loops)
    (hloop : loops' = [.page pageURL htmlLength rest] ∨ rest = [] ∧ loops' = [])
    (hhtml : Expands page (Pending w webUIURL page b') b'.webUIHTML.toList)
    (houtstanding : ∀ fetch ∈ b'.outstanding,
      fetch.1 = .subresource ∧ Subresource w webUIURL fetch.2)
    (hsubresources : b'.subresources = b.subresources) : Building w webUIURL page b' where
  html := hhtml
  outstanding := houtstanding
  pages := by
    intro pageURL' htmlLength' rest' hmem
    have hvisited := hb.pages pageURL htmlLength (visited ++ rest) (heq ▸ mem_cons_self)
    rw [hloops] at hmem
    rcases mem_append.1 hmem with hnew | hold
    · rcases hloop with hloop | ⟨-, hloop⟩
      · rw [hloop] at hnew
        obtain ⟨rfl, -, rfl⟩ := Loop.page.inj (mem_singleton.1 hnew)
        exact ⟨hvisited.1, fun urlString hmem => hvisited.2 _ (mem_append_right _ hmem)⟩
      · rw [hloop] at hnew
        cases hnew
    · exact hb.pages _ _ _ (heq ▸ mem_cons_of_mem _ hold)
  loops := by
    intro url text rest' hmem
    rw [hloops] at hmem
    rcases mem_append.1 hmem with hnew | hold
    · rcases hloop with hloop | ⟨-, hloop⟩
      · rw [hloop] at hnew
        cases mem_singleton.1 hnew
      · rw [hloop] at hnew
        cases hnew
    · exact hb.loops _ _ _ (heq ▸ mem_cons_of_mem _ hold)
  subresources := by
    rw [hsubresources]
    exact hb.subresources

/-- What a loop over the page covers is covered without it. -/
theorem covers_pageLoop
    (heq : b.loops = .page pageURL htmlLength rest :: loops) (hloops : loops ⊆ b'.loops)
    (houtstanding : b.outstanding ⊆ b'.outstanding)
    (hsubresources : b'.subresources = b.subresources)
    {url : GURL} (h : b.Covers url) : b'.Covers url := by
  cases h with
  | outstanding handler h => exact .outstanding handler (houtstanding h)
  | loop text rest h =>
    rw [heq] at h
    rcases mem_cons.1 h with hpage | hold
    · cases hpage
    · exact .loop _ _ (hloops hold)
  | kept h => exact .kept (hsubresources ▸ h)

theorem Building.pageEnds (hb : Building w webUIURL page b)
    (heq : b.loops = .page pageURL htmlLength [] :: loops) :
    Building w webUIURL page { b with loops, inDelegate := true } := by
  refine hb.pageLoop [] [] heq rfl (.inr ⟨rfl, rfl⟩) ?_ hb.outstanding rfl
  refine hb.html.imp fun token => Pending.imp (fun tag _ _ rest _ hpage hloop hrest => ?_)
    fun _ hcovers => covers_pageLoop heq ?_ ?_ ?_ hcovers
  · rw [heq] at hloop
    rcases mem_cons.1 hloop with hended | hold
    · obtain ⟨-, -, rfl⟩ := Loop.page.inj hended
      cases hrest
    · exact .unvisited hpage hold hrest
  · exact List.Subset.refl _
  · exact List.Subset.refl _
  · rfl

theorem Building.pageSkips (h : WellTagged w literal webUIURL page)
    (hb : Building w webUIURL page b)
    (heq : b.loops = .page pageURL htmlLength (kWebUIJSURL :: rest) :: loops) :
    Building w webUIURL page
      { b with loops := .page pageURL htmlLength rest :: loops, inDelegate := false } := by
  refine hb.pageLoop [kWebUIJSURL] [_] heq rfl (.inl rfl) ?_ hb.outstanding rfl
  refine hb.html.imp fun token => Pending.imp (fun tag _ _ _ _ hpage hloop hrest => ?_)
    fun _ hcovers => covers_pageLoop heq ?_ ?_ ?_ hcovers
  · rw [heq] at hloop
    rcases mem_cons.1 hloop with hvisited | hold
    · obtain ⟨rfl, rfl, rfl⟩ := Loop.page.inj hvisited
      rcases mem_cons.1 hrest with hjs | hlater
      · have htag : tag = tagOf w webUIJSURL := Tag.eq_of_eq (h.kindJS tag hpage hjs) hjs
        rw [htag]
        exact .webUIJS
      · exact .unvisited hpage mem_cons_self hlater
    · exact .unvisited hpage (mem_cons_of_mem _ hold) hrest
  · exact subset_cons_self _ _
  · exact List.Subset.refl _
  · rfl

theorem exists_resolve {url : GURL} (h : Subresource w webUIURL url) :
    ∃ base urlString, url = w.resolve base urlString := by
  cases h with
  | reference h =>
    obtain ⟨urlString, -, rfl⟩ := mem_map.1 h
    exact ⟨_, _, rfl⟩
  | imported h himport =>
    rw [imports] at himport
    split at himport
    · obtain ⟨urlString, -, rfl⟩ := mem_map.1 himport
      exact ⟨_, _, rfl⟩
    · cases himport

/-- The tags of a URL string are of the kind of the URL that it is resolved to. -/
theorem kind_of_visited (hw : Documented w literal) (h : WellTagged w literal webUIURL page)
    (hkept : urlString ≠ kWebUIJSURL) {tag : Tag} (htag : tag.url = urlString)
    (hpending : Pending w webUIURL page b (.tag tag)) :
    tag.kind = kindOf w (w.resolve webUIURL urlString) := by
  generalize htoken : Token.tag tag = token at hpending
  cases hpending with
  | unvisited hpage hloop hrest =>
    obtain rfl := Token.tag.inj htoken
    rw [← htag] at hkept ⊢
    exact h.kind _ hpage hkept
  | webUIJS =>
    rw [Token.tag.inj htoken] at htag
    exact absurd htag.symm hkept
  | subresource hurl hcovers =>
    rw [Token.tag.inj htoken] at htag ⊢
    -- the spec of a subresource is not relative
    obtain ⟨base, string, hresolve⟩ := exists_resolve hurl
    have hvalid := h.valid _ hurl
    rw [hresolve] at hvalid
    have hsame := hw.resolve_spec base webUIURL string hvalid
    rw [← htag, hresolve]
    exact congrArg (kindOf w) hsame.symm

theorem Building.pageFetches (hw : Documented w literal) (h : WellTagged w literal webUIURL page)
    (hb : Building w webUIURL page b)
    (heq : b.loops = .page pageURL htmlLength (urlString :: rest) :: loops)
    (hkept : urlString ≠ kWebUIJSURL)
    (hin : (w.resolve pageURL urlString).spec ≠ urlString →
      InTags urlString htmlLength b.webUIHTML.toList) :
    Building w webUIURL page ({ b with
      loops := .page pageURL htmlLength rest :: loops
      inDelegate := false
      webUIHTML := rewriteURL w b.webUIHTML urlString (w.resolve pageURL urlString)
        htmlLength }.fetch (w.resolve pageURL urlString)) := by
  obtain ⟨rfl, hstrings⟩ := hb.pages pageURL htmlLength _ (heq ▸ mem_cons_self)
  have hstring := hstrings urlString mem_cons_self
  have hreference : Subresource w pageURL (w.resolve pageURL urlString) :=
    .reference (mem_map_of_mem (mem_filter.2 ⟨hstring, by simpa using hkept⟩))
  generalize hb' : ({ b with
    loops := .page pageURL htmlLength rest :: loops
    inDelegate := false
    webUIHTML := rewriteURL w b.webUIHTML urlString (w.resolve pageURL urlString)
      htmlLength } : Build).fetch (w.resolve pageURL urlString) = b'
  have hloops : b'.loops = [.page pageURL htmlLength rest] ++ loops := by
    rw [← hb']
    rfl
  have houtstanding : b'.outstanding =
      b.outstanding ++ [(.subresource, w.resolve pageURL urlString)] := by
    rw [← hb']
    rfl
  have hsubresources : b'.subresources = b.subresources := by
    rw [← hb']
    rfl
  have hhtml : b'.webUIHTML = rewriteURL w b.webUIHTML urlString (w.resolve pageURL urlString)
      htmlLength := by
    rw [← hb']
    rfl
  -- the tags of the URL string are those of the URL now, and the other ones are as they were
  have hnew : ∀ tag, tag.url = urlString → Pending w pageURL page b (.tag tag) →
      Pending w pageURL page b' (.tag (tagOf w (w.resolve pageURL urlString))) := fun _ _ _ =>
    .subresource hreference (.outstanding .subresource (by
      rw [houtstanding]
      exact mem_append_right _ (mem_singleton_self _)))
  have hold : ∀ token, Pending w pageURL page b token →
      (∀ kind, token ≠ .tag ⟨kind, urlString⟩) → Pending w pageURL page b' token := by
    intro token hpending hnot
    refine hpending.imp (fun tag _ _ _ heq' hpage hloop hrest => ?_) fun _ hcovers =>
      covers_pageLoop heq (hloops ▸ subset_append_right _ _)
        (houtstanding ▸ subset_append_left _ _) hsubresources hcovers
    rw [heq] at hloop
    rcases mem_cons.1 hloop with hvisited | hold
    · obtain ⟨rfl, rfl, rfl⟩ := Loop.page.inj hvisited
      rcases mem_cons.1 hrest with hsame | hlater
      · have htag : tag = ⟨tag.kind, urlString⟩ := Tag.eq_of_eq rfl hsame
        exact absurd (heq'.trans (congrArg Token.tag htag)) (hnot tag.kind)
      · exact .unvisited hpage (hloops ▸ mem_append_left _ (mem_singleton_self _)) hlater
    · exact .unvisited hpage (hloops ▸ mem_append_right _ hold) hrest
  refine hb.pageLoop [urlString] [_] heq hloops (.inl rfl) ?_ ?_ hsubresources
  · rw [hhtml, rewriteURL]
    split
    · next hdiffers =>
      refine hb.html.rewrite hw h (fun _ => Pending.open h) (.inl hstring) (hin hdiffers) ?_ hold
      intro kind hpending
      have hkind : kind = _ := kind_of_visited hw h hkept rfl hpending
      rw [hkind]
      exact hnew ⟨kind, urlString⟩ rfl hpending
    · next hsame =>
      refine hb.html.imp fun token hpending => ?_
      by_cases hvisited : ∀ kind, token ≠ .tag ⟨kind, urlString⟩
      · exact hold token hpending hvisited
      · rw [not_forall_not] at hvisited
        obtain ⟨kind, rfl⟩ := hvisited
        have hkind := kind_of_visited hw h hkept rfl hpending
        have htag : Tag.mk kind urlString = tagOf w (w.resolve pageURL urlString) :=
          Tag.eq_of_eq hkind (not_not.1 hsame).symm
        rw [htag]
        exact hnew _ rfl hpending
  · intro fetch hfetch
    rw [houtstanding] at hfetch
    rcases mem_append.1 hfetch with hold | hfetched
    · exact hb.outstanding fetch hold
    · rw [mem_singleton.1 hfetched]
      exact ⟨rfl, hreference⟩

theorem Building.valid (h : WellTagged w literal webUIURL page) (hb : Building w webUIURL page b) :
    ∀ entry ∈ b.subresources, entry.1.isValid = true := fun entry hentry =>
  h.valid _ (hb.subresources entry hentry).1

theorem Building.subresourceEnds (h : WellTagged w literal webUIURL page)
    (hb : Building w webUIURL page b)
    (heq : b.loops = .subresource subresourceURL subresource [] :: loops) :
    Building w webUIURL page { b with
      loops
      inDelegate := true
      subresources := assign subresourceURL subresource b.subresources } := by
  obtain ⟨hurl, htext, -⟩ := hb.loops subresourceURL subresource [] (heq ▸ mem_cons_self)
  have hvalid := h.valid _ hurl
  have hold : loops ⊆ b.loops := heq ▸ subset_cons_self _ _
  refine ⟨?html, hb.outstanding, fun _ _ _ hmem => hb.pages _ _ _ (hold hmem),
    fun _ _ _ hmem => hb.loops _ _ _ (hold hmem), ?subresources⟩
  case html =>
    refine hb.html.imp fun token => Pending.imp (fun tag _ _ _ _ hpage hloop hrest => ?_) ?_
    · rw [heq] at hloop
      rcases mem_cons.1 hloop with hended | hlater
      · cases hended
      · exact .unvisited hpage hlater hrest
    · rintro url (⟨handler, hmem⟩ | ⟨text, rest, hmem⟩ | hmem)
      · exact .outstanding handler hmem
      · rw [heq] at hmem
        rcases mem_cons.1 hmem with hended | hlater
        · obtain ⟨rfl, -, -⟩ := Loop.subresource.inj hended
          exact .kept (mem_keys_assign hvalid (hb.valid h) (.inl rfl))
        · exact .loop _ _ hlater
      · exact .kept (mem_keys_assign hvalid (hb.valid h) (.inr hmem))
  case subresources =>
    intro entry hentry
    rcases mem_assign hvalid (hb.valid h) hentry with hmem | rfl
    · exact hb.subresources entry hmem
    · exact ⟨hurl, htext⟩

theorem Building.subresourceFetches (hw : Documented w literal)
    (h : WellTagged w literal webUIURL page) (hb : Building w webUIURL page b)
    (heq : b.loops = .subresource subresourceURL subresource (urlString :: rest) :: loops) :
    Building w webUIURL page ({ b with
      loops := .subresource subresourceURL subresource rest :: loops
      webUIHTML := addCSSTag w b.webUIHTML (w.resolve subresourceURL urlString) subresourceURL
      pendingSubresourceCount := b.pendingSubresourceCount + 1 }.fetch
        (w.resolve subresourceURL urlString)) := by
  obtain ⟨hsource, htext, hrest⟩ := hb.loops _ _ _ (heq ▸ mem_cons_self)
  have himport := hrest urlString mem_cons_self
  have hurl : Subresource w webUIURL (w.resolve subresourceURL urlString) :=
    .imported hsource himport
  have hkind := h.stylesheet _ hsource _ himport
  generalize hb' : ({ b with
    loops := .subresource subresourceURL subresource rest :: loops
    webUIHTML := addCSSTag w b.webUIHTML (w.resolve subresourceURL urlString) subresourceURL
    pendingSubresourceCount := b.pendingSubresourceCount + 1 } : Build).fetch
      (w.resolve subresourceURL urlString) = b'
  have hloops : b'.loops = .subresource subresourceURL subresource rest :: loops := by
    rw [← hb']
    rfl
  have houtstanding : b'.outstanding =
      b.outstanding ++ [(.subresource, w.resolve subresourceURL urlString)] := by
    rw [← hb']
    rfl
  have hsubresources : b'.subresources = b.subresources := by
    rw [← hb']
    rfl
  have hold : ∀ token, Pending w webUIURL page b token → Pending w webUIURL page b' token := by
    refine fun token => Pending.imp (fun tag _ _ _ _ hpage hloop hunvisited => ?_) ?_
    · rw [heq] at hloop
      rcases mem_cons.1 hloop with hother | hlater
      · cases hother
      · exact .unvisited hpage (hloops ▸ mem_cons_of_mem _ hlater) hunvisited
    · rintro url (⟨handler, hmem⟩ | ⟨text, rest, hmem⟩ | hmem)
      · exact .outstanding handler (houtstanding ▸ mem_append_left _ hmem)
      · rw [heq] at hmem
        rcases mem_cons.1 hmem with hvisited | hlater
        · obtain ⟨rfl, rfl, rfl⟩ := Loop.subresource.inj hvisited
          exact .loop _ _ (hloops ▸ mem_cons_self)
        · exact .loop _ _ (hloops ▸ mem_cons_of_mem _ hlater)
      · exact .kept (hsubresources ▸ hmem)
  refine ⟨?html, ?outstanding, ?pages, ?loops, hsubresources ▸ hb.subresources⟩
  case html =>
    have hhtml : b'.webUIHTML = replaceAll w b.webUIHTML
        (Tag.mk .stylesheet subresourceURL.spec).text
        ((Tag.mk .stylesheet (w.resolve subresourceURL urlString).spec).text ++
          (Tag.mk .stylesheet subresourceURL.spec).text) := by
      rw [← hb']
      rfl
    have htags : ((Tag.mk .stylesheet (w.resolve subresourceURL urlString).spec).text ++
        (Tag.mk .stylesheet subresourceURL.spec).text).toList =
          render [.tag ⟨.stylesheet, (w.resolve subresourceURL urlString).spec⟩,
            .tag ⟨.stylesheet, subresourceURL.spec⟩] := by
      simp [render, Token.chars]
    rw [hhtml]
    refine hb.html.replaceAll hw h (fun _ => Pending.open h) (.inr (.inl ⟨_, hsource, rfl⟩)) htags
      (cons_ne_nil _ _) ?_ fun token hpending _ => hold token hpending
    intro hpending token htoken
    rcases mem_cons.1 htoken with rfl | hlast
    · have htag : Tag.mk .stylesheet (w.resolve subresourceURL urlString).spec =
          tagOf w (w.resolve subresourceURL urlString) := Tag.eq_of_eq hkind.symm rfl
      rw [htag]
      refine .subresource hurl (.outstanding .subresource ?_)
      rw [houtstanding]
      exact mem_append_right _ (mem_singleton_self _)
    · rw [mem_singleton.1 hlast]
      exact hold _ hpending
  case outstanding =>
    intro fetch hfetch
    rw [houtstanding] at hfetch
    rcases mem_append.1 hfetch with hmem | hfetched
    · exact hb.outstanding fetch hmem
    · rw [mem_singleton.1 hfetched]
      exact ⟨rfl, hurl⟩
  case pages =>
    intro pageURL htmlLength rest' hmem
    rw [hloops] at hmem
    rcases mem_cons.1 hmem with hother | hlater
    · cases hother
    · exact hb.pages _ _ _ (heq ▸ mem_cons_of_mem _ hlater)
  case loops =>
    intro url text rest' hmem
    rw [hloops] at hmem
    rcases mem_cons.1 hmem with hvisited | hlater
    · obtain ⟨rfl, rfl, rfl⟩ := Loop.subresource.inj hvisited
      exact ⟨hsource, htext, fun string hstring => hrest string (mem_cons_of_mem _ hstring)⟩
    · exact hb.loops _ _ _ (heq ▸ mem_cons_of_mem _ hlater)

/-! ## The page is built -/

/-- When nothing is pending any more, flattening leaves no tag. -/
theorem Building.inlines (hw : Documented w literal) (h : WellTagged w literal webUIURL page)
    (hb : Building w webUIURL page b) (houtstanding : b.outstanding = [])
    (hloops : (b.loops.map Loop.pending).sum = 0) :
    Inlines w webUIURL page (flattenHTML w b.webUIHTML b.subresources) := by
  have hjs : webUIJSURL.isValid = true := rfl
  have hknown : ∀ entry ∈ assign webUIJSURL w.webUIJavaScript b.subresources,
      Known w literal webUIURL entry := by
    intro entry hentry
    rcases mem_assign hjs (hb.valid h) hentry with hmem | rfl
    · obtain ⟨hurl, htext⟩ := hb.subresources entry hmem
      exact ⟨.inr (.inl ⟨_, hurl, rfl⟩), htext ▸ h.resources _ hurl⟩
    · exact ⟨.inr (.inr rfl), h.webUIJavaScript⟩
  rw [flattenHTML_eq]
  refine inlines_of_flat h hknown (flat_foldl hw h hknown (List.Subset.refl _) ?_)
  have hzero : ∀ loop ∈ b.loops, loop.pending = 0 := fun loop hloop =>
    List.sum_eq_zero_iff_forall_eq_nat.1 hloops _ (mem_map_of_mem hloop)
  refine hb.html.imp fun token hpending => .inl ?_
  cases hpending with
  | unvisited hpage hloop hrest =>
    have hnone := eq_nil_of_length_eq_zero (hzero _ hloop)
    rw [hnone] at hrest
    cases hrest
  | webUIJS =>
    obtain ⟨entry, hentry, hkey⟩ := mem_map.1 (mem_keys_assign hjs (hb.valid h) (.inl rfl))
    exact ⟨entry, hentry, by rw [hkey]⟩
  | subresource hurl hcovers =>
    cases hcovers with
    | outstanding handler hmem =>
      rw [houtstanding] at hmem
      cases hmem
    | loop text rest hmem => cases hzero _ hmem
    | kept hmem =>
      obtain ⟨entry, hentry, hkey⟩ :=
        mem_map.1 (mem_keys_assign hjs (hb.valid h) (.inr hmem))
      exact ⟨entry, hentry, by rw [hkey]⟩

/-- Where the building of a page is, besides its count. -/
inductive Progress (w : WebUIResources) (webUIURL : GURL) (page : List Token) (b : Build) : Prop
  | waiting (hnew : b = .new webUIURL)
  | building (hnone : b.completions = []) (h : Building w webUIURL page b)
  | built (houtstanding : b.outstanding = []) (hloops : (b.loops.map Loop.pending).sum = 0)
      (h : ∀ html ∈ b.completions, Inlines w webUIURL page html)

theorem decrementPending_progress (hw : Documented w literal)
    (h : WellTagged w literal webUIURL page) (hb : Building w webUIURL page b)
    (hnone : b.completions = []) (hstatus : Status webUIURL (b.decrementPending w))
    (hraised : b.raised = false) : Progress w webUIURL page (b.decrementPending w) := by
  by_cases hzero : b.pendingSubresourceCount - 1 = 0
  · have hdone : b.decrementPending w = { b with
        pendingSubresourceCount := b.pendingSubresourceCount - 1
        webUIHTML := flattenHTML w b.webUIHTML b.subresources
        completions := b.completions ++ [flattenHTML w b.webUIHTML b.subresources] } := by
      rw [Build.decrementPending, if_pos hzero]
    rw [hdone] at hstatus ⊢
    obtain ⟨houtstanding, hloops⟩ :
        b.outstanding = [] ∧ (b.loops.map Loop.pending).sum = 0 := by
      cases hstatus with
      | waiting hnew =>
        have hsome := congrArg Build.completions hnew
        exact absurd hsome (by simp [Build.new])
      | stopped hraised' _ => exact absurd (hraised.symm.trans hraised') Bool.false_ne_true
      | running _ _ _ hcount _ =>
        have hcount : b.pendingSubresourceCount - 1 =
            b.outstanding.length + (b.loops.map Loop.pending).sum := hcount
        refine ⟨eq_nil_of_length_eq_zero ?_, ?_⟩
        · omega
        · omega
    refine .built houtstanding hloops fun html hhtml => ?_
    have hhtml : html ∈ b.completions ++ [flattenHTML w b.webUIHTML b.subresources] := hhtml
    rw [hnone, nil_append, mem_singleton] at hhtml
    rw [hhtml]
    exact hb.inlines hw h houtstanding hloops
  · have hmore : b.decrementPending w =
        { b with pendingSubresourceCount := b.pendingSubresourceCount - 1 } := by
      rw [Build.decrementPending, if_neg hzero]
    rw [hmore]
    refine .building hnone ⟨hb.html.imp fun token => ?_, hb.outstanding, hb.pages, hb.loops,
      hb.subresources⟩
    refine Pending.imp (fun tag _ _ _ _ hpage hloop hrest => .unvisited hpage hloop hrest) ?_
    rintro url (⟨handler, hmem⟩ | ⟨text, rest, hmem⟩ | hmem)
    · exact .outstanding handler hmem
    · exact .loop _ _ hmem
    · exact .kept hmem

/-- The page is fetched. -/
theorem buildPage_progress (h : WellTagged w literal webUIURL page) (hnone : b.completions = [])
    (hloops : b.loops = []) (houtstanding : b.outstanding = [])
    (hsubresources : b.subresources = []) :
    Progress w webUIURL page (b.buildPage w (resource w webUIURL) webUIURL) := by
  have hpage : (resource w webUIURL).toList = render (expand (fun tag => [.tag tag]) page) := by
    rw [expand_tag, h.html]
  by_cases hempty : urlStringsFromHTML w (resource w webUIURL) = []
  · have hbuilt : b.buildPage w (resource w webUIURL) webUIURL = { b with
        webUIHTML := resource w webUIURL
        pendingSubresourceCount := (urlStringsFromHTML w (resource w webUIURL)).length
        completions := b.completions ++ [resource w webUIURL] } := by
      simp only [Build.buildPage, if_pos hempty]
    rw [hbuilt]
    refine .built houtstanding (by rw [hloops]; rfl) fun html hhtml => ?_
    have hhtml : html ∈ b.completions ++ [resource w webUIURL] := hhtml
    rw [hnone, nil_append, mem_singleton] at hhtml
    rw [hhtml]
    -- there is no tag in the page
    refine inlines_of_flat h (forall_mem_nil _) ⟨_, hpage, fun tag htag => ?_⟩
    have hfound := (h.found tag.url).2 ⟨tag.kind, htag⟩
    rw [hempty] at hfound
    cases hfound
  · have hbuilding : b.buildPage w (resource w webUIURL) webUIURL = { b with
        webUIHTML := resource w webUIURL
        pendingSubresourceCount := (urlStringsFromHTML w (resource w webUIURL)).length
        loops := .page webUIURL (nsStringLength (resource w webUIURL))
          (urlStringsFromHTML w (resource w webUIURL)) :: b.loops
        inDelegate := false } := by
      simp only [Build.buildPage, if_neg hempty]
    rw [hbuilding]
    refine .building hnone
      ⟨⟨_, hpage, fun tag htag => ⟨cons_ne_nil _ _, fun token htoken => ?_⟩⟩,
      ?_, fun pageURL htmlLength rest hmem => ?_, fun url text rest hmem => ?_, ?_⟩
    · rw [mem_singleton.1 htoken]
      exact .unvisited htag mem_cons_self ((h.found tag.url).2 ⟨tag.kind, htag⟩)
    · show ∀ fetch ∈ b.outstanding, _
      rw [houtstanding]
      exact forall_mem_nil _
    · rw [hloops] at hmem
      obtain ⟨rfl, -, rfl⟩ := Loop.page.inj (mem_singleton.1 hmem)
      exact ⟨rfl, fun _ => id⟩
    · rw [hloops] at hmem
      cases mem_singleton.1 hmem
    · show ∀ entry ∈ b.subresources, _
      rw [hsubresources]
      exact forall_mem_nil _

theorem reply_progress (h : WellTagged w literal webUIURL page)
    (hb : Progress w webUIURL page b) {i : Nat} (hop : (machine w).Pre b (.reply i)) :
    Progress w webUIURL page (b.reply w i) := by
  obtain ⟨-, -, hi⟩ := hop
  cases hb with
  | waiting hnew =>
    subst hnew
    obtain rfl : i = 0 := Nat.lt_one_iff.1 hi
    exact buildPage_progress h rfl rfl rfl rfl
  | building hnone hb =>
    obtain ⟨⟨handler, url⟩, hget⟩ : ∃ fetch, b.outstanding[i]? = some fetch :=
      ⟨_, getElem?_eq_getElem hi⟩
    obtain rfl : handler = .subresource := (hb.outstanding _ (mem_of_getElem? hget)).1
    have hreply : b.reply w i = { b with
        outstanding := b.outstanding.eraseIdx i }.handleSubresource w (resource w url) url := by
      simp only [Build.reply, hget]
    rw [hreply]
    exact .building hnone (hb.handleSubresource hget)
  | built houtstanding hloops hall =>
    rw [houtstanding] at hi
    cases hi

theorem iterate_progress (hw : Documented w literal) (h : WellTagged w literal webUIURL page)
    (hb : Progress w webUIURL page b) (hop : (machine w).Pre b .iterate)
    (hstatus : Status webUIURL (b.iterate w)) (hrewrites : RewritesTags w b .iterate) :
    Progress w webUIURL page (b.iterate w) := by
  obtain ⟨hraised, hsome⟩ := hop
  cases hb with
  | waiting hnew => exact absurd (congrArg Build.loops hnew) hsome
  | building hnone hb =>
    obtain ⟨loop, loops, heq⟩ := exists_cons_of_ne_nil hsome
    cases loop with
    | page pageURL htmlLength rest =>
      cases rest with
      | nil =>
        rw [iterate_pageEnds heq]
        exact .building hnone (hb.pageEnds heq)
      | cons urlString rest =>
        by_cases hskipped : urlString = kWebUIJSURL
        · subst hskipped
          rw [iterate_pageSkips heq] at hstatus ⊢
          exact decrementPending_progress hw h (hb.pageSkips h heq) hnone hstatus hraised
        · have hrewrites := hrewrites (.page pageURL htmlLength (urlString :: rest)) (heq ▸ rfl)
          rw [iterate_pageFetches heq hskipped fun hne => (hrewrites hskipped hne).1]
          exact .building hnone (hb.pageFetches hw h heq hskipped fun hne =>
            (hrewrites hskipped hne).2)
    | subresource subresourceURL subresource rest =>
      cases rest with
      | nil =>
        rw [iterate_subresourceEnds heq] at hstatus ⊢
        exact decrementPending_progress hw h (hb.subresourceEnds h heq) hnone hstatus hraised
      | cons urlString rest =>
        rw [iterate_subresourceFetches heq]
        exact .building hnone (hb.subresourceFetches hw h heq)
  | built houtstanding hloops hall =>
    obtain ⟨loop, loops, heq⟩ := exists_cons_of_ne_nil hsome
    rw [heq, map_cons, sum_cons] at hloops
    -- only loops over the page are left, with nothing to visit
    cases loop with
    | page pageURL htmlLength rest =>
      have hnil : rest = [] := eq_nil_of_length_eq_zero (Nat.add_eq_zero_iff.1 hloops).1
      subst hnil
      rw [iterate_pageEnds heq]
      exact .built houtstanding (Nat.add_eq_zero_iff.1 hloops).2 hall
    | subresource subresourceURL subresource rest =>
      exact absurd (Nat.add_eq_zero_iff.1 hloops).1 Nat.one_ne_zero

theorem RewritesTags.rangeFits {op : Op} (h : RewritesTags w b op) : RangeFits w b op := by
  cases op with
  | reply i => trivial
  | iterate =>
    rw [RangeFits]
    split
    · next pageURL htmlLength urlString rest loops heq =>
      have hloop := h (.page pageURL htmlLength (urlString :: rest)) (heq ▸ rfl)
      exact fun hkept hdiffers => (hloop hkept hdiffers).1
    · trivial

theorem run_progress (hw : Documented w literal) (h : WellTagged w literal webUIURL page)
    {ops : List Op} (hops : (machine w).Legal (.new webUIURL) ops)
    (hrewrites : (machine w).Along (RewritesTags w) (.new webUIURL) ops) :
    Progress w webUIURL page ((machine w).run (.new webUIURL) ops) := by
  have hstep : ∀ b op, (Status webUIURL b ∧ b.raised = false ∧ Progress w webUIURL page b) →
      ((machine w).Pre b op ∧ RewritesTags w b op) →
        Status webUIURL ((machine w).step b op) ∧ ((machine w).step b op).raised = false ∧
          Progress w webUIURL page ((machine w).step b op) := by
    rintro b op ⟨hstatus, hraised, hb⟩ ⟨hop, hrewrites⟩
    have hraised' := (step_raised_iff hraised op).2 hrewrites.rangeFits
    cases op with
    | reply i => exact ⟨reply_status hstatus hop, hraised', reply_progress h hb hop⟩
    | iterate =>
      have hstatus' := iterate_status hstatus hop
      exact ⟨hstatus', hraised', iterate_progress hw h hb hop hstatus' hrewrites⟩
  exact (Machine.run_invariant hstep ⟨.waiting rfl, rfl, .waiting rfl⟩
    (Machine.along_and _ hops hrewrites)).2.2

end Steps

/-- **Inlining**: in every run that rewrites URL strings in tags only, whatever the order in which
fetches return, the pages that are built have no tag left and are the same outside the tags, and
when nothing is left to do there is one. -/
theorem run_inlines (w : WebUIResources) (literal : Char → Prop) (webUIURL : GURL)
    (page : List Token) (hw : Documented w literal) (h : WellTagged w literal webUIURL page)
    (ops : List Op) (hops : (machine w).Legal (.new webUIURL) ops)
    (hrewrites : (machine w).Along (RewritesTags w) (.new webUIURL) ops) :
    (∀ html ∈ ((machine w).run (.new webUIURL) ops).completions,
      Inlines w webUIURL page html) ∧
    ((∀ op, ¬ (machine w).Pre ((machine w).run (.new webUIURL) ops) op) →
      ((machine w).run (.new webUIURL) ops).completions.length = 1) := by
  constructor
  · intro html hhtml
    cases run_progress hw h hops hrewrites with
    | waiting hnew =>
      rw [hnew] at hhtml
      cases hhtml
    | building hnone hb =>
      rw [hnone] at hhtml
      cases hhtml
    | built houtstanding hloops hall => exact hall html hhtml
  · have hfits := hrewrites.imp fun _ _ => RewritesTags.rangeFits
    exact completions_of_quiescent (run_status hops) (run_not_raised rfl hfits)

def isAbsolute (urlString : List Char) : Bool := "chrome:".toList.isPrefixOf urlString

/-- A URL without what follows its last slash. -/
def directory (url : GURL) : List Char :=
  (url.spec.toList.reverse.dropWhile (· ≠ '/')).reverse

def resolveRelative (base : GURL) (urlString : String) : GURL :=
  if isAbsolute urlString.toList then ⟨urlString, true⟩
  else ⟨String.ofList (directory base ++ urlString.toList), isAbsolute (directory base)⟩

/-- Resources whose URL strings may be relative. -/
def relativeResources (resources : Keyed GURL String) : WebUIResources :=
  { plainResources resources with
    resolve := resolveRelative
    replaceOccurrences := fun text target replacement length =>
      String.ofList (replaceWithin utf16Units target.toList replacement.toList length 0
        text.toList) }

theorem resolveRelative_of_isAbsolute {base : GURL} {urlString : String}
    (h : isAbsolute urlString.toList = true) :
    resolveRelative base urlString = ⟨urlString, true⟩ :=
  if_pos h

theorem isAbsolute_append {text rest : List Char} (h : isAbsolute text = true) :
    isAbsolute (text ++ rest) = true := by
  rw [isAbsolute, isPrefixOf_iff_prefix] at h ⊢
  exact h.trans (prefix_append _ _)

theorem relativeResources_documented (resources : Keyed GURL String) :
    Documented (relativeResources resources) fun _ => True where
  ascii _ _ := trivial
  replaceOccurrences _ _ _ _ _ _ _ := String.toList_ofList
  resolve_spec base base' urlString hvalid := by
    show resolveRelative base' (resolveRelative base urlString).spec =
      resolveRelative base urlString
    have hvalid : (resolveRelative base urlString).isValid = true := hvalid
    by_cases habsolute : isAbsolute urlString.toList = true
    · rw [resolveRelative_of_isAbsolute habsolute]
      exact resolveRelative_of_isAbsolute habsolute
    · have hrelative : resolveRelative base urlString =
          ⟨String.ofList (directory base ++ urlString.toList), isAbsolute (directory base)⟩ :=
        if_neg habsolute
      rw [hrelative] at hvalid ⊢
      have hdirectory : isAbsolute (directory base) = true := hvalid
      have hspec : isAbsolute
          (String.ofList (directory base ++ urlString.toList)).toList = true := by
        rw [String.toList_ofList]
        exact isAbsolute_append hdirectory
      rw [hdirectory]
      exact resolveRelative_of_isAbsolute hspec

/-- A page with a stylesheet, which imports another one. -/
def importingPage : WebUIResources :=
  relativeResources
    ⟨[(⟨"chrome://t/", true⟩, "<link rel=\"stylesheet\" href=\"a.css\"><p>Page</p>"),
      (⟨"chrome://t/a.css", true⟩, "@import url(b.css);"), (⟨"chrome://t/b.css", true⟩, "b")]⟩

def importingTokens : List Token := [.tag ⟨.stylesheet, "a.css"⟩, .text "<p>Page</p>"]

theorem importingPage_urlStrings : urlStringsFromHTML importingPage
    (resource importingPage ⟨"chrome://t/", true⟩) = ["a.css"] := by
  decide +kernel

theorem importingPage_subresource {url : GURL}
    (h : Subresource importingPage ⟨"chrome://t/", true⟩ url) :
    url = ⟨"chrome://t/a.css", true⟩ ∨ url = ⟨"chrome://t/b.css", true⟩ := by
  have hreferences : references importingPage ⟨"chrome://t/", true⟩ =
      [⟨"chrome://t/a.css", true⟩] := by decide +kernel
  have himports : imports importingPage ⟨"chrome://t/a.css", true⟩ =
      [⟨"chrome://t/b.css", true⟩] := by decide +kernel
  have hnone : imports importingPage ⟨"chrome://t/b.css", true⟩ = [] := by decide +kernel
  induction h with
  | reference h =>
    rw [hreferences] at h
    exact .inl (mem_singleton.1 h)
  | imported h himport ih =>
    rcases ih with rfl | rfl
    · rw [himports] at himport
      exact .inr (mem_singleton.1 himport)
    · rw [hnone] at himport
      cases himport

theorem importingPage_wellTagged :
    WellTagged importingPage (fun _ => True) ⟨"chrome://t/", true⟩ importingTokens where
  html := by decide +kernel
  spaced := by decide +kernel
  found url := by
    rw [importingPage_urlStrings, mem_singleton]
    constructor
    · rintro rfl
      exact ⟨.stylesheet, mem_cons_self⟩
    · rintro ⟨kind, hmem⟩
      rcases mem_pair.1 hmem with htag | htext
      · exact congrArg Tag.url (Token.tag.inj htag)
      · cases htext
  clean url hurl := by
    have hclean : url ≠ "" ∧ CleanURL url := by
      rcases hurl with hstring | ⟨subresource, hsubresource, rfl⟩ | rfl
      · rw [importingPage_urlStrings, mem_singleton] at hstring
        rw [hstring]
        decide +kernel
      · rcases importingPage_subresource hsubresource with rfl | rfl <;> decide +kernel
      · decide +kernel
    exact ⟨hclean.1, hclean.2, fun _ _ => trivial⟩
  harmless token htoken hnot := by
    rcases mem_pair.1 htoken with rfl | rfl
    · exact absurd rfl (hnot _)
    · exact ⟨untagged_of_quote (by decide +kernel), fun _ _ => trivial⟩
  resources url hurl := by
    refine ⟨untagged_of_quote ?_, fun _ _ => trivial⟩
    rcases importingPage_subresource hurl with rfl | rfl <;> decide +kernel
  webUIJavaScript := ⟨untagged_of_quote (by decide +kernel), fun _ _ => trivial⟩
  kind tag htag _ := by
    rcases mem_pair.1 htag with heq | heq
    · obtain rfl := Token.tag.inj heq
      decide +kernel
    · cases heq
  kindJS tag htag hjs := by
    rcases mem_pair.1 htag with heq | heq
    · obtain rfl := Token.tag.inj heq
      exact absurd hjs (by decide +kernel)
    · cases heq
  stylesheet url hurl url' hurl' := by
    rcases importingPage_subresource (.imported hurl hurl') with rfl | rfl <;> decide +kernel
  valid url hurl := by
    rcases importingPage_subresource hurl with rfl | rfl <;> rfl

theorem importingPage_inlined :
    let ops : List Op := [.reply 0, .iterate, .iterate, .reply 0, .iterate, .iterate, .reply 0,
      .iterate]
    let b := (machine importingPage).run (.new ⟨"chrome://t/", true⟩) ops
    (∀ html ∈ b.completions, Inlines importingPage ⟨"chrome://t/", true⟩ importingTokens html) ∧
      ((∀ op, ¬ (machine importingPage).Pre b op) → b.completions.length = 1) :=
  run_inlines importingPage (fun _ => True) ⟨"chrome://t/", true⟩ importingTokens
    (relativeResources_documented _) importingPage_wellTagged _
    (show (machine importingPage).Along (fun b op => (machine importingPage).Pre b op) _ _ by
      decide +kernel) (by decide +kernel)

/-- A page with two scripts, the first of which its text names. -/
def twoScripts : WebUIResources :=
  relativeResources
    ⟨[(⟨"chrome://t/", true⟩,
        "<script src=\"a.js\"></script><p>a.js</p><script src=\"b.js\"></script>"),
      (⟨"chrome://t/a.js", true⟩, "A"), (⟨"chrome://t/b.js", true⟩, "B")]⟩

def twoScriptsPage : List Token :=
  [.tag ⟨.script, "a.js"⟩, .text "<p>a.js</p>", .tag ⟨.script, "b.js"⟩]

/-- The tag of the second script is moved out of the range in which its URL string is searched, and
the text is rewritten with the first one. -/
theorem twoScripts_not_inlined :
    let ops : List Op :=
      [.reply 0, .iterate, .iterate, .iterate, .reply 0, .iterate, .reply 0, .iterate]
    let built := "<script>A</script><p>chrome://t/a.js</p><script src=\"b.js\"></script>"
    (machine twoScripts).Legal (.new ⟨"chrome://t/", true⟩) ops ∧
      ((machine twoScripts).run (.new ⟨"chrome://t/", true⟩) ops).completions = [built] ∧
      ¬ Untagged twoScripts ⟨"chrome://t/", true⟩ built.toList ∧
      ¬ Expands twoScriptsPage (fun token => ∃ kind contents, token = .inlined kind contents)
        built.toList := by
  intro ops built
  have hlegal : (machine twoScripts).Along (fun b op => (machine twoScripts).Pre b op)
      (.new ⟨"chrome://t/", true⟩) ops := by decide +kernel
  refine ⟨hlegal, by decide +kernel, fun huntagged => ?_, ?_⟩
  · have hfound : Found twoScripts ⟨"chrome://t/", true⟩ "b.js" := .inl (by decide +kernel)
    exact huntagged ⟨.script, "b.js"⟩ hfound (by decide +kernel)
  · rintro ⟨f, hbuilt, -⟩
    have htext : "<p>a.js</p>".toList <:+: built.toList := by
      refine ⟨render (f ⟨.script, "a.js"⟩), render (f ⟨.script, "b.js"⟩), ?_⟩
      rw [hbuilt]
      simp [twoScriptsPage, expand, Token.expand, render, Token.chars]
    exact absurd htext (by decide +kernel)

end CRWWebUIPageBuilder

end ChromiumIos
