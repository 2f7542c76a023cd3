import Mathlib.Data.List.Chain
import ChromiumIos.Lib.Replacement
import ChromiumIos.Web.WebUIPageBuilder

/-!
# The tags of a WebUI page

A page is a sequence of tokens: texts, tags that name a script or a stylesheet, and elements that
hold one. Tags are searched in the characters of the page.

- `TagKind`, `Tag`, `Token`, `render`: the tokens, and the characters of a page.
- `Legible`: no text and no inlined resource shows the tag, and the URLs of tags have none of the
  characters that delimit them.
- `Legible.separates`: then the tag occurs in the page only as a token. It does not begin in one
  token and end in another.
-/

namespace ChromiumIos

open Lib List

namespace CRWWebUIPageBuilder

inductive TagKind
  | script
  | stylesheet
deriving DecidableEq, Repr

namespace TagKind

def tagPrefix : TagKind → String
  | .script => kJSTagPrefix
  | .stylesheet => kCSSTagPrefix

def tagSuffix : TagKind → String
  | .script => kJSTagSuffix
  | .stylesheet => kCSSTagSuffix

/-- `kWebUIScriptTextTemplate` and `kWebUIStyleTextTemplate`. -/
def inlined (kind : TagKind) (text : String) : String :=
  match kind with
  | .script => "<script>" ++ text ++ "</script>"
  | .stylesheet => "<style>" ++ text ++ "</style>"

/-- What stands between the `<` of a tag and its URL. -/
def opening : TagKind → List Char
  | .script => "script src=\"".toList
  | .stylesheet => "link rel=\"stylesheet\" href=\"".toList

/-- What stands behind the `>` of a tag. -/
def ending : TagKind → List Char
  | .script => "</script>".toList
  | .stylesheet => []

end TagKind

structure Tag where
  kind : TagKind
  url : String
deriving DecidableEq, Repr

theorem Tag.eq_of_eq {tag tag' : Tag} (hkind : tag.kind = tag'.kind) (hurl : tag.url = tag'.url) :
    tag = tag' := by
  cases tag
  cases tag'
  exact Tag.mk.injEq _ _ _ _ ▸ ⟨hkind, hurl⟩

def Tag.text (tag : Tag) : String := tag.kind.tagPrefix ++ tag.url ++ tag.kind.tagSuffix

inductive Token
  | text (contents : String)
  | tag (tag : Tag)
  | inlined (kind : TagKind) (contents : String)
deriving DecidableEq, Repr

namespace Token

def chars : Token → List Char
  | .text contents => contents.toList
  | .tag t => t.text.toList
  | .inlined kind contents => (kind.inlined contents).toList

def isText : Token → Bool
  | .text _ => true
  | _ => false

end Token

/-- The characters of a page. -/
def render (tokens : List Token) : List Char := (tokens.map Token.chars).flatten

theorem mem_render {c : Char} {tokens : List Token} :
    c ∈ render tokens ↔ ∃ token ∈ tokens, c ∈ token.chars := by
  simp [render]

@[simp] theorem render_append (tokens rest : List Token) :
    render (tokens ++ rest) = render tokens ++ render rest := by
  simp [render]

@[simp] theorem render_cons (token : Token) (tokens : List Token) :
    render (token :: tokens) = token.chars ++ render tokens := rfl

/-- A URL string without the characters that delimit it in a tag. -/
def CleanURL (url : String) : Prop := '<' ∉ url.toList ∧ '>' ∉ url.toList ∧ '"' ∉ url.toList

instance (url : String) : Decidable (CleanURL url) := inferInstanceAs (Decidable (_ ∧ _ ∧ _))

/-! ## The characters of a tag -/

/-- What stands before a character can be cut off where that character does not occur. -/
theorem append_cons_cancel {α : Type} {c : α} {a b u v : List α} (ha : c ∉ a)
    (h : a ++ b = u ++ c :: v) : ∃ u', u = a ++ u' ∧ b = u' ++ c :: v := by
  rcases append_eq_append_iff.1 h with ⟨u', hu, hb⟩ | ⟨a', ha', hv⟩
  · exact ⟨u', hu, hb⟩
  · cases a' with
    | nil => exact ⟨[], by rw [ha', append_nil, append_nil], hv.symm⟩
    | cons d a' =>
      obtain ⟨rfl, -⟩ := cons.inj hv
      exact absurd (ha' ▸ mem_append_right u mem_cons_self) ha

theorem Tag.text_toList (tag : Tag) :
    tag.text.toList =
      '<' :: (tag.kind.opening ++ (tag.url.toList ++ '"' :: '>' :: tag.kind.ending)) := by
  have hstart : ∀ kind : TagKind, kind.tagPrefix.toList = '<' :: kind.opening := by
    intro kind
    cases kind
    · unfold TagKind.opening
      simp [TagKind.tagPrefix, kJSTagPrefix]
    · unfold TagKind.opening
      simp [TagKind.tagPrefix, kCSSTagPrefix]
  have hend : ∀ kind : TagKind, kind.tagSuffix.toList = '"' :: '>' :: kind.ending := by
    intro kind
    cases kind
    · unfold TagKind.ending
      simp [TagKind.tagSuffix, kJSTagSuffix]
    · unfold TagKind.ending
      simp [TagKind.tagSuffix, kCSSTagSuffix]
  rw [Tag.text, String.toList_append, String.toList_append, hstart, hend, append_assoc,
    cons_append]

namespace TagKind

theorem opening_clean (kind : TagKind) : '<' ∉ kind.opening ∧ '>' ∉ kind.opening := by
  cases kind <;> unfold opening <;> simp

theorem opening_cons (kind : TagKind) : ∃ c rest, kind.opening = c :: rest ∧ c ≠ '/' := by
  cases kind
  · exact ⟨'s', "cript src=\"".toList, by unfold opening; simp, by decide⟩
  · exact ⟨'l', "ink rel=\"stylesheet\" href=\"".toList, by unfold opening; simp, by decide⟩

/-- The kinds differ behind the `<`. -/
theorem opening_inj {kind kind' : TagKind} {rest rest' : List Char}
    (h : kind.opening ++ rest = kind'.opening ++ rest') : kind = kind' := by
  have hs : script.opening = 's' :: "cript src=\"".toList := by
    unfold opening
    simp
  have hl : stylesheet.opening = 'l' :: "ink rel=\"stylesheet\" href=\"".toList := by
    unfold opening
    simp
  cases kind <;> cases kind'
  · rfl
  · rw [hs, hl] at h
    exact absurd (cons.inj h).1 (by decide)
  · rw [hs, hl] at h
    exact absurd (cons.inj h).1 (by decide)
  · rfl

theorem affixes_ascii (kind : TagKind) :
    (∀ c ∈ kind.tagPrefix.toList, c.val < 128) ∧ ∀ c ∈ kind.tagSuffix.toList, c.val < 128 := by
  cases kind
  · simp [tagPrefix, tagSuffix, kJSTagPrefix, kJSTagSuffix]
  · simp [tagPrefix, tagSuffix, kCSSTagPrefix, kCSSTagSuffix]

/-- A `<` behind the first one of a tag begins its closing tag. -/
theorem ending_open {kind : TagKind} {u v : List Char} (h : kind.ending = u ++ '<' :: v) :
    v.head? = some '/' := by
  cases kind with
  | stylesheet =>
    have hnil : [] = u ++ '<' :: v := h
    exact absurd hnil.symm (append_ne_nil_of_right_ne_nil u (cons_ne_nil _ _))
  | script =>
    have hending : script.ending = '<' :: ['/', 's', 'c', 'r', 'i', 'p', 't', '>'] := by
      unfold ending
      simp
    rw [hending] at h
    cases u with
    | nil =>
      obtain ⟨-, rfl⟩ := cons.inj h
      rfl
    | cons c u =>
      have hrest := (cons.inj h).2
      have hmem : '<' ∈ ['/', 's', 'c', 'r', 'i', 'p', 't', '>'] := by
        rw [hrest]
        exact mem_append_right u mem_cons_self
      exact absurd hmem (by decide)

/-- The last `>` of a tag is its end. -/
theorem ending_close {kind : TagKind} {u v : List Char} (h : kind.ending = u ++ '>' :: v) :
    v = [] := by
  cases kind with
  | stylesheet =>
    have hnil : [] = u ++ '>' :: v := h
    exact absurd hnil.symm (append_ne_nil_of_right_ne_nil u (cons_ne_nil _ _))
  | script =>
    have hending : script.ending = ['<', '/', 's', 'c', 'r', 'i', 'p', 't'] ++ ['>'] := by
      unfold ending
      simp
    rw [hending] at h
    obtain ⟨u', -, hv⟩ := append_cons_cancel (by decide) h
    cases u' with
    | nil => exact (cons.inj hv).2.symm
    | cons c u' => exact absurd (cons.inj hv).2 (by simp)

end TagKind

namespace Tag

variable {tag : Tag} {u v : List Char}

theorem open_inside (hclean : CleanURL tag.url) (h : tag.text.toList = u ++ '<' :: v)
    (hu : u ≠ []) : v.head? = some '/' := by
  obtain ⟨c, u, rfl⟩ := exists_cons_of_ne_nil hu
  rw [text_toList, cons_append] at h
  obtain ⟨u₁, -, hurl⟩ := append_cons_cancel tag.kind.opening_clean.1 (cons.inj h).2
  obtain ⟨u₂, -, hdelimiters⟩ := append_cons_cancel hclean.1 hurl
  obtain ⟨u₃, -, hending⟩ :=
    append_cons_cancel (show '<' ∉ ['"', '>'] by decide) hdelimiters
  exact TagKind.ending_open hending

/-- A `>` before the end of a tag closes the quotation. -/
theorem close_inside (hclean : CleanURL tag.url) (h : tag.text.toList = u ++ '>' :: v)
    (hv : v ≠ []) : u.getLast? = some '"' := by
  have hquoted : tag.text.toList =
      ('<' :: tag.kind.opening ++ tag.url.toList ++ ['"']) ++ '>' :: tag.kind.ending := by
    rw [text_toList]
    simp
  have hnot : '>' ∉ '<' :: tag.kind.opening ++ tag.url.toList ++ ['"'] := by
    have hopening := tag.kind.opening_clean.2
    have hurl := hclean.2.1
    simp [hopening, hurl]
  obtain ⟨u', rfl, hrest⟩ := append_cons_cancel hnot (hquoted.symm.trans h)
  cases u' with
  | nil =>
    rw [append_nil]
    exact getLast?_concat
  | cons c u' => exact absurd (TagKind.ending_close (cons.inj hrest).2) hv

/-- A tag is known by how it begins. -/
theorem eq_of_prefix {tag' : Tag} (hclean : CleanURL tag.url) (hclean' : CleanURL tag'.url)
    (h : tag.text.toList ++ u = tag'.text.toList ++ v) : tag = tag' := by
  simp only [text_toList, cons_append, append_assoc] at h
  have htail := (cons.inj h).2
  have hkind : tag.kind = tag'.kind := TagKind.opening_inj htail
  rw [hkind] at htail
  have hurls := append_cancel_left htail
  -- neither URL has the quotation mark that ends the other one
  obtain ⟨a, ha, hrest⟩ := append_cons_cancel hclean.2.2 hurls
  have hnil : a = [] := by
    cases a with
    | nil => rfl
    | cons c a =>
      have hc : c = '"' := (cons.inj hrest).1.symm
      exact absurd (by rw [ha, hc]; simp) hclean'.2.2
  rw [hnil, append_nil] at ha
  have hurl : tag.url = tag'.url := String.toList_inj.1 ha.symm
  exact Tag.eq_of_eq hkind hurl

end Tag

/-! ## Where a tag occurs -/

theorem Token.chars_markup {token : Token} (h : token.isText = false) :
    ∃ c rest, token.chars = '<' :: c :: rest ∧ c ≠ '/' := by
  cases token with
  | text contents => cases h
  | tag tag =>
    obtain ⟨c, rest, hopening, hc⟩ := tag.kind.opening_cons
    exact ⟨c, _, by rw [Token.chars, Tag.text_toList, hopening, cons_append], hc⟩
  | inlined kind contents =>
    cases kind
    · refine ⟨'s', "cript>".toList ++ (contents ++ "</script>").toList, ?_, by decide⟩
      simp [Token.chars, TagKind.inlined]
    · refine ⟨'s', "tyle>".toList ++ (contents ++ "</style>").toList, ?_, by decide⟩
      simp [Token.chars, TagKind.inlined]

/-- An inlined resource ends in the name of its element. -/
theorem TagKind.inlined_ends (kind : TagKind) (text : String) :
    ∃ before c, (kind.inlined text).toList = before ++ [c, '>'] ∧ c ≠ '"' := by
  cases kind
  · exact ⟨("<script>" ++ text ++ "</scrip").toList, 't', by simp [TagKind.inlined], by decide⟩
  · exact ⟨("<style>" ++ text ++ "</styl").toList, 'e', by simp [TagKind.inlined], by decide⟩

/-- The token in which a part of a page begins. -/
theorem exists_token {tokens : List Token} {before rest : List Char}
    (h : render tokens = before ++ rest) (hrest : rest ≠ []) :
    ∃ left token right u v, tokens = left ++ token :: right ∧ token.chars = u ++ v ∧ v ≠ [] ∧
      before = render left ++ u ∧ rest = v ++ render right := by
  induction tokens generalizing before with
  | nil => exact absurd (append_eq_nil_iff.1 h.symm).2 hrest
  | cons token tokens ih =>
    rw [render_cons] at h
    rcases append_eq_append_iff.1 h with ⟨u, hbefore, hlater⟩ | ⟨v, hchars, hlater⟩
    · obtain ⟨left, token', right, u', v, rfl, hchars, hv, rfl, hright⟩ := ih hlater
      exact ⟨token :: left, token', right, u', v, rfl, hchars, hv,
        by rw [hbefore, render_cons, append_assoc], hright⟩
    · cases v with
      | nil =>
        obtain ⟨left, token', right, u', v, rfl, hchars', hv, hnil, hright⟩ :=
          ih (show render tokens = [] ++ rest from hlater.symm)
        rw [append_nil] at hchars
        refine ⟨token :: left, token', right, u', v, rfl, hchars', hv, ?_, hright⟩
        rw [render_cons, append_assoc, ← hnil, append_nil, hchars]
      | cons c v =>
        exact ⟨[], token, tokens, before, c :: v, rfl, hchars, cons_ne_nil _ _, rfl, hlater⟩

/-- The tokens of a page in which a tag can be told from everything else. -/
structure Legible (tag : Tag) (tokens : List Token) : Prop where
  spaced : tokens.IsChain fun token next => token.isText = true → next.isText = false
  clean : ∀ other, .tag other ∈ tokens → CleanURL other.url
  quiet : ∀ token ∈ tokens, (∀ other, token ≠ .tag other) → ¬ tag.text.toList <:+: token.chars

namespace Legible

variable {tag : Tag} {left right : List Token} {u v w after : List Char}

/-- A tag does not begin in a text and end behind it. -/
theorem not_in_text {token : Token}
    (hspaced : (token :: right).IsChain fun token next =>
      token.isText = true → next.isText = false) (htext : token.isText = true)
    (hclean : CleanURL tag.url) (hv : v ≠ []) (hw : w ≠ []) (htag : tag.text.toList = v ++ w)
    (hright : render right = w ++ after) : False := by
  cases right with
  | nil => exact hw (append_eq_nil_iff.1 hright.symm).1
  | cons next right =>
    have hnext : next.isText = false := (isChain_cons_cons.1 hspaced).1 htext
    obtain ⟨c, rest, hchars, hc⟩ := Token.chars_markup hnext
    obtain ⟨d, w, rfl⟩ := exists_cons_of_ne_nil hw
    rw [render_cons, hchars, cons_append, cons_append, cons_append] at hright
    obtain ⟨rfl, hrest⟩ := cons.inj hright
    have hslash := Tag.open_inside hclean htag hv
    obtain ⟨w', rfl⟩ := head?_eq_some_iff.1 hslash
    exact hc (cons.inj hrest).1

/-- A tag does not begin inside another one. -/
theorem not_in_tag {other : Tag} (hclean : CleanURL other.url) (hu : u ≠ [])
    (hother : other.text.toList = u ++ v) (hv : v ≠ [])
    (htag : tag.text.toList ++ after = v ++ render right) : False := by
  obtain ⟨c, rest, hchars, hc⟩ := Token.chars_markup (show (Token.tag tag).isText = false from rfl)
  have hchars : tag.text.toList = '<' :: c :: rest := hchars
  obtain ⟨d, v, rfl⟩ := exists_cons_of_ne_nil hv
  rw [hchars, cons_append, cons_append, cons_append] at htag
  obtain ⟨rfl, hrest⟩ := cons.inj htag
  have hslash := Tag.open_inside hclean hother hu
  obtain ⟨v', rfl⟩ := head?_eq_some_iff.1 hslash
  exact hc (cons.inj hrest).1

/-- A tag does not begin in an inlined resource and end behind it. -/
theorem not_in_inlined {kind : TagKind} {contents : String} (hclean : CleanURL tag.url)
    (hchars : (kind.inlined contents).toList = u ++ v) (hv : v ≠ []) (hw : w ≠ [])
    (htag : tag.text.toList = v ++ w) : False := by
  obtain ⟨before, c, hends, hc⟩ := kind.inlined_ends contents
  rcases eq_nil_or_concat v with rfl | ⟨v, x, rfl⟩
  · exact hv rfl
  have hlast : (u ++ v) ++ [x] = (before ++ [c]) ++ ['>'] := by
    rw [append_assoc, append_assoc, ← concat_eq_append, ← hchars, hends]
    rfl
  obtain ⟨hinit, hx⟩ := append_inj' hlast rfl
  obtain rfl : x = '>' := (cons.inj hx).1
  rw [concat_eq_append, append_assoc] at htag
  have hquote := Tag.close_inside hclean htag hw
  -- what stands before the end of the element is the end of its name
  rcases eq_nil_or_concat v with rfl | ⟨v, y, rfl⟩
  · cases hquote
  rw [concat_eq_append] at hquote hinit
  rw [← append_assoc] at hinit
  obtain ⟨-, hy⟩ := append_inj' hinit rfl
  rw [getLast?_concat] at hquote
  exact hc ((cons.inj hy).1.symm.trans (Option.some.inj hquote))

/-- **Every occurrence of a tag is a token.** -/
theorem occurs {tokens : List Token} (h : Legible tag tokens) (hclean : CleanURL tag.url)
    {before after : List Char} (heq : render tokens = before ++ tag.text.toList ++ after) :
    ∃ left right, tokens = left ++ .tag tag :: right ∧ render left = before ∧
      render right = after := by
  have hne : tag.text.toList ≠ [] := by
    rw [Tag.text_toList]
    exact cons_ne_nil _ _
  rw [append_assoc] at heq
  obtain ⟨left, token, right, u, v, rfl, hchars, hv, rfl, htag⟩ :=
    exists_token heq (append_ne_nil_of_left_ne_nil hne after)
  have hmem : token ∈ left ++ token :: right := mem_append_right _ mem_cons_self
  have hoccurs : tag.text.toList <+: v → tag.text.toList <:+: token.chars := by
    rintro ⟨rest, rfl⟩
    exact ⟨u, rest, by rw [hchars, append_assoc]⟩
  -- the tag ends in the token, or behind it
  have hends : tag.text.toList <+: v ∨
      ∃ w, w ≠ [] ∧ tag.text.toList = v ++ w ∧ render right = w ++ after := by
    rcases append_eq_append_iff.1 htag with ⟨rest, hrest, -⟩ | ⟨w, hw, hright⟩
    · exact .inl ⟨rest, hrest.symm⟩
    · by_cases hnil : w = []
      · rw [hnil, append_nil] at hw
        exact .inl (hw ▸ prefix_refl _)
      · exact .inr ⟨w, hnil, hw, hright⟩
  cases token with
  | text contents =>
    rcases hends with hin | ⟨w, hw, hsplit, hright⟩
    · exact absurd (hoccurs hin) (h.quiet _ hmem fun _ => Token.noConfusion)
    · have hspaced := (isChain_append.1 h.spaced).2.1
      exact (not_in_text hspaced rfl hclean hv hw hsplit hright).elim
  | tag other =>
    have hother := h.clean other hmem
    by_cases hu : u = []
    · subst hu
      have hchars : other.text.toList = v := hchars
      rw [← hchars] at htag
      obtain rfl : tag = other := Tag.eq_of_prefix hclean hother htag
      exact ⟨left, right, rfl, (append_nil _).symm, (append_cancel_left htag).symm⟩
    · exact (not_in_tag hother hu hchars hv htag).elim
  | inlined kind contents =>
    rcases hends with hin | ⟨w, hw, hsplit, -⟩
    · exact absurd (hoccurs hin) (h.quiet _ hmem fun _ => Token.noConfusion)
    · exact (not_in_inlined hclean hchars hv hw hsplit).elim

end Legible

/-! ## Tags are replaced -/

/-- A token, or other ones in the place of a tag. -/
def Token.expand (replacement : Tag → List Token) : Token → List Token
  | .tag t => replacement t
  | other => [other]

def expand (replacement : Tag → List Token) (tokens : List Token) : List Token :=
  tokens.flatMap (Token.expand replacement)

section Expand

variable {f g : Tag → List Token} {tokens : List Token}

theorem expand_cons (token : Token) (tokens : List Token) :
    expand f (token :: tokens) = token.expand f ++ expand f tokens := rfl

theorem mem_expand {token : Token} (h : token ∈ expand f tokens) :
    (token ∈ tokens ∧ ∀ tag, token ≠ .tag tag) ∨ ∃ tag, .tag tag ∈ tokens ∧ token ∈ f tag := by
  obtain ⟨original, horiginal, hmem⟩ := mem_flatMap.1 h
  cases original with
  | tag tag => exact .inr ⟨tag, horiginal, hmem⟩
  | text contents =>
    obtain rfl : token = .text contents := mem_singleton.1 hmem
    exact .inl ⟨horiginal, fun _ => Token.noConfusion⟩
  | inlined kind contents =>
    obtain rfl : token = .inlined kind contents := mem_singleton.1 hmem
    exact .inl ⟨horiginal, fun _ => Token.noConfusion⟩

theorem expand_tag : expand (fun tag => [.tag tag]) tokens = tokens := by
  induction tokens with
  | nil => rfl
  | cons token tokens ih =>
    rw [expand_cons, ih]
    cases token with
    | tag tag => rfl
    | text contents => rfl
    | inlined kind contents => rfl

theorem expand_expand :
    expand g (expand f tokens) = expand (fun tag => expand g (f tag)) tokens := by
  rw [expand, expand, flatMap_assoc, expand]
  congr 1
  funext token
  cases token with
  | tag tag => rfl
  | text contents => rfl
  | inlined kind contents => rfl

theorem expand_ne_nil (hf : ∀ tag, .tag tag ∈ tokens → f tag ≠ []) (h : tokens ≠ []) :
    expand f tokens ≠ [] := by
  obtain ⟨token, tokens, rfl⟩ := exists_cons_of_ne_nil h
  rw [expand_cons]
  refine append_ne_nil_of_left_ne_nil ?_ _
  cases token with
  | tag tag => exact hf tag mem_cons_self
  | text contents => exact cons_ne_nil _ _
  | inlined kind contents => exact cons_ne_nil _ _

/-- What is put in the place of tags stands for a tag itself. -/
structure Replaces (f : Tag → List Token) (tokens : List Token) : Prop where
  nonempty : ∀ tag, .tag tag ∈ tokens → f tag ≠ []
  noText : ∀ tag, .tag tag ∈ tokens → ∀ token ∈ f tag, token.isText = false

theorem Replaces.of_cons {token : Token} (h : Replaces f (token :: tokens)) :
    Replaces f tokens where
  nonempty tag htag := h.nonempty tag (mem_cons_of_mem _ htag)
  noText tag htag := h.noText tag (mem_cons_of_mem _ htag)

theorem Replaces.head {token : Token} (h : Replaces f (token :: tokens))
    (htoken : token.isText = false) :
    ∀ first ∈ (expand f (token :: tokens)).head?, first.isText = false := by
  intro first hfirst
  cases token with
  | text contents => cases htoken
  | tag tag =>
    obtain ⟨first', rest, hrest⟩ :=
      exists_cons_of_ne_nil (h.nonempty tag mem_cons_self)
    have hexpand : expand f (.tag tag :: tokens) = first' :: (rest ++ expand f tokens) := by
      rw [expand_cons, Token.expand, hrest, cons_append]
    rw [hexpand] at hfirst
    obtain rfl : first' = first := Option.some.inj hfirst
    exact h.noText tag mem_cons_self _ (hrest ▸ mem_cons_self)
  | inlined kind contents =>
    obtain rfl : .inlined kind contents = first := Option.some.inj hfirst
    rfl

/-- Texts stay apart where tags are replaced. -/
theorem Replaces.spaced (h : Replaces f tokens)
    (hspaced : tokens.IsChain fun token next => token.isText = true → next.isText = false) :
    (expand f tokens).IsChain fun token next => token.isText = true → next.isText = false := by
  induction tokens with
  | nil => exact .nil
  | cons token tokens ih =>
    rw [expand_cons]
    refine isChain_append.2 ⟨?own, ih h.of_cons hspaced.tail, ?between⟩
    case own =>
      cases token with
      | tag tag =>
        have hpairs :
            (f tag).Pairwise fun token next => token.isText = true → next.isText = false :=
          pairwise_of_forall_mem_list fun _ _ next hnext _ =>
            h.noText tag mem_cons_self next hnext
        exact hpairs.isChain
      | text contents => exact .singleton _
      | inlined kind contents => exact .singleton _
    case between =>
      intro last hlast next hnext htext
      -- only a text ends in a text, and what follows it is none
      have htoken : token.isText = true := by
        cases token with
        | text contents => rfl
        | tag tag =>
          have hnone := h.noText tag mem_cons_self last (mem_of_getLast? hlast)
          exact absurd (htext.symm.trans hnone) (by decide)
        | inlined kind contents =>
          obtain rfl : .inlined kind contents = last := Option.some.inj hlast
          cases htext
      cases tokens with
      | nil => cases hnext
      | cons following tokens =>
        have hfollowing := (isChain_cons_cons.1 hspaced).1 htoken
        exact h.of_cons.head hfollowing next hnext

end Expand

/-! ## A tag is replaced -/

/-- `replacement` stands in the place of one tag. -/
def insteadOf (tag : Tag) (replacement : List Token) (other : Tag) : List Token :=
  if other = tag then replacement else [.tag other]

/-- The tag is the piece that is replaced. -/
def Token.piece (tag : Tag) (token : Token) : Option (List Char) :=
  if token = .tag tag then none else some token.chars

theorem joinPieces_piece {tag : Tag} {tokens : List Token} :
    joinPieces tag.text.toList (tokens.map (Token.piece tag)) = render tokens := by
  induction tokens with
  | nil => rfl
  | cons token tokens ih =>
    rw [map_cons, joinPieces_cons, ih, render_cons, Token.piece]
    split
    · next h =>
      rw [h]
      rfl
    · rfl

theorem joinPieces_insteadOf {tag : Tag} {replacement tokens : List Token} :
    joinPieces (render replacement) (tokens.map (Token.piece tag)) =
      render (expand (insteadOf tag replacement) tokens) := by
  induction tokens with
  | nil => rfl
  | cons token tokens ih =>
    rw [map_cons, joinPieces_cons, ih, expand_cons, render_append, Token.piece]
    congr 1
    cases token with
    | tag other =>
      by_cases h : other = tag
      · rw [h, if_pos rfl, Token.expand, insteadOf, if_pos rfl, Option.getD_none]
      · rw [if_neg fun heq => h (Token.tag.inj heq), Token.expand, insteadOf, if_neg h]
        exact (append_nil _).symm
    | text contents =>
      rw [if_neg Token.noConfusion]
      exact (append_nil _).symm
    | inlined kind contents =>
      rw [if_neg Token.noConfusion]
      exact (append_nil _).symm

theorem Legible.separates {tag : Tag} {tokens : List Token} (h : Legible tag tokens)
    (hclean : CleanURL tag.url) : Separates tag.text.toList (tokens.map (Token.piece tag)) := by
  intro before after heq
  rw [joinPieces_piece] at heq
  obtain ⟨left, right, rfl, hleft, -⟩ := h.occurs hclean heq
  refine ⟨left.map (Token.piece tag), right.map (Token.piece tag), ?_, ?_⟩
  · rw [map_append, map_cons, Token.piece, if_pos rfl]
  · rw [joinPieces_piece, hleft]

/-! ## A URL is replaced in the tags -/

/-- The tags of `url` are tags of `url'` instead. -/
def rewritten (url url' : String) (tag : Tag) : List Token :=
  [.tag (if tag.url = url then ⟨tag.kind, url'⟩ else tag)]

/-- The URL is the piece that is replaced. -/
def Token.urlPieces (url : String) : Token → List (Option (List Char))
  | .tag t =>
    if t.url = url then [some t.kind.tagPrefix.toList, none, some t.kind.tagSuffix.toList]
    else [some t.text.toList]
  | other => [some other.chars]

theorem joinPieces_rewritten {url url' : String} {tokens : List Token} :
    joinPieces url'.toList (tokens.flatMap (Token.urlPieces url)) =
      render (expand (rewritten url url') tokens) := by
  induction tokens with
  | nil => rfl
  | cons token tokens ih =>
    rw [flatMap_cons, joinPieces_append, ih, expand_cons, render_append]
    congr 1
    cases token with
    | tag tag =>
      by_cases h : tag.url = url
      · simp [Token.urlPieces, Token.expand, rewritten, h, joinPieces, render, Token.chars,
          Tag.text]
      · simp [Token.urlPieces, Token.expand, rewritten, h, joinPieces, render, Token.chars]
    | text contents => rfl
    | inlined kind contents => rfl

theorem expand_rewritten_self {url : String} {tokens : List Token} :
    expand (rewritten url url) tokens = tokens := by
  have hsame : rewritten url url = fun tag => [.tag tag] := by
    funext tag
    rw [rewritten]
    split
    · next h => rw [← h]
    · rfl
  rw [hsame, expand_tag]

/-- The 16-bit units of a character. -/
def utf16Units (c : Char) : Nat := if c.val < 0x10000 then 1 else 2

theorem nsStringLength_eq (text : String) :
    nsStringLength text = textSize utf16Units text.toList := rfl

/-- A URL string stands in a page only where a tag of it is, and that lies in the first `length`
units. -/
def InTags (url : String) (length : Nat) (html : List Char) : Prop :=
  ∀ before after, html = before ++ url.toList ++ after →
    (∃ kind : TagKind, kind.tagPrefix.toList <:+ before ∧ kind.tagSuffix.toList <+: after) ∧
    textSize utf16Units (before ++ url.toList) ≤ length

/-- The occurrence of a URL string at a place of a page is that of a tag. -/
def InTagAt (url : String) (length : Nat) (html : List Char) (i : Nat) : Prop :=
  url.toList <+: html.drop i →
    (∃ kind ∈ [TagKind.script, .stylesheet], kind.tagPrefix.toList <:+ html.take i ∧
      kind.tagSuffix.toList <+: html.drop (i + url.toList.length)) ∧
    textSize utf16Units (html.take i ++ url.toList) ≤ length

instance (url : String) (length : Nat) (html : List Char) (i : Nat) :
    Decidable (InTagAt url length html i) := instDecidableForall

theorem inTags_iff {url : String} {length : Nat} {html : List Char} :
    InTags url length html ↔ ∀ i < html.length + 1, InTagAt url length html i := by
  constructor
  · rintro h i - ⟨after, hafter⟩
    have hsplit : html = html.take i ++ url.toList ++ after := by
      rw [append_assoc, hafter, take_append_drop]
    obtain ⟨⟨kind, hstart, hend⟩, hsize⟩ := h _ _ hsplit
    refine ⟨⟨kind, ?_, hstart, ?_⟩, hsize⟩
    · cases kind <;> decide
    · rwa [← drop_drop, ← hafter, drop_left]
  · rintro h before after rfl
    have hlength : before.length < (before ++ url.toList ++ after).length + 1 := by
      rw [append_assoc, length_append]
      omega
    have hat := h before.length hlength
    rw [InTagAt, ← drop_drop, append_assoc, drop_left, take_left,
      drop_left] at hat
    obtain ⟨⟨kind, -, hkind⟩, hsize⟩ := hat (prefix_append _ _)
    exact ⟨⟨kind, hkind⟩, hsize⟩

instance (url : String) (length : Nat) (html : List Char) : Decidable (InTags url length html) :=
  decidable_of_iff _ inTags_iff.symm

theorem InTags.separates {url : String} {length : Nat} {tokens : List Token}
    (h : InTags url length (render tokens)) (hclean : CleanURL url)
    (hlegible : ∀ kind, Legible ⟨kind, url⟩ tokens) :
    Separates url.toList (tokens.flatMap (Token.urlPieces url)) := by
  intro before after heq
  rw [joinPieces_rewritten, expand_rewritten_self] at heq
  obtain ⟨⟨kind, ⟨before', rfl⟩, ⟨after', rfl⟩⟩, -⟩ := h _ _ heq
  have htag : render tokens = before' ++ (Tag.mk kind url).text.toList ++ after' := by
    rw [heq, Tag.text]
    simp
  obtain ⟨left, right, rfl, hleft, -⟩ := (hlegible kind).occurs hclean htag
  refine ⟨left.flatMap (Token.urlPieces url) ++ [some kind.tagPrefix.toList],
    some kind.tagSuffix.toList :: right.flatMap (Token.urlPieces url), ?_, ?_⟩
  · simp [Token.urlPieces]
  · rw [joinPieces_append, joinPieces_rewritten, expand_rewritten_self, hleft]
    simp [joinPieces]

theorem InTags.replaceWithin {url url' : String} {length : Nat} {tokens : List Token}
    (h : InTags url length (render tokens)) (hne : url.toList ≠ []) (hclean : CleanURL url)
    (hlegible : ∀ kind, Legible ⟨kind, url⟩ tokens) :
    replaceWithin utf16Units url.toList url'.toList length 0 (render tokens) =
      render (expand (rewritten url url') tokens) := by
  have hpieces : joinPieces url.toList (tokens.flatMap (Token.urlPieces url)) = render tokens := by
    rw [joinPieces_rewritten, expand_rewritten_self]
  rw [← joinPieces_rewritten, ← hpieces]
  refine replaceWithin_joinPieces hne (h.separates hclean hlegible) fun left right heq => ?_
  refine (h (joinPieces url.toList left) (joinPieces url.toList right) ?_).2
  rw [← hpieces, heq, joinPieces_append, joinPieces_cons, append_assoc]
  rfl

end CRWWebUIPageBuilder

end ChromiumIos
