import ChromiumIos.Lib.Keyed
import ChromiumIos.Lib.Machine
import ChromiumIos.Lib.Unfolding
import ChromiumIos.Web.Types

/-!
# Building a WebUI page

`crw_web_ui_page_builder.mm`: fetches an HTML page, the scripts and stylesheets
its tags name, and the stylesheets these import, and puts them in the place of
the tags. A count of pending subresources tells when to finish.

A stylesheet is fetched each time it is imported. Stylesheets that import each
other are fetched forever, and the page is never finished
(`build_completes_iff`).

- A step is one iteration of a loop or the return of a fetch. A delegate may
  answer at once, so a fetch may return inside the call that starts it or any
  call of the delegate; the loops in progress are a stack.
- Text is a sequence of characters with a length in 16-bit units; it is read
  from UTF-8.
-/

namespace ChromiumIos

open Lib List Nat

/-- What the page builder uses of its delegate, of Foundation and of `GURL`. -/
structure WebUIResources where
  /-- The resources there are; fetching another URL gives an empty text. -/
  resources : Keyed GURL String
  /-- What the group of the regular expression `prefix(.*?)suffix` captures in
  a text, ignoring case. -/
  captures : (tagPrefix tagSuffix text : String) → List String
  /-- The elements of an `NSSet` of some objects, as a loop visits them. -/
  elements : List String → List String
  /-- `GURL::Resolve`. -/
  resolve : GURL → String → GURL
  /-- `Extension` of the path `GURL::ExtractFileName` gives. -/
  fileExtension : GURL → String
  /-- `replaceOccurrencesOfString:withString:options:range:` in the first
  `length` units of a text that has as many. -/
  replaceOccurrences : (text target replacement : String) → (length : Nat) → String
  /-- `webUIJavaScript`, which reads a file of the bundle. -/
  webUIJavaScript : String
  captures_empty : ∀ tagPrefix tagSuffix, tagPrefix ≠ "" → captures tagPrefix tagSuffix "" = []
  elements_nodup : ∀ objects, (elements objects).Nodup
  mem_elements : ∀ objects object, object ∈ elements objects ↔ object ∈ objects

namespace CRWWebUIPageBuilder

def kJSTagPrefix : String := "<script src=\""
def kJSTagSuffix : String := "\"></script>"
def kCSSTagPrefix : String := "<link rel=\"stylesheet\" href=\""
def kCSSTagSuffix : String := "\">"
def kWebUIJSURL : String := "chrome://resources/js/ios/web_ui.js"

section Text

variable (w : WebUIResources)

/-- What fetching a URL gives. -/
def resource (url : GURL) : String := (w.resources.get? url).getD ""

/-- `URLStringsFromHTML:`. -/
def urlStringsFromHTML (html : String) : List String :=
  w.elements (w.captures kJSTagPrefix kJSTagSuffix html ++
    w.captures kCSSTagPrefix kCSSTagSuffix html)

/-- `URLStringsFromCSS:`. -/
def urlStringsFromCSS (css : String) : List String :=
  w.elements (w.captures "@import url(" ");" css)

/-- `isCSSSubresourceURL:`. -/
def isCSSSubresourceURL (subresourceURL : GURL) : Bool := w.fileExtension subresourceURL == ".css"

/-- `replaceOccurrencesOfString:` in a whole text. -/
def replaceAll (text target replacement : String) : String :=
  w.replaceOccurrences text target replacement (nsStringLength text)

/-- `addCSSTagToHTML:forURL:sourceURL:`. -/
def addCSSTag (html : String) (url sourceURL : GURL) : String :=
  let sourceTag := kCSSTagPrefix ++ sourceURL.spec ++ kCSSTagSuffix
  replaceAll w html sourceTag (kCSSTagPrefix ++ url.spec ++ kCSSTagSuffix ++ sourceTag)

/-- Assigns to an entry of a `std::map` of subresources. -/
def assign (url : GURL) (text : String) : List (GURL × String) → List (GURL × String)
  | [] => [(url, text)]
  | entry :: rest =>
    if url.possiblyInvalidSpec < entry.1.possiblyInvalidSpec then (url, text) :: entry :: rest
    else if url.eq entry.1 then (entry.1, text) :: rest
    else entry :: assign url text rest

/-- `flattenHTML:withSubresources:`. -/
def flattenHTML (html : String) (subresources : List (GURL × String)) : String :=
  let resources := assign ⟨kWebUIJSURL, true⟩ w.webUIJavaScript subresources
  resources.foldl (fun html (url, text) =>
    if isCSSSubresourceURL w url then
      replaceAll w html (kCSSTagPrefix ++ url.spec ++ kCSSTagSuffix)
        ("<style>" ++ text ++ "</style>")
    else
      replaceAll w html (kJSTagPrefix ++ url.spec ++ kJSTagSuffix)
        ("<script>" ++ text ++ "</script>")) html

end Text

/-- The two blocks that are called when a fetch returns. -/
inductive Handler
  | page
  | subresource
deriving DecidableEq, Repr

/-- A loop in progress, with the URL strings it has yet to visit: that of
`buildWebUIPageForHTML:` for a page whose HTML has some length, or that of the
subresource handler. -/
inductive Loop
  | page (pageURL : GURL) (htmlLength : Nat) (rest : List String)
  | subresource (subresourceURL : GURL) (subresource : String) (rest : List String)
deriving DecidableEq, Repr

/-- A page being built. -/
structure Build where
  webUIHTML : String
  pendingSubresourceCount : Nat
  subresources : List (GURL × String)
  /-- The loops in progress, the innermost first. -/
  loops : List Loop
  /-- No loop runs, or the innermost one is in a call of the delegate. -/
  inDelegate : Bool
  /-- The fetches that have not returned. -/
  outstanding : List (Handler × GURL)
  /-- The calls of the delegate. -/
  fetches : List GURL
  /-- The calls of the completion handler. -/
  completions : List String
  /-- An `NSRangeException` was thrown. -/
  raised : Bool
deriving DecidableEq, Repr

namespace Build

variable (w : WebUIResources)

/-- `buildWebUIPageForURL:`. -/
def new (webUIURL : GURL) : Build where
  webUIHTML := ""
  pendingSubresourceCount := 0
  subresources := []
  loops := []
  inDelegate := true
  outstanding := [(.page, webUIURL)]
  fetches := [webUIURL]
  completions := []
  raised := false

variable (b : Build)

/-- `fetchResourceWithURL:` with the subresource handler. -/
def fetch (url : GURL) : Build :=
  { b with
    outstanding := b.outstanding ++ [(.subresource, url)]
    fetches := b.fetches ++ [url]
    inDelegate := true }

/-- `--pendingSubresourceCount`, which finishes the page when nothing is
pending. -/
def decrementPending : Build :=
  if b.pendingSubresourceCount - 1 = 0 then
    let html := flattenHTML w b.webUIHTML b.subresources
    { b with
      pendingSubresourceCount := b.pendingSubresourceCount - 1
      webUIHTML := html
      completions := b.completions ++ [html] }
  else { b with pendingSubresourceCount := b.pendingSubresourceCount - 1 }

/-- `buildWebUIPageForHTML:`, up to its loop. -/
def buildPage (html : String) (pageURL : GURL) : Build :=
  let urlStrings := urlStringsFromHTML w html
  let b := { b with webUIHTML := html, pendingSubresourceCount := urlStrings.length }
  if urlStrings = [] then { b with completions := b.completions ++ [html] }
  else
    { b with
      loops := .page pageURL (nsStringLength html) urlStrings :: b.loops
      inDelegate := false }

/-- The subresource handler, up to its loop. -/
def handleSubresource (subresource : String) (subresourceURL : GURL) : Build :=
  let urlStrings :=
    if isCSSSubresourceURL w subresourceURL then urlStringsFromCSS w subresource else []
  { b with
    loops := .subresource subresourceURL subresource urlStrings :: b.loops
    inDelegate := false }

/-- A fetch returns. -/
def reply (i : Nat) : Build :=
  match b.outstanding[i]? with
  | none => b
  | some (handler, url) =>
    let b := { b with outstanding := b.outstanding.eraseIdx i }
    match handler with
    | .page => b.buildPage w (resource w url) url
    | .subresource => b.handleSubresource w (resource w url) url

/-- One iteration of the innermost loop, or its end. -/
def iterate : Build :=
  match b.loops with
  | [] => b
  | .page _ _ [] :: loops => { b with loops, inDelegate := true }
  | .page pageURL htmlLength (urlString :: rest) :: loops =>
    let b := { b with loops := .page pageURL htmlLength rest :: loops, inDelegate := false }
    if urlString = kWebUIJSURL then b.decrementPending w
    else
      let url := w.resolve pageURL urlString
      if url.spec ≠ urlString then
        -- the range is that of the original HTML
        if nsStringLength b.webUIHTML < htmlLength then { b with loops := [], raised := true }
        else
          { b with webUIHTML :=
              w.replaceOccurrences b.webUIHTML urlString url.spec htmlLength }.fetch url
      else b.fetch url
  | .subresource subresourceURL subresource [] :: loops =>
    { b with
      loops
      inDelegate := true
      subresources := assign subresourceURL subresource b.subresources }.decrementPending w
  | .subresource subresourceURL subresource (urlString :: rest) :: loops =>
    let url := w.resolve subresourceURL urlString
    { b with
      loops := .subresource subresourceURL subresource rest :: loops
      webUIHTML := addCSSTag w b.webUIHTML url subresourceURL
      pendingSubresourceCount := b.pendingSubresourceCount + 1 }.fetch url

end Build

/-- A step of building a page: the fetch in a place of `outstanding` returns,
or the innermost loop goes on. -/
inductive Op
  | reply (i : Nat)
  | iterate
deriving DecidableEq, Repr

/-- A fetch may return inside calls of the delegate; nothing happens after an
exception. -/
def machine (w : WebUIResources) : Machine Build Op where
  Pre b
    | .reply i => b.raised = false ∧ b.inDelegate = true ∧ i < b.outstanding.length
    | .iterate => b.raised = false ∧ b.loops ≠ []
  step b
    | .reply i => b.reply w i
    | .iterate => b.iterate w

instance decidablePre (w : WebUIResources) (b : Build) :
    ∀ op : Op, Decidable ((machine w).Pre b op)
  | .reply _ | .iterate => instDecidableAnd

/-! ## The count of pending subresources -/

/-- How many of the pending subresources a loop stands for: the page counts all
of its own in advance, a stylesheet counts while its loop runs. -/
def Loop.pending : Loop → Nat
  | .page _ _ rest => rest.length
  | .subresource _ _ _ => 1

/-- Where a page is being built: it has been waited for, is counted down, or an
exception has ended it. -/
inductive Status (webUIURL : GURL) (b : Build) : Prop
  | waiting (hnew : b = .new webUIURL)
  | running (hraised : b.raised = false) (hdelegate : b.loops = [] → b.inDelegate = true)
      (hhandlers : ∀ fetch ∈ b.outstanding, fetch.1 = .subresource)
      (hcount : b.pendingSubresourceCount =
        b.outstanding.length + (b.loops.map Loop.pending).sum)
      (hcompletions : b.completions.length = if b.pendingSubresourceCount = 0 then 1 else 0)
  | stopped (hraised : b.raised = true) (hnone : b.completions = [])

/-- What one iteration of the innermost loop does. -/
inductive Iterated (w : WebUIResources) (b : Build) : Build → Prop
  | pageEnds (pageURL : GURL) (htmlLength : Nat) (loops : List Loop)
      (heq : b.loops = .page pageURL htmlLength [] :: loops) :
      Iterated w b { b with loops, inDelegate := true }
  | pageSkips (pageURL : GURL) (htmlLength : Nat) (urlString : String) (rest : List String)
      (loops : List Loop) (heq : b.loops = .page pageURL htmlLength (urlString :: rest) :: loops)
      (hskipped : urlString = kWebUIJSURL) :
      Iterated w b ({ b with
        loops := .page pageURL htmlLength rest :: loops
        inDelegate := false }.decrementPending w)
  | pageRaises (pageURL : GURL) (htmlLength : Nat) (urlString : String) (rest : List String)
      (loops : List Loop) (heq : b.loops = .page pageURL htmlLength (urlString :: rest) :: loops)
      (hkept : urlString ≠ kWebUIJSURL)
      (hrewritten : (w.resolve pageURL urlString).spec ≠ urlString)
      (hshort : nsStringLength b.webUIHTML < htmlLength) :
      Iterated w b { b with loops := [], inDelegate := false, raised := true }
  | pageFetches (pageURL : GURL) (htmlLength : Nat) (urlString : String) (rest : List String)
      (loops : List Loop) (heq : b.loops = .page pageURL htmlLength (urlString :: rest) :: loops)
      (hkept : urlString ≠ kWebUIJSURL)
      (hfits : (w.resolve pageURL urlString).spec ≠ urlString →
        htmlLength ≤ nsStringLength b.webUIHTML) (html : String) :
      Iterated w b ({ b with
        loops := .page pageURL htmlLength rest :: loops
        inDelegate := false
        webUIHTML := html }.fetch (w.resolve pageURL urlString))
  | subresourceEnds (subresourceURL : GURL) (subresource : String) (loops : List Loop)
      (heq : b.loops = .subresource subresourceURL subresource [] :: loops) :
      Iterated w b ({ b with
        loops
        inDelegate := true
        subresources := assign subresourceURL subresource b.subresources }.decrementPending w)
  | subresourceFetches (subresourceURL : GURL) (subresource urlString : String)
      (rest : List String) (loops : List Loop)
      (heq : b.loops = .subresource subresourceURL subresource (urlString :: rest) :: loops) :
      Iterated w b ({ b with
        loops := .subresource subresourceURL subresource rest :: loops
        webUIHTML := addCSSTag w b.webUIHTML (w.resolve subresourceURL urlString) subresourceURL
        pendingSubresourceCount := b.pendingSubresourceCount + 1 }.fetch
          (w.resolve subresourceURL urlString))

section Steps

variable {w : WebUIResources} {webUIURL : GURL} {b : Build}

theorem iterate_nil (hloops : b.loops = []) : b.iterate w = b := by
  rw [Build.iterate, hloops]

theorem iterate_spec (hloops : b.loops ≠ []) : Iterated w b (b.iterate w) := by
  rw [Build.iterate]
  split
  · next hnil => exact absurd hnil hloops
  · next heq => exact .pageEnds _ _ _ heq
  · next pageURL htmlLength urlString rest loops heq =>
    simp only
    split
    · next hskipped => exact .pageSkips _ _ _ _ _ heq hskipped
    · next hkept =>
      split
      · next hrewritten =>
        split
        · next hshort => exact .pageRaises _ _ _ _ _ heq hkept hrewritten hshort
        · next hlong => exact .pageFetches _ _ _ _ _ heq hkept (fun _ => not_lt.1 hlong) _
      · next hsame =>
        exact .pageFetches _ _ _ _ _ heq hkept (fun hne => absurd hne hsame) b.webUIHTML
  · next heq => exact .subresourceEnds _ _ _ heq
  · next heq => exact .subresourceFetches _ _ _ _ _ heq

/-- The last pending subresource finishes the page, others do not. -/
theorem decrementPending_running {n : Nat} (hraised : b.raised = false)
    (hdelegate : b.loops = [] → b.inDelegate = true)
    (hhandlers : ∀ fetch ∈ b.outstanding, fetch.1 = .subresource)
    (hpending : b.pendingSubresourceCount = n + 1)
    (hcount : n = b.outstanding.length + (b.loops.map Loop.pending).sum)
    (hnone : b.completions = []) : Status webUIURL (b.decrementPending w) := by
  have hpred : b.pendingSubresourceCount - 1 = n := by omega
  rw [Build.decrementPending, hpred]
  split
  · next hzero =>
    refine .running hraised hdelegate hhandlers hcount ?_
    show (b.completions ++ [_]).length = if n = 0 then 1 else 0
    rw [hnone, if_pos hzero]
    rfl
  · next hpos =>
    refine .running hraised hdelegate hhandlers hcount ?_
    show b.completions.length = if n = 0 then 1 else 0
    rw [hnone, if_neg hpos]
    rfl

/-- A fetch whose subresource has been counted. -/
theorem fetch_running (hraised : b.raised = false)
    (hhandlers : ∀ fetch ∈ b.outstanding, fetch.1 = .subresource)
    (hcount : b.pendingSubresourceCount =
      b.outstanding.length + 1 + (b.loops.map Loop.pending).sum)
    (hnone : b.completions = []) (url : GURL) : Status webUIURL (b.fetch url) := by
  have hpos : b.pendingSubresourceCount ≠ 0 := by omega
  refine .running hraised (fun _ => rfl) (fun fetch hfetch => ?_) ?_ ?_
  · rcases mem_append.1 hfetch with hold | hnew
    · exact hhandlers fetch hold
    · rw [mem_singleton.1 hnew]
  · show b.pendingSubresourceCount = (b.outstanding ++ [_]).length + _
    rw [hcount, length_append, length_singleton]
    rfl
  · show b.completions.length = if b.pendingSubresourceCount = 0 then 1 else 0
    rw [hnone, if_neg hpos]
    rfl

theorem buildPage_status (hraised : b.raised = false) (hdelegate : b.inDelegate = true)
    (hloops : b.loops = []) (houtstanding : b.outstanding = []) (hnone : b.completions = [])
    (html : String) (pageURL : GURL) : Status webUIURL (b.buildPage w html pageURL) := by
  rw [Build.buildPage]
  simp only
  split
  · next hempty =>
    refine .running hraised (fun _ => hdelegate) ?_ ?_ ?_
    · show ∀ fetch ∈ b.outstanding, _
      rw [houtstanding]
      exact fun _ hfetch => absurd hfetch not_mem_nil
    · show (urlStringsFromHTML w html).length = b.outstanding.length + (b.loops.map _).sum
      rw [hempty, houtstanding, hloops]
      rfl
    · show (b.completions ++ [_]).length = if (urlStringsFromHTML w html).length = 0 then 1 else 0
      rw [hempty, hnone]
      rfl
  · next hsome =>
    have hpos : (urlStringsFromHTML w html).length ≠ 0 := fun h =>
      hsome (eq_nil_of_length_eq_zero h)
    refine .running hraised (fun h => absurd h (cons_ne_nil _ _)) ?_ ?_ ?_
    · show ∀ fetch ∈ b.outstanding, _
      rw [houtstanding]
      exact fun _ hfetch => absurd hfetch not_mem_nil
    · show (urlStringsFromHTML w html).length =
        b.outstanding.length + ((Loop.page _ _ _ :: b.loops).map _).sum
      rw [houtstanding, hloops]
      simp [Loop.pending]
    · show b.completions.length = if (urlStringsFromHTML w html).length = 0 then 1 else 0
      rw [hnone, if_neg hpos]
      rfl

/-- Taking a fetch out of those that have not returned. -/
theorem outstanding_perm {i : Nat} {fetch : Handler × GURL} (h : b.outstanding[i]? = some fetch) :
    b.outstanding.Perm (fetch :: b.outstanding.eraseIdx i) := by
  obtain ⟨hi, rfl⟩ := List.getElem?_eq_some_iff.1 h
  exact (getElem_cons_eraseIdx_perm hi).symm

theorem reply_status (h : Status webUIURL b) {i : Nat} (hi : (machine w).Pre b (.reply i)) :
    Status webUIURL (b.reply w i) := by
  obtain ⟨hnot, hdelegate, hlt⟩ := hi
  cases h with
  | waiting hnew =>
    subst hnew
    obtain rfl : i = 0 := by
      have hone : i < 1 := hlt
      omega
    exact buildPage_status rfl rfl rfl rfl rfl _ _
  | stopped hraised => exact absurd (hnot.symm.trans hraised) (by decide)
  | running hraised hdelegate' hhandlers hcount hcompletions =>
    have hget : b.outstanding[i]? = some b.outstanding[i] := getElem?_eq_getElem hlt
    have hperm := outstanding_perm hget
    have hhandler := hhandlers _ (getElem_mem hlt)
    rw [Build.reply, hget]
    generalize b.outstanding[i] = fetch at hperm hhandler
    obtain ⟨handler, url⟩ := fetch
    obtain rfl : handler = .subresource := hhandler
    have hlength := hperm.length_eq
    rw [length_cons] at hlength
    have hpos : b.pendingSubresourceCount ≠ 0 := by omega
    rw [if_neg hpos] at hcompletions
    refine .running hraised (fun h => absurd h (cons_ne_nil _ _)) ?_ ?_ ?_
    · exact fun fetch hfetch => hhandlers fetch (hperm.mem_iff.2 (mem_cons_of_mem _ hfetch))
    · show b.pendingSubresourceCount = (b.outstanding.eraseIdx i).length +
        ((Loop.subresource _ _ _ :: b.loops).map Loop.pending).sum
      rw [map_cons, sum_cons, Loop.pending]
      omega
    · show b.completions.length = if b.pendingSubresourceCount = 0 then 1 else 0
      rw [hcompletions, if_neg hpos]

theorem iterate_status (h : Status webUIURL b) (hi : (machine w).Pre b .iterate) :
    Status webUIURL (b.iterate w) := by
  obtain ⟨hnot, hloops⟩ := hi
  have hspec := iterate_spec (w := w) hloops
  generalize b.iterate w = b' at hspec
  cases h with
  | waiting hnew =>
    subst hnew
    exact absurd rfl hloops
  | stopped hraised => exact absurd (hnot.symm.trans hraised) (by decide)
  | running hraised hdelegate hhandlers hcount hcompletions =>
    -- but for the end of the page's loop, something was pending, so nothing is finished
    have hnone (hpos : b.pendingSubresourceCount ≠ 0) : b.completions = [] := by
      rw [if_neg hpos] at hcompletions
      exact eq_nil_of_length_eq_zero hcompletions
    cases hspec with
    | pageEnds pageURL htmlLength loops heq =>
      rw [heq, map_cons, sum_cons, Loop.pending] at hcount
      refine .running hraised (fun _ => rfl) hhandlers ?_ hcompletions
      show b.pendingSubresourceCount = b.outstanding.length + (loops.map Loop.pending).sum
      simpa using hcount
    | pageSkips pageURL htmlLength urlString rest loops heq hskipped =>
      rw [heq, map_cons, sum_cons, Loop.pending, length_cons] at hcount
      refine decrementPending_running (n := b.pendingSubresourceCount - 1) hraised
        (fun h => absurd h (cons_ne_nil _ _)) hhandlers ?_ ?_ (hnone (by omega))
      · show b.pendingSubresourceCount = b.pendingSubresourceCount - 1 + 1
        omega
      · show _ = b.outstanding.length + ((Loop.page _ _ _ :: loops).map Loop.pending).sum
        rw [map_cons, sum_cons, Loop.pending]
        omega
    | pageRaises pageURL htmlLength urlString rest loops heq =>
      rw [heq, map_cons, sum_cons, Loop.pending, length_cons] at hcount
      exact .stopped rfl (hnone (by omega))
    | pageFetches pageURL htmlLength urlString rest loops heq hkept hfits html =>
      rw [heq, map_cons, sum_cons, Loop.pending, length_cons] at hcount
      refine fetch_running (by exact hraised) (by exact hhandlers) ?_
        (by exact hnone (by omega)) _
      show b.pendingSubresourceCount = b.outstanding.length + 1 +
        ((Loop.page _ _ _ :: loops).map Loop.pending).sum
      rw [map_cons, sum_cons, Loop.pending]
      omega
    | subresourceEnds subresourceURL subresource loops heq =>
      rw [heq, map_cons, sum_cons, Loop.pending] at hcount
      refine decrementPending_running (n := b.pendingSubresourceCount - 1) hraised
        (fun _ => rfl) hhandlers ?_ ?_ (hnone (by omega))
      · show b.pendingSubresourceCount = b.pendingSubresourceCount - 1 + 1
        omega
      · show _ = b.outstanding.length + (loops.map Loop.pending).sum
        omega
    | subresourceFetches subresourceURL subresource urlString rest loops heq =>
      rw [heq, map_cons, sum_cons, Loop.pending] at hcount
      refine fetch_running (by exact hraised) (by exact hhandlers) ?_
        (by exact hnone (by omega)) _
      show b.pendingSubresourceCount + 1 = b.outstanding.length + 1 +
        ((Loop.subresource _ _ _ :: loops).map Loop.pending).sum
      rw [map_cons, sum_cons, Loop.pending]
      omega

end Steps

/-! ## The work that is left -/

section Work

variable (w : WebUIResources)

/-- The URLs the stylesheet under a URL imports; other resources import nothing. -/
def imports (url : GURL) : List GURL :=
  if isCSSSubresourceURL w url then (urlStringsFromCSS w (resource w url)).map (w.resolve url)
  else []

/-- The URLs the tags of a page lead to. -/
def references (pageURL : GURL) : List GURL :=
  ((urlStringsFromHTML w (resource w pageURL)).filter (· ≠ kWebUIJSURL)).map (w.resolve pageURL)

/-- The URLs a loop has yet to fetch. -/
def Loop.targets : Loop → List GURL
  | .page pageURL _ rest => (rest.filter (· ≠ kWebUIJSURL)).map (w.resolve pageURL)
  | .subresource subresourceURL _ rest => rest.map (w.resolve subresourceURL)

/-- The subresources a fetch leads to directly: itself, or those of a page. -/
def fetchTargets : Handler × GURL → List GURL
  | (.page, url) => references w url
  | (.subresource, url) => [url]

/-- The subresources whose fetch has not returned, or not begun. -/
def Build.targets (b : Build) : List GURL :=
  b.outstanding.flatMap (fetchTargets w) ++ b.loops.flatMap (Loop.targets w)

/-- The steps a loop has yet to make. -/
def Loop.steps : Loop → Nat
  | .page _ _ rest => rest.length + 1
  | .subresource _ _ rest => rest.length + 1

/-- The steps a page fetch leads to, besides those of subresources. -/
def fetchSteps : Handler × GURL → Nat
  | (.page, url) => (urlStringsFromHTML w (resource w url)).length + 2
  | (.subresource, _) => 0

/-- The steps that are left without those the targets lead to. -/
def Build.steps (b : Build) : Nat :=
  (b.outstanding.map (fetchSteps w)).sum + (b.loops.map Loop.steps).sum

/-- What a step does to the work that is left: it does some of it, it replaces
a subresource by what that imports, or it ends everything. -/
inductive Effect (b b' : Build) : Prop
  | works (htargets : (b'.targets w).Perm (b.targets w)) (hsteps : b'.steps w + 1 ≤ b.steps w)
  | returns (url : GURL) (others : List GURL) (htargets : (b.targets w).Perm (url :: others))
      (htargets' : (b'.targets w).Perm (imports w url ++ others))
      (hsteps : b'.steps w = b.steps w + 1 + (imports w url).length)
  | raises (dropped : List GURL) (hraised : b'.raised = true)
      (htargets : b.targets w = b'.targets w ++ dropped)
      (hsteps : b'.steps w + 1 ≤ b.steps w)

variable {w} {b : Build}

@[simp] theorem targets_fetch (b : Build) (url : GURL) :
    (b.fetch url).targets w = b.outstanding.flatMap (fetchTargets w) ++
      url :: b.loops.flatMap (Loop.targets w) := by
  show (b.outstanding ++ [(Handler.subresource, url)]).flatMap (fetchTargets w) ++ _ = _
  rw [flatMap_append, append_assoc]
  rfl

@[simp] theorem steps_fetch (b : Build) (url : GURL) : (b.fetch url).steps w = b.steps w := by
  show ((b.outstanding ++ [(Handler.subresource, url)]).map (fetchSteps w)).sum + _ = _
  rw [map_append, List.sum_append]
  rfl

theorem decrementPending_frame (b : Build) :
    (b.decrementPending w).outstanding = b.outstanding ∧
      (b.decrementPending w).loops = b.loops := by
  rw [Build.decrementPending]
  split <;> exact ⟨rfl, rfl⟩

@[simp] theorem fetches_decrementPending (b : Build) :
    (b.decrementPending w).fetches = b.fetches := by
  rw [Build.decrementPending]
  split <;> rfl

@[simp] theorem raised_decrementPending (b : Build) :
    (b.decrementPending w).raised = b.raised := by
  rw [Build.decrementPending]
  split <;> rfl

@[simp] theorem length_fetches_fetch (b : Build) (url : GURL) :
    (b.fetch url).fetches.length = b.fetches.length + 1 :=
  length_append

@[simp] theorem targets_decrementPending (b : Build) :
    (b.decrementPending w).targets w = b.targets w := by
  obtain ⟨houtstanding, hloops⟩ := decrementPending_frame (w := w) b
  rw [Build.targets, houtstanding, hloops, Build.targets]

@[simp] theorem steps_decrementPending (b : Build) :
    (b.decrementPending w).steps w = b.steps w := by
  obtain ⟨houtstanding, hloops⟩ := decrementPending_frame (w := w) b
  rw [Build.steps, houtstanding, hloops, Build.steps]

/-- The innermost loop apart. -/
theorem targets_cons {loop : Loop} {loops : List Loop} (hloops : b.loops = loop :: loops) :
    b.targets w = b.outstanding.flatMap (fetchTargets w) ++
      (loop.targets w ++ loops.flatMap (Loop.targets w)) := by
  rw [Build.targets, hloops, flatMap_cons]

theorem steps_cons {loop : Loop} {loops : List Loop} (hloops : b.loops = loop :: loops) :
    b.steps w = (b.outstanding.map (fetchSteps w)).sum +
      (loop.steps + (loops.map Loop.steps).sum) := by
  rw [Build.steps, hloops, map_cons, sum_cons]

theorem reply_effect {i : Nat} (hi : (machine w).Pre b (.reply i)) :
    Effect w b (b.reply w i) := by
  obtain ⟨fetch, hget⟩ : ∃ fetch, b.outstanding[i]? = some fetch :=
    ⟨_, getElem?_eq_getElem hi.2.2⟩
  have hperm := outstanding_perm hget
  rw [Build.reply, hget]
  have htargets : (b.targets w).Perm (fetchTargets w fetch ++
      ((b.outstanding.eraseIdx i).flatMap (fetchTargets w) ++
        b.loops.flatMap (Loop.targets w))) := by
    rw [← append_assoc]
    exact (hperm.flatMap_right _).append_right _
  have hsteps : b.steps w = fetchSteps w fetch +
      (((b.outstanding.eraseIdx i).map (fetchSteps w)).sum + (b.loops.map Loop.steps).sum) := by
    rw [Build.steps, (hperm.map (fetchSteps w)).sum_nat, map_cons, sum_cons]
    omega
  obtain ⟨handler, url⟩ := fetch
  cases handler with
  | subresource =>
    have himports : imports w url = (Loop.subresource url (resource w url)
        (if isCSSSubresourceURL w url then urlStringsFromCSS w (resource w url) else [])).targets
          w := by
      rw [imports, Loop.targets]
      split <;> rfl
    have hlength : (imports w url).length =
        (if isCSSSubresourceURL w url then urlStringsFromCSS w (resource w url)
          else []).length := by
      rw [imports]
      split
      · rw [length_map]
      · rfl
    refine .returns url ((b.outstanding.eraseIdx i).flatMap (fetchTargets w) ++
      b.loops.flatMap (Loop.targets w)) htargets ?_ ?_
    · show ((b.outstanding.eraseIdx i).flatMap (fetchTargets w) ++
        (Loop.targets w _ ++ b.loops.flatMap (Loop.targets w))).Perm _
      rw [himports, ← append_assoc, ← append_assoc]
      exact perm_append_comm.append_right _
    · show ((b.outstanding.eraseIdx i).map (fetchSteps w)).sum +
        ((Loop.subresource _ _ _ :: b.loops).map Loop.steps).sum = _
      rw [hsteps, hlength, map_cons, sum_cons, Loop.steps, fetchSteps]
      omega
  | page =>
    rw [fetchSteps] at hsteps
    simp only [Build.buildPage]
    split
    · next hempty =>
      have hnone : references w url = [] := by
        rw [references, hempty]
        rfl
      rw [fetchTargets, hnone] at htargets
      refine .works htargets.symm ?_
      show ((b.outstanding.eraseIdx i).map (fetchSteps w)).sum +
        (b.loops.map Loop.steps).sum + 1 ≤ _
      omega
    · refine .works ?_ ?_
      · show ((b.outstanding.eraseIdx i).flatMap (fetchTargets w) ++
          (references w url ++ b.loops.flatMap (Loop.targets w))).Perm _
        refine List.Perm.trans ?_ htargets.symm
        rw [← append_assoc, ← append_assoc]
        exact perm_append_comm.append_right _
      · show ((b.outstanding.eraseIdx i).map (fetchSteps w)).sum +
          ((Loop.page _ _ _ :: b.loops).map Loop.steps).sum + 1 ≤ _
        rw [map_cons, sum_cons, Loop.steps]
        omega

theorem iterate_effect (hi : (machine w).Pre b .iterate) : Effect w b (b.iterate w) := by
  have hspec := iterate_spec (w := w) hi.2
  generalize b.iterate w = b' at hspec
  -- the page's loop passes on to the URL strings after one that is fetched
  have htargets : ∀ {pageURL htmlLength urlString rest loops},
      b.loops = .page pageURL htmlLength (urlString :: rest) :: loops → urlString ≠ kWebUIJSURL →
      b.targets w = b.outstanding.flatMap (fetchTargets w) ++
        (w.resolve pageURL urlString :: (Loop.page pageURL htmlLength rest).targets w ++
          loops.flatMap (Loop.targets w)) := by
    intro pageURL htmlLength urlString rest loops heq hkept
    have hfilter : (urlString :: rest).filter (· ≠ kWebUIJSURL) =
        urlString :: rest.filter (· ≠ kWebUIJSURL) :=
      filter_cons_of_pos (by simpa using hkept)
    rw [targets_cons heq, Loop.targets, hfilter, map_cons, Loop.targets]
  cases hspec with
  | pageEnds pageURL htmlLength loops heq =>
    refine .works ?_ ?_
    · rw [targets_cons heq]
      exact List.Perm.refl _
    · rw [steps_cons heq, Loop.steps]
      show (b.outstanding.map (fetchSteps w)).sum + (loops.map Loop.steps).sum + 1 ≤ _
      omega
  | pageSkips pageURL htmlLength urlString rest loops heq hskipped =>
    refine .works ?_ ?_
    · rw [targets_decrementPending, targets_cons heq, targets_cons rfl, Loop.targets,
        Loop.targets, hskipped]
      exact List.Perm.refl _
    · rw [steps_decrementPending, steps_cons rfl, steps_cons heq, Loop.steps, Loop.steps,
        length_cons]
      show (b.outstanding.map (fetchSteps w)).sum + _ + 1 ≤ _
      omega
  | pageRaises pageURL htmlLength urlString rest loops heq hkept =>
    refine .raises (w.resolve pageURL urlString ::
      (Loop.page pageURL htmlLength rest).targets w ++ loops.flatMap (Loop.targets w)) rfl ?_ ?_
    · rw [htargets heq hkept, Build.targets, flatMap_nil, append_nil]
    · rw [steps_cons heq, Loop.steps]
      show (b.outstanding.map (fetchSteps w)).sum + 0 + 1 ≤ _
      omega
  | pageFetches pageURL htmlLength urlString rest loops heq hkept hfits html =>
    refine .works ?_ ?_
    · rw [targets_fetch, htargets heq hkept]
      exact List.Perm.refl _
    · rw [steps_fetch, steps_cons rfl, steps_cons heq, Loop.steps, Loop.steps, length_cons]
      show (b.outstanding.map (fetchSteps w)).sum + _ + 1 ≤ _
      omega
  | subresourceEnds subresourceURL subresource loops heq =>
    refine .works ?_ ?_
    · rw [targets_decrementPending, targets_cons heq]
      exact List.Perm.refl _
    · rw [steps_decrementPending, steps_cons heq, Loop.steps]
      show (b.outstanding.map (fetchSteps w)).sum + (loops.map Loop.steps).sum + 1 ≤ _
      omega
  | subresourceFetches subresourceURL subresource urlString rest loops heq =>
    refine .works ?_ ?_
    · rw [targets_fetch, targets_cons heq]
      exact List.Perm.refl _
    · rw [steps_fetch, steps_cons rfl, steps_cons heq, Loop.steps, Loop.steps, length_cons]
      show (b.outstanding.map (fetchSteps w)).sum + _ + 1 ≤ _
      omega

theorem step_effect (op : Op) (hop : (machine w).Pre b op) :
    Effect w b ((machine w).step b op) := by
  cases op with
  | reply i => exact reply_effect hop
  | iterate => exact iterate_effect hop

end Work

/-! ## Imports that end -/

section Ends

variable (w : WebUIResources)

/-- The steps a subresource and all that it imports lead to. -/
noncomputable def cost (url : GURL) : Nat :=
  total (imports w) (fun url => (imports w url).length + 2) url

/-- A bound on the steps that are left. -/
noncomputable def Build.workLeft (b : Build) : Nat := ((b.targets w).map (cost w)).sum + b.steps w

/-- No stylesheet that is left to fetch imports itself, directly or not. -/
def Build.Ends (b : Build) : Prop := ∀ url ∈ b.targets w, Acc (Spawned (imports w)) url

variable {w} {b : Build}

theorem cost_eq {url : GURL} (h : Acc (Spawned (imports w)) url) :
    cost w url = (imports w url).length + 2 + ((imports w url).map (cost w)).sum :=
  total_eq h

/-- Each step lowers the bound. -/
theorem step_ends (h : b.Ends w) {op : Op} (hop : (machine w).Pre b op) :
    ((machine w).step b op).Ends w ∧
      ((machine w).step b op).workLeft w + 1 ≤ b.workLeft w := by
  cases step_effect op hop with
  | works htargets hsteps =>
    refine ⟨fun url hurl => h url (htargets.mem_iff.1 hurl), ?_⟩
    rw [Build.workLeft, Build.workLeft, (htargets.map (cost w)).sum_nat]
    omega
  | returns url others htargets htargets' hsteps =>
    have hurl := h url (htargets.mem_iff.2 mem_cons_self)
    refine ⟨fun other hother => ?_, ?_⟩
    · rcases mem_append.1 (htargets'.mem_iff.1 hother) with himported | hold
      · exact hurl.inv himported
      · exact h other (htargets.mem_iff.2 (mem_cons_of_mem _ hold))
    · rw [Build.workLeft, Build.workLeft, (htargets.map (cost w)).sum_nat,
        (htargets'.map (cost w)).sum_nat, map_append, List.sum_append, map_cons,
        sum_cons, cost_eq hurl]
      omega
  | raises dropped hraised htargets hsteps =>
    refine ⟨fun url hurl => h url (htargets ▸ mem_append_left _ hurl), ?_⟩
    rw [Build.workLeft, Build.workLeft, htargets, map_append, List.sum_append]
    omega

/-- A run is no longer than the work at its start. -/
theorem run_length_le_workLeft {ops : List Op} (h : b.Ends w) (hops : (machine w).Legal b ops) :
    ops.length ≤ b.workLeft w := by
  induction ops generalizing b with
  | nil => exact zero_le _
  | cons op ops ih =>
    obtain ⟨hends, hless⟩ := step_ends h hops.1
    have hrest := ih hends hops.2
    rw [length_cons]
    omega

/-- A step fetches at most one URL. -/
theorem step_fetches (b : Build) (op : Op) :
    ((machine w).step b op).fetches.length ≤ b.fetches.length + 1 := by
  cases op with
  | reply i =>
    show (b.reply w i).fetches.length ≤ _
    rw [Build.reply]
    split
    · exact le_succ _
    · next handler url hget =>
      cases handler with
      | subresource => exact le_succ _
      | page =>
        simp only [Build.buildPage]
        split <;> exact le_succ _
  | iterate =>
    show (b.iterate w).fetches.length ≤ _
    by_cases hloops : b.loops = []
    · rw [iterate_nil hloops]
      exact le_succ _
    · have hspec := iterate_spec (w := w) hloops
      generalize b.iterate w = b' at hspec
      cases hspec with
      | pageEnds => exact le_succ _
      | pageSkips =>
        rw [fetches_decrementPending]
        exact le_succ _
      | pageRaises => exact le_succ _
      | pageFetches => rw [length_fetches_fetch]
      | subresourceEnds =>
        rw [fetches_decrementPending]
        exact le_succ _
      | subresourceFetches => rw [length_fetches_fetch]

theorem run_fetches (b : Build) (ops : List Op) :
    ((machine w).run b ops).fetches.length ≤ b.fetches.length + ops.length := by
  induction ops generalizing b with
  | nil => exact le_refl _
  | cons op ops ih =>
    have hstep := step_fetches (w := w) b op
    have hrest := ih ((machine w).step b op)
    rw [length_cons]
    show ((machine w).run ((machine w).step b op) ops).fetches.length ≤ _
    omega

end Ends

/-! ## Imports that do not end -/

section Endless

variable (w : WebUIResources)

/-- The steps a loop makes besides fetching what a stylesheet imports. -/
def Loop.slack : Loop → Nat
  | .page _ _ rest => rest.length + 1
  | .subresource _ _ _ => 1

/-- The steps between the return of a fetch and the end of its loop. -/
def fetchSlack : Handler × GURL → Nat
  | (.page, url) => (urlStringsFromHTML w (resource w url)).length + 2
  | (.subresource, _) => 2

def Build.slack (b : Build) : Nat :=
  (b.outstanding.map (fetchSlack w)).sum + (b.loops.map Loop.slack).sum

variable {w} {b : Build}

theorem slack_cons {loop : Loop} {loops : List Loop} (hloops : b.loops = loop :: loops) :
    b.slack w = (b.outstanding.map (fetchSlack w)).sum +
      (loop.slack + (loops.map Loop.slack).sum) := by
  rw [Build.slack, hloops, map_cons, sum_cons]

@[simp] theorem slack_fetch (b : Build) (url : GURL) : (b.fetch url).slack w = b.slack w + 2 := by
  show ((b.outstanding ++ [(Handler.subresource, url)]).map (fetchSlack w)).sum + _ = _
  rw [map_append, List.sum_append, Build.slack]
  show _ + 2 + (b.loops.map Loop.slack).sum = _
  omega

@[simp] theorem slack_decrementPending (b : Build) :
    (b.decrementPending w).slack w = b.slack w := by
  obtain ⟨houtstanding, hloops⟩ := decrementPending_frame (w := w) b
  rw [Build.slack, houtstanding, hloops, Build.slack]

/-- A step that fetches nothing uses up slack, and one that fetches adds little. -/
theorem step_slack {op : Op} (hop : (machine w).Pre b op) :
    ((machine w).step b op).slack w + 1 + 3 * b.fetches.length ≤
      b.slack w + 3 * ((machine w).step b op).fetches.length := by
  cases op with
  | reply i =>
    show (b.reply w i).slack w + 1 + _ ≤ _ + 3 * (b.reply w i).fetches.length
    obtain ⟨fetch, hget⟩ : ∃ fetch, b.outstanding[i]? = some fetch :=
      ⟨_, getElem?_eq_getElem hop.2.2⟩
    have hperm := outstanding_perm hget
    rw [Build.reply, hget]
    have hslack : b.slack w = fetchSlack w fetch +
        (((b.outstanding.eraseIdx i).map (fetchSlack w)).sum + (b.loops.map Loop.slack).sum) := by
      rw [Build.slack, (hperm.map (fetchSlack w)).sum_nat, map_cons, sum_cons]
      omega
    obtain ⟨handler, url⟩ := fetch
    cases handler with
    | subresource =>
      rw [fetchSlack] at hslack
      show ((b.outstanding.eraseIdx i).map (fetchSlack w)).sum +
        (1 + (b.loops.map Loop.slack).sum) + 1 + 3 * b.fetches.length ≤ _ + 3 * b.fetches.length
      omega
    | page =>
      rw [fetchSlack] at hslack
      simp only [Build.buildPage]
      split
      · show ((b.outstanding.eraseIdx i).map (fetchSlack w)).sum + (b.loops.map Loop.slack).sum +
          1 + 3 * b.fetches.length ≤ _ + 3 * b.fetches.length
        omega
      · show ((b.outstanding.eraseIdx i).map (fetchSlack w)).sum +
          ((urlStringsFromHTML w (resource w url)).length + 1 + (b.loops.map Loop.slack).sum) +
          1 + 3 * b.fetches.length ≤ _ + 3 * b.fetches.length
        omega
  | iterate =>
    show (b.iterate w).slack w + 1 + _ ≤ _ + 3 * (b.iterate w).fetches.length
    have hspec := iterate_spec (w := w) hop.2
    generalize b.iterate w = b' at hspec
    cases hspec with
    | pageEnds pageURL htmlLength loops heq =>
      rw [slack_cons heq, Loop.slack]
      show (b.outstanding.map (fetchSlack w)).sum + (loops.map Loop.slack).sum + 1 +
        3 * b.fetches.length ≤ _ + 3 * b.fetches.length
      omega
    | pageSkips pageURL htmlLength urlString rest loops heq hskipped =>
      rw [slack_decrementPending, fetches_decrementPending, slack_cons heq, slack_cons rfl,
        Loop.slack, Loop.slack, length_cons]
      show (b.outstanding.map (fetchSlack w)).sum + _ + 1 + _ ≤ _ + 3 * b.fetches.length
      omega
    | pageRaises pageURL htmlLength urlString rest loops heq hkept hrewritten hshort =>
      rw [slack_cons heq, Loop.slack]
      show (b.outstanding.map (fetchSlack w)).sum + 0 + 1 + 3 * b.fetches.length ≤
        _ + 3 * b.fetches.length
      omega
    | pageFetches pageURL htmlLength urlString rest loops heq hkept hfits html =>
      rw [slack_fetch, length_fetches_fetch, slack_cons heq, slack_cons rfl, Loop.slack,
        Loop.slack, length_cons]
      show (b.outstanding.map (fetchSlack w)).sum + _ + 2 + 1 + _ ≤ _ + 3 * (b.fetches.length + 1)
      omega
    | subresourceEnds subresourceURL subresource loops heq =>
      rw [slack_decrementPending, fetches_decrementPending, slack_cons heq, Loop.slack]
      show (b.outstanding.map (fetchSlack w)).sum + (loops.map Loop.slack).sum + 1 +
        3 * b.fetches.length ≤ _ + 3 * b.fetches.length
      omega
    | subresourceFetches subresourceURL subresource urlString rest loops heq =>
      rw [slack_fetch, length_fetches_fetch, slack_cons heq, slack_cons rfl, Loop.slack,
        Loop.slack]
      show (b.outstanding.map (fetchSlack w)).sum + _ + 2 + 1 + _ ≤ _ + 3 * (b.fetches.length + 1)
      omega

/-- A run makes few steps for each URL it fetches. -/
theorem run_length_le_fetches {ops : List Op} (hops : (machine w).Legal b ops) :
    ops.length + 3 * b.fetches.length ≤
      b.slack w + 3 * ((machine w).run b ops).fetches.length := by
  induction ops generalizing b with
  | nil =>
    show 0 + 3 * b.fetches.length ≤ _ + 3 * b.fetches.length
    omega
  | cons op ops ih =>
    have hstep := step_slack hops.1
    have hrest := ih hops.2
    show ops.length + 1 + _ ≤
      _ + 3 * ((machine w).run ((machine w).step b op) ops).fetches.length
    omega

/-- A subresource whose imports do not end is left to fetch. -/
def Build.Endless (w : WebUIResources) (b : Build) : Prop :=
  ∃ url ∈ b.targets w, ¬ Acc (Spawned (imports w)) url

/-- Only an exception ends it. -/
theorem step_endless (h : b.Endless w) {op : Op} (hop : (machine w).Pre b op)
    (hraised : ((machine w).step b op).raised = false) :
    ((machine w).step b op).Endless w := by
  obtain ⟨url, hurl, hnot⟩ := h
  cases step_effect op hop with
  | works htargets hsteps => exact ⟨url, htargets.mem_iff.2 hurl, hnot⟩
  | returns returned others htargets htargets' hsteps =>
    rcases mem_cons.1 (htargets.mem_iff.1 hurl) with rfl | hother
    · -- what it imports takes its place
      obtain ⟨imported, himported, hnot'⟩ := exists_child_not_acc hnot
      exact ⟨imported, htargets'.mem_iff.2 (mem_append_left _ himported), hnot'⟩
    · exact ⟨url, htargets'.mem_iff.2 (mem_append_right _ hother), hnot⟩
  | raises dropped hraised' htargets hsteps =>
    rw [hraised] at hraised'
    cases hraised'

end Endless

/-! ## When the page is finished -/

section Completion

variable (w : WebUIResources)

/-- A rewrite of a URL string in the HTML finds it at least as long as the HTML
that was fetched. -/
def RangeFits (b : Build) : Op → Prop
  | .reply _ => True
  | .iterate =>
    match b.loops with
    | .page pageURL htmlLength (urlString :: _) :: _ =>
      urlString ≠ kWebUIJSURL → (w.resolve pageURL urlString).spec ≠ urlString →
        htmlLength ≤ nsStringLength b.webUIHTML
    | _ => True

/-- Whatever the order in which fetches return, the URLs fetched are bounded in
number, the completion handler is called at most once, and it has been called
when nothing is left to do. -/
structure Completes (webUIURL : GURL) : Prop where
  finite : ∃ bound, ∀ ops, (machine w).Legal (.new webUIURL) ops →
    ((machine w).run (.new webUIURL) ops).fetches.length ≤ bound
  atMostOnce : ∀ ops, (machine w).Legal (.new webUIURL) ops →
    ((machine w).run (.new webUIURL) ops).completions.length ≤ 1
  once : ∀ ops, (machine w).Legal (.new webUIURL) ops →
    (∀ op, ¬ (machine w).Pre ((machine w).run (.new webUIURL) ops) op) →
      ((machine w).run (.new webUIURL) ops).completions.length = 1

variable {w} {webUIURL : GURL} {b : Build}

theorem step_raised_iff (hraised : b.raised = false) (op : Op) :
    ((machine w).step b op).raised = false ↔ RangeFits w b op := by
  cases op with
  | reply i =>
    refine iff_of_true ?_ trivial
    show (b.reply w i).raised = false
    rw [Build.reply]
    split
    · exact hraised
    · next handler url hget =>
      cases handler with
      | subresource => exact hraised
      | page =>
        simp only [Build.buildPage]
        split <;> exact hraised
  | iterate =>
    show (b.iterate w).raised = false ↔ RangeFits w b .iterate
    by_cases hloops : b.loops = []
    · rw [iterate_nil hloops, RangeFits, hloops]
      exact iff_of_true hraised trivial
    · have hspec := iterate_spec (w := w) hloops
      generalize b.iterate w = b' at hspec
      cases hspec with
      | pageEnds pageURL htmlLength loops heq =>
        rw [RangeFits, heq]
        exact iff_of_true hraised trivial
      | pageSkips pageURL htmlLength urlString rest loops heq hskipped =>
        rw [raised_decrementPending, RangeFits, heq]
        exact iff_of_true hraised fun hne => absurd hskipped hne
      | pageRaises pageURL htmlLength urlString rest loops heq hkept hrewritten hshort =>
        rw [RangeFits, heq]
        refine iff_of_false Bool.noConfusion fun hfits => ?_
        exact absurd (hfits hkept hrewritten) (not_le.2 hshort)
      | pageFetches pageURL htmlLength urlString rest loops heq hkept hfits html =>
        rw [RangeFits, heq]
        exact iff_of_true hraised fun _ => hfits
      | subresourceEnds subresourceURL subresource loops heq =>
        rw [raised_decrementPending, RangeFits, heq]
        exact iff_of_true hraised trivial
      | subresourceFetches subresourceURL subresource urlString rest loops heq =>
        rw [RangeFits, heq]
        exact iff_of_true hraised trivial

theorem run_status {ops : List Op} (hops : (machine w).Legal (.new webUIURL) ops) :
    Status webUIURL ((machine w).run (.new webUIURL) ops) := by
  refine Machine.run_invariant (M := machine w) (I := Status webUIURL) ?_ (.waiting rfl) hops
  intro b op h hop
  cases op with
  | reply i => exact reply_status h hop
  | iterate => exact iterate_status h hop

/-- Without an exception, there is a step to make until nothing is left. -/
theorem exists_pre_of_targets (h : Status webUIURL b) (hraised : b.raised = false)
    (htargets : b.targets w ≠ []) : ∃ op, (machine w).Pre b op := by
  cases h with
  | waiting hnew =>
    subst hnew
    exact ⟨.reply 0, rfl, rfl, Nat.one_pos⟩
  | stopped hraised' hnone =>
    rw [hraised] at hraised'
    cases hraised'
  | running hraised' hdelegate hhandlers hcount hcompletions =>
    by_cases hloops : b.loops = []
    · have hne : b.outstanding ≠ [] := fun hnil => htargets (by
        rw [Build.targets, hloops, hnil]
        rfl)
      exact ⟨.reply 0, hraised, hdelegate hloops, length_pos_iff.2 hne⟩
    · exact ⟨.iterate, hraised, hloops⟩

/-- Where no step is possible, the page is finished or an exception was thrown. -/
theorem completions_of_quiescent (h : Status webUIURL b) (hraised : b.raised = false)
    (hquiescent : ∀ op, ¬ (machine w).Pre b op) : b.completions.length = 1 := by
  cases h with
  | waiting hnew =>
    subst hnew
    exact absurd ⟨rfl, rfl, Nat.one_pos⟩ (hquiescent (.reply 0))
  | stopped hraised' hnone =>
    rw [hraised] at hraised'
    cases hraised'
  | running hraised' hdelegate hhandlers hcount hcompletions =>
    have hloops : b.loops = [] := by
      by_contra hne
      exact hquiescent .iterate ⟨hraised, hne⟩
    have houtstanding : b.outstanding = [] := by
      by_contra hne
      exact hquiescent (.reply 0) ⟨hraised, hdelegate hloops, length_pos_iff.2 hne⟩
    have hzero : b.pendingSubresourceCount = 0 := by
      rw [hcount, hloops, houtstanding]
      rfl
    rw [hcompletions, if_pos hzero]

theorem completions_le_one (h : Status webUIURL b) : b.completions.length ≤ 1 := by
  cases h with
  | waiting hnew =>
    subst hnew
    exact zero_le _
  | stopped hraised hnone =>
    rw [hnone]
    exact zero_le _
  | running hraised hdelegate hhandlers hcount hcompletions =>
    rw [hcompletions]
    split
    · exact le_refl _
    · exact zero_le _

/-- Where every rewrite fits, nothing was thrown. -/
theorem run_not_raised {ops : List Op} (hraised : b.raised = false)
    (hfits : (machine w).Along (RangeFits w) b ops) : ((machine w).run b ops).raised = false := by
  refine Machine.run_invariant (M := machine w) (I := fun b => b.raised = false) ?_ hraised hfits
  exact fun b op hraised hop => (step_raised_iff hraised op).2 hop

/-- A page that finishes never has a rewrite that does not fit. -/
theorem Completes.rangeFits (h : Completes w webUIURL) {ops : List Op}
    (hops : (machine w).Legal (.new webUIURL) ops) :
    (machine w).Along (RangeFits w) (.new webUIURL) ops := by
  have hstep : ∀ b op, b.raised = false ∧ Status webUIURL b → (machine w).Pre b op →
      RangeFits w b op → ((machine w).step b op).raised = false ∧
        Status webUIURL ((machine w).step b op) := by
    intro b op hb hop hfits
    refine ⟨(step_raised_iff hb.1 op).2 hfits, ?_⟩
    cases op with
    | reply i => exact reply_status hb.2 hop
    | iterate => exact iterate_status hb.2 hop
  have hdetect : ∀ b op, b.raised = false ∧ Status webUIURL b → (machine w).Pre b op →
      ¬ RangeFits w b op → ¬ ((machine w).step b op).raised = false := fun b op hb _ hnot hraised =>
    hnot ((step_raised_iff hb.1 op).1 hraised)
  refine Machine.along_of_detected (P := fun b => b.raised = false) hstep hdetect
    ⟨rfl, .waiting rfl⟩ hops ?_
  rintro before hbefore
  by_contra hraised
  rw [Bool.not_eq_false] at hraised
  have hlegal := hops.of_isPrefix hbefore
  have hquiescent : ∀ op, ¬ (machine w).Pre ((machine w).run (.new webUIURL) before) op := by
    intro op hop
    have hnot : ((machine w).run (.new webUIURL) before).raised = false := by
      cases op with
      | reply i => exact hop.1
      | iterate => exact hop.1
    exact absurd (hraised.symm.trans hnot) (by decide)
  have hone := h.once before hlegal hquiescent
  cases run_status hlegal with
  | waiting hnew =>
    rw [hnew] at hraised
    cases hraised
  | running hnot _ _ _ _ => exact absurd (hraised.symm.trans hnot) (by decide)
  | stopped _ hnone =>
    rw [hnone] at hone
    cases hone

/-- Where imports do not end and no exception is thrown, there are runs of any
length. -/
theorem exists_run_of_endless (hendless : ∃ url ∈ references w webUIURL,
      ¬ Acc (Spawned (imports w)) url)
    (hfits : ∀ ops, (machine w).Legal (.new webUIURL) ops →
      (machine w).Along (RangeFits w) (.new webUIURL) ops) (n : Nat) :
    ∃ ops, (machine w).Legal (.new webUIURL) ops ∧ ops.length = n ∧
      ((machine w).run (.new webUIURL) ops).Endless w := by
  induction n with
  | zero =>
    refine ⟨[], trivial, rfl, ?_⟩
    obtain ⟨url, hurl, hnot⟩ := hendless
    exact ⟨url, mem_append_left _ (mem_append_left _ hurl), hnot⟩
  | succ n ih =>
    obtain ⟨ops, hops, hlength, hrun⟩ := ih
    have hraised := run_not_raised rfl (hfits ops hops)
    have htargets : ((machine w).run (.new webUIURL) ops).targets w ≠ [] := by
      obtain ⟨url, hurl, -⟩ := hrun
      exact ne_nil_of_mem hurl
    obtain ⟨op, hop⟩ := exists_pre_of_targets (run_status hops) hraised htargets
    have hops' : (machine w).Legal (.new webUIURL) (ops ++ [op]) :=
      Machine.along_append.2 ⟨hops, hop, trivial⟩
    have hraised' := run_not_raised rfl (hfits _ hops')
    refine ⟨ops ++ [op], hops', ?_, ?_⟩
    · rw [length_append, hlength, length_singleton]
    · rw [Machine.run_append] at hraised' ⊢
      exact step_endless hrun hop hraised'

theorem not_completes_of_endless (hendless : ∃ url ∈ references w webUIURL,
    ¬ Acc (Spawned (imports w)) url) : ¬ Completes w webUIURL := by
  intro h
  obtain ⟨bound, hbound⟩ := h.finite
  obtain ⟨ops, hops, hlength, -⟩ := exists_run_of_endless hendless (fun _ hops => h.rangeFits hops)
    ((Build.new webUIURL).slack w + 3 * bound + 1)
  have hfetches := hbound ops hops
  have hsteps := run_length_le_fetches hops
  omega

/-- Only the URLs that have a resource import anything. -/
theorem imports_of_not_mem {url : GURL} (h : url ∉ w.resources.keys) : imports w url = [] := by
  have hempty : resource w url = "" := by
    rw [Keyed.mem_keys, not_not] at h
    rw [resource, h]
    rfl
  have hnone : urlStringsFromCSS w "" = [] := by
    rw [urlStringsFromCSS, w.captures_empty _ _ (by decide)]
    exact eq_nil_iff_forall_not_mem.2 fun urlString hmem =>
      not_mem_nil ((w.mem_elements _ _).1 hmem)
  rw [imports, hempty, hnone]
  split <;> rfl

/-- **Completion**: for every set of resources, building a page fetches
finitely many URLs and completes exactly once, whatever the order in which the
fetches return, if and only if no stylesheet that the page leads to imports
itself, directly or not, and the HTML is never shorter than at the start when
the loop over the page's tags rewrites a URL in it. -/
theorem build_completes_iff (w : WebUIResources) (webUIURL : GURL) :
    Completes w webUIURL ↔
      (∀ url ∈ references w webUIURL, ∀ stylesheet,
        Relation.ReflTransGen (Spawned (imports w)) stylesheet url →
          ¬ Relation.TransGen (Spawned (imports w)) stylesheet stylesheet) ∧
      ∀ ops, (machine w).Legal (.new webUIURL) ops →
        (machine w).Along (RangeFits w) (.new webUIURL) ops := by
  have hacc : ∀ url, Acc (Spawned (imports w)) url ↔ _ := fun url =>
    acc_iff_no_cycle (x := url) fun other (hother : other ∉ w.resources.keys) =>
      imports_of_not_mem hother
  constructor
  · intro h
    refine ⟨fun url hurl => (hacc url).1 ?_, fun ops hops => h.rangeFits hops⟩
    by_contra hnot
    exact not_completes_of_endless ⟨url, hurl, hnot⟩ h
  · rintro ⟨hcycle, hfits⟩
    have hends : (Build.new webUIURL).Ends w := by
      intro url hurl
      have hmem : url ∈ references w webUIURL := by
        simpa [Build.targets, Build.new, fetchTargets] using hurl
      exact (hacc url).2 (hcycle url hmem)
    refine ⟨⟨1 + (Build.new webUIURL).workLeft w, fun ops hops => ?_⟩,
      fun ops hops => completions_le_one (run_status hops), fun ops hops hquiescent => ?_⟩
    · have hlength := run_length_le_workLeft hends hops
      have hfetches := run_fetches (w := w) (Build.new webUIURL) ops
      have hone : (Build.new webUIURL).fetches.length = 1 := rfl
      omega
    · exact completions_of_quiescent (run_status hops) (run_not_raised rfl (hfits ops hops))
        hquiescent

end Completion

/-! ## A stylesheet that imports itself -/

/-- What stands before a marker. -/
def textBefore (marker : List Char) : List Char → Option (List Char)
  | [] => none
  | c :: rest =>
    if marker.isPrefixOf (c :: rest) then some []
    else (textBefore marker rest).map (c :: ·)

/-- The shortest texts between two markers, after some characters that are
skipped. -/
def textsBetween (start stop : List Char) : (skip : Nat) → List Char → List (List Char)
  | _, [] => []
  | skip + 1, _ :: rest => textsBetween start stop skip rest
  | 0, c :: rest =>
    if start.isPrefixOf (c :: rest) then
      match textBefore stop ((c :: rest).drop start.length) with
      | none => textsBetween start stop 0 rest
      | some text =>
        text :: textsBetween start stop (start.length + text.length + stop.length - 1) rest
    else textsBetween start stop 0 rest

/-- A text with the occurrences of another one replaced. -/
def replaceText (target replacement : List Char) : (skip : Nat) → List Char → List Char
  | _, [] => []
  | skip + 1, _ :: rest => replaceText target replacement skip rest
  | 0, c :: rest =>
    if target.isPrefixOf (c :: rest) then
      replacement ++ replaceText target replacement (target.length - 1) rest
    else c :: replaceText target replacement 0 rest

/-- Resources whose texts are ASCII and whose URL strings are absolute. -/
def plainResources (resources : Keyed GURL String) : WebUIResources where
  resources
  captures tagPrefix tagSuffix text :=
    (textsBetween tagPrefix.toList tagSuffix.toList 0 text.toList).map String.ofList
  elements objects := objects.dedup
  resolve _ urlString := ⟨urlString, true⟩
  fileExtension url := if ".css".toList.isSuffixOf url.spec.toList then ".css" else ".js"
  replaceOccurrences text target replacement length :=
    String.ofList (replaceText target.toList replacement.toList 0 (text.toList.take length) ++
      text.toList.drop length)
  webUIJavaScript := ""
  captures_empty _ _ _ := by simp [textsBetween]
  elements_nodup := nodup_dedup
  mem_elements _ _ := mem_dedup

/-- A page with a stylesheet that imports itself. -/
def selfImport : WebUIResources :=
  plainResources
    ⟨[(⟨"chrome://a/", true⟩, "<link rel=\"stylesheet\" href=\"chrome://a/a.css\">"),
      (⟨"chrome://a/a.css", true⟩, "@import url(chrome://a/a.css);")]⟩

theorem selfImport_not_completes : ¬ Completes selfImport ⟨"chrome://a/", true⟩ := by
  have hreference : (⟨"chrome://a/a.css", true⟩ : GURL) ∈
      references selfImport ⟨"chrome://a/", true⟩ := by decide +kernel
  have himport : (⟨"chrome://a/a.css", true⟩ : GURL) ∈
      imports selfImport ⟨"chrome://a/a.css", true⟩ := by decide +kernel
  refine not_completes_of_endless ⟨_, hreference, fun hacc => ?_⟩
  exact Acc.not_transGen_self hacc (.single himport)

end CRWWebUIPageBuilder

end ChromiumIos
