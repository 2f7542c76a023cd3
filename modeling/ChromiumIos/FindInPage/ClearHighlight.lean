import ChromiumIos.FindInPage.HighlightedPage

/-!
# Clearing the highlights

`clearHighlight` goes through the spans from the last to the first. A span with one node between it
and the next one is merged with that, otherwise it is merged with the text nodes next to it. What is
merged is then replaced by one text node.

- `spanNodes`, `modificationsFor`: the spans in document order, and what is merged.
- `makeChanges`, `applyChanges`, `clearHighlight`: the nodes that are taken out, and what is left.
- `taken`, `lookup_changesFor_cons`: which nodes the modifications take out.
-/

namespace ChromiumIos

open Lib List

namespace FindInPage

/-! ## What the script reads -/

/-- What the script asks of the browser. Nodes are numbered in document order. -/
structure Rendering where
  /-- `innerText` of a node of the documents. -/
  innerText : Dom → Nat → Data
  outerHTML : Element → Dom → Data
  /-- `textContent` of a node that is neither text nor an element. -/
  nodeValue : Element → Data

/-- A node next to a span. -/
structure Sibling where
  node : Nat
  /-- The `nodeType` is 3. -/
  isText : Bool
  textContent : Data
deriving DecidableEq, Repr

/-- An element of the class. The parent of a root is left out. -/
structure Span where
  node : Nat
  parentNode : Option Nat
  previousSibling : Option Sibling
  nextSibling : Option Sibling
  innerHTML : Data
  innerText : Data
deriving DecidableEq, Repr

/-- How a code unit of a text is written in HTML. -/
def escape (c : UInt16) : Data :=
  if c = 38 then State.ascii "&amp;"
  else if c = 60 then State.ascii "&lt;"
  else if c = 62 then State.ascii "&gt;"
  else if c = 160 then State.ascii "&nbsp;"
  else [c]

/-- Elements whose text is written in HTML as it is. -/
def rawTextNames : List String :=
  ["STYLE", "SCRIPT", "XMP", "IFRAME", "NOEMBED", "NOFRAMES", "PLAINTEXT"]

section Script

variable (rendering : Rendering)

def innerHTML (element : Element) : Dom → Data
  | .nil => []
  | .leaf text next =>
    (if element.nodeName ∈ rawTextNames then text.data else text.data.flatMap escape) ++
      innerHTML element next
  | .node child children next => rendering.outerHTML child children ++ innerHTML element next

def textContent (element : Element) (children : Dom) : Data :=
  if element.nodeType = 1 then children.leaves.flatMap (·.data) else rendering.nodeValue element

/-- The first of some siblings, which has the number `n`. -/
def firstSibling (n : Nat) : Dom → Option Sibling
  | .nil => none
  | .leaf text _ => some ⟨n, true, text.data⟩
  | .node element children _ => some ⟨n, false, textContent rendering element children⟩

/-- The spans among some siblings and below them, in document order. -/
def spanNodes (documents : Dom) (n : Nat) (parentNode : Option Nat)
    (previousSibling : Option Sibling) : Dom → List Span
  | .nil => []
  | .leaf text next => spanNodes documents (n + 1) parentNode (some ⟨n, true, text.data⟩) next
  | .node element children next =>
    let after := n + 1 + children.size
    (if element.findClass then
        [⟨n, parentNode, previousSibling, firstSibling rendering after next,
          innerHTML rendering element children, rendering.innerText documents n⟩]
      else []) ++
      (spanNodes documents (n + 1) (some n) none children ++
        spanNodes documents after parentNode
          (some ⟨n, false, textContent rendering element children⟩) next)

end Script

/-! ## The modifications -/

/-- The first of `nodesToRemove`, which is replaced, the other ones, and the text in its place. -/
structure Modification where
  existing : Nat
  nodesToRemove : List Nat
  replacement : Data
deriving DecidableEq, Repr

/-- There is one node between the span and the one behind it, below the same parent. The span has a
next sibling then. -/
def Span.isAttached (elem behind : Span) : Bool :=
  elem.parentNode.isSome && elem.parentNode = behind.parentNode && elem.nextSibling.isSome &&
    elem.nextSibling.map (·.node) = behind.previousSibling.map (·.node)

/-- The nodes that a span adds to a modification: its own and the one before it. -/
def Span.added (elem : Span) : List Nat :=
  elem.node :: elem.previousSibling.toList.map (·.node)

/-- `prevMod` with a span in front of it. -/
def Modification.add (prevMod : Modification) (elem : Span) : Modification where
  existing := prevMod.existing
  nodesToRemove := prevMod.nodesToRemove ++ elem.added
  replacement :=
    elem.previousSibling.elim [] (·.textContent) ++ elem.innerText ++ prevMod.replacement

/-- The node next to a span, if it is a text node. -/
def textNode (sibling : Option Sibling) : Option Sibling := sibling.filter (·.isText)

theorem mem_of_mem_textNode {sibling : Sibling} {o : Option Sibling} (h : sibling ∈ textNode o) :
    sibling ∈ o :=
  (Option.filter_eq_some_iff.1 h).1

theorem textNode_eq_self {o : Option Sibling} (h : o.all (·.isText) = true) : textNode o = o := by
  cases o with
  | none => rfl
  | some sibling => exact Option.filter_eq_some_iff.2 ⟨rfl, h⟩

/-- A new modification, with the text nodes next to the span. -/
def Modification.new (elem : Span) : Modification where
  existing := elem.node
  nodesToRemove :=
    ((textNode elem.previousSibling).toList ++ (textNode elem.nextSibling).toList).map (·.node)
  replacement :=
    (textNode elem.previousSibling).elim [] (·.textContent) ++ elem.innerHTML ++
      (textNode elem.nextSibling).elim [] (·.textContent)

/-- The loop over the spans: the modifications, the latest first. -/
def modificationsFor : List Span → List Modification
  | [] => []
  | elem :: rest =>
    match rest.head?, modificationsFor rest with
    | some behind, prevMod :: others =>
      if elem.isAttached behind then prevMod.add elem :: others
      else .new elem :: prevMod :: others
    | _, modifications => .new elem :: modifications

/-- The nodes that are taken out, each with the text that comes in its place, if any. -/
abbrev Changes := List (Nat × Option Data)

def Modification.changes (mod : Modification) : Changes :=
  (mod.existing, some mod.replacement) :: mod.nodesToRemove.map fun node => (node, none)

def changesFor (modifications : List Modification) : Changes :=
  modifications.flatMap Modification.changes

/-- The loops over the modifications, and whether they end in an exception: a node that has been
taken out has no parent. -/
def makeChanges : Changes → Changes → Bool × Changes
  | [], done => (false, done)
  | change :: rest, done =>
    if change.1 ∈ done.map Prod.fst then (true, done) else makeChanges rest (done ++ [change])

/-- What a node with what is below it has become. -/
def changed (changes : Changes) (n : Nat) (tree : Dom) : Dom :=
  match changes.lookup n with
  | none => tree
  | some none => .nil
  | some (some text) => createTextNode text

/-- What the siblings have become. -/
def applyChanges (changes : Changes) : Nat → Dom → Dom
  | _, .nil => .nil
  | n, .leaf text next => changed changes n (.leaf text .nil) ++ applyChanges changes (n + 1) next
  | n, .node element children next =>
    changed changes n (.node element (applyChanges changes (n + 1) children) .nil) ++
      applyChanges changes (n + 1 + children.size) next

/-- `clearHighlight`, and whether it ends in an exception. -/
def State.clearHighlight (rendering : Rendering) (s : State) : Bool × State :=
  let spans := s.spans.filterMap fun elem =>
    (spanNodes rendering s.documents 0 none none s.documents)[elem]?
  let (throws, changes) := makeChanges (changesFor (modificationsFor spans)) []
  let documents := applyChanges changes 0 s.documents
  if throws then (true, { s with documents := documents })
  else (false, { s with documents := documents, spans := [], index := -1 })

/-! ## The spans -/

section Spans

variable {rendering : Rendering} {documents : Dom}

/-- The documents start with a span. -/
def startsSpan : Dom → Bool
  | .node element _ _ => element.findClass
  | _ => false

/-- The node before a span is the one before all, or it is one of the nodes. -/
theorem previousSibling_of_mem {sp : Span} {dom : Dom} {n : Nat} {parentNode : Option Nat}
    {previousSibling : Option Sibling}
    (hmem : sp ∈ spanNodes rendering documents n parentNode previousSibling dom) :
    (startsSpan dom = true ∧ sp.previousSibling = previousSibling) ∨
      ∀ sibling ∈ sp.previousSibling, n ≤ sibling.node := by
  induction dom generalizing n parentNode previousSibling with
  | nil => cases hmem
  | leaf text next ih =>
    rcases ih hmem with ⟨-, hprevious⟩ | hlater
    · refine .inr fun sibling hsibling => ?_
      rw [hprevious] at hsibling
      obtain rfl := Option.some.inj hsibling
      exact Nat.le_refl n
    · exact .inr fun sibling hsibling => Nat.le_of_succ_le (hlater sibling hsibling)
  | node element children next ihChildren ih =>
    rw [spanNodes] at hmem
    simp only [mem_append] at hmem
    rcases hmem with hmem | hmem | hmem
    · split at hmem
      · rw [mem_singleton.1 hmem]
        exact .inl ⟨‹_›, rfl⟩
      · cases hmem
    · rcases ihChildren hmem with ⟨-, hprevious⟩ | hlater
      · refine .inr fun sibling hsibling => ?_
        rw [hprevious] at hsibling
        cases hsibling
      · exact .inr fun sibling hsibling => Nat.le_of_succ_le (hlater sibling hsibling)
    · rcases ih hmem with ⟨-, hprevious⟩ | hlater
      · refine .inr fun sibling hsibling => ?_
        rw [hprevious] at hsibling
        obtain rfl := Option.some.inj hsibling
        exact Nat.le_refl n
      · refine .inr fun sibling hsibling => ?_
        have hle := hlater sibling hsibling
        omega

theorem node_of_firstSibling {n : Nat} {dom : Dom} {sibling : Sibling}
    (h : sibling ∈ firstSibling rendering n dom) : sibling.node = n ∧ 0 < dom.size := by
  cases dom with
  | nil => cases h
  | leaf text next =>
    obtain rfl := Option.some.inj h
    exact ⟨rfl, Nat.succ_pos _⟩
  | node element children next =>
    obtain rfl := Option.some.inj h
    exact ⟨rfl, Nat.succ_pos _⟩

/-- The node behind a span is one of the nodes. -/
theorem nextSibling_of_mem {sp : Span} {dom : Dom} {n : Nat} {parentNode : Option Nat}
    {previousSibling : Option Sibling}
    (hmem : sp ∈ spanNodes rendering documents n parentNode previousSibling dom) :
    ∀ sibling ∈ sp.nextSibling, n < sibling.node ∧ sibling.node < n + dom.size := by
  induction dom generalizing n parentNode previousSibling with
  | nil => cases hmem
  | leaf text next ih =>
    intro sibling hsibling
    have hbounds := ih hmem sibling hsibling
    rw [Forest.size]
    omega
  | node element children next ihChildren ih =>
    intro sibling hsibling
    rw [spanNodes] at hmem
    simp only [mem_append] at hmem
    rw [Forest.size]
    rcases hmem with hmem | hmem | hmem
    · split at hmem
      · rw [mem_singleton.1 hmem] at hsibling
        have hfirst := node_of_firstSibling hsibling
        omega
      · cases hmem
    · have hbounds := ihChildren hmem sibling hsibling
      omega
    · have hbounds := ih hmem sibling hsibling
      omega

/-- There are as many spans as elements of the class. -/
theorem length_spanNodes (dom : Dom) (n : Nat) (parentNode : Option Nat)
    (previousSibling : Option Sibling) :
    (spanNodes rendering documents n parentNode previousSibling dom).length =
      (State.spanElements dom).length := by
  rw [State.spanElements]
  induction dom generalizing n parentNode previousSibling with
  | nil => rfl
  | leaf text next ih => exact ih _ _ _
  | node element children next ihChildren ih =>
    rw [spanNodes, Forest.select]
    simp only [length_append, ihChildren, ih]
    split <;> rfl

theorem spanNodes_innerNodes (text : Data) (n : Nat) (parentNode : Option Nat)
    (previousSibling : Option Sibling) :
    spanNodes rendering documents n parentNode previousSibling (innerNodes text) = [] := by
  rw [← length_eq_zero_iff, length_spanNodes, State.spanElements, select_innerNodes]
  rfl

end Spans

/-! ## One modification after another -/

theorem modificationsFor_cons_new {elem : Span} {rest : List Span}
    (h : ∀ behind ∈ rest.head?, elem.isAttached behind = false) :
    modificationsFor (elem :: rest) = .new elem :: modificationsFor rest := by
  rw [modificationsFor]
  split
  · rw [h _ ‹_›, if_neg Bool.false_ne_true]
    exact congrArg _ (Eq.symm ‹_›)
  · rfl

theorem modificationsFor_cons_add {elem behind : Span} {rest : List Span} {prevMod : Modification}
    {others : List Modification} (hbehind : rest.head? = some behind)
    (hmods : modificationsFor rest = prevMod :: others) (h : elem.isAttached behind = true) :
    modificationsFor (elem :: rest) = prevMod.add elem :: others := by
  rw [modificationsFor, hbehind, hmods]
  exact if_pos h

theorem modificationsFor_ne_nil {spans : List Span} (h : spans ≠ []) :
    modificationsFor spans ≠ [] := by
  cases spans with
  | nil => exact absurd rfl h
  | cons elem rest =>
    rw [modificationsFor]
    split
    · split <;> exact cons_ne_nil _ _
    · exact cons_ne_nil _ _

/-- Spans that are not attached to each other are modified apart. -/
theorem modificationsFor_append {before after : List Span}
    (h : ∀ elem ∈ before, ∀ behind ∈ after, elem.isAttached behind = false) :
    modificationsFor (before ++ after) = modificationsFor before ++ modificationsFor after := by
  induction before with
  | nil => rfl
  | cons elem before ih =>
    have hrest := ih fun other hmem => h other (mem_cons_of_mem _ hmem)
    cases before with
    | nil =>
      rw [singleton_append, modificationsFor_cons_new fun behind hmem =>
        h elem mem_cons_self behind (mem_of_mem_head? hmem)]
      rfl
    | cons other before =>
      obtain ⟨prevMod, others, hmods⟩ :=
        exists_cons_of_ne_nil (modificationsFor_ne_nil (cons_ne_nil other before))
      rw [hmods] at hrest
      rw [cons_append, modificationsFor, hrest, modificationsFor, hmods]
      dsimp only [cons_append, head?_cons]
      split <;> rfl

/-- The text in the place of the first modification starts with more text. -/
def prepend (text : Data) : List Modification → List Modification
  | [] => []
  | mod :: rest => { mod with replacement := text ++ mod.replacement } :: rest

theorem prepend_nil (mods : List Modification) : prepend [] mods = mods := by
  cases mods <;> rfl

/-- The nodes that are taken out. -/
def taken (mods : List Modification) : List Nat := (changesFor mods).map Prod.fst

theorem taken_prepend (text : Data) (mods : List Modification) :
    taken (prepend text mods) = taken mods := by
  cases mods <;> rfl

theorem changesFor_cons (mod : Modification) (mods : List Modification) :
    changesFor (mod :: mods) = mod.changes ++ changesFor mods := rfl

theorem changesFor_append (mods others : List Modification) :
    changesFor (mods ++ others) = changesFor mods ++ changesFor others := flatMap_append

theorem taken_append (mods others : List Modification) :
    taken (mods ++ others) = taken mods ++ taken others := by
  rw [taken, changesFor_append, map_append]
  rfl

theorem taken_cons (mod : Modification) (mods : List Modification) :
    taken (mod :: mods) = mod.existing :: mod.nodesToRemove ++ taken mods := by
  rw [taken, changesFor_cons, map_append, Modification.changes, map_cons, map_map]
  exact congrArg (· ++ _) (congrArg _ (map_id _))

theorem lookup_eq_none {changes : Changes} {n : Nat} (h : n ∉ changes.map Prod.fst) :
    changes.lookup n = none := by
  rw [lookup_eq_none_iff]
  intro change hmem
  simp only [bne_iff_ne, ne_eq]
  rintro rfl
  exact h (mem_map_of_mem hmem)

theorem lookup_removed (nodes : List Nat) (n : Nat) :
    (nodes.map fun node => (node, (none : Option Data))).lookup n =
      if n ∈ nodes then some none else none := by
  induction nodes with
  | nil => rfl
  | cons node nodes ih =>
    rw [map_cons, lookup_cons, ih]
    by_cases heq : n = node
    · simp [heq]
    · simp [heq, beq_eq_false_iff_ne.2 heq]

theorem lookup_changesFor_cons (mod : Modification) (mods : List Modification) (n : Nat) :
    (changesFor (mod :: mods)).lookup n =
      if n = mod.existing then some (some mod.replacement)
      else if n ∈ mod.nodesToRemove then some none
      else (changesFor mods).lookup n := by
  rw [changesFor_cons, Modification.changes, cons_append, lookup_cons,
    lookup_append, lookup_removed]
  by_cases heq : n = mod.existing
  · simp [heq]
  · rw [beq_eq_false_iff_ne.2 heq, if_neg heq]
    dsimp only
    split <;> rfl

theorem lookup_prepend_new (text : Data) (elem : Span) (mods : List Modification) (n : Nat) :
    (changesFor (prepend text (.new elem :: mods))).lookup n =
      if n = elem.node then some (some (text ++ (Modification.new elem).replacement))
      else if n ∈ ((textNode elem.previousSibling).toList ++
        (textNode elem.nextSibling).toList).map (·.node) then some none
      else (changesFor mods).lookup n :=
  lookup_changesFor_cons _ _ _

theorem taken_add (prevMod : Modification) (elem : Span) (mods : List Modification) :
    (taken (prevMod.add elem :: mods)).Perm (taken (prevMod :: mods) ++ elem.added) := by
  rw [taken_cons, taken_cons, Modification.add]
  dsimp only
  rw [← cons_append, append_assoc, append_assoc]
  exact perm_append_comm.append_left _

/-- A span that is merged takes its nodes out and puts its text in front. -/
theorem lookup_prepend_add (text : Data) {prevMod : Modification} {elem : Span}
    {mods : List Modification} {n : Nat} (h : n ∈ elem.added → n ∉ taken (prevMod :: mods)) :
    (changesFor (prepend text (prevMod.add elem :: mods))).lookup n =
      if n ∈ elem.added then some none
      else (changesFor (prepend
        (text ++ (elem.previousSibling.elim [] (·.textContent) ++ elem.innerText))
        (prevMod :: mods))).lookup n := by
  rw [prepend, prepend, lookup_changesFor_cons, lookup_changesFor_cons, Modification.add]
  dsimp only
  rw [taken_cons, cons_append, mem_cons, mem_append, not_or, not_or] at h
  by_cases hadded : n ∈ elem.added
  · obtain ⟨hexisting, hnodes, -⟩ := h hadded
    rw [if_neg hexisting, if_pos (mem_append_right _ hadded), if_pos hadded]
  · simp only [mem_append, hadded, or_false, if_false, append_assoc]

/-- Changes that take out no node twice are all made. -/
theorem makeChanges_of_nodup {changes : Changes} (done : Changes)
    (h : ((done ++ changes).map Prod.fst).Nodup) :
    makeChanges changes done = (false, done ++ changes) := by
  induction changes generalizing done with
  | nil => rw [makeChanges, append_nil]
  | cons change rest ih =>
    have hfresh : change.1 ∉ done.map Prod.fst := by
      rw [map_append, map_cons, nodup_append] at h
      exact fun hmem => h.2.2 _ hmem _ mem_cons_self rfl
    rw [append_cons] at h
    rw [makeChanges, if_neg hfresh, ih _ h, append_assoc, singleton_append]

/-- Only the changes of the nodes matter. -/
theorem applyChanges_congr {changes changes' : Changes} {dom : Dom} {n : Nat}
    (h : ∀ k, n ≤ k → k < n + dom.size → changes.lookup k = changes'.lookup k) :
    applyChanges changes n dom = applyChanges changes' n dom := by
  induction dom generalizing n with
  | nil => rfl
  | leaf text next ih =>
    rw [Forest.size] at h
    rw [applyChanges, applyChanges, changed, changed, h n (Nat.le_refl n) (by omega),
      ih fun k hle hlt => h k (by omega) (by omega)]
  | node element children next ihChildren ih =>
    rw [Forest.size] at h
    rw [applyChanges, applyChanges, changed, changed, h n (Nat.le_refl n) (by omega),
      ihChildren fun k hle hlt => h k (by omega) (by omega),
      ih fun k hle hlt => h k (by omega) (by omega)]

end FindInPage

end ChromiumIos
