import ChromiumIos.Lib.Forest
import Mathlib.Data.List.Induction

/-!
# The document as find in page sees it

- `Dom`: the nodes below an element. Text nodes are the leaves.
- `Page`: documents whose text nodes can be told apart.
- `newNodes`: what takes the place of a text node with matches.
- `insertBefore`, `removeChild`: one node is inserted before a text node, or the text node is
  removed. `removeChild_foldl_insertBefore`: a text node is replaced.
-/

namespace ChromiumIos

open Lib Forest

namespace FindInPage

/-- A text, by its UTF-16 code units. -/
abbrev Data := List UInt16

/-- A text node. Those that the search makes cannot be told apart. -/
structure TextNode where
  identity : Option Nat
  data : Data
deriving DecidableEq, Repr

/-- A node that is not text: an element, or something like a comment. -/
structure Element where
  identity : Option Nat
  nodeType : Nat
  nodeName : String
  /-- The class is `find_in_page`. -/
  findClass : Bool
  visibleIndex : Option Nat
deriving DecidableEq, Repr

abbrev Dom := Forest TextNode Element

abbrev Node := Tree TextNode Element

/-- The document of the page, by what stands before, in and after the body, and the documents of
the frames. -/
structure Documents where
  html : Element
  before : Dom
  body : Element
  content : Dom
  after : Dom
  frameDocs : List (Element × Dom)

/-- All nodes, the documents in the order of `getAllElementsByClassName`. -/
def Documents.nodes (documents : Documents) : Dom :=
  .node documents.html
    (documents.before ++ .node documents.body documents.content documents.after)
    (concat (documents.frameDocs.reverse.map fun doc => .node doc.1 doc.2 .nil))

/-- Documents whose text nodes can be told apart. -/
structure Page extends Documents where
  identified : ∀ node ∈ toDocuments.nodes.leaves, node.identity.isSome = true
  distinct : (toDocuments.nodes.leaves.map (·.identity)).Nodup

/-! ## Making nodes -/

/-- `createTextNode`. -/
def createTextNode (data : Data) : Dom := .leaf ⟨none, data⟩ .nil

/-- A `chrome_find` element. -/
def chromeFind : Element := ⟨none, 1, "CHROME_FIND", true, none⟩

def lineBreak : Element := ⟨none, 1, "BR", false, none⟩

/-- The lines of a text, ended by LF, CR or both. -/
def splitLines : Data → List Data
  | [] => [[]]
  | c :: text =>
    if c = 13 ∧ text.head? = some 10 then splitLines text
    else if c = 10 ∨ c = 13 then [] :: splitLines text
    else match splitLines text with
      | [] => [[c]]
      | line :: lines => (c :: line) :: lines

/-- The lines as text nodes, with `br` elements between them. -/
def joinLines : List Data → Dom
  | [] => .nil
  | line :: lines =>
    (if line = [] then .nil else createTextNode line) ++
      if lines = [] then .nil else .node lineBreak .nil (joinLines lines)

/-- The children of an element whose `innerHTML` is set to `escapeHTML(text)`: `innerText` makes
`br` elements of line ends, and the parser drops NUL. -/
def innerNodes (text : Data) : Dom := joinLines (splitLines (text.filter (· ≠ 0)))

/-- The element for a match. -/
def matchedElement (text : Data) : Dom := .node chromeFind (innerNodes text) .nil

/-! ## Matches -/

/-- The matches that `exec` finds in a text one after another, by index and length. -/
structure Regex where
  exec : Data → List (Nat × Nat)

/-- `substring`. -/
def substring (data : Data) (start stop : Nat) : Data := (data.drop start).take (stop - start)

/-- The nodes for the matches behind `strIndex`. -/
def nodesFrom (data : Data) (strIndex : Nat) : List (Nat × Nat) → List Dom
  | [] => if strIndex < data.length then [createTextNode (data.drop strIndex)] else []
  | (index, length) :: rest =>
    (if index > 0 then [createTextNode (substring data strIndex index)] else []) ++
      matchedElement (substring data index (index + length)) ::
        nodesFrom data (index + length) rest

/-- What takes the place of a text node, if there is a match. -/
def newNodes (regex : Regex) (data : Data) : List Dom :=
  if regex.exec data = [] then [] else nodesFrom data 0 (regex.exec data)

/-! ## Changing the document -/

/-- `insertBefore` a text node. -/
def insertBefore (new : Dom) (oldNode : Nat) (dom : Dom) : Dom :=
  dom.expand fun node =>
    if node.identity = some oldNode then new ++ .leaf node .nil else .leaf node .nil

/-- `removeChild` of the parent of a text node. -/
def removeChild (oldNode : Nat) (dom : Dom) : Dom :=
  dom.expand fun node => if node.identity = some oldNode then .nil else .leaf node .nil

/-- Whether the text node has a parent. -/
def hasParent (dom : Dom) (oldNode : Nat) : Bool :=
  dom.leaves.any fun node => node.identity = some oldNode

/-- The text nodes are replaced where there is something in their place. -/
def replaceText (σ : Nat → Option (List Dom)) (dom : Dom) : Dom :=
  dom.expand fun node =>
    match node.identity.bind σ with
    | none => .leaf node .nil
    | some new => concat new

/-- Nodes that the search makes. -/
def Made (dom : Dom) : Prop := ∀ node ∈ dom.leaves, node.identity = none

theorem made_createTextNode (data : Data) : Made (createTextNode data) := by
  intro node hmem
  rw [List.mem_singleton.1 hmem]

theorem made_joinLines (lines : List Data) : Made (joinLines lines) := by
  induction lines with
  | nil => exact nofun
  | cons line lines ih =>
    intro node hmem
    rw [joinLines, leaves_append, List.mem_append] at hmem
    rcases hmem with hmem | hmem
    · split at hmem
      · cases hmem
      · exact made_createTextNode line node hmem
    · split at hmem
      · cases hmem
      · exact ih node hmem

theorem made_matchedElement (text : Data) : Made (matchedElement text) := by
  intro node hmem
  rw [matchedElement, leaves, leaves, List.append_nil] at hmem
  exact made_joinLines _ node hmem

theorem made_nodesFrom {data : Data} {found : List (Nat × Nat)} {strIndex : Nat} {new : Dom}
    (hmem : new ∈ nodesFrom data strIndex found) : Made new := by
  induction found generalizing strIndex with
  | nil =>
    rw [nodesFrom] at hmem
    split at hmem
    · rw [List.mem_singleton.1 hmem]
      exact made_createTextNode _
    · cases hmem
  | cons first found ih =>
    obtain ⟨index, length⟩ := first
    rw [nodesFrom, List.mem_append, List.mem_cons] at hmem
    rcases hmem with hmem | rfl | hmem
    · split at hmem
      · rw [List.mem_singleton.1 hmem]
        exact made_createTextNode _
      · cases hmem
    · exact made_matchedElement _
    · exact ih hmem

theorem made_newNodes {regex : Regex} {data : Data} {new : Dom}
    (hmem : new ∈ newNodes regex data) : Made new := by
  rw [newNodes] at hmem
  split at hmem
  · cases hmem
  · exact made_nodesFrom hmem

theorem made_concat {new : List Dom} (h : ∀ dom ∈ new, Made dom) : Made (concat new) := by
  intro node hmem
  obtain ⟨dom, hdom, hnode⟩ := mem_leaves_concat.1 hmem
  exact h dom hdom node hnode

/-- What the search makes is not replaced. -/
theorem Made.replaceText_eq {dom : Dom} (h : Made dom) (σ : Nat → Option (List Dom)) :
    replaceText σ dom = dom := by
  refine expand_eq_self fun node hmem => ?_
  rw [h node hmem]
  rfl

theorem Made.insertBefore_eq {dom : Dom} (h : Made dom) (new : Dom) (oldNode : Nat) :
    insertBefore new oldNode dom = dom :=
  expand_eq_self fun node hmem => if_neg (by rw [h node hmem]; exact nofun)

theorem Made.removeChild_eq {dom : Dom} (h : Made dom) (oldNode : Nat) :
    removeChild oldNode dom = dom :=
  expand_eq_self fun node hmem => if_neg (by rw [h node hmem]; exact nofun)

/-- One replacement after another: what has been replaced is not replaced again. -/
theorem replaceText_replaceText {σ : Nat → Option (List Dom)}
    (hσ : ∀ oldNode, ∀ new ∈ σ oldNode, ∀ dom ∈ new, Made dom) (τ : Nat → Option (List Dom))
    (dom : Dom) :
    replaceText τ (replaceText σ dom) = replaceText (fun l => (σ l).or (τ l)) dom := by
  rw [replaceText, replaceText, expand_expand]
  refine expand_congr fun node _ => ?_
  cases hidentity : node.identity with
  | none => simp [hidentity]
  | some oldNode =>
    cases hnew : σ oldNode with
    | none => simp [hidentity, hnew]
    | some new =>
      simp only [Option.bind_some, hnew, Option.some_or]
      exact (made_concat (hσ oldNode new hnew)).replaceText_eq τ

/-- A text node that is not there is not replaced. -/
theorem replaceText_eq_self {σ : Nat → Option (List Dom)} {dom : Dom}
    (h : ∀ oldNode, σ oldNode ≠ none → hasParent dom oldNode = false) :
    replaceText σ dom = dom := by
  refine expand_eq_self fun node hmem => ?_
  cases hidentity : node.identity with
  | none => rfl
  | some oldNode =>
    cases hnew : σ oldNode with
    | none => simp [hnew]
    | some new =>
      have habsent := h oldNode (by rw [hnew]; exact nofun)
      rw [hasParent, List.any_eq_false] at habsent
      exact absurd (decide_eq_true hidentity) (habsent node hmem)

/-- Nodes are inserted before a text node, one after another. -/
theorem foldl_insertBefore {new : List Dom} (hnew : ∀ dom ∈ new, Made dom) (oldNode : Nat)
    (dom : Dom) :
    new.foldl (fun dom node => insertBefore node oldNode dom) dom =
      insertBefore (concat new) oldNode dom := by
  induction new using List.reverseRecOn with
  | nil =>
    refine (expand_eq_self fun node _ => ?_).symm
    rw [concat_nil, nil_append, ite_self]
  | append_singleton new last ih =>
    have hmade := made_concat fun other hmem => hnew other (List.mem_append_left _ hmem)
    rw [List.foldl_append, ih fun other hmem => hnew other (List.mem_append_left _ hmem),
      List.foldl_cons, List.foldl_nil, insertBefore, insertBefore, expand_expand]
    refine expand_congr fun node _ => ?_
    by_cases heq : node.identity = some oldNode
    · have hbefore := hmade.insertBefore_eq last oldNode
      rw [insertBefore] at hbefore
      rw [if_pos heq, if_pos heq, expand_append, hbefore, expand_leaf, if_pos heq,
        concat_append, concat_cons, concat_nil, append_nil,
        expand_nil, append_nil, append_assoc]
    · rw [if_neg heq, if_neg heq, expand_leaf, if_neg heq, expand_nil,
        append_nil]

/-- **Replacing**: nodes are inserted before a text node, and then it is removed. -/
theorem removeChild_foldl_insertBefore {new : List Dom} (hnew : ∀ dom ∈ new, Made dom)
    (oldNode : Nat) (dom : Dom) :
    removeChild oldNode (new.foldl (fun dom node => insertBefore node oldNode dom) dom) =
      replaceText (fun l => if l = oldNode then some new else none) dom := by
  rw [foldl_insertBefore hnew, removeChild, insertBefore, expand_expand, replaceText]
  refine expand_congr fun node _ => ?_
  by_cases heq : node.identity = some oldNode
  · have hremove := (made_concat hnew).removeChild_eq oldNode
    rw [removeChild] at hremove
    rw [if_pos heq, expand_append, hremove, expand_leaf, if_pos heq, heq]
    simp
  · rw [if_neg heq, expand_leaf, if_neg heq, expand_nil, append_nil]
    cases hidentity : node.identity with
    | none => rfl
    | some l =>
      have hne : l ≠ oldNode := fun hl => heq (hidentity.trans (congrArg some hl))
      simp [hne]

end FindInPage

end ChromiumIos
