import ChromiumIos.FindInPage.InterruptedSearch
import Mathlib.Data.List.Nodup

/-!
# The page with its matches

A search that has come to its end has put every match of the page into an element.

- `Marked`, `markedPage`: the page with its texts divided into matches and what is between them.
- `highlighted`, `Shows`: the matches are highlighted; documents show a page when the highlights
  may also be counted.
- `tokens`: what a page consists of, up to the division of text into nodes.
- `shows_of_pumpUntilDone`: what a search ends with.
-/

namespace ChromiumIos

open Lib List Option

namespace FindInPage

/-! ## What a page consists of -/

inductive Token
  | char (c : UInt16)
  | start (element : Element)
  | stop
deriving DecidableEq, Repr

/-- The characters and elements in document order. How text is divided into leaves does not
matter. -/
def tokensWith {L : Type*} (data : L → Data) : Forest L Element → List Token
  | .nil => []
  | .leaf a next => (data a).map .char ++ tokensWith data next
  | .node element children next =>
    .start element :: (tokensWith data children ++ .stop :: tokensWith data next)

/-- What a page consists of. -/
def tokens (dom : Dom) : List Token := tokensWith TextNode.data dom

@[simp] theorem tokens_nil : tokens .nil = [] := rfl

@[simp] theorem tokens_leaf (text : TextNode) (next : Dom) :
    tokens (.leaf text next) = text.data.map .char ++ tokens next := rfl

@[simp] theorem tokens_node (element : Element) (children next : Dom) :
    tokens (.node element children next) =
      .start element :: (tokens children ++ .stop :: tokens next) := rfl

section Tokens

variable {L : Type*} (data : L → Data)

theorem tokensWith_append (s t : Forest L Element) :
    tokensWith data (s ++ t) = tokensWith data s ++ tokensWith data t := by
  induction s with
  | nil => rfl
  | leaf a next ih => rw [Forest.leaf_append, tokensWith, tokensWith, ih, append_assoc]
  | node element children next _ ih =>
    rw [Forest.node_append, tokensWith, tokensWith, ih, cons_append, append_assoc,
      cons_append]

theorem tokensWith_leaves (as : List L) :
    tokensWith data (Forest.concat (as.map fun a => .leaf a .nil)) =
      (as.flatMap data).map .char := by
  induction as with
  | nil => rfl
  | cons a as ih =>
    rw [map_cons, Forest.concat_cons, tokensWith_append, ih, tokensWith, tokensWith,
      append_nil, flatMap_cons, map_append]

/-- The elements of the class are those whose start is among the tokens. -/
theorem select_eq_nil_iff (t : Forest L Element) :
    t.select (·.findClass) = [] ↔
      ∀ element, Token.start element ∈ tokensWith data t → element.findClass = false := by
  induction t with
  | nil => simp [Forest.select, tokensWith]
  | leaf a next ih => simp [Forest.select, tokensWith, ih]
  | node b children next ihChildren ih =>
    cases hclass : b.findClass <;>
      simp [Forest.select, tokensWith, ihChildren, ih, hclass, or_imp, forall_and]

end Tokens

theorem tokens_append (s t : Dom) : tokens (s ++ t) = tokens s ++ tokens t :=
  tokensWith_append _ s t

/-! ## A page with its matches -/

/-- A text node, or a part of one: a match, or what is next to a match. -/
inductive Piece
  | text (node : TextNode)
  | found (matchText : Data)
deriving DecidableEq, Repr

def Piece.data : Piece → Data
  | .text node => node.data
  | .found matchText => matchText

def Piece.isFound : Piece → Bool
  | .text _ => false
  | .found _ => true

abbrev Marked := Forest Piece Element

/-- The parts of a text behind `strIndex`. -/
def piecesFrom (data : Data) (strIndex : Nat) : List (Nat × Nat) → List Piece
  | [] => if strIndex < data.length then [.text ⟨none, data.drop strIndex⟩] else []
  | (index, length) :: rest =>
    (if index > 0 then [.text ⟨none, substring data strIndex index⟩] else []) ++
      .found (substring data index (index + length)) :: piecesFrom data (index + length) rest

/-- The parts of a text node. -/
def pieces (regex : Regex) (node : TextNode) : List Piece :=
  if regex.exec node.data = [] then [.text node]
  else piecesFrom node.data 0 (regex.exec node.data)

/-- Nodes that are not searched. -/
def unmarked : Dom → Marked
  | .nil => .nil
  | .leaf node next => .leaf (.text node) (unmarked next)
  | .node element children next => .node element (unmarked children) (unmarked next)

/-- Nodes that are searched, with their matches. -/
def marked (regex : Regex) : Dom → Marked
  | .nil => .nil
  | .leaf node next =>
    Forest.concat ((pieces regex node).map fun piece => .leaf piece .nil) ++ marked regex next
  | .node element children next =>
    .node element
      (if State.reasonable (.node element children) then marked regex children
        else unmarked children)
      (marked regex next)

/-- The page with its matches: the contents of the body and of the frames are searched. -/
def markedPage (regex : Regex) (page : Page) : Marked :=
  .node page.html
    (unmarked page.before ++ .node page.body (marked regex page.content) (unmarked page.after))
    (Forest.concat (page.frameDocs.reverse.map fun doc => .node doc.1 (marked regex doc.2) .nil))

/-- Every match is in an element. -/
def highlighted : Marked → Dom
  | .nil => .nil
  | .leaf (.text node) next => .leaf node (highlighted next)
  | .leaf (.found text) next => .node chromeFind (innerNodes text) (highlighted next)
  | .node element children next => .node element (highlighted children) (highlighted next)

theorem highlighted_append (s t : Marked) :
    highlighted (s ++ t) = highlighted s ++ highlighted t := by
  induction s with
  | nil => rfl
  | leaf piece next ih =>
    cases piece with
    | text node => rw [Forest.leaf_append, highlighted, highlighted, ih, Forest.leaf_append]
    | found text => rw [Forest.leaf_append, highlighted, highlighted, ih, Forest.node_append]
  | node element children next _ ih =>
    rw [Forest.node_append, highlighted, highlighted, ih, Forest.node_append]

theorem highlighted_unmarked (dom : Dom) : highlighted (unmarked dom) = dom := by
  induction dom with
  | nil => rfl
  | leaf node next ih => rw [unmarked, highlighted, ih]
  | node element children next ihChildren ih => rw [unmarked, highlighted, ihChildren, ih]

/-! ### Matches in order -/

/-- Matches that start behind `strIndex` and behind each other. -/
def InOrder (strIndex : Nat) : List (Nat × Nat) → Prop
  | [] => True
  | (index, length) :: rest => strIndex ≤ index ∧ InOrder (index + length) rest

/-- `exec` goes on behind the last match. -/
def Regex.GoesOn (regex : Regex) : Prop := ∀ data, InOrder 0 (regex.exec data)

/-- The parts of a text make up the text. -/
theorem flatMap_piecesFrom {data : Data} {strIndex : Nat} {found : List (Nat × Nat)}
    (horder : InOrder strIndex found) :
    (piecesFrom data strIndex found).flatMap Piece.data = data.drop strIndex := by
  induction found generalizing strIndex with
  | nil =>
    rw [piecesFrom]
    split
    · exact append_nil _
    · exact (drop_eq_nil_of_le (Nat.le_of_not_lt ‹_›)).symm
  | cons first rest ih =>
    obtain ⟨index, length⟩ := first
    obtain ⟨hle, hrest⟩ := horder
    -- nothing is in front of a match at the start
    have hbefore : (if index > 0 then [Piece.text ⟨none, substring data strIndex index⟩]
        else []).flatMap Piece.data = substring data strIndex index := by
      split
      · exact append_nil _
      · rw [substring, Nat.sub_eq_zero_of_le (by omega), take_zero]
        rfl
    have hcut : ∀ start stop, start ≤ stop →
        substring data start stop ++ data.drop stop = data.drop start := by
      intro start stop hstop
      have h := take_append_drop (stop - start) (data.drop start)
      rwa [drop_drop, Nat.add_sub_cancel' hstop] at h
    rw [piecesFrom, flatMap_append, hbefore, flatMap_cons, ih hrest, Piece.data,
      hcut _ _ (Nat.le_add_right _ _), hcut _ _ hle]

theorem flatMap_pieces {regex : Regex} (hregex : regex.GoesOn) (node : TextNode) :
    (pieces regex node).flatMap Piece.data = node.data := by
  rw [pieces]
  split
  · exact append_nil _
  · exact flatMap_piecesFrom (hregex _)

theorem tokens_unmarked (dom : Dom) : tokensWith Piece.data (unmarked dom) = tokens dom := by
  induction dom with
  | nil => rfl
  | leaf node next ih => rw [unmarked, tokensWith, ih, tokens_leaf, Piece.data]
  | node element children next ihChildren ih =>
    rw [unmarked, tokensWith, ihChildren, ih, tokens_node]

theorem tokens_marked {regex : Regex} (hregex : regex.GoesOn) (dom : Dom) :
    tokensWith Piece.data (marked regex dom) = tokens dom := by
  induction dom with
  | nil => rfl
  | leaf node next ih =>
    rw [marked, tokensWith_append, tokensWith_leaves, flatMap_pieces hregex, ih, tokens_leaf]
  | node element children next ihChildren ih =>
    rw [marked, tokensWith, ih, tokens_node]
    split
    · rw [ihChildren]
    · rw [tokens_unmarked]

/-- The page with its matches consists of what the page consists of. -/
theorem tokens_markedPage {regex : Regex} (hregex : regex.GoesOn) (page : Page) :
    tokensWith Piece.data (markedPage regex page) = tokens page.nodes := by
  have hframes : ∀ docs : List (Element × Dom),
      tokensWith Piece.data
        (Forest.concat (docs.map fun doc => .node doc.1 (marked regex doc.2) .nil)) =
        tokens (Forest.concat (docs.map fun doc => .node doc.1 doc.2 .nil)) := by
    intro docs
    induction docs with
    | nil => rfl
    | cons doc docs ih =>
      rw [map_cons, map_cons, Forest.concat_cons, Forest.concat_cons,
        tokensWith_append, tokens_append, ih, tokensWith, tokens_marked hregex, tokens_node]
      rfl
  rw [markedPage, Documents.nodes, tokensWith, tokensWith_append, tokens_unmarked, tokensWith,
    tokens_marked hregex, tokens_unmarked, hframes, tokens_node, tokens_append, tokens_node]

/-! ## What the search makes of the page -/

theorem concat_nodesFrom (data : Data) (strIndex : Nat) (found : List (Nat × Nat)) :
    Forest.concat (nodesFrom data strIndex found) =
      highlighted
        (Forest.concat ((piecesFrom data strIndex found).map fun piece => .leaf piece .nil)) := by
  induction found generalizing strIndex with
  | nil =>
    rw [nodesFrom, piecesFrom]
    split <;> rfl
  | cons first rest ih =>
    obtain ⟨index, length⟩ := first
    rw [nodesFrom, piecesFrom, Forest.concat_append, map_append, Forest.concat_append,
      highlighted_append, Forest.concat_cons, map_cons, Forest.concat_cons,
      highlighted_append, ih]
    split <;> rfl

/-- The identities of the text nodes. -/
def identities (dom : Dom) : List (Option Nat) := dom.leaves.map (·.identity)

namespace State

variable {regex : Regex}

/-- A text node with a match is on record. -/
theorem newNodesFor_recorded (text : TextNode) (oldNode : Nat) :
    newNodesFor (recorded regex (.leaf text)) oldNode =
      if text.identity = some oldNode ∧ regex.exec text.data ≠ [] then
        some (nodesFrom text.data 0 (regex.exec text.data))
      else none := by
  cases hidentity : text.identity with
  | none => simp [recorded, hidentity, newNodesFor]
  | some textNode =>
    by_cases hexec : regex.exec text.data = []
    · have hnew : newNodes regex text.data = [] := if_pos hexec
      simp [recorded, hidentity, newNodesFor, hnew, hexec]
    · have hnew : newNodes regex text.data = nodesFrom text.data 0 (regex.exec text.data) :=
        if_neg hexec
      have hne : nodesFrom text.data 0 (regex.exec text.data) ≠ [] := by
        obtain ⟨⟨index, length⟩, rest, hfound⟩ := exists_cons_of_ne_nil hexec
        rw [hfound, nodesFrom]
        exact append_ne_nil_of_right_ne_nil _ (cons_ne_nil _ _)
      rw [recorded, hidentity]
      dsimp only
      rw [hnew, if_neg hne, newNodesFor, newNodesFor]
      by_cases heq : oldNode = textNode
      · rw [if_pos heq, if_pos ⟨congrArg some heq.symm, hexec⟩]
      · rw [if_neg heq, if_neg fun h => heq (some.inj h.1).symm]

/-- Only what is below is on record. -/
theorem newNodesFor_collectBelow_of_notMem {dom : Dom} {oldNode : Nat}
    (h : some oldNode ∉ identities dom) : newNodesFor (collectBelow regex dom) oldNode = none := by
  induction dom with
  | nil => rfl
  | leaf text next ih =>
    rw [identities, Forest.leaves, map_cons, mem_cons, not_or] at h
    rw [collectBelow, newNodesFor_append, ih h.2, or_none, newNodesFor_recorded,
      if_neg fun hown => h.1 hown.1.symm]
  | node element children next ihChildren ih =>
    rw [identities, Forest.leaves, map_append, mem_append, not_or] at h
    rw [collectBelow, newNodesFor_append, ih h.2, or_none]
    split
    · exact ihChildren h.1
    · rfl

theorem newNodesFor_flatMap_of_notMem {parts : List Dom} {oldNode : Nat}
    (h : some oldNode ∉ parts.flatMap identities) :
    newNodesFor (parts.flatMap (collectBelow regex)) oldNode = none := by
  induction parts with
  | nil => rfl
  | cons part parts ih =>
    rw [flatMap_cons, mem_append, not_or] at h
    rw [flatMap_cons, newNodesFor_append, newNodesFor_collectBelow_of_notMem h.1, ih h.2,
      or_none]

/-- What is on record for parts of the documents that have no text node in common. -/
theorem newNodesFor_flatMap_collectBelow {parts : List Dom} {dom : Dom} {oldNode : Nat}
    (hnodup : (parts.flatMap identities).Nodup) (hpart : dom ∈ parts)
    (hmem : some oldNode ∈ identities dom) :
    newNodesFor (parts.flatMap (collectBelow regex)) oldNode =
      newNodesFor (collectBelow regex dom) oldNode := by
  induction parts with
  | nil => cases hpart
  | cons part parts ih =>
    rw [flatMap_cons, nodup_append] at hnodup
    obtain ⟨-, hparts, hapart⟩ := hnodup
    rw [flatMap_cons, newNodesFor_append]
    rcases mem_cons.1 hpart with rfl | hpart
    · rw [newNodesFor_flatMap_of_notMem fun hlater => hapart _ hmem _ hlater rfl,
        or_none]
    · have hlater := mem_flatMap.2 ⟨dom, hpart, hmem⟩
      rw [newNodesFor_collectBelow_of_notMem fun hhere => hapart _ hhere _ hlater rfl,
        none_or, ih hparts hpart]

/-- Nodes that are not searched stay. -/
theorem replaceText_unmarked {σ : Nat → Option (List Dom)} {dom : Dom}
    (hσ : ∀ oldNode, some oldNode ∈ identities dom → σ oldNode = none) :
    replaceText σ dom = highlighted (unmarked dom) := by
  rw [highlighted_unmarked, replaceText]
  refine Forest.expand_eq_self fun node hmem => ?_
  cases hidentity : node.identity with
  | none => rfl
  | some oldNode =>
    have hnone := hσ oldNode (mem_map.2 ⟨node, hmem, hidentity⟩)
    simp [hnone]

/-- Nodes that are searched have their matches highlighted. -/
theorem replaceText_marked {σ : Nat → Option (List Dom)} {dom : Dom}
    (hsome : none ∉ identities dom) (hnodup : (identities dom).Nodup)
    (hσ : ∀ oldNode, some oldNode ∈ identities dom →
      σ oldNode = newNodesFor (collectBelow regex dom) oldNode) :
    replaceText σ dom = highlighted (marked regex dom) := by
  induction dom with
  | nil => rfl
  | leaf text next ih =>
    rw [identities, Forest.leaves, map_cons] at hsome hnodup hσ
    rw [mem_cons, not_or] at hsome
    obtain ⟨hfresh, hnodup⟩ := nodup_cons.1 hnodup
    cases hidentity : text.identity with
    | none => exact absurd hidentity.symm hsome.1
    | some textNode =>
      rw [hidentity] at hfresh hσ
      have hrest := ih hsome.2 hnodup fun oldNode hmem => by
        rw [hσ oldNode (mem_cons_of_mem _ hmem), collectBelow, newNodesFor_append,
          newNodesFor_recorded, if_neg, none_or]
        exact fun hown => hfresh (hidentity.symm.trans hown.1 ▸ hmem)
      have hown := hσ textNode mem_cons_self
      rw [collectBelow, newNodesFor_append, newNodesFor_recorded,
        newNodesFor_collectBelow_of_notMem hfresh, or_none] at hown
      rw [replaceText] at hrest
      rw [replaceText, Forest.expand_leaf, hrest, marked, highlighted_append, hidentity,
        bind_some, hown, pieces]
      by_cases hexec : regex.exec text.data = []
      · rw [if_neg fun h => h.2 hexec, if_pos hexec]
        rfl
      · rw [if_pos ⟨hidentity, hexec⟩, if_neg hexec, ← concat_nodesFrom]
  | node element children next ihChildren ih =>
    rw [identities, Forest.leaves, map_append] at hsome hnodup hσ
    rw [mem_append, not_or] at hsome
    obtain ⟨hchildren, hnext, hapart⟩ := nodup_append.1 hnodup
    rw [marked, highlighted, replaceText, Forest.expand_node]
    have hrest := ih hsome.2 hnext fun oldNode hmem => by
      rw [hσ oldNode (mem_append_right _ hmem), collectBelow, newNodesFor_append]
      split
      · rw [newNodesFor_collectBelow_of_notMem fun hhere => hapart _ hhere _ hmem rfl,
          none_or]
      · rfl
    have hbelow : ∀ oldNode, some oldNode ∈ identities children →
        σ oldNode = newNodesFor (if reasonable (.node element children)
          then collectBelow regex children else []) oldNode := fun oldNode hmem => by
      have hnot : some oldNode ∉ identities next := fun hlater => hapart _ hmem _ hlater rfl
      rw [hσ oldNode (mem_append_left _ hmem), collectBelow, newNodesFor_append,
        newNodesFor_collectBelow_of_notMem hnot, or_none]
    congr 1
    by_cases hreasonable : reasonable (.node element children) = true
    · rw [if_pos hreasonable] at hbelow ⊢
      exact ihChildren hsome.1 hchildren hbelow
    · rw [if_neg hreasonable] at hbelow ⊢
      exact replaceText_unmarked hbelow

/-- The parts of the documents that are searched. -/
def searchedParts (page : Page) : List Dom := page.content :: page.frameDocs.map Prod.snd

theorem identities_append (s t : Dom) : identities (s ++ t) = identities s ++ identities t := by
  rw [identities, Forest.leaves_append, map_append]
  rfl

theorem identities_node (element : Element) (children next : Dom) :
    identities (.node element children next) = identities children ++ identities next := by
  rw [identities, Forest.leaves, map_append]
  rfl

theorem identities_frames (docs : List (Element × Dom)) :
    identities (Forest.concat (docs.map fun doc => .node doc.1 doc.2 .nil)) =
      (docs.map Prod.snd).flatMap identities := by
  induction docs with
  | nil => rfl
  | cons doc docs ih =>
    rw [map_cons, Forest.concat_cons, identities_append, ih, identities_node, map_cons,
      flatMap_cons]
    exact congrArg (· ++ _) (append_nil _)

theorem perm_identities_nodes (page : Page) :
    (identities page.nodes).Perm
      ((searchedParts page).flatMap identities ++
        (identities page.before ++ identities page.after)) := by
  have hframes : ((page.frameDocs.reverse.map Prod.snd).flatMap identities).Perm
      ((page.frameDocs.map Prod.snd).flatMap identities) := by
    rw [map_reverse]
    exact (reverse_perm _).flatMap_right _
  rw [Documents.nodes, identities_node, identities_append, identities_node, identities_frames,
    searchedParts, flatMap_cons, perm_iff_count]
  intro identity
  have hcount := hframes.count_eq identity
  simp only [count_append, hcount]
  omega

/-- **What a search makes of the page**: every match is in an element. -/
theorem replaced_highlightWord (regex : Regex) (page : Page) :
    (highlightWord page).replaced regex = highlighted (markedPage regex page) := by
  have hperm := perm_identities_nodes page
  have hnodup := hperm.nodup_iff.1 page.distinct
  obtain ⟨hparts, -, hapart⟩ := nodup_append.1 hnodup
  have hsome : none ∉ identities page.nodes := by
    intro hmem
    obtain ⟨node, hnode, hnone⟩ := mem_map.1 hmem
    have hidentified := page.identified node hnode
    rw [hnone] at hidentified
    exact Bool.false_ne_true hidentified
  rw [hperm.mem_iff, mem_append, not_or] at hsome
  have htodo : (highlightWord page).todo regex =
      (searchedParts page).flatMap (collectBelow regex) := by
    rw [todo, searchedParts, flatMap_cons, flatMap_map]
    exact congrArg (_ ++ ·) (flatMap_map ..)
  rw [replaced, show (highlightWord page).replacements = [] from rfl, nil_append, htodo]
  rw [show (highlightWord page).replacementsIndex = 0 from rfl, drop_zero,
    show (highlightWord page).replacementNewNodesIndex = 0 from rfl,
    finishReplacing_eq (htodo ▸ allMade_todo regex (highlightWord page)),
    show (highlightWord page).documents = page.nodes from rfl]
  set σ := newNodesFor ((searchedParts page).flatMap (collectBelow regex)) with hσ
  have hsearched : ∀ part ∈ searchedParts page,
      replaceText σ part = highlighted (marked regex part) := fun part hpart =>
    replaceText_marked (fun hmem => hsome.1 (mem_flatMap.2 ⟨part, hpart, hmem⟩))
      (nodup_flatMap.1 hparts |>.1 part hpart) fun oldNode hmem =>
        newNodesFor_flatMap_collectBelow hparts hpart hmem
  have hunsearched : ∀ part, part = page.before ∨ part = page.after →
      replaceText σ part = highlighted (unmarked part) := fun part hpart =>
    replaceText_unmarked fun oldNode hmem => newNodesFor_flatMap_of_notMem fun hhere =>
      hapart _ hhere _ (by rcases hpart with rfl | rfl <;> simp [hmem]) rfl
  have hframes : ∀ docs : List (Element × Dom), (∀ doc ∈ docs, doc.2 ∈ searchedParts page) →
      replaceText σ (Forest.concat (docs.map fun doc => .node doc.1 doc.2 .nil)) =
        highlighted
          (Forest.concat (docs.map fun doc => .node doc.1 (marked regex doc.2) .nil)) := by
    intro docs hdocs
    induction docs with
    | nil => rfl
    | cons doc docs ih =>
      have hdoc := hsearched doc.2 (hdocs doc mem_cons_self)
      have hrest := ih fun other hmem => hdocs other (mem_cons_of_mem _ hmem)
      rw [replaceText] at hdoc hrest
      rw [map_cons, map_cons, Forest.concat_cons, Forest.concat_cons,
        highlighted_append, highlighted, replaceText, Forest.expand_append, Forest.expand_node,
        hdoc, hrest]
      rfl
  have hbefore := hunsearched page.before (.inl rfl)
  have hafter := hunsearched page.after (.inr rfl)
  have hcontent := hsearched page.content mem_cons_self
  have hdocs := hframes page.frameDocs.reverse fun doc hmem =>
    mem_cons_of_mem _ (mem_map_of_mem (mem_reverse.1 hmem))
  rw [replaceText] at hbefore hafter hcontent hdocs
  rw [Documents.nodes, markedPage, highlighted, highlighted_append, highlighted, replaceText,
    Forest.expand_node, Forest.expand_append, Forest.expand_node, hbefore, hcontent, hafter,
    hdocs]

end State

/-! ## What a search ends with -/

/-- Documents show a page with its matches. The spans may be counted, and no other element has the
class. -/
inductive Shows : Marked → Dom → Prop
  | nil : Shows .nil .nil
  | text (node : TextNode) {next : Marked} {dom : Dom} (rest : Shows next dom) :
    Shows (.leaf (.text node) next) (.leaf node dom)
  | found (matchText : Data) (visibleIndex : Option Nat) {next : Marked} {dom : Dom}
    (rest : Shows next dom) :
    Shows (.leaf (.found matchText) next)
      (.node { chromeFind with visibleIndex := visibleIndex } (innerNodes matchText) dom)
  | node (element : Element) (hclass : element.findClass = false) {children next : Marked}
    {below dom : Dom} (hbelow : Shows children below) (rest : Shows next dom) :
    Shows (.node element children next) (.node element below dom)

theorem shows_highlighted {page : Marked}
    (hclass : ∀ element, Token.start element ∈ tokensWith Piece.data page →
      element.findClass = false) :
    Shows page (highlighted page) := by
  induction page with
  | nil => exact .nil
  | leaf piece next ih =>
    have hnext := ih fun element hmem => hclass element (mem_append_right _ hmem)
    cases piece with
    | text node => exact .text node hnext
    | found matchText => exact .found matchText none hnext
  | node element children next ihChildren ih =>
    refine .node element (hclass element mem_cons_self) (ihChildren fun other hmem => ?_)
      (ih fun other hmem => ?_)
    · exact hclass other (mem_cons_of_mem _ (mem_append_left _ hmem))
    · exact hclass other
        (mem_cons_of_mem _ (mem_append_right _ (mem_cons_of_mem _ hmem)))

theorem select_joinLines (lines : List Data) : (joinLines lines).select (·.findClass) = [] := by
  rw [select_eq_nil_iff TextNode.data]
  induction lines with
  | nil => exact nofun
  | cons line lines ih =>
    intro element hmem
    rw [joinLines, tokensWith_append, mem_append] at hmem
    rcases hmem with hmem | hmem
    · split at hmem <;> simp [createTextNode, tokensWith] at hmem
    · split at hmem
      · cases hmem
      · rw [tokensWith, tokensWith, nil_append, mem_cons, mem_cons] at hmem
        rcases hmem with heq | heq | hmem
        · rw [Token.start.inj heq]
          rfl
        · cases heq
        · exact ih element hmem

/-- There is no span in a span. -/
theorem select_innerNodes (text : Data) : (innerNodes text).select (·.findClass) = [] :=
  select_joinLines _

theorem Shows.setVisibleIndex {page : Marked} {dom : Dom} (h : Shows page dom)
    (elem value : Nat) : Shows page (State.setVisibleIndex elem value dom) := by
  rw [State.setVisibleIndex]
  induction h generalizing elem with
  | nil => exact .nil
  | text node rest ih => exact .text node (ih elem)
  | found matchText visibleIndex rest ih =>
    rw [Forest.modify.eq_def]
    cases elem with
    | zero => exact .found matchText _ rest
    | succ elem =>
      dsimp only
      rw [if_pos (show chromeFind.findClass = true from rfl), select_innerNodes]
      exact .found matchText visibleIndex (ih elem)
  | node element hclass hbelow rest ihBelow ih =>
    rw [Forest.modify.eq_def]
    dsimp only
    rw [if_neg (by rw [hclass]; exact Bool.false_ne_true)]
    split
    · exact .node element hclass (ihBelow elem) rest
    · exact .node element hclass hbelow (ih _)

theorem Shows.finishCounting {page : Marked} {dom : Dom} (h : Shows page dom)
    (isVisible : Dom → Nat → Bool) (elems : List Nat) (visibleFound : Nat) :
    Shows page (State.finishCounting isVisible elems dom visibleFound).1 := by
  induction elems generalizing dom visibleFound with
  | nil => exact h
  | cons elem elems ih =>
    rw [State.finishCounting]
    split
    · exact ih (h.setVisibleIndex elem _) _
    · split
      · exact ih (h.setVisibleIndex elem _) _
      · exact ih h _

theorem getAllElementsByClassName_finishCounting (isVisible : Dom → Nat → Bool)
    (elems : List Nat) (dom : Dom) (visibleFound : Nat) :
    State.getAllElementsByClassName (State.finishCounting isVisible elems dom visibleFound).1 =
      State.getAllElementsByClassName dom := by
  induction elems generalizing dom visibleFound with
  | nil => rfl
  | cons elem elems ih =>
    rw [State.finishCounting]
    split
    · rw [ih, State.getAllElementsByClassName_setVisibleIndex]
    · split
      · rw [ih, State.getAllElementsByClassName_setVisibleIndex]
      · exact ih _ _

/-- **What a search ends with**: the documents show the page with its matches, and the spans are
on record. -/
theorem shows_of_pumpUntilDone {browser : Browser} {page : Page} {n : Nat} {r : String × State}
    (hregex : browser.regex.GoesOn)
    (hclass : ∀ element, Token.start element ∈ tokens page.nodes → element.findClass = false)
    (hdone : State.pumpUntilDone browser n (State.highlightWord page) = some r) :
    Shows (markedPage browser.regex page) r.2.documents ∧
      r.2.spans = State.getAllElementsByClassName r.2.documents := by
  obtain ⟨-, hagree⟩ := State.pumpUntilDone_spec (State.inv_highlightWord page) rfl hdone
  have hframe := State.finish_frame browser.unhurried
    ((State.highlightWord page).concluded browser)
  have hdocuments : r.2.documents = ((State.highlightWord page).counted browser).1 := by
    rw [hagree.documents, hframe]
    rfl
  have hspans : r.2.spans = State.getAllElementsByClassName
      ((State.highlightWord page).replaced browser.regex) := by
    rw [hagree.spans, hframe]
    rfl
  rw [hdocuments, hspans, State.counted, getAllElementsByClassName_finishCounting,
    State.replaced_highlightWord]
  refine ⟨Shows.finishCounting (shows_highlighted fun element hmem => ?_) _ _ _, rfl⟩
  rw [tokens_markedPage hregex] at hmem
  exact hclass element hmem

end FindInPage

end ChromiumIos
