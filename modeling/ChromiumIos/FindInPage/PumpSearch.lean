import ChromiumIos.FindInPage.Dom

/-!
# A search in pieces

`pumpSearch` goes through the nodes, replaces the text nodes with matches and counts the visible
highlights. When its time is over it returns `[false]`, and the next call goes on from what it
stored.

- `searchNodes`, `replaceNodes`, `countVisible`: the three loops, each with its time checks.
- `pumpSearch`, `highlightWord`: one call, and the state that the first one starts from.
- `pumpUntilDone`: the calls until the search is no longer in progress.
-/

namespace ChromiumIos

open Lib

namespace FindInPage

structure Replacement where
  oldNode : Nat
  newNodes : List Dom
deriving DecidableEq, Repr

/-- The object `__gCrWeb['findInPage']` and the documents. A span is its position among the elements
of the class, and `checks` counts the calls of `overTime`. -/
structure State where
  documents : Dom
  node : Option Node
  stack : List Node
  replacements : List Replacement
  replacementsIndex : Nat
  replacementNewNodesIndex : Nat
  spans : List Nat
  visibleFound : Nat
  visibleIndex : Nat
  index : Int
  searchInProgress : Bool
  checks : Nat
deriving DecidableEq, Repr

/-- What the search asks of the browser. -/
structure Browser where
  regex : Regex
  /-- `isVisible` of a span of the documents. -/
  isVisible : Dom → Nat → Bool
  /-- The scaled coordinates of a span of the documents, as text. -/
  coordinates : Dom → Nat → String
  /-- The answers to the successive calls of `overTime`. -/
  overTime : Nat → Bool

/-- The browser where there is always time. -/
def Browser.unhurried (browser : Browser) : Browser := { browser with overTime := fun _ => false }

def maxVisibleElements : Nat := 100

def ignoreNodeNames : List String := ["SCRIPT", "STYLE", "EMBED", "OBJECT"]

namespace State

variable (browser : Browser) (s : State)

/-- A call of `overTime`. -/
def check : State := { s with checks := s.checks + 1 }

/-! ## Going through the nodes -/

/-- A child that goes on the stack. -/
def reasonable : Node → Bool
  | .leaf _ => true
  | .node element _ => element.nodeType = 1 && element.nodeName ∉ ignoreNodeNames

/-- The reasonable children, the first one on top. -/
def pushed : Node → List Node
  | .leaf _ => []
  | .node _ children => children.trees.filter reasonable

/-- What is recorded for a node. -/
def recorded (regex : Regex) : Node → List Replacement
  | .leaf text =>
    match text.identity with
    | none => []
    | some oldNode =>
      if newNodes regex text.data = [] then [] else [⟨oldNode, newNodes regex text.data⟩]
  | .node _ _ => []

/-- What is done with a node before the time is checked. -/
def lookAt (node : Node) : State :=
  { s with
    stack := pushed node ++ s.stack
    replacements := s.replacements ++ recorded browser.regex node }

/-- The nodes that are still looked at, with all that is below them. -/
def remaining : Nat := ((s.node.toList ++ s.stack).map Forest.Tree.size).sum

/-- The first loop, and whether its time is over. -/
def searchNodes (browser : Browser) : Nat → State → Bool × State
  | 0, s => (true, s)
  | fuel + 1, s =>
    match s.node with
    | none => (false, s)
    | some node =>
      let s := s.lookAt browser node
      if browser.overTime s.checks then (true, s.check)
      else
        match s.stack with
        | [] => searchNodes browser fuel { s.check with node := none }
        | top :: stack => searchNodes browser fuel { s.check with node := some top, stack := stack }

/-! ## Replacing -/

/-- The new nodes are inserted before the old one. The index where the time is over is returned. -/
def insertNodes (browser : Browser) (oldNode : Nat) : List Dom → Nat → State → Option Nat × State
  | [], _, s => (none, s)
  | new :: rest, rNodesIndex, s =>
    if browser.overTime s.checks then (some rNodesIndex, s.check)
    else
      insertNodes browser oldNode rest (rNodesIndex + 1)
        { s.check with documents := insertBefore new oldNode s.documents }

/-- The second loop, and whether its time is over. -/
def replaceNodes (browser : Browser) : List Replacement → Nat → State → Bool × State
  | [], rIndex, s => (false, { s with replacementsIndex := rIndex })
  | replacement :: rest, rIndex, s =>
    if hasParent s.documents replacement.oldNode = false then
      replaceNodes browser rest (rIndex + 1) s
    else
      match insertNodes browser replacement.oldNode
          (replacement.newNodes.drop s.replacementNewNodesIndex) s.replacementNewNodesIndex s with
      | (some rNodesIndex, s) =>
        (true, { s with replacementsIndex := rIndex, replacementNewNodesIndex := rNodesIndex })
      | (none, s) =>
        replaceNodes browser rest (rIndex + 1)
          { s with
            documents := removeChild replacement.oldNode s.documents
            replacementNewNodesIndex := 0 }

/-! ## Counting -/

/-- The elements of the class. -/
def spanElements (documents : Dom) : List (Element × Dom) := documents.select (·.findClass)

/-- `getAllElementsByClassName`. -/
def getAllElementsByClassName (documents : Dom) : List Nat :=
  List.range (spanElements documents).length

/-- `visibleIndex` of a span is set. -/
def setVisibleIndex (elem value : Nat) (documents : Dom) : Dom :=
  documents.modify (·.findClass) (fun element => { element with visibleIndex := some value }) elem

/-- The third loop over the spans from an index on, and whether its time is over. -/
def countVisible (browser : Browser) : List Nat → Nat → State → Bool × State
  | [], _, s => (false, s)
  | elem :: rest, index, s =>
    if browser.overTime s.checks then (true, { s.check with visibleIndex := index })
    else if s.visibleFound > maxVisibleElements then
      countVisible browser rest (index + 1)
        { s.check with documents := setVisibleIndex elem maxVisibleElements s.documents }
    else if browser.isVisible s.documents elem then
      countVisible browser rest (index + 1)
        { s.check with
          visibleFound := s.visibleFound + 1
          documents := setVisibleIndex elem (s.visibleFound + 1) s.documents }
    else countVisible browser rest (index + 1) s.check

/-! ## The answer -/

def NO_RESULTS : String := "[0,[0,0,0]]"

def incrementIndex : State :=
  if s.index ≥ (s.spans.length : Int) - 1 then { s with index := 0 }
  else { s with index := s.index + 1 }

def getCurrentSpan : Option Nat := if 0 ≤ s.index then s.spans[s.index.toNat]? else none

/-- The loop of `goNext`, and whether it found a visible span. -/
def nextVisible (browser : Browser) (oldIndex : Int) : Nat → State → Bool × State
  | 0, s => (false, s)
  | fuel + 1, s =>
    if s.getCurrentSpan.any (browser.isVisible s.documents) then (true, s)
    else if oldIndex = s.index then (false, s)
    else if s.incrementIndex.index = 0 ∧ oldIndex < 0 then (false, s.incrementIndex)
    else nextVisible browser oldIndex fuel s.incrementIndex

/-- `findScrollDimensions` for the current span. -/
def findScrollDimensions : String :=
  match s.getCurrentSpan with
  | none => ""
  | some elem =>
    let visibleIndex := (spanElements s.documents)[elem]?.bind (·.1.visibleIndex)
    "[" ++ visibleIndex.elim "null" toString ++ "," ++ browser.coordinates s.documents elem ++ "]"

/-- `goNext`, with the empty text for nothing. One round over the spans is enough. -/
def goNext : String × State :=
  if s.spans.length = 0 then ("", s)
  else
    match nextVisible browser s.index (s.spans.length + 1) s.incrementIndex with
    | (true, s) => (s.findScrollDimensions browser, s)
    | (false, s) => ("", s)

/-- What is done when the third loop is through. -/
def finish : String × State :=
  let (pos, s) := { s with searchInProgress := false }.goNext browser
  if pos = "" then (NO_RESULTS, s) else ("[" ++ toString s.visibleFound ++ "," ++ pos ++ "]", s)

/-! ## One call after another -/

/-- `pumpSearch`: the answer and what is stored. -/
def pumpSearch : String × State :=
  if s.searchInProgress = false then (NO_RESULTS, s)
  else
    match searchNodes browser (s.remaining + 1) s with
    | (true, s) => ("[false]", s)
    | (false, s) =>
      match replaceNodes browser (s.replacements.drop s.replacementsIndex) s.replacementsIndex
          s with
      | (true, s) => ("[false]", s)
      | (false, s) =>
        let s := { s with spans := getAllElementsByClassName s.documents }
        match countVisible browser (s.spans.drop s.visibleIndex) s.visibleIndex s with
        | (true, s) => ("[false]", s)
        | (false, s) => s.finish browser

/-- `highlightWord` up to its call of `pumpSearch`, for a text that is not empty. An earlier search
is cleared. -/
def highlightWord (page : Page) : State where
  documents := page.nodes
  node := some (.node page.body page.content)
  stack := page.frameDocs.map fun doc => .node doc.1 doc.2
  replacements := []
  replacementsIndex := 0
  replacementNewNodesIndex := 0
  spans := []
  visibleFound := 0
  visibleIndex := 0
  index := -1
  searchInProgress := true
  checks := 0

/-- The calls of `pumpSearch` until the search is no longer in progress, at most `n`. -/
def pumpUntilDone (browser : Browser) : Nat → State → Option (String × State)
  | 0, _ => none
  | n + 1, s =>
    if (s.pumpSearch browser).2.searchInProgress then
      pumpUntilDone browser n (s.pumpSearch browser).2
    else some (s.pumpSearch browser)

end State

end FindInPage

end ChromiumIos
