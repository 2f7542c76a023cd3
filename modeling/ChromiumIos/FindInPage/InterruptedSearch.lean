import ChromiumIos.FindInPage.PumpSearch
import Mathlib.Algebra.Order.BigOperators.Group.List
import Mathlib.Algebra.Order.Group.Nat

/-!
# An interrupted search finds the same

A search that is cut into calls ends like one that is never over time.

- `collect`: what is recorded for a node and all that is below it. A node that is looked at again
  is recorded again, and `newNodesFor` only reads the first entry.
- `finishReplacing`, `finishCounting`: what the second and the third loop still do. They do not
  change when the loop is left and taken up again.
- `concluded`: what the search comes to from a state. Every call keeps it.
-/

namespace ChromiumIos

open Lib List

namespace FindInPage

namespace State

/-! ## The replacements on record -/

/-- What replaces a text node: the first entry for it. -/
def newNodesFor : List Replacement → Nat → Option (List Dom)
  | [], _ => none
  | replacement :: rest, oldNode =>
    if oldNode = replacement.oldNode then some replacement.newNodes else newNodesFor rest oldNode

theorem newNodesFor_append (before after : List Replacement) (oldNode : Nat) :
    newNodesFor (before ++ after) oldNode =
      (newNodesFor before oldNode).or (newNodesFor after oldNode) := by
  induction before with
  | nil => rfl
  | cons replacement before ih =>
    rw [cons_append, newNodesFor, newNodesFor]
    split
    · rfl
    · exact ih

/-- What is on record again changes nothing. -/
theorem newNodesFor_again (before own below after : List Replacement) :
    newNodesFor (before ++ own ++ (own ++ below ++ (below ++ after))) =
      newNodesFor (before ++ (own ++ below ++ after)) := by
  funext oldNode
  simp only [newNodesFor_append]
  cases newNodesFor before oldNode <;> cases newNodesFor own oldNode <;>
    cases newNodesFor below oldNode <;> rfl

/-- The nodes that replace are those that the search made. -/
def AllMade (replacements : List Replacement) : Prop :=
  ∀ replacement ∈ replacements, ∀ new ∈ replacement.newNodes, Made new

variable (regex : Regex)

theorem allMade_recorded (node : Node) : AllMade (recorded regex node) := by
  cases node with
  | node element children => exact nofun
  | leaf text =>
    intro replacement hmem
    rw [recorded] at hmem
    split at hmem
    · cases hmem
    · split at hmem
      · cases hmem
      · rw [mem_singleton.1 hmem]
        exact fun new hnew => made_newNodes hnew

/-! ## What is still found -/

/-- What is recorded for the nodes of a forest that are looked at. -/
def collectBelow (regex : Regex) : Dom → List Replacement
  | .nil => []
  | .leaf text next => recorded regex (.leaf text) ++ collectBelow regex next
  | .node element children next =>
    (if reasonable (.node element children) then collectBelow regex children else []) ++
      collectBelow regex next

/-- What is recorded below a node. -/
def below (regex : Regex) : Node → List Replacement
  | .leaf _ => []
  | .node _ children => collectBelow regex children

/-- What is recorded for a node and below it. -/
def collect (regex : Regex) (node : Node) : List Replacement :=
  recorded regex node ++ below regex node

theorem flatMap_collect_trees (dom : Dom) :
    (dom.trees.filter reasonable).flatMap (collect regex) = collectBelow regex dom := by
  induction dom with
  | nil => rfl
  | leaf text next ih =>
    rw [Forest.trees, filter_cons_of_pos rfl, flatMap_cons, ih, collect, below,
      append_nil, collectBelow]
  | node element children next _ ih =>
    rw [Forest.trees, collectBelow]
    by_cases h : reasonable (.node element children) = true
    · rw [filter_cons_of_pos h, flatMap_cons, ih, if_pos h]
      rfl
    · rw [filter_cons_of_neg h, ih, if_neg h, nil_append]

theorem flatMap_collect_pushed (node : Node) :
    (pushed node).flatMap (collect regex) = below regex node := by
  cases node with
  | leaf text => rfl
  | node element children => exact flatMap_collect_trees regex children

/-- The children take less to look at than their parent. -/
theorem sum_size_pushed (node : Node) :
    ((pushed node).map Forest.Tree.size).sum < node.size := by
  cases node with
  | leaf text => exact Nat.zero_lt_one
  | node element children =>
    have hle : ((pushed (.node element children)).map Forest.Tree.size).sum ≤
        (children.trees.map Forest.Tree.size).sum :=
      (filter_sublist.map Forest.Tree.size).sum_le_sum fun _ _ => Nat.zero_le _
    rw [Forest.sum_size_trees] at hle
    exact Nat.lt_succ_of_le hle

/-- What the first loop still records. -/
def todo (regex : Regex) (s : State) : List Replacement :=
  (s.node.toList ++ s.stack).flatMap (collect regex)

/-! ## The first loop -/

/-- What a call keeps while it goes through the nodes. -/
structure Searched (regex : Regex) (s s' : State) : Prop where
  frame : s' =
    { s with
      node := s'.node
      stack := s'.stack
      replacements := s'.replacements
      checks := s'.checks }
  found : newNodesFor (s'.replacements ++ s'.todo regex) =
    newNodesFor (s.replacements ++ s.todo regex)
  made : AllMade s.replacements → AllMade s'.replacements
  unlooked : s.node = none → s' = s
  emptied : (s.node = none → s.stack = []) → s'.node = none → s'.stack = []

variable {browser : Browser} {s s' : State}

theorem Searched.refl (s : State) : Searched regex s s where
  frame := rfl
  found := rfl
  made := id
  unlooked _ := rfl
  emptied := id

theorem todo_of_node {regex : Regex} {node : Node} (hnode : s.node = some node) :
    s.todo regex =
      recorded regex node ++ below regex node ++ s.stack.flatMap (collect regex) := by
  rw [todo, hnode]
  rfl

theorem allMade_lookAt (node : Node) (h : AllMade s.replacements) :
    AllMade (s.lookAt browser node).replacements := by
  intro replacement hmem
  rcases mem_append.1 hmem with hmem | hmem
  · exact h replacement hmem
  · exact allMade_recorded _ node replacement hmem

variable {node : Node}

/-- The time is over: the node is looked at again. -/
theorem searched_again (hnode : s.node = some node) :
    Searched browser.regex s (s.lookAt browser node).check where
  frame := rfl
  found := by
    have hagain : (s.lookAt browser node).check.todo browser.regex =
        recorded browser.regex node ++ below browser.regex node ++
          (below browser.regex node ++ s.stack.flatMap (collect browser.regex)) := by
      rw [todo_of_node (s := (s.lookAt browser node).check) hnode]
      exact congrArg _
        (flatMap_append.trans (congrArg (· ++ _) (flatMap_collect_pushed _ node)))
    rw [hagain, todo_of_node hnode]
    exact newNodesFor_again s.replacements _ _ _
  made := allMade_lookAt node
  unlooked h := nomatch h.symm.trans hnode
  emptied _ h := nomatch h.symm.trans hnode

/-- There is time: the next node is taken from the stack. -/
theorem searched_next {next : Option Node} {stack : List Node}
    (hnode : s.node = some node) (hnext : next.toList ++ stack = pushed node ++ s.stack)
    (hempty : next = none → stack = []) :
    Searched browser.regex s
      { (s.lookAt browser node).check with node := next, stack := stack } where
  frame := rfl
  found := by
    rw [todo_of_node hnode, todo, hnext, flatMap_append, flatMap_collect_pushed]
    show newNodesFor (s.replacements ++ recorded browser.regex node ++ _) = _
    simp only [append_assoc]
  made := allMade_lookAt node
  unlooked h := nomatch h.symm.trans hnode
  emptied _ := hempty

theorem Searched.trans {regex : Regex} {s'' : State} (h : Searched regex s s')
    (h' : Searched regex s' s'') : Searched regex s s'' where
  frame := by
    have hframe := h'.frame
    rw [h.frame] at hframe
    exact hframe
  found := h'.found.trans h.found
  made := h'.made ∘ h.made
  unlooked hnode := by
    obtain rfl := h.unlooked hnode
    exact h'.unlooked hnode
  emptied hempty := h'.emptied (h.emptied hempty)

theorem searchNodes_over (fuel : Nat) (hnode : s.node = some node)
    (hover : browser.overTime s.checks = true) :
    searchNodes browser (fuel + 1) s = (true, (s.lookAt browser node).check) := by
  rw [searchNodes, hnode]
  exact if_pos hover

theorem searchNodes_next (fuel : Nat) (hnode : s.node = some node)
    (hover : ¬ browser.overTime s.checks = true) :
    ∃ next stack, next.toList ++ stack = pushed node ++ s.stack ∧ (next = none → stack = []) ∧
      searchNodes browser (fuel + 1) s =
        searchNodes browser fuel
          { (s.lookAt browser node).check with node := next, stack := stack } := by
  have htime : ¬ browser.overTime (s.lookAt browser node).checks = true := hover
  rw [searchNodes, hnode]
  dsimp only
  rw [if_neg htime]
  cases hstack : (s.lookAt browser node).stack with
  | nil => exact ⟨none, _, rfl, fun _ => hstack, rfl⟩
  | cons top stack =>
    exact ⟨some top, stack, hstack.symm, fun hnone => absurd hnone (Option.some_ne_none top), rfl⟩

/-- Every node that is taken leaves less to look at. -/
theorem remaining_next {next : Option Node} {stack : List Node}
    (hnode : s.node = some node) (hnext : next.toList ++ stack = pushed node ++ s.stack) :
    { (s.lookAt browser node).check with node := next, stack := stack }.remaining <
      s.remaining := by
  have hlt := sum_size_pushed node
  rw [remaining, remaining, hnext, hnode]
  simp only [Option.toList_some, map_append, sum_append, map_cons, map_nil,
    sum_cons, sum_nil]
  omega

/-- **The first loop**: what it comes to stays. -/
theorem searched_searchNodes (browser : Browser) {fuel : Nat} (hfuel : s.remaining < fuel) :
    Searched browser.regex s (searchNodes browser fuel s).2 ∧
      ((searchNodes browser fuel s).1 = false → (searchNodes browser fuel s).2.node = none) ∧
      ((∀ n, browser.overTime n = false) → (searchNodes browser fuel s).1 = false) := by
  induction fuel generalizing s with
  | zero => exact absurd hfuel (Nat.not_lt_zero _)
  | succ fuel ih =>
    cases hnode : s.node with
    | none =>
      have hend : searchNodes browser (fuel + 1) s = (false, s) := by rw [searchNodes, hnode]
      rw [hend]
      exact ⟨.refl _ s, fun _ => hnode, fun _ => rfl⟩
    | some node =>
      by_cases hover : browser.overTime s.checks = true
      · rw [searchNodes_over fuel hnode hover]
        exact ⟨searched_again hnode, nofun, fun h => nomatch (h _).symm.trans hover⟩
      · obtain ⟨next, stack, hnext, hempty, heq⟩ := searchNodes_next fuel hnode hover
        rw [heq]
        have hlt : { (s.lookAt browser node).check with node := next, stack := stack }.remaining <
            s.remaining := remaining_next hnode hnext
        obtain ⟨hsearched, hdone, htime⟩ := ih (Nat.lt_of_lt_of_le hlt (Nat.le_of_lt_succ hfuel))
        exact ⟨(searched_next hnode hnext hempty).trans hsearched, hdone, htime⟩

/-! ## The second loop -/

/-- What the second loop still does. -/
def finishReplacing : List Replacement → Nat → Dom → Dom
  | [], _, documents => documents
  | replacement :: rest, rNodesIndex, documents =>
    if hasParent documents replacement.oldNode = false then
      finishReplacing rest rNodesIndex documents
    else
      finishReplacing rest 0
        (removeChild replacement.oldNode
          ((replacement.newNodes.drop rNodesIndex).foldl
            (fun dom node => insertBefore node replacement.oldNode dom) documents))

/-- From the start, the text nodes are replaced by the first entry for each. -/
theorem finishReplacing_eq {replacements : List Replacement} (h : AllMade replacements)
    (documents : Dom) :
    finishReplacing replacements 0 documents =
      replaceText (newNodesFor replacements) documents := by
  induction replacements generalizing documents with
  | nil => exact (replaceText_eq_self fun _ hnew => absurd rfl hnew).symm
  | cons replacement rest ih =>
    have hrest : AllMade rest := fun other hmem => h other (mem_cons_of_mem _ hmem)
    have hmade := h replacement mem_cons_self
    -- the first entry, and then the others
    have hboth : replaceText (newNodesFor rest)
          (replaceText
            (fun l => if l = replacement.oldNode then some replacement.newNodes else none)
            documents) =
        replaceText (newNodesFor (replacement :: rest)) documents := by
      rw [replaceText_replaceText]
      · refine congrArg (replaceText · documents) (funext fun oldNode => ?_)
        rw [newNodesFor]
        split <;> rfl
      · intro oldNode new hnew
        split at hnew
        · obtain rfl := Option.some.inj hnew
          exact hmade
        · cases hnew
    rw [finishReplacing]
    by_cases hparent : hasParent documents replacement.oldNode = false
    · rw [if_pos hparent, ih hrest, ← hboth]
      refine congrArg _ (replaceText_eq_self fun oldNode hnew => ?_).symm
      by_cases heq : oldNode = replacement.oldNode
      · rw [heq, hparent]
      · exact absurd (if_neg heq) hnew
    · rw [if_neg hparent, drop_zero, removeChild_foldl_insertBefore hmade, ih hrest, hboth]

/-- The old node stays where nodes are inserted before it. -/
theorem hasParent_insertBefore (new : Dom) (oldNode : Nat) {documents : Dom}
    (h : hasParent documents oldNode = true) :
    hasParent (insertBefore new oldNode documents) oldNode = true := by
  rw [hasParent, any_eq_true] at h ⊢
  obtain ⟨node, hmem, hold⟩ := h
  refine ⟨node, ?_, hold⟩
  rw [insertBefore, Forest.mem_leaves_expand]
  refine ⟨node, hmem, ?_⟩
  rw [if_pos (of_decide_eq_true hold), Forest.leaves_append]
  exact mem_append_right _ mem_cons_self

/-- What inserting does: all of it, or what was done when the time was over. -/
theorem insertNodes_cases (browser : Browser) (s : State) (oldNode : Nat)
    (newNodes : List Dom) (rNodesIndex : Nat) :
    (∃ checks, insertNodes browser oldNode newNodes rNodesIndex s =
      (none,
        { s with
          documents := newNodes.foldl (fun dom node => insertBefore node oldNode dom) s.documents
          checks := checks })) ∨
    (∃ done rest checks, newNodes = done ++ rest ∧
      insertNodes browser oldNode newNodes rNodesIndex s =
        (some (rNodesIndex + done.length),
          { s with
            documents := done.foldl (fun dom node => insertBefore node oldNode dom) s.documents
            checks := checks }) ∧
      ¬ ∀ n, browser.overTime n = false) := by
  induction newNodes generalizing rNodesIndex s with
  | nil => exact .inl ⟨s.checks, rfl⟩
  | cons new newNodes ih =>
    rw [insertNodes]
    by_cases hover : browser.overTime s.checks = true
    · rw [if_pos hover]
      exact .inr ⟨[], new :: newNodes, s.checks + 1, rfl, rfl,
        fun h => nomatch (h _).symm.trans hover⟩
    · rw [if_neg hover]
      rcases ih (rNodesIndex + 1)
        (s := { s.check with documents := insertBefore new oldNode s.documents }) with
        ⟨checks, heq⟩ | ⟨done, rest, checks, hnew, heq, htime⟩
      · exact .inl ⟨checks, heq⟩
      · refine .inr ⟨new :: done, rest, checks, congrArg (new :: ·) hnew, ?_, htime⟩
        rw [length_cons, ← Nat.add_assoc, Nat.add_right_comm]
        exact heq

theorem hasParent_foldl (done : List Dom) {oldNode : Nat} {documents : Dom}
    (h : hasParent documents oldNode = true) :
    hasParent (done.foldl (fun dom node => insertBefore node oldNode dom) documents) oldNode =
      true := by
  induction done generalizing documents with
  | nil => exact h
  | cons new done ih => exact ih (hasParent_insertBefore new oldNode h)

/-- What the second loop keeps, and what it still comes to. -/
structure Replaced (rest : List Replacement) (s s' : State) : Prop where
  frame : s' =
    { s with
      documents := s'.documents
      replacementsIndex := s'.replacementsIndex
      replacementNewNodesIndex := s'.replacementNewNodesIndex
      checks := s'.checks }
  ends : finishReplacing (s'.replacements.drop s'.replacementsIndex) s'.replacementNewNodesIndex
      s'.documents = finishReplacing rest s.replacementNewNodesIndex s.documents

theorem drop_succ_of_cons {α : Type*} {l : List α} {i : Nat} {a : α} {rest : List α}
    (h : a :: rest = l.drop i) : rest = l.drop (i + 1) := by
  rw [← drop_drop, ← h, drop_one, tail_cons]

/-- **The second loop**: it ends where it would have ended. -/
theorem replaceNodes_spec (browser : Browser) (s : State) {rest : List Replacement} {rIndex : Nat}
    (hrest : rest = s.replacements.drop rIndex) :
    Replaced rest s (replaceNodes browser rest rIndex s).2 ∧
      ((replaceNodes browser rest rIndex s).1 = false →
        (replaceNodes browser rest rIndex s).2.replacements.drop
          (replaceNodes browser rest rIndex s).2.replacementsIndex = []) ∧
      ((∀ n, browser.overTime n = false) → (replaceNodes browser rest rIndex s).1 = false) := by
  induction rest generalizing rIndex s with
  | nil => exact ⟨⟨rfl, by rw [replaceNodes, ← hrest]⟩, fun _ => hrest.symm, fun _ => rfl⟩
  | cons replacement rest ih =>
    have htail := drop_succ_of_cons hrest
    rw [replaceNodes]
    by_cases hparent : hasParent s.documents replacement.oldNode = false
    · rw [if_pos hparent]
      obtain ⟨⟨hframe, hends⟩, hdone, htime⟩ := ih s htail
      exact ⟨⟨hframe, by rw [hends, finishReplacing, if_pos hparent]⟩, hdone, htime⟩
    · rw [if_neg hparent]
      rcases insertNodes_cases browser s replacement.oldNode
        (replacement.newNodes.drop s.replacementNewNodesIndex) s.replacementNewNodesIndex with
        ⟨checks, heq⟩ | ⟨done, more, checks, hnew, heq, hover⟩
      · -- all nodes are inserted, and the old one goes
        rw [heq]
        obtain ⟨⟨hframe, hends⟩, hdone, htime⟩ := ih
          (s :=
            { s with
              documents := removeChild replacement.oldNode
                ((replacement.newNodes.drop s.replacementNewNodesIndex).foldl
                  (fun dom node => insertBefore node replacement.oldNode dom) s.documents)
              replacementNewNodesIndex := 0
              checks := checks }) htail
        refine ⟨⟨hframe, hends.trans ?_⟩, hdone, htime⟩
        rw [finishReplacing, if_neg hparent]
      · -- the time is over between two nodes
        rw [heq]
        refine ⟨⟨rfl, ?_⟩, nofun, fun h => absurd h hover⟩
        have hold := hasParent_foldl done (Bool.eq_true_of_not_eq_false hparent)
        show finishReplacing (s.replacements.drop rIndex) _ _ = _
        rw [← hrest, finishReplacing, finishReplacing, if_neg hparent,
          if_neg (fun hnot => Bool.false_ne_true (hnot.symm.trans hold)), ← drop_drop, hnew,
          drop_left, foldl_append]

/-! ## The third loop -/

/-- What the third loop still does to the documents and to `visibleFound`. -/
def finishCounting (isVisible : Dom → Nat → Bool) : List Nat → Dom → Nat → Dom × Nat
  | [], documents, visibleFound => (documents, visibleFound)
  | elem :: rest, documents, visibleFound =>
    if visibleFound > maxVisibleElements then
      finishCounting isVisible rest (setVisibleIndex elem maxVisibleElements documents) visibleFound
    else if isVisible documents elem then
      finishCounting isVisible rest (setVisibleIndex elem (visibleFound + 1) documents)
        (visibleFound + 1)
    else finishCounting isVisible rest documents visibleFound

theorem getAllElementsByClassName_setVisibleIndex (elem value : Nat) (documents : Dom) :
    getAllElementsByClassName (setVisibleIndex elem value documents) =
      getAllElementsByClassName documents := by
  rw [getAllElementsByClassName, getAllElementsByClassName, spanElements, spanElements,
    setVisibleIndex, Forest.length_select_modify]
  exact fun _ => rfl

/-- What the third loop keeps. -/
structure Counted (s s' : State) : Prop where
  frame : s' =
    { s with
      documents := s'.documents
      visibleFound := s'.visibleFound
      visibleIndex := s'.visibleIndex
      checks := s'.checks }
  spans : getAllElementsByClassName s'.documents = getAllElementsByClassName s.documents

/-- **The third loop**: it ends where it would have ended. -/
theorem countVisible_spec (browser : Browser) (s : State) {rest : List Nat} {index : Nat}
    (hrest : rest = s.spans.drop index) :
    Counted s (countVisible browser rest index s).2 ∧
      (if (countVisible browser rest index s).1 then
        finishCounting browser.isVisible
          ((countVisible browser rest index s).2.spans.drop
            (countVisible browser rest index s).2.visibleIndex)
          (countVisible browser rest index s).2.documents
          (countVisible browser rest index s).2.visibleFound
      else
        ((countVisible browser rest index s).2.documents,
          (countVisible browser rest index s).2.visibleFound)) =
        finishCounting browser.isVisible rest s.documents s.visibleFound ∧
      ((∀ n, browser.overTime n = false) → (countVisible browser rest index s).1 = false) := by
  induction rest generalizing index s with
  | nil => exact ⟨⟨rfl, rfl⟩, rfl, fun _ => rfl⟩
  | cons elem rest ih =>
    have htail := drop_succ_of_cons hrest
    rw [countVisible, finishCounting]
    by_cases hover : browser.overTime s.checks = true
    · rw [if_pos hover]
      refine ⟨⟨rfl, rfl⟩, ?_, fun h => nomatch (h _).symm.trans hover⟩
      rw [if_pos rfl, ← finishCounting, hrest]
      rfl
    · rw [if_neg hover]
      by_cases hmax : s.visibleFound > maxVisibleElements
      · rw [if_pos hmax, if_pos hmax]
        obtain ⟨⟨hframe, hspans⟩, hends, htime⟩ := ih
          (s :=
            { s.check with
              documents := setVisibleIndex elem maxVisibleElements s.documents }) htail
        exact ⟨⟨hframe, hspans.trans (getAllElementsByClassName_setVisibleIndex _ _ _)⟩, hends,
          htime⟩
      · rw [if_neg hmax, if_neg hmax]
        by_cases hvisible : browser.isVisible s.documents elem = true
        · rw [if_pos hvisible, if_pos hvisible]
          obtain ⟨⟨hframe, hspans⟩, hends, htime⟩ := ih
            (s :=
              { s.check with
                visibleFound := s.visibleFound + 1
                documents := setVisibleIndex elem (s.visibleFound + 1) s.documents }) htail
          exact ⟨⟨hframe, hspans.trans (getAllElementsByClassName_setVisibleIndex _ _ _)⟩, hends,
            htime⟩
        · rw [if_neg hvisible, if_neg hvisible]
          obtain ⟨⟨hframe, hspans⟩, hends, htime⟩ := ih (s := s.check) htail
          exact ⟨⟨hframe, hspans⟩, hends, htime⟩

/-! ## What the search comes to -/

/-- What is kept between the calls. -/
structure Inv (s : State) : Prop where
  emptied : s.node = none → s.stack = []
  made : AllMade s.replacements
  /-- Nothing is replaced before all nodes have been looked at. -/
  unreplaced : s.node ≠ none → s.replacementsIndex = 0 ∧ s.replacementNewNodesIndex = 0

theorem inv_highlightWord (page : Page) : Inv (highlightWord page) where
  emptied := nofun
  made := nofun
  unreplaced _ := ⟨rfl, rfl⟩

/-- The documents when the second loop is through. -/
def replaced (regex : Regex) (s : State) : Dom :=
  finishReplacing ((s.replacements ++ s.todo regex).drop s.replacementsIndex)
    s.replacementNewNodesIndex s.documents

/-- The documents and `visibleFound` when the third loop is through. -/
def counted (browser : Browser) (s : State) : Dom × Nat :=
  finishCounting browser.isVisible
    ((getAllElementsByClassName (s.replaced browser.regex)).drop s.visibleIndex)
    (s.replaced browser.regex) s.visibleFound

/-- What a search comes to before its answer is made. -/
def concluded (browser : Browser) (s : State) : State :=
  { s with
    documents := (s.counted browser).1
    spans := getAllElementsByClassName (s.replaced browser.regex)
    visibleFound := (s.counted browser).2 }

/-- Two states agree on what a search is for. -/
structure Agree (s t : State) : Prop where
  documents : s.documents = t.documents
  spans : s.spans = t.spans
  visibleFound : s.visibleFound = t.visibleFound
  index : s.index = t.index

theorem Agree.trans {s t r : State} (h : Agree s t) (h' : Agree t r) : Agree s r :=
  ⟨h.documents.trans h'.documents, h.spans.trans h'.spans, h.visibleFound.trans h'.visibleFound,
    h.index.trans h'.index⟩

theorem Agree.symm {s t : State} (h : Agree s t) : Agree t s :=
  ⟨h.documents.symm, h.spans.symm, h.visibleFound.symm, h.index.symm⟩

/-! ## The answer -/

theorem Agree.incrementIndex {t : State} (h : Agree s t) :
    Agree s.incrementIndex t.incrementIndex := by
  have hcond : s.index ≥ (s.spans.length : Int) - 1 ↔ t.index ≥ (t.spans.length : Int) - 1 := by
    rw [h.index, h.spans]
  rw [State.incrementIndex, State.incrementIndex]
  by_cases hlast : t.index ≥ (t.spans.length : Int) - 1
  · rw [if_pos hlast, if_pos (hcond.2 hlast)]
    exact ⟨h.documents, h.spans, h.visibleFound, rfl⟩
  · rw [if_neg hlast, if_neg (hlast ∘ hcond.1)]
    exact ⟨h.documents, h.spans, h.visibleFound, congrArg (· + 1) h.index⟩

theorem Agree.getCurrentSpan {t : State} (h : Agree s t) : s.getCurrentSpan = t.getCurrentSpan := by
  rw [State.getCurrentSpan, State.getCurrentSpan, h.index, h.spans]

theorem Agree.findScrollDimensions {t : State} (h : Agree s t) :
    s.findScrollDimensions browser = t.findScrollDimensions browser.unhurried := by
  rw [State.findScrollDimensions, State.findScrollDimensions, h.getCurrentSpan, h.documents]
  rfl

theorem Agree.nextVisible (browser : Browser) {t : State} (h : Agree s t) (oldIndex : Int)
    (fuel : Nat) :
    (nextVisible browser oldIndex fuel s).1 = (nextVisible browser.unhurried oldIndex fuel t).1 ∧
      Agree (nextVisible browser oldIndex fuel s).2
        (nextVisible browser.unhurried oldIndex fuel t).2 := by
  induction fuel generalizing s t with
  | zero => exact ⟨rfl, h⟩
  | succ fuel ih =>
    have hvisible : s.getCurrentSpan.any (browser.isVisible s.documents) =
        t.getCurrentSpan.any (browser.unhurried.isVisible t.documents) := by
      rw [h.getCurrentSpan, h.documents]
      rfl
    rw [State.nextVisible, State.nextVisible, hvisible, h.index, h.incrementIndex.index]
    by_cases hfound : t.getCurrentSpan.any (browser.unhurried.isVisible t.documents) = true
    · rw [if_pos hfound, if_pos hfound]
      exact ⟨rfl, h⟩
    · rw [if_neg hfound, if_neg hfound]
      by_cases hold : oldIndex = t.index
      · rw [if_pos hold, if_pos hold]
        exact ⟨rfl, h⟩
      · rw [if_neg hold, if_neg hold]
        by_cases hround : t.incrementIndex.index = 0 ∧ oldIndex < 0
        · rw [if_pos hround, if_pos hround]
          exact ⟨rfl, h.incrementIndex⟩
        · rw [if_neg hround, if_neg hround]
          exact ih h.incrementIndex

theorem Agree.goNext (browser : Browser) {t : State} (h : Agree s t) :
    (s.goNext browser).1 = (t.goNext browser.unhurried).1 ∧
      Agree (s.goNext browser).2 (t.goNext browser.unhurried).2 := by
  rw [State.goNext, State.goNext, h.spans, h.index]
  by_cases hspans : t.spans.length = 0
  · rw [if_pos hspans, if_pos hspans]
    exact ⟨rfl, h⟩
  · rw [if_neg hspans, if_neg hspans]
    obtain ⟨hfound, hagree⟩ := h.incrementIndex.nextVisible browser t.index
      (t.spans.length + 1)
    generalize State.nextVisible browser t.index (t.spans.length + 1) s.incrementIndex = r at *
    generalize State.nextVisible browser.unhurried t.index (t.spans.length + 1) t.incrementIndex =
      r' at *
    obtain ⟨found, s'⟩ := r
    obtain ⟨found', t'⟩ := r'
    obtain rfl : found = found' := hfound
    cases found with
    | true => exact ⟨hagree.findScrollDimensions, hagree⟩
    | false => exact ⟨rfl, hagree⟩

/-- The answer only depends on what the states agree on. -/
theorem Agree.finish (browser : Browser) {t : State} (h : Agree s t) :
    (s.finish browser).1 = (t.finish browser.unhurried).1 ∧
      Agree (s.finish browser).2 (t.finish browser.unhurried).2 := by
  have hdone : Agree { s with searchInProgress := false } { t with searchInProgress := false } :=
    ⟨h.documents, h.spans, h.visibleFound, h.index⟩
  obtain ⟨hpos, hagree⟩ := hdone.goNext browser
  rw [State.finish, State.finish]
  simp only [hpos, hagree.visibleFound]
  split
  · exact ⟨rfl, hagree⟩
  · exact ⟨rfl, hagree⟩

/-! ## One call -/

theorem incrementIndex_frame (s : State) :
    s.incrementIndex = { s with index := s.incrementIndex.index } := by
  rw [State.incrementIndex]
  split
  · rfl
  · rfl

theorem nextVisible_frame (browser : Browser) (oldIndex : Int) (fuel : Nat) (s : State) :
    (nextVisible browser oldIndex fuel s).2 =
      { s with index := (nextVisible browser oldIndex fuel s).2.index } := by
  induction fuel generalizing s with
  | zero => rfl
  | succ fuel ih =>
    rw [nextVisible]
    split
    · rfl
    · split
      · rfl
      · split
        · exact incrementIndex_frame s
        · refine (ih s.incrementIndex).trans ?_
          rw [incrementIndex_frame s]

/-- Only the current span changes. -/
theorem goNext_frame (browser : Browser) (s : State) :
    (s.goNext browser).2 = { s with index := (s.goNext browser).2.index } := by
  have hnext := nextVisible_frame browser s.index (s.spans.length + 1) s.incrementIndex
  rw [incrementIndex_frame s] at hnext
  rw [State.goNext]
  split
  · rfl
  · rw [incrementIndex_frame s]
    split
    · rename_i heq
      rw [heq] at hnext
      exact hnext
    · rename_i heq
      rw [heq] at hnext
      exact hnext

theorem finish_frame (browser : Browser) (s : State) :
    (s.finish browser).2 =
      { s with searchInProgress := false, index := (s.finish browser).2.index } := by
  have hgo := goNext_frame browser { s with searchInProgress := false }
  rw [State.finish]
  dsimp only
  split
  · exact hgo
  · exact hgo

theorem finish_searchInProgress (browser : Browser) (s : State) :
    (s.finish browser).2.searchInProgress = false := by
  rw [finish_frame]

theorem Agree.concluded (hreplaced : s'.replaced browser.regex = s.replaced browser.regex)
    (hvisibleIndex : s'.visibleIndex = s.visibleIndex)
    (hvisibleFound : s'.visibleFound = s.visibleFound) (hindex : s'.index = s.index) :
    Agree (s'.concluded browser) (s.concluded browser) := by
  have hcounted : s'.counted browser = s.counted browser := by
    rw [counted, counted, hreplaced, hvisibleIndex, hvisibleFound]
  exact ⟨congrArg Prod.fst hcounted, congrArg getAllElementsByClassName hreplaced,
    congrArg Prod.snd hcounted, hindex⟩

theorem allMade_collectBelow (dom : Dom) : AllMade (collectBelow regex dom) := by
  induction dom with
  | nil => exact nofun
  | leaf text next ih =>
    intro replacement hmem
    rcases mem_append.1 hmem with hmem | hmem
    · exact allMade_recorded _ _ replacement hmem
    · exact ih replacement hmem
  | node element children next ihChildren ih =>
    intro replacement hmem
    rcases mem_append.1 hmem with hmem | hmem
    · split at hmem
      · exact ihChildren replacement hmem
      · cases hmem
    · exact ih replacement hmem

theorem allMade_todo (s : State) : AllMade (s.todo regex) := by
  intro replacement hmem
  obtain ⟨node, -, hmem⟩ := mem_flatMap.1 hmem
  rcases mem_append.1 hmem with hmem | hmem
  · exact allMade_recorded _ _ replacement hmem
  · cases node with
    | leaf text => cases hmem
    | node element children => exact allMade_collectBelow _ _ replacement hmem

/-- The first loop changes nothing of what the search comes to. -/
theorem Searched.replaced (h : Searched browser.regex s s') (hinv : Inv s) :
    Inv s' ∧ s'.replaced browser.regex = s.replaced browser.regex := by
  cases hnode : s.node with
  | none =>
    obtain rfl := h.unlooked hnode
    exact ⟨hinv, rfl⟩
  | some node =>
    have hsome : s.node ≠ none := fun hnone => nomatch hnone.symm.trans hnode
    obtain ⟨hindex, hnewIndex⟩ := hinv.unreplaced hsome
    have hindex' : s'.replacementsIndex = 0 :=
      (congrArg State.replacementsIndex h.frame).trans hindex
    have hnewIndex' : s'.replacementNewNodesIndex = 0 :=
      (congrArg State.replacementNewNodesIndex h.frame).trans hnewIndex
    have hmade := h.made hinv.made
    refine ⟨⟨h.emptied hinv.emptied, hmade, fun _ => ⟨hindex', hnewIndex'⟩⟩, ?_⟩
    have hall : ∀ t : State, AllMade t.replacements →
        AllMade (t.replacements ++ t.todo browser.regex) := by
      intro t ht replacement hmem
      rcases mem_append.1 hmem with hmem | hmem
      · exact ht replacement hmem
      · exact allMade_todo _ t replacement hmem
    rw [State.replaced, State.replaced, hindex, hindex', hnewIndex, hnewIndex', drop_zero,
      drop_zero, finishReplacing_eq (hall s' hmade), finishReplacing_eq (hall s hinv.made),
      h.found, show s'.documents = s.documents by rw [h.frame]]

/-- When all nodes have been looked at, nothing is left to record. -/
theorem replaced_of_looked {regex : Regex} (hnode : s.node = none) (hstack : s.stack = []) :
    s.replaced regex =
      finishReplacing (s.replacements.drop s.replacementsIndex) s.replacementNewNodesIndex
        s.documents := by
  have htodo : s.todo regex = [] := by
    rw [todo, hnode, hstack]
    rfl
  rw [replaced, htodo, append_nil]

/-- The third loop changes nothing of what the search comes to: it is left with the rest still to
do, or it is through. -/
theorem countVisible_concluded (browser : Browser) (hnode : s.node = none) (hstack : s.stack = [])
    (hthrough : s.replacements.drop s.replacementsIndex = [])
    (hspans : s.spans = getAllElementsByClassName s.documents) :
    if (countVisible browser (s.spans.drop s.visibleIndex) s.visibleIndex s).1 then
      Agree
        ((countVisible browser (s.spans.drop s.visibleIndex) s.visibleIndex s).2.concluded browser)
        (s.concluded browser)
    else
      Agree (countVisible browser (s.spans.drop s.visibleIndex) s.visibleIndex s).2
        (s.concluded browser) := by
  obtain ⟨⟨hframe, hkept⟩, hends, -⟩ := countVisible_spec browser s rfl
  generalize countVisible browser (s.spans.drop s.visibleIndex) s.visibleIndex s = r at *
  obtain ⟨stopped, t⟩ := r
  dsimp only at hframe hkept hends ⊢
  have hreplaced : s.replaced browser.regex = s.documents := by
    rw [replaced_of_looked hnode hstack, hthrough, finishReplacing]
  have hcounted : s.counted browser =
      finishCounting browser.isVisible (s.spans.drop s.visibleIndex) s.documents
        s.visibleFound := by
    rw [counted, hreplaced, hspans]
  have hindex : t.index = s.index := by rw [hframe]
  have hspans' : t.spans = s.spans := by rw [hframe]
  cases stopped with
  | true =>
    have hreplaced' : t.replaced browser.regex = t.documents := by
      rw [replaced_of_looked ((congrArg State.node hframe).trans hnode)
        ((congrArg State.stack hframe).trans hstack)]
      have hthrough' : t.replacements.drop t.replacementsIndex = [] := by
        rw [hframe]
        exact hthrough
      rw [hthrough', finishReplacing]
    have hcounted' : t.counted browser = s.counted browser := by
      rw [counted, hreplaced', hkept, ← hspans, ← hspans', hcounted]
      exact hends
    refine ⟨congrArg Prod.fst hcounted', ?_, congrArg Prod.snd hcounted', hindex⟩
    show getAllElementsByClassName _ = getAllElementsByClassName _
    rw [hreplaced', hreplaced]
    exact hkept
  | false =>
    have hdone : (t.documents, t.visibleFound) = s.counted browser := hends.trans hcounted.symm
    refine ⟨congrArg Prod.fst hdone, ?_, congrArg Prod.snd hdone, hindex⟩
    show t.spans = getAllElementsByClassName _
    rw [hreplaced, hspans', hspans]

/-- A search that goes on still comes to the same. -/
structure Kept (browser : Browser) (s s' : State) : Prop where
  inv : Inv s'
  progress : s'.searchInProgress = true
  agree : Agree (s'.concluded browser) (s.concluded browser)

theorem Kept.trans {s'' : State} (h : Kept browser s s') (h' : Kept browser s' s'') :
    Kept browser s s'' :=
  ⟨h'.inv, h'.progress, h'.agree.trans h.agree⟩

section

variable (browser) (hinv : Inv s) (hprogress : s.searchInProgress = true)
include hinv hprogress

theorem searchNodes_kept : Kept browser s (searchNodes browser (s.remaining + 1) s).2 := by
  obtain ⟨hsearched, -, -⟩ := searched_searchNodes browser (Nat.lt_succ_self s.remaining)
  obtain ⟨hinv', hreplaced⟩ := hsearched.replaced hinv
  have hframe := hsearched.frame
  generalize (searchNodes browser (s.remaining + 1) s).2 = t at *
  refine ⟨hinv', ?_, .concluded hreplaced (by rw [hframe]) (by rw [hframe]) (by rw [hframe])⟩
  rw [hframe]
  exact hprogress

/-- The second loop is entered when all nodes have been looked at, and it keeps that. -/
theorem replaceNodes_kept (hnode : s.node = none) :
    let r := replaceNodes browser (s.replacements.drop s.replacementsIndex) s.replacementsIndex s
    Kept browser s r.2 ∧ r.2.node = none := by
  intro r
  obtain ⟨⟨hframe, hends⟩, -, -⟩ := replaceNodes_spec browser s rfl
  change r.2 = _ at hframe
  change finishReplacing (r.2.replacements.drop r.2.replacementsIndex) _ r.2.documents = _ at hends
  generalize r.2 = t at *
  have hstack := hinv.emptied hnode
  have hnode' : t.node = none := by
    rw [hframe]
    exact hnode
  have hstack' : t.stack = [] := by
    rw [hframe]
    exact hstack
  refine ⟨⟨⟨fun _ => hstack', ?_, fun h => absurd hnode' h⟩, ?_, ?_⟩, hnode'⟩
  · rw [hframe]
    exact hinv.made
  · rw [hframe]
    exact hprogress
  · refine .concluded ?_ (by rw [hframe]) (by rw [hframe]) (by rw [hframe])
    rw [replaced_of_looked hnode' hstack', replaced_of_looked hnode hstack]
    exact hends

/-- The third loop is left with the rest still to do, or it is through. -/
theorem countVisible_kept
    (hnode : s.node = none) (hthrough : s.replacements.drop s.replacementsIndex = [])
    (hspans : s.spans = getAllElementsByClassName s.documents) :
    let r := countVisible browser (s.spans.drop s.visibleIndex) s.visibleIndex s
    if r.1 then Kept browser s r.2 else Agree r.2 (s.concluded browser) := by
  intro r
  have hcounted := countVisible_concluded browser hnode (hinv.emptied hnode) hthrough hspans
  obtain ⟨⟨hframe, -⟩, -, -⟩ := countVisible_spec browser s rfl
  change if r.1 then Agree (r.2.concluded browser) _ else Agree r.2 _ at hcounted
  change r.2 = _ at hframe
  obtain ⟨stopped, t⟩ := r
  dsimp only at hframe hcounted ⊢
  cases stopped with
  | false => exact hcounted
  | true =>
    refine ⟨⟨fun _ => ?_, ?_, fun h => absurd ?_ h⟩, ?_, hcounted⟩
    · rw [hframe]
      exact hinv.emptied hnode
    · rw [hframe]
      exact hinv.made
    · rw [hframe]
      exact hnode
    · rw [hframe]
      exact hprogress

/-- **One call**: the time is over and the search goes on, or it has come to its end. -/
theorem pumpSearch_cases : (∃ s', s.pumpSearch browser = ("[false]", s') ∧ Kept browser s s' ∧
      ¬ ∀ n, browser.overTime n = false) ∨
    ∃ s', s.pumpSearch browser = s'.finish browser ∧ Agree s' (s.concluded browser) := by
  rw [pumpSearch, if_neg (by rw [hprogress]; exact Bool.noConfusion)]
  have hkept₁ := searchNodes_kept browser hinv hprogress
  obtain ⟨-, hlooked, htime₁⟩ := searched_searchNodes browser (Nat.lt_succ_self s.remaining)
  generalize searchNodes browser (s.remaining + 1) s = r₁ at *
  obtain ⟨stopped₁, s₁⟩ := r₁
  cases stopped₁ with
  | true => exact .inl ⟨s₁, rfl, hkept₁, fun h => nomatch (htime₁ h)⟩
  | false =>
    obtain ⟨hkept₂, hnode₂⟩ := replaceNodes_kept browser hkept₁.inv hkept₁.progress (hlooked rfl)
    obtain ⟨-, hdone, htime₂⟩ := replaceNodes_spec browser s₁ rfl
    dsimp only at hkept₂ hnode₂ ⊢
    generalize replaceNodes browser (s₁.replacements.drop s₁.replacementsIndex)
      s₁.replacementsIndex s₁ = r₂ at *
    obtain ⟨stopped₂, s₂⟩ := r₂
    cases stopped₂ with
    | true => exact .inl ⟨s₂, rfl, hkept₁.trans hkept₂, fun h => nomatch (htime₂ h)⟩
    | false =>
      -- the spans are collected, which changes nothing of what the search comes to
      have hkept : Kept browser s { s₂ with spans := getAllElementsByClassName s₂.documents } :=
        ⟨⟨hkept₂.inv.emptied, hkept₂.inv.made, hkept₂.inv.unreplaced⟩, hkept₂.progress,
          (hkept₁.trans hkept₂).agree⟩
      have hcounted := countVisible_kept browser hkept.inv hkept.progress hnode₂ (hdone rfl) rfl
      obtain ⟨-, -, htime₃⟩ := countVisible_spec browser
        { s₂ with spans := getAllElementsByClassName s₂.documents } rfl
      dsimp only at hcounted htime₃ ⊢
      generalize countVisible browser
        ((getAllElementsByClassName s₂.documents).drop s₂.visibleIndex) s₂.visibleIndex
        { s₂ with spans := getAllElementsByClassName s₂.documents } = r₃ at *
      obtain ⟨stopped₃, s₃⟩ := r₃
      cases stopped₃ with
      | true => exact .inl ⟨s₃, rfl, hkept.trans hcounted, fun h => nomatch (htime₃ h)⟩
      | false => exact .inr ⟨s₃, rfl, Agree.trans hcounted hkept.agree⟩

/-- With time enough, one call comes to the end. -/
theorem pumpSearch_unhurried : (s.pumpSearch browser.unhurried).2.searchInProgress = false ∧
      (s.pumpSearch browser.unhurried).1 = ((s.concluded browser).finish browser.unhurried).1 ∧
      Agree (s.pumpSearch browser.unhurried).2
        ((s.concluded browser).finish browser.unhurried).2 := by
  rcases pumpSearch_cases browser.unhurried hinv hprogress with
    ⟨-, -, -, hover⟩ | ⟨s', heq, hagree⟩
  · exact absurd (fun _ => rfl) hover
  · rw [heq]
    exact ⟨finish_searchInProgress _ _, hagree.finish browser.unhurried⟩

end

/-- **The calls of a search** come to what the search comes to. -/
theorem pumpUntilDone_spec {n : Nat} {r : String × State} (hinv : Inv s)
    (hprogress : s.searchInProgress = true) (hdone : pumpUntilDone browser n s = some r) :
    r.1 = ((s.concluded browser).finish browser.unhurried).1 ∧
      Agree r.2 ((s.concluded browser).finish browser.unhurried).2 := by
  induction n generalizing s with
  | zero => cases hdone
  | succ n ih =>
    rw [pumpUntilDone] at hdone
    rcases pumpSearch_cases browser hinv hprogress with ⟨s', heq, hkept, -⟩ | ⟨s', heq, hagree⟩
    · rw [heq, if_pos hkept.progress] at hdone
      obtain ⟨hanswer, hend⟩ := ih hkept.inv hkept.progress hdone
      obtain ⟨hanswer', hend'⟩ := hkept.agree.finish browser.unhurried
      exact ⟨hanswer.trans hanswer', hend.trans hend'⟩
    · rw [heq, finish_searchInProgress, if_neg Bool.false_ne_true] at hdone
      obtain rfl := Option.some.inj hdone
      exact hagree.finish browser

/-- **A search in pieces**: for all documents, queries and answers of `overTime`, when the calls
have come to the end, the documents, the spans, `visibleFound`, the current span and the answer
are those of one call that is never over time. -/
theorem interrupted_search_finds_the_same (browser : Browser) (page : Page) (n : Nat)
    (r : String × State) (hdone : pumpUntilDone browser n (highlightWord page) = some r) :
    let whole := (highlightWord page).pumpSearch browser.unhurried
    whole.2.searchInProgress = false ∧ r.2.documents = whole.2.documents ∧
      r.2.spans = whole.2.spans ∧
      r.2.spans.map (fun elem => (spanElements r.2.documents)[elem]?) =
        whole.2.spans.map (fun elem => (spanElements whole.2.documents)[elem]?) ∧
      r.2.visibleFound = whole.2.visibleFound ∧ r.2.index = whole.2.index ∧ r.1 = whole.1 := by
  intro whole
  have hinv := inv_highlightWord page
  obtain ⟨hanswer, hend⟩ := pumpUntilDone_spec hinv rfl hdone
  obtain ⟨hthrough, hanswer', hend'⟩ := pumpSearch_unhurried browser hinv rfl
  have hagree : Agree r.2 whole.2 := hend.trans hend'.symm
  refine ⟨hthrough, hagree.documents, hagree.spans, ?_, hagree.visibleFound, hagree.index,
    hanswer.trans hanswer'.symm⟩
  rw [hagree.spans, hagree.documents]

/-! ## A search in five calls -/

/-- The places of a text in another one. -/
def literal (text : Data) : Nat → Nat → Data → List (Nat × Nat)
  | _, _, [] => []
  | index, skip + 1, _ :: rest => literal text (index + 1) skip rest
  | index, 0, c :: rest =>
    if text.isPrefixOf (c :: rest) then
      (index, text.length) :: literal text (index + 1) (text.length - 1) rest
    else literal text (index + 1) 0 rest

def ascii (text : String) : Data := text.toList.map fun c => c.toNat.toUInt16

/-- `<body><p>a foo b foo</p></body>`. -/
def twoFoos : Page where
  html := ⟨some 0, 1, "HTML", false, none⟩
  before := .nil
  body := ⟨some 1, 1, "BODY", false, none⟩
  content := .node ⟨some 2, 1, "P", false, none⟩ (.leaf ⟨some 3, ascii "a foo b foo"⟩ .nil) .nil
  after := .nil
  frameDocs := []
  identified := by decide +kernel
  distinct := by decide +kernel

/-- Every third check finds the time over. -/
def hurried : Browser where
  regex := ⟨literal (ascii "foo") 0 0⟩
  isVisible _ _ := true
  coordinates _ _ := "0,0"
  overTime n := n % 3 = 2

/-- The node and its replacement are taken up again, and two spans are counted in two calls. -/
theorem five_calls_find_the_same :
    ∃ r, pumpUntilDone hurried 5 (highlightWord twoFoos) = some r ∧ r.1 = "[2,[1,0,0]]" ∧
      r.1 = ((highlightWord twoFoos).pumpSearch hurried.unhurried).1 ∧
      r.2.documents = ((highlightWord twoFoos).pumpSearch hurried.unhurried).2.documents := by
  have hanswer : (pumpUntilDone hurried 5 (highlightWord twoFoos)).map Prod.fst =
      some "[2,[1,0,0]]" := by decide +kernel
  obtain ⟨r, hdone, hr⟩ := Option.map_eq_some_iff.1 hanswer
  obtain ⟨-, hdocuments, -, -, -, -, hsame⟩ :=
    interrupted_search_finds_the_same hurried twoFoos 5 r hdone
  exact ⟨r, hdone, hr, hsame, hdocuments⟩

end State

end FindInPage

end ChromiumIos
