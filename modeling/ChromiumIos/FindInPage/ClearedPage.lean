import ChromiumIos.FindInPage.ClearHighlight

/-!
# What clearing leaves of a page

Highlights that are cleared leave the text they were made of, but not always: a match is merged
with the next one whatever is between them, and text goes through HTML.

- `ClearsCleanly`: the matches of a page can be cleared without a trace.
- `Cleared`: what the modifications make of some siblings, with a lemma for each kind of sibling.
- `cleared`, `clearHighlight_of_clearsCleanly`: by induction on the siblings, and of a whole page.
-/

namespace ChromiumIos

open Lib List Option

namespace FindInPage

/-! ## What can be cleared -/

def startsText : Marked → Bool
  | .leaf (.text _) _ => true
  | _ => false

def startsFound : Marked → Bool
  | .leaf (.found _) _ => true
  | _ => false

/-- The next match is behind the first of some siblings. -/
def attaches : Marked → Bool
  | .leaf (.text _) next => startsFound next
  | .node _ children next => !children.leaves.any Piece.isFound && startsFound next
  | _ => false

/-- No code unit of the text is lost or written differently in HTML: NUL, LF, CR, `&`, `<`, `>` and
the no-break space. -/
def Plain (text : Data) : Prop := ∀ c ∈ text, c ∉ [0, 10, 13, 38, 60, 62, 160]

/-- Highlights can be cleared without a trace. A match that is merged with the next one has only
text next to it and is shown as it is; one that is not is plain. The first sibling has the number
`n` in the highlighted documents, and the node before it, if any, is text if `textBefore`. -/
def ClearsCleanly (rendering : Rendering) (documents : Dom) (n : Nat) (textBefore : Bool) :
    Marked → Prop
  | .nil => True
  | .leaf (.text _) next => ClearsCleanly rendering documents (n + 1) true next
  | .leaf (.found matchText) next =>
    (if attaches next then
        textBefore = true ∧ startsText next = true ∧ rendering.innerText documents n = matchText
      else Plain matchText) ∧
      ClearsCleanly rendering documents (n + 1 + (innerNodes matchText).size) false next
  | .node _ children next =>
    ClearsCleanly rendering documents (n + 1) true children ∧
      ClearsCleanly rendering documents (n + 1 + (highlighted children).size) false next

/-! ## What the modifications make of some siblings -/

variable {page : Marked} {dom : Dom}

theorem Shows.size_eq (h : Shows page dom) : dom.size = (highlighted page).size := by
  induction h with
  | nil => rfl
  | text node rest ih => rw [highlighted, Forest.size, Forest.size, ih]
  | found matchText visibleIndex rest ih => rw [highlighted, Forest.size, Forest.size, ih]
  | node element hclass hbelow rest ihBelow ih =>
    rw [highlighted, Forest.size, Forest.size, ihBelow, ih]

theorem Shows.startsSpan_eq (h : Shows page dom) : startsSpan dom = startsFound page := by
  cases h with
  | nil => rfl
  | text node rest => rfl
  | found matchText visibleIndex rest => rfl
  | node element hclass hbelow rest => exact hclass

/-- Every match has a span. -/
theorem Shows.isFound_eq_false (h : Shows page dom)
    (hselect : dom.select (·.findClass) = []) : page.leaves.any Piece.isFound = false := by
  induction h with
  | nil => rfl
  | text node rest ih => exact ih hselect
  | found matchText visibleIndex rest ih => cases hselect
  | node element hclass hbelow rest ihBelow ih =>
    rw [Forest.select, append_eq_nil_iff, append_eq_nil_iff] at hselect
    rw [Forest.leaves, any_append, ihBelow hselect.2.1, ih hselect.2.2]
    rfl

/-- The first match is merged with the text before it. -/
def carried (previousSibling : Option Sibling) (page : Marked) : Data :=
  if startsFound page then (textNode previousSibling).elim [] (·.textContent) else []

theorem carried_found (previousSibling : Option Sibling) (matchText : Data) (next : Marked) :
    carried previousSibling (.leaf (.found matchText) next) =
      (textNode previousSibling).elim [] (·.textContent) :=
  if_pos rfl

theorem carried_eq_nil {previousSibling : Option Sibling} {page : Marked}
    (h : startsFound page = false ∨ textNode previousSibling = none) :
    carried previousSibling page = [] := by
  rw [carried]
  split
  · rcases h with hfound | hnone
    · exact absurd (hfound.symm.trans ‹_›) Bool.false_ne_true
    · rw [hnone]
      rfl
  · rfl

/-- The first of the siblings that stay, if any, is behind a match. -/
def opens : Marked → Bool
  | .leaf (.found _) _ => true
  | .leaf (.text _) next => startsFound next
  | _ => false

theorem opens_of_startsFound (h : startsFound page = true) : opens page = true := by
  cases page with
  | nil => cases h
  | leaf piece next =>
    cases piece with
    | text node => cases h
    | found matchText => rfl
  | node element children next => cases h

theorem opens_of_attaches (htext : startsText page = true)
    (h : attaches page = true) : opens page = true := by
  cases page with
  | nil => cases h
  | leaf piece next =>
    cases piece with
    | text node => exact h
    | found matchText => rfl
  | node element children next => cases htext

/-- What modifications make of siblings, the first with the number `n`. Only these and the text
before them are taken out, and what they consist of stays. If they start with a match, more text can
be put in front. -/
structure Cleared (page : Marked) (n : Nat) (previousSibling : Option Sibling) (dom : Dom)
    (mods : List Modification) : Prop where
  nodup : (taken mods).Nodup
  bounds : ∀ k ∈ taken mods, (n ≤ k ∧ k < n + dom.size) ∨
    (startsFound page = true ∧ ∃ sibling ∈ textNode previousSibling, sibling.node = k)
  removed : startsFound page = true → ∀ sibling ∈ textNode previousSibling, ∀ text,
    (changesFor (prepend text mods)).lookup sibling.node = some none
  started : opens page = true → mods ≠ []
  kept : startsText page = true → opens page = false → n ∉ taken mods
  restored : ∀ text, (text = [] ∨ opens page = true) →
    tokens (applyChanges (changesFor (prepend text mods)) n dom) =
      (text ++ carried previousSibling page).map .char ++ tokensWith Piece.data page

section Cleared

variable {page : Marked} {n : Nat} {previousSibling : Option Sibling} {dom : Dom}
  {mods : List Modification}

/-- Where there is no match at the start only the siblings are taken out. -/
theorem Cleared.le (h : Cleared page n previousSibling dom mods)
    (hprevious : startsFound page = false ∨ textNode previousSibling = none) {k : Nat}
    (hk : k ∈ taken mods) : n ≤ k ∧ k < n + dom.size := by
  rcases h.bounds k hk with hbounds | ⟨hfound, sibling, hsibling, -⟩
  · exact hbounds
  · rcases hprevious with hnot | hnone
    · rw [hnot] at hfound
      cases hfound
    · rw [hnone] at hsibling
      cases hsibling

theorem Cleared.lookup_eq_none (h : Cleared page n previousSibling dom mods)
    (hprevious : startsFound page = false ∨ textNode previousSibling = none) (text : Data)
    {k : Nat} (hk : k < n ∨ n + dom.size ≤ k) :
    (changesFor (prepend text mods)).lookup k = none := by
  refine FindInPage.lookup_eq_none fun hmem => ?_
  rw [← taken, taken_prepend] at hmem
  have hbounds := h.le hprevious hmem
  omega

theorem cleared_nil : Cleared .nil n previousSibling .nil [] where
  nodup := .nil
  bounds := nofun
  removed := nofun
  started := nofun
  kept := nofun
  restored text htext := by
    rcases htext with rfl | hopens
    · rfl
    · cases hopens

/-- A text node stays, or it is merged with the match behind it. -/
theorem cleared_text {node : TextNode}
    (h : Cleared page (n + 1) (some ⟨n, true, node.data⟩) dom mods) :
    Cleared (.leaf (.text node) page) n previousSibling (.leaf node dom) mods where
  nodup := h.nodup
  bounds k hk := by
    rw [Forest.size]
    rcases h.bounds k hk with hbounds | ⟨-, sibling, hsibling, rfl⟩
    · omega
    · obtain rfl := some.inj hsibling
      dsimp only
      omega
  removed := nofun
  started hopens := h.started (opens_of_startsFound hopens)
  kept _ hopens hmem := Nat.not_succ_le_self n (h.le (.inl hopens) hmem).1
  restored text htext := by
    rw [applyChanges, tokens_append, tokensWith]
    cases hfound : startsFound page with
    | true =>
      rw [h.restored text (.inr (opens_of_startsFound hfound)), changed,
        h.removed hfound _ rfl text, carried, if_pos hfound, carried_eq_nil (.inl rfl)]
      simp [textNode, Piece.data, filter_some]
    | false =>
      have htext' : text = [] := htext.resolve_right fun hopens => by
        rw [opens, hfound] at hopens
        cases hopens
      rw [htext', h.restored [] (.inl rfl), changed,
        h.lookup_eq_none (.inl hfound) [] (.inl (Nat.lt_succ_self n)),
        carried_eq_nil (.inl hfound), carried_eq_nil (.inl rfl)]
      simp [Piece.data]

/-- What is below an element and what is behind it are modified apart. -/
theorem cleared_node {element : Element} {children : Marked} {below : Dom}
    {childMods : List Modification} {content : Data}
    (hchildren : Cleared children (n + 1) none below childMods)
    (h : Cleared page (n + 1 + below.size) (some ⟨n, false, content⟩) dom mods) :
    Cleared (.node element children page) n previousSibling (.node element below dom)
      (childMods ++ mods) where
  nodup := by
    rw [taken_append, nodup_append]
    refine ⟨hchildren.nodup, h.nodup, fun k hk l hl heq => ?_⟩
    have hbelow := hchildren.le (.inr rfl) hk
    have hbehind := h.le (.inr rfl) hl
    omega
  bounds k hk := by
    rw [taken_append, mem_append] at hk
    rw [Forest.size]
    rcases hk with hk | hk
    · have hbelow := hchildren.le (.inr rfl) hk
      omega
    · have hbehind := h.le (.inr rfl) hk
      omega
  removed hfound := absurd hfound Bool.false_ne_true
  started hopens := absurd hopens Bool.false_ne_true
  kept htext := absurd htext Bool.false_ne_true
  restored text htext := by
    obtain rfl := htext.resolve_right Bool.false_ne_true
    have hchild := hchildren.restored [] (.inl rfl)
    have hnext := h.restored [] (.inl rfl)
    have hnone := fun k => hchildren.lookup_eq_none (.inr rfl) [] (k := k)
    have hnone' := fun k => h.lookup_eq_none (.inr rfl) [] (k := k)
    simp only [prepend_nil] at hchild hnext hnone hnone' ⊢
    have hown : (changesFor (childMods ++ mods)).lookup n = none := by
      rw [changesFor_append, lookup_append, hnone n (by omega), hnone' n (by omega)]
      rfl
    have hbelow : applyChanges (changesFor (childMods ++ mods)) (n + 1) below =
        applyChanges (changesFor childMods) (n + 1) below :=
      applyChanges_congr fun k _ hlt => by
        rw [changesFor_append, lookup_append, hnone' k (by omega), or_none]
    have hbehind : applyChanges (changesFor (childMods ++ mods)) (n + 1 + below.size) dom =
        applyChanges (changesFor mods) (n + 1 + below.size) dom :=
      applyChanges_congr fun k hle _ => by
        rw [changesFor_append, lookup_append, hnone k (by omega), none_or]
    rw [applyChanges, changed, hown, hbelow, hbehind, tokens_append, tokens_node, hchild, hnext,
      carried_eq_nil (.inr rfl), carried_eq_nil (.inr rfl), carried_eq_nil (.inl rfl)]
    simp [tokensWith]

section Found

variable {rendering : Rendering} {element : Element} {matchText : Data} {inner : Dom}
  {content : Data}

/-- The text behind a match that is not merged with the next one is taken into its place. -/
theorem restored_behind {before : Nat} (hshows : Shows page dom) (hattaches : attaches page = false)
    (h : Cleared page n (some ⟨before, false, content⟩) dom mods) {changes : Changes}
    (hchanges : ∀ k, n ≤ k → changes.lookup k =
      if (textNode (firstSibling rendering n dom)).map (·.node) = some k then some none
      else (changesFor mods).lookup k) :
    ((textNode (firstSibling rendering n dom)).elim [] (·.textContent)).map .char ++
        tokens (applyChanges changes n dom) =
      tokensWith Piece.data page := by
  have hrest := h.restored [] (.inl rfl)
  rw [prepend_nil, carried_eq_nil (.inr rfl), append_nil, map_nil, nil_append]
    at hrest
  have hsame (hnone : textNode (firstSibling rendering n dom) = none) :
      applyChanges changes n dom = applyChanges (changesFor mods) n dom :=
    applyChanges_congr fun k hle _ => by
      rw [hchanges k hle, hnone]
      exact if_neg nofun
  cases hshows with
  | nil => rfl
  | text node rest =>
    rw [applyChanges, changed, lookup_eq_none (h.kept rfl hattaches), tokens_append,
      tokens_leaf, tokens_nil, append_nil, tokensWith, Piece.data] at hrest
    have hown : changes.lookup n = some none := by
      rw [hchanges n (Nat.le_refl n)]
      exact if_pos rfl
    have hbehind : ∀ rest, applyChanges changes (n + 1) rest =
        applyChanges (changesFor mods) (n + 1) rest := fun rest =>
      applyChanges_congr fun k hle _ => by
        rw [hchanges k (by omega), if_neg]
        intro heq
        have hk : n = k := some.inj heq
        omega
    rw [applyChanges, changed, hown, hbehind, tokens_append, tokens_nil, nil_append,
      append_cancel_left hrest, tokensWith, Piece.data]
    rfl
  | found matchText visibleIndex rest =>
    rw [hsame rfl, hrest]
    rfl
  | node element hclass hbelow rest =>
    rw [hsame rfl, hrest]
    rfl

/-- The text node behind such a match is not taken out otherwise. -/
theorem behind_of_mem {before : Nat} (hshows : Shows page dom) (hattaches : attaches page = false)
    (h : Cleared page n (some ⟨before, false, content⟩) dom mods) {sibling : Sibling}
    (hmem : sibling ∈ textNode (firstSibling rendering n dom)) :
    sibling.node = n ∧ 0 < dom.size ∧ sibling.node ∉ taken mods := by
  cases hshows with
  | nil => cases hmem
  | text node rest =>
    obtain rfl := some.inj hmem
    exact ⟨rfl, Nat.succ_pos _, h.kept rfl hattaches⟩
  | found matchText visibleIndex rest => cases hmem
  | node element hclass hbelow rest => cases hmem

/-- A match that is not merged with the next one. -/
theorem cleared_new {elem : Span} (hshows : Shows page dom) (hattaches : attaches page = false)
    (hnode : elem.node = n) (hprevious : elem.previousSibling = previousSibling)
    (hnext : elem.nextSibling = firstSibling rendering (n + 1 + inner.size) dom)
    (hhtml : elem.innerHTML = matchText) (hbefore : ∀ sibling ∈ previousSibling, sibling.node < n)
    (h : Cleared page (n + 1 + inner.size) (some ⟨n, false, content⟩) dom mods) :
    Cleared (.leaf (.found matchText) page) n previousSibling (.node element inner dom)
      (.new elem :: mods) where
  nodup := by
    have hbefore' := fun sibling hmem => hbefore sibling (mem_of_mem_textNode hmem)
    have hbehind : ∀ sibling ∈ textNode (firstSibling rendering (n + 1 + inner.size) dom),
        sibling.node = n + 1 + inner.size ∧ 0 < dom.size ∧ sibling.node ∉ taken mods :=
      fun _ hmem => behind_of_mem hshows hattaches h hmem
    rw [taken_cons, Modification.new, hnode, hprevious, hnext]
    generalize textNode previousSibling = before at *
    generalize textNode (firstSibling rendering (n + 1 + inner.size) dom) = behind at *
    have hnodes : ∀ k ∈ (before.toList ++ behind.toList).map (·.node),
        k < n ∨ k = n + 1 + inner.size ∧ k ∉ taken mods := by
      intro k hk
      obtain ⟨sibling, hmem, rfl⟩ := mem_map.1 hk
      rcases mem_append.1 hmem with hmem | hmem
      · exact .inl (hbefore' sibling (mem_toList.1 hmem))
      · obtain ⟨heq, -, hnot⟩ := hbehind sibling (mem_toList.1 hmem)
        exact .inr ⟨heq, hnot⟩
    have hapart : ((before.toList ++ behind.toList).map (·.node)).Nodup := by
      cases before with
      | none => cases behind <;> simp
      | some sibling =>
        cases behind with
        | none => simp
        | some other =>
          have hlt := hbefore' sibling rfl
          have heq := (hbehind other rfl).1
          simp
          omega
    refine nodup_cons.2 ⟨fun hmem => ?_, nodup_append.2 ⟨hapart, h.nodup, ?_⟩⟩
    · dsimp only at hmem
      rcases mem_append.1 hmem with hmem | hmem
      · rcases hnodes n hmem with hlt | ⟨heq, -⟩ <;> omega
      · have hbounds := h.le (.inr rfl) hmem
        omega
    · rintro k hk l hl rfl
      rcases hnodes k hk with hlt | ⟨-, hnot⟩
      · have hbounds := h.le (.inr rfl) hl
        omega
      · exact hnot hl
  bounds k hk := by
    rw [taken_cons, Modification.new, hnode, hprevious, hnext] at hk
    dsimp only at hk
    rw [cons_append, mem_cons, mem_append, map_append, mem_append] at hk
    rw [Forest.size]
    rcases hk with rfl | (hk | hk) | hk
    · omega
    · obtain ⟨sibling, hsibling, rfl⟩ := mem_map.1 hk
      exact .inr ⟨rfl, sibling, mem_toList.1 hsibling, rfl⟩
    · obtain ⟨sibling, hsibling, rfl⟩ := mem_map.1 hk
      have hfirst := behind_of_mem hshows hattaches h (mem_toList.1 hsibling)
      omega
    · have hbounds := h.le (.inr rfl) hk
      omega
  removed _ sibling hsibling text := by
    have hlt := hbefore sibling (mem_of_mem_textNode hsibling)
    rw [lookup_prepend_new, hnode, hprevious, if_neg (by omega), if_pos]
    exact mem_map_of_mem (mem_append_left _ (mem_toList.2 hsibling))
  started _ := cons_ne_nil _ _
  kept := nofun
  restored text _ := by
    have hbefore' := fun sibling hmem => hbefore sibling (mem_of_mem_textNode hmem)
    have hlookup : ∀ k, n + 1 + inner.size ≤ k →
        (changesFor (prepend text (.new elem :: mods))).lookup k =
          if (textNode (firstSibling rendering (n + 1 + inner.size) dom)).map (·.node) = some k
            then some none else (changesFor mods).lookup k := by
      intro k hle
      have hmem : k ∈ (textNode previousSibling).toList.map (·.node) ↔ False := by
        rw [iff_false, List.mem_map]
        rintro ⟨sibling, hsibling, rfl⟩
        have hlt := hbefore' sibling (mem_toList.1 hsibling)
        omega
      rw [lookup_prepend_new, hnode, hprevious, hnext, if_neg (by omega), map_append]
      simp only [mem_append, hmem, false_or, List.mem_map, mem_toList,
        map_eq_some_iff]
    have hbehind := restored_behind hshows hattaches h hlookup
    have hown : (changesFor (prepend text (.new elem :: mods))).lookup n =
        some (some (text ++ (Modification.new elem).replacement)) := by
      rw [lookup_prepend_new]
      exact if_pos hnode.symm
    have hreplacement : (Modification.new elem).replacement =
        (textNode previousSibling).elim [] (·.textContent) ++ matchText ++
          (textNode (firstSibling rendering (n + 1 + inner.size) dom)).elim []
            (·.textContent) := by
      rw [Modification.new, hprevious, hnext, hhtml]
    rw [applyChanges, changed, hown, tokens_append, tokensWith, ← hbehind, hreplacement,
      carried_found]
    simp [createTextNode, Piece.data]

/-- A match that is merged with the next one. -/
theorem cleared_add {elem : Span} {prevMod : Modification} (hopens : opens page = true)
    (hnode : elem.node = n) (hprevious : elem.previousSibling = previousSibling)
    (htext : previousSibling.all (·.isText) = true) (hinner : elem.innerText = matchText)
    (hbefore : ∀ sibling ∈ previousSibling, sibling.node < n)
    (h : Cleared page (n + 1 + inner.size) (some ⟨n, false, content⟩) dom (prevMod :: mods)) :
    Cleared (.leaf (.found matchText) page) n previousSibling (.node element inner dom)
      (prevMod.add elem :: mods) := by
  have hbehind : ∀ k ∈ taken (prevMod :: mods),
      n + 1 + inner.size ≤ k ∧ k < n + 1 + inner.size + dom.size := fun k => h.le (.inr rfl)
  have hadded : ∀ k ∈ elem.added, k = n ∨ k < n ∧ ∃ sibling ∈ previousSibling,
      sibling.node = k := by
    intro k hk
    rw [Span.added, hnode, hprevious] at hk
    rcases mem_cons.1 hk with rfl | hk
    · exact .inl rfl
    · obtain ⟨sibling, hmem, rfl⟩ := mem_map.1 hk
      exact .inr ⟨hbefore sibling (mem_toList.1 hmem), sibling, mem_toList.1 hmem,
        rfl⟩
  have hapart : ∀ k ∈ elem.added, k ∉ taken (prevMod :: mods) := by
    intro k hk hmem
    have hbounds := hbehind k hmem
    rcases hadded k hk with rfl | ⟨hlt, -⟩ <;> omega
  refine ⟨?_, fun k hk => ?_, fun _ sibling hsibling text => ?_, fun _ => cons_ne_nil _ _,
    nofun, fun text _ => ?_⟩
  · rw [(taken_add prevMod elem mods).nodup_iff, nodup_append]
    refine ⟨h.nodup, ?_, fun k hk l hl heq => hapart l hl (heq ▸ hk)⟩
    rw [Span.added, hnode, hprevious]
    cases previousSibling with
    | none => simp
    | some sibling =>
      have hlt := hbefore sibling rfl
      simp
      omega
  · rw [Forest.size]
    rcases mem_append.1 ((taken_add prevMod elem mods).mem_iff.1 hk) with hk | hk
    · have hbounds := hbehind k hk
      omega
    · rcases hadded k hk with rfl | ⟨-, sibling, hmem, rfl⟩
      · omega
      · exact .inr ⟨rfl, sibling, by rwa [textNode_eq_self htext], rfl⟩
  · have hmem : sibling.node ∈ elem.added := by
      rw [Span.added, hprevious]
      exact mem_cons_of_mem _
        (mem_map_of_mem (mem_toList.2 (mem_of_mem_textNode hsibling)))
    rw [lookup_prepend_add text (hapart _), if_pos hmem]
  · have hmem : n ∈ elem.added := by
      rw [Span.added, hnode]
      exact mem_cons_self
    have hrest := h.restored
      (text ++ (previousSibling.elim [] (·.textContent) ++ elem.innerText)) (.inr hopens)
    have hsame : applyChanges (changesFor (prepend text (prevMod.add elem :: mods)))
        (n + 1 + inner.size) dom =
      applyChanges (changesFor (prepend
        (text ++ (previousSibling.elim [] (·.textContent) ++ elem.innerText))
        (prevMod :: mods))) (n + 1 + inner.size) dom :=
      applyChanges_congr fun k hle _ => by
        rw [lookup_prepend_add text (hapart _), if_neg, hprevious]
        intro hk
        rcases hadded k hk with rfl | ⟨hlt, -⟩ <;> omega
    rw [applyChanges, changed, lookup_prepend_add text (hapart _), if_pos hmem, hsame,
      tokens_append, hrest, carried_eq_nil (.inr rfl), carried_found, textNode_eq_self htext,
      hinner, tokensWith]
    simp [Piece.data]

end Found

end Cleared

/-! ## Clearing a page -/

/-- Only elements stand next to each other. -/
def roots : Marked → Bool
  | .nil => true
  | .leaf _ _ => false
  | .node _ _ next => roots next

theorem splitLines_of_forall {text : Data} (h : ∀ c ∈ text, c ≠ 10 ∧ c ≠ 13) :
    splitLines text = [text] := by
  induction text with
  | nil => rfl
  | cons c text ih =>
    obtain ⟨hlf, hcr⟩ := h c mem_cons_self
    rw [splitLines, if_neg (fun hboth => hcr hboth.1), if_neg (not_or.2 ⟨hlf, hcr⟩),
      ih fun other hmem => h other (mem_cons_of_mem _ hmem)]

/-- A plain text is written in HTML as it is. -/
theorem Plain.innerHTML_eq {text : Data} (h : Plain text) (rendering : Rendering)
    (visibleIndex : Option Nat) :
    innerHTML rendering { chromeFind with visibleIndex := visibleIndex } (innerNodes text) =
      text := by
  have hescape : text.flatMap escape = text := by
    rw [Plain] at h
    induction text with
    | nil => rfl
    | cons c text ih =>
      have hc := h c mem_cons_self
      simp only [mem_cons, not_mem_nil, or_false, not_or] at hc
      obtain ⟨-, -, -, hamp, hlt, hgt, hspace⟩ := hc
      rw [flatMap_cons, ih fun other hmem => h other (mem_cons_of_mem _ hmem), escape,
        if_neg hamp, if_neg hlt, if_neg hgt, if_neg hspace]
      rfl
  have hfilter : text.filter (· ≠ 0) = text :=
    filter_eq_self.2 fun c hmem => decide_eq_true fun heq => h c hmem (by simp [heq])
  have hlines : splitLines text = [text] := splitLines_of_forall fun c hmem =>
    ⟨fun heq => h c hmem (by simp [heq]), fun heq => h c hmem (by simp [heq])⟩
  have hname : chromeFind.nodeName ∉ rawTextNames := by decide
  rw [innerNodes, hfilter, hlines, joinLines, if_pos rfl, Forest.append_nil]
  split
  · exact (‹text = []›).symm
  · rw [createTextNode, innerHTML, if_neg hname, hescape, innerHTML, append_nil]

theorem isAttached_eq_false {elem behind : Span}
    (h : ∀ next ∈ elem.nextSibling, ∀ previous ∈ behind.previousSibling,
      next.node ≠ previous.node) : elem.isAttached behind = false := by
  rw [Bool.eq_false_iff]
  intro hattached
  simp only [Span.isAttached, Bool.and_eq_true, decide_eq_true_eq] at hattached
  obtain ⟨⟨-, hsome⟩, heq⟩ := hattached
  obtain ⟨next, hnext⟩ := isSome_iff_exists.1 hsome
  rw [hnext, map_some, eq_comm, map_eq_some_iff] at heq
  obtain ⟨previous, hprevious, hnode⟩ := heq
  exact h next hnext previous hprevious hnode.symm

section Clearing

variable {rendering : Rendering} {documents : Dom}

/-- The script merges a match with the next one only where the next one is behind the first
sibling. -/
theorem not_attached {n before : Nat} {parentNode : Option Nat}
    {content : Data} {elem : Span} (hshows : Shows page dom) (hattaches : attaches page = false)
    (hnext : elem.nextSibling = firstSibling rendering n dom) (hbefore : before < n) :
    ∀ behind ∈ (spanNodes rendering documents n parentNode (some ⟨before, false, content⟩)
      dom).head?, elem.isAttached behind = false := by
  intro behind hmem
  refine isAttached_eq_false fun next hsibling previous hprevious heq => ?_
  rw [hnext] at hsibling
  have hnode := (node_of_firstSibling hsibling).1
  cases hshows with
  | nil => cases hmem
  | text node rest =>
    have hmem' : behind ∈ spanNodes rendering documents (n + 1) parentNode
        (some ⟨n, true, node.data⟩) _ := mem_of_mem_head? hmem
    rcases previousSibling_of_mem hmem' with ⟨hstart, -⟩ | hlater
    · rw [rest.startsSpan_eq] at hstart
      exact Bool.false_ne_true (hattaches.symm.trans hstart)
    · have hle := hlater previous hprevious
      omega
  | found matchText visibleIndex rest =>
    obtain rfl := some.inj hmem
    obtain rfl := some.inj hprevious
    dsimp only at heq
    omega
  | @node element hclass children page below dom hbelow rest =>
    rw [spanNodes, if_neg (by rw [hclass]; exact Bool.false_ne_true), nil_append,
      head?_append] at hmem
    cases hspans : spanNodes rendering documents (n + 1) (some n) none below with
    | cons first others =>
      rw [hspans] at hmem
      obtain rfl := some.inj hmem
      have hfirst : first ∈ spanNodes rendering documents (n + 1) (some n) none below := by
        rw [hspans]
        exact mem_cons_self
      rcases previousSibling_of_mem hfirst with ⟨-, hnone⟩ | hlater
      · rw [hnone] at hprevious
        cases hprevious
      · have hle := hlater previous hprevious
        omega
    | nil =>
      rw [hspans] at hmem
      have hselect : below.select (·.findClass) = [] := by
        have hlength : (spanNodes rendering documents (n + 1) (some n) none below).length =
            (State.spanElements below).length := length_spanNodes below (n + 1) (some n) none
        rw [hspans] at hlength
        exact length_eq_zero_iff.1 hlength.symm
      rcases previousSibling_of_mem (mem_of_mem_head? hmem) with ⟨hstart, -⟩ | hlater
      · rw [rest.startsSpan_eq] at hstart
        rw [attaches, hbelow.isFound_eq_false hselect, hstart] at hattaches
        cases hattaches
      · have hle := hlater previous hprevious
        omega

/-- The script merges a match with the next one where there is one text node between them. -/
theorem attached {n : Nat} {parent : Nat}
    {previousSibling : Option Sibling} {elem : Span} (hshows : Shows page dom)
    (hattaches : attaches page = true) (htext : startsText page = true)
    (hparent : elem.parentNode = some parent)
    (hnext : elem.nextSibling = firstSibling rendering n dom) :
    ∃ behind, (spanNodes rendering documents n (some parent) previousSibling dom).head? =
      some behind ∧ elem.isAttached behind = true := by
  cases hshows with
  | nil => cases htext
  | found matchText visibleIndex rest => cases htext
  | node element hclass hbelow rest => cases htext
  | text node rest =>
    cases rest with
    | nil => cases hattaches
    | text other rest => cases hattaches
    | node element hclass hbelow rest => cases hattaches
    | found matchText visibleIndex rest =>
      refine ⟨_, rfl, ?_⟩
      rw [Span.isAttached, hparent, hnext]
      simp [firstSibling]

/-- **Siblings are cleared**: where no highlight leaves a trace, what the modifications make of
siblings consists of what these consist of. -/
theorem cleared (hshows : Shows page dom) {n : Nat}
    {parentNode : Option Nat} {previousSibling : Option Sibling}
    (hroots : parentNode = none → roots page = true)
    (hbefore : ∀ sibling ∈ previousSibling, sibling.node < n)
    (hclean : ClearsCleanly rendering documents n (previousSibling.all (·.isText)) page) :
    Cleared page n previousSibling dom
      (modificationsFor (spanNodes rendering documents n parentNode previousSibling dom)) := by
  induction hshows generalizing n parentNode previousSibling with
  | nil => exact cleared_nil
  | text node rest ih =>
    refine cleared_text (ih (fun hnone => absurd (hroots hnone) Bool.false_ne_true) ?_ hclean)
    intro sibling hmem
    obtain rfl := some.inj hmem
    exact Nat.lt_succ_self n
  | @found matchText visibleIndex page dom rest ih =>
    obtain ⟨hown, hclean⟩ := hclean
    cases parentNode with
    | none => exact absurd (hroots rfl) Bool.false_ne_true
    | some parent =>
      set span : Element := { chromeFind with visibleIndex := visibleIndex } with hspan
      set elem : Span :=
        ⟨n, some parent, previousSibling,
          firstSibling rendering (n + 1 + (innerNodes matchText).size) dom,
          innerHTML rendering span (innerNodes matchText), rendering.innerText documents n⟩
      set content := textContent rendering span (innerNodes matchText)
      have hspans : spanNodes rendering documents n (some parent) previousSibling
          (.node span (innerNodes matchText) dom) =
          elem :: spanNodes rendering documents (n + 1 + (innerNodes matchText).size)
            (some parent) (some ⟨n, false, content⟩) dom := by
        rw [spanNodes, spanNodes_innerNodes]
        rfl
      have hrest : Cleared page (n + 1 + (innerNodes matchText).size) (some ⟨n, false, content⟩)
          dom (modificationsFor (spanNodes rendering documents
            (n + 1 + (innerNodes matchText).size) (some parent) (some ⟨n, false, content⟩)
            dom)) := by
        refine ih (fun hnone => absurd hnone (some_ne_none _)) (fun sibling hmem => ?_) hclean
        obtain rfl := some.inj hmem
        dsimp only
        omega
      rw [hspans]
      by_cases hattaches : attaches page = true
      · rw [if_pos hattaches] at hown
        obtain ⟨htextBefore, htext, hinner⟩ := hown
        obtain ⟨behind, hhead, hattached⟩ :
            ∃ behind, (spanNodes rendering documents (n + 1 + (innerNodes matchText).size)
              (some parent) (some ⟨n, false, content⟩) dom).head? = some behind ∧
              elem.isAttached behind = true :=
          attached rest hattaches htext rfl rfl
        have hopens := opens_of_attaches htext hattaches
        obtain ⟨prevMod, others, hmods⟩ := exists_cons_of_ne_nil (hrest.started hopens)
        rw [hmods] at hrest
        rw [modificationsFor_cons_add hhead hmods hattached]
        exact cleared_add hopens rfl rfl htextBefore hinner hbefore hrest
      · rw [if_neg hattaches] at hown
        have hnot := Bool.eq_false_iff.2 hattaches
        rw [modificationsFor_cons_new (not_attached rest hnot rfl (by omega))]
        exact cleared_new rest hnot rfl rfl rfl (hown.innerHTML_eq rendering visibleIndex) hbefore
          hrest
  | @node element hclass children page below dom hbelow rest ihBelow ih =>
    obtain ⟨hchildren, hnext⟩ := hclean
    rw [← hbelow.size_eq] at hnext
    have hspans : spanNodes rendering documents n parentNode previousSibling
        (.node element below dom) =
        spanNodes rendering documents (n + 1) (some n) none below ++
          spanNodes rendering documents (n + 1 + below.size) parentNode
            (some ⟨n, false, textContent rendering element below⟩) dom := by
      rw [spanNodes, if_neg (by rw [hclass]; exact Bool.false_ne_true)]
      rfl
    rw [hspans, modificationsFor_append]
    · have hroot : some n = none → roots children = true :=
        fun hnone => absurd hnone (some_ne_none n)
      have hbelow := ihBelow hroot (fun _ hmem => absurd hmem (not_mem_none _)) hchildren
      refine cleared_node hbelow (ih hroots (fun sibling hmem => ?_) hnext)
      obtain rfl := some.inj hmem
      dsimp only
      omega
    · intro elem hmem behind hmem'
      refine isAttached_eq_false fun next hsibling previous hprevious heq => ?_
      have hbounds := nextSibling_of_mem hmem next hsibling
      rcases previousSibling_of_mem hmem' with ⟨-, hown⟩ | hlater
      · rw [hown] at hprevious
        obtain rfl := some.inj hprevious
        dsimp only at heq
        omega
      · have hle := hlater previous hprevious
        omega

end Clearing

theorem filterMap_range_getElem? {α : Type*} (as : List α) :
    (List.range as.length).filterMap (fun i => as[i]?) = as := by
  induction as with
  | nil => rfl
  | cons a as ih =>
    rw [length_cons, range_succ_eq_map,
      filterMap_cons_some (f := fun i => (a :: as)[i]?) rfl, filterMap_map]
    exact congrArg (a :: ·) ih

theorem roots_markedPage (regex : Regex) (page : Page) :
    roots (markedPage regex page) = true := by
  rw [markedPage, roots]
  induction page.frameDocs.reverse with
  | nil => rfl
  | cons doc docs ih => exact ih

/-- **Clearing a page**: after a search that has come to its end, `clearHighlight` ends without an
exception, no element of the class is left, and the page consists of what it consisted of, where
the page has no such element itself and no highlight leaves a trace. -/
theorem clearHighlight_of_clearsCleanly (rendering : Rendering) (browser : Browser) (page : Page)
    (n : Nat) (r : String × State) (hregex : browser.regex.GoesOn)
    (hclass : State.spanElements page.nodes = [])
    (hdone : State.pumpUntilDone browser n (State.highlightWord page) = some r)
    (hclean : ClearsCleanly rendering r.2.documents 0 true (markedPage browser.regex page)) :
    (r.2.clearHighlight rendering).1 = false ∧
      State.spanElements (r.2.clearHighlight rendering).2.documents = [] ∧
      tokens (r.2.clearHighlight rendering).2.documents = tokens page.nodes := by
  have hown := (select_eq_nil_iff TextNode.data page.nodes).1 hclass
  obtain ⟨hshows, hspans⟩ := shows_of_pumpUntilDone hregex hown hdone
  have hcleared : Cleared (markedPage browser.regex page) 0 none r.2.documents
      (modificationsFor (spanNodes rendering r.2.documents 0 none none r.2.documents)) :=
    cleared hshows (fun _ => roots_markedPage _ page) nofun hclean
  have hrestored := hcleared.restored [] (.inl rfl)
  rw [prepend_nil, carried_eq_nil (.inr rfl), tokens_markedPage hregex] at hrestored
  have hfound : r.2.spans.filterMap (fun elem =>
      (spanNodes rendering r.2.documents 0 none none r.2.documents)[elem]?) =
      spanNodes rendering r.2.documents 0 none none r.2.documents := by
    rw [hspans, State.getAllElementsByClassName, ← length_spanNodes, filterMap_range_getElem?]
  have hclear : r.2.clearHighlight rendering =
      (false,
        { r.2 with
          documents := applyChanges (changesFor (modificationsFor
            (spanNodes rendering r.2.documents 0 none none r.2.documents))) 0 r.2.documents
          spans := []
          index := -1 }) := by
    have hmade : makeChanges (changesFor (modificationsFor
        (spanNodes rendering r.2.documents 0 none none r.2.documents))) [] = (false, _) :=
      makeChanges_of_nodup [] hcleared.nodup
    rw [State.clearHighlight, hfound, hmade]
    rfl
  rw [hclear]
  refine ⟨rfl, ?_, hrestored⟩
  rw [State.spanElements, select_eq_nil_iff TextNode.data]
  intro element hmem
  rw [← tokens, hrestored] at hmem
  exact hown element hmem

/-! ## Three pages -/

theorem inOrder_literal (text : Data) {strIndex index skip : Nat} {data : Data}
    (hle : strIndex ≤ index + skip) : InOrder strIndex (State.literal text index skip data) := by
  induction data generalizing strIndex index skip with
  | nil => cases skip <;> exact trivial
  | cons c data ih =>
    cases skip with
    | succ skip =>
      rw [State.literal]
      exact ih (by omega)
    | zero =>
      rw [State.literal]
      split
      · exact ⟨hle, ih (by omega)⟩
      · exact ih (by omega)

/-- A browser that finds a text, in which everything is visible and there is always time. -/
def finding (text : String) : Browser where
  regex := ⟨State.literal (State.ascii text) 0 0⟩
  isVisible _ _ := true
  coordinates _ _ := "0,0"
  overTime _ := false

/-- The text of some siblings as it is shown. -/
def shownText : Dom → Data
  | .nil => []
  | .leaf text next => text.data ++ shownText next
  | .node element children next =>
    (if element.nodeName = "BR" then [10] else shownText children) ++ shownText next

/-- What is below the node with the number `n`. -/
def childrenOf : Nat → Dom → Dom
  | _, .nil => .nil
  | 0, .leaf _ _ => .nil
  | n + 1, .leaf _ next => childrenOf n next
  | 0, .node _ children _ => children
  | n + 1, .node _ children next =>
    if n < children.size then childrenOf n children else childrenOf (n - children.size) next

/-- Text is shown as it is. -/
def asItIs : Rendering where
  innerText documents n := shownText (childrenOf n documents)
  outerHTML _ _ := []
  nodeValue _ := []

/-- `<body><p>a &amp; b</p></body>`. -/
def ampersand : Page where
  html := ⟨some 0, 1, "HTML", false, none⟩
  before := .nil
  body := ⟨some 1, 1, "BODY", false, none⟩
  content := .node ⟨some 2, 1, "P", false, none⟩ (.leaf ⟨some 3, State.ascii "a & b"⟩ .nil) .nil
  after := .nil
  frameDocs := []
  identified := by decide +kernel
  distinct := by decide +kernel

/-- `<body><p>foo<br>foo</p></body>`. -/
def twoLines : Page where
  html := ⟨some 0, 1, "HTML", false, none⟩
  before := .nil
  body := ⟨some 1, 1, "BODY", false, none⟩
  content :=
    .node ⟨some 2, 1, "P", false, none⟩
      (.leaf ⟨some 3, State.ascii "foo"⟩
        (.node ⟨some 4, 1, "BR", false, none⟩ .nil (.leaf ⟨some 5, State.ascii "foo"⟩ .nil)))
      .nil
  after := .nil
  frameDocs := []
  identified := by decide +kernel
  distinct := by decide +kernel

/-- Two matches in one text, the first merged with the second. -/
theorem clearHighlight_twoFoos :
    ∃ r, State.pumpUntilDone State.hurried 5 (State.highlightWord State.twoFoos) = some r ∧
      (r.2.clearHighlight asItIs).1 = false ∧
      State.spanElements (r.2.clearHighlight asItIs).2.documents = [] ∧
      tokens (r.2.clearHighlight asItIs).2.documents = tokens State.twoFoos.nodes := by
  have hshown : (State.pumpUntilDone State.hurried 5 (State.highlightWord State.twoFoos)).map
      (fun r => asItIs.innerText r.2.documents 4) = some (State.ascii "foo") := by decide +kernel
  obtain ⟨r, hdone, hr⟩ := map_eq_some_iff.1 hshown
  refine ⟨r, hdone, clearHighlight_of_clearsCleanly asItIs State.hurried State.twoFoos 5 r
    (fun _ => inOrder_literal _ (Nat.zero_le _)) rfl hdone ?_⟩
  have hpage : markedPage State.hurried.regex State.twoFoos =
      .node State.twoFoos.html
        (.node State.twoFoos.body
          (.node ⟨some 2, 1, "P", false, none⟩
            (.leaf (.text ⟨none, State.ascii "a "⟩)
              (.leaf (.found (State.ascii "foo"))
                (.leaf (.text ⟨none, State.ascii " b "⟩)
                  (.leaf (.found (State.ascii "foo")) .nil))))
            .nil)
          .nil)
        .nil := by decide +kernel
  have hfoo : State.ascii "foo" = [102, 111, 111] := by decide +kernel
  have hplain : Plain (State.ascii "foo") := by simp [Plain, hfoo]
  rw [hpage]
  exact ⟨⟨⟨⟨⟨rfl, rfl, hr⟩, hplain, trivial⟩, trivial⟩, trivial⟩, trivial⟩

/-- A match that is an ampersand is written as `&amp;`, and a match that is taken to be next to
another one moves behind the line break between them. -/
theorem clearHighlight_leaves_a_trace :
    (∃ r, State.pumpUntilDone (finding "&") 1 (State.highlightWord ampersand) = some r ∧
      tokens (r.2.clearHighlight asItIs).2.documents ≠ tokens ampersand.nodes) ∧
    ∃ r, State.pumpUntilDone (finding "foo") 1 (State.highlightWord twoLines) = some r ∧
      tokens (r.2.clearHighlight asItIs).2.documents ≠ tokens twoLines.nodes := by
  have hampersand : (State.pumpUntilDone (finding "&") 1 (State.highlightWord ampersand)).any
      (fun r => tokens (r.2.clearHighlight asItIs).2.documents ≠ tokens ampersand.nodes) =
      true := by decide +kernel
  have hlines : (State.pumpUntilDone (finding "foo") 1 (State.highlightWord twoLines)).any
      (fun r => tokens (r.2.clearHighlight asItIs).2.documents ≠ tokens twoLines.nodes) =
      true := by decide +kernel
  rw [Option.any_eq_true] at hampersand hlines
  obtain ⟨r, hr, hne⟩ := hampersand
  obtain ⟨r', hr', hne'⟩ := hlines
  exact ⟨⟨r, hr, of_decide_eq_true hne⟩, r', hr', of_decide_eq_true hne'⟩

end FindInPage

end ChromiumIos
