import ChromiumIos.Lib.ListEdit
import ChromiumIos.Navigation.HistoryEdits
import ChromiumIos.Navigation.UserAgentTypes

/-!
# Same-document navigations in either order

`isSameDocumentNavigationBetweenItem:andItem:` walks the items behind the
earlier of two items up to the later one, and compares the URL of each with
that of its first argument. The URL of the earlier item is compared only when
it is the first argument, so the answer may depend on the order.

- `Link`: what the test reads of an item. `Chained`: an item a page made
  without loading a document has the origin of the item before it.
- `answersAgree_iff_chained`: in one state, the orders agree exactly when the
  history is chained.
- `history_step`: each method edits the links of a history by one `ListEdit`.
- `sameDocument_symmetric_iff`: the orders agree in every state of a run
  exactly when each of its steps makes only neighbours of one origin.
-/

namespace ChromiumIos

open Lib List CRWSessionController Process

/-- What the same-document test reads of an item. -/
structure Link where
  url : GURL
  /-- Created by `pushState()` or a hash change. -/
  createdInPage : Bool
deriving DecidableEq, Repr

def NavigationItemImpl.link (item : NavigationItemImpl) : Link :=
  ⟨item.url, item.isCreatedFromPushState || item.isCreatedFromHashChange⟩

variable (env : Environment)

/-- An item created in a page may stand behind `a`: their origins do not
differ. -/
def Follows (a b : Link) : Prop :=
  b.createdInPage = true → isHistoryStateChangeValid env a.url b.url ≠ some false

instance : DecidableRel (Follows env) :=
  fun _ _ => instDecidableForall

namespace CRWSessionController

variable {env : Environment} {s : CRWSessionController}

def history (s : CRWSessionController) : List Link := s.items.map (·.link)

/-- No item created in a page stands behind one of another origin. -/
def Chained (env : Environment) (s : CRWSessionController) : Prop :=
  s.history.IsChain (Follows env)

/-- When no `CHECK` stops the test in either order, the answers agree. -/
def AnswersAgree (env : Environment) (s : CRWSessionController) : Prop :=
  ∀ i j : Int, InRange s.items.length i → InRange s.items.length j → ∀ x y,
    s.isSameDocumentNavigation env i j = some x → s.isSameDocumentNavigation env j i = some y →
      x = y

/-- The test gives the same result in either order. -/
def IsSymmetric (env : Environment) (s : CRWSessionController) : Prop :=
  ∀ i j : Int, InRange s.items.length i → InRange s.items.length j →
    s.isSameDocumentNavigation env i j = s.isSameDocumentNavigation env j i

/-! ## The test in one state -/

theorem isHistoryStateChangeValid_eq_true {u v : GURL} :
    isHistoryStateChangeValid env u v = some true ↔
      (u.isValid = true ∧ v.isValid = true) ∧ (env.getOrigin v).eq (env.getOrigin u) = true := by
  rw [isHistoryStateChangeValid, ← Bool.and_eq_true]
  split
  · next h => simp [h]
  · next h => simp [h]

theorem isHistoryStateChangeValid_self {u : GURL} (h : u.isValid = true) :
    isHistoryStateChangeValid env u u = some true :=
  isHistoryStateChangeValid_eq_true.2 ⟨⟨h, h⟩, beq_self_eq_true _⟩

theorem isHistoryStateChangeValid_symm {u v : GURL}
    (h : isHistoryStateChangeValid env u v = some true) :
    isHistoryStateChangeValid env v u = some true := by
  obtain ⟨⟨hu, hv⟩, horigin⟩ := isHistoryStateChangeValid_eq_true.1 h
  refine isHistoryStateChangeValid_eq_true.2 ⟨⟨hv, hu⟩, ?_⟩
  rw [GURL.eq, beq_iff_eq] at horigin ⊢
  exact horigin.symm

theorem isHistoryStateChangeValid_trans {u v w : GURL}
    (huv : isHistoryStateChangeValid env u v = some true)
    (hvw : isHistoryStateChangeValid env v w = some true) :
    isHistoryStateChangeValid env u w = some true := by
  obtain ⟨⟨hu, -⟩, horigin⟩ := isHistoryStateChangeValid_eq_true.1 huv
  obtain ⟨⟨-, hw⟩, horigin'⟩ := isHistoryStateChangeValid_eq_true.1 hvw
  refine isHistoryStateChangeValid_eq_true.2 ⟨⟨hu, hw⟩, ?_⟩
  rw [GURL.eq, beq_iff_eq] at horigin horigin' ⊢
  exact horigin'.trans horigin

theorem sameDocumentLoop_cons (firstUrl : GURL) (item : NavigationItemImpl)
    (rest : List NavigationItemImpl) :
    sameDocumentLoop env firstUrl (item :: rest) =
      if item.link.createdInPage = false then some false
      else (isHistoryStateChangeValid env firstUrl item.url).bind fun valid =>
        if valid then sameDocumentLoop env firstUrl rest else some false := by
  rw [sameDocumentLoop, NavigationItemImpl.link]
  cases isHistoryStateChangeValid env firstUrl item.url with
  | none => cases item.isCreatedFromPushState <;> cases item.isCreatedFromHashChange <;> rfl
  | some valid =>
    cases valid <;> cases item.isCreatedFromPushState <;> cases item.isCreatedFromHashChange <;> rfl

/-- The test succeeds when every item it walks over was created in the page and
has the origin of the first argument. -/
theorem sameDocumentLoop_eq_true {firstUrl : GURL} {l : List NavigationItemImpl} :
    sameDocumentLoop env firstUrl l = some true ↔
      ∀ item ∈ l, item.link.createdInPage = true ∧
        isHistoryStateChangeValid env firstUrl item.url = some true := by
  induction l with
  | nil => exact ⟨fun _ item hitem => absurd hitem not_mem_nil, fun _ => rfl⟩
  | cons item rest ih =>
    rw [sameDocumentLoop_cons, forall_mem_cons, ← ih]
    cases item.link.createdInPage with
    | false => simp
    | true =>
      cases isHistoryStateChangeValid env firstUrl item.url with
      | none => simp
      | some answer =>
        cases answer with
        | false => simp
        | true => simp

/-- Valid URLs pass the `CHECK`s. -/
theorem sameDocumentLoop_isSome {firstUrl : GURL} (hfirst : firstUrl.isValid = true)
    {l : List NavigationItemImpl} (hl : ∀ item ∈ l, item.url.isValid = true) :
    (sameDocumentLoop env firstUrl l).isSome := by
  induction l with
  | nil => rfl
  | cons item rest ih =>
    obtain ⟨hitem, hrest⟩ := forall_mem_cons.1 hl
    rw [sameDocumentLoop_cons, isHistoryStateChangeValid, hfirst, hitem]
    cases item.link.createdInPage with
    | false => rfl
    | true =>
      cases (env.getOrigin item.url).eq (env.getOrigin firstUrl) with
      | false => rfl
      | true => exact ih hrest

/-- The items the test walks over for two positions, the earlier one first. -/
def itemsBetween (s : CRWSessionController) (a b : Nat) : List NavigationItemImpl :=
  (s.items.take (b + 1)).drop (a + 1)

theorem isSameDocumentNavigation_eq (env : Environment) {a b : Nat} (hab : a < b)
    {first second : NavigationItemImpl} (hfirst : s.items[a]? = some first)
    (hsecond : s.items[b]? = some second) :
    s.isSameDocumentNavigation env a b = sameDocumentLoop env first.url (s.itemsBetween a b) ∧
      s.isSameDocumentNavigation env b a =
        sameDocumentLoop env second.url (s.itemsBetween a b) := by
  constructor
  · rw [isSameDocumentNavigation, if_neg (by omega), nth?_natCast, hfirst, if_pos (by omega),
      if_pos (by omega)]
    rfl
  · rw [isSameDocumentNavigation, if_neg (by omega), nth?_natCast, hsecond, if_neg (by omega),
      if_neg (by omega)]
    rfl

theorem mem_itemsBetween {a b : Nat} (hab : a < b) {second : NavigationItemImpl}
    (hsecond : s.items[b]? = some second) : second ∈ s.itemsBetween a b := by
  refine mem_of_getElem? (i := b - (a + 1)) ?_
  rw [itemsBetween, getElem?_drop, show a + 1 + (b - (a + 1)) = b by omega,
    getElem?_take_of_lt (by omega), hsecond]

theorem itemsBetween_cons {a b : Nat} (hab : a < b) {next : NavigationItemImpl}
    (hnext : s.items[a + 1]? = some next) :
    ∃ rest, s.itemsBetween a b = next :: rest := by
  have hget : (s.items.take (b + 1))[a + 1]? = some next := by
    rw [getElem?_take_of_lt (by omega), hnext]
  obtain ⟨hlt, rfl⟩ := List.getElem?_eq_some_iff.1 hget
  exact ⟨_, drop_eq_getElem_cons hlt⟩

theorem getElem_history {i : Nat} (hi : i < s.history.length) (h : i < s.items.length) :
    s.history[i] = s.items[i].link := getElem_map _

/-- In a chained history, items that are next to each other may follow each
other. -/
theorem Chained.follows (h : s.Chained env) {a : Nat} {item next : NavigationItemImpl}
    (hitem : s.items[a]? = some item) (hnext : s.items[a + 1]? = some next) :
    Follows env item.link next.link := by
  obtain ⟨hlt, rfl⟩ := List.getElem?_eq_some_iff.1 hnext
  obtain ⟨hlt', rfl⟩ := List.getElem?_eq_some_iff.1 hitem
  have hrel := isChain_iff_getElem.1 h a (by rw [history, length_map]; exact hlt)
  rwa [getElem_history _ hlt, getElem_history _ hlt'] at hrel

/-- From the earlier item on, the test compares only with items that follow
it; if it succeeds from the later item, so it does from this one. -/
theorem Chained.answer_eq (h : s.Chained env) {a b : Nat} (hab : a < b)
    {first second : NavigationItemImpl} (hfirst : s.items[a]? = some first)
    (hsecond : s.items[b]? = some second) {x y : Bool}
    (hx : sameDocumentLoop env first.url (s.itemsBetween a b) = some x)
    (hy : sameDocumentLoop env second.url (s.itemsBetween a b) = some y) : x = y := by
  have hmem := mem_itemsBetween hab hsecond
  have hlt : a + 1 < s.items.length := by
    have := (List.getElem?_eq_some_iff.1 hsecond).1
    omega
  obtain ⟨rest, hbetween⟩ := itemsBetween_cons hab (getElem?_eq_getElem hlt)
  have hfollows := h.follows hfirst (getElem?_eq_getElem hlt)
  generalize s.items[a + 1] = next at hbetween hfollows
  cases x with
  | true =>
    -- every item has the origin of the first one, and so of the second
    have hall := sameDocumentLoop_eq_true.1 hx
    have hback := isHistoryStateChangeValid_symm (hall second hmem).2
    have htrue : sameDocumentLoop env second.url (s.itemsBetween a b) = some true :=
      sameDocumentLoop_eq_true.2 fun item hitem =>
        ⟨(hall item hitem).1, isHistoryStateChangeValid_trans hback (hall item hitem).2⟩
    exact Option.some.inj (htrue.symm.trans hy)
  | false =>
    cases y with
    | false => rfl
    | true =>
      -- the next item links the origin of the second one to that of the first
      have hall := sameDocumentLoop_eq_true.1 hy
      obtain ⟨hcreated, hnext⟩ := hall next (hbetween ▸ mem_cons_self)
      have hlink : isHistoryStateChangeValid env first.url next.url = some true := by
        have hnot := hfollows hcreated
        rw [hbetween, sameDocumentLoop_cons, if_neg (by rw [hcreated]; decide)] at hx
        cases hvalid : isHistoryStateChangeValid env first.url next.url with
        | none =>
          rw [hvalid] at hx
          cases hx
        | some valid =>
          cases valid with
          | true => rfl
          | false => exact absurd hvalid hnot
      have hfirst' := isHistoryStateChangeValid_trans hlink (isHistoryStateChangeValid_symm hnext)
      have htrue : sameDocumentLoop env first.url (s.itemsBetween a b) = some true :=
        sameDocumentLoop_eq_true.2 fun item hitem =>
          ⟨(hall item hitem).1, isHistoryStateChangeValid_trans hfirst' (hall item hitem).2⟩
      exact Option.some.inj (hx.symm.trans htrue)

/-- **Order of the arguments**: the answers agree in either order exactly when
the history is chained. -/
theorem answersAgree_iff_chained : s.AnswersAgree env ↔ s.Chained env := by
  constructor
  · intro hagree
    refine isChain_iff_getElem.2 fun a ha => ?_
    have ha' : a + 1 < s.items.length := by rwa [history, length_map] at ha
    have hfirst : s.items[a]? = some s.items[a] := getElem?_eq_getElem (by omega)
    have hnext : s.items[a + 1]? = some s.items[a + 1] := getElem?_eq_getElem ha'
    rw [getElem_history _ ha', getElem_history _ (by omega)]
    generalize s.items[a] = first at hfirst
    generalize s.items[a + 1] = next at hnext
    intro hcreated hdiffer
    -- the test between the two is `NO` one way and `YES` the other
    have hvalid : next.url.isValid = true := by
      rw [isHistoryStateChangeValid] at hdiffer
      split at hdiffer
      · next hboth =>
        rw [Bool.and_eq_true] at hboth
        exact hboth.2
      · cases hdiffer
    have hbetween : s.itemsBetween a (a + 1) = [next] := by
      obtain ⟨hlt, rfl⟩ := List.getElem?_eq_some_iff.1 hnext
      rw [itemsBetween, drop_take, Nat.add_sub_cancel_left, drop_eq_getElem_cons hlt]
      rfl
    obtain ⟨hforward, hback⟩ := isSameDocumentNavigation_eq env (Nat.lt_succ_self a)
      hfirst hnext
    rw [hbetween, sameDocumentLoop_cons, if_neg (by rw [hcreated]; decide)] at hforward hback
    rw [show isHistoryStateChangeValid env first.url next.url = some false from hdiffer] at hforward
    rw [isHistoryStateChangeValid_self hvalid] at hback
    have hcontra := hagree a (a + 1 : Nat) ⟨by omega, by omega⟩ ⟨by omega, by omega⟩ _ _ hforward
      hback
    cases hcontra
  · intro hchained i j hi hj x y hx hy
    obtain ⟨a, ha, rfl⟩ := hi.exists_nat
    obtain ⟨b, hb, rfl⟩ := hj.exists_nat
    have hfirst := getElem?_eq_getElem ha
    have hsecond := getElem?_eq_getElem hb
    rcases Nat.lt_trichotomy a b with hab | rfl | hba
    · obtain ⟨hforward, hback⟩ := isSameDocumentNavigation_eq env hab hfirst hsecond
      exact hchained.answer_eq hab hfirst hsecond (hforward ▸ hx) (hback ▸ hy)
    · exact Option.some.inj (hx.symm.trans hy)
    · obtain ⟨hforward, hback⟩ := isSameDocumentNavigation_eq env hba hsecond hfirst
      exact (hchained.answer_eq hba hsecond hfirst (hforward ▸ hy) (hback ▸ hx)).symm

/-- With valid URLs the test always answers. -/
theorem isSymmetric_iff_answersAgree (h : ∀ item ∈ s.items, item.url.isValid = true) :
    s.IsSymmetric env ↔ s.AnswersAgree env := by
  have hsome : ∀ i j : Int, InRange s.items.length i → InRange s.items.length j →
      (s.isSameDocumentNavigation env i j).isSome := by
    intro i j hi hj
    rw [isSameDocumentNavigation]
    split
    · rfl
    · have hvalid : ∀ c, InRange s.items.length c →
          (((nth? s.items c).map fun item : NavigationItemImpl => item.url).getD
            GURL.new).isValid = true := by
        intro c hc
        rw [nth?_of_inRange hc]
        exact h _ (get_mem _ _)
      refine sameDocumentLoop_isSome (hvalid i hi) fun item hitem => h item ?_
      exact mem_of_mem_take (mem_of_mem_drop hitem)
  constructor
  · intro hsym i j hi hj x y hx hy
    exact Option.some.inj (hx.symm.trans ((hsym i j hi hj).trans hy))
  · intro hagree i j hi hj
    obtain ⟨x, hx⟩ := Option.isSome_iff_exists.1 (hsome i j hi hj)
    obtain ⟨y, hy⟩ := Option.isSome_iff_exists.1 (hsome j i hj hi)
    rw [hx, hy, hagree i j hi hj x y hx hy]

/-! ## What the methods do to the links -/

/-- The link of an item is overwritten. -/
def rewrite (items : List NavigationItemImpl) (index : Nat)
    (f : NavigationItemImpl → NavigationItemImpl) : ListEdit Link :=
  match items[index]? with
  | some item => .write index (f item).link
  | none => .keep

theorem map_modify_link (items : List NavigationItemImpl) (index : Nat)
    (f : NavigationItemImpl → NavigationItemImpl) :
    (items.modify index f).map (·.link) = (rewrite items index f).apply (items.map (·.link)) := by
  rw [rewrite]
  cases hitem : items[index]? with
  | none =>
    rw [modify_eq_self (List.getElem?_eq_none_iff.1 hitem)]
    rfl
  | some item =>
    obtain ⟨hlt, rfl⟩ := List.getElem?_eq_some_iff.1 hitem
    rw [modify_eq_set_getElem? , hitem]
    exact map_set

/-- A change of other fields. -/
theorem map_modify_of_link {f : NavigationItemImpl → NavigationItemImpl}
    (hf : ∀ item, (f item).link = item.link) (items : List NavigationItemImpl) (index : Nat) :
    (items.modify index f).map (·.link) = items.map (·.link) := by
  refine ext_getElem? fun i => ?_
  rw [getElem?_map, getElem?_map, getElem?_modify]
  cases items[i]? with
  | none => rfl
  | some item =>
    by_cases hi : index = i
    · simp [hi, hf]
    · simp [hi]

section Frame

variable {f : NavigationItemImpl → NavigationItemImpl}

theorem history_modifyPendingItem (hf : ∀ item, (f item).link = item.link) :
    (s.modifyPendingItem f).history = s.history := by
  rw [modifyPendingItem]
  split
  · rfl
  · exact map_modify_of_link hf _ _

theorem history_modifyCurrentItem (hf : ∀ item, (f item).link = item.link) :
    (s.modifyCurrentItem f).history = s.history := by
  rw [modifyCurrentItem]
  split
  · rfl
  · split
    · exact history_modifyPendingItem hf
    · split
      · rfl
      · exact map_modify_of_link hf _ _

theorem history_setLastCommittedItemIndex (index : Int) :
    (s.setLastCommittedItemIndex index).history = s.history := by
  rw [setLastCommittedItemIndex]
  split <;> rfl

end Frame

theorem history_clearForwardItems (s : CRWSessionController) :
    s.clearForwardItems.history = s.history.take (s.lastCommittedItemIndex + 1).toNat := by
  rw [clearForwardItems]
  show (if s.lastCommittedItemIndex + 1 ≥ s.items.length then _ else _ :
    CRWSessionController).history = _
  split
  · next h =>
    have hlength : (s.items.length : Int) ≤ s.lastCommittedItemIndex + 1 := h
    have hall : s.history.length ≤ (s.lastCommittedItemIndex + 1).toNat := by
      rw [history, length_map]
      omega
    exact (take_of_length_le hall).symm
  · exact map_take

/-- A new item is committed behind the last committed one. -/
theorem history_commitItem {item : NavigationItemImpl} (hnew : s.pendingItemIndex = -1)
    (hitem : s.ownedPendingItem = some item) :
    s.commitItem.history =
      s.history.take (s.lastCommittedItemIndex + 1).toNat ++ [item.link] := by
  let reset := { s with ownedPendingItem := some item.resetForCommit }
  have hreset : s.modifyPendingItem (·.resetForCommit) = reset := by
    rw [modifyPendingItem, if_pos hnew, hitem]
    rfl
  have hcleared := history_clearForwardItems reset
  rw [commitItem, hreset]
  show (setLastCommittedItemIndex _ _).history = _
  rw [history_setLastCommittedItemIndex]
  show (if s.pendingItemIndex = -1 then _ else _ : CRWSessionController).history = _
  rw [if_pos hnew]
  show (reset.clearForwardItems.items ++ [item.resetForCommit]).map (·.link) = _
  rw [map_append]
  exact congrArg (· ++ [item.link]) hcleared

/-- A history item is committed where it is. -/
theorem history_commitItem_of_index (h : s.pendingItemIndex ≠ -1) :
    s.commitItem.history = s.history := by
  have hreset : (s.modifyPendingItem (·.resetForCommit)).history = s.history :=
    history_modifyPendingItem fun _ => rfl
  have hindex : (s.modifyPendingItem (·.resetForCommit)).pendingItemIndex ≠ -1 := by
    rw [modifyPendingItem, if_neg h]
    exact h
  rw [commitItem]
  generalize s.modifyPendingItem (·.resetForCommit) = reset at hreset hindex
  show (setLastCommittedItemIndex _ _).history = _
  rw [history_setLastCommittedItemIndex]
  show (if reset.pendingItemIndex = -1 then _ else _ : CRWSessionController).history = _
  rw [if_neg hindex, hreset]

end CRWSessionController

/-! ## The machine -/

/-- A pointer through which other code writes to an item. -/
inductive ItemPointer
  | committed (index : Nat)
  /-- The pending item of a new navigation. -/
  | newPending
deriving DecidableEq, Repr

/-- A call of a method of the session controller, or a setter of an item that
the rest of the browser calls: `SetURL` when a page is reloaded or its URL is
spelled differently, `SetIsCreatedFromHashChange` when the fragment changes. -/
inductive HistoryOp
  | session (op : Op)
  | setURL (item : ItemPointer) (url : GURL)
  | setIsCreatedFromHashChange (item : ItemPointer) (hashChange : Bool)

namespace SameDocument

/-- Writes to the item a pointer leads to. -/
def writeItem (p : Process) (f : NavigationItemImpl → NavigationItemImpl) :
    ItemPointer → Process
  | .committed index => { p with session := p.session.modifyItemAt index f }
  | .newPending =>
    { p with session := { p.session with ownedPendingItem := p.session.ownedPendingItem.map f } }

def step (p : Process) : HistoryOp → Process
  | .session op => p.apply env op
  | .setURL item url => writeItem p (·.setURL url) item
  | .setIsCreatedFromHashChange item hashChange =>
    writeItem p (fun item => { item with isCreatedFromHashChange := hashChange }) item

/-- A session whose methods are called as their checks ask, and whose items are
written to. -/
def machine (env : Environment) : Machine Process HistoryOp where
  Pre p
    | .session op => (Process.machine env).Pre p op
    | _ => True
  step := step env

instance decidablePre (env : Environment) (p : Process) :
    ∀ op : HistoryOp, Decidable ((machine env).Pre p op)
  | .session op => Process.decidablePre env p op
  | .setURL .. | .setIsCreatedFromHashChange .. => instDecidableTrue

/-- What a write through a pointer does to the links. -/
def writeEdit (s : CRWSessionController) (f : NavigationItemImpl → NavigationItemImpl) :
    ItemPointer → ListEdit Link
  | .committed index => rewrite s.items index f
  | .newPending => .keep

/-- What a call does to the links. A new item is put behind the committed one;
a redirect of a history item and `updateCurrentItem` write a URL in place. -/
def callEdit (p : Process) : Call → ListEdit Link
  | .commitPendingItem _ =>
    if p.session.pendingItemIndex = -1 then
      match p.session.ownedPendingItem with
      | some item => .extend (p.session.lastCommittedItemIndex + 1).toNat item.link
      | none => .keep
    else .keep
  | .pushNewItem url _ transition _ =>
    match p.session.lastCommittedItem with
    | some last =>
      .extend (p.session.lastCommittedItemIndex + 1).toNat
        ⟨(itemWithURL env p url ⟨last.url, .default⟩ transition .userInitiated).item.url, true⟩
    | none => .keep
  | .updatePendingItem url =>
    if p.session.pendingItemIndex = -1 then .keep
    else
      match p.session.pendingItem with
      | some item =>
        if !url.eq item.url then
          rewrite p.session.items p.session.pendingItemIndex.toNat (·.setURL url)
        else .keep
      | none => .keep
  | .updateCurrentItem url _ =>
    if p.session.transientItem.isSome then .keep
    else if p.session.pendingItem.isSome then
      if p.session.pendingItemIndex = -1 then .keep
      else rewrite p.session.items p.session.pendingItemIndex.toNat (·.setURL url)
    else if p.session.lastCommittedItemIndex = -1 then .keep
    else rewrite p.session.items p.session.lastCommittedItemIndex.toNat (·.setURL url)
  | .removeItemAtIndex index => .erase index.toNat
  | .addPendingItem .. | .setPendingItemIndex _ | .addTransientItem .. | .discardNonCommittedItems
  | .goToItemAtIndex .. | .setNavigationManager _ => .keep

/-- What merging two histories does to the links. -/
def copyEdit (s source : CRWSessionController) : ListEdit Link :=
  if s.canPruneAllButLastCommittedItem && source.lastCommittedItem.isSome then
    match nth? s.items s.lastCommittedItemIndex with
    | some own =>
      .merge ((source.items.take (source.lastCommittedItemIndex.toNat + 1)).map (·.link)) own.link
    | none => .keep
  else .keep

def linkEdit (p : Process) : HistoryOp → ListEdit Link
  | .session (.call c) => callEdit env p c
  | .session (.copyStateFromSessionControllerAndPrune source) => copyEdit p.session source
  | .setURL item url => writeEdit p.session (·.setURL url) item
  | .setIsCreatedFromHashChange item hashChange =>
    writeEdit p.session (fun item => { item with isCreatedFromHashChange := hashChange }) item

/-- The step makes no neighbours of different origins, the later of which was
created in a page. -/
def KeepsChain (p : Process) (op : HistoryOp) : Prop :=
  (linkEdit env p op).Fits (Follows env) p.session.history

instance (p : Process) (op : HistoryOp) : Decidable (KeepsChain env p op) :=
  ListEdit.decidableFits (Follows env) p.session.history (linkEdit env p op)

/-! ## Each step is its edit -/

variable {env : Environment}

theorem history_commitPendingItem (env : Environment) (p : Process) (now : Time) :
    (p.session.commitPendingItem env now).history =
      (callEdit env p (.commitPendingItem now)).apply p.session.history := by
  have hcommit : (if p.session.pendingItem.isSome then p.session.commitItem
      else p.session).history =
      (callEdit env p (.commitPendingItem now)).apply p.session.history := by
    rw [callEdit]
    by_cases hnew : p.session.pendingItemIndex = -1
    · rw [if_pos hnew, pendingItem, if_pos hnew]
      cases hitem : p.session.ownedPendingItem with
      | none => rfl
      | some item => exact history_commitItem hnew hitem
    · rw [if_neg hnew]
      split
      · exact history_commitItem_of_index hnew
      · rfl
  rw [commitPendingItem, ← hcommit]
  generalize (if p.session.pendingItem.isSome then p.session.commitItem else p.session) = t
  simp only
  split
  · exact history_modifyCurrentItem fun _ => rfl
  · rfl

theorem history_pushNewItem (env : Environment) (p : Process) (url : GURL)
    (stateObject : Option String16) (transition : PageTransition) (now : Time) :
    (pushNewItem env p url stateObject transition now).session.history =
      (callEdit env p (.pushNewItem url stateObject transition now)).apply p.session.history := by
  rw [pushNewItem, callEdit]
  cases p.session.lastCommittedItem with
  | none => rfl
  | some last =>
    simp only
    generalize hcreated : itemWithURL env p url ⟨last.url, .default⟩ transition .userInitiated =
      created
    have hhistory : created.session.history = p.session.history := hcreated ▸ rfl
    have hlast : created.session.lastCommittedItemIndex = p.session.lastCommittedItemIndex :=
      hcreated ▸ rfl
    generalize created.session.timeSmoother.getSmoothedTime now = smoothed
    have hcleared := history_clearForwardItems
      { created.session with timeSmoother := smoothed.2 }
    show (setLastCommittedItemIndex _ _).history = _
    rw [history_setLastCommittedItemIndex]
    show List.map _ (items _ ++ [_]) = _
    rw [map_append]
    rw [show List.map NavigationItemImpl.link _ = _ from hcleared]
    show created.session.history.take (created.session.lastCommittedItemIndex + 1).toNat ++ _ =
      p.session.history.take _ ++ [⟨created.item.url, true⟩]
    rw [hhistory, hlast]
    rfl

theorem history_updatePendingItem (env : Environment) (p : Process) (url : GURL) :
    (p.session.updatePendingItem url).history =
      (callEdit env p (.updatePendingItem url)).apply p.session.history := by
  rw [updatePendingItem, callEdit]
  cases hitem : p.session.pendingItem with
  | none =>
    simp only [ite_self]
    rfl
  | some item =>
    simp only
    by_cases hurl : (!url.eq item.url) = true
    · rw [if_pos hurl, if_pos hurl, modifyPendingItem]
      show (if p.session.pendingItemIndex = -1 then _ else _ : CRWSessionController).history = _
      split
      · rfl
      · exact map_modify_link _ _ _
    · rw [if_neg hurl, if_neg hurl, ite_self]
      rfl

theorem history_updateCurrentItem (env : Environment) (p : Process) (url : GURL)
    (stateObject : Option String16) :
    (p.session.updateCurrentItem url stateObject).history =
      (callEdit env p (.updateCurrentItem url stateObject)).apply p.session.history := by
  have hmodified : (p.session.modifyCurrentItem fun item =>
      { item.setURL url with
        serializedStateObject := stateObject
        hasStateBeenReplaced := true
        postData := none }).history =
      (callEdit env p (.updateCurrentItem url stateObject)).apply p.session.history := by
    rw [modifyCurrentItem, callEdit]
    split
    · rfl
    · split
      · rw [modifyPendingItem]
        split
        · rfl
        · exact map_modify_link _ _ _
      · split
        · rfl
        · exact map_modify_link _ _ _
  rw [updateCurrentItem]
  split
  · exact hmodified
  · exact hmodified

theorem history_removeItemAtIndex (s : CRWSessionController) (index : Int) :
    (s.removeItemAtIndex index).history = s.history.eraseIdx index.toNat := by
  rw [history, history, eraseIdx_map]
  rfl

/-- The guards of `copyEdit` are those of the method. -/
theorem not_copyBlocked_iff {s source : CRWSessionController} (hs : s.Valid) :
    ¬ s.CopyBlocked source ↔
      (s.canPruneAllButLastCommittedItem && source.lastCommittedItem.isSome) = true := by
  rw [Bool.and_eq_true, canPrune_iff hs, Option.isSome_iff_ne_none]
  simp [CopyBlocked, and_assoc]

theorem history_copyState {s source : CRWSessionController} (hs : s.Valid) :
    (s.copyStateFromSessionControllerAndPrune source).history =
      (copyEdit s source).apply s.history := by
  rw [copyEdit]
  by_cases hblocked : s.CopyBlocked source
  · rw [copyState_of_blocked hs hblocked,
      if_neg fun hopen => (not_copyBlocked_iff hs).2 hopen hblocked]
    rfl
  · obtain ⟨own, hown⟩ : ∃ own, s.lastCommittedItem = some own :=
      Option.ne_none_iff_exists'.1 fun hnone => hblocked (.inl hnone)
    rw [(copyState_of_not_blocked hs hown hblocked).2,
      if_pos ((not_copyBlocked_iff hs).1 hblocked), ← lastCommittedItem_eq,
      hown]
    show (source.committedCopies ++ [own]).map (·.link) = _
    rw [map_append, committedCopies, map_map]
    rfl

theorem history_goToItemAtIndex (s : CRWSessionController) (index : Int) (discard : Bool) :
    (s.goToItemAtIndex index discard).history = s.history := by
  rw [goToItemAtIndex]
  split
  · rfl
  · split
    · rfl
    · split
      · split <;> rfl
      · rfl

/-- **Refinement**: a step edits the links of the history. -/
theorem history_step {p : Process} (hp : p.session.Valid) (op : HistoryOp) :
    (step env p op).session.history = (linkEdit env p op).apply p.session.history := by
  cases op with
  | session op =>
    cases op with
    | copyStateFromSessionControllerAndPrune source => exact history_copyState hp
    | call c =>
      cases c with
      | commitPendingItem now => exact history_commitPendingItem env p now
      | pushNewItem url stateObject transition now =>
        exact history_pushNewItem env p url stateObject transition now
      | updatePendingItem url => exact history_updatePendingItem env p url
      | updateCurrentItem url stateObject => exact history_updateCurrentItem env p url stateObject
      | removeItemAtIndex index => exact history_removeItemAtIndex p.session index
      | goToItemAtIndex index discard => exact history_goToItemAtIndex p.session index discard
      | addPendingItem url referrer transition initiationType userAgentOverrideOption =>
        show (addPendingItem env p url referrer transition initiationType
          userAgentOverrideOption).session.history = p.session.history
        rw [addPendingItem]
        simp only
        split <;> rfl
      | setPendingItemIndex _ | addTransientItem _ _ | discardNonCommittedItems
      | setNavigationManager _ => rfl
  | setURL item url =>
    cases item with
    | committed index => exact map_modify_link _ _ _
    | newPending => rfl
  | setIsCreatedFromHashChange item hashChange =>
    cases item with
    | committed index => exact map_modify_link _ _ _
    | newPending => rfl

/-- A step keeps a chained history chained exactly when it makes no neighbours
of different origins. -/
theorem chained_step_iff {p : Process} (hp : p.session.Valid) (h : p.session.Chained env)
    (op : HistoryOp) : (step env p op).session.Chained env ↔ KeepsChain env p op := by
  rw [Chained, history_step hp]
  exact ListEdit.isChain_apply_iff h _

theorem step_valid {p : Process} (hp : p.session.Valid) {op : HistoryOp}
    (hop : (machine env).Pre p op) : (step env p op).session.Valid := by
  have hwrite : ∀ (f : NavigationItemImpl → NavigationItemImpl) (item : ItemPointer),
      (∀ x, (f x).uniqueId = x.uniqueId) → (writeItem p f item).session.Valid := by
    intro f item hf
    refine NavigationManagerImpl.valid_of_skeleton ?_ hp
    cases item with
    | committed index => exact skeleton_modifyItemAt hf index
    | newPending =>
      refine Skeleton.ext rfl rfl rfl rfl ?_
      show (p.session.ownedPendingItem.map f).map _ = p.session.ownedPendingItem.map _
      rw [Option.map_map]
      exact congrArg (Option.map · _) (funext hf)
  cases op with
  | session op => exact Process.apply_valid env hp (Process.InBounds.of_pre hop)
  | setURL item url => exact hwrite _ item fun _ => rfl
  | setIsCreatedFromHashChange item hashChange => exact hwrite _ item fun _ => rfl

/-- **Symmetry of the same-document test**: from a valid chained history on, the
answers in the two orders agree in every state exactly when no step makes
neighbours of different origins, the later of which was created in a page. With
valid URLs the test always answers, so it is then symmetric. -/
theorem sameDocument_symmetric_iff (env : Environment) {p : Process} (hvalid : p.session.Valid)
    (hchained : p.session.Chained env) {ops : List HistoryOp} (hops : (machine env).Legal p ops) :
    let reached := fun before => ((machine env).run p before).session
    ((∀ before, before <+: ops → (reached before).AnswersAgree env) ↔
        (machine env).Along (KeepsChain env) p ops) ∧
      ((∀ before, before <+: ops → ∀ item ∈ (reached before).items, item.url.isValid = true) →
        ((∀ before, before <+: ops → (reached before).IsSymmetric env) ↔
          (machine env).Along (KeepsChain env) p ops)) := by
  intro reached
  have hagree : (∀ before, before <+: ops → (reached before).AnswersAgree env) ↔
      (machine env).Along (KeepsChain env) p ops := by
    refine Machine.always_iff_along (M := machine env) (C := (machine env).Pre)
      (I := fun p => p.session.Valid ∧ p.session.Chained env)
      (P := fun p => p.session.AnswersAgree env) ?_ ?_ ?_ ⟨hvalid, hchained⟩ hops
    · exact fun p h => answersAgree_iff_chained.2 h.2
    · exact fun p op h hop hkeeps => ⟨step_valid h.1 hop, (chained_step_iff h.1 h.2 op).2 hkeeps⟩
    · intro p op h _ hbreaks hanswers
      exact hbreaks ((chained_step_iff h.1 h.2 op).1
        (answersAgree_iff_chained.1 hanswers))
  refine ⟨hagree, fun hurls => ?_⟩
  rw [← hagree]
  constructor
  · intro hsym before hbefore
    exact (isSymmetric_iff_answersAgree (hurls before hbefore)).1
      (hsym before hbefore)
  · intro hanswers before hbefore
    exact (isSymmetric_iff_answersAgree (hurls before hbefore)).2
      (hanswers before hbefore)

/-- An environment for URLs whose origin is their first 13 characters. -/
def siteEnvironment : Environment :=
  { plainEnvironment with
    getOrigin := fun url => ⟨String.ofList (url.possiblyInvalidSpec.toList.take 13), url.isValid⟩ }

/-- Loading and committing a page of `siteEnvironment`. -/
def visit (url : String) : List HistoryOp :=
  [.session (.call (.addPendingItem ⟨url, true⟩ .new .typed .userInitiated .inherit)),
    .session (.call (.commitPendingItem 0))]

def pushState (url : String) : HistoryOp :=
  .session (.call (.pushNewItem ⟨url, true⟩ none .link 0))

/-- A run that visits two sites, pushes a state and goes back to it after the
item of the other site is removed. -/
theorem sameDocument_symmetric_pushed :
    let ops := visit "http://a.com/1" ++ visit "http://b.com/1" ++
      [pushState "http://b.com/2", .setIsCreatedFromHashChange (.committed 2) true,
        .session (.call (.removeItemAtIndex 0)), .session (.call (.goToItemAtIndex 0 true))]
    ((machine siteEnvironment).run new ops).session.AnswersAgree siteEnvironment ∧
      ((machine siteEnvironment).run new ops).session.isSameDocumentNavigation
        siteEnvironment 0 1 = some true := by
  intro ops
  have hops : (machine siteEnvironment).Along (machine siteEnvironment).Pre new ops := by
    decide +kernel
  have hkeeps : (machine siteEnvironment).Along (KeepsChain siteEnvironment) new ops := by
    decide +kernel
  have h := sameDocument_symmetric_iff siteEnvironment valid_new
    (show List.IsChain _ [] from isChain_nil) hops
  exact ⟨h.1.2 hkeeps ops prefix_rfl, by decide +kernel⟩

/-- The first page of the second site is removed: the test between the page of
the first site and the pushed item depends on the order. -/
theorem removal_breaks_symmetry :
    let ops := visit "http://a.com/1" ++ visit "http://b.com/1" ++
      [pushState "http://b.com/2", .session (.call (.removeItemAtIndex 1))]
    let s := ((machine siteEnvironment).run new ops).session
    (machine siteEnvironment).Along (machine siteEnvironment).Pre new ops ∧
      s.isSameDocumentNavigation siteEnvironment 0 1 = some false ∧
      s.isSameDocumentNavigation siteEnvironment 1 0 = some true := by
  decide +kernel

end SameDocument

end ChromiumIos
