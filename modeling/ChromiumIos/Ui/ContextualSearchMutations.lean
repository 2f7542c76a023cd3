import ChromiumIos.Lib.Keyed
import ChromiumIos.Lib.Machine
import ChromiumIos.Lib.OrderedDict

/-!
# Mutation records of contextual search

`contextualsearch.js`: an observer of the page records when each element was last
mutated, under the id of the element, and counts the records. Now and then it prunes
them.

- `observe`: the callback of the observer.
- `prune_kept`, `forEach_kept`: what the two parts of the callback leave of the
  records.
- `bookkept_of_settled`: a run keeps its records when no element is mutated twice
  and nothing mutated lately is there to prune.
-/

namespace ChromiumIos

open Lib

namespace ContextualSearch

/-- A time, or a span of time, in milliseconds. -/
abbrev Millisecond := Int

abbrev Text := List Char

/-- What the record of a mutation says of its target. -/
inductive Change (Element : Type)
  /-- An attribute with its value now, which is read from the page where it is the id. -/
  | attributes (target : Element) (offsetParent : Bool) (attributeName : Text)
    (value oldValue : Option Text)
  | characterData (parentElement : Option Element) (textContent oldValue : Text)
deriving DecidableEq, Repr

structure MutationRecord (Element : Type) where
  /-- The target, if there is one, and what happened to it. -/
  target : Option (Change Element)
  /-- Whether there is a highlighted range and it intersects the target. -/
  intersectsHighlight : Bool
deriving DecidableEq, Repr

/-- `Context`, and the ids of the elements of the page. -/
structure Context (Element : Type) where
  ids : Keyed Element Text
  mutatedElements : OrderedDict Text Millisecond
  mutationCount : Int
  lastMutationPrune : Millisecond
  lastDOMMutationMillisecond : Millisecond
  mutationIdCounter : Nat
  mutationEventForwarded : Bool
  /-- How often the host was told of a mutation. -/
  mutationEvents : Nat

variable {Element : Type} [DecidableEq Element]

namespace Context

omit [DecidableEq Element] in
def initial (ids : Keyed Element Text) : Context Element where
  ids
  mutatedElements := .empty
  mutationCount := 0
  lastMutationPrune := 0
  lastDOMMutationMillisecond := 0
  mutationIdCounter := 0
  mutationEventForwarded := false
  mutationEvents := 0

/-! ## Ids -/

/-- `element.id`, which is empty without an attribute. -/
def id (s : Context Element) (element : Element) : Text := (s.ids.get? element).getD []

/-- `Context.newID`. -/
def newID (mutationIdCounter : Nat) (nonce : Millisecond) : Text :=
  "__CTXSM___".toList ++ (toString mutationIdCounter).toList ++ "__".toList ++
    (toString nonce).toList

/-- `/^__CTXSM___\d__\d+/`. -/
def startsWithTrackingId (text : Text) : Bool :=
  "__CTXSM___".toList.isPrefixOf text &&
    match text.drop "__CTXSM___".toList.length with
    | counter :: '_' :: '_' :: nonce :: _ => counter.isDigit && nonce.isDigit
    | _ => false

/-- `/__CTXSM___\d__\d+/`, anywhere in the text. -/
def matchesTrackingId (text : Text) : Bool := text.tails.any startsWithTrackingId

/-! ## The records -/

omit [DecidableEq Element] in
/-- `Context.recordMutation`; a number is not stored as the prototype of the object. -/
def recordMutation (s : Context Element) (mutationId : Text) (mutationTime : Millisecond) :
    Context Element :=
  { s with
    mutatedElements :=
      if mutationId = "__proto__".toList then s.mutatedElements
      else s.mutatedElements.set mutationId mutationTime
    mutationCount := s.mutationCount + 1 }

omit [DecidableEq Element] in
/-- `Context.clearMutation`. -/
def clearMutation (s : Context Element) (mutationId : Text) : Context Element :=
  { s with
    mutatedElements := s.mutatedElements.delete mutationId
    mutationCount := s.mutationCount - 1 }

omit [DecidableEq Element] in
/-- The loop of `Context.processMutations` over the ids that were there when it began. -/
def processMutations (func : Text → Millisecond → Context Element → Context Element × Bool) :
    List Text → Context Element → Context Element
  | [], s => s
  | mutationId :: ids, s =>
    match s.mutatedElements.get? mutationId with
    | none => processMutations func ids s
    | some mutationTime =>
      let (s', stop) := func mutationId mutationTime s
      if stop then s' else processMutations func ids s'

/-! ## The observer -/

/-- Whether it is time to prune. -/
def PruneDue (timeout now : Millisecond) (s : Context Element) : Prop :=
  now - s.lastMutationPrune > timeout

omit [DecidableEq Element] in
instance (timeout now : Millisecond) (s : Context Element) : Decidable (PruneDue timeout now s) :=
  inferInstanceAs (Decidable (now - s.lastMutationPrune > timeout))

omit [DecidableEq Element] in
/-- What the observer passes to `processMutations`. -/
def pruneRecord (timeout now : Millisecond) (mutationId : Text) (mutationTime : Millisecond)
    (s : Context Element) : Context Element × Bool :=
  (if now - mutationTime ≤ timeout then s.clearMutation mutationId else s, false)

omit [DecidableEq Element] in
def prune (timeout now : Millisecond) (s : Context Element) : Context Element :=
  if PruneDue timeout now s then
    { processMutations (pruneRecord timeout now) s.mutatedElements.keys s with
      lastMutationPrune := now }
  else s

/-- `target.getAttribute(attributeName)`. -/
def getAttribute (s : Context Element) (target : Element) (attributeName : Text)
    (value : Option Text) : Option Text :=
  if attributeName = "id".toList then s.ids.get? target else value

/-- Whether a value of an attribute is "false-ish". -/
def falsish (value : Option Text) : Bool := value.getD [] = []

/-- Whether the observer counts a mutation. -/
def counts (s : Context Element) : Change Element → Bool
  | .attributes target offsetParent attributeName value oldValue =>
    let current := s.getAttribute target attributeName value
    offsetParent && current ≠ oldValue && !(falsish current && falsish oldValue) &&
      !(attributeName = "id".toList && (matchesTrackingId (s.id target) || s.id target = []))
  | .characterData _ textContent oldValue => textContent ≠ oldValue

omit [DecidableEq Element] in
/-- The element whose id the mutation is recorded under. -/
def idContainer : Change Element → Option Element
  | .attributes target .. => some target
  | .characterData parentElement .. => parentElement

/-- The element of a mutation that counts: none of them where a text has left its
parent. -/
def counted (s : Context Element) (mutation : MutationRecord Element) : Option (Option Element) :=
  match mutation.target with
  | none => none
  | some change => if s.counts change then some (idContainer change) else none

omit [DecidableEq Element] in
/-- Tells the host of the first mutation of what is highlighted, and notes the time. -/
def noteMutation (now : Millisecond) (mutation : MutationRecord Element) (s : Context Element) :
    Context Element :=
  let forward := mutation.intersectsHighlight && !s.mutationEventForwarded
  { s with
    mutationEventForwarded := s.mutationEventForwarded || forward
    mutationEvents := s.mutationEvents + forward.toNat
    lastDOMMutationMillisecond := now }

/-- The id a mutation of `element` is recorded under: its own, or a new one. -/
def recordId (now : Millisecond) (element : Element) (s : Context Element) : Text :=
  if s.id element = [] then newID s.mutationIdCounter now else s.id element

/-- Records a mutation of `element`, which is given an id if it has none. -/
def recordElement (now : Millisecond) (element : Element) (s : Context Element) :
    Context Element :=
  let s' :=
    if s.id element = [] then
      { s with
        ids := s.ids.set element (newID s.mutationIdCounter now)
        mutationIdCounter := s.mutationIdCounter + 1 }
    else s
  s'.recordMutation (s.recordId now element) now

/-- The loop over the mutations of a batch. -/
def forEach (now : Millisecond) : List (MutationRecord Element) → Context Element → Context Element
  | [], s => s
  | mutation :: mutations, s =>
    match s.counted mutation with
    | none => forEach now mutations s
    -- Reading the id of the missing parent throws.
    | some none => s.noteMutation now mutation
    | some (some element) =>
      forEach now mutations ((s.noteMutation now mutation).recordElement now element)

/-- The callback of `DOMMutationObserver`. -/
def observe (timeout now : Millisecond) (mutations : List (MutationRecord Element))
    (s : Context Element) : Context Element :=
  forEach now mutations (prune timeout now s)

/-! ## What the callback leaves of the records -/

/-- The count is that of the records. -/
def Tallied (s : Context Element) : Prop := s.mutationCount = s.mutatedElements.size

section

omit [DecidableEq Element]

theorem clearMutation_tallied {s : Context Element} {mutationId : Text} (h : s.Tallied)
    (hmem : s.mutatedElements.get? mutationId ≠ none) : (s.clearMutation mutationId).Tallied := by
  have hsize := OrderedDict.size_delete hmem
  have hcount : s.mutationCount = s.mutatedElements.size := h
  show s.mutationCount - 1 = (s.mutatedElements.delete mutationId).size
  omega

theorem processMutations_pruneRecord_tallied (timeout now : Millisecond) (ids : List Text)
    {s : Context Element} (h : s.Tallied) :
    (processMutations (pruneRecord timeout now) ids s).Tallied := by
  induction ids generalizing s with
  | nil => exact h
  | cons mutationId ids ih =>
    rw [processMutations]
    cases hget : s.mutatedElements.get? mutationId with
    | none => exact ih h
    | some mutationTime =>
      refine ih ?_
      show (if now - mutationTime ≤ timeout then s.clearMutation mutationId else s).Tallied
      split
      · exact clearMutation_tallied h (by simp [hget])
      · exact h

/-- Pruning keeps what is older than the timeout. -/
theorem processMutations_pruneRecord_kept {timeout now time : Millisecond} {kept : Text}
    (hold : timeout < now - time) (ids : List Text) {s : Context Element}
    (h : s.mutatedElements.get? kept = some time) :
    (processMutations (pruneRecord timeout now) ids s).mutatedElements.get? kept = some time := by
  induction ids generalizing s with
  | nil => exact h
  | cons mutationId ids ih =>
    rw [processMutations]
    cases hget : s.mutatedElements.get? mutationId with
    | none => exact ih h
    | some mutationTime =>
      refine ih ?_
      show (if now - mutationTime ≤ timeout then s.clearMutation mutationId
        else s).mutatedElements.get? kept = some time
      split
      · next hrecent =>
        have hne : kept ≠ mutationId := by
          rintro rfl
          have htime : mutationTime = time := Option.some.inj (hget.symm.trans h)
          exact absurd (htime ▸ hrecent) (Int.not_le.2 hold)
        show (s.mutatedElements.delete mutationId).get? kept = some time
        rw [OrderedDict.get?_delete, if_neg hne, h]
      · exact h

theorem prune_tallied (timeout now : Millisecond) {s : Context Element} (h : s.Tallied) :
    (s.prune timeout now).Tallied := by
  unfold prune
  split
  · exact processMutations_pruneRecord_tallied timeout now _ h
  · exact h

theorem prune_kept {timeout now time : Millisecond} {s : Context Element} {kept : Text}
    (hold : s.PruneDue timeout now → timeout < now - time)
    (h : s.mutatedElements.get? kept = some time) :
    (s.prune timeout now).mutatedElements.get? kept = some time := by
  unfold prune
  split
  · next hdue => exact processMutations_pruneRecord_kept (hold hdue) _ h
  · exact h

end

/-- A record under a new key. -/
theorem get?_recordElement {now : Millisecond} {element : Element} {s : Context Element}
    (hproto : s.recordId now element ≠ "__proto__".toList) (mutationId : Text) :
    (s.recordElement now element).mutatedElements.get? mutationId =
      if mutationId = s.recordId now element then some now
      else s.mutatedElements.get? mutationId := by
  unfold recordElement recordMutation
  by_cases hid : s.id element = []
  · simp only [if_pos hid, if_neg hproto, OrderedDict.get?_set]
  · simp only [if_neg hid, if_neg hproto, OrderedDict.get?_set]

theorem recordElement_tallied {now : Millisecond} {element : Element} {s : Context Element}
    (h : s.Tallied) (hnew : s.mutatedElements.get? (s.recordId now element) = none)
    (hproto : s.recordId now element ≠ "__proto__".toList) :
    (s.recordElement now element).Tallied := by
  have hcount : s.mutationCount = s.mutatedElements.size := h
  have hsize := OrderedDict.size_set s.mutatedElements (s.recordId now element) now
  rw [if_pos hnew] at hsize
  unfold Tallied recordElement recordMutation
  by_cases hid : s.id element = []
  · simp only [if_pos hid, if_neg hproto, hsize]
    omega
  · simp only [if_neg hid, if_neg hproto, hsize]
    omega

end Context

/-! ## The page -/

/-- The context in a page that is seen mutating. -/
structure Page (Element : Type) where
  context : Context Element
  /-- The time of the last batch. -/
  now : Millisecond
  /-- When each element was last mutated, and under what id. -/
  lastMutated : Keyed Element (Text × Millisecond)

namespace Page

omit [DecidableEq Element] in
def initial (ids : Keyed Element Text) : Page Element := ⟨Context.initial ids, 0, .empty⟩

/-- The mutations of a batch that count, whatever becomes of their records. -/
def mutatedIn (now : Millisecond) : List (MutationRecord Element) → Context Element →
    Keyed Element (Text × Millisecond) → Keyed Element (Text × Millisecond)
  | [], _, lastMutated => lastMutated
  | mutation :: mutations, s, lastMutated =>
    match s.counted mutation with
    | none => mutatedIn now mutations s lastMutated
    | some none => mutatedIn now mutations (s.noteMutation now mutation) lastMutated
    | some (some element) =>
      mutatedIn now mutations ((s.noteMutation now mutation).recordElement now element)
        (lastMutated.set element (s.recordId now element, now))

inductive Op (Element : Type)
  /-- The page gives an element an id. -/
  | setId (element : Element) (newId : Text)
  /-- The observer is called with the mutations since its last call. -/
  | batch (now : Millisecond) (mutations : List (MutationRecord Element))

omit [DecidableEq Element] in
/-- Time does not go back. -/
def Pre (p : Page Element) : Op Element → Prop
  | .setId .. => True
  | .batch now _ => p.now ≤ now

instance (p : Page Element) : ∀ op, Decidable (Pre p op)
  | .setId .. => instDecidableTrue
  | .batch now _ => inferInstanceAs (Decidable (p.now ≤ now))

def step (timeout : Millisecond) (p : Page Element) : Op Element → Page Element
  | .setId element newId =>
    { p with context := { p.context with ids := p.context.ids.set element newId } }
  | .batch now mutations =>
    { context := p.context.observe timeout now mutations
      now
      lastMutated := mutatedIn now mutations (p.context.prune timeout now) p.lastMutated }

abbrev machine (timeout : Millisecond) : Machine (Page Element) (Op Element) := ⟨Pre, step timeout⟩

/-- The count is that of the records, and every element mutated within the timeout
has its latest mutation recorded. -/
structure Bookkept (timeout : Millisecond) (p : Page Element) : Prop where
  count : p.context.mutationCount = p.context.mutatedElements.size
  recorded : ∀ element mutationId time, p.lastMutated.get? element = some (mutationId, time) →
    p.now - time ≤ timeout → p.context.mutatedElements.get? mutationId = some time

/-! ## What a run needs -/

/-- Every mutation of the batch is of an element that has no record yet. -/
def Fresh (now : Millisecond) : List (MutationRecord Element) → Context Element → Prop
  | [], _ => True
  | mutation :: mutations, s =>
    match s.counted mutation with
    | none => Fresh now mutations s
    | some none => False
    | some (some element) =>
      (s.mutatedElements.get? (s.recordId now element) = none ∧
        s.recordId now element ≠ "__proto__".toList) ∧
      Fresh now mutations ((s.noteMutation now mutation).recordElement now element)

instance decidableFresh (now : Millisecond) :
    ∀ (mutations : List (MutationRecord Element)) (s : Context Element),
      Decidable (Fresh now mutations s)
  | [], _ => instDecidableTrue
  | mutation :: mutations, s =>
    let rest := (s.noteMutation now mutation)
    show Decidable
      (match s.counted mutation with
        | none => Fresh now mutations s
        | some none => False
        | some (some element) =>
          (s.mutatedElements.get? (s.recordId now element) = none ∧
            s.recordId now element ≠ "__proto__".toList) ∧
          Fresh now mutations (rest.recordElement now element)) from
      match s.counted mutation with
      | none => decidableFresh now mutations s
      | some none => instDecidableFalse
      | some (some element) =>
        @instDecidableAnd _ _ inferInstance
          (decidableFresh now mutations (rest.recordElement now element))

/-- What a run needs of a batch: nothing mutated lately is there when the records
are pruned, and nothing that has a record is mutated again. -/
def Settled (timeout : Millisecond) (p : Page Element) : Op Element → Prop
  | .setId .. => True
  | .batch now mutations =>
    (p.context.PruneDue timeout now → ∀ element, p.lastMutated.get? element ≠ none →
      ∀ last ∈ p.lastMutated.get? element, timeout < now - last.2) ∧
    Fresh now mutations (p.context.prune timeout now)

instance (timeout : Millisecond) (p : Page Element) : ∀ op, Decidable (Settled timeout p op)
  | .setId .. => instDecidableTrue
  | .batch _ _ => instDecidableAnd

/-! ## What a run keeps -/

theorem forEach_tallied {now : Millisecond} {mutations : List (MutationRecord Element)}
    {s : Context Element} (hfresh : Fresh now mutations s) (h : s.Tallied) :
    (s.forEach now mutations).Tallied := by
  induction mutations generalizing s with
  | nil => exact h
  | cons mutation mutations ih =>
    rw [Fresh] at hfresh
    rw [Context.forEach]
    match hcounted : s.counted mutation with
    | none =>
      rw [hcounted] at hfresh
      exact ih hfresh h
    | some none =>
      rw [hcounted] at hfresh
      exact hfresh.elim
    | some (some element) =>
      rw [hcounted] at hfresh
      exact ih hfresh.2
        (Context.recordElement_tallied (s := s.noteMutation now mutation) h hfresh.1.1 hfresh.1.2)

/-- The mutations of a batch are recorded, and the records there were stay. -/
theorem forEach_recorded {now : Millisecond} {recent : Millisecond → Prop}
    {mutations : List (MutationRecord Element)} {s : Context Element}
    {lastMutated : Keyed Element (Text × Millisecond)} (hfresh : Fresh now mutations s)
    (h : ∀ element mutationId time, lastMutated.get? element = some (mutationId, time) →
      recent time → s.mutatedElements.get? mutationId = some time) :
    ∀ element mutationId time,
      (mutatedIn now mutations s lastMutated).get? element = some (mutationId, time) →
      recent time → (s.forEach now mutations).mutatedElements.get? mutationId = some time := by
  induction mutations generalizing s lastMutated with
  | nil => exact h
  | cons mutation mutations ih =>
    rw [Fresh] at hfresh
    rw [Context.forEach, mutatedIn]
    match hcounted : s.counted mutation with
    | none =>
      rw [hcounted] at hfresh
      exact ih hfresh h
    | some none =>
      rw [hcounted] at hfresh
      exact hfresh.elim
    | some (some element) =>
      rw [hcounted] at hfresh
      obtain ⟨⟨hnew, hproto⟩, hrest⟩ := hfresh
      refine ih hrest fun other mutationId time hlast hrecent => ?_
      rw [Context.get?_recordElement (s := s.noteMutation now mutation) hproto]
      rw [Keyed.get?_set] at hlast
      split at hlast
      · obtain ⟨rfl, rfl⟩ := Prod.mk.inj (Option.some.inj hlast)
        exact if_pos rfl
      · have hold := h other mutationId time hlast hrecent
        have hne : mutationId ≠ s.recordId now element := by
          rintro rfl
          rw [hnew] at hold
          cases hold
        exact (if_neg hne).trans hold

omit [DecidableEq Element] in
theorem bookkept_initial (timeout : Millisecond) (ids : Keyed Element Text) [DecidableEq Element] :
    (initial ids).Bookkept timeout :=
  ⟨rfl, fun element mutationId time h => by cases h⟩

theorem bookkept_step {timeout : Millisecond} {p : Page Element} {op : Op Element}
    (h : p.Bookkept timeout) (hpre : Pre p op) (hsettled : Settled timeout p op) :
    (step timeout p op).Bookkept timeout := by
  cases op with
  | setId element newId => exact ⟨h.count, h.recorded⟩
  | batch now mutations =>
    obtain ⟨hprune, hfresh⟩ := hsettled
    refine ⟨forEach_tallied hfresh (Context.prune_tallied timeout now h.count), ?_⟩
    apply forEach_recorded hfresh
    intro element mutationId time hlast hrecent
    refine Context.prune_kept (fun hdue => ?_) (h.recorded element mutationId time hlast ?_)
    · exact hprune hdue element (by simp [hlast]) _ hlast
    · exact Int.le_trans (Int.sub_le_sub_right hpre time) hrecent

/-- In every state of a run whose batches all find the records settled, the count is
that of the records and every element mutated within the timeout has its latest
mutation recorded. -/
theorem bookkept_of_settled (timeout : Millisecond) (ids : Keyed Element Text)
    (ops : List (Op Element)) (hlegal : (machine timeout).Legal (initial ids) ops)
    (hsettled : (machine timeout).Along (Settled timeout) (initial ids) ops) :
    ∀ before, before <+: ops → ((machine timeout).run (initial ids) before).Bookkept timeout := by
  intro before hinitial
  have hboth := ((machine timeout).along_and hlegal hsettled).of_isPrefix hinitial
  exact Machine.run_invariant (M := machine timeout) (I := Bookkept timeout)
    (fun p op h hop => bookkept_step h hop.1 hop.2) (bookkept_initial timeout ids) hboth

/-- Three elements with the ids `a`, `b` and `c`. -/
def threeElements : Keyed Nat Text := ⟨[(1, ['a']), (2, ['b']), (3, ['c'])]⟩

/-- A change of the class of a visible element. -/
def classChange (element : Nat) : MutationRecord Nat where
  target := some (.attributes element true "class".toList (some ['x']) none)
  intersectsHighlight := false

/-- Three elements that mutate one after the other, the last when all is quiet. -/
theorem threeElements_bookkept :
    ((machine 200).run (initial threeElements)
      [.batch 1000 [classChange 1], .batch 1100 [classChange 2],
        .batch 1700 [classChange 3]]).Bookkept 200 :=
  bookkept_of_settled 200 threeElements
    [.batch 1000 [classChange 1], .batch 1100 [classChange 2], .batch 1700 [classChange 3]]
    (by decide +kernel) (by decide +kernel) _ (List.prefix_refl _)

/-- An element that mutates twice counts twice, and a pass that is to prune old records
takes the one of an element that mutated 150 milliseconds ago. -/
theorem remutated_and_pruned_not_bookkept :
    (∃ ops, (machine 200).Legal (initial threeElements) ops ∧
      ((machine 200).run (initial threeElements) ops).context.mutationCount = 2 ∧
      ((machine 200).run (initial threeElements) ops).context.mutatedElements.size = 1 ∧
      ¬((machine 200).run (initial threeElements) ops).Bookkept 200) ∧
    ∃ ops, (machine 200).Legal (initial threeElements) ops ∧
      ((machine 200).run (initial threeElements) ops).now = 1300 ∧
      ((machine 200).run (initial threeElements) ops).lastMutated.get? 2 = some (['b'], 1150) ∧
      ((machine 200).run (initial threeElements) ops).context.mutatedElements.get? ['b'] = none ∧
      ¬((machine 200).run (initial threeElements) ops).Bookkept 200 := by
  constructor
  · refine ⟨[.batch 1000 [classChange 1], .batch 1100 [classChange 1]], by decide +kernel,
      by decide +kernel, by decide +kernel, fun h => ?_⟩
    exact absurd h.count (by decide +kernel)
  · refine ⟨[.batch 1000 [classChange 1], .batch 1150 [classChange 2],
      .batch 1300 [classChange 3]], by decide +kernel, by decide +kernel, by decide +kernel,
      by decide +kernel, fun h => ?_⟩
    exact absurd (h.recorded 2 ['b'] 1150 (by decide +kernel) (by decide +kernel))
      (by decide +kernel)

end Page

end ContextualSearch

end ChromiumIos
