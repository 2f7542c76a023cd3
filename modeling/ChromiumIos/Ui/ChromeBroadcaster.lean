import Mathlib.Data.List.Nodup
import ChromiumIos.Lib.Keyed
import ChromiumIos.Lib.Machine

/-!
# `ChromeBroadcaster`

`chrome_broadcaster.mm`: a value of an object is broadcast under a selector of
`ChromeBroadcastObserver`, by key-value observing the object; observers of the
selector are told the value when they are added, when the broadcast starts and when
the value changes.

- `Inv.step`: what is broadcast is what is observed, and the observers were told the
  current values.
- `broadcastItem`, `Registered`, `currentValue`: what the calls say.
- `broadcast_consistent`: after every run the tables say what the calls say, whoever
  is registered was told the current value, and an observer that was removed is told
  nothing more.
-/

namespace ChromiumIos

open Lib List

/-- The type of the argument of a method of `ChromeBroadcastObserver`. -/
inductive BroadcastArgumentType
  | bool
  | cgFloat
deriving DecidableEq, Repr

inductive BroadcastArgument (CGFloat : Type)
  | bool (value : Bool)
  | cgFloat (value : CGFloat)
deriving DecidableEq, Repr

/-- What is used of `NSNumber`: equal numbers have equal values. -/
structure NSNumberValues (NSNumber CGFloat : Type) where
  boolValue : NSNumber → Bool
  cgfloatValue : NSNumber → CGFloat
  isEqualToValue : NSNumber → NSNumber → Bool
  boolValue_eq : ∀ a b, isEqualToValue a b = true → boolValue a = boolValue b
  cgfloatValue_eq : ∀ a b, isEqualToValue a b = true → cgfloatValue a = cgfloatValue b

/-- What is used of `CRBProtocolObservers`: a set of observers, which are invoked with
what the set is invoked with. -/
structure CRBProtocolObservers (Observer Observers : Type) where
  observers : Observers
  addObserver : Observers → Observer → Observers
  removeObserver : Observers → Observer → Observers
  empty : Observers → Bool
  invoked : Observers → List Observer
  invoked_observers : invoked observers = []
  mem_addObserver : ∀ observers observer other,
    other ∈ invoked (addObserver observers observer) ↔ other ∈ invoked observers ∨ other = observer
  mem_removeObserver : ∀ observers observer other,
    other ∈ invoked (removeObserver observers observer) ↔
      other ∈ invoked observers ∧ other ≠ observer
  empty_iff : ∀ observers, empty observers = true ↔ invoked observers = []

structure BroadcastItem (Selector Object : Type) where
  object : Object
  key : String
  name : Selector
deriving DecidableEq, Repr

/-- A method of an observer is called. -/
structure BroadcastCall (Selector CGFloat Observer : Type) where
  observer : Observer
  selector : Selector
  argument : BroadcastArgument CGFloat
deriving DecidableEq, Repr

/-- The broadcaster with the values that can be observed and its registrations for
them. `calls` only records what happened. -/
structure ChromeBroadcaster (Selector Object NSNumber CGFloat Observer Observers : Type) where
  values : Object → String → NSNumber
  /-- The object, the key path and the context that the broadcaster observes. -/
  registrations : List (BroadcastItem Selector Object)
  observers : Keyed Selector Observers
  items : Keyed Selector (BroadcastItem Selector Object)
  calls : List (BroadcastCall Selector CGFloat Observer)

namespace ChromeBroadcaster

variable {Selector Object NSNumber CGFloat Observer Observers : Type}
  [DecidableEq Selector]

def init (values : Object → String → NSNumber) :
    ChromeBroadcaster Selector Object NSNumber CGFloat Observer Observers where
  values
  registrations := []
  observers := .empty
  items := .empty
  calls := []

/-! ## Methods

A selector is one of the methods of `ChromeBroadcastObserver`, with the type of its
argument; an observer implements those it is added for. -/

section Methods

variable (numbers : NSNumberValues NSNumber CGFloat)
  (protocolObservers : CRBProtocolObservers Observer Observers)
  (argumentType : Selector → BroadcastArgumentType)
  (s : ChromeBroadcaster Selector Object NSNumber CGFloat Observer Observers)

omit [DecidableEq Selector] in
/-- `invocationForName:value:`, as the argument that it sets. -/
def invocationForName (name : Selector) (value : NSNumber) : BroadcastArgument CGFloat :=
  match argumentType name with
  | .bool => .bool (numbers.boolValue value)
  | .cgFloat => .cgFloat (numbers.cgfloatValue value)

/-- `observeValueForKeyPath:ofObject:change:context:`, as the calls that it makes. -/
def observeValueForKeyPath (name : Selector) (oldValue : Option NSNumber) (newValue : NSNumber) :
    List (BroadcastCall Selector CGFloat Observer) :=
  match s.observers.get? name with
  | none => []
  | some observers =>
    if oldValue.any (numbers.isEqualToValue newValue) then []
    else
      (protocolObservers.invoked observers).map fun observer =>
        ⟨observer, name, invocationForName numbers argumentType name newValue⟩

def broadcastValue (valueKey : String) (object : Object) (name : Selector) :
    ChromeBroadcaster Selector Object NSNumber CGFloat Observer Observers :=
  let item : BroadcastItem Selector Object := ⟨object, valueKey, name⟩
  { s with
    items := s.items.set name item
    registrations := s.registrations ++ [item]
    -- `NSKeyValueObservingOptionInitial`: told at once, without an old value
    calls := s.calls ++ s.observeValueForKeyPath numbers protocolObservers argumentType name none
      (s.values object valueKey) }

def stopBroadcastingForSelector [DecidableEq Object] (name : Selector) :
    ChromeBroadcaster Selector Object NSNumber CGFloat Observer Observers :=
  match s.items.get? name with
  | none => s
  | some item =>
    { s with
      registrations := s.registrations.erase item
      items := s.items.erase name }

/-- `addObserver:forSelector:`. -/
def addObserver (observer : Observer) (name : Selector) :
    ChromeBroadcaster Selector Object NSNumber CGFloat Observer Observers :=
  let observers := (s.observers.get? name).getD protocolObservers.observers
  let call :=
    match s.items.get? name with
    | none => []
    | some item =>
      [⟨observer, name,
        invocationForName numbers argumentType name (s.values item.object item.key)⟩]
  { s with
    observers := s.observers.set name (protocolObservers.addObserver observers observer)
    calls := s.calls ++ call }

/-- `removeObserver:forSelector:`. -/
def removeObserver (observer : Observer) (name : Selector) :
    ChromeBroadcaster Selector Object NSNumber CGFloat Observer Observers :=
  match s.observers.get? name with
  | none => s
  | some observers =>
    let observers := protocolObservers.removeObserver observers observer
    { s with
      observers :=
        if protocolObservers.empty observers then s.observers.erase name
        else s.observers.set name observers }

/-- An object sets one of its values, which is told to whoever observes it. -/
def setValue [DecidableEq Object] (object : Object) (key : String) (newValue : NSNumber) :
    ChromeBroadcaster Selector Object NSNumber CGFloat Observer Observers :=
  let observing := s.registrations.filter fun item => item.object = object ∧ item.key = key
  { s with
    values := fun o k => if o = object ∧ k = key then newValue else s.values o k
    calls := s.calls ++ observing.flatMap fun item =>
      s.observeValueForKeyPath numbers protocolObservers argumentType item.name
        (some (s.values object key)) newValue }

end Methods

/-! ## Runs -/

inductive Op (Selector Object NSNumber Observer : Type)
  | broadcastValue (valueKey : String) (object : Object) (name : Selector)
  | stopBroadcastingForSelector (name : Selector)
  | addObserver (observer : Observer) (name : Selector)
  | removeObserver (observer : Observer) (name : Selector)
  | setValue (object : Object) (key : String) (newValue : NSNumber)
deriving DecidableEq, Repr

section Runs

variable [DecidableEq Object] (numbers : NSNumberValues NSNumber CGFloat)
  (protocolObservers : CRBProtocolObservers Observer Observers)
  (argumentType : Selector → BroadcastArgumentType)

def step (s : ChromeBroadcaster Selector Object NSNumber CGFloat Observer Observers) :
    Op Selector Object NSNumber Observer →
      ChromeBroadcaster Selector Object NSNumber CGFloat Observer Observers
  | .broadcastValue valueKey object name =>
    s.broadcastValue numbers protocolObservers argumentType valueKey object name
  | .stopBroadcastingForSelector name => s.stopBroadcastingForSelector name
  | .addObserver observer name =>
    s.addObserver numbers protocolObservers argumentType observer name
  | .removeObserver observer name => s.removeObserver protocolObservers observer name
  | .setValue object key newValue =>
    s.setValue numbers protocolObservers argumentType object key newValue

/-- The `DCHECK` of `broadcastValue:ofObject:selector:`: the selector is not already
broadcast. -/
def Op.Pre (s : ChromeBroadcaster Selector Object NSNumber CGFloat Observer Observers) :
    Op Selector Object NSNumber Observer → Prop
  | .broadcastValue _ _ name => s.items.get? name = none
  | _ => True

def machine : Machine (ChromeBroadcaster Selector Object NSNumber CGFloat Observer Observers)
    (Op Selector Object NSNumber Observer) where
  Pre s op := op.Pre s
  step s op := s.step numbers protocolObservers argumentType op

/-- The broadcaster after the calls and changes `ops`. -/
def after (values : Object → String → NSNumber)
    (ops : List (Op Selector Object NSNumber Observer)) :
    ChromeBroadcaster Selector Object NSNumber CGFloat Observer Observers :=
  (machine numbers protocolObservers argumentType).run (init values) ops

/-- What is broadcast under the selector: what the last `broadcastValue:ofObject:selector:`
for it was about, until it is stopped. -/
def broadcastItem (name : Selector) : List (Op Selector Object NSNumber Observer) →
    Option (BroadcastItem Selector Object) :=
  List.foldl (fun item op =>
    match op with
    | .broadcastValue valueKey object broadcast =>
      if name = broadcast then some ⟨object, valueKey, broadcast⟩ else item
    | .stopBroadcastingForSelector stopped => if name = stopped then none else item
    | _ => item) none

/-- The observer was added for the selector, and not removed since. -/
def Registered (observer : Observer) (name : Selector) :
    List (Op Selector Object NSNumber Observer) → Prop :=
  List.foldl (fun registered op =>
    op = .addObserver observer name ∨ (registered ∧ op ≠ .removeObserver observer name)) False

/-- The value that the object set last under the key. -/
def currentValue (values : Object → String → NSNumber) (object : Object) (key : String) :
    List (Op Selector Object NSNumber Observer) → NSNumber :=
  List.foldl (fun value op =>
    match op with
    | .setValue changed changedKey newValue =>
      if object = changed ∧ key = changedKey then newValue else value
    | _ => value) (values object key)

end Runs

/-- The observer is one of those for the selector. -/
def IsObserver (protocolObservers : CRBProtocolObservers Observer Observers)
    (s : ChromeBroadcaster Selector Object NSNumber CGFloat Observer Observers)
    (observer : Observer) (name : Selector) : Prop :=
  ∃ observers ∈ s.observers.get? name, observer ∈ protocolObservers.invoked observers

/-- What an observer was told for a selector, in this order. -/
def received [DecidableEq Observer] (observer : Observer) (name : Selector)
    (calls : List (BroadcastCall Selector CGFloat Observer)) : List (BroadcastArgument CGFloat) :=
  (calls.filter fun call => call.observer = observer ∧ call.selector = name).map
    BroadcastCall.argument

/-! ## What the methods do -/

section Steps

variable {numbers : NSNumberValues NSNumber CGFloat}
  {protocolObservers : CRBProtocolObservers Observer Observers}
  {argumentType : Selector → BroadcastArgumentType}
  {s : ChromeBroadcaster Selector Object NSNumber CGFloat Observer Observers}
  {observer : Observer} {name : Selector}

theorem received_append [DecidableEq Observer] (observer : Observer) (name : Selector)
    (calls calls' : List (BroadcastCall Selector CGFloat Observer)) :
    received observer name (calls ++ calls') =
      received observer name calls ++ received observer name calls' := by
  rw [received, filter_append, map_append]
  rfl

/-- Nothing is told to anyone else, or for another selector. -/
theorem received_eq_nil [DecidableEq Observer]
    {calls : List (BroadcastCall Selector CGFloat Observer)}
    (h : ∀ call ∈ calls, call.observer = observer → call.selector ≠ name) :
    received observer name calls = [] := by
  rw [received, map_eq_nil_iff, filter_eq_nil_iff]
  intro call hcall
  simp only [decide_eq_true_eq, not_and]
  exact h call hcall

/-- The calls end what the observer was told with their argument. -/
theorem getLast?_received [DecidableEq Observer]
    {calls calls' : List (BroadcastCall Selector CGFloat Observer)}
    {argument : BroadcastArgument CGFloat} (htold : ⟨observer, name, argument⟩ ∈ calls')
    (hsame : ∀ call ∈ calls', call.selector = name → call.argument = argument) :
    (received observer name (calls ++ calls')).getLast? = some argument := by
  have hmem : argument ∈ received observer name calls' := by
    refine mem_map.2 ⟨_, mem_filter.2 ⟨htold, ?_⟩, rfl⟩
    simp
  have hall : ∀ a ∈ received observer name calls', a = argument := by
    intro a ha
    obtain ⟨call, hcall, rfl⟩ := mem_map.1 ha
    obtain ⟨hcall, hcond⟩ := mem_filter.1 hcall
    exact hsame call hcall (of_decide_eq_true hcond).2
  rw [received_append, getLast?_append_of_ne_nil _ (ne_nil_of_mem hmem),
    getLast?_eq_getLast_of_ne_nil (ne_nil_of_mem hmem), hall _ (getLast_mem _)]

/-- The calls that a change brings about. -/
theorem mem_observeValueForKeyPath {oldValue : Option NSNumber} {newValue : NSNumber}
    {call : BroadcastCall Selector CGFloat Observer} :
    call ∈ s.observeValueForKeyPath numbers protocolObservers argumentType name oldValue newValue ↔
      IsObserver protocolObservers s call.observer name ∧
        (∀ old ∈ oldValue, numbers.isEqualToValue newValue old = false) ∧
        call = ⟨call.observer, name, invocationForName numbers argumentType name newValue⟩ := by
  rw [observeValueForKeyPath, IsObserver]
  cases hobservers : s.observers.get? name with
  | none => simp
  | some observers =>
    have hobserver : (∃ found ∈ some observers,
        call.observer ∈ protocolObservers.invoked found) ↔
        call.observer ∈ protocolObservers.invoked observers := by
      simp
    rw [hobserver]
    dsimp only
    by_cases hequal : oldValue.any (numbers.isEqualToValue newValue) = true
    · rw [if_pos hequal]
      obtain ⟨old, rfl, hold⟩ := (Option.any_eq_true ..).1 hequal
      simp [hold]
    · rw [if_neg hequal, mem_map]
      have hchanged : ∀ old ∈ oldValue, numbers.isEqualToValue newValue old = false := by
        rintro old rfl
        exact Bool.eq_false_iff.2 hequal
      constructor
      · rintro ⟨told, htold, rfl⟩
        exact ⟨htold, hchanged, rfl⟩
      · rintro ⟨htold, -, hcall⟩
        exact ⟨call.observer, htold, hcall.symm⟩

theorem isObserver_addObserver {added : Observer} {addedName : Selector} :
    IsObserver protocolObservers
        (s.addObserver numbers protocolObservers argumentType added addedName) observer name ↔
      (added = observer ∧ addedName = name) ∨ IsObserver protocolObservers s observer name := by
  rw [IsObserver, addObserver]
  simp only [Keyed.get?_set, Option.mem_def]
  by_cases hname : name = addedName
  · subst hname
    simp only [if_pos, Option.some.injEq, exists_eq_left', protocolObservers.mem_addObserver,
      and_true, IsObserver, Option.mem_def]
    cases s.observers.get? name with
    | none => simp [protocolObservers.invoked_observers, eq_comm]
    | some observers => simp [or_comm, eq_comm]
  · simp only [if_neg hname, Ne.symm hname, and_false, false_or]
    rfl

theorem isObserver_removeObserver {removed : Observer} {removedName : Selector} :
    IsObserver protocolObservers (s.removeObserver protocolObservers removed removedName)
        observer name ↔
      IsObserver protocolObservers s observer name ∧
        ¬(removed = observer ∧ removedName = name) := by
  rw [removeObserver]
  cases hobservers : s.observers.get? removedName with
  | none =>
    refine (and_iff_left_of_imp ?_).symm
    rintro ⟨observers, hmem, -⟩ ⟨-, rfl⟩
    rw [hobservers] at hmem
    cases hmem
  | some observers =>
    by_cases hname : name = removedName
    · subst hname
      have hleft : IsObserver protocolObservers s observer name ↔
          observer ∈ protocolObservers.invoked observers := by
        simp [IsObserver, hobservers]
      have hother : ¬(removed = observer ∧ name = name) ↔ observer ≠ removed := by
        simp [eq_comm]
      rw [hleft, hother, ← protocolObservers.mem_removeObserver]
      by_cases hempty :
          protocolObservers.empty (protocolObservers.removeObserver observers removed) = true
      · rw [(protocolObservers.empty_iff _).1 hempty]
        simp [IsObserver, hempty]
      · simp [IsObserver, hempty]
    · by_cases hempty :
          protocolObservers.empty (protocolObservers.removeObserver observers removed) = true
      · simp [IsObserver, hempty, hname, Ne.symm hname]
      · simp [IsObserver, hempty, hname, Ne.symm hname]

/-- Who observes a selector after a call. -/
theorem isObserver_step [DecidableEq Object] {op : Op Selector Object NSNumber Observer} :
    IsObserver protocolObservers (s.step numbers protocolObservers argumentType op) observer name ↔
      op = .addObserver observer name ∨
        (IsObserver protocolObservers s observer name ∧ op ≠ .removeObserver observer name) := by
  cases op with
  | broadcastValue valueKey object broadcast => simp [step, broadcastValue, IsObserver]
  | stopBroadcastingForSelector stopped =>
    rw [step, stopBroadcastingForSelector]
    split <;> simp [IsObserver]
  | addObserver added addedName => simp [step, isObserver_addObserver]
  | removeObserver removed removedName => simp [step, isObserver_removeObserver]
  | setValue object key newValue => simp [step, setValue, IsObserver]

end Steps

/-! ## What every step preserves -/

section Invariant

variable [DecidableEq Observer] {numbers : NSNumberValues NSNumber CGFloat}
  {protocolObservers : CRBProtocolObservers Observer Observers}
  {argumentType : Selector → BroadcastArgumentType}
  {s : ChromeBroadcaster Selector Object NSNumber CGFloat Observer Observers}

/-- What is broadcast is what is observed, and the observers know its value. -/
structure Inv (numbers : NSNumberValues NSNumber CGFloat)
    (protocolObservers : CRBProtocolObservers Observer Observers)
    (argumentType : Selector → BroadcastArgumentType)
    (s : ChromeBroadcaster Selector Object NSNumber CGFloat Observer Observers) : Prop where
  /-- An item has the name it is stored under. -/
  item_name : ∀ name item, s.items.get? name = some item → item.name = name
  registered : ∀ item, item ∈ s.registrations ↔ s.items.get? item.name = some item
  once : s.registrations.Nodup
  current : ∀ name item observer, s.items.get? name = some item →
    IsObserver protocolObservers s observer name →
    (received observer name s.calls).getLast? =
      some (invocationForName numbers argumentType name (s.values item.object item.key))

theorem Inv.broadcastValue (h : Inv numbers protocolObservers argumentType s) {valueKey : String}
    {object : Object} {broadcast : Selector} (hpre : s.items.get? broadcast = none) :
    Inv numbers protocolObservers argumentType
      (s.broadcastValue numbers protocolObservers argumentType valueKey object broadcast) := by
  have hnew : ∀ item ∈ s.registrations, item.name ≠ broadcast := by
    rintro item hmem rfl
    rw [(h.registered item).1 hmem] at hpre
    cases hpre
  refine ⟨?_, ?_, ?_, ?_⟩
  · intro name item hitem
    rw [ChromeBroadcaster.broadcastValue, Keyed.get?_set] at hitem
    split at hitem
    · next heq =>
      cases hitem
      exact heq.symm
    · exact h.item_name name item hitem
  · intro item
    rw [ChromeBroadcaster.broadcastValue, mem_append, mem_singleton, Keyed.get?_set]
    by_cases hname : item.name = broadcast
    · rw [if_pos hname, or_iff_right fun hmem => hnew item hmem hname, Option.some.injEq, eq_comm]
    · rw [if_neg hname, or_iff_left, h.registered]
      rintro rfl
      exact hname rfl
  · refine nodup_append.2 ⟨h.once, nodup_singleton _, ?_⟩
    rintro item hmem other hother rfl
    cases mem_singleton.1 hother
    exact hnew _ hmem rfl
  · intro name item observer hitem hobserver
    rw [ChromeBroadcaster.broadcastValue, Keyed.get?_set] at hitem
    rw [ChromeBroadcaster.broadcastValue]
    split at hitem
    · next heq =>
      cases hitem
      subst heq
      refine getLast?_received (mem_observeValueForKeyPath.2 ⟨hobserver, nofun, rfl⟩) ?_
      intro call hcall _
      rw [(mem_observeValueForKeyPath.1 hcall).2.2]
    · next hne =>
      have hnil : received observer name (s.observeValueForKeyPath numbers protocolObservers
          argumentType broadcast none (s.values object valueKey)) = [] := by
        refine received_eq_nil fun call hcall _ heq => hne ?_
        rw [(mem_observeValueForKeyPath.1 hcall).2.2] at heq
        exact heq.symm
      show (received observer name (s.calls ++ _)).getLast? = _
      rw [received_append, hnil, append_nil]
      exact h.current name item observer hitem hobserver

theorem Inv.stopBroadcasting [DecidableEq Object] (h : Inv numbers protocolObservers argumentType s)
    {stopped : Selector} :
    Inv numbers protocolObservers argumentType (s.stopBroadcastingForSelector stopped) := by
  rw [stopBroadcastingForSelector]
  cases hstopped : s.items.get? stopped with
  | none => exact h
  | some removed =>
    refine ⟨?_, ?_, h.once.erase _, ?_⟩
    · intro name item hitem
      rw [Keyed.get?_erase] at hitem
      split at hitem
      · cases hitem
      · exact h.item_name name item hitem
    · intro item
      rw [h.once.mem_erase_iff, h.registered, Keyed.get?_erase]
      by_cases hname : item.name = stopped
      · rw [if_pos hname, hname, hstopped]
        simp [eq_comm]
      · rw [if_neg hname]
        refine and_iff_right_of_imp fun _ => ?_
        rintro rfl
        exact hname (h.item_name stopped item hstopped)
    · intro name item observer hitem hobserver
      rw [Keyed.get?_erase] at hitem
      split at hitem
      · cases hitem
      · exact h.current name item observer hitem hobserver

theorem Inv.addObserver (h : Inv numbers protocolObservers argumentType s) {added : Observer}
    {addedName : Selector} :
    Inv numbers protocolObservers argumentType
      (s.addObserver numbers protocolObservers argumentType added addedName) := by
  refine ⟨h.item_name, h.registered, h.once, ?_⟩
  intro name item observer hitem hobserver
  have hitem : s.items.get? name = some item := hitem
  rw [isObserver_addObserver] at hobserver
  rw [ChromeBroadcaster.addObserver]
  by_cases htold : added = observer ∧ addedName = name
  · obtain ⟨rfl, rfl⟩ := htold
    dsimp only
    rw [hitem]
    refine getLast?_received mem_cons_self ?_
    intro call hcall _
    rw [mem_singleton.1 hcall]
  · have hnil : received observer name (match s.items.get? addedName with
        | none => []
        | some item => [(⟨added, addedName, invocationForName numbers argumentType addedName
            (s.values item.object item.key)⟩ : BroadcastCall Selector CGFloat Observer)]) = [] := by
      refine received_eq_nil fun call hcall hcalled hselector => htold ?_
      cases hadded : s.items.get? addedName with
      | none =>
        rw [hadded] at hcall
        cases hcall
      | some item =>
        rw [hadded] at hcall
        cases mem_singleton.1 hcall
        exact ⟨hcalled, hselector⟩
    show (received observer name (s.calls ++ _)).getLast? = _
    rw [received_append, hnil, append_nil]
    exact h.current name item observer hitem (hobserver.resolve_left htold)

theorem Inv.removeObserver (h : Inv numbers protocolObservers argumentType s) {removed : Observer}
    {removedName : Selector} :
    Inv numbers protocolObservers argumentType
      (s.removeObserver protocolObservers removed removedName) := by
  have hsame : ∃ observers, s.removeObserver protocolObservers removed removedName =
      { s with observers } := by
    rw [ChromeBroadcaster.removeObserver]
    split
    · exact ⟨_, rfl⟩
    · exact ⟨_, rfl⟩
  have hcurrent : ∀ name item observer, s.items.get? name = some item →
      IsObserver protocolObservers (s.removeObserver protocolObservers removed removedName)
        observer name → _ :=
    fun name item observer hitem hobserver =>
      h.current name item observer hitem (isObserver_removeObserver.1 hobserver).1
  obtain ⟨observers, heq⟩ := hsame
  rw [heq] at hcurrent ⊢
  exact ⟨h.item_name, h.registered, h.once, hcurrent⟩

omit [DecidableEq Selector] in
/-- Equal numbers are told as the same argument. -/
theorem invocationForName_congr {a b : NSNumber} (h : numbers.isEqualToValue a b = true)
    (name : Selector) :
    invocationForName numbers argumentType name a =
      invocationForName numbers argumentType name b := by
  rw [invocationForName, invocationForName, numbers.boolValue_eq a b h,
    numbers.cgfloatValue_eq a b h]

variable [DecidableEq Object]

omit [DecidableEq Observer] in
/-- The calls that a change of a value brings about. -/
theorem mem_calls_setValue {object : Object} {key : String} {newValue : NSNumber}
    {call : BroadcastCall Selector CGFloat Observer} :
    call ∈ (s.registrations.filter fun item => item.object = object ∧ item.key = key).flatMap
        (fun item => s.observeValueForKeyPath numbers protocolObservers argumentType item.name
          (some (s.values object key)) newValue) ↔
      ∃ item ∈ s.registrations, (item.object = object ∧ item.key = key) ∧
        IsObserver protocolObservers s call.observer item.name ∧
        numbers.isEqualToValue newValue (s.values object key) = false ∧
        call = ⟨call.observer, item.name,
          invocationForName numbers argumentType item.name newValue⟩ := by
  simp only [mem_flatMap, mem_filter, decide_eq_true_eq, mem_observeValueForKeyPath,
    Option.mem_some_iff, forall_eq', and_assoc]

theorem Inv.setValue (h : Inv numbers protocolObservers argumentType s) {object : Object}
    {key : String} {newValue : NSNumber} :
    Inv numbers protocolObservers argumentType
      (s.setValue numbers protocolObservers argumentType object key newValue) := by
  refine ⟨h.item_name, h.registered, h.once, ?_⟩
  intro name item observer hitem hobserver
  have hitem : s.items.get? name = some item := hitem
  have hobserver : IsObserver protocolObservers s observer name := hobserver
  have hname := h.item_name name item hitem
  have hcurrent := h.current name item observer hitem hobserver
  -- the selector has one registration
  have honly : ∀ other ∈ s.registrations, other.name = name → other = item := by
    rintro other hmem rfl
    exact Option.some.inj (((h.registered other).1 hmem).symm.trans hitem)
  rw [ChromeBroadcaster.setValue]
  dsimp only
  by_cases hchanged : (item.object = object ∧ item.key = key) ∧
      numbers.isEqualToValue newValue (s.values object key) = false
  · rw [if_pos hchanged.1]
    refine getLast?_received (mem_calls_setValue.2
      ⟨item, (h.registered item).2 (hname ▸ hitem), hchanged.1, ?_⟩) ?_
    · exact ⟨hname ▸ hobserver, hchanged.2, by rw [hname]⟩
    · intro call hcall hselector
      obtain ⟨other, hother, -, -, -, heq⟩ := mem_calls_setValue.1 hcall
      rw [heq] at hselector ⊢
      dsimp only at hselector ⊢
      rw [hselector]
  · have hnil : received observer name ((s.registrations.filter fun item =>
        item.object = object ∧ item.key = key).flatMap fun item =>
          s.observeValueForKeyPath numbers protocolObservers argumentType item.name
            (some (s.values object key)) newValue) = [] := by
      refine received_eq_nil fun call hcall _ hselector => hchanged ?_
      obtain ⟨other, hother, hmatch, -, hdifferent, heq⟩ := mem_calls_setValue.1 hcall
      rw [heq] at hselector
      exact ⟨honly other hother hselector ▸ hmatch, hdifferent⟩
    rw [received_append, hnil, append_nil, hcurrent]
    split
    · next hmatch =>
      -- the value is set to an equal one, and nothing is told
      have hequal : numbers.isEqualToValue newValue (s.values object key) = true :=
        eq_true_of_ne_false fun hdifferent => hchanged ⟨hmatch, hdifferent⟩
      rw [hmatch.1, hmatch.2, invocationForName_congr hequal]
    · rfl

theorem Inv.step (h : Inv numbers protocolObservers argumentType s)
    {op : Op Selector Object NSNumber Observer} (hpre : op.Pre s) :
    Inv numbers protocolObservers argumentType
      (s.step numbers protocolObservers argumentType op) := by
  cases op with
  | broadcastValue valueKey object name => exact h.broadcastValue hpre
  | stopBroadcastingForSelector name => exact h.stopBroadcasting
  | addObserver observer name => exact h.addObserver
  | removeObserver observer name => exact h.removeObserver
  | setValue object key newValue => exact h.setValue

omit [DecidableEq Observer] [DecidableEq Object] in
theorem calls_removeObserver (observer : Observer) (name : Selector) :
    (s.removeObserver protocolObservers observer name).calls = s.calls := by
  rw [removeObserver]
  split <;> rfl

omit [DecidableEq Observer] in
/-- A call tells only those that observe the selector, or are added to it. -/
theorem calls_step (op : Op Selector Object NSNumber Observer) :
    ∃ calls, (s.step numbers protocolObservers argumentType op).calls = s.calls ++ calls ∧
      ∀ call ∈ calls, op = .addObserver call.observer call.selector ∨
        IsObserver protocolObservers s call.observer call.selector := by
  cases op with
  | broadcastValue valueKey object name =>
    refine ⟨_, rfl, fun call hcall => .inr ?_⟩
    obtain ⟨hobserver, -, heq⟩ := mem_observeValueForKeyPath.1 hcall
    rw [heq]
    exact hobserver
  | stopBroadcastingForSelector name =>
    refine ⟨[], ?_, nofun⟩
    rw [step, stopBroadcastingForSelector, append_nil]
    split <;> rfl
  | addObserver observer name =>
    refine ⟨_, rfl, fun call hcall => .inl ?_⟩
    split at hcall
    · cases hcall
    · rw [mem_singleton.1 hcall]
  | removeObserver observer name =>
    refine ⟨[], ?_, nofun⟩
    rw [step, calls_removeObserver, append_nil]
  | setValue object key newValue =>
    refine ⟨_, rfl, fun call hcall => .inr ?_⟩
    obtain ⟨item, -, -, hobserver, -, heq⟩ := mem_calls_setValue.1 hcall
    rw [heq]
    exact hobserver

/-- One that does not observe a selector is told nothing for it. -/
theorem received_step {op : Op Selector Object NSNumber Observer} {observer : Observer}
    {name : Selector} (hobserver : ¬IsObserver protocolObservers s observer name)
    (hop : op ≠ .addObserver observer name) :
    received observer name (s.step numbers protocolObservers argumentType op).calls =
      received observer name s.calls := by
  obtain ⟨calls, heq, htold⟩ : ∃ calls,
      (s.step numbers protocolObservers argumentType op).calls = s.calls ++ calls ∧ _ :=
    calls_step op
  have hnil : received observer name calls = [] := by
    refine received_eq_nil ?_
    rintro call hcall rfl rfl
    exact (htold call hcall).elim hop hobserver
  rw [heq, received_append, hnil, append_nil]

end Invariant

section Calls

variable [DecidableEq Object] (numbers : NSNumberValues NSNumber CGFloat)
  (protocolObservers : CRBProtocolObservers Observer Observers)
  (argumentType : Selector → BroadcastArgumentType) (values : Object → String → NSNumber)
  (ops : List (Op Selector Object NSNumber Observer))

theorem items_after (name : Selector) :
    (after numbers protocolObservers argumentType values ops).items.get? name =
      broadcastItem name ops := by
  refine (Machine.foldl_eq_run (M := machine numbers protocolObservers argumentType)
    (g := fun s => s.items.get? name) (fun s op => ?_) (init values) ops).symm
  cases op with
  | broadcastValue valueKey object broadcast => exact Keyed.get?_set ..
  | stopBroadcastingForSelector stopped =>
    show (s.stopBroadcastingForSelector stopped).items.get? name = _
    rw [stopBroadcastingForSelector]
    cases hstopped : s.items.get? stopped with
    | none =>
      dsimp only
      split
      · next heq => rw [heq, hstopped]
      · rfl
    | some item => exact Keyed.get?_erase ..
  | addObserver observer added => rfl
  | removeObserver observer removed =>
    show (s.removeObserver protocolObservers observer removed).items.get? name = _
    rw [removeObserver]
    split <;> rfl
  | setValue object key newValue => rfl

theorem isObserver_after (observer : Observer) (name : Selector) :
    IsObserver protocolObservers (after numbers protocolObservers argumentType values ops)
      observer name ↔ Registered observer name ops := by
  have hinit : IsObserver protocolObservers (init values : ChromeBroadcaster Selector Object
      NSNumber CGFloat Observer Observers) observer name = False := by
    refine eq_false ?_
    rintro ⟨observers, hmem, -⟩
    cases hmem
  rw [Registered, ← hinit]
  exact (Machine.foldl_eq_run (M := machine numbers protocolObservers argumentType)
    (g := fun s => IsObserver protocolObservers s observer name)
    (fun s op => propext isObserver_step) (init values) ops).symm.to_iff

theorem values_after (object : Object) (key : String) :
    (after numbers protocolObservers argumentType values ops).values object key =
      currentValue values object key ops := by
  refine (Machine.foldl_eq_run (M := machine numbers protocolObservers argumentType)
    (g := fun s => s.values object key) (fun s op => ?_) (init values) ops).symm
  cases op with
  | broadcastValue | addObserver | setValue => rfl
  | stopBroadcastingForSelector stopped =>
    show (s.stopBroadcastingForSelector stopped).values object key = _
    rw [stopBroadcastingForSelector]
    split <;> rfl
  | removeObserver observer removed =>
    show (s.removeObserver protocolObservers observer removed).values object key = _
    rw [removeObserver]
    split <;> rfl

end Calls

/-- What is broadcast reaches the observers, and no others. -/
structure BroadcastConsistent [DecidableEq Object] [DecidableEq Observer]
    (numbers : NSNumberValues NSNumber CGFloat)
    (protocolObservers : CRBProtocolObservers Observer Observers)
    (argumentType : Selector → BroadcastArgumentType) (values : Object → String → NSNumber)
    (ops : List (Op Selector Object NSNumber Observer)) : Prop where
  items : ∀ name, (after numbers protocolObservers argumentType values ops).items.get? name =
    broadcastItem name ops
  observers : ∀ observer name, IsObserver protocolObservers
    (after numbers protocolObservers argumentType values ops) observer name ↔
      Registered observer name ops
  /-- The last value that an observer of a selector was told is the current one. -/
  current : ∀ name item observer, broadcastItem name ops = some item →
    Registered observer name ops →
    (received observer name
      (after numbers protocolObservers argumentType values ops).calls).getLast?
      = some (invocationForName numbers argumentType name
        (currentValue values item.object item.key ops))
  /-- An observer that is removed is told nothing until it is added again. -/
  removed : ∀ before observer name later, ops = before ++ .removeObserver observer name :: later →
    (∀ op ∈ later, op ≠ .addObserver observer name) →
    received observer name (after numbers protocolObservers argumentType values ops).calls =
      received observer name (after numbers protocolObservers argumentType values before).calls

theorem broadcast_consistent [DecidableEq Object] [DecidableEq Observer]
    (numbers : NSNumberValues NSNumber CGFloat)
    (protocolObservers : CRBProtocolObservers Observer Observers)
    (argumentType : Selector → BroadcastArgumentType) (values : Object → String → NSNumber)
    (ops : List (Op Selector Object NSNumber Observer))
    (hlegal : (machine numbers protocolObservers argumentType).Legal (init values) ops) :
    BroadcastConsistent numbers protocolObservers argumentType values ops := by
  refine ⟨items_after numbers protocolObservers argumentType values ops,
    isObserver_after numbers protocolObservers argumentType values ops,
    fun name item observer hitem hregistered => ?_, ?_⟩
  · have hinit : Inv numbers protocolObservers argumentType (init values : ChromeBroadcaster
        Selector Object NSNumber CGFloat Observer Observers) :=
      ⟨nofun, fun item => by simp [init], nodup_nil, nofun⟩
    have hcurrent := (Machine.run_invariant (fun s op h hpre => h.step hpre) hinit hlegal).current
    rw [← items_after numbers protocolObservers argumentType values] at hitem
    rw [← isObserver_after numbers protocolObservers argumentType values] at hregistered
    rw [← values_after numbers protocolObservers argumentType values]
    exact hcurrent name item observer hitem hregistered
  · rintro before observer name later rfl hlater
    let told := received observer name
      (after numbers protocolObservers argumentType values before).calls
    have hstart : ¬IsObserver protocolObservers
        ((after numbers protocolObservers argumentType values before).step numbers
          protocolObservers argumentType (.removeObserver observer name)) observer name := by
      rw [isObserver_step]
      rintro (h | ⟨-, h⟩)
      · cases h
      · exact h rfl
    -- from the removal on, it is no observer of the selector
    have hrun := Machine.run_invariant (M := machine numbers protocolObservers argumentType)
      (I := fun s => ¬IsObserver protocolObservers s observer name ∧
        received observer name s.calls = told)
      (C := fun _ op => op ≠ .addObserver observer name)
      (fun s op h hop => by
        refine ⟨fun hobserver => ?_, (received_step h.1 hop).trans h.2⟩
        exact (isObserver_step.1 hobserver).elim hop fun hleft => h.1 hleft.1)
      ⟨hstart, congrArg (received observer name) (calls_removeObserver ..)⟩
      (Machine.along_of_mem _ _ hlater)
    rw [after, Machine.run_append]
    exact hrun.2

/-! ## The methods of `ChromeBroadcastObserver` -/

inductive BroadcastSelector
  | broadcastTabStripVisible
  | broadcastContentScrollOffset
deriving DecidableEq, Repr

/-- The types of the arguments, as the protocol declares them. -/
def observerInvocations : BroadcastSelector → BroadcastArgumentType
  | .broadcastTabStripVisible => .bool
  | .broadcastContentScrollOffset => .cgFloat

/-- Whole numbers. -/
def wholeNumbers : NSNumberValues Int Int where
  boolValue n := n ≠ 0
  cgfloatValue := id
  isEqualToValue a b := a = b
  boolValue_eq a b h := by rw [of_decide_eq_true h]
  cgfloatValue_eq a b h := of_decide_eq_true h

/-- A set of observers as a list. -/
def observersList : CRBProtocolObservers Nat (List Nat) where
  observers := []
  addObserver observers observer :=
    if observer ∈ observers then observers else observers ++ [observer]
  removeObserver observers observer := observers.filter (· ≠ observer)
  empty := isEmpty
  invoked := id
  invoked_observers := rfl
  mem_addObserver observers observer other := by
    by_cases h : observer ∈ observers
    · simp only [if_pos h, id_eq, iff_self_or]
      rintro rfl
      exact h
    · simp [h]
  mem_removeObserver := by simp
  empty_iff := by simp

/-- An offset is observed before and after its broadcast starts; one observer goes. -/
def offsetOps : List (Op BroadcastSelector Nat Int Nat) :=
  [.addObserver 0 .broadcastContentScrollOffset,
    .broadcastValue "observableCGFloat" 7 .broadcastContentScrollOffset,
    .addObserver 1 .broadcastContentScrollOffset, .setValue 7 "observableCGFloat" 2,
    .setValue 7 "observableCGFloat" 2, .removeObserver 0 .broadcastContentScrollOffset,
    .setValue 7 "observableCGFloat" 3]

theorem broadcast_consistent_offset :
    BroadcastConsistent wholeNumbers observersList observerInvocations (fun _ _ => 1) offsetOps :=
  broadcast_consistent wholeNumbers observersList observerInvocations (fun _ _ => 1) offsetOps
    ⟨trivial, rfl, trivial, trivial, trivial, trivial, trivial, trivial⟩

end ChromeBroadcaster

end ChromiumIos
