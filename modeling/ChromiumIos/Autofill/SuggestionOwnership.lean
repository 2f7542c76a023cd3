import ChromiumIos.Autofill.FormSuggestionController

/-!
# Form suggestions belong to their field

- `FormSuggestions.Belongs`: what is stored is for the field it is stored with, and what was
  applied went to the field it was computed for.
- `FormSuggestions.Timely`: nothing comes for a field that has lost the focus, and nothing is
  replaced that a suggestion still needs.
- `belongs_of_timely`: in runs without the former the latter always holds.
-/

namespace ChromiumIos

open Lib List

namespace FormSuggestions

/-! ## The property and its condition -/

/-- The suggestions of the state were computed by its provider and for its field, and each
suggestion that was applied was applied to the field that it was computed for. -/
structure Belongs (s : FormSuggestions) : Prop where
  stored : ∀ state ∈ s.suggestionState, ∀ suggestions ∈ state.suggestions,
    ∀ suggestion ∈ suggestions, suggestion.computedFor = state.target ∧
      ∀ provider ∈ s.provider, suggestion.computedBy = provider
  applied : ∀ application ∈ s.applied,
    application.target = application.suggestion.computedFor

/-- Forms and answers come for the field that has the focus, which is the last one that the
`AutofillManager` was asked about. Fill data comes for another form only while no suggestions of
the password controller are stored. A suggestion is selected only if those accepted before have
been filled in, or are for a field of the same name. -/
def Timely (s : FormSuggestions) : Op → Prop
  | .fetched completion forms => ∀ state ∈ s.suggestionState,
      ∀ query ∈ queryFor completion forms, query.target = state.target
  | .answered query _ _ => s.agent.suggestionsAvailableCompletion.isSome = true →
      ∀ state ∈ s.suggestionState,
        s.queries.getLast? = some query ∧ query.target = state.target
  | .fillData data => ∀ state ∈ s.suggestionState,
      state.suggestions.isSome = true → s.provider = some .passwords →
        ∀ old ∈ s.formData, data.target = old.target
  | .select _ => ∀ state ∈ s.suggestionState, ∀ accepted ∈ s.accepted,
      accepted.suggestion.computedFor.fieldName = state.fieldName
  | .reset | .inject | .focus _ | .hidden | .formDataFilled _ => True

instance (s : FormSuggestions) (op : Op) : Decidable (s.Timely op) :=
  match op with
  | .fetched completion forms => inferInstanceAs (Decidable (∀ state ∈ s.suggestionState,
      ∀ query ∈ queryFor completion forms, query.target = state.target))
  | .answered _ _ _ => instDecidableForall
  | .fillData data => inferInstanceAs (Decidable (∀ state ∈ s.suggestionState,
      state.suggestions.isSome = true → s.provider = some .passwords →
        ∀ old ∈ s.formData, data.target = old.target))
  | .select _ => inferInstanceAs (Decidable (∀ state ∈ s.suggestionState,
      ∀ accepted ∈ s.accepted, accepted.suggestion.computedFor.fieldName = state.fieldName))
  | .reset | .inject | .focus _ | .hidden | .formDataFilled _ => instDecidableTrue

/-- The `AutofillManager` fills the form that it was asked about last. -/
def FillsLast (env : AutofillEnvironment) : Prop :=
  ∀ queries query, env.fills (queries ++ [query]) = query.form.name

/-! ## The invariant -/

/-- A provider can fill the field. -/
def CanFill (s : FormSuggestions) (target : FormTarget) : FormSuggestionProvider → Prop
  | .passwords => ∃ data ∈ s.formData, data.target = target
  | .autofill => ∃ query ∈ s.queries.getLast?, query.target = target

/-- The suggestions are the provider's, for the field. -/
def AreFor (suggestions : List FormSuggestion) (provider : FormSuggestionProvider)
    (target : FormTarget) : Prop :=
  ∀ suggestion ∈ suggestions,
    suggestion.computedFor = target ∧ suggestion.computedBy = provider

/-- What holds of the stored suggestions between events. A provider that was recorded for an
earlier field may still be there while there are no suggestions yet. -/
structure Holds (s : FormSuggestions) (state : AutofillSuggestionState) : Prop where
  view : s.view = state.suggestions.getD []
  stored : ∀ suggestions ∈ state.suggestions, ∀ suggestion ∈ suggestions,
    suggestion.computedFor = state.target ∧
      ∀ provider ∈ s.provider, suggestion.computedBy = provider
  canFill : state.suggestions.isSome = true → ∀ provider ∈ s.provider,
    s.CanFill state.target provider

structure Inv (s : FormSuggestions) : Prop where
  holds : ∀ state ∈ s.suggestionState, s.Holds state
  accepted : ∀ accepted ∈ s.accepted,
    accepted.formName = accepted.suggestion.computedFor.formName ∧
      accepted.suggestion.computedFor.fieldName = s.agent.pendingAutocompleteField
  applied : ∀ application ∈ s.applied,
    application.target = application.suggestion.computedFor
  fetches : ∀ completion ∈ s.fetches, completion.rest = []
  waiting : ∀ completion ∈ s.agent.suggestionsAvailableCompletion, completion.rest = []

theorem Inv.belongs {s : FormSuggestions} (h : s.Inv) : s.Belongs :=
  ⟨fun state hstate => (h.holds state hstate).stored, h.applied⟩

theorem inv_initial : initial.Inv := ⟨nofun, nofun, nofun, nofun, nofun⟩

/-! ## Computing suggestions -/

theorem mem_of_mem_moveToFront {p : FormSuggestion → Bool} {suggestions : List FormSuggestion}
    {suggestion : FormSuggestion} (h : suggestion ∈ moveToFront p suggestions) :
    suggestion ∈ suggestions := by
  unfold moveToFront at h
  split at h
  · exact h
  · next first hfirst =>
    rcases mem_cons.1 h with rfl | hmem
    · exact mem_of_find?_eq_some hfirst
    · exact mem_of_mem_eraseP hmem

/-- What is processed was there before. -/
theorem mem_of_mem_processSuggestions {env : AutofillEnvironment} {agent : AutofillAgent}
    {suggestions : List FormSuggestion} {suggestion : FormSuggestion}
    (h : suggestion ∈ agent.processSuggestions env suggestions) : suggestion ∈ suggestions := by
  have hmoved : ∀ {l : List FormSuggestion}, suggestion ∈ (if
      agent.mostRecentSelectedIdentifier > 0 then moveToFront (fun suggestion =>
        suggestion.identifier = agent.mostRecentSelectedIdentifier) l else l) →
      suggestion ∈ l := by
    intro l hmem
    split at hmem
    · exact mem_of_mem_moveToFront hmem
    · exact hmem
  have hfiltered : ∀ {l : List FormSuggestion}, suggestion ∈ (if agent.typedValue = "" then
      l.filter fun suggestion => suggestion.identifier ≠ env.autocompleteEntry else l) →
      suggestion ∈ l := by
    intro l hmem
    split at hmem
    · exact mem_of_mem_filter hmem
    · exact hmem
  unfold AutofillAgent.processSuggestions at h
  dsimp only at h
  split at h
  · exact hmoved (hfiltered h)
  · next last hlast =>
    rcases mem_cons.1 h with rfl | hmem
    · exact hmoved (hfiltered (mem_reverse.1 (mem_of_find?_eq_some hlast)))
    · exact hmoved (hfiltered (mem_reverse.1
        (mem_of_mem_eraseP (mem_reverse.1 hmem))))

theorem areFor_buildSuggestions (rangeOfString : String → String → Option Nat)
    (data : PasswordFormFillData) (typedValue : String) :
    AreFor (data.buildSuggestions rangeOfString typedValue) .passwords data.target := by
  intro suggestion hmem
  obtain ⟨username, -, rfl⟩ := mem_map.1 hmem
  exact ⟨rfl, rfl⟩

theorem areFor_processSuggestions (env : AutofillEnvironment) (agent : AutofillAgent)
    (query : AutofillQuery) (popup : List PopupSuggestion) :
    AreFor (agent.processSuggestions env (showAutofillPopup env query popup)) .autofill
      query.target := by
  intro suggestion hmem
  obtain ⟨row, -, rfl⟩ := mem_map.1 (mem_of_mem_processSuggestions hmem)
  exact ⟨rfl, rfl⟩

/-! ## Storing suggestions -/

section Steps

variable {env : AutofillEnvironment} {s : FormSuggestions}

/-- Suggestions for the field that has the focus are stored. -/
theorem Inv.onSuggestionsReady (h : s.Inv) {suggestions : List FormSuggestion}
    {provider : FormSuggestionProvider}
    (hfor : ∀ state ∈ s.suggestionState, AreFor suggestions provider state.target ∧
      s.CanFill state.target provider) :
    (s.onSuggestionsReady (some suggestions) (some provider)).Inv := by
  unfold FormSuggestions.onSuggestionsReady
  split
  · exact h
  · next state hstate =>
    refine ⟨fun after hafter => ?_, h.accepted, h.applied, h.fetches, h.waiting⟩
    obtain rfl := Option.some.inj hafter
    obtain ⟨hare, hcan⟩ := hfor state hstate
    refine ⟨rfl, fun stored hstored suggestion hmem => ?_, fun _ recorded hrecorded => ?_⟩
    · obtain rfl := Option.some.inj hstored
      refine ⟨(hare suggestion hmem).1, fun recorded hrecorded => ?_⟩
      obtain rfl := Option.some.inj hrecorded
      exact (hare suggestion hmem).2
    · obtain rfl := Option.some.inj hrecorded
      cases provider <;> exact hcan

/-- What holds of the stored suggestions is about the view, the provider, the fill data and the
last query. -/
theorem Holds.of_eq {state : AutofillSuggestionState} (h : s.Holds state) {s' : FormSuggestions}
    (hview : s'.view = s.view) (hprovider : s'.provider = s.provider)
    (hformData : s'.formData = s.formData) (hqueries : s'.queries = s.queries) :
    s'.Holds state := by
  refine ⟨hview.trans h.view, fun suggestions hstored suggestion hmem => ?_,
    fun hsome provider hmem => ?_⟩
  · rw [hprovider]
    exact h.stored suggestions hstored suggestion hmem
  · rw [hprovider] at hmem
    have hcan := h.canFill hsome provider hmem
    cases provider with
    | passwords =>
      obtain ⟨data, hdata, htarget⟩ := hcan
      exact ⟨data, hformData.trans hdata, htarget⟩
    | autofill =>
      obtain ⟨query, hquery, htarget⟩ := hcan
      exact ⟨query, (congrArg getLast? hqueries).trans hquery, htarget⟩

/-- Passwords are stored with the field that they are for. -/
theorem Inv.retrievePasswords (h : s.Inv) {query : SuggestionsQuery}
    (havailable : s.passwordsAvailable env query = true)
    (hfocus : ∀ state ∈ s.suggestionState, state.target = query.target) :
    (s.retrieveSuggestions env query .passwords).Inv := by
  unfold passwordsAvailable at havailable
  rw [retrieveSuggestions]
  split at havailable
  · cases havailable
  · next data hdata =>
    have htarget : query.target = data.target := by
      simp only [Bool.and_eq_true, decide_eq_true_eq] at havailable
      exact havailable.2
    refine h.onSuggestionsReady fun state hstate => ?_
    rw [hfocus state hstate, htarget]
    exact ⟨areFor_buildSuggestions _ data _, data, hdata, rfl⟩

/-- The field gets the focus. Its passwords come at once. -/
theorem Inv.focus (h : s.Inv) (query : SuggestionsQuery) :
    (s.retrieveAccessoryView env query).Inv := by
  have hfocused : Inv { s with
      suggestionState := some ⟨query.formName, query.fieldName, query.typedValue, none⟩
      view := [] } := by
    refine ⟨fun state hstate => ?_, h.accepted, h.applied, h.fetches, h.waiting⟩
    obtain rfl := Option.some.inj hstate
    exact ⟨rfl, nofun, nofun⟩
  rw [retrieveAccessoryView, suggestionProviders, search]
  split
  · next havailable =>
    refine hfocused.retrievePasswords havailable fun state hstate => ?_
    obtain rfl := Option.some.inj hstate
    rfl
  · rw [search]
    split
    · refine ⟨fun state hstate => (hfocused.holds state hstate).of_eq rfl rfl rfl rfl,
        h.accepted, h.applied, fun completion hmem => ?_, h.waiting⟩
      rcases mem_append.1 hmem with hmem | hmem
      · exact h.fetches completion hmem
      · rw [mem_singleton.1 hmem]
    · exact hfocused

/-- The manager is asked about the field that has the focus. -/
theorem Inv.formsFetched (h : s.Inv) {completion : Completion} {forms : Option (List FormData)}
    (hpre : completion ∈ s.fetches) (htimely : s.Timely (.fetched completion forms)) :
    (s.formsFetched completion forms).Inv := by
  have hfetches : ∀ other ∈ s.fetches.erase completion, other.rest = [] :=
    fun other hmem => h.fetches other (mem_of_mem_erase hmem)
  unfold FormSuggestions.formsFetched
  dsimp only
  split
  · exact ⟨fun state hstate => (h.holds state hstate).of_eq rfl rfl rfl rfl, h.accepted,
      h.applied, hfetches, h.waiting⟩
  · next query hquery =>
    refine ⟨fun state hstate => ?_, h.accepted, h.applied, hfetches, fun waiting hwaiting => ?_⟩
    · have hholds := h.holds state hstate
      refine ⟨hholds.view, hholds.stored, fun hsome provider hprovider => ?_⟩
      cases provider with
      | passwords => exact hholds.canFill hsome _ hprovider
      | autofill => exact ⟨query, getLast?_concat, htimely state hstate query hquery⟩
    · obtain rfl := Option.some.inj hwaiting
      exact h.fetches _ hpre

/-- An answer comes to the agent. -/
theorem Inv.suggestionsReady (h : s.Inv) {suggestions : List FormSuggestion}
    {popupDelegate : Bool}
    (hfor : s.agent.processSuggestions env suggestions ≠ [] →
      s.agent.suggestionsAvailableCompletion.isSome = true → ∀ state ∈ s.suggestionState,
        AreFor (s.agent.processSuggestions env suggestions) .autofill state.target ∧
          s.CanFill state.target .autofill) :
    (s.suggestionsReady env suggestions popupDelegate).Inv := by
  have hready : Inv { s with agent := { s.agent with
      popupDelegate
      mostRecentSuggestions := some (s.agent.processSuggestions env suggestions)
      suggestionsAvailableCompletion := none } } := by
    exact ⟨fun state hstate => (h.holds state hstate).of_eq rfl rfl rfl rfl, h.accepted,
      h.applied, h.fetches, nofun⟩
  unfold FormSuggestions.suggestionsReady
  dsimp only
  split
  · exact hready
  · next completion hcompletion =>
    split
    · next hrecent =>
      exact hready.onSuggestionsReady (hfor hrecent (by rw [hcompletion]; rfl))
    · -- The autofill agent is the last provider.
      rw [h.waiting completion hcompletion]
      exact hready

/-! ## Selecting a suggestion -/

theorem Inv.apply (h : s.Inv) {suggestion : FormSuggestion} {target : FormTarget}
    (htarget : target = suggestion.computedFor) (action : FillAction) :
    (s.apply suggestion target action).Inv := by
  refine ⟨fun state hstate => (h.holds state hstate).of_eq rfl rfl rfl rfl, h.accepted,
    fun application hmem => ?_, h.fetches, h.waiting⟩
  rcases mem_append.1 hmem with hmem | hmem
  · exact h.applied application hmem
  · rw [mem_singleton.1 hmem]
    exact htarget

/-- The provider is forgotten. -/
theorem Inv.forget (h : s.Inv) : Inv { s with provider := none } := by
  refine ⟨fun state hstate => ?_, h.accepted, h.applied, h.fetches, h.waiting⟩
  have hholds := h.holds state hstate
  exact ⟨hholds.view, fun suggestions hstored suggestion hmem =>
    ⟨(hholds.stored suggestions hstored suggestion hmem).1, nofun⟩, nofun⟩

theorem Inv.passwordsDidSelect (h : s.Inv) {suggestion : FormSuggestion}
    (hcan : s.CanFill suggestion.computedFor .passwords) :
    (s.passwordsDidSelect suggestion).Inv := by
  obtain ⟨data, hdata, htarget⟩ := hcan
  have hdata : s.formData = some data := hdata
  unfold FormSuggestions.passwordsDidSelect
  simp only [hdata]
  split
  · exact h
  · exact h.apply htarget _

theorem Inv.autofillDidSelect (h : s.Inv) (hfills : FillsLast env) {suggestion : FormSuggestion}
    (hcan : s.CanFill suggestion.computedFor .autofill)
    (haccepted : ∀ accepted ∈ s.accepted,
      accepted.suggestion.computedFor.fieldName = suggestion.computedFor.fieldName) :
    (s.autofillDidSelect env suggestion suggestion.computedFor).Inv := by
  have hselected : Inv { s with agent := { s.agent with
      mostRecentSelectedIdentifier := suggestion.identifier } } :=
    ⟨fun state hstate => (h.holds state hstate).of_eq rfl rfl rfl rfl, h.accepted, h.applied,
      h.fetches, h.waiting⟩
  unfold FormSuggestions.autofillDidSelect
  dsimp only
  split
  · -- The field is the one that is forced when the form is filled.
    have hpending : Inv { s with agent := { s.agent with
        mostRecentSelectedIdentifier := suggestion.identifier
        pendingAutocompleteField := suggestion.computedFor.fieldName } } :=
      ⟨fun state hstate => (h.holds state hstate).of_eq rfl rfl rfl rfl,
        fun accepted hmem => ⟨(h.accepted accepted hmem).1, haccepted accepted hmem⟩, h.applied,
        h.fetches, h.waiting⟩
    split
    · refine ⟨fun state hstate => (h.holds state hstate).of_eq rfl rfl rfl rfl,
        fun accepted hmem => ?_, h.applied, h.fetches, h.waiting⟩
      rcases mem_append.1 hmem with hmem | hmem
      · exact hpending.accepted accepted hmem
      · obtain rfl := mem_singleton.1 hmem
        obtain ⟨query, hquery, htarget⟩ := hcan
        obtain ⟨before, hbefore⟩ := getLast?_eq_some_iff.1 hquery
        refine ⟨?_, rfl⟩
        rw [hbefore, hfills, ← htarget]
        rfl
    · exact hpending
  · split
    · exact hselected.apply rfl _
    · split
      · exact hselected.apply rfl _
      · exact hselected

/-- A suggestion of the view is selected. -/
theorem Inv.didSelectSuggestion (h : s.Inv) (hfills : FillsLast env)
    {suggestion : FormSuggestion} (hpre : suggestion ∈ s.view)
    (htimely : s.Timely (.select suggestion)) : (s.didSelectSuggestion env suggestion).Inv := by
  unfold FormSuggestions.didSelectSuggestion
  split
  · exact h
  · next state hstate =>
    have hholds := h.holds state hstate
    -- The suggestion is one of those that are stored.
    rw [hholds.view] at hpre
    obtain ⟨suggestions, hstored, hmem⟩ : ∃ suggestions, state.suggestions = some suggestions ∧
        suggestion ∈ suggestions := by
      cases hsuggestions : state.suggestions with
      | none =>
        rw [hsuggestions] at hpre
        cases hpre
      | some suggestions =>
        rw [hsuggestions] at hpre
        exact ⟨suggestions, rfl, hpre⟩
    have hfor := (hholds.stored suggestions hstored suggestion hmem).1
    have hcan := hholds.canFill (by rw [hstored]; rfl)
    rw [← hfor] at hcan
    dsimp only
    split
    · exact h.forget
    · next hprovider => exact h.forget.passwordsDidSelect (hcan _ hprovider)
    · next hprovider =>
      rw [← hfor]
      refine h.forget.autofillDidSelect hfills (hcan _ hprovider) fun accepted haccepted => ?_
      rw [hfor]
      exact htimely state hstate accepted haccepted

theorem Inv.onFormDataFilled (h : s.Inv) {accepted : AcceptedSuggestion}
    (hpre : accepted ∈ s.accepted) : (s.onFormDataFilled accepted).Inv := by
  have herased : Inv { s with accepted := s.accepted.erase accepted } :=
    ⟨fun state hstate => (h.holds state hstate).of_eq rfl rfl rfl rfl,
      fun other hmem => h.accepted other (mem_of_mem_erase hmem), h.applied, h.fetches,
      h.waiting⟩
  obtain ⟨hform, hfield⟩ := h.accepted accepted hpre
  refine herased.apply ?_ _
  rw [hform, ← hfield]

/-- New fill data of the password manager. -/
theorem Inv.fillData (h : s.Inv) {data : PasswordFormFillData}
    (htimely : s.Timely (.fillData data)) : Inv { s with formData := some data } := by
  refine ⟨fun state hstate => ?_, h.accepted, h.applied, h.fetches, h.waiting⟩
  have hholds := h.holds state hstate
  refine ⟨hholds.view, hholds.stored, fun hsome provider hprovider => ?_⟩
  cases provider with
  | passwords =>
    obtain ⟨old, hold, htarget⟩ := hholds.canFill hsome _ hprovider
    exact ⟨data, rfl, (htimely state hstate hsome hprovider old hold).trans htarget⟩
  | autofill => exact hholds.canFill hsome _ hprovider

/-! ## Runs -/

/-- **Step**: every event keeps what holds. -/
theorem inv_step (hfills : FillsLast env) (s : FormSuggestions) (op : Op) (h : s.Inv)
    (hboth : s.Pre op ∧ s.Timely op) : (s.step env op).Inv := by
  obtain ⟨hpre, htimely⟩ := hboth
  cases op with
  | reset => exact ⟨nofun, h.accepted, h.applied, h.fetches, h.waiting⟩
  | inject =>
    exact ⟨fun state hstate => (h.holds state hstate).of_eq rfl rfl rfl rfl, h.accepted,
      h.applied, h.fetches, nofun⟩
  | fillData data => exact h.fillData htimely
  | focus query => exact h.focus query
  | fetched completion forms => exact h.formsFetched hpre htimely
  | answered query popup popupDelegate =>
    refine h.suggestionsReady fun _ hwaiting state hstate => ?_
    obtain ⟨hlast, htarget⟩ := htimely hwaiting state hstate
    rw [← htarget]
    exact ⟨areFor_processSuggestions env s.agent query popup, query, hlast, rfl⟩
  | hidden =>
    refine h.suggestionsReady fun hrecent => ?_
    obtain ⟨suggestion, hmem⟩ := exists_mem_of_ne_nil _ hrecent
    cases mem_of_mem_processSuggestions hmem
  | select suggestion => exact h.didSelectSuggestion hfills hpre htimely
  | formDataFilled accepted => exact h.onFormDataFilled hpre

/-- **Run**: while every event is timely, suggestions belong to their field. -/
theorem belongs_of_timely (hfills : FillsLast env) {ops : List Op}
    (hlegal : (formSuggestions env).Legal initial ops)
    (htimely : (formSuggestions env).Along Timely initial ops) {before : List Op}
    (hbefore : before <+: ops) : ((formSuggestions env).run initial before).Belongs := by
  have hboth := (Machine.along_and _ hlegal htimely).of_isPrefix hbefore
  exact (Machine.run_invariant (inv_step hfills) inv_initial hboth).belongs

end Steps

/-! ## Two runs -/

/-- A manager that fills the form it was asked about last. -/
def pageEnvironment : AutofillEnvironment :=
  ⟨true, 0, -4, fun string other => if other.toList <+: string.toList then some 0 else none,
    fun queries => (queries.getLast?.map fun query => query.form.name).getD ""⟩

def nameField : SuggestionsQuery := ⟨"person", "name", "focus", ""⟩

def cityField : SuggestionsQuery := ⟨"address", "city", "focus", "B"⟩

def pageForms : List FormData :=
  [⟨"person", [⟨"name", "text", ""⟩]⟩, ⟨"address", [⟨"city", "text", "B"⟩]⟩]

/-- A suggestion for the name is selected and filled in, then one for the city. -/
def oneAfterTheOther : List Op :=
  let name : AutofillQuery := ⟨⟨"person", [⟨"name", "text", ""⟩]⟩, ⟨"name", "text", ""⟩⟩
  let city : AutofillQuery := ⟨⟨"address", [⟨"city", "text", "B"⟩]⟩, ⟨"city", "text", "B"⟩⟩
  let ada : FormSuggestion := ⟨"Ada", 7, .autofill, name.target⟩
  let bern : FormSuggestion := ⟨"Bern", 0, .autofill, city.target⟩
  [.focus nameField, .fetched ⟨nameField, []⟩ (some pageForms),
    .answered name [⟨"Ada", 7⟩, ⟨"separator", -3⟩] true, .select ada,
    .formDataFilled ⟨ada, "person"⟩, .focus cityField,
    .fetched ⟨cityField, []⟩ (some pageForms), .answered city [⟨"Bern", 0⟩] true, .select bern]

theorem oneAfterTheOther_belongs :
    ((formSuggestions pageEnvironment).run initial oneAfterTheOther).Belongs := by
  have hfills : FillsLast pageEnvironment := by
    intro queries query
    show ((queries ++ [query]).getLast?.map fun query => query.form.name).getD "" = _
    rw [getLast?_concat]
    rfl
  exact belongs_of_timely hfills (by decide +kernel) (by decide +kernel) prefix_rfl

/-- The city gets the focus while the forms are being fetched for the name. -/
def overlapping : List Op :=
  let name : AutofillQuery := ⟨⟨"person", [⟨"name", "text", ""⟩]⟩, ⟨"name", "text", ""⟩⟩
  [.focus nameField, .focus cityField, .fetched ⟨nameField, []⟩ (some pageForms),
    .answered name [⟨"Ada", 7⟩] true]

/-- The suggestions for the name are stored, and shown, for the city. -/
theorem overlapping_not_belongs :
    (formSuggestions pageEnvironment).Legal initial overlapping ∧
      ¬((formSuggestions pageEnvironment).run initial overlapping).Belongs := by
  refine ⟨by decide +kernel, fun hbelongs => ?_⟩
  let ada : FormSuggestion := ⟨"Ada", 7, .autofill, nameField.target⟩
  have hstored : ((formSuggestions pageEnvironment).run initial overlapping).suggestionState =
      some ⟨"address", "city", "B", some [ada]⟩ := by decide +kernel
  have hfor := (hbelongs.stored _ hstored [ada] rfl ada mem_cons_self).1
  exact absurd hfor (by decide)

end FormSuggestions

end ChromiumIos
