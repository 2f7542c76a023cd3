import ChromiumIos.Lib.Machine

/-!
# Form suggestions

`form_suggestion_controller.mm` asks its providers, one after another, for suggestions for the
field that has the focus: `password_controller.mm` answers at once, `autofill_agent.mm` when
the forms have been extracted from the page and the `AutofillManager` has answered.

- `FormSuggestions.search`: `RunSearchPipeline`; the blocks that wait are `Completion`s.
- `FormSuggestions.suggestionsReady`: an answer, which goes to whatever completion waits.
- `FormSuggestions.didSelectSuggestion`: what a suggestion is applied to.
- `formSuggestions`: all of it as a machine.
-/

namespace ChromiumIos

open Lib

/-! ## Suggestions and forms -/

/-- The providers of a tab. -/
inductive FormSuggestionProvider
  | passwords
  | autofill
deriving DecidableEq, Repr

/-- A field of a form, by their names. -/
structure FormTarget where
  formName : String
  fieldName : String
deriving DecidableEq, Repr

/-- A suggestion. The code keeps no record of the last two fields: who computed the suggestion,
and for which field. -/
structure FormSuggestion where
  value : String
  identifier : Int
  computedBy : FormSuggestionProvider
  computedFor : FormTarget
deriving DecidableEq, Repr

structure FormFieldData where
  name : String
  formControlType : String
  value : String
deriving DecidableEq, Repr

def FormFieldData.new : FormFieldData := ⟨"", "", ""⟩

structure FormData where
  name : String
  fields : List FormFieldData
deriving DecidableEq, Repr

/-- What the `AutofillManager` is asked about. -/
structure AutofillQuery where
  form : FormData
  field : FormFieldData
deriving DecidableEq, Repr

def AutofillQuery.target (query : AutofillQuery) : FormTarget :=
  ⟨query.form.name, query.field.name⟩

/-- `GetFormAndField`. -/
def getFormAndField (form : FormData) (fieldName : String) : AutofillQuery :=
  let field := (form.fields.find? fun field => field.name = fieldName).getD .new
  -- Hack to get suggestions from select input elements.
  let field := if field ≠ .new ∧ field.formControlType = "select-one"
    then { field with value := "" } else field
  ⟨form, field⟩

/-- What `getExtractedFormsData` leaves of the forms of the page. -/
def extractedForms (formName : String) (forms : List FormData) : List FormData :=
  forms.filter fun form => formName = "" || formName = form.name

/-- A row of the popup that the `AutofillManager` would show. -/
structure PopupSuggestion where
  value : String
  frontendId : Int
deriving DecidableEq, Repr

/-- The fill data of a password form. -/
structure PasswordFormFillData where
  name : String
  usernameFieldName : String
  username : String
  password : String
  additionalLogins : List (String × String)
deriving DecidableEq, Repr

namespace PasswordFormFillData

def target (data : PasswordFormFillData) : FormTarget := ⟨data.name, data.usernameFieldName⟩

/-- `BuildSuggestions`; `rangeOfString` finds texts that are canonically equivalent. -/
def buildSuggestions (rangeOfString : String → String → Option Nat) (data : PasswordFormFillData)
    (typedValue : String) : List FormSuggestion :=
  ((data.username :: data.additionalLogins.map Prod.fst).filter fun username =>
    typedValue = "" || rangeOfString username typedValue = some 0).map
      fun username => ⟨username, 0, .passwords, data.target⟩

/-- `FindMatchingUsername`: the password, if there is one. -/
def findMatchingUsername (data : PasswordFormFillData) (username : String) : Option String :=
  if data.username = username then some data.password
  else (data.additionalLogins.find? fun login => login.1 = username).map Prod.snd

end PasswordFormFillData

/-- A focus event, with what the search pipeline for it captures. -/
structure SuggestionsQuery where
  formName : String
  fieldName : String
  type : String
  typedValue : String
deriving DecidableEq, Repr

def SuggestionsQuery.target (query : SuggestionsQuery) : FormTarget :=
  ⟨query.formName, query.fieldName⟩

/-- The completion of `checkIfSuggestionsAvailableForForm:` of the autofill agent: `YES` is for
the agent, `NO` for the rest of the pipeline. -/
structure Completion where
  query : SuggestionsQuery
  rest : List FormSuggestionProvider
deriving DecidableEq, Repr

/-! ## The state -/

/-- `AutofillSuggestionState`. -/
structure AutofillSuggestionState where
  formName : String
  fieldName : String
  typedValue : String
  suggestions : Option (List FormSuggestion)
deriving DecidableEq, Repr

def AutofillSuggestionState.target (state : AutofillSuggestionState) : FormTarget :=
  ⟨state.formName, state.fieldName⟩

/-- The members of the agent that suggestions go through. -/
structure AutofillAgent where
  pendingAutocompleteField : String
  mostRecentSelectedIdentifier : Int
  mostRecentSuggestions : Option (List FormSuggestion)
  suggestionsAvailableCompletion : Option Completion
  typedValue : String
  popupDelegate : Bool
deriving DecidableEq, Repr

/-- What the page is told to fill in. -/
inductive FillAction
  | fillForm
  | fillActiveFormField (value : String)
  | clearAutofilledFields
  | fillPasswordForm (username password : String)
deriving DecidableEq, Repr

/-- A suggestion that was applied, and to what. -/
structure Application where
  suggestion : FormSuggestion
  target : FormTarget
  action : FillAction
deriving DecidableEq, Repr

/-- A suggestion that the `AutofillManager` was told of, and the form it is going to fill. -/
structure AcceptedSuggestion where
  suggestion : FormSuggestion
  formName : String
deriving DecidableEq, Repr

/-- What lies outside: whether the page is trusted, two identifiers, where a string is found in
another one, and the `AutofillManager` as far as it chooses the form to fill from what it was
asked. -/
structure AutofillEnvironment where
  trusted : Bool
  autocompleteEntry : Int
  clearForm : Int
  rangeOfString : String → String → Option Nat
  fills : List AutofillQuery → String

/-- The controller with its providers, what they wait for, and what has been applied. -/
structure FormSuggestions where
  suggestionState : Option AutofillSuggestionState
  provider : Option FormSuggestionProvider
  /-- The suggestions in the accessory view. -/
  view : List FormSuggestion
  agent : AutofillAgent
  formData : Option PasswordFormFillData
  fetches : List Completion
  queries : List AutofillQuery
  accepted : List AcceptedSuggestion
  applied : List Application
deriving DecidableEq, Repr

/-! ## The agent -/

/-- The first one that `p` holds of goes to the front. -/
def moveToFront (p : FormSuggestion → Bool) (suggestions : List FormSuggestion) :
    List FormSuggestion :=
  match suggestions.find? p with
  | none => suggestions
  | some suggestion => suggestion :: suggestions.eraseP p

variable (env : AutofillEnvironment)

/-- `processSuggestions`. -/
def AutofillAgent.processSuggestions (agent : AutofillAgent)
    (suggestions : List FormSuggestion) : List FormSuggestion :=
  let suggestions := if agent.mostRecentSelectedIdentifier > 0
    then moveToFront (fun suggestion =>
      suggestion.identifier = agent.mostRecentSelectedIdentifier) suggestions
    else suggestions
  let suggestions := if agent.typedValue = ""
    then suggestions.filter fun suggestion => suggestion.identifier ≠ env.autocompleteEntry
    else suggestions
  -- The last entry that clears the form; one that is in front stays there.
  match suggestions.reverse.find? fun suggestion => suggestion.identifier = env.clearForm with
  | none => suggestions
  | some suggestion => suggestion :: (suggestions.reverse.eraseP fun suggestion =>
      suggestion.identifier = env.clearForm).reverse

/-- `showAutofillPopup`: the rows that are suggestions. -/
def showAutofillPopup (query : AutofillQuery)
    (popup : List PopupSuggestion) : List FormSuggestion :=
  (popup.filter fun row => row.frontendId ≥ 0 || row.frontendId = env.clearForm).map
    fun row => ⟨row.value, row.frontendId, .autofill, query.target⟩

namespace FormSuggestions

/-! ## Retrieving suggestions -/

variable (s : FormSuggestions)

/-- `onSuggestionsReady:provider:` of the controller. -/
def onSuggestionsReady (suggestions : Option (List FormSuggestion))
    (provider : Option FormSuggestionProvider) : FormSuggestions :=
  match s.suggestionState with
  | none => s
  | some state => { s with
      provider
      suggestionState := some { state with suggestions }
      view := suggestions.getD [] }

/-- `retrieveSuggestionsForForm:` of a provider. -/
def retrieveSuggestions (query : SuggestionsQuery) :
    FormSuggestionProvider → FormSuggestions
  | .passwords =>
    match s.formData with
    | none => s.onSuggestionsReady (some []) none
    | some data =>
      let suggestions := data.buildSuggestions env.rangeOfString query.typedValue
      s.onSuggestionsReady (some suggestions) (some .passwords)
  | .autofill => s.onSuggestionsReady s.agent.mostRecentSuggestions (some .autofill)

/-- `checkIfSuggestionsAvailableForForm:` of the password controller. -/
def passwordsAvailable (query : SuggestionsQuery) : Bool :=
  match s.formData with
  | none => false
  | some data => env.trusted && query.target = data.target

/-- `RunSearchPipeline` over the blocks of `retrieveSuggestionsForFormNamed:`. -/
def search (env : AutofillEnvironment) (query : SuggestionsQuery) :
    List FormSuggestionProvider → FormSuggestions → FormSuggestions
  | [], s => s -- `onNoSuggestionsAvailable`.
  | .passwords :: rest, s =>
    if s.passwordsAvailable env query then s.retrieveSuggestions env query .passwords
    else search env query rest s
  | .autofill :: rest, s =>
    if env.trusted then { s with fetches := s.fetches ++ [⟨query, rest⟩] }
    else search env query rest s

/-- `suggestionProviders` of a tab. -/
def suggestionProviders : List FormSuggestionProvider := [.passwords, .autofill]

/-- `retrieveAccessoryViewForFormNamed:`. The provider stays as it is. -/
def retrieveAccessoryView (query : SuggestionsQuery) : FormSuggestions :=
  { s with
    suggestionState := some ⟨query.formName, query.fieldName, query.typedValue, none⟩
    view := [] }.search env query suggestionProviders

/-- What the agent asks when the forms of the page have come, if there is just one. -/
def queryFor (completion : Completion) (forms : Option (List FormData)) : Option AutofillQuery :=
  match forms.map (extractedForms completion.query.formName) with
  | some [form] => some (getFormAndField form completion.query.fieldName)
  | _ => none

/-- The forms have been fetched: `queryAutofillWithForms:`. -/
def formsFetched (completion : Completion) (forms : Option (List FormData)) : FormSuggestions :=
  let s := { s with fetches := s.fetches.erase completion }
  match queryFor completion forms with
  | none => s
  | some query => { s with
      agent := { s.agent with
        suggestionsAvailableCompletion := some completion
        typedValue := completion.query.typedValue }
      queries := s.queries ++ [query] }

/-- `onSuggestionsReady:popupDelegate:` of the agent. -/
def suggestionsReady (suggestions : List FormSuggestion) (popupDelegate : Bool) : FormSuggestions :=
  let recent := s.agent.processSuggestions env suggestions
  let ready := { s with agent := { s.agent with
    popupDelegate
    mostRecentSuggestions := some recent
    suggestionsAvailableCompletion := none } }
  match s.agent.suggestionsAvailableCompletion with
  | none => ready
  | some completion =>
    if recent ≠ [] then ready.retrieveSuggestions env completion.query .autofill
    else ready.search env completion.query completion.rest

/-! ## Selecting a suggestion -/

def apply (suggestion : FormSuggestion) (target : FormTarget)
    (action : FillAction) : FormSuggestions :=
  { s with applied := s.applied ++ [⟨suggestion, target, action⟩] }

/-- `didSelectSuggestion:` of the autofill agent. -/
def autofillDidSelect (suggestion : FormSuggestion) (target : FormTarget) : FormSuggestions :=
  let s := { s with agent := { s.agent with
    mostRecentSelectedIdentifier := suggestion.identifier } }
  if suggestion.identifier > 0 then
    let s := { s with agent := { s.agent with pendingAutocompleteField := target.fieldName } }
    if s.agent.popupDelegate then
      { s with accepted := s.accepted ++ [⟨suggestion, env.fills s.queries⟩] }
    else s
  else if suggestion.identifier = env.autocompleteEntry then
    s.apply suggestion target (.fillActiveFormField suggestion.value)
  else if suggestion.identifier = env.clearForm then
    s.apply suggestion target .clearAutofilledFields
  else s

/-- `didSelectSuggestion:` of the password controller, which looks at its fill data only. -/
def passwordsDidSelect (suggestion : FormSuggestion) : FormSuggestions :=
  match s.formData with
  | none => s
  | some data =>
    match data.findMatchingUsername suggestion.value with
    | none => s
    | some password =>
      s.apply suggestion data.target (.fillPasswordForm suggestion.value password)

/-- `didSelectSuggestion:` of the controller. -/
def didSelectSuggestion (suggestion : FormSuggestion) : FormSuggestions :=
  match s.suggestionState with
  | none => s
  | some state =>
    let selected := { s with provider := none }
    match s.provider with
    | none => selected
    | some .passwords => selected.passwordsDidSelect suggestion
    | some .autofill => selected.autofillDidSelect env suggestion state.target

/-- `onFormDataFilled:`, which forces the field that was selected last. -/
def onFormDataFilled (accepted : AcceptedSuggestion) : FormSuggestions :=
  { s with accepted := s.accepted.erase accepted }.apply accepted.suggestion
    ⟨accepted.formName, s.agent.pendingAutocompleteField⟩ .fillForm

/-! ## The machine -/

def initial : FormSuggestions where
  suggestionState := none
  provider := none
  view := []
  agent := ⟨"", 0, none, none, "", false⟩
  formData := none
  fetches := []
  queries := []
  accepted := []
  applied := []

/-- What can happen on one page. -/
inductive Op
  /-- `resetSuggestionState`. -/
  | reset
  /-- The scripts of the agent are injected. -/
  | inject
  /-- The password manager has fill data for a form. -/
  | fillData (data : PasswordFormFillData)
  | focus (query : SuggestionsQuery)
  | fetched (completion : Completion) (forms : Option (List FormData))
  | answered (query : AutofillQuery) (popup : List PopupSuggestion) (popupDelegate : Bool)
  /-- `hideAutofillPopup`. -/
  | hidden
  | select (suggestion : FormSuggestion)
  | formDataFilled (accepted : AcceptedSuggestion)
deriving DecidableEq

/-- Forms come to a fetch, answers to a query, and suggestions are selected in the view. -/
def Pre : Op → Prop
  | .fetched completion _ => completion ∈ s.fetches
  | .answered query _ _ => query ∈ s.queries
  | .select suggestion => suggestion ∈ s.view
  | .formDataFilled accepted => accepted ∈ s.accepted
  | .reset | .inject | .fillData _ | .focus _ | .hidden => True

instance (op : Op) : Decidable (s.Pre op) :=
  match op with
  | .fetched completion _ => inferInstanceAs (Decidable (completion ∈ s.fetches))
  | .answered query _ _ => inferInstanceAs (Decidable (query ∈ s.queries))
  | .select suggestion => inferInstanceAs (Decidable (suggestion ∈ s.view))
  | .formDataFilled accepted => inferInstanceAs (Decidable (accepted ∈ s.accepted))
  | .reset | .inject | .fillData _ | .focus _ | .hidden => instDecidableTrue

def step : Op → FormSuggestions
  | .reset => { s with provider := none, suggestionState := none }
  | .inject => { s with agent := { s.agent with
      popupDelegate := false
      suggestionsAvailableCompletion := none
      mostRecentSuggestions := none
      typedValue := "" } }
  | .fillData data => { s with formData := some data }
  | .focus query => s.retrieveAccessoryView env query
  | .fetched completion forms => s.formsFetched completion forms
  | .answered query popup popupDelegate =>
    s.suggestionsReady env (showAutofillPopup env query popup) popupDelegate
  | .hidden => s.suggestionsReady env [] false
  | .select suggestion => s.didSelectSuggestion env suggestion
  | .formDataFilled accepted => s.onFormDataFilled accepted

end FormSuggestions

/-- A page with its fields, its fetches and the answers, as a machine. -/
abbrev formSuggestions : Machine FormSuggestions FormSuggestions.Op :=
  ⟨FormSuggestions.Pre, FormSuggestions.step env⟩

end ChromiumIos
