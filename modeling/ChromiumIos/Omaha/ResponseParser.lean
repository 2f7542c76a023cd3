import ChromiumIos.Lib.Keyed
import ChromiumIos.Web.Types

/-!
# `ResponseParser`

`omaha_service.mm`: the delegate that reads the response of the Omaha server, told
of one start element after the other.

- `Message`: the documented forms of a response, as sequences of elements.
- `parse_kept`: elements with ignored tags leave the parser as it is.
- `parses_exactly_iff`: the parser accepts the messages and nothing else, unless a
  `url` element comes after an event.
-/

namespace ChromiumIos

open Lib List

/-- A start element, with its `attributeDict`. -/
structure Element where
  name : String
  attributes : Keyed String String
deriving DecidableEq, Repr

structure UpgradeRecommendedDetails where
  upgradeURL : GURL
  nextVersion : String
deriving DecidableEq, Repr

structure ResponseParser where
  hasError : Bool
  responseIsParsed : Bool
  appIsParsed : Bool
  updateCheckIsParsed : Bool
  urlIsParsed : Bool
  manifestIsParsed : Bool
  pingIsParsed : Bool
  eventIsParsed : Bool
  appId : String
  updateInformation : Option UpgradeRecommendedDetails
deriving DecidableEq, Repr

namespace ResponseParser

def initWithAppId (appId : String) : ResponseParser where
  hasError := false
  responseIsParsed := false
  appIsParsed := false
  updateCheckIsParsed := false
  urlIsParsed := false
  manifestIsParsed := false
  pingIsParsed := false
  eventIsParsed := false
  appId
  updateInformation := none

def isCorrect (s : ResponseParser) : Bool := !s.hasError && (s.pingIsParsed || s.eventIsParsed)

def upgradeRecommendedDetails (s : ResponseParser) : Option UpgradeRecommendedDetails :=
  s.updateInformation

def ignoredTagNames : List String :=
  ["action", "actions", "daystart", "package", "packages", "urls"]

/-- The URL of a codebase: its last character is dropped if it is a slash. -/
def urlOfCodebase (codebase : String) : String :=
  if codebase.toList.getLast? = some '/' then String.ofList codebase.toList.dropLast else codebase

def fail (s : ResponseParser) : ResponseParser := { s with hasError := true }

variable (gurl : String → GURL)

/-- `parser:didStartElement:namespaceURI:qualifiedName:attributes:`. There is no
parser left after an access to an `updateInformation` that is not there. -/
def didStartElement (s : ResponseParser) (element : Element) : Option ResponseParser :=
  if s.hasError then some s
  else if element.name ∈ ignoredTagNames then some s
  else if !s.responseIsParsed then
    if element.name = "response" ∧ element.attributes.get? "protocol" = some "3.0" ∧
        element.attributes.get? "server" = some "prod" then
      some { s with responseIsParsed := true }
    else some s.fail
  else if !s.appIsParsed then
    if element.name = "app" ∧ element.attributes.get? "status" = some "ok" ∧
        element.attributes.get? "appid" = some s.appId then
      some { s with appIsParsed := true }
    else some s.fail
  else if !s.eventIsParsed && !s.updateCheckIsParsed then
    if element.name = "updatecheck" then
      let s := { s with updateCheckIsParsed := true }
      if element.attributes.get? "status" = some "noupdate" then
        some { s with urlIsParsed := true, manifestIsParsed := true }
      else if element.attributes.get? "status" = some "ok" then
        some { s with updateInformation := some ⟨GURL.new, ""⟩ }
      else some s.fail
    else if element.name = "event" then
      if element.attributes.get? "status" = some "ok" then some { s with eventIsParsed := true }
      else some s.fail
    else some s.fail
  else if !s.urlIsParsed then
    if element.name = "url" ∧ (element.attributes.get? "codebase").getD "" ≠ "" then
      let url := gurl (urlOfCodebase ((element.attributes.get? "codebase").getD ""))
      s.updateInformation.map fun details =>
        { s with
          urlIsParsed := true
          updateInformation := some { details with upgradeURL := url }
          hasError := !url.isValid }
    else some s.fail
  else if !s.manifestIsParsed then
    if element.name = "manifest" ∧ element.attributes.get? "version" ≠ none then
      s.updateInformation.map fun details =>
        { s with
          manifestIsParsed := true
          updateInformation :=
            some { details with nextVersion := (element.attributes.get? "version").getD "" } }
    else some s.fail
  else if !s.pingIsParsed then
    if element.name = "ping" ∧ element.attributes.get? "status" = some "ok" then
      some { s with pingIsParsed := true }
    else some s.fail
  else some s.fail

/-- The parser after the elements. -/
def parse (s : ResponseParser) (elements : List Element) : Option ResponseParser :=
  elements.foldlM (didStartElement gurl) s

/-! ## Messages -/

/-- The elements that count. -/
def kept (elements : List Element) : List Element :=
  elements.filter (·.name ∉ ignoredTagNames)

end ResponseParser

namespace Element

variable (gurl : String → GURL)

/-- An element of the name, with a status. -/
def HasStatus (element : Element) (name status : String) : Prop :=
  element.name = name ∧ element.attributes.get? "status" = some status

def IsResponse (element : Element) : Prop :=
  element.name = "response" ∧ element.attributes.get? "protocol" = some "3.0" ∧
    element.attributes.get? "server" = some "prod"

def IsApp (appId : String) (element : Element) : Prop :=
  element.name = "app" ∧ element.attributes.get? "status" = some "ok" ∧
    element.attributes.get? "appid" = some appId

/-- A `url` element with a codebase. -/
def IsUrl (element : Element) : Prop :=
  element.name = "url" ∧ (element.attributes.get? "codebase").getD "" ≠ ""

def HasValidURL (element : Element) : Prop :=
  (gurl (ResponseParser.urlOfCodebase ((element.attributes.get? "codebase").getD ""))).isValid

def IsManifest (element : Element) : Prop :=
  element.name = "manifest" ∧ element.attributes.get? "version" ≠ none

instance (element : Element) (name status : String) : Decidable (element.HasStatus name status) :=
  instDecidableAnd

instance (element : Element) : Decidable element.IsResponse := instDecidableAnd

instance (appId : String) (element : Element) : Decidable (element.IsApp appId) := instDecidableAnd

instance (element : Element) : Decidable element.IsUrl := instDecidableAnd

instance (element : Element) : Decidable element.IsManifest := instDecidableAnd

end Element

namespace ResponseParser

open Element

variable (gurl : String → GURL) (appId : String)

/-- The forms of a response: an event is acknowledged, there is no update, or
there is one. -/
inductive Message : List Element → Prop
  | event (response app event : Element) (hresponse : response.IsResponse)
      (happ : app.IsApp appId) (hevent : event.HasStatus "event" "ok") :
      Message [response, app, event]
  | noUpdate (response app updateCheck ping : Element) (hresponse : response.IsResponse)
      (happ : app.IsApp appId) (hupdateCheck : updateCheck.HasStatus "updatecheck" "noupdate")
      (hping : ping.HasStatus "ping" "ok") :
      Message [response, app, updateCheck, ping]
  | update (response app updateCheck url manifest ping : Element)
      (hresponse : response.IsResponse) (happ : app.IsApp appId)
      (hupdateCheck : updateCheck.HasStatus "updatecheck" "ok") (hurl : url.IsUrl)
      (hvalid : url.HasValidURL gurl) (hmanifest : manifest.IsManifest)
      (hping : ping.HasStatus "ping" "ok") :
      Message [response, app, updateCheck, url, manifest, ping]

/-- The elements tell of an update. -/
def UpdateOk (elements : List Element) : Prop :=
  ∃ response app updateCheck rest, kept elements = response :: app :: updateCheck :: rest ∧
    response.IsResponse ∧ app.IsApp appId ∧ updateCheck.HasStatus "updatecheck" "ok"

/-- The parser survives the elements, accepts messages only and all of them, and
has details of an update only where there is one. -/
structure ParsesExactly (elements : List Element) (s : ResponseParser) : Prop where
  parsed : (initWithAppId appId).parse gurl elements = some s
  correct : s.isCorrect ↔ Message gurl appId (kept elements)
  details : s.upgradeRecommendedDetails ≠ none → UpdateOk appId elements

/-- After the acknowledgement of an event comes a `url` element with a codebase. -/
def UrlAfterEvent (elements : List Element) : Prop :=
  ∃ response app event url rest, kept elements = response :: app :: event :: url :: rest ∧
    response.IsResponse ∧ app.IsApp appId ∧ event.HasStatus "event" "ok" ∧ url.IsUrl

/-! ## Stages -/

/-- What the parser waits for, as its flags tell. -/
inductive Stage
  | response
  | app
  | content
  | afterEvent
  | url
  | manifest
  | ping
  | done
deriving DecidableEq

/-- A parser that waits for the next element, with the details it has so far. -/
def Stage.parser (appId : String) (details : Option UpgradeRecommendedDetails) (stage : Stage) :
    ResponseParser where
  hasError := false
  responseIsParsed := stage ≠ .response
  appIsParsed := stage ∉ [.response, .app]
  updateCheckIsParsed := stage ∈ [.url, .manifest, .ping, .done]
  urlIsParsed := stage ∈ [.manifest, .ping, .done]
  manifestIsParsed := stage ∈ [.ping, .done]
  pingIsParsed := stage = .done
  eventIsParsed := stage = .afterEvent
  appId
  updateInformation := details

section Steps

variable {gurl appId} {element : Element} {elements : List Element} {s : ResponseParser}

theorem didStartElement_of_hasError (herror : s.hasError) :
    s.didStartElement gurl element = some s := by
  rw [didStartElement, if_pos herror]

theorem didStartElement_of_ignored (hignored : element.name ∈ ignoredTagNames) :
    s.didStartElement gurl element = some s := by
  rw [didStartElement, if_pos hignored, ite_self]

theorem parse_cons {s' : ResponseParser} (hstep : s.didStartElement gurl element = some s') :
    s.parse gurl (element :: elements) = s'.parse gurl elements := by
  rw [parse, foldlM_cons, hstep]
  rfl

theorem parse_of_hasError (herror : s.hasError) : s.parse gurl elements = some s := by
  induction elements with
  | nil => rfl
  | cons element elements ih => rw [parse_cons (didStartElement_of_hasError herror), ih]

/-- Elements with ignored tags do not count. -/
theorem parse_kept : s.parse gurl (kept elements) = s.parse gurl elements := by
  induction elements generalizing s with
  | nil => rfl
  | cons element elements ih =>
    by_cases hignored : element.name ∈ ignoredTagNames
    · rw [parse_cons (didStartElement_of_ignored hignored), kept, filter_cons_of_neg, ← kept, ih]
      simpa using hignored
    · rw [kept, filter_cons_of_pos (by simpa using hignored), ← kept, parse, parse,
        foldlM_cons, foldlM_cons]
      cases s.didStartElement gurl element with
      | none => rfl
      | some s' => exact ih

/-- The element is an error. -/
def Rejects (gurl : String → GURL) (s : ResponseParser) (element : Element) : Prop :=
  ∃ s', s.didStartElement gurl element = some s' ∧ s'.hasError ∧
    s'.updateInformation.isSome = s.updateInformation.isSome

/-! What each stage makes of an element that counts. -/

variable {details : Option UpgradeRecommendedDetails}

theorem didStartElement_response (hkept : element.name ∉ ignoredTagNames) :
    (Stage.response.parser appId details).didStartElement gurl element =
      if element.IsResponse then some (Stage.app.parser appId details)
      else some (Stage.response.parser appId details).fail := by
  simp [didStartElement, Stage.parser, hkept, IsResponse]

theorem didStartElement_app (hkept : element.name ∉ ignoredTagNames) :
    (Stage.app.parser appId details).didStartElement gurl element =
      if element.IsApp appId then some (Stage.content.parser appId details)
      else some (Stage.app.parser appId details).fail := by
  simp [didStartElement, Stage.parser, hkept, IsApp]

theorem didStartElement_afterEvent (hkept : element.name ∉ ignoredTagNames) :
    (Stage.afterEvent.parser appId none).didStartElement gurl element =
      if element.IsUrl then none else some (Stage.afterEvent.parser appId none).fail := by
  simp [didStartElement, Stage.parser, hkept, IsUrl]

theorem didStartElement_event (hevent : element.HasStatus "event" "ok") :
    (Stage.content.parser appId details).didStartElement gurl element =
      some (Stage.afterEvent.parser appId details) := by
  simp [didStartElement, Stage.parser, ignoredTagNames, hevent.1, hevent.2]

theorem didStartElement_noUpdate (hupdateCheck : element.HasStatus "updatecheck" "noupdate") :
    (Stage.content.parser appId details).didStartElement gurl element =
      some (Stage.ping.parser appId details) := by
  simp [didStartElement, Stage.parser, ignoredTagNames, hupdateCheck.1, hupdateCheck.2]

theorem didStartElement_update (hupdateCheck : element.HasStatus "updatecheck" "ok") :
    (Stage.content.parser appId details).didStartElement gurl element =
      some (Stage.url.parser appId (some ⟨GURL.new, ""⟩)) := by
  simp [didStartElement, Stage.parser, ignoredTagNames, hupdateCheck.1, hupdateCheck.2]

theorem rejects_content (hkept : element.name ∉ ignoredTagNames)
    (hevent : ¬ element.HasStatus "event" "ok")
    (hnoUpdate : ¬ element.HasStatus "updatecheck" "noupdate")
    (hupdate : ¬ element.HasStatus "updatecheck" "ok") :
    (Stage.content.parser appId details).Rejects gurl element := by
  by_cases hupdateCheck : element.name = "updatecheck"
  · have hstatus : element.attributes.get? "status" ≠ some "noupdate" ∧
        element.attributes.get? "status" ≠ some "ok" :=
      ⟨fun h => hnoUpdate ⟨hupdateCheck, h⟩, fun h => hupdate ⟨hupdateCheck, h⟩⟩
    refine ⟨{ Stage.content.parser appId details with
      updateCheckIsParsed := true, hasError := true }, ?_, rfl, rfl⟩
    simp [didStartElement, Stage.parser, ignoredTagNames, hupdateCheck, hstatus, fail]
  · refine ⟨(Stage.content.parser appId details).fail, ?_, rfl, rfl⟩
    have hother : element.name = "event" → element.attributes.get? "status" ≠ some "ok" :=
      fun hname hstatus => hevent ⟨hname, hstatus⟩
    simp +contextual [didStartElement, Stage.parser, hkept, hupdateCheck, hother]

theorem didStartElement_url (hurl : element.IsUrl) (hvalid : element.HasValidURL gurl)
    (details : UpgradeRecommendedDetails) :
    ∃ details', (Stage.url.parser appId (some details)).didStartElement gurl element =
      some (Stage.manifest.parser appId (some details')) := by
  refine ⟨{ details with
    upgradeURL := gurl (urlOfCodebase ((element.attributes.get? "codebase").getD "")) }, ?_⟩
  rw [HasValidURL] at hvalid
  simp [didStartElement, Stage.parser, ignoredTagNames, hurl.1, hurl.2, hvalid]

theorem rejects_url (hkept : element.name ∉ ignoredTagNames)
    (hnot : ¬ (element.IsUrl ∧ element.HasValidURL gurl))
    (details : UpgradeRecommendedDetails) :
    (Stage.url.parser appId (some details)).Rejects gurl element := by
  by_cases hurl : element.IsUrl
  · have hinvalid : ¬ element.HasValidURL gurl := fun hvalid => hnot ⟨hurl, hvalid⟩
    refine ⟨{ Stage.manifest.parser appId (some { details with
      upgradeURL := gurl (urlOfCodebase ((element.attributes.get? "codebase").getD "")) }) with
        hasError := true }, ?_, rfl, rfl⟩
    rw [HasValidURL, Bool.not_eq_true] at hinvalid
    simp [didStartElement, Stage.parser, ignoredTagNames, hurl.1, hurl.2, hinvalid]
  · refine ⟨(Stage.url.parser appId (some details)).fail, ?_, rfl, rfl⟩
    rw [IsUrl] at hurl
    simp [didStartElement, Stage.parser, hkept, hurl]

theorem didStartElement_manifest (hkept : element.name ∉ ignoredTagNames)
    (details : UpgradeRecommendedDetails) :
    (Stage.manifest.parser appId (some details)).didStartElement gurl element =
      if element.IsManifest then
        some (Stage.ping.parser appId (some { details with
          nextVersion := (element.attributes.get? "version").getD "" }))
      else some (Stage.manifest.parser appId (some details)).fail := by
  simp [didStartElement, Stage.parser, hkept, IsManifest]

theorem didStartElement_ping (hkept : element.name ∉ ignoredTagNames) :
    (Stage.ping.parser appId details).didStartElement gurl element =
      if element.HasStatus "ping" "ok" then some (Stage.done.parser appId details)
      else some (Stage.ping.parser appId details).fail := by
  simp [didStartElement, Stage.parser, hkept, HasStatus]

theorem didStartElement_done (hkept : element.name ∉ ignoredTagNames) :
    (Stage.done.parser appId details).didStartElement gurl element =
      some (Stage.done.parser appId details).fail := by
  simp [didStartElement, Stage.parser, hkept]

end Steps

/-! ## What is accepted -/

section Accepted

variable {gurl appId} {element : Element} {elements : List Element} {s s' : ResponseParser}

/-- The parser survives the elements, and accepts them or not. -/
def Answers (gurl : String → GURL) (s : ResponseParser) (elements : List Element)
    (accepted hasDetails : Prop) : Prop :=
  ∃ s', s.parse gurl elements = some s' ∧ (s'.isCorrect ↔ accepted) ∧
    (s'.updateInformation.isSome ↔ hasDetails)

theorem Answers.cons {accepted hasDetails : Prop}
    (hstep : s.didStartElement gurl element = some s')
    (h : s'.Answers gurl elements accepted hasDetails) :
    s.Answers gurl (element :: elements) accepted hasDetails := by
  obtain ⟨last, hparse, hanswer⟩ := h
  exact ⟨last, (parse_cons hstep).trans hparse, hanswer⟩

theorem Rejects.answers (h : s.Rejects gurl element) :
    s.Answers gurl (element :: elements) False s.updateInformation.isSome := by
  obtain ⟨s', hstep, herror, hdetails⟩ := h
  refine ⟨s', (parse_cons hstep).trans (parse_of_hasError herror), ?_, by rw [hdetails]⟩
  simp [isCorrect, herror]

theorem rejects_of_fail (hstep : s.didStartElement gurl element = some s.fail) :
    s.Rejects gurl element :=
  ⟨s.fail, hstep, rfl, rfl⟩

theorem Answers.congr {accepted accepted' hasDetails hasDetails' : Prop}
    (h : s.Answers gurl elements accepted hasDetails) (haccepted : accepted ↔ accepted')
    (hdetails : hasDetails ↔ hasDetails') : s.Answers gurl elements accepted' hasDetails' := by
  rwa [← propext haccepted, ← propext hdetails]

/-- An element of the kind, and then the rest. -/
def Begins (first : Element → Prop) (rest : List Element → Prop) : List Element → Prop
  | [] => False
  | element :: elements => first element ∧ rest elements

theorem Begins.weaken {first : Element → Prop} {rest : List Element → Prop}
    (h : Begins first rest elements) : Begins first (fun _ => True) elements := by
  cases elements with
  | nil => exact h
  | cons element elements => exact ⟨h.1, trivial⟩

/-- The first element is of the kind that is waited for, or an error. -/
theorem answers_begins {first : Element → Prop} {rest : List Element → Prop} {hasDetails : Prop}
    (hnone : ¬ s.isCorrect)
    (hdetails : ¬ Begins first (fun _ => True) elements →
      (s.updateInformation.isSome ↔ hasDetails))
    (hfirst : ∀ element rest', elements = element :: rest' → first element →
      ∃ s', s.didStartElement gurl element = some s' ∧
        s'.Answers gurl rest' (rest rest') hasDetails)
    (hother : ∀ element rest', elements = element :: rest' → ¬ first element →
      s.Rejects gurl element) :
    s.Answers gurl elements (Begins first rest elements) hasDetails := by
  cases elements with
  | nil => exact ⟨s, rfl, iff_of_false hnone id, hdetails id⟩
  | cons element elements =>
    by_cases hkind : first element
    · obtain ⟨s', hstep, hanswers⟩ := hfirst element elements rfl hkind
      exact (hanswers.cons hstep).congr (iff_and_self.2 fun _ => hkind) Iff.rfl
    · exact (hother element elements rfl hkind).answers.congr
        (iff_of_false id fun h => hkind h.1) (hdetails fun h => hkind h.1)

variable {details : Option UpgradeRecommendedDetails}
  (hkept : ∀ element ∈ elements, element.name ∉ ignoredTagNames)
include hkept

theorem answers_done :
    (Stage.done.parser appId details).Answers gurl elements (elements = []) details.isSome := by
  cases elements with
  | nil => exact ⟨_, rfl, by simp [isCorrect, Stage.parser], by simp [Stage.parser]⟩
  | cons element elements =>
    have hreject : (Stage.done.parser appId details).Rejects gurl element :=
      rejects_of_fail (didStartElement_done (hkept element mem_cons_self))
    exact hreject.answers.congr (by simp) Iff.rfl

theorem answers_ping :
    (Stage.ping.parser appId details).Answers gurl elements
      (Begins (·.HasStatus "ping" "ok") (· = []) elements) details.isSome := by
  refine answers_begins (by simp [isCorrect, Stage.parser]) (fun _ => by simp [Stage.parser]) ?_ ?_
  · rintro element rest rfl hping
    obtain ⟨hfirst, hrest⟩ := forall_mem_cons.1 hkept
    exact ⟨_, (didStartElement_ping hfirst).trans (if_pos hping), answers_done hrest⟩
  · rintro element rest rfl hping
    obtain ⟨hfirst, -⟩ := forall_mem_cons.1 hkept
    exact rejects_of_fail ((didStartElement_ping hfirst).trans (if_neg hping))

theorem answers_manifest (details : UpgradeRecommendedDetails) :
    (Stage.manifest.parser appId (some details)).Answers gurl elements
      (Begins IsManifest (Begins (·.HasStatus "ping" "ok") (· = [])) elements) True := by
  refine answers_begins (by simp [isCorrect, Stage.parser]) (fun _ => by simp [Stage.parser]) ?_ ?_
  · rintro element rest rfl hmanifest
    obtain ⟨hfirst, hrest⟩ := forall_mem_cons.1 hkept
    exact ⟨_, (didStartElement_manifest hfirst details).trans (if_pos hmanifest),
      (answers_ping hrest).congr Iff.rfl (by simp)⟩
  · rintro element rest rfl hmanifest
    obtain ⟨hfirst, -⟩ := forall_mem_cons.1 hkept
    exact rejects_of_fail ((didStartElement_manifest hfirst details).trans (if_neg hmanifest))

theorem answers_url (details : UpgradeRecommendedDetails) :
    (Stage.url.parser appId (some details)).Answers gurl elements
      (Begins (fun url => url.IsUrl ∧ url.HasValidURL gurl)
        (Begins IsManifest (Begins (·.HasStatus "ping" "ok") (· = []))) elements) True := by
  refine answers_begins (by simp [isCorrect, Stage.parser]) (fun _ => by simp [Stage.parser]) ?_ ?_
  · rintro element rest rfl hurl
    obtain ⟨-, hrest⟩ := forall_mem_cons.1 hkept
    obtain ⟨details', hstep⟩ := didStartElement_url hurl.1 hurl.2 details
    exact ⟨_, hstep, answers_manifest hrest details'⟩
  · rintro element rest rfl hurl
    obtain ⟨hfirst, -⟩ := forall_mem_cons.1 hkept
    exact rejects_url hfirst hurl details

/-- After an event nothing is accepted any more, and a `url` is not survived. -/
theorem answers_afterEvent (hurl : ¬ Begins IsUrl (fun _ => True) elements) :
    (Stage.afterEvent.parser appId none).Answers gurl elements (elements = []) False := by
  cases elements with
  | nil => exact ⟨_, rfl, by simp [isCorrect, Stage.parser], by simp [Stage.parser]⟩
  | cons element elements =>
    have hnot : ¬ element.IsUrl := fun h => hurl ⟨h, trivial⟩
    have hreject : (Stage.afterEvent.parser appId none).Rejects gurl element :=
      rejects_of_fail ((didStartElement_afterEvent (hkept element mem_cons_self)).trans
        (if_neg hnot))
    exact hreject.answers.congr (by simp) (by simp [Stage.parser])

/-- What an `app` element may hold. -/
def IsContent (gurl : String → GURL) (elements : List Element) : Prop :=
  Begins (·.HasStatus "event" "ok") (· = []) elements ∨
  Begins (·.HasStatus "updatecheck" "noupdate") (Begins (·.HasStatus "ping" "ok") (· = []))
    elements ∨
  Begins (·.HasStatus "updatecheck" "ok") (Begins (fun url => url.IsUrl ∧ url.HasValidURL gurl)
    (Begins IsManifest (Begins (·.HasStatus "ping" "ok") (· = [])))) elements

omit hkept in
/-- The three kinds of content are told apart by their first element. -/
theorem not_hasStatus_of {name status name' status' : String}
    (h : element.HasStatus name status) (hne : ¬ (name = name' ∧ status = status')) :
    ¬ element.HasStatus name' status' := by
  rintro ⟨hname, hstatus⟩
  exact hne ⟨h.1.symm.trans hname, Option.some.inj (h.2.symm.trans hstatus)⟩

theorem answers_content
    (hurl : ¬ Begins (·.HasStatus "event" "ok") (Begins IsUrl fun _ => True) elements) :
    (Stage.content.parser appId none).Answers gurl elements (IsContent gurl elements)
      (Begins (·.HasStatus "updatecheck" "ok") (fun _ => True) elements) := by
  cases elements with
  | nil => exact ⟨_, rfl, by simp [isCorrect, Stage.parser, IsContent, Begins],
      by simp [Stage.parser, Begins]⟩
  | cons element rest =>
    obtain ⟨hfirst, hrest⟩ := forall_mem_cons.1 hkept
    by_cases hevent : element.HasStatus "event" "ok"
    · have hnoUpdate : ¬ element.HasStatus "updatecheck" "noupdate" :=
        not_hasStatus_of hevent (by decide)
      have hupdate : ¬ element.HasStatus "updatecheck" "ok" := not_hasStatus_of hevent (by decide)
      have hafter : ¬ Begins IsUrl (fun _ => True) rest := fun h => hurl ⟨hevent, h⟩
      exact ((answers_afterEvent hrest hafter).cons (didStartElement_event hevent)).congr
        (by simp [IsContent, Begins, hevent, hnoUpdate, hupdate]) (by simp [Begins, hupdate])
    · by_cases hnoUpdate : element.HasStatus "updatecheck" "noupdate"
      · have hupdate : ¬ element.HasStatus "updatecheck" "ok" :=
          not_hasStatus_of hnoUpdate (by decide)
        exact ((answers_ping hrest).cons (didStartElement_noUpdate hnoUpdate)).congr
          (by simp [IsContent, Begins, hevent, hnoUpdate, hupdate]) (by simp [Begins, hupdate])
      · by_cases hupdate : element.HasStatus "updatecheck" "ok"
        · exact ((answers_url hrest _).cons (didStartElement_update hupdate)).congr
            (by simp [IsContent, Begins, hevent, hnoUpdate, hupdate]) (by simp [Begins, hupdate])
        · exact (rejects_content hfirst hevent hnoUpdate hupdate).answers.congr
            (by simp [IsContent, Begins, hevent, hnoUpdate, hupdate])
            (by simp [Begins, hupdate, Stage.parser])

theorem answers_app
    (hurl : ¬ Begins (IsApp appId)
      (Begins (·.HasStatus "event" "ok") (Begins IsUrl fun _ => True)) elements) :
    (Stage.app.parser appId none).Answers gurl elements
      (Begins (IsApp appId) (IsContent gurl) elements)
      (Begins (IsApp appId) (Begins (·.HasStatus "updatecheck" "ok") fun _ => True) elements) := by
  refine answers_begins (by simp [isCorrect, Stage.parser])
    (fun hno => iff_of_false (by simp [Stage.parser]) fun h => hno h.weaken) ?_ ?_
  · rintro element rest rfl happ
    obtain ⟨hfirst, hrest⟩ := forall_mem_cons.1 hkept
    refine ⟨_, (didStartElement_app hfirst).trans (if_pos happ), ?_⟩
    exact (answers_content hrest fun h => hurl ⟨happ, h⟩).congr Iff.rfl
      (iff_and_self.2 fun _ => happ)
  · rintro element rest rfl happ
    obtain ⟨hfirst, -⟩ := forall_mem_cons.1 hkept
    exact rejects_of_fail ((didStartElement_app hfirst).trans (if_neg happ))

theorem answers_response
    (hurl : ¬ Begins IsResponse (Begins (IsApp appId)
      (Begins (·.HasStatus "event" "ok") (Begins IsUrl fun _ => True))) elements) :
    (Stage.response.parser appId none).Answers gurl elements
      (Begins IsResponse (Begins (IsApp appId) (IsContent gurl)) elements)
      (Begins IsResponse (Begins (IsApp appId)
        (Begins (·.HasStatus "updatecheck" "ok") fun _ => True)) elements) := by
  refine answers_begins (by simp [isCorrect, Stage.parser])
    (fun hno => iff_of_false (by simp [Stage.parser]) fun h => hno h.weaken) ?_ ?_
  · rintro element rest rfl hresponse
    obtain ⟨hfirst, hrest⟩ := forall_mem_cons.1 hkept
    refine ⟨_, (didStartElement_response hfirst).trans (if_pos hresponse), ?_⟩
    exact (answers_app hrest fun h => hurl ⟨hresponse, h⟩).congr Iff.rfl
      (iff_and_self.2 fun _ => hresponse)
  · rintro element rest rfl hresponse
    obtain ⟨hfirst, -⟩ := forall_mem_cons.1 hkept
    exact rejects_of_fail ((didStartElement_response hfirst).trans (if_neg hresponse))

end Accepted

section Exact

variable {gurl : String → GURL} {appId : String} {elements : List Element}

theorem name_of_mem_kept {element : Element} (h : element ∈ kept elements) :
    element.name ∉ ignoredTagNames := by
  simpa using (mem_filter.1 h).2

theorem message_iff :
    Message gurl appId elements ↔
      Begins IsResponse (Begins (IsApp appId) (IsContent gurl)) elements := by
  constructor
  · intro h
    cases h with
    | event _ _ _ hresponse happ hevent => exact ⟨hresponse, happ, .inl ⟨hevent, rfl⟩⟩
    | noUpdate _ _ _ _ hresponse happ hupdateCheck hping =>
      exact ⟨hresponse, happ, .inr (.inl ⟨hupdateCheck, hping, rfl⟩)⟩
    | update _ _ _ _ _ _ hresponse happ hupdateCheck hurl hvalid hmanifest hping =>
      exact ⟨hresponse, happ, .inr (.inr ⟨hupdateCheck, ⟨hurl, hvalid⟩, hmanifest, hping, rfl⟩)⟩
  · intro h
    match elements, h with
    | [_, _, _], ⟨hresponse, happ, .inl ⟨hevent, rfl⟩⟩ => exact .event _ _ _ hresponse happ hevent
    | [_, _, _, _], ⟨hresponse, happ, .inr (.inl ⟨hupdateCheck, hping, rfl⟩)⟩ =>
      exact .noUpdate _ _ _ _ hresponse happ hupdateCheck hping
    | [_, _, _, _, _, _],
        ⟨hresponse, happ, .inr (.inr ⟨hupdateCheck, hurl, hmanifest, hping, rfl⟩)⟩ =>
      exact .update _ _ _ _ _ _ hresponse happ hupdateCheck hurl.1 hurl.2 hmanifest hping

theorem urlAfterEvent_iff :
    UrlAfterEvent appId elements ↔ Begins IsResponse (Begins (IsApp appId)
      (Begins (·.HasStatus "event" "ok") (Begins IsUrl fun _ => True))) (kept elements) := by
  rw [UrlAfterEvent]
  constructor
  · rintro ⟨response, app, event, url, rest, hkept, hresponse, happ, hevent, hurl⟩
    rw [hkept]
    exact ⟨hresponse, happ, hevent, hurl, trivial⟩
  · intro h
    match hkept : kept elements, h with
    | response :: app :: event :: url :: rest, ⟨hresponse, happ, hevent, hurl, _⟩ =>
      exact ⟨response, app, event, url, rest, rfl, hresponse, happ, hevent, hurl⟩

theorem updateOk_of_begins (h : Begins IsResponse (Begins (IsApp appId)
    (Begins (·.HasStatus "updatecheck" "ok") fun _ => True)) (kept elements)) :
    UpdateOk appId elements := by
  rw [UpdateOk]
  match hkept : kept elements, h with
  | response :: app :: updateCheck :: rest, ⟨hresponse, happ, hupdateCheck, _⟩ =>
    exact ⟨response, app, updateCheck, rest, rfl, hresponse, happ, hupdateCheck⟩

/-- A `url` element after an event has no details to go to. -/
theorem parse_urlAfterEvent (h : UrlAfterEvent appId elements) :
    (initWithAppId appId).parse gurl elements = none := by
  obtain ⟨response, app, event, url, rest, hkept, hresponse, happ, hevent, hurl⟩ := h
  have hname : ∀ element ∈ response :: app :: event :: url :: rest,
      element.name ∉ ignoredTagNames := by
    rw [← hkept]
    exact fun element => name_of_mem_kept
  have hcounts (element : Element) (hmem : element ∈ [response, app, event, url]) :
      element.name ∉ ignoredTagNames :=
    hname element (mem_append_left rest hmem)
  rw [← parse_kept, hkept]
  have hstart : initWithAppId appId = Stage.response.parser appId none := rfl
  rw [hstart, parse_cons ((didStartElement_response (hcounts response (by simp))).trans
    (if_pos hresponse)), parse_cons ((didStartElement_app (hcounts app (by simp))).trans
    (if_pos happ)), parse_cons (didStartElement_event hevent), parse, foldlM_cons,
    didStartElement_afterEvent (hcounts url (by simp)), if_pos hurl]
  rfl

end Exact

/-- The parser accepts the messages and nothing else, whatever elements come, unless
a `url` element follows an event. -/
theorem parses_exactly_iff (gurl : String → GURL) (appId : String) (elements : List Element) :
    (∃ s, ParsesExactly gurl appId elements s) ↔ ¬ UrlAfterEvent appId elements := by
  constructor
  · rintro ⟨s, hparsed, -, -⟩ hurl
    rw [parse_urlAfterEvent hurl] at hparsed
    cases hparsed
  · intro hurl
    have hanswers : (initWithAppId appId).Answers gurl (kept elements) _ _ :=
      answers_response (fun element => name_of_mem_kept) fun h => hurl (urlAfterEvent_iff.2 h)
    obtain ⟨s, hparse, hcorrect, hdetails⟩ := hanswers
    refine ⟨s, ?_, hcorrect.trans message_iff.symm, fun hsome => ?_⟩
    · rw [← parse_kept]
      exact hparse
    · exact updateOk_of_begins (hdetails.1 (Option.isSome_iff_ne_none.2 hsome))

/-- The acknowledgement of an install event, followed by the URL of an update. -/
def eventThenUrl : List Element :=
  [⟨"response", ⟨[("protocol", "3.0"), ("server", "prod")]⟩⟩,
    ⟨"app", ⟨[("appid", "app"), ("status", "ok")]⟩⟩,
    ⟨"event", ⟨[("status", "ok")]⟩⟩,
    ⟨"urls", ⟨[]⟩⟩,
    ⟨"url", ⟨[("codebase", "http://a.com/")]⟩⟩]

theorem eventThenUrl_not_parsed :
    ¬ ∃ s, ParsesExactly (fun spec => ⟨spec, true⟩) "app" eventThenUrl s := by
  rintro ⟨s, hparsed, -, -⟩
  have hnone : (initWithAppId "app").parse (fun spec => ⟨spec, true⟩) eventThenUrl = none := by
    decide +kernel
  rw [hnone] at hparsed
  cases hparsed

end ResponseParser

end ChromiumIos
