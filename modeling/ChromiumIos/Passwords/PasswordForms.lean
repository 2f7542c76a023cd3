import ChromiumIos.Passwords.PageURLs

/-!
# Reading and filling password forms

`password_controller.js` reads the forms of a page, `password_controller.mm` makes password
forms of them, and the script fills in a form that it finds again by what native code knows of
it.

- `getPasswordFormData`, `getPasswordForm`: a form is read.
- `serializePasswordFormFillData`: what describes the form to the script.
- `fillPasswordForm`: the values that are written.
-/

namespace ChromiumIos

namespace Passwords

/-! ## Pages -/

/-- An element as far as the scripts ask of it. Some have no `name` property. -/
structure Element where
  node : Nat
  isInput : Bool
  name : Option String
  type : String
  disabled : Bool
  readOnly : Bool
  value : String
  /-- The name of an input is empty if it has no attribute. -/
  named : isInput = true → name.isSome = true
deriving DecidableEq

/-- The children of an element: the first one with its own children, and the next ones. -/
inductive Elements
  | nil
  | cons (element : Element) (children next : Elements)
deriving DecidableEq

namespace Elements

/-- All elements below, in document order. -/
def all : Elements → List Element
  | nil => []
  | cons element children next => element :: (children.all ++ next.all)

/-- `getElementsByTagName('input')`. -/
def inputs (elements : Elements) : List Element := elements.all.filter (·.isInput)

end Elements

/-- A form. Scripts see an element of the form in the place of a property of the same name: of
`action` they then have the text in `hiddenAction`, no children, or no methods to call. `self` is
what they see of the form in the place of an element. -/
structure FormElement where
  self : Element
  identifier : String
  actionAttribute : Option Text
  methodAttribute : Option String
  children : Elements
  hiddenAction : Option Text
  hidesChildren : Bool
  hidesMethods : Bool
  /-- A form has no type. -/
  notPassword : self.type ≠ "password"
deriving DecidableEq

namespace FormElement

def inputs (form : FormElement) : List Element := form.children.inputs

/-- The form with the elements below. -/
def elements (form : FormElement) : List Element := form.self :: form.children.all

end FormElement

/-- The main document. `url` is the URL of native code, and `href` the text of `location.href`. -/
structure Page where
  url : URL
  href : Text
  baseURL : URL
  forms : List FormElement
deriving DecidableEq

/-- How URLs are resolved: by `GURL`, by an anchor whose `href` is set, and by the `action`
property of a form. -/
structure URLEnvironment where
  getOrigin : Text → Text
  resolve : URL → Text → Option URL
  anchorHref : URL → Text → Text
  formAction : Page → Option Text → Text

variable (env : URLEnvironment)

/-! ## Reading -/

/-- `isTextField`. -/
def isTextField (element : Element) : Bool :=
  element.type ∈ ["text", "email", "password", "search", "tel", "url", "number"]

def Element.isPassword (element : Element) : Bool := element.type = "password"

structure PasswordFormData where
  action : Option Text
  method : Option String
  name : String
  origin : Text
  fields : List (String × String)
  usernameElement : String
  usernameValue : String
  passwords : List (String × String)
deriving DecidableEq, Repr

/-- The text field that is read as that of the username: the last one before the first password
field. -/
def usernameInput (inputs : List Element) : Option Element :=
  (inputs.takeWhile fun input => input.disabled || !input.isPassword).reverse.find?
    fun input => !input.disabled && isTextField input

/-- `getPasswordFormData`; `none` is `null`, or that a method cannot be called. -/
def getPasswordFormData (page : Page) (form : FormElement) : Option PasswordFormData :=
  let passwords := form.inputs.filter fun input => !input.disabled && input.isPassword
  if form.hidesMethods || passwords.isEmpty then none
  else some {
    action := form.actionAttribute
    method := form.methodAttribute
    name := form.identifier
    origin := removeQueryAndReferenceFromURL page.href
    fields := form.inputs.map fun input => (input.name.getD "", input.type)
    usernameElement := ((usernameInput form.inputs).bind (·.name)).getD ""
    usernameValue := ((usernameInput form.inputs).map (·.value)).getD ""
    passwords := passwords.map fun input => (input.name.getD "", input.value) }

structure PasswordForm where
  origin : URL
  action : URL
  name : String
  fields : List (String × String)
  usernameElement : String
  usernameValue : String
  passwordElement : String
  passwordValue : String
  newPasswordElement : String
  newPasswordValue : String
deriving DecidableEq

/-- Which password is the main one, and which is a new one, of up to three. -/
def mainAndNewPassword : List (String × String) → (String × String) × (String × String)
  | [] => (("", ""), ("", ""))
  | [first] => (first, ("", ""))
  | [first, second] =>
    if first.2 ≠ "" ∧ first.2 = second.2 then (("", ""), first) else (first, second)
  | first :: second :: third :: _ =>
    if first.2 ≠ "" ∧ first.2 = second.2 ∧ first.2 = third.2 then (("", ""), ("", ""))
    else if first.2 = second.2 then (first, third)
    else if second.2 = third.2 then (first, second)
    else (("", ""), ("", ""))

/-- `getPasswordForm:fromDictionary:pageURL:`. -/
def getPasswordForm (page : Page) (dictionary : PasswordFormData) : Option PasswordForm :=
  let action := dictionary.action.getD []
  let actionUrl := if action = [] then some page.url else env.resolve page.url action
  if env.getOrigin dictionary.origin ≠ env.getOrigin page.url.spec then none
  else if dictionary.passwords = [] then none
  else actionUrl.map fun actionUrl =>
    let passwords := mainAndNewPassword dictionary.passwords
    { origin := page.url.stripURL
      action := actionUrl.stripURL
      name := dictionary.name
      fields := dictionary.fields
      usernameElement := dictionary.usernameElement
      usernameValue := dictionary.usernameValue
      passwordElement := passwords.1.1
      passwordValue := passwords.1.2
      newPasswordElement := passwords.2.1
      newPasswordValue := passwords.2.2 }

/-! ## Filling -/

/-- What describes a form to the script. Its fields are those of the username and of the
password. -/
structure FormFillData where
  origin : Text
  action : Text
  usernameField : String
  passwordField : String
deriving DecidableEq, Repr

/-- `SerializePasswordFormFillData`, of the fill data that is made of the form. -/
def serializePasswordFormFillData (form : PasswordForm) : FormFillData :=
  ⟨form.origin.spec, form.action.spec, form.usernameElement, form.passwordElement⟩

/-- `absoluteURL`. -/
def absoluteURL (page : Page) (relativeURL : Text) : Text :=
  if page.url.scheme = "data".toList then page.href
  else env.anchorHref page.baseURL relativeURL

/-- The action of a form, absolute, as the page sees it. -/
def absoluteAction (page : Page) (form : FormElement) : Text :=
  absoluteURL env page (form.hiddenAction.getD (env.formAction page form.actionAttribute))

/-- An input that may be the field of the username, or of the password. -/
def eligible (findingPassword : Bool) (input : Element) : Bool :=
  (if findingPassword then input.isPassword else !input.isPassword && isTextField input) &&
    !(input.readOnly && input.value = "")

/-- There is one such input with the name; a second one is an ambiguity. -/
def foundField (inputs : List Element) (findingPassword : Bool) (name : String) : Bool :=
  (inputs.filter fun input => eligible findingPassword input && input.name = some name).length = 1

/-- Whether a form matches the description; `none` is that a method cannot be called. -/
def matchesForm (page : Page) (data : FormFillData) (form : FormElement) : Option Bool :=
  if data.action ≠ removeQueryAndReferenceFromURL (absoluteAction env page form) then some false
  else if form.hidesMethods then none
  else some (foundField form.inputs false data.usernameField &&
    foundField form.inputs true data.passwordField)

/-- `findMatchingPasswordForms`. -/
def findMatchingPasswordForms (page : Page) (data : FormFillData) :
    List FormElement → Option (List FormElement)
  | [] => some []
  | form :: forms =>
    match matchesForm env page data form, findMatchingPasswordForms page data forms with
    | some true, some matching => some (form :: matching)
    | some false, some matching => some matching
    | _, _ => none

/-- The element is the one that is looked for. -/
def Element.isNamed (name : String) (isPassword : Bool) (element : Element) : Bool :=
  element.name = some name && isPassword = element.isPassword

/-- `getElementByNameWithParent`, below an element. -/
def Elements.getElementByName (name : String) (isPassword : Bool) : Elements → Option Element
  | nil => none
  | cons element children next =>
    if element.isNamed name isPassword then some element
    else (children.getElementByName name isPassword).or (next.getElementByName name isPassword)

/-- `getElementByNameWithParent`, of a form. -/
def FormElement.getElementByName (form : FormElement) (name : String) (isPassword : Bool) :
    Option Element :=
  if form.self.isNamed name isPassword then some form.self
  else if form.hidesChildren then none
  else form.children.getElementByName name isPassword

/-- What is written into the two fields of a form. -/
def fillFields (usernameInput passwordInput : Element) (username password : String) :
    List (Nat × String) :=
  if usernameInput.readOnly && usernameInput.value ≠ "" then
    if usernameInput.value = username then [(passwordInput.node, password)] else []
  else [(usernameInput.node, username), (passwordInput.node, password)]

/-- What is written into the forms that match, one after another, until a field is `null`. -/
def fillForms (data : FormFillData) (username password : String) :
    List FormElement → List (Nat × String)
  | [] => []
  | form :: forms =>
    match form.getElementByName data.usernameField false with
    | none => []
    | some usernameInput =>
      if usernameInput.disabled then fillForms data username password forms
      else match form.getElementByName data.passwordField true with
        | none => []
        | some passwordInput =>
          if passwordInput.disabled then fillForms data username password forms
          else fillFields usernameInput passwordInput username password ++
            fillForms data username password forms

/-- `fillPasswordForm`: what is written into the main document. -/
def fillPasswordForm (page : Page) (data : FormFillData) (username password : String) :
    List (Nat × String) :=
  if data.origin ≠ removeQueryAndReferenceFromURL page.href then []
  else match findMatchingPasswordForms env page data page.forms with
    | none => []
    | some matching => fillForms data username password matching

end Passwords

end ChromiumIos
