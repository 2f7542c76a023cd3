import ChromiumIos.Passwords.PasswordForms
import Mathlib.Data.List.Nodup

/-!
# A form that was read is filled

- `getElementByName_eq`: the search of the script finds a field whose name is its own.
- `FilledAgain`: when the form is found again and its fields are written.
- `fills_iff`: exactly then they are.
-/

namespace ChromiumIos

open List Option Bool

namespace Passwords

/-! ## Finding fields -/

/-- The search below an element is the search of the elements in document order. -/
theorem Elements.getElementByName_eq_find (name : String) (isPassword : Bool)
    (elements : Elements) :
    elements.getElementByName name isPassword = elements.all.find? (·.isNamed name isPassword) := by
  induction elements with
  | nil => rfl
  | cons element children next ihChildren ihNext =>
    rw [getElementByName, all, find?_cons, find?_append, ← ihChildren, ← ihNext]
    split <;> simp [*]

/-- A list with one element that a predicate holds of. -/
theorem find?_eq_of_unique {α : Type} {l : List α} {p : α → Bool} {a : α} (hmem : a ∈ l)
    (ha : p a = true) (hunique : ∀ b ∈ l, p b = true → b = a) : l.find? p = some a := by
  cases hfind : l.find? p with
  | none => exact absurd ha (find?_eq_none.1 hfind a hmem)
  | some b => rw [hunique b (mem_of_find?_eq_some hfind) (find?_some hfind)]

/-- A field with a name of its own is the only one that matches. -/
theorem foundField_of_unique {inputs : List Element} (hnodup : inputs.Nodup)
    {findingPassword : Bool} {field : Element} {name : String} (hmem : field ∈ inputs)
    (hname : field.name = some name) (heligible : eligible findingPassword field = true)
    (hunique : ∀ other ∈ inputs, other.name = some name → other = field) :
    foundField inputs findingPassword name = true := by
  let p : Element → Bool := fun input => eligible findingPassword input && input.name = some name
  have hp : p field = true := by simp [p, heligible, hname]
  have hfilter : inputs.filter p = [field] := by
    have hsub : ∀ other ∈ inputs.filter p, other = field := by
      intro other hother
      obtain ⟨hin, hother⟩ := mem_filter.1 hother
      simp only [p, and_eq_true, decide_eq_true_eq] at hother
      exact hunique other hin hother.2
    have hin : field ∈ inputs.filter p := mem_filter.2 ⟨hmem, hp⟩
    have hreplicate := eq_replicate_of_mem hsub
    have hlength : (inputs.filter p).length ≤ 1 := by
      have hnodup := hnodup.filter p
      rw [hreplicate] at hnodup
      exact nodup_replicate.1 hnodup
    have hpos := length_pos_of_mem hin
    rw [hreplicate, show (inputs.filter p).length = 1 by omega]
    rfl
  rw [foundField, hfilter]
  rfl

/-- A form that matches has fields of both names. -/
theorem exists_of_foundField {inputs : List Element} {findingPassword : Bool} {name : String}
    (h : foundField inputs findingPassword name = true) :
    ∃ input ∈ inputs, eligible findingPassword input = true ∧ input.name = some name := by
  rw [foundField, decide_eq_true_eq] at h
  obtain ⟨input, hinput⟩ := exists_mem_of_length_pos (h ▸ Nat.one_pos)
  obtain ⟨hmem, hboth⟩ := mem_filter.1 hinput
  simp only [and_eq_true, decide_eq_true_eq] at hboth
  exact ⟨input, hmem, hboth⟩

theorem eligible_password {input : Element} (h : eligible true input = true) :
    input.isPassword = true := by
  simp only [eligible, if_true, and_eq_true] at h
  exact h.1

theorem eligible_username {input : Element} (h : eligible false input = true) :
    input.isPassword = false := by
  simp only [eligible, false_eq_true, if_false, and_eq_true, not_eq_true'] at h
  exact h.1.1

/-! ## The page -/

def FormElement.nodes (form : FormElement) : List Nat := form.elements.map (·.node)

/-- The nodes of all forms. -/
def Page.nodes (page : Page) : List Nat := page.forms.flatMap (·.nodes)

namespace FormElement

variable {form : FormElement}

theorem mem_elements_of_mem_inputs {input : Element} (h : input ∈ form.inputs) :
    input ∈ form.elements :=
  mem_cons_of_mem _ ((mem_filter.1 h).1)

/-- What the search finds is an element of the form that has the name. -/
theorem mem_of_getElementByName {name : String} {isPassword : Bool} {element : Element}
    (h : form.getElementByName name isPassword = some element) :
    element ∈ form.elements ∧ element.isNamed name isPassword = true := by
  rw [getElementByName] at h
  split at h
  · next hself => exact some.inj h ▸ ⟨mem_cons_self, hself⟩
  · split at h
    · cases h
    · rw [Elements.getElementByName_eq_find] at h
      exact ⟨mem_cons_of_mem _ (mem_of_find?_eq_some h), find?_some h⟩

section

variable (hchildren : form.hidesChildren = false) {name : String} {isPassword : Bool}
  {input : Element} (hmem : input ∈ form.inputs) (hname : input.isNamed name isPassword = true)
include hchildren hmem hname

/-- The search finds something if there is a field of the name below. -/
theorem getElementByName_ne_none : form.getElementByName name isPassword ≠ none := by
  rw [getElementByName, hchildren, Elements.getElementByName_eq_find]
  split
  · exact nofun
  · exact fun hnone => find?_eq_none.1 hnone input (mem_filter.1 hmem).1 hname

/-- The search finds a field whose name is its own, unless it is that of the form. -/
theorem getElementByName_eq (hself : form.self.isNamed name isPassword = false)
    (hunique : ∀ other ∈ form.children.all, other.name = input.name → other = input) :
    form.getElementByName name isPassword = some input := by
  rw [getElementByName, hself, hchildren, Elements.getElementByName_eq_find]
  refine find?_eq_of_unique (mem_filter.1 hmem).1 hname fun other hother hnamed => ?_
  simp only [Element.isNamed, and_eq_true, decide_eq_true_eq] at hname hnamed
  exact hunique other hother (hnamed.1.trans hname.1.symm)

end

end FormElement

/-- A field that can be filled in: an input of the form with a name of its own. -/
structure Field (form : FormElement) (input : Element) : Prop where
  mem : input ∈ form.inputs
  enabled : input.disabled = false
  writable : input.readOnly = false
  unique : ∀ other ∈ form.children.all, other.name = input.name → other = input

section Filling

variable {env : URLEnvironment} {page : Page} {data : FormFillData} {username password : String}

/-! ### What is written -/

/-- The script gets past a form that matches: the fields are looked for and found. -/
def Passed (data : FormFillData) (form : FormElement) : Prop :=
  form.hidesChildren = false ∨
    form.self.isNamed data.usernameField false = true ∧ form.self.disabled = true

variable {form : FormElement}

/-- A form that matches has the fields, so that the search may fail only if its children are
hidden. -/
theorem fillForms_of_passed (hpassed : Passed data form)
    (hmatches : foundField form.inputs false data.usernameField = true ∧
      foundField form.inputs true data.passwordField = true) (forms : List FormElement) :
    ∃ own, fillForms data username password (form :: forms) =
      own ++ fillForms data username password forms := by
  rw [fillForms]
  rcases hpassed with hchildren | ⟨hself, hdisabled⟩
  · obtain ⟨first, hfirst, heligible, hname⟩ := exists_of_foundField hmatches.1
    obtain ⟨second, hsecond, heligible', hname'⟩ := exists_of_foundField hmatches.2
    have hnamed : first.isNamed data.usernameField false = true := by
      simp [Element.isNamed, hname, eligible_username heligible]
    have hnamed' : second.isNamed data.passwordField true = true := by
      simp [Element.isNamed, hname', eligible_password heligible']
    split
    · next hnone => exact absurd hnone (form.getElementByName_ne_none hchildren hfirst hnamed)
    · split
      · exact ⟨[], rfl⟩
      · split
        · next hnone => exact absurd hnone (form.getElementByName_ne_none hchildren hsecond hnamed')
        · split
          · exact ⟨[], rfl⟩
          · exact ⟨_, rfl⟩
  · rw [FormElement.getElementByName, if_pos hself]
    dsimp only
    rw [if_pos hdisabled]
    exact ⟨[], rfl⟩

/-- The script gets past all forms before one. -/
theorem fillForms_append {forms : List FormElement} (hpassed : ∀ form ∈ forms, Passed data form)
    (hmatches : ∀ form ∈ forms, foundField form.inputs false data.usernameField = true ∧
      foundField form.inputs true data.passwordField = true) (rest : List FormElement) :
    ∃ own, fillForms data username password (forms ++ rest) =
      own ++ fillForms data username password rest := by
  induction forms with
  | nil => exact ⟨[], rfl⟩
  | cons form forms ih =>
    obtain ⟨own, hown⟩ := fillForms_of_passed (hpassed form mem_cons_self)
      (hmatches form mem_cons_self) (forms ++ rest)
    obtain ⟨others, hothers⟩ := ih (fun other hmem => hpassed other (mem_cons_of_mem _ hmem))
      fun other hmem => hmatches other (mem_cons_of_mem _ hmem)
    exact ⟨own ++ others, by rw [cons_append, hown, hothers, append_assoc]⟩

theorem isNamed_self {name : String} :
    form.self.isNamed name false = true ↔ form.self.name = some name := by
  simp [Element.isNamed, Element.isPassword, form.notPassword]

theorem isNamed_self_password (form : FormElement) (name : String) :
    form.self.isNamed name true = false := by
  simp [Element.isNamed, Element.isPassword, form.notPassword]

/-- A form that finds a password does not hide its children. -/
theorem hidesChildren_eq_false {name : String} {element : Element}
    (h : form.getElementByName name true = some element) : form.hidesChildren = false := by
  rw [FormElement.getElementByName, isNamed_self_password] at h
  cases hchildren : form.hidesChildren with
  | false => rfl
  | true =>
    rw [hchildren] at h
    cases h

/-- What is written into the fields of a form is written into one of the two. -/
theorem node_of_mem_fillFields {first second : Element} {write : Nat × String}
    (h : write ∈ fillFields first second username password) :
    write.1 = first.node ∨ write.1 = second.node := by
  unfold fillFields at h
  split at h
  · split at h
    · exact .inr (congrArg Prod.fst (mem_singleton.1 h))
    · cases h
  · rcases mem_cons.1 h with rfl | h
    · exact .inl rfl
    · exact .inr (congrArg Prod.fst (mem_singleton.1 h))

theorem mem_nodes_of_mem_fillFields {first second : Element}
    (hfirst : form.getElementByName data.usernameField false = some first)
    (hsecond : form.getElementByName data.passwordField true = some second)
    {write : Nat × String} (h : write ∈ fillFields first second username password) :
    write.1 ∈ form.nodes := by
  rcases node_of_mem_fillFields h with heq | heq
  · exact heq ▸ mem_map_of_mem (form.mem_of_getElementByName hfirst).1
  · exact heq ▸ mem_map_of_mem (form.mem_of_getElementByName hsecond).1

/-- One form: what is written is written into its fields, or the script got past it. -/
theorem mem_fillForms_cons {forms : List FormElement}
    {write : Nat × String} (h : write ∈ fillForms data username password (form :: forms)) :
    (∃ first second, form.getElementByName data.usernameField false = some first ∧
        form.getElementByName data.passwordField true = some second ∧
        write ∈ fillFields first second username password) ∨
      Passed data form ∧ write ∈ fillForms data username password forms := by
  rw [fillForms] at h
  split at h
  · cases h
  · next first hfirst =>
    split at h
    · next hdisabled =>
      refine .inr ⟨?_, h⟩
      -- With its children hidden the form finds itself only.
      cases hchildren : form.hidesChildren with
      | false => exact .inl hchildren
      | true =>
        rw [FormElement.getElementByName, hchildren] at hfirst
        split at hfirst
        · next hnamed => exact .inr ⟨hnamed, some.inj hfirst ▸ hdisabled⟩
        · cases hfirst
    · split at h
      · cases h
      · next second hsecond =>
        have hchildren := hidesChildren_eq_false hsecond
        split at h
        · exact .inr ⟨.inl hchildren, h⟩
        · rcases mem_append.1 h with hown | hothers
          · exact .inl ⟨first, second, hfirst, hsecond, hown⟩
          · exact .inr ⟨.inl hchildren, hothers⟩

/-- What is written into none of the first forms is written after them. -/
theorem mem_fillForms_append {forms rest : List FormElement} {write : Nat × String}
    (hnot : ∀ form ∈ forms, write.1 ∉ form.nodes)
    (h : write ∈ fillForms data username password (forms ++ rest)) :
    (∀ form ∈ forms, Passed data form) ∧ write ∈ fillForms data username password rest := by
  induction forms with
  | nil => exact ⟨fun _ hform => absurd hform not_mem_nil, h⟩
  | cons form forms ih =>
    rcases mem_fillForms_cons h with ⟨first, second, hfirst, hsecond, hmem⟩ | ⟨hpassed, hrest⟩
    · exact absurd (mem_nodes_of_mem_fillFields hfirst hsecond hmem) (hnot form mem_cons_self)
    · obtain ⟨hall, hmem⟩ :=
        ih (fun other hother => hnot other (mem_cons_of_mem _ hother)) hrest
      exact ⟨forall_mem_cons.2 ⟨hpassed, hall⟩, hmem⟩

variable (env page data) in
def isMatching (form : FormElement) : Bool := matchesForm env page data form = some true

/-- The forms that match, where no form hides its methods. -/
theorem findMatchingPasswordForms_eq_some_iff {forms matching : List FormElement} :
    findMatchingPasswordForms env page data forms = some matching ↔
      (∀ form ∈ forms, matchesForm env page data form ≠ none) ∧
        matching = forms.filter (isMatching env page data) := by
  induction forms generalizing matching with
  | nil =>
    have hnone : ∀ form ∈ ([] : List FormElement), matchesForm env page data form ≠ none :=
      fun _ hform => absurd hform not_mem_nil
    exact ⟨fun h => ⟨hnone, (some.inj h).symm⟩, fun h => h.2 ▸ rfl⟩
  | cons form forms ih =>
    rw [findMatchingPasswordForms, forall_mem_cons, filter_cons, isMatching]
    cases hform : matchesForm env page data form with
    | none => simp
    | some found =>
      cases hrest : findMatchingPasswordForms env page data forms with
      | none =>
        have hnone : ¬∀ form ∈ forms, matchesForm env page data form ≠ none := fun hall =>
          nomatch hrest.symm.trans (ih.2 ⟨hall, rfl⟩)
        cases found <;> simp [hnone]
      | some others =>
        obtain ⟨hall, rfl⟩ := ih.1 hrest
        cases found with
        | false => exact ⟨fun h => ⟨⟨some_ne_none _, hall⟩, (some.inj h).symm⟩,
            fun h => congrArg some h.2.symm⟩
        | true => exact ⟨fun h => ⟨⟨some_ne_none _, hall⟩, (some.inj h).symm⟩,
            fun h => congrArg some h.2.symm⟩

/-! ### One form among the others -/

/-- A form that has no methods hidden matches if its action is that of the description and it
has the fields. -/
theorem matchesForm_eq_true_iff :
    matchesForm env page data form = some true ↔
      data.action = removeQueryAndReferenceFromURL (absoluteAction env page form) ∧
        form.hidesMethods = false ∧ foundField form.inputs false data.usernameField = true ∧
        foundField form.inputs true data.passwordField = true := by
  rw [matchesForm]
  split
  · next hne => exact iff_of_false nofun fun h => hne h.1
  · next heq =>
    have heq := not_not.1 heq
    cases form.hidesMethods <;> simp [heq]

theorem matchesForm_ne_none_iff :
    matchesForm env page data form ≠ none ↔
      (data.action = removeQueryAndReferenceFromURL (absoluteAction env page form) →
        form.hidesMethods = false) := by
  rw [matchesForm]
  split
  · next hne => exact iff_of_true nofun fun heq => absurd heq hne
  · next heq =>
    have heq := not_not.1 heq
    cases form.hidesMethods <;> simp [heq]

/-- When the description leads to two fields of a form. -/
structure Leads (env : URLEnvironment) (page : Page) (data : FormFillData)
    (before : List FormElement) (form : FormElement) (user pass : Element) : Prop where
  origin : data.origin = removeQueryAndReferenceFromURL page.href
  action : data.action = removeQueryAndReferenceFromURL (absoluteAction env page form)
  user : user.name = some data.usernameField
  pass : pass.name = some data.passwordField
  ownName : form.self.name ≠ some data.usernameField
  children : form.hidesChildren = false
  methods : ∀ other ∈ page.forms,
    data.action = removeQueryAndReferenceFromURL (absoluteAction env page other) →
      other.hidesMethods = false
  earlier : ∀ other ∈ before, matchesForm env page data other = some true → Passed data other

variable {before after : List FormElement} {form : FormElement} {user pass : Element}

/-- The description leads to the fields, and they are written. -/
theorem Leads.written (h : Leads env page data before form user pass)
    (hforms : page.forms = before ++ form :: after) (hnodup : form.nodes.Nodup)
    (huser : Field form user) (htext : isTextField user = true)
    (hnot : user.isPassword = false) (hpass : Field form pass)
    (hpassword : pass.isPassword = true) :
    (user.node, username) ∈ fillPasswordForm env page data username password ∧
      (pass.node, password) ∈ fillPasswordForm env page data username password := by
  have hinputs : form.inputs.Nodup :=
    (List.Nodup.of_map _ (nodup_cons.1 hnodup).2).filter _
  have hown : matchesForm env page data form = some true := by
    have hmem : ∀ {input : Element}, input ∈ form.inputs → input ∈ form.children.all :=
      fun hmem => (mem_filter.1 hmem).1
    refine matchesForm_eq_true_iff.2 ⟨h.action, h.methods form (by simp [hforms]) h.action, ?_, ?_⟩
    · refine foundField_of_unique hinputs huser.mem h.user ?_ fun other hother hname =>
        huser.unique other (hmem hother) (hname.trans h.user.symm)
      simp [eligible, hnot, htext, huser.writable]
    · refine foundField_of_unique hinputs hpass.mem h.pass ?_ fun other hother hname =>
        hpass.unique other (hmem hother) (hname.trans h.pass.symm)
      simp [eligible, hpassword, hpass.writable]
  have hmatching := findMatchingPasswordForms_eq_some_iff.2
    ⟨fun other hother => matchesForm_ne_none_iff.2 (h.methods other hother), rfl⟩
  have hpassed : ∀ other ∈ before.filter (isMatching env page data),
      Passed data other ∧ matchesForm env page data other = some true := by
    intro other hother
    obtain ⟨hmem, hmatches⟩ := mem_filter.1 hother
    exact ⟨h.earlier other hmem (of_decide_eq_true hmatches), of_decide_eq_true hmatches⟩
  let rest := after.filter (isMatching env page data)
  obtain ⟨others, hothers⟩ : ∃ others, fillForms data username password
      (before.filter (isMatching env page data) ++ form :: rest) =
        others ++ fillForms data username password (form :: rest) :=
    fillForms_append (fun other hother => (hpassed other hother).1)
      (fun other hother => (matchesForm_eq_true_iff.1 (hpassed other hother).2).2.2) _
  have hfirst : form.getElementByName data.usernameField false = some user :=
    form.getElementByName_eq h.children huser.mem (by simp [Element.isNamed, h.user, hnot])
      (eq_false_iff.2 fun hself => h.ownName (isNamed_self.1 hself)) huser.unique
  have hsecond : form.getElementByName data.passwordField true = some pass :=
    form.getElementByName_eq h.children hpass.mem (by simp [Element.isNamed, h.pass, hpassword])
      (isNamed_self_password form _) hpass.unique
  have hwritten : fillPasswordForm env page data username password = others ++
      ([(user.node, username), (pass.node, password)] ++
        fillForms data username password rest) := by
    rw [fillPasswordForm, if_neg (not_not.2 h.origin), hmatching, hforms, filter_append,
      filter_cons_of_pos (p := isMatching env page data) (decide_eq_true hown)]
    dsimp only
    rw [hothers, fillForms, hfirst]
    dsimp only
    rw [huser.enabled, if_neg Bool.false_ne_true, hsecond]
    dsimp only
    rw [hpass.enabled, if_neg Bool.false_ne_true, fillFields, huser.writable]
    rfl
  rw [hwritten]
  exact ⟨by simp, by simp⟩

/-- What is written into a form was reached by the script. -/
theorem reached_of_written (hforms : page.forms = before ++ form :: after)
    {write : Nat × String} (hbefore : ∀ other ∈ before, write.1 ∉ other.nodes)
    (hafter : ∀ other ∈ after, write.1 ∉ other.nodes)
    (h : write ∈ fillPasswordForm env page data username password) :
    data.origin = removeQueryAndReferenceFromURL page.href ∧
      (∀ other ∈ page.forms, matchesForm env page data other ≠ none) ∧
      matchesForm env page data form = some true ∧
      (∀ other ∈ before, matchesForm env page data other = some true → Passed data other) ∧
      ∃ first second, form.getElementByName data.usernameField false = some first ∧
        form.getElementByName data.passwordField true = some second ∧
        write ∈ fillFields first second username password := by
  rw [fillPasswordForm] at h
  split at h
  · cases h
  · next horigin =>
    split at h
    · cases h
    · next matching hmatching =>
      obtain ⟨hmethods, rfl⟩ := findMatchingPasswordForms_eq_some_iff.1 hmatching
      -- Nothing is written into the forms before and after.
      rw [hforms, filter_append] at h
      obtain ⟨hpassed, h⟩ := mem_fillForms_append
        (fun other hother => hbefore other (mem_filter.1 hother).1) h
      have hnot : write ∉ fillForms data username password
          (after.filter (isMatching env page data)) := by
        intro hmem
        rw [← append_nil (after.filter _)] at hmem
        have hrest := (mem_fillForms_append
          (fun other hother => hafter other (mem_filter.1 hother).1) hmem).2
        cases hrest
      by_cases hform : isMatching env page data form = true
      · rw [filter_cons_of_pos hform] at h
        refine ⟨not_not.1 horigin, hmethods, of_decide_eq_true hform, fun other hother hmatches =>
          hpassed other (mem_filter.2 ⟨hother, decide_eq_true hmatches⟩), ?_⟩
        exact (mem_fillForms_cons h).resolve_right fun hpast => hnot hpast.2
      · rw [filter_cons_of_neg hform] at h
        exact absurd h hnot

/-- What was written into the fields was led there by the description. -/
theorem leads_of_written (hforms : page.forms = before ++ form :: after)
    (hnodes : page.nodes.Nodup) (huser : user ∈ form.inputs) (hnot : user.isPassword = false)
    (hpass : pass ∈ form.inputs) (hpassword : pass.isPassword = true)
    (huserWritten : (user.node, username) ∈ fillPasswordForm env page data username password)
    (hpassWritten : (pass.node, password) ∈ fillPasswordForm env page data username password) :
    Leads env page data before form user pass := by
  rw [Page.nodes, hforms, flatMap_append, flatMap_cons] at hnodes
  obtain ⟨-, hrest, hbefore⟩ := nodup_append.1 hnodes
  obtain ⟨hnodup, -, hafter⟩ := nodup_append.1 hrest
  have hother : ∀ element ∈ form.elements,
      (∀ other ∈ before, element.node ∉ other.nodes) ∧
        ∀ other ∈ after, element.node ∉ other.nodes := by
    intro element hmem
    have hown : element.node ∈ form.nodes := mem_map_of_mem hmem
    refine ⟨fun other hin hnode => ?_, fun other hin hnode => ?_⟩
    · exact hbefore _ (mem_flatMap.2 ⟨other, hin, hnode⟩) _
        (mem_append_left _ hown) rfl
    · exact hafter _ hown _ (mem_flatMap.2 ⟨other, hin, hnode⟩) rfl
  have huserMem := FormElement.mem_elements_of_mem_inputs huser
  have hpassMem := FormElement.mem_elements_of_mem_inputs hpass
  obtain ⟨horigin, hmethods, hmatches, hearlier, first, second, hfirst, hsecond, hfilled⟩ :=
    reached_of_written hforms (hother user huserMem).1 (hother user huserMem).2 huserWritten
  obtain ⟨-, -, -, -, first', second', hfirst', hsecond', hfilled'⟩ :=
    reached_of_written hforms (hother pass hpassMem).1 (hother pass hpassMem).2 hpassWritten
  obtain rfl := some.inj (hfirst.symm.trans hfirst')
  obtain rfl := some.inj (hsecond.symm.trans hsecond')
  obtain ⟨hfirstMem, hfirstNamed⟩ := form.mem_of_getElementByName hfirst
  obtain ⟨hsecondMem, hsecondNamed⟩ := form.mem_of_getElementByName hsecond
  simp only [Element.isNamed, and_eq_true, decide_eq_true_eq] at hfirstNamed hsecondNamed
  have hinj : ∀ {a b : Element}, a ∈ form.elements → b ∈ form.elements → a.node = b.node →
      a = b := fun ha hb heq => inj_on_of_nodup_map hnodup ha hb heq
  -- The types tell the two fields apart.
  have huserEq : user = first := by
    rcases node_of_mem_fillFields hfilled with heq | heq
    · exact hinj huserMem hfirstMem heq
    · rw [hinj huserMem hsecondMem heq, ← hsecondNamed.2] at hnot
      cases hnot
  have hpassEq : pass = second := by
    rcases node_of_mem_fillFields hfilled' with heq | heq
    · rw [hinj hpassMem hfirstMem heq, ← hfirstNamed.2] at hpassword
      cases hpassword
    · exact hinj hpassMem hsecondMem heq
  subst huserEq
  subst hpassEq
  obtain ⟨haction, -, -, -⟩ := matchesForm_eq_true_iff.1 hmatches
  refine ⟨horigin, haction, hfirstNamed.1, hsecondNamed.1, fun hself => ?_,
    hidesChildren_eq_false hsecond,
    fun other hin heq => matchesForm_ne_none_iff.1 (hmethods other hin) heq, hearlier⟩
  -- The form would have been found in the place of the field.
  rw [FormElement.getElementByName, if_pos (isNamed_self.2 hself)] at hfirst
  have hself := some.inj hfirst
  refine (nodup_cons.1 hnodup).1 ?_
  rw [hself]
  exact mem_map_of_mem (mem_filter.1 huser).1

end Filling

/-! ## Reading and filling -/

/-- The name of the field that is read as that of the username. -/
def FormElement.usernameElement (form : FormElement) : String :=
  ((usernameInput form.inputs).bind (·.name)).getD ""

/-- The name of the field that native code takes for that of the password. -/
def FormElement.passwordElement (form : FormElement) : String :=
  (mainAndNewPassword ((form.inputs.filter fun input => !input.disabled && input.isPassword).map
    fun input => (input.name.getD "", input.value))).1.1

/-- When a form that was read is found again, and its fields are filled. -/
structure FilledAgain (env : URLEnvironment) (page : Page) (before : List FormElement)
    (form : FormElement) (user pass : Element) (read : PasswordForm) : Prop where
  user : user.name = some form.usernameElement
  pass : pass.name = some form.passwordElement
  origin : ∃ url : URL, page.href = url.spec ∧ url.stripURL = page.url.stripURL ∧ url.Plain
  action : ∃ url : URL, absoluteAction env page form = url.spec ∧ url.stripURL = read.action ∧
    url.Plain
  ownName : form.self.name ≠ some read.usernameElement
  children : form.hidesChildren = false
  methods : ∀ other ∈ page.forms, read.action.spec =
    removeQueryAndReferenceFromURL (absoluteAction env page other) → other.hidesMethods = false
  earlier : ∀ other ∈ before,
    matchesForm env page (serializePasswordFormFillData read) other = some true →
      Passed (serializePasswordFormFillData read) other

/-- What is known of a form that was read. -/
theorem read_spec {env : URLEnvironment} {page : Page} {form : FormElement}
    {dictionary : PasswordFormData} {read : PasswordForm}
    (hdictionary : getPasswordFormData page form = some dictionary)
    (hread : getPasswordForm env page dictionary = some read) :
    read.origin = page.url.stripURL ∧ (∃ actionUrl : URL, read.action = actionUrl.stripURL) ∧
      read.usernameElement = form.usernameElement ∧
      read.passwordElement = form.passwordElement := by
  rw [getPasswordFormData] at hdictionary
  split at hdictionary
  · cases hdictionary
  · obtain rfl := some.inj hdictionary
    rw [getPasswordForm] at hread
    split at hread
    · cases hread
    · split at hread
      · cases hread
      · obtain ⟨actionUrl, -, rfl⟩ := map_eq_some_iff.1 hread
        exact ⟨rfl, ⟨actionUrl, rfl⟩, rfl, rfl⟩

/-- **A password form that was read can be filled**: the name and the password are written into
the two fields exactly if the form is found again. -/
theorem fills_iff (env : URLEnvironment) (page : Page) (hnodes : page.nodes.Nodup)
    {before after : List FormElement} {form : FormElement}
    (hforms : page.forms = before ++ form :: after) {user pass : Element}
    (huser : Field form user) (htext : isTextField user = true) (hnot : user.isPassword = false)
    (hpass : Field form pass) (hpassword : pass.isPassword = true)
    {dictionary : PasswordFormData}
    (hdictionary : getPasswordFormData page form = some dictionary)
    {read : PasswordForm} (hread : getPasswordForm env page dictionary = some read)
    (username password : String) :
    ((user.node, username) ∈
        fillPasswordForm env page (serializePasswordFormFillData read) username password ∧
      (pass.node, password) ∈
        fillPasswordForm env page (serializePasswordFormFillData read) username password) ↔
      FilledAgain env page before form user pass read := by
  obtain ⟨horigin, ⟨actionUrl, haction⟩, huserRead, hpassRead⟩ := read_spec hdictionary hread
  have horiginIff : (serializePasswordFormFillData read).origin =
      removeQueryAndReferenceFromURL page.href ↔
        ∃ url : URL, page.href = url.spec ∧ url.stripURL = page.url.stripURL ∧ url.Plain := by
    rw [serializePasswordFormFillData, horigin, eq_comm]
    exact URL.removeQuery_eq_spec_iff _ page.url
  have hactionIff : (serializePasswordFormFillData read).action =
      removeQueryAndReferenceFromURL (absoluteAction env page form) ↔
        ∃ url : URL, absoluteAction env page form = url.spec ∧ url.stripURL = read.action ∧
          url.Plain := by
    rw [serializePasswordFormFillData, haction, eq_comm]
    exact URL.removeQuery_eq_spec_iff _ actionUrl
  constructor
  · rintro ⟨huserWritten, hpassWritten⟩
    have hleads := leads_of_written hforms hnodes huser.mem hnot hpass.mem hpassword huserWritten
      hpassWritten
    exact ⟨huserRead ▸ hleads.user, hpassRead ▸ hleads.pass, horiginIff.1 hleads.origin,
      hactionIff.1 hleads.action, hleads.ownName, hleads.children, hleads.methods, hleads.earlier⟩
  · intro h
    have hnodup : form.nodes.Nodup := by
      rw [Page.nodes, hforms, flatMap_append, flatMap_cons] at hnodes
      exact (nodup_append.1 (nodup_append.1 hnodes).2.1).1
    have hleads : Leads env page (serializePasswordFormFillData read) before form user pass :=
      ⟨horiginIff.2 h.origin, hactionIff.2 h.action,
        h.user.trans (congrArg some huserRead.symm), h.pass.trans (congrArg some hpassRead.symm),
        h.ownName, h.children, h.methods, h.earlier⟩
    exact hleads.written hforms hnodup huser htext hnot hpass hpassword

/-! ### Two pages -/

/-- The URL of a page with a fragment, or with none. -/
def loginURL (ref : Option Text) : URL where
  scheme := "https".toList
  authority := some ([], "example.com".toList)
  path := "/login".toList
  query := none
  ref := ref
  clean c hmem :=
    have hall : "https://example.com/login".toList.all (fun c => c ≠ '?' ∧ c ≠ '#') = true := by
      decide
    of_decide_eq_true (all_eq_true.1 hall c hmem)
  cleanQuery := nofun

/-- URLs as far as they are needed on these pages, whose forms have no action of their own. -/
def loginEnvironment : URLEnvironment where
  getOrigin _ := "https://example.com/".toList
  resolve _ _ := none
  anchorHref _ text := text
  formAction page _ := page.url.spec

def userInput : Element := ⟨1, true, some "user", "text", false, false, "", fun _ => rfl⟩

def passInput : Element := ⟨2, true, some "pass", "password", false, false, "", fun _ => rfl⟩

def loginForm : FormElement where
  self := ⟨0, false, some "login", "", false, false, "", nofun⟩
  identifier := "login"
  actionAttribute := none
  methodAttribute := none
  children := .cons userInput .nil (.cons passInput .nil .nil)
  hiddenAction := none
  hidesChildren := false
  hidesMethods := false
  notPassword := by decide

def loginPage (ref : Option Text) : Page :=
  ⟨loginURL ref, (loginURL ref).spec, loginURL ref, [loginForm]⟩

theorem field_userInput : Field loginForm userInput :=
  ⟨by decide, rfl, rfl, by decide⟩

theorem field_passInput : Field loginForm passInput :=
  ⟨by decide, rfl, rfl, by decide⟩

/-- What is read of the form on either page. -/
def loginRead : PasswordForm where
  origin := loginURL none
  action := loginURL none
  name := "login"
  fields := [("user", "text"), ("pass", "password")]
  usernameElement := "user"
  usernameValue := ""
  passwordElement := "pass"
  passwordValue := ""
  newPasswordElement := ""
  newPasswordValue := ""

def loginDictionary (origin : Text) : PasswordFormData where
  action := none
  method := none
  name := "login"
  origin := origin
  fields := [("user", "text"), ("pass", "password")]
  usernameElement := "user"
  usernameValue := ""
  passwords := [("pass", "")]

/-- The URL of the page ends with `#top`. -/
theorem fills_login :
    (userInput.node, "ada") ∈ fillPasswordForm loginEnvironment (loginPage (some "top".toList))
        (serializePasswordFormFillData loginRead) "ada" "secret" ∧
      (passInput.node, "secret") ∈ fillPasswordForm loginEnvironment
        (loginPage (some "top".toList)) (serializePasswordFormFillData loginRead) "ada" "secret" :=
  (fills_iff loginEnvironment (loginPage (some "top".toList)) (by decide)
    (show (loginPage (some "top".toList)).forms = [] ++ loginForm :: [] from rfl)
    field_userInput (by decide) (by decide) field_passInput (by decide)
    (show getPasswordFormData (loginPage (some "top".toList)) loginForm =
      some (loginDictionary "https://example.com/login".toList) by decide +kernel)
    (by decide +kernel) "ada" "secret").2
    { user := rfl
      pass := rfl
      origin := ⟨loginURL (some "top".toList), rfl, by decide, ⟨by decide, by decide⟩⟩
      action := ⟨loginURL (some "top".toList), rfl, by decide, ⟨by decide, by decide⟩⟩
      ownName := by decide
      children := rfl
      methods := by decide
      earlier := nofun }

/-- The URL of the page ends with `#sign?in`: the form is read, and nothing is filled in. -/
theorem question_mark_in_fragment_not_filled :
    (Field loginForm userInput ∧ Field loginForm passInput) ∧
      getPasswordFormData (loginPage (some "sign?in".toList)) loginForm =
        some (loginDictionary "https://example.com/login#sign".toList) ∧
      getPasswordForm loginEnvironment (loginPage (some "sign?in".toList))
        (loginDictionary "https://example.com/login#sign".toList) = some loginRead ∧
      fillPasswordForm loginEnvironment (loginPage (some "sign?in".toList))
        (serializePasswordFormFillData loginRead) "ada" "secret" = [] :=
  ⟨⟨field_userInput, field_passInput⟩, by decide +kernel⟩

end Passwords

end ChromiumIos
