import ChromiumIos.U2F.U2FController

/-!
# Answers of security keys

- `isAnswer_of_JSStringFromReponseURL`: the script is empty or one call.
- `evaluate_cases`: what a callback does.
- `answers_kept_iff`: answers reach only the page that asked, once each, and without an exception,
  if and only if the error codes that are read are numbers.
-/

namespace ChromiumIos

open Lib List

namespace U2FController

variable {P : U2FPlatform} {s : U2FController}

/-! ## Scripts -/

/-- The script throws only where an error code is not a number. -/
theorem JSString_eq_none {url : GURL} : P.JSStringFromReponseURL url = none ↔
    (P.getValueForKeyInQuery url "requestId").isSome = true ∧
      ∃ error, P.getValueForKeyInQuery url "error" = some error ∧ stoi error = none := by
  rw [U2FPlatform.JSStringFromReponseURL]
  cases P.getValueForKeyInQuery url "requestId" with
  | none => exact iff_of_false nofun nofun
  | some requestID =>
    cases P.getValueForKeyInQuery url "error" with
    | some errorCode => simp
    | none =>
      refine iff_of_false ?_ fun ⟨_, _, herror, _⟩ => nomatch herror
      dsimp only
      intro hnone
      split at hnone
      · exact nomatch hnone
      · split at hnone <;> exact nomatch hnone

theorem isAnswer_of_JSStringFromReponseURL {url : GURL} {script : String}
    (h : P.JSStringFromReponseURL url = some script) : IsAnswer P url script := by
  rw [U2FPlatform.JSStringFromReponseURL] at h
  cases hid : P.getValueForKeyInQuery url "requestId" with
  | none =>
    rw [hid] at h
    exact .inl (Option.some.inj h).symm
  | some requestID =>
    rw [hid] at h
    dsimp only at h
    -- a field that repeats a parameter
    have hfields : ∀ keys : List String, ∃ call : U2FCall,
        U2FPlatform.printCall (P.getQuotedJSONString requestID) (keys.map (P.quotedField url)) =
          call.script P ∧ some requestID = some call.requestId ∧
            ∀ field ∈ call.fields, Repeats P url field := by
      intro keys
      refine ⟨⟨requestID, keys.map fun key =>
        (key, .text ((P.getValueForKeyInQuery url key).getD ""))⟩, ?_, rfl, ?_⟩
      · rw [U2FCall.script, map_map]
        rfl
      · intro field hfield
        obtain ⟨key, -, rfl⟩ := mem_map.1 hfield
        exact rfl
    cases herror : P.getValueForKeyInQuery url "error" with
    | some errorCode =>
      rw [herror] at h
      obtain ⟨code, hcode, rfl⟩ := Option.map_eq_some_iff.1 h
      refine .inr ⟨⟨requestID, [("errorCode", .number code)]⟩, rfl, hid, fun field hfield => ?_⟩
      rw [mem_singleton.1 hfield]
      exact ⟨rfl, errorCode, herror, hcode⟩
    | none =>
      rw [herror] at h
      dsimp only at h
      rw [IsAnswer, hid]
      split at h
      · rw [← Option.some.inj h]
        exact .inr (hfields ["registrationData", "clientData"])
      · split at h
        · rw [← Option.some.inj h]
          exact .inr (hfields ["keyHandle", "signatureData", "clientData"])
        · exact .inl (Option.some.inj h).symm

/-! ## Callbacks -/

theorem carries_iff {U2FURL : GURL} {requestUUID : String} : carries P U2FURL requestUUID = true ↔
    P.host U2FURL = "u2f-callback" ∧
      P.getValueForKeyInQuery U2FURL "requestUUID" = some requestUUID := by
  rw [carries, Bool.and_eq_true, decide_eq_true_iff, decide_eq_true_iff]

theorem carries_unique {U2FURL : GURL} {requestUUID other : String}
    (h : carries P U2FURL requestUUID = true) :
    carries P U2FURL other = true ↔ other = requestUUID := by
  obtain ⟨hhost, hvalue⟩ := carries_iff.1 h
  rw [carries_iff, hvalue, Option.some_inj]
  exact ⟨fun hother => hother.2.symm, fun heq => ⟨hhost, heq.symm⟩⟩

/-- A callback is ignored, or takes its request out of the bookkeeping, with a script if the page is
still shown, or it throws. -/
theorem evaluate_cases (s : U2FController) (U2FURL currentTabURL : GURL)
    (trustLevel : URLVerificationTrustLevel) :
    ((∀ requestUUID, carries P U2FURL requestUUID = true →
        s.requestToURLMap.get? requestUUID = none) ∧
      s.evaluateU2FResultFromU2FURL P U2FURL currentTabURL trustLevel = (s, none)) ∨
    ∃ requestUUID originalTabURL, carries P U2FURL requestUUID = true ∧
      s.requestToURLMap.get? requestUUID = some originalTabURL ∧
      ((¬(trustLevel = .absolute ∧ (P.parseURL originalTabURL).eq currentTabURL = true) ∧
          s.evaluateU2FResultFromU2FURL P U2FURL currentTabURL trustLevel =
            ({ s with requestToURLMap := s.requestToURLMap.erase requestUUID }, none)) ∨
        (trustLevel = .absolute ∧ (P.parseURL originalTabURL).eq currentTabURL = true) ∧
          ((∃ script, P.JSStringFromReponseURL U2FURL = some script ∧
              s.evaluateU2FResultFromU2FURL P U2FURL currentTabURL trustLevel =
                ({ s with requestToURLMap := s.requestToURLMap.erase requestUUID }, some script)) ∨
            (P.JSStringFromReponseURL U2FURL = none ∧
              s.evaluateU2FResultFromU2FURL P U2FURL currentTabURL trustLevel =
                ({ s with exceptionThrown := true }, none)))) := by
  rw [evaluateU2FResultFromU2FURL]
  by_cases hhost : P.host U2FURL = "u2f-callback"
  · rw [if_neg (not_not.2 hhost)]
    cases hvalue : P.getValueForKeyInQuery U2FURL "requestUUID" with
    | none =>
      refine .inl ⟨fun requestUUID hcarries => ?_, rfl⟩
      exact absurd (hvalue.symm.trans (carries_iff.1 hcarries).2) nofun
    | some requestUUID =>
      have hcarries : carries P U2FURL requestUUID = true := carries_iff.2 ⟨hhost, hvalue⟩
      cases hget : s.requestToURLMap.get? requestUUID with
      | none =>
        refine .inl ⟨fun other hother => ?_, ?_⟩
        · rw [(carries_unique hcarries).1 hother, hget]
        · dsimp only
          rw [hget]
      | some originalTabURL =>
        refine .inr ⟨requestUUID, originalTabURL, hcarries, hget, ?_⟩
        dsimp only
        rw [hget]
        dsimp only
        split
        · next hshown =>
          refine .inr ⟨hshown, ?_⟩
          cases hscript : P.JSStringFromReponseURL U2FURL with
          | some script => exact .inl ⟨script, rfl, rfl⟩
          | none => exact .inr ⟨rfl, rfl⟩
        · next hgone => exact .inl ⟨hgone, rfl⟩
  · rw [if_pos hhost]
    exact .inl ⟨fun _ hcarries => absurd (carries_iff.1 hcarries).1 hhost, rfl⟩

/-! ## The invariant -/

theorem outstanding_eq_some {history : List Event} {requestUUID : String} {request : U2FRequest}
    (h : outstanding P history requestUUID = some request) :
    request.requestUUID = requestUUID ∧ .issued request ∈ history := by
  induction history with
  | nil => exact absurd h nofun
  | cons event before ih =>
    cases event with
    | issued other =>
      rw [outstanding] at h
      split at h
      · next heq =>
        obtain rfl := Option.some.inj h
        exact ⟨heq, mem_cons_self⟩
      · exact (ih h).imp_right (mem_cons_of_mem _)
    | evaluated U2FURL currentTabURL trustLevel script =>
      rw [outstanding] at h
      split at h
      · exact absurd h nofun
      · exact (ih h).imp_right (mem_cons_of_mem _)

structure Inv (P : U2FPlatform) (s : U2FController) : Prop extends Answered P s where
  allowed : ∀ request, .issued request ∈ s.history →
    P.schemeIsCryptographic request.originURL = true ∧
      P.shouldAllowSourceURL request.originURL = true
  /-- No script was injected for a request that waits, or for one that will be issued. -/
  unanswered : ∀ requestUUID, requestUUID ∉ s.issuedUUIDs ∨
    (outstanding P s.history requestUUID).isSome = true →
      s.history.countP (injects P requestUUID) = 0

theorem inv_init : Inv P init where
  asked _ _ _ _ _ h := absurd (suffix_nil.1 h) nofun
  once _ := Nat.zero_le _
  recorded _ := rfl
  unthrown := rfl
  allowed := nofun
  unanswered _ _ := rfl

theorem inv_issue (h : Inv P s) {requestURL originURL tabURL : GURL} {tabID requestUUID : String}
    (hfresh : requestUUID ∉ s.issuedUUIDs) :
    Inv P (s.XCallbackFromRequestURL P requestURL originURL tabURL tabID requestUUID).1 := by
  rw [XCallbackFromRequestURL]
  split
  · exact h
  · next hsecure =>
    split
    · exact h
    · next hallowed =>
      exact
        { asked := by
            intro U2FURL currentTabURL trustLevel script before hsuffix
            rcases suffix_cons_iff.1 hsuffix with heq | hsuffix
            · exact absurd (cons.inj heq).1 nofun
            · exact h.asked U2FURL currentTabURL trustLevel script before hsuffix
          once := by
            intro other
            rw [countP_cons_of_neg Bool.false_ne_true]
            exact h.once other
          recorded := by
            intro other
            rw [Keyed.get?_set, outstanding, h.recorded other]
            by_cases heq : other = requestUUID
            · rw [if_pos heq, if_pos heq.symm, Option.map_some]
            · rw [if_neg heq, if_neg (Ne.symm heq)]
          unthrown := h.unthrown
          allowed := by
            intro request hmem
            rcases mem_cons.1 hmem with heq | hmem
            · obtain rfl := Event.issued.inj heq
              exact ⟨by simpa using hsecure, by simpa using hallowed⟩
            · exact h.allowed request hmem
          unanswered := by
            intro other hwaits
            rw [countP_cons_of_neg Bool.false_ne_true]
            refine h.unanswered other ?_
            by_cases heq : other = requestUUID
            · exact .inl (heq ▸ hfresh)
            · rw [outstanding, if_neg (Ne.symm heq)] at hwaits
              exact hwaits.imp_left fun hnot hmem => hnot (mem_cons_of_mem _ hmem) }

/-- A callback that carries no UUID that waits changes nothing. -/
theorem Inv.ignore (h : Inv P s) {U2FURL : GURL} (currentTabURL : GURL)
    (trustLevel : URLVerificationTrustLevel)
    (hignored : ∀ requestUUID, carries P U2FURL requestUUID = true →
      s.requestToURLMap.get? requestUUID = none) :
    Inv P { s with history := .evaluated U2FURL currentTabURL trustLevel none :: s.history } :=
  have hsame : ∀ requestUUID, outstanding P
      (.evaluated U2FURL currentTabURL trustLevel none :: s.history) requestUUID =
        outstanding P s.history requestUUID := by
    intro requestUUID
    rw [outstanding]
    split
    · next hcarries =>
      have hnone := (h.recorded requestUUID).symm.trans (hignored requestUUID hcarries)
      exact (Option.map_eq_none_iff.1 hnone).symm
    · rfl
  { asked := by
      intro U2FURL currentTabURL trustLevel script before hsuffix
      rcases suffix_cons_iff.1 hsuffix with heq | hsuffix
      · exact absurd (cons.inj heq).1 nofun
      · exact h.asked U2FURL currentTabURL trustLevel script before hsuffix
    once := by
      intro requestUUID
      rw [countP_cons_of_neg Bool.false_ne_true]
      exact h.once requestUUID
    recorded := fun requestUUID => (h.recorded requestUUID).trans (by rw [hsame])
    unthrown := h.unthrown
    allowed := fun request hmem =>
      h.allowed request ((mem_cons.1 hmem).resolve_left nofun)
    unanswered := by
      intro requestUUID hwaits
      rw [countP_cons_of_neg Bool.false_ne_true]
      rw [hsame] at hwaits
      exact h.unanswered requestUUID hwaits }

/-- A callback takes its request out of the bookkeeping, perhaps with a script. -/
theorem Inv.answer (h : Inv P s) {U2FURL currentTabURL : GURL}
    {trustLevel : URLVerificationTrustLevel} {requestUUID originalTabURL : String}
    {script : Option String} (hcarries : carries P U2FURL requestUUID = true)
    (hget : s.requestToURLMap.get? requestUUID = some originalTabURL)
    (hscript : ∀ text ∈ script, IsAnswer P U2FURL text ∧ trustLevel = .absolute ∧
      (P.parseURL originalTabURL).eq currentTabURL = true) :
    Inv P
      { s with
        requestToURLMap := s.requestToURLMap.erase requestUUID
        history := .evaluated U2FURL currentTabURL trustLevel script :: s.history } := by
  obtain ⟨request, hrequest, hURL⟩ :=
    Option.map_eq_some_iff.1 ((h.recorded requestUUID).symm.trans hget)
  obtain ⟨hUUID, hissued⟩ := outstanding_eq_some hrequest
  have houtstanding : ∀ other, outstanding P
      (.evaluated U2FURL currentTabURL trustLevel script :: s.history) other =
        if other = requestUUID then none else outstanding P s.history other := by
    intro other
    rw [outstanding, if_congr (carries_unique hcarries) rfl rfl]
  have hinjects : ∀ other, other ≠ requestUUID →
      ¬injects P other (.evaluated U2FURL currentTabURL trustLevel script) = true := by
    intro other hne hinjects
    exact hne ((carries_unique hcarries).1 (Bool.and_eq_true_iff.1 hinjects).2)
  exact
    { asked := by
        intro U2FURL' currentTabURL' trustLevel' text before hsuffix
        rcases suffix_cons_iff.1 hsuffix with heq | hsuffix
        · obtain ⟨hevent, rfl⟩ := cons.inj heq
          obtain ⟨rfl, rfl, rfl, rfl⟩ := Event.evaluated.inj hevent
          obtain ⟨hanswer, htrust, hshown⟩ := hscript text rfl
          exact ⟨request, hUUID.symm ▸ hcarries, hUUID.symm ▸ hrequest,
            (h.allowed request hissued).1, (h.allowed request hissued).2, htrust,
            hURL.symm ▸ hshown, hanswer⟩
        · exact h.asked U2FURL' currentTabURL' trustLevel' text before hsuffix
      once := by
        intro other
        by_cases heq : other = requestUUID
        · -- it waited, so this is the first script for it
          have hnone := h.unanswered other (.inr (by rw [heq, hrequest]; rfl))
          rw [countP_cons, hnone]
          split <;> omega
        · rw [countP_cons_of_neg (hinjects other heq)]
          exact h.once other
      recorded := by
        intro other
        rw [Keyed.get?_erase, houtstanding]
        split
        · rfl
        · exact h.recorded other
      unthrown := h.unthrown
      allowed := fun other hmem =>
        h.allowed other ((mem_cons.1 hmem).resolve_left nofun)
      unanswered := by
        intro other hwaits
        have hne : other ≠ requestUUID := by
          rintro rfl
          refine hwaits.elim (fun hnot => hnot ?_) fun hsome => ?_
          · exact mem_filterMap.2 ⟨_, mem_cons_of_mem _ hissued, congrArg some hUUID⟩
          · rw [houtstanding, if_pos rfl] at hsome
            exact absurd hsome nofun
        rw [countP_cons_of_neg (hinjects other hne)]
        rw [houtstanding, if_neg hne] at hwaits
        exact h.unanswered other hwaits }

/-! ## When answers are kept -/

/-- The error code of a callback that has one is a number. -/
def HasNumber (P : U2FPlatform) (U2FURL : GURL) : Prop :=
  ∀ error ∈ P.getValueForKeyInQuery U2FURL "error", (stoi error).isSome = true

instance (U2FURL : GURL) : Decidable (HasNumber P U2FURL) :=
  inferInstanceAs (Decidable (∀ error ∈ P.getValueForKeyInQuery U2FURL "error", _ = _))

/-- A callback that will be answered with a call has no error code but a number. -/
def Numbered (P : U2FPlatform) (s : U2FController) : Op → Prop
  | .XCallbackFromRequestURL _ _ _ _ _ => True
  | .evaluateU2FResultFromU2FURL U2FURL currentTabURL trustLevel =>
    ∀ requestUUID ∈ P.getValueForKeyInQuery U2FURL "requestUUID",
      ∀ originalTabURL ∈ s.requestToURLMap.get? requestUUID,
        P.host U2FURL = "u2f-callback" ∧ trustLevel = .absolute ∧
            (P.parseURL originalTabURL).eq currentTabURL = true ∧
            (P.getValueForKeyInQuery U2FURL "requestId").isSome = true →
          HasNumber P U2FURL

instance (P : U2FPlatform) (s : U2FController) : ∀ op, Decidable (Numbered P s op)
  | .XCallbackFromRequestURL _ _ _ _ _ => instDecidableTrue
  | .evaluateU2FResultFromU2FURL U2FURL _ _ => inferInstanceAs (Decidable
      (∀ requestUUID ∈ P.getValueForKeyInQuery U2FURL "requestUUID",
        ∀ originalTabURL ∈ s.requestToURLMap.get? requestUUID, _ ∧ _ ∧ _ ∧ _ → _))

theorem inv_step (op : Op) (h : Inv P s) (hpre : s.Pre op) (hnumbered : Numbered P s op) :
    Inv P (s.apply P op) := by
  cases op with
  | XCallbackFromRequestURL requestURL originURL tabURL tabID requestUUID =>
    exact inv_issue h hpre
  | evaluateU2FResultFromU2FURL U2FURL currentTabURL trustLevel =>
    rw [apply]
    rcases evaluate_cases s U2FURL currentTabURL trustLevel with ⟨hignored, heq⟩ |
      ⟨requestUUID, originalTabURL, hcarries, hget, ⟨-, heq⟩ | ⟨hshown, ⟨script, hscript, heq⟩ |
        ⟨hnone, -⟩⟩⟩
    · rw [heq]
      exact h.ignore currentTabURL trustLevel hignored
    · rw [heq]
      exact h.answer hcarries hget nofun
    · rw [heq]
      refine h.answer hcarries hget fun text htext => ?_
      obtain rfl := Option.some.inj htext
      exact ⟨isAnswer_of_JSStringFromReponseURL hscript, hshown⟩
    · obtain ⟨hid, error, herror, hstoi⟩ := JSString_eq_none.1 hnone
      obtain ⟨hhost, hvalue⟩ := carries_iff.1 hcarries
      have hnumber := hnumbered requestUUID hvalue originalTabURL hget
        ⟨hhost, hshown.1, hshown.2, hid⟩ error herror
      rw [hstoi] at hnumber
      exact absurd hnumber nofun

/-- An error code that is not a number throws. -/
theorem not_answered_step (op : Op) (hnumbered : ¬Numbered P s op) :
    ¬Answered P (s.apply P op) := by
  cases op with
  | XCallbackFromRequestURL => exact absurd trivial hnumbered
  | evaluateU2FResultFromU2FURL U2FURL currentTabURL trustLevel =>
    intro hanswered
    refine hnumbered fun requestUUID hvalue originalTabURL hget hread error herror => ?_
    obtain ⟨hhost, htrust, hshown, hid⟩ := hread
    have hcarries : carries P U2FURL requestUUID = true := carries_iff.2 ⟨hhost, hvalue⟩
    by_contra hstoi
    have hnone : P.JSStringFromReponseURL U2FURL = none :=
      JSString_eq_none.2 ⟨hid, error, herror, Option.not_isSome_iff_eq_none.1 hstoi⟩
    have hunthrown := hanswered.unthrown
    rw [apply] at hunthrown
    rcases evaluate_cases s U2FURL currentTabURL trustLevel with ⟨hignored, -⟩ |
      ⟨other, original, hother, hgot, ⟨hgone, -⟩ | ⟨-, ⟨script, hscript, -⟩ | ⟨-, heq⟩⟩⟩
    · exact absurd ((hignored requestUUID hcarries).symm.trans hget) nofun
    · rw [(carries_unique hcarries).1 hother] at hgot
      obtain rfl := Option.some.inj (hget.symm.trans hgot)
      exact hgone ⟨htrust, hshown⟩
    · exact absurd (hnone.symm.trans hscript) nofun
    · rw [heq] at hunthrown
      exact absurd hunthrown nofun

/-- In a run answers reach only the page that asked, and no callback throws, if and only if every
error code that is read is a number. -/
theorem answers_kept_iff {ops : List Op} (hlegal : (machine P).Legal init ops) :
    (∀ before, before <+: ops → Answered P ((machine P).run init before)) ↔
      (machine P).Along (Numbered P) init ops :=
  Machine.always_iff_along (M := machine P) (I := Inv P) (fun _ h => h.toAnswered)
    (fun _ op => inv_step op) (fun _ op _ _ => not_answered_step op) inv_init hlegal

/-! ## A page and its answers -/

/-- The text of a parameter in a URL. -/
def escapeQueryParamValue (value : String) : String :=
  let hex n := Nat.digitChar n |>.toUpper
  String.ofList <| value.toList.flatMap fun c =>
    if c.isAlphanum || "!'()*-._~".toList.contains c then [c]
    else if c = ' ' then ['+']
    else ['%', hex (c.toNat / 16), hex (c.toNat % 16)]

/-- Canonical ASCII URLs with values that need no unescaping. -/
def demoPlatform : U2FPlatform where
  parseURL text := ⟨text, !text.isEmpty⟩
  host url :=
    let rest := (url.spec.toList.dropWhile (· ≠ ':')).drop 3
    String.ofList (rest.takeWhile fun c => c ≠ '/' && c ≠ '?')
  query url := String.ofList ((url.spec.toList.dropWhile (· ≠ '?')).drop 1)
  schemeIsCryptographic url :=
    let scheme := String.ofList (url.spec.toList.takeWhile (· ≠ ':'))
    scheme = "https" || scheme = "wss"
  isGoogleDomainUrl _ := false
  getValueForKeyInQuery url key :=
    let pairs := ((url.spec.toList.dropWhile (· ≠ '?')).drop 1).splitOn '&'
    (pairs.find? fun pair => pair.takeWhile (· ≠ '=') = key.toList).map fun pair =>
      String.ofList ((pair.dropWhile (· ≠ '=')).drop 1)
  appendQueryParameter url name value :=
    let separator := if url.spec.toList.contains '?' then "&" else "?"
    ⟨url.spec ++ separator ++ name ++ "=" ++ escapeQueryParamValue value, true⟩
  getQuotedJSONString text := "\"" ++ text ++ "\""
  bundleURLScheme := "chromium"

def demoURL : GURL := ⟨"https://u2fdemo.appspot.com/", true⟩

/-- The callback of a request, with what the other app has added. -/
def demoCallback (requestUUID added : String) : GURL :=
  ⟨(demoPlatform.successOrErrorURL "1" requestUUID).spec ++ added, true⟩

/-- Two requests. The first one's answer is repeated, the second one's comes after a navigation. -/
theorem answers_kept_iff_demo :
    let ops : List Op := [
      .XCallbackFromRequestURL ⟨"u2f://auth?data", true⟩ demoURL demoURL "1" "0A",
      .XCallbackFromRequestURL ⟨"u2f://auth?data", true⟩ demoURL demoURL "1" "0B",
      .evaluateU2FResultFromU2FURL (demoCallback "0A" "&requestId=7&error=5") demoURL .absolute,
      .evaluateU2FResultFromU2FURL (demoCallback "0A" "&requestId=7&error=x") demoURL .absolute,
      .evaluateU2FResultFromU2FURL (demoCallback "0B" "&requestId=8&keyHandle=k&signatureData=s")
        ⟨"https://example.com/", true⟩ .absolute]
    (machine demoPlatform).Legal init ops ∧ ∀ before, before <+: ops →
      Answered demoPlatform ((machine demoPlatform).run init before) := by
  intro ops
  have hlegal : (machine demoPlatform).Legal init ops := by decide +kernel
  have hnumbered : (machine demoPlatform).Along (Numbered demoPlatform) init ops := by
    decide +kernel
  exact ⟨hlegal, (answers_kept_iff hlegal).2 hnumbered⟩

/-- An error code that is not a number throws, and the request stays in the bookkeeping. -/
theorem error_code_not_answered :
    let ops : List Op := [
      .XCallbackFromRequestURL ⟨"u2f://auth?data", true⟩ demoURL demoURL "1" "0A",
      .evaluateU2FResultFromU2FURL (demoCallback "0A" "&requestId=7&error=x") demoURL .absolute]
    (machine demoPlatform).Legal init ops ∧
      ¬Answered demoPlatform ((machine demoPlatform).run init ops) :=
  ⟨by decide +kernel, fun hanswered => absurd hanswered.unthrown (by decide +kernel)⟩

end U2FController

end ChromiumIos
