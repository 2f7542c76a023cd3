import ChromiumIos.Lib.Machine

/-!
# `PreloadController`

`preload_controller.mm`: prerenders and prefetches pages while two preferences and the
type of the connection permit it. The controller keeps copies of all three; it observes
the connection only while both preferences require it.

- `Synced`: the copies are those of what they stand for wherever that matters.
- `synced_step`: every operation keeps this, and what is prerendered is permitted.
- `obeyed_iff`: prefetches are permitted too in exactly the runs that have none in
  flight when the permission is lost.
-/

namespace ChromiumIos

open Lib

/-- The URLs, the device and the network as far as the controller asks of them. -/
structure PreloadEnvironment (GURL ConnectionType : Type) where
  emptyURL : GURL
  isValid : GURL → Bool
  /-- `url.SchemeIs` of the two web schemes. -/
  schemeIsHttpOrHttps : GURL → Bool
  query : GURL → List Char
  /-- `ReplaceComponents` with a new query. -/
  replaceQuery : GURL → List Char → GURL
  isConnectionCellular : ConnectionType → Bool
  isPrerenderTabEvictionExperimentalGroup : Bool
  isSingleCoreDevice : Bool
  ramIsAtLeast512Mb : Bool

/-- What the controller asks the run loop to perform on it. -/
inductive PreloadSelector
  | startPrerender
  | cancelPrerender
deriving DecidableEq, Repr

/-- What a prerendered web state was told to load. -/
structure PreloadLoadParams (GURL Referrer PageTransition : Type) where
  url : GURL
  referrer : Option Referrer
  transition : Option PageTransition
  desktopUserAgent : Bool

/-- The controller, with the preferences and the connection it is told of. -/
structure PreloadController (GURL Referrer PageTransition ConnectionType : Type) where
  networkPredictionEnabled : Bool
  networkPredictionWifiOnly : Bool
  connectionType : ConnectionType
  webState : Option (PreloadLoadParams GURL Referrer PageTransition)
  prerenderedURL : GURL
  scheduledURL : GURL
  scheduledTransition : Option PageTransition
  scheduledReferrer : Option Referrer
  /-- The requests the run loop still has. -/
  performRequests : List PreloadSelector
  prefetchedURL : GURL
  /-- The URL the fetcher fetches, if there is one. -/
  prefetcher : Option GURL
  /-- Whether `connectionTypeObserverBridge_` is there. -/
  observesConnectionType : Bool
  enabled : Bool
  wifiOnly : Bool
  usingWWAN : Bool
  successfulPrerendersPerSessionCount : Nat

namespace PreloadController

variable {GURL Referrer PageTransition ConnectionType : Type} [DecidableEq GURL]
  (env : PreloadEnvironment GURL ConnectionType)

omit [DecidableEq GURL] in
def initWithBrowserState (networkPredictionEnabled networkPredictionWifiOnly : Bool)
    (connectionType : ConnectionType) :
    PreloadController GURL Referrer PageTransition ConnectionType where
  networkPredictionEnabled
  networkPredictionWifiOnly
  connectionType
  webState := none
  prerenderedURL := env.emptyURL
  scheduledURL := env.emptyURL
  scheduledTransition := none
  scheduledReferrer := none
  performRequests := []
  prefetchedURL := env.emptyURL
  prefetcher := none
  observesConnectionType := networkPredictionEnabled && networkPredictionWifiOnly
  enabled := networkPredictionEnabled
  wifiOnly := networkPredictionWifiOnly
  usingWWAN := env.isConnectionCellular connectionType
  successfulPrerendersPerSessionCount := 0

variable (c : PreloadController GURL Referrer PageTransition ConnectionType)

/-! ## Methods -/

section

omit [DecidableEq GURL]

def isPrerenderingEnabled : Bool :=
  !env.isPrerenderTabEvictionExperimentalGroup && c.enabled && !env.isSingleCoreDevice &&
    env.ramIsAtLeast512Mb && (!c.wifiOnly || !c.usingWWAN)

def isPrefetchingEnabled : Bool := c.enabled && (!c.wifiOnly || !c.usingWWAN)

def shouldPreloadURL (url : GURL) : Bool := env.schemeIsHttpOrHttps url

/-- Drops every request there is, not only those to start. -/
def removeScheduledPrerenderRequests :
    PreloadController GURL Referrer PageTransition ConnectionType :=
  { c with performRequests := [], scheduledURL := env.emptyURL }

def destroyPreviewContents : PreloadController GURL Referrer PageTransition ConnectionType :=
  if c.webState.isSome then { c with webState := none, prerenderedURL := env.emptyURL } else c

def cancelPrerender : PreloadController GURL Referrer PageTransition ConnectionType :=
  (c.removeScheduledPrerenderRequests env).destroyPreviewContents env

def schedulePrerenderCancel : PreloadController GURL Referrer PageTransition ConnectionType :=
  let c := c.removeScheduledPrerenderRequests env
  { c with performRequests := [.cancelPrerender] }

end

def prerenderURL (url : GURL) (referrer : Referrer) (transition : PageTransition) :
    PreloadController GURL Referrer PageTransition ConnectionType :=
  if !c.isPrerenderingEnabled env || !shouldPreloadURL env url then c
  else if url = c.scheduledURL ∨ (c.scheduledURL = env.emptyURL ∧ url = c.prerenderedURL) then c
  else
    let c := c.removeScheduledPrerenderRequests env
    { c with
      scheduledURL := url
      scheduledTransition := some transition
      scheduledReferrer := some referrer
      performRequests := [.startPrerender] }

omit [DecidableEq GURL] in
/-- `startPrerender`, with the answer of the delegate for the user agent. -/
def startPrerender (shouldUseDesktopUserAgent : Bool) :
    PreloadController GURL Referrer PageTransition ConnectionType :=
  let c := c.destroyPreviewContents env
  let c := { c with prerenderedURL := c.scheduledURL, scheduledURL := env.emptyURL }
  if env.isValid c.prerenderedURL then
    { c with
      webState := some
        { url := c.prerenderedURL
          referrer := c.scheduledReferrer
          transition := c.scheduledTransition
          desktopUserAgent := shouldUseDesktopUserAgent } }
  else c.destroyPreviewContents env

omit [DecidableEq GURL] in
def urlToPrefetchURL (url : GURL) : GURL :=
  let query := env.query url
  env.replaceQuery url ((if query = [] then [] else query ++ ['&']) ++ "pf=i".toList)

def hasPrefetchedURL (url : GURL) : Bool := c.prefetchedURL = urlToPrefetchURL env url

omit [DecidableEq GURL] in
def cancelPrefetch : PreloadController GURL Referrer PageTransition ConnectionType :=
  { c with prefetcher := none, prefetchedURL := env.emptyURL }

def prefetchURL (url : GURL) : PreloadController GURL Referrer PageTransition ConnectionType :=
  if !c.isPrefetchingEnabled || !shouldPreloadURL env url then c
  else if c.hasPrefetchedURL env url then c
  else
    let c := c.cancelPrefetch env
    if env.isValid url then
      { c with
        prefetchedURL := urlToPrefetchURL env url
        prefetcher := some (urlToPrefetchURL env url) }
    else c

section

omit [DecidableEq GURL]

/-- The fetcher goes, and its URL stays as the one that was prefetched. -/
def prefetchDidComplete : PreloadController GURL Referrer PageTransition ConnectionType :=
  { c with prefetcher := none }

def releasePrerenderContents : PreloadController GURL Referrer PageTransition ConnectionType :=
  let c := { c with
    successfulPrerendersPerSessionCount := c.successfulPrerendersPerSessionCount + 1 }
  let c := c.removeScheduledPrerenderRequests env
  { c with prerenderedURL := env.emptyURL, webState := none }

def connectionTypeChanged (type : ConnectionType) :
    PreloadController GURL Referrer PageTransition ConnectionType :=
  let c := { c with usingWWAN := env.isConnectionCellular type }
  if c.wifiOnly && c.usingWWAN then c.cancelPrerender env else c

/-- Both preferences are handled equally. -/
def onPreferenceChanged : PreloadController GURL Referrer PageTransition ConnectionType :=
  let c := { c with
    enabled := c.networkPredictionEnabled
    wifiOnly := c.networkPredictionWifiOnly }
  if c.wifiOnly && c.enabled then
    let c :=
      if c.observesConnectionType then c
      else { c with
        usingWWAN := env.isConnectionCellular c.connectionType
        observesConnectionType := true }
    if c.usingWWAN then c.cancelPrerender env else c
  else if c.enabled then { c with observesConnectionType := false }
  else
    let c := c.cancelPrerender env
    { c with observesConnectionType := false }

end

/-! ## Runs -/

inductive Op (GURL Referrer PageTransition ConnectionType : Type)
  | prerenderURL (url : GURL) (referrer : Referrer) (transition : PageTransition)
  | prefetchURL (url : GURL)
  | cancelPrerender
  | cancelPrefetch
  | releasePrerenderContents
  | prefetchDidComplete
  /-- The run loop performs one of the requests. -/
  | perform (selector : PreloadSelector) (shouldUseDesktopUserAgent : Bool)
  /-- The connection is of another type now; an observer is told. -/
  | connectionType (type : ConnectionType)
  /-- A preference is written; a change is told. -/
  | setEnabled (value : Bool)
  | setWifiOnly (value : Bool)
  | didReceiveMemoryWarning
  /-- The prerendered page asks for native content, or to be discarded. -/
  | schedulePrerenderCancel

variable {c}

omit [DecidableEq GURL] in
def Pre (c : PreloadController GURL Referrer PageTransition ConnectionType) :
    Op GURL Referrer PageTransition ConnectionType → Prop
  | .prefetchDidComplete => c.prefetcher.isSome
  | .perform selector _ => selector ∈ c.performRequests
  | _ => True

omit [DecidableEq GURL] in
instance (c : PreloadController GURL Referrer PageTransition ConnectionType) :
    ∀ op, Decidable (Pre c op)
  | .prefetchDidComplete => decEq _ _
  | .perform selector _ => inferInstanceAs (Decidable (selector ∈ c.performRequests))
  | .prerenderURL .. | .prefetchURL _ | .cancelPrerender | .cancelPrefetch
  | .releasePrerenderContents | .connectionType _ | .setEnabled _ | .setWifiOnly _
  | .didReceiveMemoryWarning | .schedulePrerenderCancel => instDecidableTrue

def step (c : PreloadController GURL Referrer PageTransition ConnectionType) :
    Op GURL Referrer PageTransition ConnectionType →
      PreloadController GURL Referrer PageTransition ConnectionType
  | .prerenderURL url referrer transition => c.prerenderURL env url referrer transition
  | .prefetchURL url => c.prefetchURL env url
  | .cancelPrerender => c.cancelPrerender env
  | .cancelPrefetch => c.cancelPrefetch env
  | .releasePrerenderContents => c.releasePrerenderContents env
  | .prefetchDidComplete => c.prefetchDidComplete
  | .perform selector shouldUseDesktopUserAgent =>
    let c := { c with performRequests := c.performRequests.erase selector }
    match selector with
    | .startPrerender => c.startPrerender env shouldUseDesktopUserAgent
    | .cancelPrerender => c.cancelPrerender env
  | .connectionType type =>
    let c := { c with connectionType := type }
    if c.observesConnectionType then c.connectionTypeChanged env type else c
  | .setEnabled value =>
    if value = c.networkPredictionEnabled then c
    else
      let c := { c with networkPredictionEnabled := value }
      c.onPreferenceChanged env
  | .setWifiOnly value =>
    if value = c.networkPredictionWifiOnly then c
    else
      let c := { c with networkPredictionWifiOnly := value }
      c.onPreferenceChanged env
  | .didReceiveMemoryWarning => c.cancelPrerender env
  | .schedulePrerenderCancel => c.schedulePrerenderCancel env

abbrev machine : Machine (PreloadController GURL Referrer PageTransition ConnectionType)
    (Op GURL Referrer PageTransition ConnectionType) := ⟨Pre, step env⟩

/-! ## What is permitted -/

omit [DecidableEq GURL] in
/-- Prediction is enabled, and not for Wi-Fi only on a cellular connection. -/
def Permitted (c : PreloadController GURL Referrer PageTransition ConnectionType) : Prop :=
  c.networkPredictionEnabled = true ∧
    ¬(c.networkPredictionWifiOnly = true ∧ env.isConnectionCellular c.connectionType = true)

omit [DecidableEq GURL] in
instance (c : PreloadController GURL Referrer PageTransition ConnectionType) :
    Decidable (Permitted env c) := instDecidableAnd

omit [DecidableEq GURL] in
/-- A page is prerendered, or is to be. -/
def Prerenders (c : PreloadController GURL Referrer PageTransition ConnectionType) : Prop :=
  c.webState.isSome = true ∨ .startPrerender ∈ c.performRequests

/-- Nothing is predicted without permission. -/
structure Obeyed (c : PreloadController GURL Referrer PageTransition ConnectionType) : Prop where
  permitted : c.Prerenders ∨ c.prefetcher.isSome = true → c.Permitted env

/-- The copies of the settings are up to date; the connection is observed while it
matters, and known while it is observed. -/
structure Current (c : PreloadController GURL Referrer PageTransition ConnectionType) : Prop where
  enabled : c.enabled = c.networkPredictionEnabled
  wifiOnly : c.wifiOnly = c.networkPredictionWifiOnly
  observes : c.observesConnectionType = (c.enabled && c.wifiOnly)
  usingWWAN : c.observesConnectionType = true →
    c.usingWWAN = env.isConnectionCellular c.connectionType

/-- The copies are up to date, and what is prerendered is permitted. -/
structure Synced (c : PreloadController GURL Referrer PageTransition ConnectionType) : Prop
    extends Current env c where
  prerenders : c.Prerenders → c.Permitted env

variable {env} {c' : PreloadController GURL Referrer PageTransition ConnectionType}

omit [DecidableEq GURL] in
/-- What the controller takes for permitted is. -/
theorem Current.permitted (h : c.Current env) (hprefetching : c.isPrefetchingEnabled = true) :
    c.Permitted env := by
  obtain ⟨henabled, hnetwork⟩ := Bool.and_eq_true_iff.1 hprefetching
  refine ⟨h.enabled ▸ henabled, ?_⟩
  rintro ⟨hwifi, hcellular⟩
  have hwifiOnly : c.wifiOnly = true := h.wifiOnly.trans hwifi
  have hWWAN : c.usingWWAN = true :=
    (h.usingWWAN (by rw [h.observes, henabled, hwifiOnly]; rfl)).trans hcellular
  rw [hwifiOnly, hWWAN] at hnetwork
  cases hnetwork

omit [DecidableEq GURL] in
theorem isPrefetchingEnabled_of_isPrerenderingEnabled (h : c.isPrerenderingEnabled env = true) :
    c.isPrefetchingEnabled = true := by
  simp only [isPrerenderingEnabled, Bool.and_eq_true] at h
  simp only [isPrefetchingEnabled, Bool.and_eq_true]
  exact ⟨h.1.1.1.2, h.2⟩

/-- An operation that leaves the settings and their copies alone. -/
structure SameSettings (c c' : PreloadController GURL Referrer PageTransition ConnectionType) :
    Prop where
  networkPredictionEnabled : c'.networkPredictionEnabled = c.networkPredictionEnabled
  networkPredictionWifiOnly : c'.networkPredictionWifiOnly = c.networkPredictionWifiOnly
  connectionType : c'.connectionType = c.connectionType
  observesConnectionType : c'.observesConnectionType = c.observesConnectionType
  enabled : c'.enabled = c.enabled
  wifiOnly : c'.wifiOnly = c.wifiOnly
  usingWWAN : c'.usingWWAN = c.usingWWAN

section

omit [DecidableEq GURL]

theorem SameSettings.permitted (h : SameSettings c c') : c'.Permitted env ↔ c.Permitted env := by
  unfold Permitted
  rw [h.networkPredictionEnabled, h.networkPredictionWifiOnly, h.connectionType]

theorem SameSettings.current (h : SameSettings c c') (hcurrent : c.Current env) :
    c'.Current env where
  enabled := by rw [h.enabled, h.networkPredictionEnabled, hcurrent.enabled]
  wifiOnly := by rw [h.wifiOnly, h.networkPredictionWifiOnly, hcurrent.wifiOnly]
  observes := by rw [h.observesConnectionType, h.enabled, h.wifiOnly, hcurrent.observes]
  usingWWAN := by
    rw [h.observesConnectionType, h.usingWWAN, h.connectionType]
    exact hcurrent.usingWWAN

theorem SameSettings.synced (h : SameSettings c c') (hcurrent : c.Current env)
    (hprerenders : c'.Prerenders → c.Permitted env) : c'.Synced env :=
  ⟨h.current hcurrent, fun hprerender => h.permitted.2 (hprerenders hprerender)⟩

theorem SameSettings.trans {c'' : PreloadController GURL Referrer PageTransition ConnectionType}
    (h : SameSettings c c') (h' : SameSettings c' c'') : SameSettings c c'' :=
  ⟨h'.1.trans h.1, h'.2.trans h.2, h'.3.trans h.3, h'.4.trans h.4, h'.5.trans h.5, h'.6.trans h.6,
    h'.7.trans h.7⟩

end

/-! ## What each method leaves -/

section

omit [DecidableEq GURL]

theorem destroyPreviewContents_same : SameSettings c (c.destroyPreviewContents env) := by
  unfold destroyPreviewContents
  split <;> exact ⟨rfl, rfl, rfl, rfl, rfl, rfl, rfl⟩

theorem cancelPrerender_same : SameSettings c (c.cancelPrerender env) :=
  SameSettings.trans (by constructor <;> rfl) destroyPreviewContents_same

theorem destroyPreviewContents_webState : (c.destroyPreviewContents env).webState = none := by
  unfold destroyPreviewContents
  split
  · rfl
  · next h => exact Option.not_isSome_iff_eq_none.1 h

theorem destroyPreviewContents_performRequests :
    (c.destroyPreviewContents env).performRequests = c.performRequests := by
  unfold destroyPreviewContents
  split <;> rfl

theorem destroyPreviewContents_prefetcher :
    (c.destroyPreviewContents env).prefetcher = c.prefetcher := by
  unfold destroyPreviewContents
  split <;> rfl

theorem cancelPrerender_prefetcher : (c.cancelPrerender env).prefetcher = c.prefetcher :=
  destroyPreviewContents_prefetcher

/-- Nothing is prerendered, nor to be, after a cancellation. -/
theorem not_prerenders_cancelPrerender : ¬(c.cancelPrerender env).Prerenders := by
  rintro (hweb | hrequest)
  · rw [cancelPrerender, destroyPreviewContents_webState] at hweb
    cases hweb
  · rw [cancelPrerender, destroyPreviewContents_performRequests] at hrequest
    cases hrequest

theorem synced_cancelPrerender (h : c.Current env) : (c.cancelPrerender env).Synced env :=
  cancelPrerender_same.synced h fun hprerenders =>
    absurd hprerenders not_prerenders_cancelPrerender

end

theorem synced_prerenderURL (h : c.Synced env) (url : GURL) (referrer : Referrer)
    (transition : PageTransition) : (c.prerenderURL env url referrer transition).Synced env := by
  unfold prerenderURL
  split
  · exact h
  · next hcan =>
    split
    · exact h
    · have henabled : c.isPrerenderingEnabled env = true := by
        simp only [Bool.or_eq_true, Bool.not_eq_true', not_or, Bool.not_eq_false] at hcan
        exact hcan.1
      have hpermitted := h.permitted (isPrefetchingEnabled_of_isPrerenderingEnabled henabled)
      exact ⟨⟨h.enabled, h.wifiOnly, h.observes, h.usingWWAN⟩, fun _ => hpermitted⟩

omit [DecidableEq GURL] in
theorem startPrerender_same (agent : Bool) : SameSettings c (c.startPrerender env agent) := by
  unfold startPrerender
  have hdestroy : SameSettings c (c.destroyPreviewContents env) := destroyPreviewContents_same
  dsimp only
  split
  · exact hdestroy.trans ⟨rfl, rfl, rfl, rfl, rfl, rfl, rfl⟩
  · exact hdestroy.trans
      (SameSettings.trans (by constructor <;> rfl) destroyPreviewContents_same)

omit [DecidableEq GURL] in
theorem startPrerender_prefetcher (agent : Bool) :
    (c.startPrerender env agent).prefetcher = c.prefetcher := by
  unfold startPrerender
  dsimp only
  split
  · exact destroyPreviewContents_prefetcher
  · rw [destroyPreviewContents_prefetcher]
    exact destroyPreviewContents_prefetcher

/-! ## The settings change -/

section

omit [DecidableEq GURL]

theorem connectionTypeChanged_prefetcher (type : ConnectionType) :
    (c.connectionTypeChanged env type).prefetcher = c.prefetcher := by
  unfold connectionTypeChanged
  dsimp only
  split
  · exact cancelPrerender_prefetcher
  · rfl

theorem onPreferenceChanged_prefetcher :
    (c.onPreferenceChanged env).prefetcher = c.prefetcher := by
  unfold onPreferenceChanged
  dsimp only
  split
  · split <;> split
    · exact cancelPrerender_prefetcher
    · rfl
    · exact cancelPrerender_prefetcher
    · rfl
  · split
    · rfl
    · exact cancelPrerender_prefetcher

theorem connectionTypeChanged_permitted (type : ConnectionType) :
    (c.connectionTypeChanged env type).Permitted env ↔ c.Permitted env := by
  unfold connectionTypeChanged
  dsimp only
  split
  · exact cancelPrerender_same.permitted
  · exact Iff.rfl

theorem onPreferenceChanged_permitted :
    (c.onPreferenceChanged env).Permitted env ↔ c.Permitted env := by
  unfold onPreferenceChanged
  dsimp only
  split
  · split <;> split
    · exact cancelPrerender_same.permitted
    · exact Iff.rfl
    · exact cancelPrerender_same.permitted
    · exact Iff.rfl
  · split
    · exact Iff.rfl
    · exact (cancelPrerender_same (c := { c with
        enabled := c.networkPredictionEnabled
        wifiOnly := c.networkPredictionWifiOnly })).permitted

/-- A change of the connection that the controller does not observe cannot matter. -/
theorem synced_of_not_observes (h : c.Synced env) (hobserves : c.observesConnectionType = false)
    (type : ConnectionType) :
    ({ c with connectionType := type } : PreloadController _ _ _ _).Synced env := by
  refine ⟨⟨h.enabled, h.wifiOnly, h.observes, fun h' => ?_⟩, fun hprerenders => ?_⟩
  · rw [show c.observesConnectionType = true from h'] at hobserves
    cases hobserves
  · have henabled := (h.prerenders hprerenders).1
    refine ⟨henabled, fun hboth => ?_⟩
    rw [h.observes, h.enabled, h.wifiOnly, henabled,
      show c.networkPredictionWifiOnly = true from hboth.1] at hobserves
    cases hobserves

theorem synced_connectionTypeChanged (h : c.Synced env) (type : ConnectionType) :
    (({ c with connectionType := type } : PreloadController _ _ _ _).connectionTypeChanged env
      type).Synced env := by
  have hcurrent : ({ c with
      connectionType := type
      usingWWAN := env.isConnectionCellular type } : PreloadController _ _ _ _).Current env :=
    ⟨h.enabled, h.wifiOnly, h.observes, fun _ => rfl⟩
  unfold connectionTypeChanged
  dsimp only
  split
  · exact synced_cancelPrerender hcurrent
  · next hallowed =>
    refine ⟨hcurrent, fun hprerenders => ⟨(h.prerenders hprerenders).1, fun hboth => ?_⟩⟩
    exact hallowed (Bool.and_eq_true_iff.2 ⟨h.wifiOnly.trans hboth.1, hboth.2⟩)

/-- After a change of a preference the copies are taken anew, and the connection is
asked for if it was not observed. -/
theorem synced_onPreferenceChanged
    (hobserves : c.observesConnectionType = true →
      c.usingWWAN = env.isConnectionCellular c.connectionType) :
    (c.onPreferenceChanged env).Synced env := by
  unfold onPreferenceChanged
  dsimp only
  split
  · next hboth =>
    obtain ⟨hwifi, henabled⟩ := Bool.and_eq_true_iff.1 hboth
    have hrequires : (c.networkPredictionEnabled && c.networkPredictionWifiOnly) = true := by
      rw [hwifi, henabled]
      rfl
    split
    · next hobserved =>
      have hcurrent : ({ c with
          enabled := c.networkPredictionEnabled
          wifiOnly := c.networkPredictionWifiOnly } : PreloadController _ _ _ _).Current env :=
        ⟨rfl, rfl, hobserved.trans hrequires.symm, hobserves⟩
      split
      · exact synced_cancelPrerender hcurrent
      · next hWWAN =>
        refine ⟨hcurrent, fun _ => ⟨henabled, fun h => hWWAN ?_⟩⟩
        exact (hobserves hobserved).trans h.2
    · have hcurrent : ({ c with
          enabled := c.networkPredictionEnabled
          wifiOnly := c.networkPredictionWifiOnly
          usingWWAN := env.isConnectionCellular c.connectionType
          observesConnectionType := true } : PreloadController _ _ _ _).Current env :=
        ⟨rfl, rfl, hrequires.symm, fun _ => rfl⟩
      split
      · exact synced_cancelPrerender hcurrent
      · next hWWAN => exact ⟨hcurrent, fun _ => ⟨henabled, fun h => hWWAN h.2⟩⟩
  · next hboth =>
    have hnot : (c.networkPredictionEnabled && c.networkPredictionWifiOnly) = false := by
      rw [Bool.and_comm]
      exact Bool.eq_false_iff.2 hboth
    split
    · next henabled =>
      refine ⟨⟨rfl, rfl, hnot.symm, fun h => nomatch h⟩, fun _ => ⟨henabled, fun h => ?_⟩⟩
      exact hboth (Bool.and_eq_true_iff.2 ⟨h.1, henabled⟩)
    · let copied : PreloadController GURL Referrer PageTransition ConnectionType := { c with
        enabled := c.networkPredictionEnabled
        wifiOnly := c.networkPredictionWifiOnly }
      have hsame : SameSettings copied (copied.cancelPrerender env) := cancelPrerender_same
      refine ⟨⟨?_, ?_, ?_, fun h => nomatch h⟩, fun hprerenders => ?_⟩
      · exact hsame.enabled.trans hsame.networkPredictionEnabled.symm
      · exact hsame.wifiOnly.trans hsame.networkPredictionWifiOnly.symm
      · show false = _
        rw [hsame.enabled, hsame.wifiOnly]
        exact hnot.symm
      · exact absurd hprerenders not_prerenders_cancelPrerender

end

/-! ## Steps -/

theorem synced_step (h : c.Synced env) {op : Op GURL Referrer PageTransition ConnectionType}
    (hpre : Pre c op) : (step env c op).Synced env := by
  cases op with
  | prerenderURL url referrer transition => exact synced_prerenderURL h url referrer transition
  | prefetchURL url =>
    show (c.prefetchURL env url).Synced env
    have hkept : ∀ prefetchedURL prefetcher, ({ c with
        prefetchedURL := prefetchedURL, prefetcher := prefetcher } :
          PreloadController _ _ _ _).Synced env :=
      fun _ _ => ⟨⟨h.enabled, h.wifiOnly, h.observes, h.usingWWAN⟩, h.prerenders⟩
    unfold prefetchURL
    split
    · exact h
    · split
      · exact h
      · dsimp only
        split
        · exact hkept _ _
        · exact hkept _ _
  | cancelPrerender => exact synced_cancelPrerender h.toCurrent
  | cancelPrefetch => exact ⟨⟨h.enabled, h.wifiOnly, h.observes, h.usingWWAN⟩, h.prerenders⟩
  | releasePrerenderContents =>
    refine ⟨⟨h.enabled, h.wifiOnly, h.observes, h.usingWWAN⟩, ?_⟩
    rintro (hweb | hrequest)
    · cases hweb
    · cases hrequest
  | prefetchDidComplete =>
    exact ⟨⟨h.enabled, h.wifiOnly, h.observes, h.usingWWAN⟩, h.prerenders⟩
  | perform selector agent =>
    cases selector with
    | startPrerender =>
      refine (startPrerender_same agent).synced
        ⟨h.enabled, h.wifiOnly, h.observes, h.usingWWAN⟩ fun _ => ?_
      -- The request that is performed was there.
      exact h.prerenders (.inr hpre)
    | cancelPrerender =>
      exact synced_cancelPrerender ⟨h.enabled, h.wifiOnly, h.observes, h.usingWWAN⟩
  | connectionType type =>
    by_cases hobserves : c.observesConnectionType = true
    · rw [show step env c (.connectionType type) = ({ c with
        connectionType := type } : PreloadController _ _ _ _).connectionTypeChanged env type from
          if_pos hobserves]
      exact synced_connectionTypeChanged h type
    · rw [show step env c (.connectionType type) = { c with connectionType := type } from
        if_neg hobserves]
      exact synced_of_not_observes h (Bool.eq_false_iff.2 hobserves) type
  | setEnabled value =>
    by_cases hsame : value = c.networkPredictionEnabled
    · rw [show step env c (.setEnabled value) = c from if_pos hsame]
      exact h
    · rw [show step env c (.setEnabled value) = ({ c with
        networkPredictionEnabled := value } : PreloadController _ _ _ _).onPreferenceChanged env
          from if_neg hsame]
      exact synced_onPreferenceChanged h.usingWWAN
  | setWifiOnly value =>
    by_cases hsame : value = c.networkPredictionWifiOnly
    · rw [show step env c (.setWifiOnly value) = c from if_pos hsame]
      exact h
    · rw [show step env c (.setWifiOnly value) = ({ c with
        networkPredictionWifiOnly := value } : PreloadController _ _ _ _).onPreferenceChanged env
          from if_neg hsame]
      exact synced_onPreferenceChanged h.usingWWAN
  | didReceiveMemoryWarning => exact synced_cancelPrerender h.toCurrent
  | schedulePrerenderCancel =>
    refine ⟨⟨h.enabled, h.wifiOnly, h.observes, h.usingWWAN⟩, ?_⟩
    rintro (hweb | hrequest)
    · exact h.prerenders (.inl hweb)
    · cases hrequest with
      | tail _ hrequest => cases hrequest

/-- What an operation makes of the settings themselves. -/
def change (c : PreloadController GURL Referrer PageTransition ConnectionType) :
    Op GURL Referrer PageTransition ConnectionType →
      PreloadController GURL Referrer PageTransition ConnectionType
  | .connectionType type => { c with connectionType := type }
  | .setEnabled value => { c with networkPredictionEnabled := value }
  | .setWifiOnly value => { c with networkPredictionWifiOnly := value }
  | _ => c

variable (env) in
/-- An operation that takes the permission away finds no prefetch in flight. -/
def NoPrefetchLost (c : PreloadController GURL Referrer PageTransition ConnectionType)
    (op : Op GURL Referrer PageTransition ConnectionType) : Prop :=
  c.Permitted env → (c.change op).Permitted env ∨ c.prefetcher = none

instance (c : PreloadController GURL Referrer PageTransition ConnectionType)
    (op : Op GURL Referrer PageTransition ConnectionType) :
    Decidable (NoPrefetchLost env c op) := instDecidableForall

/-- What is permitted depends on the settings alone. -/
theorem permitted_step (op : Op GURL Referrer PageTransition ConnectionType) :
    (step env c op).Permitted env ↔ (c.change op).Permitted env := by
  cases op with
  | prerenderURL url referrer transition =>
    show (c.prerenderURL env url referrer transition).Permitted env ↔ c.Permitted env
    unfold prerenderURL
    split
    · exact Iff.rfl
    · split <;> exact Iff.rfl
  | prefetchURL url =>
    show (c.prefetchURL env url).Permitted env ↔ c.Permitted env
    unfold prefetchURL
    split
    · exact Iff.rfl
    · split
      · exact Iff.rfl
      · dsimp only
        split <;> exact Iff.rfl
  | cancelPrerender => exact cancelPrerender_same.permitted
  | cancelPrefetch => exact Iff.rfl
  | releasePrerenderContents => exact Iff.rfl
  | prefetchDidComplete => exact Iff.rfl
  | perform selector agent =>
    cases selector with
    | startPrerender => exact (startPrerender_same agent).permitted
    | cancelPrerender =>
      exact (cancelPrerender_same (c := { c with
        performRequests := c.performRequests.erase .cancelPrerender })).permitted
  | connectionType type =>
    show (if c.observesConnectionType = true then _ else _ : PreloadController _ _ _ _).Permitted
      env ↔ _
    split
    · exact connectionTypeChanged_permitted type
    · exact Iff.rfl
  | setEnabled value =>
    show (if value = c.networkPredictionEnabled then c else _).Permitted env ↔ _
    split
    · next hsame => rw [change, hsame]
    · exact onPreferenceChanged_permitted
  | setWifiOnly value =>
    show (if value = c.networkPredictionWifiOnly then c else _).Permitted env ↔ _
    split
    · next hsame => rw [change, hsame]
    · exact onPreferenceChanged_permitted
  | didReceiveMemoryWarning => exact cancelPrerender_same.permitted
  | schedulePrerenderCancel => exact Iff.rfl

/-- A fetcher in flight was so before, or is started with permission; the settings do not
touch it. -/
theorem prefetcher_step (op : Op GURL Referrer PageTransition ConnectionType) :
    (step env c op).prefetcher = c.prefetcher ∨ c.change op = c ∧
      ((step env c op).prefetcher = none ∨ c.isPrefetchingEnabled = true) := by
  cases op with
  | prerenderURL url referrer transition =>
    refine .inl ?_
    show (c.prerenderURL env url referrer transition).prefetcher = c.prefetcher
    unfold prerenderURL
    split
    · rfl
    · split <;> rfl
  | prefetchURL url =>
    by_cases henabled : c.isPrefetchingEnabled = true
    · exact .inr ⟨rfl, .inr henabled⟩
    · refine .inl ?_
      show (c.prefetchURL env url).prefetcher = c.prefetcher
      rw [prefetchURL, if_pos (by rw [Bool.eq_false_iff.2 henabled]; rfl)]
  | cancelPrerender => exact .inl cancelPrerender_prefetcher
  | cancelPrefetch => exact .inr ⟨rfl, .inl rfl⟩
  | releasePrerenderContents => exact .inl rfl
  | prefetchDidComplete => exact .inr ⟨rfl, .inl rfl⟩
  | perform selector agent =>
    cases selector with
    | startPrerender => exact .inl (startPrerender_prefetcher agent)
    | cancelPrerender => exact .inl cancelPrerender_prefetcher
  | connectionType type =>
    refine .inl ?_
    show (if c.observesConnectionType = true then _ else _ : PreloadController _ _ _ _).prefetcher
      = c.prefetcher
    split
    · exact connectionTypeChanged_prefetcher type
    · rfl
  | setEnabled value =>
    refine .inl ?_
    show (if value = c.networkPredictionEnabled then c else _).prefetcher = c.prefetcher
    split
    · rfl
    · exact onPreferenceChanged_prefetcher
  | setWifiOnly value =>
    refine .inl ?_
    show (if value = c.networkPredictionWifiOnly then c else _).prefetcher = c.prefetcher
    split
    · rfl
    · exact onPreferenceChanged_prefetcher
  | didReceiveMemoryWarning => exact .inl cancelPrerender_prefetcher
  | schedulePrerenderCancel => exact .inl rfl

/-! ## Runs -/

omit [DecidableEq GURL] in
theorem synced_init (networkPredictionEnabled networkPredictionWifiOnly : Bool)
    (connectionType : ConnectionType) :
    (initWithBrowserState env networkPredictionEnabled networkPredictionWifiOnly connectionType :
      PreloadController GURL Referrer PageTransition ConnectionType).Synced env := by
  refine ⟨⟨rfl, rfl, rfl, fun _ => rfl⟩, ?_⟩
  rintro (hweb | hrequest)
  · cases hweb
  · cases hrequest

/-- The settings are obeyed in every state of a run if and only if no prefetch is in
flight when a step of it takes the permission away. -/
theorem obeyed_iff (networkPredictionEnabled networkPredictionWifiOnly : Bool)
    (connectionType : ConnectionType)
    (ops : List (Op GURL Referrer PageTransition ConnectionType))
    (hlegal : (machine env).Legal (initWithBrowserState env networkPredictionEnabled
      networkPredictionWifiOnly connectionType) ops) :
    (∀ before, before <+: ops → ((machine env).run (initWithBrowserState env
      networkPredictionEnabled networkPredictionWifiOnly connectionType) before).Obeyed env) ↔
    (machine env).Along (NoPrefetchLost env) (initWithBrowserState env
      networkPredictionEnabled networkPredictionWifiOnly connectionType) ops := by
  refine Machine.always_iff_along (M := machine env) (C := Pre) (P := Obeyed env)
    (I := fun c => c.Synced env ∧ (c.prefetcher ≠ none → c.Permitted env)) ?_ ?_ ?_
    ⟨synced_init _ _ _, fun h => absurd rfl h⟩ hlegal
  · rintro c ⟨hsynced, hprefetch⟩
    constructor
    rintro (hprerenders | hfetcher)
    · exact hsynced.prerenders hprerenders
    · exact hprefetch (Option.isSome_iff_ne_none.1 hfetcher)
  · rintro c op ⟨hsynced, hprefetch⟩ hpre hkept
    refine ⟨synced_step hsynced hpre, fun hfetcher => permitted_step op |>.2 ?_⟩
    have hstep : (step env c op).prefetcher = c.prefetcher ∨ _ := prefetcher_step op
    rcases hstep with hsame | ⟨hchange, hnone | henabled⟩
    · rw [show ((machine env).step c op).prefetcher = c.prefetcher from hsame] at hfetcher
      exact (hkept (hprefetch hfetcher)).resolve_right hfetcher
    · exact absurd hnone hfetcher
    · rw [hchange]
      exact hsynced.permitted henabled
  · rintro c op ⟨hsynced, hprefetch⟩ hpre hlost hobeyed
    simp only [NoPrefetchLost, Classical.not_imp, not_or] at hlost
    obtain ⟨hpermitted, hchange, hfetcher⟩ := hlost
    have hsame : (step env c op).prefetcher = c.prefetcher :=
      (prefetcher_step op).resolve_right fun h => hchange (h.1.symm ▸ hpermitted)
    refine hchange ((permitted_step op).1 (hobeyed.permitted (.inr ?_)))
    rw [show ((machine env).step c op).prefetcher = c.prefetcher from hsame]
    exact Option.isSome_iff_ne_none.2 hfetcher

inductive ExampleConnection
  | wifi
  | cellular
deriving DecidableEq, Repr

/-- URLs as texts on a device that may prerender. -/
def exampleEnvironment : PreloadEnvironment (List Char) ExampleConnection where
  emptyURL := []
  isValid url := url ≠ []
  schemeIsHttpOrHttps url := "http://".toList.isPrefixOf url || "https://".toList.isPrefixOf url
  query url := (url.dropWhile (· ≠ '?')).tail
  replaceQuery url query := url.takeWhile (· ≠ '?') ++ '?' :: query
  isConnectionCellular type := type = .cellular
  isPrerenderTabEvictionExperimentalGroup := false
  isSingleCoreDevice := false
  ramIsAtLeast512Mb := true

/-- With both preferences set, on Wi-Fi. -/
abbrev exampleController : PreloadController (List Char) Unit Unit ExampleConnection :=
  initWithBrowserState exampleEnvironment true true .wifi

/-- A page is prefetched, then one prerendered, before the connection turns cellular. -/
def prefetchedThenCellular : List (Op (List Char) Unit Unit ExampleConnection) :=
  [.prefetchURL "http://a/?q=b".toList, .prerenderURL "http://a/".toList () (),
    .perform .startPrerender false, .prefetchDidComplete, .connectionType .cellular]

theorem prefetchedThenCellular_obeyed :
    ((machine exampleEnvironment).run exampleController prefetchedThenCellular).Obeyed
      exampleEnvironment := by
  have hlegal : (machine exampleEnvironment).Legal exampleController prefetchedThenCellular := by
    decide +kernel
  have hkept : (machine exampleEnvironment).Along (NoPrefetchLost exampleEnvironment)
      exampleController prefetchedThenCellular := by
    decide +kernel
  have hobeyed : ∀ before, before <+: prefetchedThenCellular →
      ((machine exampleEnvironment).run exampleController before).Obeyed exampleEnvironment :=
    (obeyed_iff true true .wifi prefetchedThenCellular hlegal).2 hkept
  exact hobeyed prefetchedThenCellular (List.prefix_refl prefetchedThenCellular)

/-- A prefetch that is in flight when the connection turns cellular, or when prediction is
switched off, stays. -/
theorem prefetching_when_lost_not_obeyed :
    ((machine exampleEnvironment).Legal exampleController
        [.prefetchURL "http://a/".toList, .connectionType .cellular] ∧
      ¬((machine exampleEnvironment).run exampleController
        [.prefetchURL "http://a/".toList, .connectionType .cellular]).Obeyed
          exampleEnvironment) ∧
    (machine exampleEnvironment).Legal exampleController
        [.prefetchURL "http://a/".toList, .setEnabled false] ∧
      ¬((machine exampleEnvironment).run exampleController
        [.prefetchURL "http://a/".toList, .setEnabled false]).Obeyed exampleEnvironment := by
  refine ⟨⟨by decide +kernel, fun h => ?_⟩, by decide +kernel, fun h => ?_⟩
  · exact absurd (h.permitted (.inr (by decide +kernel))) (by decide +kernel)
  · exact absurd (h.permitted (.inr (by decide +kernel))) (by decide +kernel)

end PreloadController

end ChromiumIos
