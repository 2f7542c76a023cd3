import ChromiumIos.Ui.PreloadController

/-!
# The turns of the run loop under a `PreloadController`

The controller starts and cancels a prerender through requests that the run loop performs later:
a cancellation and an immediate start in the next turn, any other start after
`kPrerenderDelay`. Before it makes a request the controller drops the one there was.

- `DiscardedUnused`: a web state that asked for native content is gone in the next turn.
- `discardedUnused_iff`: so it is in exactly the runs in which no turn finds a delayed start
  in the place of the cancellation.
-/

namespace ChromiumIos

open Lib List

/-- A controller and the run loop that it makes its requests to. The web states are numbered as
they are created, from one; the controller holds the last one or none. -/
structure PreloadRunLoop (GURL Referrer PageTransition ConnectionType : Type) where
  controller : PreloadController GURL Referrer PageTransition ConnectionType
  /-- Whether the request waits for `kPrerenderDelay`. -/
  delayed : Bool
  turn : Nat
  webStates : Nat
  /-- The web states that asked for native content, with the turns in which they did. -/
  asked : List (Nat × Nat)
  destroyed : List Nat
  /-- What `releasePrerenderContents` returned, and in which turns. -/
  released : List (Nat × Nat)

namespace PreloadRunLoop

open PreloadController

variable {GURL Referrer PageTransition ConnectionType : Type} [DecidableEq GURL]
  (env : PreloadEnvironment GURL ConnectionType)

inductive Op (GURL Referrer PageTransition ConnectionType : Type)
  | prerenderURL (url : GURL) (referrer : Referrer) (transition : PageTransition)
      (immediately : Bool)
  /-- Either method of the native content provider. -/
  | controllerForURL
  | discardPrerender
  | releasePrerenderContents
  /-- A call that makes no request. -/
  | other (op : PreloadController.Op GURL Referrer PageTransition ConnectionType)
  /-- The next turn begins with the request that is due; whether the delay has elapsed. -/
  | nextTurn (delayElapsed shouldUseDesktopUserAgent : Bool)

section Definitions

variable (s : PreloadRunLoop GURL Referrer PageTransition ConnectionType)

/-- The methods that make no request and release nothing. -/
def MakesNoRequest : PreloadController.Op GURL Referrer PageTransition ConnectionType → Bool
  | .prerenderURL .. | .releasePrerenderContents | .perform .. | .schedulePrerenderCancel => false
  | .prefetchURL _ | .cancelPrerender | .cancelPrefetch | .prefetchDidComplete
  | .connectionType _ | .setEnabled _ | .setWifiOnly _ | .didReceiveMemoryWarning => true

omit [DecidableEq GURL] in
def init (networkPredictionEnabled networkPredictionWifiOnly : Bool)
    (connectionType : ConnectionType) :
    PreloadRunLoop GURL Referrer PageTransition ConnectionType where
  controller := initWithBrowserState env networkPredictionEnabled networkPredictionWifiOnly
    connectionType
  delayed := false
  turn := 0
  webStates := 0
  asked := []
  destroyed := []
  released := []

def holds : Bool := s.controller.webState.isSome

/-- The web state that is held has asked for native content. -/
def HoldsAsked : Prop := s.holds = true ∧ s.webStates ∈ s.asked.map Prod.fst

instance : Decidable s.HoldsAsked := instDecidableAnd

/-- Whether `prerenderURL` gets as far as to make a request. -/
def accepts (url : GURL) : Bool :=
  s.controller.isPrerenderingEnabled env && shouldPreloadURL env url &&
    !(url = s.controller.scheduledURL ||
      (s.controller.scheduledURL = env.emptyURL && url = s.controller.prerenderedURL))

/-- The run loop performs a request; either way the web state that was held is destroyed. -/
def perform (selector : PreloadSelector) (shouldUseDesktopUserAgent : Bool) :
    PreloadRunLoop GURL Referrer PageTransition ConnectionType :=
  let controller :=
    PreloadController.step env s.controller (.perform selector shouldUseDesktopUserAgent)
  { s with
    controller
    destroyed := if s.holds then s.webStates :: s.destroyed else s.destroyed
    webStates := if controller.webState.isSome then s.webStates + 1 else s.webStates }

def nextTurn (delayElapsed shouldUseDesktopUserAgent : Bool) :
    PreloadRunLoop GURL Referrer PageTransition ConnectionType :=
  let s := { s with turn := s.turn + 1 }
  if s.delayed && !delayElapsed then s
  else
    match s.controller.performRequests with
    | [] => s
    | selector :: _ => s.perform env selector shouldUseDesktopUserAgent

def Pre (s : PreloadRunLoop GURL Referrer PageTransition ConnectionType) :
    Op GURL Referrer PageTransition ConnectionType → Prop
  | .controllerForURL => s.holds = true
  | .other op => MakesNoRequest op = true ∧ s.controller.Pre op
  | _ => True

instance (s : PreloadRunLoop GURL Referrer PageTransition ConnectionType) :
    ∀ op, Decidable (Pre s op)
  | .controllerForURL => decEq _ _
  | .other _ => instDecidableAnd
  | .prerenderURL .. | .discardPrerender | .releasePrerenderContents | .nextTurn .. =>
    instDecidableTrue

def step (s : PreloadRunLoop GURL Referrer PageTransition ConnectionType) :
    Op GURL Referrer PageTransition ConnectionType →
      PreloadRunLoop GURL Referrer PageTransition ConnectionType
  | .prerenderURL url referrer transition immediately =>
    { s with
      controller := s.controller.prerenderURL env url referrer transition
      delayed := if s.accepts env url then !immediately else s.delayed }
  | .controllerForURL =>
    { s with
      controller := s.controller.schedulePrerenderCancel env
      delayed := false
      asked := (s.webStates, s.turn) :: s.asked }
  | .discardPrerender =>
    { s with controller := s.controller.schedulePrerenderCancel env, delayed := false }
  | .releasePrerenderContents =>
    { s with
      controller := s.controller.releasePrerenderContents env
      released := if s.holds then (s.webStates, s.turn) :: s.released else s.released }
  | .other op =>
    let controller := PreloadController.step env s.controller op
    { s with
      controller
      destroyed :=
        if s.holds && !controller.webState.isSome then s.webStates :: s.destroyed
        else s.destroyed }
  | .nextTurn delayElapsed shouldUseDesktopUserAgent =>
    s.nextTurn env delayElapsed shouldUseDesktopUserAgent

def machine : Machine (PreloadRunLoop GURL Referrer PageTransition ConnectionType)
    (Op GURL Referrer PageTransition ConnectionType) := ⟨Pre, step env⟩

/-- A web state that asked for native content is destroyed once the next turn has begun, unless
it was released in the turn in which it asked; it is not released in a later one. -/
structure DiscardedUnused (s : PreloadRunLoop GURL Referrer PageTransition ConnectionType) :
    Prop where
  destroyed : ∀ webState turn, (webState, turn) ∈ s.asked → turn < s.turn →
    webState ∈ s.destroyed ∨ (webState, turn) ∈ s.released
  notReleased : ∀ webState turn releaseTurn, (webState, turn) ∈ s.asked →
    (webState, releaseTurn) ∈ s.released → releaseTurn ≤ turn

/-- No turn begins with a start that still waits, while the web state that is held has asked
for native content. -/
def CancelDue (s : PreloadRunLoop GURL Referrer PageTransition ConnectionType) :
    Op GURL Referrer PageTransition ConnectionType → Prop
  | .nextTurn delayElapsed _ => s.HoldsAsked → s.delayed = true → delayElapsed = true
  | _ => True

instance (s : PreloadRunLoop GURL Referrer PageTransition ConnectionType) :
    ∀ op, Decidable (CancelDue s op)
  | .nextTurn _ _ => instDecidableForall
  | .prerenderURL .. | .controllerForURL | .discardPrerender | .releasePrerenderContents
  | .other _ => instDecidableTrue

end Definitions

/-! ## What the methods do to the web state and to the request -/

variable {env} {c : PreloadController GURL Referrer PageTransition ConnectionType}

/-- The web state is kept with the request, or destroyed. -/
def KeptOrDestroyed (c c' : PreloadController GURL Referrer PageTransition ConnectionType) :
    Prop :=
  (c'.webState = c.webState ∧ c'.performRequests = c.performRequests) ∨ c'.webState = none

omit [DecidableEq GURL] in
theorem keptOrDestroyed_cancelPrerender
    (c' : PreloadController GURL Referrer PageTransition ConnectionType) :
    KeptOrDestroyed c (c'.cancelPrerender env) :=
  .inr destroyPreviewContents_webState

omit [DecidableEq GURL] in
theorem keptOrDestroyed_onPreferenceChanged :
    KeptOrDestroyed c (c.onPreferenceChanged env) := by
  unfold onPreferenceChanged
  dsimp only
  split
  · split <;> split
    · exact keptOrDestroyed_cancelPrerender _
    · exact .inl ⟨rfl, rfl⟩
    · exact keptOrDestroyed_cancelPrerender _
    · exact .inl ⟨rfl, rfl⟩
  · split
    · exact .inl ⟨rfl, rfl⟩
    · exact .inr destroyPreviewContents_webState

theorem keptOrDestroyed_step
    {op : PreloadController.Op GURL Referrer PageTransition ConnectionType}
    (h : MakesNoRequest op = true) :
    KeptOrDestroyed c (PreloadController.step env c op) := by
  cases op with
  | prerenderURL url referrer transition => cases h
  | releasePrerenderContents => cases h
  | perform selector agent => cases h
  | schedulePrerenderCancel => cases h
  | prefetchURL url =>
    show KeptOrDestroyed c (c.prefetchURL env url)
    unfold prefetchURL
    split
    · exact .inl ⟨rfl, rfl⟩
    · split
      · exact .inl ⟨rfl, rfl⟩
      · dsimp only
        split <;> exact .inl ⟨rfl, rfl⟩
  | cancelPrerender => exact keptOrDestroyed_cancelPrerender c
  | cancelPrefetch => exact .inl ⟨rfl, rfl⟩
  | prefetchDidComplete => exact .inl ⟨rfl, rfl⟩
  | connectionType type =>
    show KeptOrDestroyed c (if c.observesConnectionType = true then _ else _)
    split
    · unfold connectionTypeChanged
      dsimp only
      split
      · exact keptOrDestroyed_cancelPrerender _
      · exact .inl ⟨rfl, rfl⟩
    · exact .inl ⟨rfl, rfl⟩
  | setEnabled value =>
    show KeptOrDestroyed c (if value = c.networkPredictionEnabled then c else _)
    split
    · exact .inl ⟨rfl, rfl⟩
    · exact keptOrDestroyed_onPreferenceChanged
  | setWifiOnly value =>
    show KeptOrDestroyed c (if value = c.networkPredictionWifiOnly then c else _)
    split
    · exact .inl ⟨rfl, rfl⟩
    · exact keptOrDestroyed_onPreferenceChanged
  | didReceiveMemoryWarning => exact keptOrDestroyed_cancelPrerender c

variable (env c) in
/-- A request for a URL leaves the web state alone, and takes the place of any other request. -/
theorem prerenderURL_spec (url : GURL) (referrer : Referrer) (transition : PageTransition) :
    (c.prerenderURL env url referrer transition).webState = c.webState ∧
      ((c.prerenderURL env url referrer transition).performRequests = c.performRequests ∨
        (c.prerenderURL env url referrer transition).performRequests = [.startPrerender]) := by
  unfold prerenderURL
  split
  · exact ⟨rfl, .inl rfl⟩
  · split
    · exact ⟨rfl, .inl rfl⟩
    · exact ⟨rfl, .inr rfl⟩

/-! ## Steps -/

/-- What is known of a web state that asked for native content: it is held, in the turn in which
it asked and with a request to come, or it is gone. -/
structure Tracked (s : PreloadRunLoop GURL Referrer PageTransition ConnectionType) : Prop where
  asked_le : ∀ webState turn, (webState, turn) ∈ s.asked →
    webState ≤ s.webStates ∧ turn ≤ s.turn
  destroyed_le : ∀ webState ∈ s.destroyed,
    webState ≤ s.webStates ∧ (webState = s.webStates → s.holds = false)
  released_le : ∀ webState turn, (webState, turn) ∈ s.released →
    webState ≤ s.webStates ∧ (webState = s.webStates → s.holds = false)
  requested : s.HoldsAsked → s.controller.performRequests ≠ []
  current : s.holds = true → ∀ turn, (s.webStates, turn) ∈ s.asked → turn = s.turn
  gone : ∀ webState turn, (webState, turn) ∈ s.asked →
    (s.holds = true ∧ webState = s.webStates) ∨
      webState ∈ s.destroyed ∨ (webState, turn) ∈ s.released
  notReleased : ∀ webState turn releaseTurn, (webState, turn) ∈ s.asked →
    (webState, releaseTurn) ∈ s.released → releaseTurn ≤ turn

variable {s : PreloadRunLoop GURL Referrer PageTransition ConnectionType}

section

omit [DecidableEq GURL]

theorem tracked_init (networkPredictionEnabled networkPredictionWifiOnly : Bool)
    (connectionType : ConnectionType) :
    (init env networkPredictionEnabled networkPredictionWifiOnly connectionType :
      PreloadRunLoop GURL Referrer PageTransition ConnectionType).Tracked := by
  constructor
  · intro webState turn h
    cases h
  · intro webState h
    cases h
  · intro webState turn h
    cases h
  · rintro ⟨hholds, -⟩
    cases hholds
  · intro hholds
    cases hholds
  · intro webState turn h
    cases h
  · intro webState turn releaseTurn h
    cases h

theorem HoldsAsked.exists_turn (h : s.HoldsAsked) : ∃ turn, (s.webStates, turn) ∈ s.asked := by
  obtain ⟨⟨webState, turn⟩, hasked, heq⟩ := mem_map.1 h.2
  obtain rfl : webState = s.webStates := heq
  exact ⟨turn, hasked⟩

theorem holdsAsked_of_mem (hholds : s.holds = true) {turn : Nat}
    (hasked : (s.webStates, turn) ∈ s.asked) : s.HoldsAsked :=
  ⟨hholds, mem_map_of_mem (f := Prod.fst) hasked⟩

theorem Tracked.discardedUnused (h : s.Tracked) : s.DiscardedUnused where
  destroyed webState turn hasked hturn := by
    refine (h.gone webState turn hasked).resolve_left ?_
    rintro ⟨hholds, rfl⟩
    exact absurd (h.current hholds turn hasked) (Nat.ne_of_lt hturn)
  notReleased := h.notReleased

/-- The web state is kept, and a request takes the place of a request. -/
theorem Tracked.kept (h : s.Tracked)
    {controller : PreloadController GURL Referrer PageTransition ConnectionType}
    (hweb : controller.webState = s.controller.webState)
    (hrequests : s.controller.performRequests ≠ [] → controller.performRequests ≠ [])
    (delayed : Bool) : Tracked { s with controller, delayed } := by
  have hholds : ({ s with controller, delayed } : PreloadRunLoop _ _ _ _).holds = s.holds :=
    congrArg Option.isSome hweb
  constructor
  · exact h.asked_le
  · rw [hholds]
    exact h.destroyed_le
  · rw [hholds]
    exact h.released_le
  · rintro ⟨hheld, hasked⟩
    exact hrequests (h.requested ⟨hholds.symm.trans hheld, hasked⟩)
  · rw [hholds]
    exact h.current
  · rw [hholds]
    exact h.gone
  · exact h.notReleased

/-- The web state is destroyed, and there may be a new one. -/
theorem Tracked.replaced (h : s.Tracked)
    (controller : PreloadController GURL Referrer PageTransition ConnectionType) {turn : Nat}
    (hturn : s.turn ≤ turn) :
    Tracked { s with
      controller
      turn
      destroyed := if s.holds then s.webStates :: s.destroyed else s.destroyed
      webStates := if controller.webState.isSome then s.webStates + 1 else s.webStates } := by
  have hle : s.webStates ≤ if controller.webState.isSome then s.webStates + 1
      else s.webStates := by
    split <;> omega
  -- A web state with an earlier number is not the one that is held now.
  have hnot : ∀ webState, webState ≤ s.webStates →
      (webState = if controller.webState.isSome then s.webStates + 1 else s.webStates) →
        controller.webState.isSome = false := by
    intro webState hearlier heq
    by_contra hnew
    rw [if_pos (Bool.not_eq_false _ ▸ hnew)] at heq
    omega
  constructor
  · intro webState askedTurn hasked
    obtain ⟨hearlier, hbefore⟩ := h.asked_le webState askedTurn hasked
    exact ⟨Nat.le_trans hearlier hle, Nat.le_trans hbefore hturn⟩
  · intro webState hdestroyed
    have hearlier : webState ≤ s.webStates := by
      change webState ∈ (if s.holds then s.webStates :: s.destroyed else s.destroyed) at hdestroyed
      split at hdestroyed
      · rcases mem_cons.1 hdestroyed with rfl | hdestroyed
        · exact Nat.le_refl _
        · exact (h.destroyed_le webState hdestroyed).1
      · exact (h.destroyed_le webState hdestroyed).1
    exact ⟨Nat.le_trans hearlier hle, hnot webState hearlier⟩
  · intro webState releaseTurn hreleased
    have hearlier := (h.released_le webState releaseTurn hreleased).1
    exact ⟨Nat.le_trans hearlier hle, hnot webState hearlier⟩
  · rintro hheldAsked
    obtain ⟨askedTurn, hasked⟩ := hheldAsked.exists_turn
    have hnone := hnot _ (h.asked_le _ askedTurn hasked).1 rfl
    exact absurd hheldAsked.1 (Bool.eq_false_iff.1 hnone)
  · intro hheld askedTurn hasked
    have hnone := hnot _ (h.asked_le _ askedTurn hasked).1 rfl
    exact absurd hheld (Bool.eq_false_iff.1 hnone)
  · intro webState askedTurn hasked
    refine .inr ?_
    rcases h.gone webState askedTurn hasked with ⟨hholds, rfl⟩ | hdestroyed | hreleased
    · refine .inl ?_
      show s.webStates ∈ (if s.holds then s.webStates :: s.destroyed else s.destroyed)
      rw [if_pos hholds]
      exact mem_cons_self
    · refine .inl ?_
      show webState ∈ (if s.holds then s.webStates :: s.destroyed else s.destroyed)
      split
      · exact mem_cons_of_mem _ hdestroyed
      · exact hdestroyed
    · exact .inr hreleased
  · exact h.notReleased

theorem Tracked.controllerForURL (h : s.Tracked) (hholds : s.holds = true) :
    Tracked { s with
      controller := s.controller.schedulePrerenderCancel env
      delayed := false
      asked := (s.webStates, s.turn) :: s.asked } := by
  constructor
  · intro webState turn hasked
    rcases mem_cons.1 hasked with heq | hasked
    · obtain ⟨rfl, rfl⟩ := Prod.mk.inj heq
      exact ⟨Nat.le_refl _, Nat.le_refl _⟩
    · exact h.asked_le webState turn hasked
  · exact h.destroyed_le
  · exact h.released_le
  · rintro -
    exact cons_ne_nil _ _
  · intro hheld turn hasked
    rcases mem_cons.1 hasked with heq | hasked
    · exact (Prod.mk.inj heq).2
    · exact h.current hheld turn hasked
  · intro webState turn hasked
    rcases mem_cons.1 hasked with heq | hasked
    · obtain ⟨rfl, rfl⟩ := Prod.mk.inj heq
      exact .inl ⟨hholds, rfl⟩
    · exact h.gone webState turn hasked
  · intro webState turn releaseTurn hasked hreleased
    rcases mem_cons.1 hasked with heq | hasked
    · obtain ⟨rfl, rfl⟩ := Prod.mk.inj heq
      have hnone := (h.released_le _ releaseTurn hreleased).2 rfl
      exact absurd hholds (Bool.eq_false_iff.1 hnone)
    · exact h.notReleased webState turn releaseTurn hasked hreleased

theorem Tracked.release (h : s.Tracked) :
    Tracked { s with
      controller := s.controller.releasePrerenderContents env
      released := if s.holds then (s.webStates, s.turn) :: s.released else s.released } := by
  have hcases : ∀ webState releaseTurn, (webState, releaseTurn) ∈
      (if s.holds then (s.webStates, s.turn) :: s.released else s.released) →
        (s.holds = true ∧ webState = s.webStates ∧ releaseTurn = s.turn) ∨
          (webState, releaseTurn) ∈ s.released := by
    intro webState releaseTurn hreleased
    split at hreleased
    · next hholds =>
      rcases mem_cons.1 hreleased with heq | hreleased
      · exact .inl ⟨hholds, Prod.mk.inj heq⟩
      · exact .inr hreleased
    · exact .inr hreleased
  constructor
  · exact h.asked_le
  · intro webState hdestroyed
    exact ⟨(h.destroyed_le webState hdestroyed).1, fun _ => rfl⟩
  · intro webState releaseTurn hreleased
    rcases hcases webState releaseTurn hreleased with ⟨-, rfl, -⟩ | hreleased
    · exact ⟨Nat.le_refl _, fun _ => rfl⟩
    · exact ⟨(h.released_le webState releaseTurn hreleased).1, fun _ => rfl⟩
  · rintro ⟨hheld, -⟩
    cases hheld
  · intro hheld
    cases hheld
  · intro webState turn hasked
    rcases h.gone webState turn hasked with ⟨hholds, rfl⟩ | hdestroyed | hreleased
    · -- It asked in the turn in which it is released.
      obtain rfl := h.current hholds turn hasked
      refine .inr (.inr ?_)
      show (s.webStates, s.turn) ∈
        (if s.holds then (s.webStates, s.turn) :: s.released else s.released)
      rw [if_pos hholds]
      exact mem_cons_self
    · exact .inr (.inl hdestroyed)
    · refine .inr (.inr ?_)
      show (webState, turn) ∈
        (if s.holds then (s.webStates, s.turn) :: s.released else s.released)
      split
      · exact mem_cons_of_mem _ hreleased
      · exact hreleased
  · intro webState turn releaseTurn hasked hreleased
    rcases hcases webState releaseTurn hreleased with ⟨hholds, rfl, rfl⟩ | hreleased
    · exact Nat.le_of_eq (h.current hholds turn hasked).symm
    · exact h.notReleased webState turn releaseTurn hasked hreleased

/-- A turn in which no request is performed. -/
theorem Tracked.waited (h : s.Tracked) (hnot : ¬s.HoldsAsked) :
    Tracked { s with turn := s.turn + 1 } where
  asked_le webState turn hasked := by
    obtain ⟨hle, hturn⟩ := h.asked_le webState turn hasked
    exact ⟨hle, Nat.le_succ_of_le hturn⟩
  destroyed_le := h.destroyed_le
  released_le := h.released_le
  requested := h.requested
  current hholds turn hasked := absurd (holdsAsked_of_mem hholds hasked) hnot
  gone := h.gone
  notReleased := h.notReleased

end

theorem Tracked.nextTurn (h : s.Tracked) (delayElapsed agent : Bool)
    (hdue : s.HoldsAsked → s.delayed = true → delayElapsed = true) :
    (s.nextTurn env delayElapsed agent).Tracked := by
  unfold PreloadRunLoop.nextTurn
  dsimp only
  split
  · next hwaits =>
    obtain ⟨hdelayed, helapsed⟩ := Bool.and_eq_true_iff.1 hwaits
    refine h.waited fun hasked => ?_
    rw [hdue hasked hdelayed] at helapsed
    cases helapsed
  · split
    · next hnone => exact h.waited fun hasked => h.requested hasked hnone
    · exact h.replaced _ (Nat.le_succ _)

theorem tracked_step (h : s.Tracked) {op : Op GURL Referrer PageTransition ConnectionType}
    (hpre : Pre s op) (hdue : CancelDue s op) : (step env s op).Tracked := by
  cases op with
  | prerenderURL url referrer transition immediately =>
    have hspec := prerenderURL_spec env s.controller url referrer transition
    refine h.kept hspec.1 (fun hsome => ?_) _
    rcases hspec.2 with hsame | hstart
    · rwa [hsame]
    · rw [hstart]
      exact cons_ne_nil _ _
  | controllerForURL => exact h.controllerForURL hpre
  | discardPrerender =>
    show Tracked { s with
      controller := s.controller.schedulePrerenderCancel env, delayed := false }
    refine h.kept ?_ ?_ false
    · rfl
    · exact fun _ => cons_ne_nil _ _
  | releasePrerenderContents => exact h.release
  | other op =>
    have hspec : KeptOrDestroyed s.controller (PreloadController.step env s.controller op) :=
      keptOrDestroyed_step hpre.1
    show Tracked { s with
      controller := PreloadController.step env s.controller op
      destroyed := if s.holds && !(PreloadController.step env s.controller op).webState.isSome
        then s.webStates :: s.destroyed else s.destroyed }
    rcases hspec with ⟨hweb, hrequests⟩ | hnone
    · have hkept : (s.holds &&
          !(PreloadController.step env s.controller op).webState.isSome) = false := by
        rw [hweb, holds, Bool.and_not_self]
      rw [hkept]
      exact h.kept hweb (fun hsome => hrequests ▸ hsome) s.delayed
    · have hreplaced := h.replaced (PreloadController.step env s.controller op) (Nat.le_refl s.turn)
      rw [hnone] at hreplaced ⊢
      simpa using hreplaced
  | nextTurn delayElapsed agent => exact h.nextTurn delayElapsed agent hdue

/-- A turn that begins with a start that waits leaves the web state where it is. -/
theorem not_discardedUnused (h : s.Tracked)
    {op : Op GURL Referrer PageTransition ConnectionType} (hdue : ¬CancelDue s op) :
    ¬(step env s op).DiscardedUnused := by
  cases op with
  | nextTurn delayElapsed agent =>
    simp only [CancelDue, Classical.not_imp, Bool.not_eq_true] at hdue
    obtain ⟨hasked, hdelayed, helapsed⟩ := hdue
    have hstep : step env s (.nextTurn delayElapsed agent) = { s with turn := s.turn + 1 } := by
      show s.nextTurn env delayElapsed agent = _
      rw [PreloadRunLoop.nextTurn, if_pos]
      rw [hdelayed, helapsed]
      rfl
    rw [hstep]
    intro hunused
    obtain ⟨turn, hturn⟩ := hasked.exists_turn
    have hlt : turn < s.turn + 1 := Nat.lt_succ_of_le (h.asked_le _ turn hturn).2
    rcases hunused.destroyed _ turn hturn hlt with hdestroyed | hreleased
    · have hnone := (h.destroyed_le _ hdestroyed).2 rfl
      exact absurd hasked.1 (Bool.eq_false_iff.1 hnone)
    · have hnone := (h.released_le _ turn hreleased).2 rfl
      exact absurd hasked.1 (Bool.eq_false_iff.1 hnone)
  | prerenderURL url referrer transition immediately => exact absurd trivial hdue
  | controllerForURL => exact absurd trivial hdue
  | discardPrerender => exact absurd trivial hdue
  | releasePrerenderContents => exact absurd trivial hdue
  | other op => exact absurd trivial hdue

/-! ## Runs -/

/-- A web state that asked for native content is gone in the next turn, in every state of a run,
if and only if no turn of the run begins with a delayed start in the place of its
cancellation. -/
theorem discardedUnused_iff (networkPredictionEnabled networkPredictionWifiOnly : Bool)
    (connectionType : ConnectionType)
    (ops : List (Op GURL Referrer PageTransition ConnectionType))
    (hlegal : (machine env).Legal (init env networkPredictionEnabled networkPredictionWifiOnly
      connectionType) ops) :
    (∀ before, before <+: ops → ((machine env).run (init env networkPredictionEnabled
      networkPredictionWifiOnly connectionType) before).DiscardedUnused) ↔
    (machine env).Along CancelDue (init env networkPredictionEnabled networkPredictionWifiOnly
      connectionType) ops :=
  Machine.always_iff_along (M := machine env) (C := Pre) (I := Tracked)
    (fun _ h => h.discardedUnused) (fun _ _ h hpre hdue => tracked_step h hpre hdue)
    (fun _ _ h _ hdue => not_discardedUnused h hdue) (tracked_init _ _ _) hlegal

/-- The page is started again in the turn in which it asks for native content. -/
def restartedImmediately : List (Op (List Char) Unit Unit ExampleConnection) :=
  [.prerenderURL "http://a/".toList () () true, .nextTurn false false, .controllerForURL,
    .prerenderURL "http://b/".toList () () true, .nextTurn false false,
    .releasePrerenderContents]

theorem restartedImmediately_discardedUnused :
    ((machine exampleEnvironment).run (init exampleEnvironment true true .wifi)
      restartedImmediately).DiscardedUnused := by
  have hlegal : (machine exampleEnvironment).Legal (init exampleEnvironment true true .wifi)
      restartedImmediately := by
    show (machine exampleEnvironment).Along Pre (init exampleEnvironment true true .wifi) _
    decide +kernel
  have hdue : (machine exampleEnvironment).Along CancelDue
      (init exampleEnvironment true true .wifi) restartedImmediately := by
    decide +kernel
  have hunused : ∀ before, before <+: restartedImmediately →
      ((machine exampleEnvironment).run (init exampleEnvironment true true .wifi)
        before).DiscardedUnused :=
    (discardedUnused_iff true true .wifi restartedImmediately hlegal).2 hdue
  exact hunused restartedImmediately (prefix_refl restartedImmediately)

/-- A delayed start is requested after the page asked for native content. -/
def startedWithDelay : List (Op (List Char) Unit Unit ExampleConnection) :=
  [.prerenderURL "http://a/".toList () () true, .nextTurn false false, .controllerForURL,
    .prerenderURL "http://b/".toList () () false, .nextTurn false false,
    .releasePrerenderContents]

/-- The web state that asked in the first turn is returned in the second. -/
theorem startedWithDelay_not_discardedUnused :
    (machine exampleEnvironment).Legal (init exampleEnvironment true true .wifi)
        startedWithDelay ∧
      ((machine exampleEnvironment).run (init exampleEnvironment true true .wifi)
        startedWithDelay).released = [(1, 2)] ∧
      ¬((machine exampleEnvironment).run (init exampleEnvironment true true .wifi)
        startedWithDelay).DiscardedUnused := by
  refine ⟨?_, by decide +kernel, fun hunused => ?_⟩
  · show (machine exampleEnvironment).Along Pre (init exampleEnvironment true true .wifi)
      startedWithDelay
    decide +kernel
  · have hlate : 2 ≤ 1 := hunused.notReleased 1 1 2 (by decide +kernel) (by decide +kernel)
    exact absurd hlate (by decide)

end PreloadRunLoop

end ChromiumIos
