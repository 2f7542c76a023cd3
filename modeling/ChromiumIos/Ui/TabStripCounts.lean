import ChromiumIos.Ui.TabStripController

/-!
# The views of the tab strip are counted

Whatever the order of the views in `TabStripController` is, there are as many that are not closing
as the model has tabs. A move behind a closing view does not change this.

- `CountsTo`: the views of a strip for a number of tabs.
- `CountsTo.tell`: a notification keeps the count.
- `counted_run`: so does every run of the browser.
-/

namespace ChromiumIos

open Lib WebStateList List

namespace TabStripController

variable {W : Type}

/-- The views have identities of their own, the closing ones are among them, and the others are of
this number. -/
structure CountsTo (s : TabStripController W) (n : Nat) : Prop where
  ids : (s.tabArray.map TabView.id).Nodup
  allocated : ∀ view ∈ s.tabArray, view.id < s.nextView
  closing : ∀ view ∈ s.closingTabs, view ∈ s.tabArray.map TabView.id
  count : (s.tabArray.filter s.shows).length = n

/-- The strip has a view for each tab of the model. -/
structure Counted (b : Browser W) : Prop where
  nodup : b.model.webStates.Nodup
  views : b.strip.CountsTo b.model.webStates.length

section Notifications

variable {s : TabStripController W} {n : Nat}

/-- The view at an index of the model. -/
theorem CountsTo.exists_view (h : s.CountsTo n) {modelIndex : Nat} (hlt : modelIndex < n) :
    ∃ view, s.tabArray[s.indexForModelIndex modelIndex]? = some view ∧
      (s.tabArray.filter s.shows)[modelIndex]? = some view := by
  have hlt' : modelIndex < (s.tabArray.filter s.shows).length := h.count.symm ▸ hlt
  refine ⟨_, ?_, getElem?_eq_getElem hlt'⟩
  rw [indexForModelIndex_eq, getElem?_visibleIdx, getElem?_eq_getElem hlt']

theorem CountsTo.didInsertTab (h : s.CountsTo n) {modelIndex : Nat} (hle : modelIndex ≤ n)
    (tab : W) (fg : Bool) : (s.didInsertTab tab modelIndex fg).CountsTo (n + 1) := by
  have hlength : modelIndex ≤ (s.tabArray.filter s.shows).length := h.count.symm ▸ hle
  have hplace : s.indexForModelIndex modelIndex ≤ s.tabArray.length := by
    rw [indexForModelIndex_eq]
    exact visibleIdx_le hlength
  have hperm := perm_insertIdx (⟨s.nextView, tab, fg⟩ : TabView W) s.tabArray hplace
  have hfresh : s.nextView ∉ s.tabArray.map TabView.id := by
    intro hid
    obtain ⟨view, hview, heq⟩ := mem_map.1 hid
    exact absurd (h.allocated view hview) (heq ▸ Nat.lt_irrefl _)
  constructor
  · exact (hperm.map TabView.id).nodup_iff.2 (nodup_cons.2 ⟨hfresh, h.ids⟩)
  · intro view hview
    rcases mem_cons.1 (hperm.mem_iff.1 hview) with rfl | hold
    · exact Nat.lt_succ_self _
    · exact Nat.lt_succ_of_lt (h.allocated view hold)
  · exact fun view hview =>
      (hperm.map TabView.id).mem_iff.2 (mem_cons_of_mem _ (h.closing view hview))
  · have hshows : s.shows ⟨s.nextView, tab, fg⟩ = true :=
      shown_iff.2 fun hclosing => hfresh (h.closing _ hclosing)
    show ((s.tabArray.insertIdx _ _).filter s.shows).length = n + 1
    rw [(hperm.filter s.shows).length_eq, filter_cons_of_pos hshows, length_cons, h.count]

theorem CountsTo.didRemoveTab (h : s.CountsTo n) {modelIndex : Nat} (hlt : modelIndex < n) :
    (s.didRemoveTab modelIndex).CountsTo (n - 1) := by
  obtain ⟨view, hview, hfilter⟩ := h.exists_view hlt
  have hremove : s.didRemoveTab modelIndex =
      { s with closingTabs := view.id :: s.closingTabs } := by
    rw [TabStripController.didRemoveTab, hview]
  have hids : ((s.tabArray.filter s.shows).map TabView.id).Nodup :=
    h.ids.sublist (filter_sublist.map _)
  rw [hremove]
  refine ⟨h.ids, h.allocated, fun other hother => ?_, ?_⟩
  · rcases mem_cons.1 hother with rfl | hold
    · exact mem_map_of_mem (mem_of_getElem? hview)
    · exact h.closing other hold
  · have hshows : ∀ other : TabView W,
        ({ s with closingTabs := view.id :: s.closingTabs } : TabStripController W).shows other =
          (other.id ≠ view.id && s.shows other) := by
      intro other
      rw [Bool.eq_iff_iff, shown_iff, Bool.and_eq_true, shown_iff, mem_cons, not_or]
      exact and_congr_left fun _ => decide_eq_true_iff.symm
    show (s.tabArray.filter _).length = n - 1
    rw [funext hshows, ← filter_filter, filter_key_ne hids hfilter, length_eraseIdx,
      h.count, if_pos hlt]

/-- The place that the view moves to does not matter. -/
theorem CountsTo.didMoveTab (h : s.CountsTo n) {fromIndex toIndex : Nat} (hfrom : fromIndex < n)
    (hto : toIndex < n) : (s.didMoveTab fromIndex toIndex).CountsTo n := by
  obtain ⟨view, hview, hfilter⟩ := h.exists_view hfrom
  have hmoved : s.didMoveTab fromIndex toIndex =
      { s with tabArray := moveIdx s.tabArray (s.indexForModelIndex fromIndex) toIndex } := by
    rw [TabStripController.didMoveTab, moveIdx, hview]
    dsimp only
    rw [filter_key_ne h.ids hview]
  have hle : n ≤ s.tabArray.length := h.count ▸ length_filter_le _ _
  have hperm := moveIdx_perm s.tabArray (f := s.indexForModelIndex fromIndex)
    (Nat.lt_of_lt_of_le hto hle)
  rw [hmoved]
  exact ⟨(hperm.map TabView.id).nodup_iff.2 h.ids,
    fun other hother => h.allocated other (hperm.mem_iff.1 hother),
    fun other hother => (hperm.map TabView.id).mem_iff.2 (h.closing other hother),
    (hperm.filter s.shows).length_eq.trans h.count⟩

theorem map_id_filter_map (s : TabStripController W) {f : TabView W → TabView W}
    (hf : ∀ view, (f view).id = view.id) :
    ((s.tabArray.map f).filter s.shows).map TabView.id =
      (s.tabArray.filter s.shows).map TabView.id := by
  have hshows : ∀ view, s.shows (f view) = s.shows view := fun view => by
    rw [Bool.eq_iff_iff, shown_iff, shown_iff, hf]
  rw [filter_map, map_map, show TabView.id ∘ f = TabView.id from funext hf,
    show s.shows ∘ f = s.shows from funext hshows]

/-- Views that change in place. -/
theorem CountsTo.map (h : s.CountsTo n) {f : TabView W → TabView W}
    (hf : ∀ view, (f view).id = view.id) :
    ({ s with tabArray := s.tabArray.map f } : TabStripController W).CountsTo n := by
  have hids : (s.tabArray.map f).map TabView.id = s.tabArray.map TabView.id := by
    rw [map_map, show TabView.id ∘ f = TabView.id from funext hf]
  refine ⟨hids ▸ h.ids, fun view hview => ?_, hids ▸ h.closing, ?_⟩
  · obtain ⟨old, hold, rfl⟩ := mem_map.1 hview
    exact hf old ▸ h.allocated old hold
  · have hlength := congrArg List.length (map_id_filter_map s hf)
    rw [length_map, length_map] at hlength
    exact hlength.trans h.count

/-- The views are selected and deselected in place. -/
theorem didChangeActiveTab_eq (s : TabStripController W) (modelIndex : Nat) :
    ∃ f : TabView W → TabView W, (∀ view, (f view).id = view.id) ∧
      s.didChangeActiveTab modelIndex = { s with tabArray := s.tabArray.map f } := by
  rw [TabStripController.didChangeActiveTab]
  dsimp only
  split
  · exact ⟨fun tab => { tab with selected := false }, fun _ => rfl, rfl⟩
  · next activeView _ =>
    refine ⟨fun tab => if tab.id = activeView.id then { tab with selected := true }
      else { tab with selected := false }, fun tab => ?_, ?_⟩
    · dsimp only
      split <;> rfl
    · rw [map_map]
      rfl

theorem CountsTo.didChangeTab [DecidableEq W] (h : s.CountsTo n) (tabs : List W) (tab : W) :
    (s.didChangeTab tabs tab).CountsTo n := by
  rw [TabStripController.didChangeTab]
  split
  · split
    · exact h
    · refine h.map fun view => ?_
      split <;> rfl
  · exact h

/-- An animation that completes removes no view that is shown. -/
theorem filter_closingAnimationCompleted {view : Nat} (hclosing : view ∈ s.closingTabs) :
    (s.closingAnimationCompleted view).tabArray.filter (s.closingAnimationCompleted view).shows =
      s.tabArray.filter s.shows := by
  show (s.tabArray.filter _).filter _ = _
  rw [filter_filter]
  refine filter_congr fun other _ => ?_
  rw [Bool.eq_iff_iff, Bool.and_eq_true, shown_iff, shown_iff, decide_eq_true_eq]
  rw [TabStripController.closingAnimationCompleted, mem_filter, decide_eq_true_eq]
  constructor
  · rintro ⟨hnot, hne⟩ hmem
    exact hnot ⟨hmem, hne⟩
  · intro hnot
    refine ⟨fun hmem => hnot hmem.1, ?_⟩
    rintro rfl
    exact hnot hclosing

theorem CountsTo.closingAnimationCompleted (h : s.CountsTo n) {view : Nat}
    (hclosing : view ∈ s.closingTabs) : (s.closingAnimationCompleted view).CountsTo n where
  ids := h.ids.sublist (filter_sublist.map _)
  allocated other hother := h.allocated other (mem_of_mem_filter hother)
  closing other hother := by
    obtain ⟨hmem, hne⟩ := mem_filter.1 hother
    obtain ⟨tab, htab, rfl⟩ := mem_map.1 (h.closing other hmem)
    exact mem_map_of_mem (mem_filter.2 ⟨htab, hne⟩)
  count := (congrArg List.length (filter_closingAnimationCompleted hclosing)).trans h.count

/-- **Notification step**: the views are counted as the tabs are. -/
theorem CountsTo.tell [DecidableEq W] {p : Mirror W × TabStripController W}
    (h : p.2.CountsTo p.1.tabs.length) {event : Event W} (hfits : Fits p event) :
    (TabStripController.tell p event).2.CountsTo (TabStripController.tell p event).1.tabs.length :=
  by
  obtain ⟨m, s⟩ := p
  cases event with
  | webStateInsertedAt webState index =>
    show (s.didInsertTab _ _ _).CountsTo (m.tabs.insertIdx _ _).length
    rw [length_insertIdx, if_pos hfits.1]
    exact h.didInsertTab hfits.1 webState false
  | webStateMoved webState fromIndex toIndex =>
    show (s.didMoveTab _ _).CountsTo (moveIdx m.tabs _ _).length
    rw [length_moveIdx hfits.2.1]
    exact h.didMoveTab (List.getElem?_eq_some_iff.1 hfits.1).1 hfits.2.1
  | webStateReplacedAt oldWebState newWebState index =>
    show (s.didChangeTab _ _).CountsTo (m.tabs.set _ _).length
    rw [length_set]
    exact h.didChangeTab _ newWebState
  | webStateDetachedAt webState index =>
    have hlt := (List.getElem?_eq_some_iff.1 hfits).1
    show (s.didRemoveTab _).CountsTo (m.tabs.eraseIdx _).length
    rw [length_eraseIdx_of_lt hlt]
    exact h.didRemoveTab hlt
  | webStateActivatedAt oldWebState newWebState index userAction =>
    show (if _ then _ else s : TabStripController W).CountsTo m.tabs.length
    split
    · obtain ⟨f, hf, heq⟩ := didChangeActiveTab_eq s index.toNat
      rw [heq]
      exact h.map hf
    · exact h
  | willDetachWebStateAt | willCloseWebStateAt | delegateWillAddWebState
  | delegateWebStateDetached => exact h

end Notifications

/-! ## Indexes of views -/

/-- A view is found by its index among the views that are not closing. -/
theorem modelIndexForTabView_of_shown {strip : TabStripController W}
    (hids : (strip.tabArray.map TabView.id).Nodup) {view : TabView W} {d : Nat}
    (h : ((strip.tabArray.filter strip.shows).map TabView.id)[d]? = some view.id) :
    strip.modelIndexForTabView view = some d := by
  rw [getElem?_map] at h
  obtain ⟨found, hfound, hid⟩ := Option.map_eq_some_iff.1 h
  have hat := (getElem?_visibleIdx strip.tabArray d).trans hfound
  have hexists : ∃ tab ∈ strip.tabArray, decide (tab.id = view.id) = true :=
    ⟨found, mem_of_getElem? hat, decide_eq_true hid⟩
  have hlt := findIdx_lt_length.2 hexists
  have hfirst := of_decide_eq_true (findIdx_getElem (w := hlt))
  have hfind : strip.tabArray.findIdx (fun tab => tab.id = view.id) =
      visibleIdx strip.shows strip.tabArray d := by
    refine (getElem?_inj (by rwa [length_map]) hids).1 ?_
    rw [getElem?_map, getElem?_map, hat, getElem?_eq_getElem hlt, Option.map_some,
      Option.map_some, hfirst, hid]
  rw [modelIndexForTabView, modelIndexForIndex_eq, hfind, visibleRank_eq_some_iff]
  exact ⟨(List.getElem?_eq_some_iff.1 hfound).1, rfl⟩

/-- A view that has an index in the model is shown. -/
theorem shown_of_modelIndexForTabView {strip : TabStripController W} {view : TabView W} {d : Nat}
    (h : strip.modelIndexForTabView view = some d) :
    ((strip.tabArray.filter strip.shows).map TabView.id)[d]? = some view.id := by
  rw [modelIndexForTabView, modelIndexForIndex_eq, visibleRank_eq_some_iff] at h
  obtain ⟨hlt, hidx⟩ := h
  have hat := getElem?_visibleIdx (p := strip.shows) strip.tabArray d
  rw [hidx, getElem?_eq_getElem hlt] at hat
  obtain ⟨hfound, hget⟩ := List.getElem?_eq_some_iff.1 hat
  have hid := of_decide_eq_true (findIdx_getElem (w := hfound))
  rw [hget] at hid
  rw [getElem?_map, getElem?_eq_getElem hlt, Option.map_some, hid]

/-! ## Runs -/

section Runs

variable [DecidableEq W] {b : Browser W}

/-- What a run keeps, wherever tabs are moved. -/
structure CountedInv (b : Browser W) : Prop where
  owned : b.model.Owned
  told : b.model.Mirrors b.told
  views : b.strip.CountsTo b.told.tabs.length

theorem CountedInv.call (h : CountedInv b) {op : WebStateList.Op W} (hop : b.model.Proper op) :
    CountedInv (step b (.call op)) := by
  have htold : (step b (.call op)).model.Mirrors (step b (.call op)).told := by
    rw [step_call, run_listener_fst]
    exact h.told.apply h.owned hop
  refine ⟨h.owned.apply hop, htold, ?_⟩
  by_cases hclear : MovesClear b (.call op)
  · rw [step_call]
    have hlegal : (listener W).Legal (b.told, b.strip) (b.model.apply op).events :=
      legal_apply (p := (b.told, b.strip)) h.told hop hclear
    exact Machine.run_invariant
      (I := fun p : Mirror W × TabStripController W => p.2.CountsTo p.1.tabs.length)
      (fun _ _ hp hfits => hp.tell hfits) h.views hlegal
  · -- Only a move is not clear, and it sends one notification.
    cases op with
    | moveWebStateAt fromIndex toIndex =>
      have hne : fromIndex ≠ toIndex := fun heq => hclear fun hne => absurd heq hne
      obtain ⟨hfrom, hto⟩ := hop.pre
      obtain ⟨webState, hat⟩ := exists_getWebStateAt hfrom
      have hlength : b.told.tabs.length = b.model.wrappers.length := by
        rw [h.told.tabs, length_webStates]
      have hevents : (b.model.moveWebStateAt fromIndex toIndex).events =
          [.webStateMoved webState fromIndex toIndex] := by
        rw [WebStateList.moveWebStateAt, if_neg hne, hat]
      have hstep : (step b (.call (.moveWebStateAt fromIndex toIndex))).strip =
            b.strip.didMoveTab fromIndex.toNat toIndex.toNat ∧
          (step b (.call (.moveWebStateAt fromIndex toIndex))).told.tabs =
            moveIdx b.told.tabs fromIndex.toNat toIndex.toNat := by
        rw [step_call, WebStateList.apply, hevents]
        exact ⟨rfl, rfl⟩
      have hlt : toIndex.toNat < b.told.tabs.length := hlength ▸ hto.toNat_lt
      rw [hstep.1, hstep.2, length_moveIdx hlt]
      exact h.views.didMoveTab (hlength ▸ hfrom.toNat_lt) hlt
    | _ => exact absurd trivial hclear

theorem countedInv_start {model : WebStateList W} (hmodel : model.Owned) :
    CountedInv (start model) := by
  have hstart := inv_start hmodel
  refine ⟨hmodel, hstart.told, hstart.follows.ids, hstart.follows.allocated,
    fun view hview => (nomatch hview), ?_⟩
  rw [← length_map TabView.tab, hstart.follows.tabs]

/-- **Run**: in every state the strip has a view for each tab. -/
theorem counted_run {model : WebStateList W} (hmodel : model.Owned) {ops : List (Op W)}
    (hlegal : (machine W).Legal (start model) ops) :
    Counted ((machine W).run (start model) ops) := by
  have hinv : CountedInv ((machine W).run (start model) ops) := by
    refine Machine.run_invariant (M := machine W) (fun b op hb hpre => ?_)
      (countedInv_start hmodel) hlegal
    cases op with
    | call op => exact hb.call hpre
    | closingAnimationCompleted view =>
      exact ⟨hb.owned, hb.told, hb.views.closingAnimationCompleted hpre⟩
  exact ⟨hinv.owned.nodup, hinv.told.tabs ▸ hinv.views⟩

end Runs

end TabStripController

end ChromiumIos
