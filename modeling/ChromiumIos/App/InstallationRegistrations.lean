import ChromiumIos.App.InstallationNotifier

/-!
# Registrations for installations are answered

- `Inv`: the dictionary, the notification center and the calls say the same, up to the scheme that
  is being notified.
- `Undisturbed`: what observers may do inside their notifications.
- `answered_run`: in runs in which they do nothing else, every registration is answered.
-/

namespace ChromiumIos

open Lib List OrderedDict Option

namespace InstallationNotifier

variable {O : Type} {s : InstallationNotifier O}

/-! ## The dictionary -/

/-- A set that is not empty is under a key. -/
theorem get?_of_mem {observer : O} {scheme : String} (h : observer ∈ s.observersOf scheme) :
    s.installedAppObservers.get? scheme = some (s.observersOf scheme) := by
  rw [observersOf] at h ⊢
  cases hget : s.installedAppObservers.get? scheme with
  | none =>
    rw [hget] at h
    exact absurd h not_mem_nil
  | some observers => rfl

/-- Outside of a poll no enumeration is disturbed. -/
theorem setObservers_unchanged {mutates : Bool} (hmutated : s.enumerationMutated = false)
    (hkept : s.polling = true → mutates = false) :
    (s.enumerationMutated || (s.polling && mutates)) = false := by
  rw [hmutated, Bool.false_or]
  cases hpolling : s.polling with
  | false => rfl
  | true => exact hkept hpolling

section Unregister

variable [DecidableEq O]

theorem get?_removeFromScheme (observer : O) (d : OrderedDict String (List O))
    (scheme other : String) :
    (removeFromScheme observer d scheme).get? other =
      if other = scheme then
        (d.get? scheme).bind fun observers =>
          if observer ∈ observers ∧ observers.filter (· ≠ observer) = [] then none
          else some (observers.filter (· ≠ observer))
      else d.get? other := by
  rw [removeFromScheme]
  cases hget : d.get? scheme with
  | none =>
    by_cases h : other = scheme
    · rw [if_pos h, h, hget, bind_none]
    · rw [if_neg h]
  | some observers =>
    rw [bind_some]
    by_cases hmem : observer ∈ observers
    · by_cases hempty : observers.filter (· ≠ observer) = []
      · simp only [if_pos hmem, hempty, length_nil, and_true]
        exact get?_delete ..
      · have hlength : (observers.filter (· ≠ observer)).length ≠ 0 :=
          mt length_eq_zero_iff.1 hempty
        simp only [if_pos hmem, if_neg hlength, hempty, and_false, if_false]
        exact get?_set ..
    · have hfilter : observers.filter (· ≠ observer) = observers :=
        filter_eq_self.2 fun other hother => decide_eq_true fun heq => hmem (heq ▸ hother)
      simp only [hmem, false_and, if_false, hfilter]
      by_cases h : other = scheme
      · rw [if_pos h, h, hget]
      · rw [if_neg h]

/-- Every set loses the observer, and a set that is left empty its key. -/
theorem get?_unregister (observer : O) (scheme : String) :
    (s.unregisterForNotifications observer).installedAppObservers.get? scheme =
      (s.installedAppObservers.get? scheme).bind fun observers =>
        if observer ∈ observers ∧ observers.filter (· ≠ observer) = [] then none
        else some (observers.filter (· ≠ observer)) := by
  refine (get?_foldl_of_local (g := fun old => old.bind _)
    (get?_removeFromScheme observer) s.installedAppObservers.keys_nodup _ scheme).trans ?_
  split
  · rfl
  · next hmem =>
    rw [OrderedDict.mem_keys, not_not] at hmem
    rw [hmem, bind_none]

theorem observersOf_unregister (observer : O) (scheme : String) :
    (s.unregisterForNotifications observer).observersOf scheme =
      (s.observersOf scheme).filter (· ≠ observer) := by
  rw [observersOf, get?_unregister, observersOf]
  cases s.installedAppObservers.get? scheme with
  | none => rfl
  | some observers =>
    rw [bind_some]
    split
    · next h => exact h.2.symm
    · rfl

/-- The keys stay where every set of the observer has another one. -/
theorem size_unregister {observer : O}
    (hothers : ∀ scheme, observer ∈ s.observersOf scheme →
      ∃ other ∈ s.observersOf scheme, other ≠ observer) :
    (s.unregisterForNotifications observer).installedAppObservers.size =
      s.installedAppObservers.size := by
  refine size_congr fun scheme => ?_
  rw [get?_unregister]
  cases hget : s.installedAppObservers.get? scheme with
  | none => rfl
  | some observers =>
    have hset : s.observersOf scheme = observers := by rw [observersOf, hget, getD_some]
    rw [bind_some, if_neg]
    · exact iff_of_false nofun nofun
    · rintro ⟨hmem, hempty⟩
      obtain ⟨other, hother, hne⟩ := hothers scheme (hset ▸ hmem)
      have hleft : other ∈ observers.filter (· ≠ observer) :=
        mem_filter.2 ⟨hset ▸ hother, decide_eq_true hne⟩
      rw [hempty] at hleft
      exact not_mem_nil hleft

end Unregister

/-! ## The invariant -/

variable [DecidableEq O]

/-- What holds with and without a dispatched block. -/
structure Books (s : InstallationNotifier O) : Prop where
  member : ∀ observer scheme, (observer, scheme) ∈ s.notificationCenter →
    observer ∈ s.observersOf scheme ∧ scheme ∉ s.keysToDelete
  centered : ∀ scheme, scheme ∉ s.keysToDelete → ∀ observer ∈ s.observersOf scheme,
    (observer, scheme) ∈ s.notificationCenter
  distinct : s.notificationCenter.Nodup
  /-- The center has the observers that wait, and those of the scheme that is being notified which
  it has come to. -/
  owes : ∀ observer scheme, owed s.history observer scheme = true ↔
    (observer, scheme) ∈ s.notificationCenter ∧
      ∀ posting ∈ s.posting, posting.scheme = scheme → observer ∈ posting.receivers
  posted : ∀ posting ∈ s.posting, .installed posting.scheme ∈ s.history ∧
    posting.receivers.Nodup ∧ posting.scheme ∉ s.keysToDelete ∧ s.polling = true
  recorded : ∀ scheme, scheme ∈ s.installed ↔ .installed scheme ∈ s.history
  fresh : ∀ observer scheme, due s.history observer scheme = true →
    owed s.history observer scheme = true ∧ .installed scheme ∈ s.history ∧ s.polling = true ∧
      (scheme ∈ s.visited → ∃ posting ∈ s.posting, posting.scheme = scheme)
  visits : ∀ scheme ∈ s.visited, scheme ∈ s.keysToDelete ∨
    (∃ posting ∈ s.posting, posting.scheme = scheme) ∨ s.keepPolling = true
  found : ∀ scheme, (scheme ∈ s.keysToDelete ∨ ∃ posting ∈ s.posting, posting.scheme = scheme) →
    scheme ∈ s.visited
  outside : s.polling = false → s.posting = none ∧ s.keysToDelete = [] ∧ s.visited = []
  ids : s.blocks.Nodup ∧ ∀ blockId ∈ s.blocks, blockId ≤ s.lastCreatedBlockId
  notified : ∀ observer scheme before, .notified observer scheme :: before <:+ s.history →
    owed before observer scheme = true ∧ .installed scheme ∈ before
  unchanged : s.enumerationMutated = false

/-- Between polls there is a dispatched block as long as there are observers. -/
structure Inv (s : InstallationNotifier O) : Prop extends Books s where
  live : s.polling = false → s.installedAppObservers.size ≠ 0 → s.lastCreatedBlockId ∈ s.blocks

theorem inv_init : Inv (init : InstallationNotifier O) where
  member := nofun
  centered _ _ _ := nofun
  distinct := .nil
  owes _ _ := iff_of_false nofun nofun
  posted := nofun
  recorded _ := iff_of_false nofun nofun
  fresh := nofun
  visits := nofun
  found _ := nofun
  outside _ := ⟨rfl, rfl, rfl⟩
  ids := ⟨.nil, nofun⟩
  live _ h := absurd rfl h
  notified _ _ _ h := absurd (suffix_nil.1 h) nofun
  unchanged := rfl

/-- A registered observer's scheme is a key. -/
theorem Inv.size_ne_zero (h : Inv s) {observer : O} {scheme : String}
    (howed : owed s.history observer scheme = true) : s.installedAppObservers.size ≠ 0 := by
  have hmem := (h.member observer scheme ((h.owes observer scheme).1 howed).1).1
  intro hsize
  have hnone := size_eq_zero.1 hsize scheme
  rw [get?_of_mem hmem] at hnone
  exact absurd hnone nofun

theorem Inv.answered (h : Inv s) : Answered s where
  notified := h.notified
  prompt hpolling observer scheme := by
    by_contra hdue
    have hpolling' := (h.fresh observer scheme (eq_true_of_ne_false hdue)).2.2.1
    rw [hpolling] at hpolling'
    exact absurd hpolling' nofun
  live hpolling := by
    rintro ⟨observer, scheme, howed⟩
    exact count_eq_one_of_mem h.ids.1 (h.live hpolling (h.size_ne_zero howed))
  unchanged := h.unchanged

/-! ## What the notifier does -/

theorem notified_cons {event : Event O} {history : List (Event O)}
    (h : ∀ observer scheme before, .notified observer scheme :: before <:+ history →
      owed before observer scheme = true ∧ .installed scheme ∈ before)
    (hevent : ∀ observer scheme, event = .notified observer scheme →
      owed history observer scheme = true ∧ .installed scheme ∈ history) :
    ∀ observer scheme before, .notified observer scheme :: before <:+ event :: history →
      owed before observer scheme = true ∧ .installed scheme ∈ before := by
  intro observer scheme before hsuffix
  rcases suffix_cons_iff.1 hsuffix with heq | hsuffix
  · obtain ⟨rfl, rfl⟩ := cons.inj heq
    exact hevent observer scheme rfl
  · exact h observer scheme before hsuffix

theorem Books.dispatch (h : Books s) : Inv s.dispatchInstallationNotifierBlock :=
  { h with
    ids := by
      refine ⟨nodup_append.2 ⟨h.ids.1, nodup_singleton _, ?_⟩, ?_⟩
      · rintro blockId hmem _ hlast rfl
        have hle := h.ids.2 blockId hmem
        rw [mem_singleton.1 hlast] at hle
        exact absurd hle (Nat.not_succ_le_self _)
      · intro blockId hmem
        rcases mem_append.1 hmem with hmem | hmem
        · exact Nat.le_succ_of_le (h.ids.2 blockId hmem)
        · exact Nat.le_of_eq (mem_singleton.1 hmem)
    live := fun _ _ => mem_append_right _ (mem_singleton_self _) }

theorem Books.poll (h : Books s) (hpolling : s.polling = false) :
    Inv s.pollForTheInstallationOfApps := by
  obtain ⟨hposting, hdelete, -⟩ := h.outside hpolling
  exact
    { member := fun observer scheme hmem => ⟨(h.member observer scheme hmem).1, not_mem_nil⟩
      centered := fun scheme _ => h.centered scheme (hdelete ▸ not_mem_nil)
      distinct := h.distinct
      owes := h.owes
      posted := fun posting hmem => absurd (hposting ▸ hmem) nofun
      recorded := fun scheme => (h.recorded scheme).trans (by simp [pollForTheInstallationOfApps])
      fresh := by
        intro observer scheme hdue
        obtain ⟨hinstalled, howed⟩ := Bool.and_eq_true_iff.1 hdue
        exact ⟨howed, mem_cons_of_mem _ (of_decide_eq_true hinstalled), rfl, nofun⟩
      visits := nofun
      found := by
        rintro scheme (hmem | ⟨posting, hmem, -⟩)
        · exact hmem
        · exact absurd (hposting ▸ hmem) nofun
      outside := nofun
      ids := h.ids
      live := nofun
      notified := notified_cons h.notified nofun
      unchanged := h.unchanged }

theorem Inv.install (h : Inv s) (scheme : String) : Inv (s.install scheme) :=
  { h with
    posted := fun posting hmem =>
      ⟨mem_cons_of_mem _ (h.posted posting hmem).1, (h.posted posting hmem).2⟩
    recorded := fun other => by
      show other ∈ scheme :: s.installed ↔ .installed other ∈ .installed scheme :: s.history
      rw [mem_cons, mem_cons, h.recorded other, Event.installed.injEq]
    fresh := fun observer other hdue =>
      have hfresh := h.fresh observer other hdue
      ⟨hfresh.1, mem_cons_of_mem _ hfresh.2.1, hfresh.2.2⟩
    notified := notified_cons h.notified nofun }

theorem Inv.register (h : Inv s) (observer : O) (scheme : String)
    (hcall : s.polling = true → scheme.length = 0 ∨ owed s.history observer scheme = true) :
    Inv (s.registerForInstallationNotifications observer scheme) := by
  rw [registerForInstallationNotifications]
  by_cases hlength : scheme.length = 0
  · rwa [if_pos hlength]
  rw [if_neg hlength]
  -- the scheme is not among those that the poll has found already, or the call changes nothing
  have hopen : owed s.history observer scheme = true ∨
      scheme ∉ s.keysToDelete ∧ ∀ posting ∈ s.posting, posting.scheme ≠ scheme := by
    cases hpolling : s.polling with
    | false =>
      obtain ⟨hposting, hdelete, -⟩ := h.outside hpolling
      rw [hposting, hdelete]
      exact .inr ⟨not_mem_nil, nofun⟩
    | true =>
      exact .inl ((hcall hpolling).resolve_left hlength)
  have howedNow : ∀ {center : List (O × String)}, (observer, scheme) ∈ center →
      (∀ other scheme', (other, scheme') ≠ (observer, scheme) →
        ((other, scheme') ∈ center ↔ (other, scheme') ∈ s.notificationCenter)) →
      ∀ other scheme', owed (.registered observer scheme :: s.history) other scheme' = true ↔
        (other, scheme') ∈ center ∧
          ∀ posting ∈ s.posting, posting.scheme = scheme' → other ∈ posting.receivers := by
    intro center hmem hothers other scheme'
    by_cases hsame : (other, scheme') = (observer, scheme)
    · obtain ⟨rfl, rfl⟩ := Prod.mk.inj hsame
      refine iff_of_true (by simp [owed]) ⟨hmem, fun posting hposting heq => ?_⟩
      rcases hopen with howed | ⟨-, hopen⟩
      · exact ((h.owes _ _).1 howed).2 posting hposting heq
      · exact absurd heq (hopen posting hposting)
    · have hne : ¬(observer = other ∧ scheme = scheme') :=
        fun heq => hsame (Prod.ext heq.1.symm heq.2.symm)
      rw [hothers other scheme' hsame, ← h.owes other scheme', owed, decide_eq_false hne,
        Bool.false_or]
  have hrecorded : ∀ other, other ∈ s.installed ↔
      .installed other ∈ .registered observer scheme :: s.history :=
    fun other => (h.recorded other).trans (by simp)
  have hposted : ∀ posting ∈ s.posting,
      .installed posting.scheme ∈ .registered observer scheme :: s.history ∧
        posting.receivers.Nodup ∧ posting.scheme ∉ s.keysToDelete ∧ s.polling = true :=
    fun posting hmem =>
      ⟨mem_cons_of_mem _ (h.posted posting hmem).1, (h.posted posting hmem).2⟩
  have hfresh : ∀ other scheme', due s.history other scheme' = true →
      owed (.registered observer scheme :: s.history) other scheme' = true ∧
        .installed scheme' ∈ .registered observer scheme :: s.history ∧ s.polling = true ∧
          (scheme' ∈ s.visited → ∃ posting ∈ s.posting, posting.scheme = scheme') := by
    intro other scheme' hdue
    obtain ⟨howed, hinstalled, hrest⟩ := h.fresh other scheme' hdue
    exact ⟨Bool.or_eq_true_iff.2 (.inr howed), mem_cons_of_mem _ hinstalled, hrest⟩
  have hnotified : ∀ other scheme' before,
      .notified other scheme' :: before <:+ .registered observer scheme :: s.history →
        owed before other scheme' = true ∧ .installed scheme' ∈ before :=
    notified_cons h.notified nofun
  by_cases hmem : observer ∈ s.observersOf scheme
  · show Inv (if observer ∈ s.observersOf scheme then _ else _)
    rw [if_pos hmem]
    have hcenter : (observer, scheme) ∈ s.notificationCenter := by
      rcases hopen with howed | hopen
      · exact ((h.owes _ _).1 howed).1
      · exact h.centered scheme hopen.1 observer hmem
    exact
      { h with
        owes := howedNow hcenter fun _ _ _ => Iff.rfl
        posted := hposted
        recorded := hrecorded
        fresh := hfresh
        notified := hnotified }
  · show Inv (if observer ∈ s.observersOf scheme then _ else _)
    rw [if_neg hmem]
    have hnot : (observer, scheme) ∉ s.notificationCenter :=
      fun hcenter => hmem (h.member observer scheme hcenter).1
    have hopen : scheme ∉ s.keysToDelete ∧ ∀ posting ∈ s.posting, posting.scheme ≠ scheme :=
      hopen.resolve_left fun howed => hnot ((h.owes _ _).1 howed).1
    have hset : ∀ other scheme', other ∈ ((s.installedAppObservers.set scheme
        (s.observersOf scheme ++ [observer])).get? scheme').getD [] ↔
          other ∈ s.observersOf scheme' ∨ (other, scheme') = (observer, scheme) := by
      intro other scheme'
      rw [get?_set, Prod.mk.injEq]
      split
      · next hsame => simp [hsame]
      · next hne => simp [hne, observersOf]
    have hinsert : ∀ other scheme',
        (other, scheme') ∈ s.notificationCenter ++ [(observer, scheme)] ↔
          (other, scheme') ∈ s.notificationCenter ∨ (other, scheme') = (observer, scheme) := by
      intro other scheme'
      rw [mem_append, mem_singleton]
    refine Books.dispatch
      { member := ?_, centered := ?_, distinct := ?_
        owes := howedNow (mem_append_right _ (mem_singleton_self _)) ?_
        posted := hposted, recorded := hrecorded, fresh := hfresh, visits := h.visits
        found := h.found, outside := h.outside, ids := h.ids, notified := hnotified
        unchanged := ?_ }
    · intro other scheme' hcenter
      rcases (hinsert other scheme').1 hcenter with hcenter | heq
      · obtain ⟨hold, hdelete⟩ := h.member other scheme' hcenter
        exact ⟨(hset other scheme').2 (.inl hold), hdelete⟩
      · refine ⟨(hset other scheme').2 (.inr heq), ?_⟩
        rw [(Prod.mk.inj heq).2]
        exact hopen.1
    · intro scheme' hdelete other hother
      exact (hinsert other scheme').2
        (((hset other scheme').1 hother).imp_left (h.centered scheme' hdelete other))
    · refine nodup_append.2 ⟨h.distinct, nodup_singleton _, ?_⟩
      rintro entry hentry _ hnew rfl
      exact hnot (mem_singleton.1 hnew ▸ hentry)
    · intro other scheme' hne
      exact (hinsert other scheme').trans (or_iff_left hne)
    · refine setObservers_unchanged h.unchanged fun hpolling => ?_
      exact absurd ((h.owes _ _).1 ((hcall hpolling).resolve_left hlength)).1 hnot

theorem Inv.unregister (h : Inv s) (observer : O)
    (hothers : s.polling = true → ∀ scheme, observer ∈ s.observersOf scheme →
      ∃ other ∈ s.observersOf scheme, other ≠ observer) :
    Inv (s.unregisterForNotifications observer) := by
  have hcenter : ∀ other scheme, (other, scheme) ∈ s.notificationCenter.filter (·.1 ≠ observer) ↔
      (other, scheme) ∈ s.notificationCenter ∧ other ≠ observer := by
    intro other scheme
    rw [mem_filter, decide_eq_true_iff]
  have howed : ∀ other scheme, owed (.unregistered observer :: s.history) other scheme = true ↔
      owed s.history other scheme = true ∧ other ≠ observer := by
    intro other scheme
    rw [owed, Bool.and_eq_true_iff, decide_eq_true_iff, and_comm, ne_comm]
  exact
    { member := by
        intro other scheme hmem
        obtain ⟨hmem, hne⟩ := (hcenter other scheme).1 hmem
        rw [observersOf_unregister, mem_filter]
        exact ⟨⟨(h.member other scheme hmem).1, decide_eq_true hne⟩, (h.member other scheme hmem).2⟩
      centered := by
        intro scheme hdelete other hother
        rw [observersOf_unregister, mem_filter] at hother
        exact (hcenter other scheme).2
          ⟨h.centered scheme hdelete other hother.1, of_decide_eq_true hother.2⟩
      distinct := h.distinct.filter _
      owes := by
        intro other scheme
        refine (howed other scheme).trans ?_
        rw [h.owes]
        exact ⟨fun hold => ⟨(hcenter other scheme).2 ⟨hold.1.1, hold.2⟩, hold.1.2⟩,
          fun hnew => ⟨⟨((hcenter other scheme).1 hnew.1).1, hnew.2⟩,
            ((hcenter other scheme).1 hnew.1).2⟩⟩
      posted := fun posting hmem =>
        ⟨mem_cons_of_mem _ (h.posted posting hmem).1, (h.posted posting hmem).2⟩
      recorded := fun scheme => (h.recorded scheme).trans
        (by simp [unregisterForNotifications, setObservers])
      fresh := by
        intro other scheme hdue
        obtain ⟨hne, hdue⟩ := Bool.and_eq_true_iff.1 hdue
        obtain ⟨hold, hinstalled, hrest⟩ := h.fresh other scheme hdue
        exact ⟨(howed other scheme).2 ⟨hold, Ne.symm (of_decide_eq_true hne)⟩,
          mem_cons_of_mem _ hinstalled, hrest⟩
      visits := h.visits
      found := h.found
      outside := h.outside
      ids := h.ids
      live := by
        intro hpolling hsize
        refine h.live hpolling fun hempty => hsize ?_
        refine size_eq_zero.2 fun scheme => ?_
        rw [get?_unregister, size_eq_zero.1 hempty scheme, bind_none]
      notified := notified_cons h.notified nofun
      unchanged := setObservers_unchanged h.unchanged fun hpolling =>
        bne_eq_false_iff_eq.2 (size_unregister (hothers hpolling)) }

theorem Inv.fire (h : Inv s) (hpolling : s.polling = false) (blockId : Nat) :
    Inv (s.fireBlock blockId) := by
  have hbooks : Books { s with blocks := s.blocks.erase blockId } :=
    { h.toBooks with
      ids := ⟨h.ids.1.erase _, fun other hmem => h.ids.2 other (mem_of_mem_erase hmem)⟩ }
  show Inv (if blockId = s.lastCreatedBlockId then _ else _)
  split
  · exact hbooks.poll hpolling
  · next hstale =>
    refine { hbooks with live := fun _ hsize => ?_ }
    exact (mem_erase_of_ne (Ne.symm hstale)).2 (h.live hpolling hsize)

theorem Inv.visit (h : Inv s) {scheme : String} (hpolling : s.polling = true)
    (hposting : s.posting = none) (hunvisited : scheme ∉ s.visited) : Inv (s.visit scheme) := by
  show Inv (if scheme ∈ s.installed then _ else _)
  split
  · next hinstalled =>
    have hreceivers : ∀ observer,
        observer ∈ (s.notificationCenter.filter (·.2 = scheme)).map Prod.fst ↔
          (observer, scheme) ∈ s.notificationCenter := by
      intro observer
      constructor
      · intro hmem
        obtain ⟨entry, hentry, rfl⟩ := mem_map.1 hmem
        obtain ⟨hcenter, heq⟩ := mem_filter.1 hentry
        rw [← of_decide_eq_true heq]
        exact hcenter
      · exact fun hmem => mem_map.2
          ⟨_, mem_filter.2 ⟨hmem, decide_eq_true rfl⟩, rfl⟩
    exact
      { h with
        owes := by
          intro observer other
          rw [show owed _ observer other = true ↔ _ from h.owes observer other, hposting]
          refine and_congr_right fun hmem => iff_of_true nofun fun posting hposting heq => ?_
          obtain rfl := some.inj hposting
          obtain rfl : scheme = other := heq
          exact (hreceivers observer).2 hmem
        posted := by
          intro posting hposting
          obtain rfl := some.inj hposting
          refine ⟨(h.recorded scheme).1 hinstalled, ?_,
            fun hmem => hunvisited (h.found scheme (.inl hmem)), hpolling⟩
          refine List.Nodup.map_on ?_ (h.distinct.filter _)
          intro entry hentry entry' hentry' heq
          refine Prod.ext heq ?_
          rw [of_decide_eq_true (mem_filter.1 hentry).2,
            of_decide_eq_true (mem_filter.1 hentry').2]
        fresh := by
          intro observer other hdue
          obtain ⟨howed, hmem, hpolling, hvisited⟩ := h.fresh observer other hdue
          refine ⟨howed, hmem, hpolling, fun hvisited' => ⟨_, rfl, ?_⟩⟩
          rcases mem_cons.1 hvisited' with heq | hvisited'
          · exact heq.symm
          · obtain ⟨posting, hsome, -⟩ := hvisited hvisited'
            rw [hposting] at hsome
            exact absurd hsome nofun
        visits := by
          intro other hvisited
          rcases mem_cons.1 hvisited with rfl | hvisited
          · exact .inr (.inl ⟨_, rfl, rfl⟩)
          · rcases h.visits other hvisited with hdelete | ⟨posting, hsome, -⟩ | hkeep
            · exact .inl hdelete
            · rw [hposting] at hsome
              exact absurd hsome nofun
            · exact .inr (.inr hkeep)
        found := by
          rintro other (hmem | ⟨posting, hsome, rfl⟩)
          · exact mem_cons_of_mem _ (h.found other (.inl hmem))
          · obtain rfl := some.inj hsome
            exact mem_cons_self
        outside := fun hidle => absurd (hpolling.symm.trans hidle) nofun }
  · next hinstalled =>
    exact
      { h with
        fresh := by
          intro observer other hdue
          obtain ⟨howed, hmem, hpolling, hvisited⟩ := h.fresh observer other hdue
          refine ⟨howed, hmem, hpolling, fun hvisited' => ?_⟩
          rcases mem_cons.1 hvisited' with rfl | hvisited'
          · exact absurd ((h.recorded other).2 hmem) hinstalled
          · exact hvisited hvisited'
        visits := fun _ _ => .inr (.inr rfl)
        found := fun other hmem => mem_cons_of_mem _ (h.found other hmem)
        outside := fun hidle => absurd (hpolling.symm.trans hidle) nofun }

/-- The center has come to an observer, who is not owed the notification any more. -/
theorem Inv.come (h : Inv s) {observer : O} {posting : Posting O} {receiving : Bool}
    {history : List (Event O)} (hposting : s.posting = some posting)
    (howed : ∀ other scheme, owed history other scheme = true ↔
      owed s.history other scheme = true ∧ ¬(observer = other ∧ posting.scheme = scheme))
    (hdue : ∀ other scheme, due history other scheme = true →
      due s.history other scheme = true ∧ ¬(observer = other ∧ posting.scheme = scheme))
    (hinstalled : ∀ scheme, .installed scheme ∈ history ↔ .installed scheme ∈ s.history)
    (hnotified : ∀ other scheme before, .notified other scheme :: before <:+ history →
      owed before other scheme = true ∧ .installed scheme ∈ before) :
    Inv { s with
      posting := some ⟨posting.scheme, posting.receivers.erase observer, receiving⟩
      history := history } := by
  obtain ⟨hfound, hnodup, hdelete, hpolling⟩ := h.posted posting hposting
  have hscheme : ∀ {scheme}, (∃ posting ∈ s.posting, posting.scheme = scheme) ↔
      ∃ posting' ∈ some (⟨posting.scheme, posting.receivers.erase observer, receiving⟩ : Posting O),
        posting'.scheme = scheme := by
    intro scheme
    rw [hposting]
    constructor
    · rintro ⟨_, hsome, rfl⟩
      obtain rfl := some.inj hsome
      exact ⟨_, rfl, rfl⟩
    · rintro ⟨_, hsome, rfl⟩
      obtain rfl := some.inj hsome
      exact ⟨_, rfl, rfl⟩
  exact
    { h with
      owes := by
        intro other scheme
        rw [howed, h.owes, hposting]
        constructor
        · rintro ⟨⟨hmem, hreceivers⟩, hne⟩
          refine ⟨hmem, fun _ hsome heq => ?_⟩
          obtain rfl := some.inj hsome
          refine (mem_erase_of_ne fun hsame => hne ⟨hsame.symm, heq⟩).2 ?_
          exact hreceivers posting rfl heq
        · rintro ⟨hmem, hreceivers⟩
          refine ⟨⟨hmem, fun _ hsome heq => ?_⟩, ?_⟩
          · obtain rfl := some.inj hsome
            exact mem_of_mem_erase (hreceivers _ rfl heq)
          · rintro ⟨rfl, heq⟩
            exact hnodup.not_mem_erase (hreceivers _ rfl heq)
      posted := by
        intro _ hsome
        obtain rfl := some.inj hsome
        exact ⟨(hinstalled _).2 hfound, hnodup.erase _, hdelete, hpolling⟩
      recorded := fun scheme => (h.recorded scheme).trans (hinstalled scheme).symm
      fresh := by
        intro other scheme hnew
        obtain ⟨hold, hne⟩ := hdue other scheme hnew
        obtain ⟨hwas, hmem, hrest, hvisited⟩ := h.fresh other scheme hold
        exact ⟨(howed other scheme).2 ⟨hwas, hne⟩, (hinstalled scheme).2 hmem, hrest,
          fun hmem => hscheme.1 (hvisited hmem)⟩
      visits := fun scheme hvisited =>
        (h.visits scheme hvisited).imp_right (.imp_left hscheme.1)
      found := fun scheme hmem => h.found scheme (hmem.imp_right hscheme.2)
      outside := fun hidle => absurd (hpolling.symm.trans hidle) nofun
      notified := hnotified }

theorem Inv.receive (h : Inv s) {observer : O} {posting : Posting O}
    (hposting : s.posting = some posting) (hmem : observer ∈ posting.receivers) :
    Inv (s.receive observer) := by
  rw [InstallationNotifier.receive, hposting]
  dsimp only
  split
  · next hcenter =>
    have howed : owed s.history observer posting.scheme = true := by
      refine (h.owes _ _).2 ⟨hcenter, fun _ hsome _ => ?_⟩
      obtain rfl := some.inj (hposting.symm.trans hsome)
      exact hmem
    refine h.come hposting ?_ ?_ ?_ ?_
    · intro other scheme
      rw [owed, Bool.and_eq_true_iff, decide_eq_true_iff, and_comm]
    · intro other scheme hdue
      obtain ⟨hne, hdue⟩ := Bool.and_eq_true_iff.1 hdue
      exact ⟨hdue, of_decide_eq_true hne⟩
    · exact fun scheme => by simp
    · refine notified_cons h.notified fun other scheme heq => ?_
      obtain ⟨rfl, rfl⟩ := Event.notified.inj heq
      exact ⟨howed, (h.posted posting hposting).1⟩
  · next hcenter =>
    -- the observer was unregistered while others received the notification
    have hnot : ∀ other scheme, owed s.history other scheme = true →
        ¬(observer = other ∧ posting.scheme = scheme) := by
      rintro _ _ howed ⟨rfl, rfl⟩
      exact hcenter ((h.owes _ _).1 howed).1
    refine h.come hposting ?_ ?_ (fun _ => Iff.rfl) h.notified
    · exact fun other scheme => (and_iff_left_of_imp (hnot other scheme)).symm
    · exact fun other scheme hdue => ⟨hdue, hnot other scheme (h.fresh other scheme hdue).1⟩

theorem Inv.endPosting (h : Inv s) {posting : Posting O} (hposting : s.posting = some posting)
    (hreceivers : posting.receivers = []) : Inv s.endPosting := by
  obtain ⟨hinstalled, -, hdelete, hpolling⟩ := h.posted posting hposting
  have hcenter : ∀ observer scheme, (observer, scheme) ∈ s.notificationCenter.filter (fun entry =>
      ¬(entry.1 ∈ s.observersOf posting.scheme ∧ entry.2 = posting.scheme)) ↔
        (observer, scheme) ∈ s.notificationCenter ∧ posting.scheme ≠ scheme := by
    intro observer scheme
    rw [mem_filter, decide_eq_true_iff]
    refine and_congr_right fun hmem => not_congr ⟨fun heq => heq.2.symm, ?_⟩
    rintro rfl
    exact ⟨(h.member observer _ hmem).1, rfl⟩
  -- nobody is owed the notification any more
  have hnobody : ∀ observer, owed s.history observer posting.scheme = false := by
    intro observer
    by_contra howed
    have hmem := ((h.owes _ _).1 (eq_true_of_ne_false howed)).2 posting hposting rfl
    rw [hreceivers] at hmem
    exact not_mem_nil hmem
  rw [InstallationNotifier.endPosting, hposting]
  exact
    { member := by
        intro observer scheme hmem
        obtain ⟨hmem, hne⟩ := (hcenter observer scheme).1 hmem
        obtain ⟨hset, hkeys⟩ := h.member observer scheme hmem
        refine ⟨hset, fun hdelete => ?_⟩
        exact (mem_cons.1 hdelete).elim (fun heq => hne heq.symm) hkeys
      centered := by
        intro scheme hkeys observer hset
        obtain ⟨hne, hkeys⟩ := not_or.1 (mt mem_cons.2 hkeys)
        exact (hcenter observer scheme).2 ⟨h.centered scheme hkeys observer hset, Ne.symm hne⟩
      distinct := h.distinct.filter _
      owes := by
        intro observer scheme
        constructor
        · intro howed
          refine ⟨(hcenter observer scheme).2 ⟨((h.owes _ _).1 howed).1, ?_⟩, nofun⟩
          rintro rfl
          exact absurd (howed.symm.trans (hnobody observer)) nofun
        · rintro ⟨hmem, -⟩
          obtain ⟨hmem, hne⟩ := (hcenter observer scheme).1 hmem
          refine (h.owes _ _).2 ⟨hmem, fun posting' hsome heq => ?_⟩
          obtain rfl := some.inj (hposting.symm.trans hsome)
          exact absurd heq hne
      posted := nofun
      recorded := h.recorded
      fresh := by
        intro observer scheme hdue
        obtain ⟨howed, hmem, hpolling, hvisited⟩ := h.fresh observer scheme hdue
        refine ⟨howed, hmem, hpolling, fun hvisited' => ?_⟩
        obtain ⟨posting', hsome, rfl⟩ := hvisited hvisited'
        obtain rfl := some.inj (hposting.symm.trans hsome)
        exact absurd (howed.symm.trans (hnobody observer)) nofun
      visits := by
        intro scheme hvisited
        rcases h.visits scheme hvisited with hkeys | ⟨posting', hsome, rfl⟩ | hkeep
        · exact .inl (mem_cons_of_mem _ hkeys)
        · obtain rfl := some.inj (hposting.symm.trans hsome)
          exact .inl mem_cons_self
        · exact .inr (.inr hkeep)
      found := by
        rintro scheme (hkeys | ⟨_, hsome, -⟩)
        · refine h.found scheme ((mem_cons.1 hkeys).elim (fun heq => ?_) .inl)
          exact .inr ⟨posting, hposting, heq.symm⟩
        · exact absurd hsome nofun
      outside := fun hidle => absurd (hpolling.symm.trans hidle) nofun
      ids := h.ids
      live := h.live
      notified := h.notified
      unchanged := h.unchanged }

theorem Inv.endPoll (h : Inv s) (hposting : s.posting = none)
    (hvisited : ∀ scheme ∈ s.installedAppObservers.keys, scheme ∈ s.visited) : Inv s.endPoll := by
  let left := s.keysToDelete.foldl delete s.installedAppObservers
  have hget : ∀ scheme, left.get? scheme =
      if scheme ∈ s.keysToDelete then none else s.installedAppObservers.get? scheme :=
    get?_foldl_delete _ _
  have hbooks : Books
      { s with
        polling := false
        visited := []
        keysToDelete := []
        installedAppObservers := left } :=
    { h.toBooks with
      member := by
        intro observer scheme hmem
        obtain ⟨hset, hkeys⟩ := h.member observer scheme hmem
        refine ⟨?_, not_mem_nil⟩
        show observer ∈ getD (get? _ scheme) []
        rw [hget, if_neg hkeys]
        exact hset
      centered := by
        intro scheme _ observer hset
        change observer ∈ getD (get? _ scheme) [] at hset
        rw [hget] at hset
        split at hset
        · exact absurd hset not_mem_nil
        · next hkeys => exact h.centered scheme hkeys observer hset
      posted := by
        intro posting hsome
        change s.posting = some posting at hsome
        rw [hposting] at hsome
        cases hsome
      fresh := by
        intro observer scheme hdue
        obtain ⟨howed, hmem, -, hfound⟩ := h.fresh observer scheme hdue
        have hset := (h.member observer scheme ((h.owes _ _).1 howed).1).1
        have hkey : scheme ∈ s.installedAppObservers.keys := by
          rw [OrderedDict.mem_keys, get?_of_mem hset]
          exact some_ne_none _
        obtain ⟨posting, hsome, -⟩ := hfound (hvisited scheme hkey)
        rw [hposting] at hsome
        cases hsome
      visits := by
        intro scheme hmem
        cases hmem
      found := by
        rintro scheme (hmem | ⟨posting, hsome, -⟩)
        · exact absurd hmem not_mem_nil
        · rw [hposting] at hsome
          cases hsome
      outside := fun _ => ⟨hposting, rfl, rfl⟩ }
  show Inv (if s.keepPolling then _ else _)
  split
  · exact hbooks.dispatch
  · next hkeep =>
    -- every scheme was found, so there is none left
    refine { hbooks with live := fun _ hsize => absurd ?_ hsize }
    refine size_eq_zero.2 fun scheme => ?_
    rw [hget]
    split
    · rfl
    · next hkeys =>
      by_contra hsome
      rcases h.visits scheme (hvisited scheme (OrderedDict.mem_keys.2 hsome)) with
        hmem | ⟨posting, hmem, -⟩ | htrue
      · exact hkeys hmem
      · rw [hposting] at hmem
        cases hmem
      · exact hkeep htrue

/-! ## Registrations are answered -/

/-- What observers may do inside their notifications: repeat a registration, which has no effect, and
unregister who is nowhere the last one. -/
def Undisturbed (s : InstallationNotifier O) : Op O → Prop
  | .registerForInstallationNotifications observer scheme =>
    s.polling = true → scheme.length = 0 ∨ owed s.history observer scheme = true
  | .unregisterForNotifications observer =>
    s.polling = true → ∀ scheme ∈ s.installedAppObservers.keys, observer ∈ s.observersOf scheme →
      ∃ other ∈ s.observersOf scheme, other ≠ observer
  | _ => True

instance (s : InstallationNotifier O) : ∀ op, Decidable (s.Undisturbed op)
  | .registerForInstallationNotifications _ _ | .unregisterForNotifications _ => instDecidableForall
  | .checkNow | .fireBlock _ | .install _ | .visit _ | .receive _ | .endPosting => instDecidableTrue
  | .endPoll => instDecidableTrue

theorem inv_step (op : Op O) (h : Inv s) (hpre : s.Pre op) (hundisturbed : s.Undisturbed op) :
    Inv (s.apply op) := by
  obtain ⟨-, hpre⟩ := hpre
  cases op with
  | registerForInstallationNotifications observer scheme =>
    exact h.register observer scheme hundisturbed
  | unregisterForNotifications observer =>
    refine h.unregister observer fun hpolling scheme hmem => hundisturbed hpolling scheme ?_ hmem
    rw [OrderedDict.mem_keys, get?_of_mem hmem]
    exact nofun
  | checkNow => exact h.toBooks.poll hpre
  | fireBlock blockId => exact h.fire hpre.1 blockId
  | install scheme => exact h.install scheme
  | visit scheme => exact h.visit hpre.1 hpre.2.1 hpre.2.2.2
  | receive observer =>
    obtain ⟨posting, hposting, hmem⟩ := hpre
    exact h.receive hposting hmem
  | endPosting =>
    obtain ⟨posting, hposting, hreceivers⟩ := hpre
    exact h.endPosting hposting hreceivers
  | endPoll => exact h.endPoll hpre.2.1 hpre.2.2

/-- In a run whose observers do nothing else inside their notifications, the registrations are
answered all along. -/
theorem answered_run {ops : List (Op O)} (hlegal : (machine O).Legal init ops)
    (hundisturbed : (machine O).Along Undisturbed init ops) :
    ∀ before, before <+: ops → Answered ((machine O).run init before) := by
  intro before hinitial
  have hboth := ((machine O).along_and hlegal hundisturbed).of_isPrefix hinitial
  have hinv : Inv ((machine O).run init before) :=
    Machine.run_invariant (M := machine O) (I := Inv)
      (fun _ op h hop => inv_step op h hop.1 hop.2) inv_init hboth
  exact hinv.answered

/-- Three observers wait for one app, the first of them for another app too. While it is notified of
the one it repeats its registration for the other, and unregisters the second observer. -/
theorem answered_run_two :
    let ops : List (Op Nat) := [.registerForInstallationNotifications 0 "foo",
      .registerForInstallationNotifications 1 "foo", .registerForInstallationNotifications 2 "foo",
      .registerForInstallationNotifications 0 "bar", .install "foo", .fireBlock 4, .visit "foo",
      .receive 0, .registerForInstallationNotifications 0 "bar", .unregisterForNotifications 1,
      .receive 1, .receive 2, .endPosting, .visit "bar", .endPoll, .fireBlock 1, .checkNow,
      .visit "bar", .endPoll]
    (machine Nat).Legal init ops ∧
      ∀ before, before <+: ops → Answered ((machine Nat).run init before) := by
  intro ops
  have hlegal : (machine Nat).Legal init ops := by decide +kernel
  have hundisturbed : (machine Nat).Along Undisturbed init ops := by decide +kernel
  exact ⟨hlegal, answered_run hlegal hundisturbed⟩

/-- An observer registers again inside its notification. The call is ignored, since the scheme is
given up only afterwards, and nobody polls for it. -/
theorem registered_inside_not_answered :
    let ops : List (Op Nat) := [.registerForInstallationNotifications 0 "foo", .install "foo",
      .fireBlock 1, .visit "foo", .receive 0, .registerForInstallationNotifications 0 "foo",
      .endPosting, .endPoll]
    (machine Nat).Legal init ops ∧ ¬Answered ((machine Nat).run init ops) := by
  refine ⟨by decide +kernel, fun hanswered => ?_⟩
  have hlive := hanswered.live (by decide +kernel) ⟨0, "foo", by decide +kernel⟩
  exact absurd hlive (by decide +kernel)

end InstallationNotifier

end ChromiumIos
