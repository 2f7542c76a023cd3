import ChromiumIos.App.DeferredInitializationRunner

/-!
# Deferred blocks run once

- `Follows`: a block does not run again or after it was withdrawn, and blocks run by the timer in
  the order of their numbers.
- `Kept`: nothing else happens, and every block that has neither run nor was withdrawn is in the
  queue or captured by the timer.
- `Inv`, `Scheduled`: what the runner keeps for that, one lemma for each part of its functions.
- `kept_iff`: it holds in a run if and only if no block runs its own name again, and no block
  leaves another one of its name behind.
-/

namespace ChromiumIos

open Lib List Option Function

namespace DeferredInitializationRunner

variable {N : Type} [DecidableEq N] {s : DeferredInitializationRunner N}

def Event.block : Event N → DeferredInitializationBlock N
  | .enqueued block => block
  | .ran block _ => block
  | .withdrawn block => block

/-- The second event may come after the first one. -/
def Follows : Event N → Event N → Prop
  | .ran block byTimer, .ran block' byTimer' =>
    block ≠ block' ∧ (byTimer = true → byTimer' = true → block.id < block'.id)
  | .withdrawn block, .ran block' _ => block ≠ block'
  | _, _ => True

/-- The blocks run once, in order, and those that wait are not lost. -/
structure Kept (s : DeferredInitializationRunner N) : Prop where
  ordered : s.history.Pairwise Follows
  waits : ∀ block, .enqueued block ∈ s.history → .withdrawn block ∉ s.history →
    (∀ byTimer, .ran block byTimer ∉ s.history) → s.runBlocks block.name = some block ∧
      (block.name ∈ s.blocksNameQueue ∨ s.timers = [some block])
  single : s.timers.length ≤ 1
  going : s.blocksNameQueue ≠ [] → s.timers ≠ [] ∨ ∃ frame ∈ s.running, frame.byTimer = true
  checked : s.dcheckFailed = false

/-! ## The invariant -/

/-- What the bookkeeping says about the blocks. -/
structure Inv (s : DeferredInitializationRunner N) : Prop where
  named : ∀ name block, s.runBlocks name = some block → block.name = name
  alive : ∀ name block, s.runBlocks name = some block → block ∉ s.cancelled
  recorded : ∀ name block, s.runBlocks name = some block → .enqueued block ∈ s.history
  unwithdrawn : ∀ name block, s.runBlocks name = some block → .withdrawn block ∉ s.history
  /-- A block is unregistered when it returns. -/
  inside : ∀ name block byTimer, s.runBlocks name = some block → .ran block byTimer ∈ s.history →
    ∃ frame ∈ s.running, frame.block = block
  started : ∀ frame ∈ s.running, .ran frame.block frame.byTimer ∈ s.history
  newest : ∀ frame ∈ s.running, ∀ block, s.runBlocks frame.block.name = some block →
    frame.block.id ≤ block.id
  nested : s.running.Pairwise fun inner outer =>
    inner.block.name = outer.block.name → outer.block.id < inner.block.id
  outermost : s.running.Pairwise fun inner _ => inner.byTimer = false
  queued : ∀ name ∈ s.blocksNameQueue, ∃ block, s.runBlocks name = some block
  sorted : s.blocksNameQueue.Pairwise fun name name' => ∀ block block',
    s.runBlocks name = some block → s.runBlocks name' = some block' → block.id < block'.id
  captured : ∀ nextBlock ∈ s.timers, ∃ block, nextBlock = some block ∧
    (block ∈ s.cancelled ∨ s.runBlocks block.name = some block) ∧
      ∀ name ∈ s.blocksNameQueue, ∀ block', s.runBlocks name = some block' → block.id < block'.id
  timed : ∀ block, .ran block true ∈ s.history →
    (∀ block', some block' ∈ s.timers → block.id < block'.id) ∧
      ∀ name ∈ s.blocksNameQueue, ∀ block', s.runBlocks name = some block' → block.id < block'.id
  waiting : ∀ name block, s.runBlocks name = some block →
    (∃ frame ∈ s.running, frame.block = block) ∨ name ∈ s.blocksNameQueue ∨ some block ∈ s.timers
  covered : ∀ block, .enqueued block ∈ s.history → s.runBlocks block.name = some block ∨
    .withdrawn block ∈ s.history ∨ ∃ byTimer, .ran block byTimer ∈ s.history
  known : ∀ event ∈ s.history, event.block.id < s.nextId
  knownCancelled : ∀ block ∈ s.cancelled, block.id < s.nextId
  ordered : s.history.Pairwise Follows
  checked : s.dcheckFailed = false

/-- The blocks that the timer runs. -/
def timerFrames (s : DeferredInitializationRunner N) : Nat := s.running.countP (·.byTimer)

/-- There is one timer, outstanding or at work, as long as there is something in the queue. -/
structure Scheduled (s : DeferredInitializationRunner N) : Prop where
  single : s.timers.length + s.timerFrames = if s.isBlockScheduled then 1 else 0
  going : s.blocksNameQueue ≠ [] → s.isBlockScheduled = true

omit [DecidableEq N] in
theorem inv_init : Inv (init : DeferredInitializationRunner N) where
  named := nofun
  alive := nofun
  recorded := nofun
  unwithdrawn := nofun
  inside := nofun
  started := nofun
  newest := nofun
  nested := .nil
  outermost := .nil
  queued := nofun
  sorted := .nil
  captured := nofun
  timed := nofun
  waiting := nofun
  covered := nofun
  known := nofun
  knownCancelled := nofun
  ordered := .nil
  checked := rfl

omit [DecidableEq N] in
theorem scheduled_init : Scheduled (init : DeferredInitializationRunner N) :=
  ⟨rfl, fun h => absurd rfl h⟩

omit [DecidableEq N] in
theorem Inv.kept (h : Inv s) (hs : Scheduled s) : Kept s where
  ordered := h.ordered
  waits block henqueued hwithdrawn hran := by
    have hregistered : s.runBlocks block.name = some block := by
      rcases h.covered block henqueued with hregistered | hwithdrawn' | ⟨byTimer, hran'⟩
      · exact hregistered
      · exact absurd hwithdrawn' hwithdrawn
      · exact absurd hran' (hran byTimer)
    refine ⟨hregistered, ?_⟩
    rcases h.waiting block.name block hregistered with ⟨frame, hframe, rfl⟩ | hqueue | htimer
    · exact absurd (h.started frame hframe) (hran frame.byTimer)
    · exact .inl hqueue
    · -- there is no other timer
      obtain ⟨first, rest, heq⟩ := exists_cons_of_ne_nil (ne_nil_of_mem htimer)
      have hsingle := hs.single
      rw [heq, length_cons] at hsingle
      have hrest : rest = [] := by
        refine length_eq_zero_iff.1 ?_
        split at hsingle <;> omega
      rw [heq, hrest, mem_singleton] at htimer
      exact .inr (by rw [heq, hrest, htimer])
  single := by
    have hsingle := hs.single
    split at hsingle <;> omega
  going hqueue := by
    have hsingle := hs.single
    rw [if_pos (hs.going hqueue)] at hsingle
    by_cases htimers : s.timers = []
    · rw [htimers, length_nil, Nat.zero_add] at hsingle
      have hpos : 0 < s.running.countP (·.byTimer) := by
        rw [← timerFrames, hsingle]
        exact Nat.zero_lt_one
      obtain ⟨frame, hframe, hbyTimer⟩ := countP_pos_iff.1 hpos
      exact .inr ⟨frame, hframe, hbyTimer⟩
    · exact .inl htimers
  checked := h.checked

/-! ## A name is taken out -/

theorem runBlocks_cancel {name name' : N} {block : DeferredInitializationBlock N} :
    (s.cancelBlockNamed name).runBlocks name' = some block ↔
      name' ≠ name ∧ s.runBlocks name' = some block := by
  show update s.runBlocks name none name' = some block ↔ _
  by_cases heq : name' = name
  · rw [heq, update_self]
    exact iff_of_false nofun fun h => h.1 rfl
  · rw [update_of_ne heq]
    exact ⟨fun h => ⟨heq, h⟩, fun h => h.2⟩

/-- The block under a name is taken out, because it is withdrawn or because it has returned. -/
theorem Inv.remove (h : Inv s) (name : N) {running : List (Frame N)} {events : List (Event N)}
    (hsublist : running.Sublist s.running)
    (hrunning : ∀ frame ∈ s.running, frame ∈ running ∨ frame.block.name = name)
    (hevents : ∀ event ∈ events, ∃ block, s.runBlocks name = some block ∧ event = .withdrawn block)
    (hcovered : ∀ block, s.runBlocks name = some block →
      .withdrawn block ∈ events ∨ ∃ byTimer, .ran block byTimer ∈ s.history) :
    Inv { s.cancelBlockNamed name with running := running, history := s.history ++ events } where
  named name' block hblock := h.named name' block (runBlocks_cancel.1 hblock).2
  alive name' block hblock hmem := by
    obtain ⟨hne, hblock⟩ := runBlocks_cancel.1 hblock
    rcases mem_append.1 hmem with hmem | hmem
    · rw [mem_toList] at hmem
      exact hne ((h.named name' block hblock).symm.trans (h.named name block hmem))
    · exact h.alive name' block hblock hmem
  recorded name' block hblock :=
    mem_append_left _ (h.recorded name' block (runBlocks_cancel.1 hblock).2)
  unwithdrawn name' block hblock hmem := by
    obtain ⟨hne, hblock⟩ := runBlocks_cancel.1 hblock
    rcases mem_append.1 hmem with hmem | hmem
    · exact h.unwithdrawn name' block hblock hmem
    · obtain ⟨block', hblock', heq⟩ := hevents _ hmem
      obtain rfl := Event.withdrawn.inj heq
      exact hne ((h.named name' block hblock).symm.trans (h.named name block hblock'))
  inside name' block byTimer hblock hmem := by
    obtain ⟨hne, hblock⟩ := runBlocks_cancel.1 hblock
    rcases mem_append.1 hmem with hmem | hmem
    · obtain ⟨frame, hframe, rfl⟩ := h.inside name' block byTimer hblock hmem
      rcases hrunning frame hframe with hframe' | hname
      · exact ⟨frame, hframe', rfl⟩
      · exact absurd ((h.named name' _ hblock).symm.trans hname) hne
    · obtain ⟨_, _, heq⟩ := hevents _ hmem
      cases heq
  started frame hframe := mem_append_left _ (h.started frame (hsublist.subset hframe))
  newest frame hframe block hblock :=
    h.newest frame (hsublist.subset hframe) block (runBlocks_cancel.1 hblock).2
  nested := h.nested.sublist hsublist
  outermost := h.outermost.sublist hsublist
  queued name' hname := by
    obtain ⟨hmem, hne⟩ := mem_filter.1 hname
    obtain ⟨block, hblock⟩ := h.queued name' hmem
    exact ⟨block, runBlocks_cancel.2 ⟨of_decide_eq_true hne, hblock⟩⟩
  sorted := (h.sorted.filter _).imp fun hlt block block' hblock hblock' =>
    hlt block block' (runBlocks_cancel.1 hblock).2 (runBlocks_cancel.1 hblock').2
  captured nextBlock hmem := by
    obtain ⟨block, heq, hfate, hlt⟩ := h.captured nextBlock hmem
    refine ⟨block, heq, ?_, fun name' hname block' hblock' =>
      hlt name' (mem_filter.1 hname).1 block' (runBlocks_cancel.1 hblock').2⟩
    rcases hfate with hcancelled | hblock
    · exact .inl (mem_append_right _ hcancelled)
    · by_cases hname : block.name = name
      · rw [hname] at hblock
        exact .inl (mem_append_left _ (mem_toList.2 hblock))
      · exact .inr (runBlocks_cancel.2 ⟨hname, hblock⟩)
  timed block hmem := by
    rcases mem_append.1 hmem with hmem | hmem
    · obtain ⟨htimers, hqueue⟩ := h.timed block hmem
      exact ⟨htimers, fun name' hname block' hblock' =>
        hqueue name' (mem_filter.1 hname).1 block' (runBlocks_cancel.1 hblock').2⟩
    · obtain ⟨_, _, heq⟩ := hevents _ hmem
      cases heq
  waiting name' block hblock := by
    obtain ⟨hne, hblock⟩ := runBlocks_cancel.1 hblock
    rcases h.waiting name' block hblock with ⟨frame, hframe, rfl⟩ | hqueue | htimer
    · rcases hrunning frame hframe with hframe' | hname
      · exact .inl ⟨frame, hframe', rfl⟩
      · exact absurd ((h.named name' _ hblock).symm.trans hname) hne
    · exact .inr (.inl (mem_filter.2 ⟨hqueue, decide_eq_true hne⟩))
    · exact .inr (.inr htimer)
  covered block hmem := by
    rcases mem_append.1 hmem with hmem | hmem
    · rcases h.covered block hmem with hblock | hwithdrawn | ⟨byTimer, hran⟩
      · by_cases hname : block.name = name
        · rw [hname] at hblock
          rcases hcovered block hblock with hwithdrawn | ⟨byTimer, hran⟩
          · exact .inr (.inl (mem_append_right _ hwithdrawn))
          · exact .inr (.inr ⟨byTimer, mem_append_left _ hran⟩)
        · exact .inl (runBlocks_cancel.2 ⟨hname, hblock⟩)
      · exact .inr (.inl (mem_append_left _ hwithdrawn))
      · exact .inr (.inr ⟨byTimer, mem_append_left _ hran⟩)
    · obtain ⟨_, _, heq⟩ := hevents _ hmem
      cases heq
  known event hmem := by
    rcases mem_append.1 hmem with hmem | hmem
    · exact h.known event hmem
    · obtain ⟨block, hblock, rfl⟩ := hevents _ hmem
      exact h.known (.enqueued block) (h.recorded name block hblock)
  knownCancelled block hmem := by
    rcases mem_append.1 hmem with hmem | hmem
    · exact h.known (.enqueued block) (h.recorded name block (mem_toList.1 hmem))
    · exact h.knownCancelled block hmem
  ordered := by
    have hfollows : ∀ event, ∀ event' ∈ events, Follows event event' := by
      intro event event' hmem
      obtain ⟨block, -, rfl⟩ := hevents event' hmem
      cases event <;> trivial
    refine pairwise_append.2 ⟨h.ordered, ?_, fun event _ => hfollows event⟩
    exact pairwise_of_forall_mem_list fun event _ => hfollows event
  checked := h.checked

theorem Inv.withdraw (h : Inv s) (name : N) : Inv (s.withdraw name) := by
  refine h.remove name (.refl _) (fun frame hframe => .inl hframe) ?_ ?_
  · intro event hmem
    obtain ⟨block, hblock, rfl⟩ := mem_map.1 hmem
    exact ⟨block, mem_toList.1 hblock, rfl⟩
  · intro block hblock
    exact .inl (mem_map.2 ⟨block, mem_toList.2 hblock, rfl⟩)

/-- Nothing is under the name of a withdrawn block. -/
theorem runBlocks_withdraw (name : N) : (s.withdraw name).runBlocks name = none :=
  update_self ..

/-! ## A block is added -/

theorem runBlocks_add {name name' : N} {block : DeferredInitializationBlock N} :
    (s.addBlock name).runBlocks name' = some block ↔
      (name' = name ∧ block = ⟨s.nextId, name⟩) ∨
        (name' ≠ name ∧ s.runBlocks name' = some block) := by
  show update s.runBlocks name _ name' = some block ↔ _
  by_cases heq : name' = name
  · rw [heq, update_self, some_inj]
    exact ⟨fun h => .inl ⟨rfl, h.symm⟩, fun h => h.elim (·.2.symm) fun h => absurd rfl h.1⟩
  · rw [update_of_ne heq]
    exact ⟨fun h => .inr ⟨heq, h⟩, fun h => h.elim (fun h => absurd h.1 heq) (·.2)⟩

omit [DecidableEq N] in
/-- The block that the timer has captured is older than the next one. -/
theorem Inv.captured_lt (h : Inv s) {block : DeferredInitializationBlock N}
    (hmem : some block ∈ s.timers) : block.id < s.nextId := by
  obtain ⟨_, heq, hfate, -⟩ := h.captured _ hmem
  obtain rfl := some.inj heq
  rcases hfate with hcancelled | hblock
  · exact h.knownCancelled block hcancelled
  · exact h.known (.enqueued block) (h.recorded _ block hblock)

omit [DecidableEq N] in
theorem Inv.registered_lt (h : Inv s) {name : N} {block : DeferredInitializationBlock N}
    (hblock : s.runBlocks name = some block) : block.id < s.nextId :=
  h.known (.enqueued block) (h.recorded name block hblock)

theorem Inv.add (h : Inv s) {name : N} (hname : s.runBlocks name = none) :
    Inv (s.addBlock name) := by
  -- the blocks that are registered already are those under other names
  have hother : ∀ {name' block}, s.runBlocks name' = some block → name' ≠ name := by
    rintro name' block hblock rfl
    exact some_ne_none block (hblock.symm.trans hname)
  have hkeep : ∀ {name' block}, s.runBlocks name' = some block →
      (s.addBlock name).runBlocks name' = some block :=
    fun hblock => runBlocks_add.2 (.inr ⟨hother hblock, hblock⟩)
  have hqueue : ∀ name' ∈ s.blocksNameQueue, ∀ block,
      (s.addBlock name).runBlocks name' = some block → s.runBlocks name' = some block := by
    intro name' hmem block hblock
    obtain ⟨block', hblock'⟩ := h.queued name' hmem
    exact (runBlocks_add.1 hblock).elim (fun hnew => absurd hnew.1 (hother hblock')) (·.2)
  -- what is older than every block of the queue is older than the new one
  have hlt : ∀ id, id < s.nextId → (∀ name' ∈ s.blocksNameQueue, ∀ block,
      s.runBlocks name' = some block → id < block.id) → ∀ name' ∈ s.blocksNameQueue ++ [name],
        ∀ block, (s.addBlock name).runBlocks name' = some block → id < block.id := by
    intro id hid hold name' hmem block hblock
    rcases runBlocks_add.1 hblock with ⟨-, rfl⟩ | ⟨hne, hblock⟩
    · exact hid
    · rcases mem_append.1 hmem with hmem | hmem
      · exact hold name' hmem block hblock
      · exact absurd (mem_singleton.1 hmem) hne
  have hfresh : ∀ event ∈ s.history, event.block ≠ ⟨s.nextId, name⟩ := by
    intro event hmem heq
    exact Nat.ne_of_lt (h.known event hmem) (congrArg DeferredInitializationBlock.id heq)
  have hhistory : ∀ {event}, event ∈ s.history → event ∈ (s.addBlock name).history :=
    fun hmem => mem_append_left _ hmem
  have hran : ∀ {block byTimer}, .ran block byTimer ∈ (s.addBlock name).history →
      .ran block byTimer ∈ s.history :=
    fun hmem => (mem_append.1 hmem).resolve_right fun hmem => by
      cases mem_singleton.1 hmem
  refine
    { named := ?_, alive := ?_, recorded := ?_, unwithdrawn := ?_, inside := ?_
      started := fun frame hframe => hhistory (h.started frame hframe)
      newest := ?_, nested := h.nested, outermost := h.outermost, queued := ?_, sorted := ?_
      captured := ?_, timed := ?_, waiting := ?_, covered := ?_, known := ?_
      knownCancelled := fun block hmem => Nat.lt_succ_of_lt (h.knownCancelled block hmem)
      ordered := ?_, checked := h.checked }
  · intro name' block hblock
    rcases runBlocks_add.1 hblock with ⟨rfl, rfl⟩ | ⟨-, hblock⟩
    · rfl
    · exact h.named name' block hblock
  · intro name' block hblock hmem
    rcases runBlocks_add.1 hblock with ⟨-, rfl⟩ | ⟨-, hblock⟩
    · exact Nat.ne_of_lt (h.knownCancelled _ hmem) rfl
    · exact h.alive name' block hblock hmem
  · intro name' block hblock
    rcases runBlocks_add.1 hblock with ⟨-, rfl⟩ | ⟨-, hblock⟩
    · exact mem_append_right _ (mem_singleton_self _)
    · exact hhistory (h.recorded name' block hblock)
  · intro name' block hblock hmem
    have hold : .withdrawn block ∈ s.history :=
      (mem_append.1 hmem).resolve_right fun hmem => by cases mem_singleton.1 hmem
    rcases runBlocks_add.1 hblock with ⟨-, rfl⟩ | ⟨-, hblock⟩
    · exact hfresh _ hold rfl
    · exact h.unwithdrawn name' block hblock hold
  · intro name' block byTimer hblock hmem
    rcases runBlocks_add.1 hblock with ⟨-, rfl⟩ | ⟨-, hblock⟩
    · exact absurd rfl (hfresh _ (hran hmem))
    · exact h.inside name' block byTimer hblock (hran hmem)
  · intro frame hframe block hblock
    rcases runBlocks_add.1 hblock with ⟨-, rfl⟩ | ⟨-, hblock⟩
    · exact Nat.le_of_lt (h.known _ (h.started frame hframe))
    · exact h.newest frame hframe block hblock
  · intro name' hmem
    rcases mem_append.1 hmem with hmem | hmem
    · obtain ⟨block, hblock⟩ := h.queued name' hmem
      exact ⟨block, hkeep hblock⟩
    · exact ⟨_, runBlocks_add.2 (.inl ⟨mem_singleton.1 hmem, rfl⟩)⟩
  · refine pairwise_append.2 ⟨?_, pairwise_singleton _ _, ?_⟩
    · refine h.sorted.imp_of_mem fun hmem hmem' hsorted block block' hblock hblock' => ?_
      exact hsorted block block' (hqueue _ hmem block hblock) (hqueue _ hmem' block' hblock')
    · intro name' hmem name'' hmem' block block' hblock hblock'
      have hold := hqueue name' hmem block hblock
      obtain rfl := mem_singleton.1 hmem'
      rcases runBlocks_add.1 hblock' with ⟨-, rfl⟩ | ⟨hne, -⟩
      · exact h.registered_lt hold
      · exact absurd rfl hne
  · intro nextBlock hmem
    obtain ⟨block, rfl, hfate, hold⟩ := h.captured nextBlock hmem
    exact ⟨block, rfl, hfate.imp_right hkeep, hlt block.id (h.captured_lt hmem) hold⟩
  · intro block hmem
    obtain ⟨htimers, hold⟩ := h.timed block (hran hmem)
    exact ⟨htimers, hlt block.id (h.known _ (hran hmem)) hold⟩
  · intro name' block hblock
    rcases runBlocks_add.1 hblock with ⟨rfl, -⟩ | ⟨-, hblock⟩
    · exact .inr (.inl (mem_append_right _ (mem_singleton_self _)))
    · exact (h.waiting name' block hblock).imp_right (.imp_left (mem_append_left _))
  · intro block hmem
    rcases mem_append.1 hmem with hmem | hmem
    · rcases h.covered block hmem with hblock | hwithdrawn | ⟨byTimer, hran⟩
      · exact .inl (hkeep hblock)
      · exact .inr (.inl (hhistory hwithdrawn))
      · exact .inr (.inr ⟨byTimer, hhistory hran⟩)
    · obtain rfl := Event.enqueued.inj (mem_singleton.1 hmem)
      exact .inl (runBlocks_add.2 (.inl ⟨rfl, rfl⟩))
  · intro event hmem
    rcases mem_append.1 hmem with hmem | hmem
    · exact Nat.lt_succ_of_lt (h.known event hmem)
    · rw [mem_singleton.1 hmem]
      exact Nat.lt_succ_self _
  · refine pairwise_append.2 ⟨h.ordered, pairwise_singleton _ _, ?_⟩
    intro event _ event' hmem
    rw [mem_singleton.1 hmem]
    cases event <;> trivial

/-! ## The next block is scheduled -/

section

omit [DecidableEq N]

theorem schedule_nil (hqueue : s.blocksNameQueue = []) :
    s.scheduleNextBlockWithDelay = { s with isBlockScheduled := false } := by
  simp only [scheduleNextBlockWithDelay, hqueue]

theorem schedule_cons {nextBlockName : N} {rest : List N}
    (hqueue : s.blocksNameQueue = nextBlockName :: rest) :
    s.scheduleNextBlockWithDelay =
      { s with
        dcheckFailed := s.dcheckFailed || (s.runBlocks nextBlockName).isNone
        timers := s.timers ++ [s.runBlocks nextBlockName]
        isBlockScheduled := true
        blocksNameQueue := rest } := by
  simp only [scheduleNextBlockWithDelay, hqueue]

theorem Inv.schedule (h : Inv s) (htimers : s.timers = []) :
    Inv s.scheduleNextBlockWithDelay := by
  cases hqueue : s.blocksNameQueue with
  | nil =>
    rw [schedule_nil hqueue]
    exact { h with }
  | cons nextBlockName rest =>
    rw [schedule_cons hqueue]
    obtain ⟨nextBlock, hnext⟩ := h.queued nextBlockName (hqueue ▸ mem_cons_self)
    obtain ⟨hfirst, hrest⟩ := pairwise_cons.1 (hqueue ▸ h.sorted)
    have hsub : ∀ name ∈ rest, name ∈ s.blocksNameQueue :=
      fun name hmem => hqueue ▸ mem_cons_of_mem _ hmem
    have hmemTimers : ∀ {captured}, captured ∈ s.timers ++ [s.runBlocks nextBlockName] →
        captured = some nextBlock := by
      intro captured hmem
      rw [htimers, nil_append, hnext] at hmem
      exact mem_singleton.1 hmem
    exact
      { h with
        queued := fun name hmem => h.queued name (hsub name hmem)
        sorted := hrest
        captured := by
          intro captured hmem
          refine ⟨nextBlock, hmemTimers hmem, .inr ?_, fun name hname block' hblock' =>
            hfirst name hname nextBlock block' hnext hblock'⟩
          rw [h.named nextBlockName nextBlock hnext]
          exact hnext
        timed := by
          intro block hmem
          obtain ⟨-, hold⟩ := h.timed block hmem
          refine ⟨fun block' hmem' => ?_, fun name hname => hold name (hsub name hname)⟩
          obtain rfl := some.inj (hmemTimers hmem')
          exact hold nextBlockName (hqueue ▸ mem_cons_self) block' hnext
        waiting := by
          intro name block hblock
          rcases h.waiting name block hblock with hrunning | hmem | hmem
          · exact .inl hrunning
          · rcases mem_cons.1 (hqueue ▸ hmem) with rfl | hmem
            · exact .inr (.inr (mem_append_right _ (mem_singleton.2 hblock.symm)))
            · exact .inr (.inl hmem)
          · exact .inr (.inr (mem_append_left _ hmem))
        checked := by simp [h.checked, hnext] }

theorem Scheduled.schedule (hidle : s.timers.length + s.timerFrames = 0) :
    Scheduled s.scheduleNextBlockWithDelay := by
  cases hqueue : s.blocksNameQueue with
  | nil =>
    rw [schedule_nil hqueue]
    exact ⟨hidle, fun hne => absurd hqueue hne⟩
  | cons nextBlockName rest =>
    rw [schedule_cons hqueue]
    refine ⟨?_, fun _ => rfl⟩
    show (s.timers ++ [_]).length + s.timerFrames = 1
    rw [length_append, length_singleton]
    omega

end

/-! ## A block runs -/

omit [DecidableEq N] in
/-- A registered block that is not running starts to run, perhaps because the timer fired that has
captured it. -/
theorem Inv.start (h : Inv s) {block : DeferredInitializationBlock N} {byTimer : Bool}
    {timers : List (Option (DeferredInitializationBlock N))}
    (hblock : s.runBlocks block.name = some block)
    (hidle : ∀ frame ∈ s.running, frame.block ≠ block)
    (hsub : ∀ captured ∈ timers, captured ∈ s.timers)
    (hfired : ∀ captured ∈ s.timers, captured ∈ timers ∨ captured = some block)
    (hbyTimer : byTimer = true → s.running = [] ∧ timers = [] ∧ some block ∈ s.timers) :
    Inv ({ s with timers := timers }.start block byTimer) := by
  have hnever : ∀ byTimer', .ran block byTimer' ∉ s.history := by
    intro byTimer' hmem
    obtain ⟨frame, hframe, heq⟩ := h.inside _ block byTimer' hblock hmem
    exact hidle frame hframe heq
  have hold : ∀ {event}, event ∈ s.history ++ [.ran block byTimer] →
      event ∈ s.history ∨ event = .ran block byTimer :=
    fun hmem => (mem_append.1 hmem).imp_right mem_singleton.1
  exact
    { named := h.named
      alive := h.alive
      recorded := fun name block' hblock' =>
        mem_append_left _ (h.recorded name block' hblock')
      unwithdrawn := fun name block' hblock' hmem =>
        h.unwithdrawn name block' hblock' ((hold hmem).resolve_right nofun)
      inside := by
        intro name block' byTimer' hblock' hmem
        rcases hold hmem with hmem | heq
        · obtain ⟨frame, hframe, heq⟩ := h.inside name block' byTimer' hblock' hmem
          exact ⟨frame, mem_cons_of_mem _ hframe, heq⟩
        · exact ⟨_, mem_cons_self, (Event.ran.inj heq).1.symm⟩
      started := by
        intro frame hframe
        rcases mem_cons.1 hframe with rfl | hframe
        · exact mem_append_right _ (mem_singleton_self _)
        · exact mem_append_left _ (h.started frame hframe)
      newest := by
        intro frame hframe block' hblock'
        rcases mem_cons.1 hframe with rfl | hframe
        · exact Nat.le_of_eq (congrArg (·.id) (some.inj (hblock.symm.trans hblock')))
        · exact h.newest frame hframe block' hblock'
      nested := by
        refine pairwise_cons.2 ⟨fun outer houter hname => ?_, h.nested⟩
        -- of the blocks of one name, the registered one is the newest
        have hle := h.newest outer houter block (hname ▸ hblock)
        refine Nat.lt_of_le_of_ne hle fun hid => hidle outer houter ?_
        have hname : block.name = outer.block.name := hname
        cases hout : outer.block
        rw [hout] at hid hname
        cases block
        exact congrArg₂ DeferredInitializationBlock.mk hid hname.symm
      outermost := by
        refine pairwise_cons.2 ⟨fun outer houter => ?_, h.outermost⟩
        by_contra htimer
        rw [(hbyTimer (eq_true_of_ne_false htimer)).1] at houter
        exact absurd houter not_mem_nil
      queued := h.queued
      sorted := h.sorted
      captured := fun captured hmem => h.captured captured (hsub captured hmem)
      timed := by
        intro block' hmem
        rcases hold hmem with hmem | heq
        · obtain ⟨htimers, hqueue⟩ := h.timed block' hmem
          exact ⟨fun block'' hmem' => htimers block'' (hsub _ hmem'), hqueue⟩
        · obtain ⟨rfl, htimer⟩ := Event.ran.inj heq
          obtain ⟨-, rfl, hcaptured⟩ := hbyTimer htimer.symm
          obtain ⟨_, heq', -, hqueue⟩ := h.captured _ hcaptured
          obtain rfl := some.inj heq'
          exact ⟨nofun, hqueue⟩
      waiting := by
        intro name block' hblock'
        rcases h.waiting name block' hblock' with ⟨frame, hframe, heq⟩ | hqueue | htimer
        · exact .inl ⟨frame, mem_cons_of_mem _ hframe, heq⟩
        · exact .inr (.inl hqueue)
        · rcases hfired _ htimer with htimer | heq
          · exact .inr (.inr htimer)
          · exact .inl ⟨_, mem_cons_self, (some.inj heq).symm⟩
      covered := by
        intro block' hmem
        rcases h.covered block' ((hold hmem).resolve_right nofun) with
          hblock' | hwithdrawn | ⟨byTimer', hran⟩
        · exact .inl hblock'
        · exact .inr (.inl (mem_append_left _ hwithdrawn))
        · exact .inr (.inr ⟨byTimer', mem_append_left _ hran⟩)
      known := by
        intro event hmem
        rcases hold hmem with hmem | rfl
        · exact h.known event hmem
        · exact h.registered_lt hblock
      knownCancelled := h.knownCancelled
      ordered := by
        refine pairwise_append.2 ⟨h.ordered, pairwise_singleton _ _, ?_⟩
        intro event hmem event' hmem'
        rw [mem_singleton.1 hmem']
        cases event with
        | enqueued => trivial
        | withdrawn block' =>
          rintro rfl
          exact h.unwithdrawn _ _ hblock hmem
        | ran block' byTimer' =>
          refine ⟨?_, fun htimer' htimer => ?_⟩
          · rintro rfl
            exact hnever byTimer' hmem
          · exact (h.timed block' (htimer' ▸ hmem)).1 block (hbyTimer htimer).2.2
      checked := h.checked }

omit [DecidableEq N] in
/-- A timer fires for a block that was cancelled in the meantime. -/
theorem Inv.drop (h : Inv s) {block : DeferredInitializationBlock N}
    {rest : List (Option (DeferredInitializationBlock N))} (htimers : s.timers = some block :: rest)
    (hcancelled : block ∈ s.cancelled) : Inv { s with timers := rest } :=
  have hsub : ∀ captured ∈ rest, captured ∈ s.timers :=
    fun _ hmem => htimers ▸ mem_cons_of_mem _ hmem
  { h with
    captured := fun captured hmem => h.captured captured (hsub captured hmem)
    timed := fun block' hmem =>
      ⟨fun block'' hmem' => (h.timed block' hmem).1 block'' (hsub _ hmem'),
        (h.timed block' hmem).2⟩
    waiting := by
      intro name block' hblock'
      refine (h.waiting name block' hblock').imp_right (.imp_right fun hmem => ?_)
      rcases mem_cons.1 (htimers ▸ hmem) with heq | hmem
      · obtain rfl := some.inj heq
        exact absurd hcancelled (h.alive name block' hblock')
      · exact hmem }

/-! ## The parts of a step -/

theorem Scheduled.withdraw (hs : Scheduled s) (name : N) : Scheduled (s.withdraw name) where
  single := hs.single
  going hqueue := hs.going fun hempty => hqueue (by
    show s.blocksNameQueue.filter _ = []
    rw [hempty, filter_nil])

theorem Inv.enqueue (h : Inv s) (hs : Scheduled s) (name : N) : Inv (s.enqueueBlockNamed name) := by
  have hadded := (h.withdraw name).add (runBlocks_withdraw name)
  show Inv (if !s.isBlockScheduled then _ else _)
  split
  · next hunscheduled =>
    refine hadded.schedule (length_eq_zero_iff.1 ?_)
    have hsingle := hs.single
    rw [Bool.not_eq_true'] at hunscheduled
    rw [hunscheduled] at hsingle
    exact (Nat.add_eq_zero_iff.1 hsingle).1
  · exact hadded

theorem Scheduled.enqueue (hs : Scheduled s) (name : N) :
    Scheduled (s.enqueueBlockNamed name) := by
  have hsingle := hs.single
  show Scheduled (if !s.isBlockScheduled then _ else _)
  cases hscheduled : s.isBlockScheduled with
  | true => exact ⟨hsingle, fun _ => hscheduled⟩
  | false =>
    rw [hscheduled] at hsingle
    exact Scheduled.schedule hsingle

omit [DecidableEq N] in
/-- While there is a timer, none of the running blocks is the timer's. -/
theorem Scheduled.of_timers (hs : Scheduled s) {captured : Option (DeferredInitializationBlock N)}
    {rest : List (Option (DeferredInitializationBlock N))} (htimers : s.timers = captured :: rest) :
    rest = [] ∧ s.timerFrames = 0 ∧ s.isBlockScheduled = true := by
  have hsingle := hs.single
  rw [htimers, length_cons] at hsingle
  split at hsingle
  · next hscheduled => exact ⟨length_eq_zero_iff.1 (by omega), by omega, hscheduled⟩
  · omega

theorem timer_kept (h : Inv s) (hs : Scheduled s) (hrunning : s.running = []) :
    Inv s.timerFires ∧ Scheduled s.timerFires := by
  cases htimers : s.timers with
  | nil => simpa only [timerFires, htimers] using ⟨h, hs⟩
  | cons captured rest =>
    obtain ⟨rfl, hframes, hscheduled⟩ := hs.of_timers htimers
    obtain ⟨block, rfl, hfate, -⟩ := h.captured captured (htimers ▸ mem_cons_self)
    have hmem : some block ∈ s.timers := htimers ▸ mem_cons_self
    simp only [timerFires, htimers]
    split
    · next hcancelled =>
      exact ⟨(h.drop htimers hcancelled).schedule rfl,
        Scheduled.schedule ((Nat.zero_add _).trans hframes)⟩
    · next hcancelled =>
      refine ⟨h.start (hfate.resolve_left hcancelled) ?_ nofun ?_ fun _ => ⟨hrunning, rfl, hmem⟩,
        ?_, fun _ => hscheduled⟩
      · intro frame hframe
        rw [hrunning] at hframe
        exact absurd hframe not_mem_nil
      · intro captured hcaptured
        exact .inr (mem_singleton.1 (htimers ▸ hcaptured))
      · show 0 + (⟨block, true⟩ :: s.running).countP (·.byTimer) =
          if s.isBlockScheduled then 1 else 0
        rw [hrunning, hscheduled]
        rfl

theorem run_kept (h : Inv s) (hs : Scheduled s) {name : N}
    (hidle : ∀ frame ∈ s.running, s.runBlocks name ≠ some frame.block) :
    Inv (s.runBlockIfNecessary name) ∧ Scheduled (s.runBlockIfNecessary name) := by
  rw [runBlockIfNecessary]
  cases hblock : s.runBlocks name with
  | none => exact ⟨h, hs⟩
  | some block =>
    have hname := h.named name block hblock
    dsimp only
    rw [if_neg (h.alive name block hblock)]
    refine ⟨h.start (hname ▸ hblock) (fun frame hframe heq => ?_) (fun _ => id) (fun _ => .inl)
      nofun, ?_, hs.going⟩
    · exact hidle frame hframe (by rw [hblock, heq])
    · show s.timers.length + (⟨block, false⟩ :: s.running).countP (·.byTimer) = _
      rw [countP_cons_of_neg Bool.false_ne_true]
      exact hs.single

theorem return_kept (h : Inv s) (hs : Scheduled s) {frame : Frame N} {rest : List (Frame N)}
    (hrunning : s.running = frame :: rest)
    (hown : ∀ block, s.runBlocks frame.block.name = some block → block = frame.block) :
    Inv s.blockReturns ∧ Scheduled s.blockReturns := by
  have hremoved : Inv ({ s with running := rest }.cancelBlockNamed frame.block.name) := by
    have hmem : frame ∈ s.running := hrunning ▸ mem_cons_self
    have hrest : rest.Sublist s.running := hrunning ▸ sublist_cons_self frame rest
    have hothers : ∀ other ∈ s.running, other ∈ rest ∨ other.block.name = frame.block.name := by
      intro other hother
      rcases mem_cons.1 (hrunning ▸ hother) with rfl | hother
      · exact .inr rfl
      · exact .inl hother
    have hnothing : ∀ event ∈ ([] : List (Event N)),
        ∃ block, s.runBlocks frame.block.name = some block ∧ event = .withdrawn block := nofun
    have hnone := h.remove frame.block.name hrest hothers hnothing fun block hblock =>
      .inr ⟨frame.byTimer, hown block hblock ▸ h.started frame hmem⟩
    rwa [append_nil] at hnone
  have hsingle := hs.single
  have hgoing : ∀ {scheduled},
      ({ s with running := rest }.cancelBlockNamed frame.block.name).blocksNameQueue ≠ [] →
        s.isBlockScheduled = scheduled → scheduled = true := by
    rintro _ hqueue rfl
    exact (hs.withdraw frame.block.name).going hqueue
  simp only [blockReturns, hrunning]
  rw [timerFrames, hrunning, countP_cons] at hsingle
  split
  · next htimer =>
    rw [htimer] at hsingle
    -- this is the one timer, so there is no other one
    have hnone : s.timers.length + rest.countP (·.byTimer) = 0 := by
      rw [if_pos rfl] at hsingle
      split at hsingle <;> omega
    have htimers : s.timers = [] := length_eq_zero_iff.1 (Nat.add_eq_zero_iff.1 hnone).1
    exact ⟨hremoved.schedule htimers, Scheduled.schedule hnone⟩
  · next htimer =>
    rw [if_neg htimer, Nat.add_zero] at hsingle
    exact ⟨hremoved, hsingle, fun hqueue => hgoing hqueue rfl⟩

/-! ## When blocks are kept -/

/-- A block is not run by name while it runs, and when a block returns no other block is
registered under its name. -/
def Undisturbed (s : DeferredInitializationRunner N) : Op N → Prop
  | .runBlockIfNecessary name => ∀ frame ∈ s.running, s.runBlocks name ≠ some frame.block
  | .blockReturns => ∀ frame ∈ s.running.head?, ∀ block ∈ s.runBlocks frame.block.name,
      block = frame.block
  | _ => True

theorem step_kept (op : Op N) (h : Inv s ∧ Scheduled s) (hpre : s.Pre op)
    (hundisturbed : s.Undisturbed op) : Inv (s.apply op) ∧ Scheduled (s.apply op) := by
  obtain ⟨h, hs⟩ := h
  cases op with
  | enqueueBlockNamed name => exact ⟨h.enqueue hs name, hs.enqueue name⟩
  | runBlockIfNecessary name => exact run_kept h hs hundisturbed
  | cancelBlockNamed name => exact ⟨h.withdraw name, hs.withdraw name⟩
  | timerFires => exact timer_kept h hs hpre.1
  | blockReturns =>
    obtain ⟨frame, rest, hrunning⟩ := exists_cons_of_ne_nil hpre
    refine return_kept h hs hrunning (hundisturbed frame ?_)
    rw [hrunning]
    rfl

omit [DecidableEq N] in
/-- A block that runs again would have to be another one. -/
theorem Inv.not_kept_of_run (h : Inv s) {frame : Frame N} (hframe : frame ∈ s.running) :
    ¬Kept (s.start frame.block false) := by
  intro hkept
  have hfollows := (pairwise_append.1 hkept.ordered).2.2 _ (h.started frame hframe) _
    (mem_singleton_self _)
  exact hfollows.1 rfl

/-- The block that was registered under the name of the one that returns is lost. -/
theorem Inv.not_kept_of_return (h : Inv s) {frame : Frame N} {rest : List (Frame N)}
    (hrunning : s.running = frame :: rest) {block : DeferredInitializationBlock N}
    (hblock : s.runBlocks frame.block.name = some block) (hne : block ≠ frame.block) :
    ¬Kept s.blockReturns := by
  have hname := h.named _ block hblock
  have hhistory : s.blockReturns.history = s.history := by
    simp only [blockReturns, hrunning, scheduleNextBlockWithDelay]
    repeat' split <;> try rfl
  have hgone : s.blockReturns.runBlocks block.name = none := by
    rw [hname]
    simp only [blockReturns, hrunning, scheduleNextBlockWithDelay]
    repeat' split <;> try exact update_self ..
  -- the newer block is below none of its name, so it has not run yet
  have hnever : ∀ byTimer, .ran block byTimer ∉ s.history := by
    intro byTimer hmem
    obtain ⟨outer, houter, rfl⟩ := h.inside _ block byTimer hblock hmem
    rw [hrunning] at houter
    rcases mem_cons.1 houter with rfl | houter
    · exact hne rfl
    · have hnested := h.nested
      rw [hrunning] at hnested
      have hlt := (pairwise_cons.1 hnested).1 outer houter hname.symm
      have hle := h.newest frame (hrunning ▸ mem_cons_self) _ hblock
      omega
  intro hkept
  have hwaits := hkept.waits block (hhistory ▸ h.recorded _ block hblock)
    (hhistory ▸ h.unwithdrawn _ block hblock) fun byTimer => hhistory ▸ hnever byTimer
  rw [hgone] at hwaits
  exact absurd hwaits.1 nofun

theorem step_lost (op : Op N) (h : Inv s ∧ Scheduled s) (hpre : s.Pre op)
    (hdisturbed : ¬s.Undisturbed op) : ¬Kept (s.apply op) := by
  obtain ⟨h, -⟩ := h
  cases op with
  | runBlockIfNecessary name =>
    obtain ⟨frame, hframe, hblock⟩ : ∃ frame ∈ s.running, s.runBlocks name = some frame.block := by
      by_contra hnone
      exact hdisturbed fun frame hframe heq => hnone ⟨frame, hframe, heq⟩
    show ¬Kept (s.runBlockIfNecessary name)
    rw [runBlockIfNecessary, hblock]
    dsimp only
    rw [if_neg (h.alive name frame.block hblock)]
    exact h.not_kept_of_run hframe
  | blockReturns =>
    obtain ⟨frame, rest, hrunning⟩ := exists_cons_of_ne_nil hpre
    obtain ⟨block, hblock, hne⟩ : ∃ block, s.runBlocks frame.block.name = some block ∧
        block ≠ frame.block := by
      by_contra hnone
      refine hdisturbed fun frame' hframe' block hblock => ?_
      rw [hrunning] at hframe'
      obtain rfl := some.inj hframe'
      by_contra hne
      exact hnone ⟨block, hblock, hne⟩
    exact h.not_kept_of_return hrunning hblock hne
  | enqueueBlockNamed | cancelBlockNamed | timerFires => exact absurd trivial hdisturbed

instance (s : DeferredInitializationRunner N) : ∀ op, Decidable (s.Undisturbed op)
  | .enqueueBlockNamed _ => instDecidableTrue
  | .runBlockIfNecessary _ => List.decidableBAll _ _
  | .cancelBlockNamed _ | .timerFires => instDecidableTrue
  | .blockReturns => inferInstanceAs (Decidable (∀ frame ∈ _, _))

/-- In a run the blocks are kept if and only if no block is run by name while it runs, and none
returns while another block is registered under its name. -/
theorem kept_iff {ops : List (Op N)} (hlegal : (machine N).Legal init ops) :
    (∀ before, before <+: ops → Kept ((machine N).run init before)) ↔
      (machine N).Along Undisturbed init ops :=
  Machine.always_iff_along (M := machine N) (I := fun s => Inv s ∧ Scheduled s)
    (fun _ h => h.1.kept h.2) (fun _ op h => step_kept op h) (fun _ op h => step_lost op h)
    ⟨inv_init, scheduled_init⟩ hlegal

/-- Block `2` runs inside block `1`, ahead of block `3`. -/
theorem kept_iff_nested :
    let ops : List (Op Nat) := [.enqueueBlockNamed 1, .enqueueBlockNamed 2, .enqueueBlockNamed 3,
      .timerFires, .runBlockIfNecessary 2, .blockReturns, .blockReturns]
    (machine Nat).Legal init ops ∧
      ∀ before, before <+: ops → Kept ((machine Nat).run init before) := by
  intro ops
  have hlegal : (machine Nat).Legal init ops := by decide
  have hundisturbed : (machine Nat).Along Undisturbed init ops := by decide
  exact ⟨hlegal, (kept_iff hlegal).2 hundisturbed⟩

/-- A block enqueues a block of its own name. This one is unregistered when the first one returns,
and never runs. -/
theorem own_name_not_kept :
    let ops : List (Op Nat) :=
      [.enqueueBlockNamed 1, .timerFires, .enqueueBlockNamed 1, .blockReturns]
    (machine Nat).Legal init ops ∧ ¬Kept ((machine Nat).run init ops) := by
  refine ⟨by decide, fun hkept => ?_⟩
  have hnever : ∀ byTimer, Event.ran ⟨1, 1⟩ byTimer ∉ [.enqueued (⟨0, 1⟩ :
      DeferredInitializationBlock Nat), .ran ⟨0, 1⟩ true, .withdrawn ⟨0, 1⟩, .enqueued ⟨1, 1⟩] := by
    decide
  have hwaits := hkept.waits ⟨1, 1⟩ (by decide) (by decide) hnever
  exact absurd hwaits.1 (by decide)

end DeferredInitializationRunner

end ChromiumIos
