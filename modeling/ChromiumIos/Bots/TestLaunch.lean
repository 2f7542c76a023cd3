import ChromiumIos.Bots.RunStatuses

/-!
# No test is forgotten by a launch

- `Launch.Inv`: the collections hold each test once, and every test that was run.
- `Inv.keep`, `Inv.retryTest`: one more run before the retries, and one retry.
- `resumeLoop_isSome`: each crash leaves one test less to crash.
- `launch_accounts`: the launch ends, and what it returns.
-/

namespace ChromiumIos

open Lib List OrderedDict

namespace GTest

/-- A failure of the test is one: its name says neither that it fails nor that it is flaky. -/
structure Strict (test : TestName) : Prop where
  fails : contains "FAILS_".toList test = false
  flaky : GTestResult.isFlaky test = false

namespace Launch

/-- The test is in a collection. -/
def Collected (s : Launch) (test : TestName) : Prop :=
  test ∈ s.passed ∨ test ∈ s.failed.keys ∨ test ∈ s.flaked.keys

/-- The test is in one collection only. -/
def ExactlyOne (s : Launch) (test : TestName) : Prop :=
  test ∈ s.passed ∧ test ∉ s.failed.keys ∧ test ∉ s.flaked.keys ∨
    test ∉ s.passed ∧ test ∈ s.failed.keys ∧ test ∉ s.flaked.keys ∨
    test ∉ s.passed ∧ test ∉ s.failed.keys ∧ test ∈ s.flaked.keys

/-- The last run with a `RUN` line of the test. -/
def lastRun (runs : List RunOutput) (test : TestName) : Option RunOutput :=
  (runs.filter fun out => out.Ran test).getLast?

/-- The test has passed in its last run, if there was one. -/
def LastPassed (runs : List RunOutput) (test : TestName) : Prop :=
  ∀ out, lastRun runs test = some out → out.Passed test

theorem lastRun_append (runs : List RunOutput) (out : RunOutput) (test : TestName) :
    lastRun (runs ++ [out]) test = if out.Ran test then some out else lastRun runs test := by
  rw [lastRun, filter_append]
  by_cases hran : out.Ran test
  · rw [if_pos hran]
    simp [hran]
  · rw [if_neg hran]
    simp [hran, lastRun]

theorem LastPassed.nil (test : TestName) : LastPassed [] test := nofun

/-- One more run, which the test passes if it is run. -/
theorem LastPassed.append {runs : List RunOutput} {test : TestName}
    (h : LastPassed runs test) {out : RunOutput} (hpassed : out.Ran test → out.Passed test) :
    LastPassed (runs ++ [out]) test := by
  intro last hlast
  rw [lastRun_append] at hlast
  split at hlast
  · next hran =>
    obtain rfl := Option.some.inj hlast
    exact hpassed hran
  · exact h last hlast

/-- The filter that resumes allows the tests that are in no collection. -/
theorem resumeFilter_allows (s : Launch) (test : TestName) :
    s.resumeFilter.allows test = true ↔ ¬s.Collected test := by
  have hmem : test ∈ s.passed ++ s.failed.keys ++ s.flaked.keys ↔ s.Collected test := by
    rw [mem_append, mem_append, or_assoc]
    rfl
  rw [← hmem, resumeFilter, getLaunchCommand]
  split
  · next hnil =>
    rw [hnil]
    exact iff_of_true rfl not_mem_nil
  · exact decide_eq_true_iff

end Launch

/-! ## One run -/

namespace Executes

variable {tests : List TestName} {filter : Filter} {out : RunOutput}
  {executed : List (TestName × Bool)} {ending : Ending}

section

variable (h : Executes tests filter out executed ending) (hnodup : tests.Nodup)
include h hnodup

variable {test : TestName}

/-- A test of a collection of the run has a status. -/
theorem status_of_collected
    (hmem : test ∈ out.result.passedTests ∨ test ∈ out.result.failedTests.keys ∨
      test ∈ out.result.flakedTests.keys) : ending.status executed test ≠ none := by
  rcases hmem with hpassed | hfailed | hflaked
  · rw [((h.mem_passedTests hnodup).1 hpassed).1]
    exact nofun
  · obtain ⟨status, hsome, -⟩ :=
      (h.mem_failedTests_iff hnodup).1 (out.mem_keys_failedTests.1 hfailed).1
    rw [hsome]
    exact nofun
  · obtain ⟨status, hsome, -⟩ :=
      (h.mem_failedTests_iff hnodup).1 (out.mem_keys_flakedTests.1 hflaked).1
    rw [hsome]
    exact nofun

/-- A run puts a test in one collection at most. -/
theorem exclusive (test : TestName) :
    ¬(test ∈ out.result.passedTests ∧ test ∈ out.result.failedTests.keys) ∧
      ¬(test ∈ out.result.passedTests ∧ test ∈ out.result.flakedTests.keys) ∧
      ¬(test ∈ out.result.failedTests.keys ∧ test ∈ out.result.flakedTests.keys) := by
  have hok : test ∈ out.result.passedTests →
      test ∉ GTestLogParser.failedTests out.items false true := by
    intro hpassed hfailing
    obtain ⟨status, hsome, hcounted⟩ := (h.mem_failedTests_iff hnodup).1 hfailing
    obtain rfl : status = .ok :=
      Option.some.inj (hsome.symm.trans ((h.mem_passedTests hnodup).1 hpassed).1)
    cases hcounted
  refine ⟨fun hboth => ?_, fun hboth => ?_, fun hboth => ?_⟩
  · exact hok hboth.1 (out.mem_keys_failedTests.1 hboth.2).1
  · exact hok hboth.1 (out.mem_keys_flakedTests.1 hboth.2).1
  · have hfailed := (out.mem_keys_failedTests.1 hboth.1).2
    rw [(out.mem_keys_flakedTests.1 hboth.2).2] at hfailed
    cases hfailed

/-- A test that was run passed, or is among the failing tests, but for what its name says. -/
theorem passed_or_failing (hran : out.Ran test) (hfails : contains "FAILS_".toList test = false) :
    test ∈ out.result.passedTests ∧ out.Passed test ∨
      test ∈ GTestLogParser.failedTests out.items false true := by
  obtain ⟨status, hstatus⟩ := Option.ne_none_iff_exists'.1 (h.ran_iff.1 hran)
  have hcases : status = .ok ∨ status = .started ∨ status = .failed := by
    rw [Ending.status] at hstatus
    split at hstatus
    · exact .inr (.inl (Option.some.inj hstatus).symm)
    · exact (outcome_ok_or_failed hstatus).elim .inl fun hfailed => .inr (.inr hfailed)
  rcases hcases with rfl | rfl | rfl
  · exact .inl ⟨(h.mem_passedTests hnodup).2 ⟨hstatus, hfails⟩, h.passed_of_ok hstatus⟩
  · exact .inr ((h.mem_failedTests_iff hnodup).2 ⟨_, hstatus, rfl⟩)
  · exact .inr ((h.mem_failedTests_iff hnodup).2 ⟨_, hstatus, by rw [counted, hfails]; rfl⟩)

/-- A test that was run is in a collection of the run, but for what its name says. -/
theorem collected (hran : out.Ran test) (hfails : contains "FAILS_".toList test = false) :
    test ∈ out.result.passedTests ∨ test ∈ out.result.failedTests.keys ∨
      test ∈ out.result.flakedTests.keys := by
  rcases h.passed_or_failing hnodup hran hfails with hpassed | hfailing
  · exact .inl hpassed.1
  · cases hflaky : GTestResult.isFlaky test with
    | false => exact .inr (.inl (out.mem_keys_failedTests.2 ⟨hfailing, hflaky⟩))
    | true => exact .inr (.inr (out.mem_keys_flakedTests.2 ⟨hfailing, hflaky⟩))

/-- A strict test that was run passed or failed. -/
theorem passed_or_failed (hstrict : Strict test) (hran : out.Ran test) :
    out.Passed test ∨ test ∈ out.result.failedTests.keys := by
  rcases h.passed_or_failing hnodup hran hstrict.fails with hpassed | hfailing
  · exact .inl hpassed.2
  · exact .inr (out.mem_keys_failedTests.2 ⟨hfailing, hstrict.flaky⟩)

end

end Executes

/-! ## The collections -/

namespace Launch

/-- What holds of a launch between its runs. -/
structure Inv (tests : List TestName) (s : Launch) : Prop where
  exclusive : ∀ test, ¬(test ∈ s.passed ∧ test ∈ s.failed.keys) ∧
    ¬(test ∈ s.passed ∧ test ∈ s.flaked.keys) ∧ ¬(test ∈ s.failed.keys ∧ test ∈ s.flaked.keys)
  covered : ∀ run ∈ s.kept, ∀ test, run.2.Ran test → contains "FAILS_".toList test = false →
    s.Collected test
  ran : ∀ test, s.Collected test → ∃ run ∈ s.kept, run.2.Ran test
  keptRuns : ∀ run ∈ s.kept, run.2 ∈ s.runs
  accounted : ∀ test, Strict test → LastPassed s.runs test ∨ test ∈ s.failed.keys
  last : ∀ run, s.kept.getLast? = some run → ∀ test ∈ tests, run.1.allows test = false →
    ∃ earlier ∈ s.kept, earlier.2.Ran test
  keptOne : s.kept ≠ []

namespace Inv

variable {tests : List TestName} {s : Launch}

/-- A test that a kept run ran is in one collection only. -/
theorem exactlyOne (h : Inv tests s) {run : Filter × RunOutput} (hrun : run ∈ s.kept)
    {test : TestName} (hran : run.2.Ran test) (hfails : contains "FAILS_".toList test = false) :
    s.ExactlyOne test := by
  have hexclusive := h.exclusive test
  have hcollected := h.covered run hrun test hran hfails
  rw [Collected] at hcollected
  rw [ExactlyOne]
  obtain ⟨hpassedFailed, hpassedFlaked, hfailedFlaked⟩ := hexclusive
  rcases hcollected with hpassed | hfailed | hflaked
  · exact .inl ⟨hpassed, fun h => hpassedFailed ⟨hpassed, h⟩, fun h => hpassedFlaked ⟨hpassed, h⟩⟩
  · exact .inr (.inl ⟨fun h => hpassedFailed ⟨h, hfailed⟩, hfailed,
      fun h => hfailedFlaked ⟨hfailed, h⟩⟩)
  · exact .inr (.inr ⟨fun h => hpassedFlaked ⟨h, hflaked⟩, fun h => hfailedFlaked ⟨h, hflaked⟩,
      hflaked⟩)

/-- The first run that is kept. A run that was taken for a crash on startup had no failing
tests. -/
theorem first (hnodup : tests.Nodup) {discarded : List RunOutput}
    (hdiscarded : ∀ test, Strict test → LastPassed discarded test) {out : RunOutput}
    {executed : List (TestName × Bool)} {ending : Ending}
    (hout : Executes tests .all out executed ending) : Inv tests (.first discarded out) where
  exclusive := hout.exclusive hnodup
  covered := by
    intro run hrun test hran hfails
    obtain rfl := mem_singleton.1 hrun
    exact hout.collected hnodup hran hfails
  ran := by
    intro test hcollected
    exact ⟨(.all, out), mem_singleton_self _,
      hout.ran_iff.2 (hout.status_of_collected hnodup hcollected)⟩
  keptRuns := by
    intro run hrun
    obtain rfl := mem_singleton.1 hrun
    exact mem_append_right _ (mem_singleton_self out)
  accounted := by
    intro test hstrict
    by_cases hfailed : test ∈ out.result.failedTests.keys
    · exact .inr hfailed
    · refine .inl ((hdiscarded test hstrict).append fun hran => ?_)
      exact (hout.passed_or_failed hnodup hstrict hran).resolve_right hfailed
  last := by
    intro run hrun test _ hallows
    obtain rfl := Option.some.inj hrun
    cases hallows
  keptOne := cons_ne_nil _ _

/-- Collections that share no test with those before. -/
theorem exclusive_or {p f k p' f' k' : Prop} (hbefore : ¬(p ∧ f) ∧ ¬(p ∧ k) ∧ ¬(f ∧ k))
    (hnow : ¬(p' ∧ f') ∧ ¬(p' ∧ k') ∧ ¬(f' ∧ k')) (hnew : p' ∨ f' ∨ k' → ¬(p ∨ f ∨ k)) :
    ¬((p ∨ p') ∧ (f ∨ f')) ∧ ¬((p ∨ p') ∧ (k ∨ k')) ∧ ¬((f ∨ f') ∧ (k ∨ k')) := by
  have hone : ∀ {a b a' b' : Prop}, ¬(a ∧ b) → ¬(a' ∧ b') → (a' → ¬b) → (b' → ¬a) →
      ¬((a ∨ a') ∧ (b ∨ b')) := by
    rintro a b a' b' hold hnow ha' hb' ⟨ha | ha, hb | hb⟩
    · exact hold ⟨ha, hb⟩
    · exact hb' hb ha
    · exact ha' ha hb
    · exact hnow ⟨ha, hb⟩
  have hp' : p' → ¬(p ∨ f ∨ k) := fun h => hnew (.inl h)
  have hf' : f' → ¬(p ∨ f ∨ k) := fun h => hnew (.inr (.inl h))
  have hk' : k' → ¬(p ∨ f ∨ k) := fun h => hnew (.inr (.inr h))
  refine ⟨?_, ?_, ?_⟩
  · exact hone hbefore.1 hnow.1 (fun h hf => hp' h (.inr (.inl hf))) fun h hp => hf' h (.inl hp)
  · exact hone hbefore.2.1 hnow.2.1 (fun h hk => hp' h (.inr (.inr hk)))
      fun h hp => hk' h (.inl hp)
  · exact hone hbefore.2.2 hnow.2.2 (fun h hk => hf' h (.inr (.inr hk)))
      fun h hf => hk' h (.inr (.inl hf))

/-- One more run that leaves out the tests that are in a collection. -/
theorem keep (h : Inv tests s) (hnodup : tests.Nodup) {out : RunOutput}
    {executed : List (TestName × Bool)} {ending : Ending}
    (hout : Executes tests s.resumeFilter out executed ending) :
    Inv tests (s.keep s.resumeFilter out) := by
  have hpassed : ∀ test, test ∈ (s.keep s.resumeFilter out).passed ↔
      test ∈ s.passed ∨ test ∈ out.result.passedTests := fun _ => mem_append
  have hfailed : ∀ test, test ∈ (s.keep s.resumeFilter out).failed.keys ↔
      test ∈ s.failed.keys ∨ test ∈ out.result.failedTests.keys :=
    fun _ => mem_keys_update
  have hflaked : ∀ test, test ∈ (s.keep s.resumeFilter out).flaked.keys ↔
      test ∈ s.flaked.keys ∨ test ∈ out.result.flakedTests.keys :=
    fun _ => mem_keys_update
  have hcollected : ∀ test, (s.keep s.resumeFilter out).Collected test ↔
      s.Collected test ∨ test ∈ out.result.passedTests ∨ test ∈ out.result.failedTests.keys ∨
        test ∈ out.result.flakedTests.keys := by
    intro test
    rw [Collected, hpassed, hfailed, hflaked, Collected]
    exact ⟨by rintro ((h | h) | (h | h) | (h | h)) <;> simp [h],
      by rintro ((h | h | h) | (h | h | h)) <;> simp [h]⟩
  -- What the run adds was in no collection before.
  have hnew : ∀ test, test ∈ out.result.passedTests ∨ test ∈ out.result.failedTests.keys ∨
      test ∈ out.result.flakedTests.keys → ¬s.Collected test := fun test hmem =>
    (s.resumeFilter_allows test).1 (hout.allowed (hout.status_of_collected hnodup hmem)).2
  refine ⟨fun test => ?_, fun run hrun test hran hfails => ?_, fun test hmem => ?_,
    fun run hrun => ?_, fun test hstrict => ?_, fun run hrun test hmem hallows => ?_,
    append_ne_nil_of_right_ne_nil _ (cons_ne_nil _ _)⟩
  · rw [hpassed, hfailed, hflaked]
    exact exclusive_or (h.exclusive test) (hout.exclusive hnodup test) (hnew test)
  · rw [hcollected]
    rcases mem_append.1 hrun with hrun | hrun
    · exact .inl (h.covered run hrun test hran hfails)
    · obtain rfl := mem_singleton.1 hrun
      exact .inr (hout.collected hnodup hran hfails)
  · rcases (hcollected test).1 hmem with hbefore | hmem
    · obtain ⟨run, hrun, hran⟩ := h.ran test hbefore
      exact ⟨run, mem_append_left _ hrun, hran⟩
    · exact ⟨_, mem_append_right _ (mem_singleton_self _),
        hout.ran_iff.2 (hout.status_of_collected hnodup hmem)⟩
  · rcases mem_append.1 hrun with hrun | hrun
    · exact mem_append_left _ (h.keptRuns run hrun)
    · obtain rfl := mem_singleton.1 hrun
      exact mem_append_right _ (mem_singleton_self out)
  · rw [hfailed]
    by_cases hnow : test ∈ out.result.failedTests.keys
    · exact .inr (.inr hnow)
    · refine (h.accounted test hstrict).imp (fun hlast => hlast.append fun hran => ?_) .inl
      exact (hout.passed_or_failed hnodup hstrict hran).resolve_right hnow
  · -- The filter of the last run leaves out what is in a collection.
    obtain rfl : (s.resumeFilter, out) = run :=
      Option.some.inj (getLast?_concat.symm.trans hrun)
    have hbefore : s.Collected test := by
      by_contra hnot
      rw [(s.resumeFilter_allows test).2 hnot] at hallows
      cases hallows
    obtain ⟨run, hkept, hran⟩ := h.ran test hbefore
    exact ⟨run, mem_append_left _ hkept, hran⟩

/-- A test that failed is retried. -/
theorem retryTest (h : Inv tests s) (hnodup : tests.Nodup) {app : App} (happ : Behaves tests app)
    {test : TestName} (hfailed : test ∈ s.failed.keys) {s' : Launch}
    (hretry : s.retryTest app test = some s') :
    Inv tests s' ∧ ∀ other, other ≠ test → other ∈ s.failed.keys → other ∈ s'.failed.keys := by
  rw [Launch.retryTest] at hretry
  split at hretry
  · cases hretry
  · next out hout =>
    obtain ⟨executed, ending, hexecutes⟩ := happ _ _ _ hout
    -- Only this test is run.
    have honly : ∀ other, out.Ran other → other = test := by
      intro other hran
      have hallows := (hexecutes.allowed (hexecutes.ran_iff.1 hran)).2
      have hsingle : getLaunchCommand [test] false = .only [test] := rfl
      rw [hsingle] at hallows
      exact mem_singleton.1 (of_decide_eq_true hallows)
    dsimp only at hretry
    split at hretry
    · next hpassed =>
      obtain rfl := Option.some.inj hretry
      have hok : out.Passed test :=
        hexecutes.passed_of_ok ((hexecutes.mem_passedTests hnodup).1 hpassed).1
      have hkeys : ∀ other, other ∈ (s.failed.delete test).keys ↔
          other ≠ test ∧ other ∈ s.failed.keys := fun _ => mem_keys_delete
      have hflaked : ∀ other value, other ∈ (s.flaked.set test value).keys ↔
          other = test ∨ other ∈ s.flaked.keys := fun _ _ => mem_keys_set
      have hcollected : ∀ other value, other ∈ s.passed ∨ other ∈ (s.failed.delete test).keys ∨
          other ∈ (s.flaked.set test value).keys ↔ s.Collected other := by
        intro other value
        rw [hkeys, hflaked, Collected]
        by_cases heq : other = test
        · simp [heq, hfailed]
        · simp [heq]
      refine ⟨⟨fun other => ?_, fun run hrun other hran hfails => ?_, fun other hmem => ?_,
        fun run hrun => mem_append_left _ (h.keptRuns run hrun), fun other hstrict => ?_,
        h.last, h.keptOne⟩, fun other hne hmem => (hkeys other).2 ⟨hne, hmem⟩⟩
      · have hbefore := h.exclusive other
        dsimp only
        rw [hkeys, hflaked]
        by_cases heq : other = test
        · subst heq
          simp only [hfailed, and_true] at hbefore
          simp [hbefore.1]
        · simpa [heq] using hbefore
      · exact (hcollected other _).2 (h.covered run hrun other hran hfails)
      · exact h.ran other ((hcollected other _).1 hmem)
      · by_cases heq : other = test
        · refine .inl fun last hlast => ?_
          rw [lastRun_append, if_pos] at hlast
          · rw [heq, ← Option.some.inj hlast]
            exact hok
          · rw [heq, hexecutes.ran_iff, ((hexecutes.mem_passedTests hnodup).1 hpassed).1]
            exact Option.some_ne_none _
        · exact (h.accounted other hstrict).imp
            (fun hlast => hlast.append fun hran => absurd (honly other hran) heq)
            fun hmem => (hkeys other).2 ⟨heq, hmem⟩
    · obtain rfl := Option.some.inj hretry
      refine ⟨⟨h.exclusive, h.covered, h.ran,
        fun run hrun => mem_append_left _ (h.keptRuns run hrun), fun other hstrict => ?_,
        h.last, h.keptOne⟩, fun _ _ hmem => hmem⟩
      by_cases heq : other = test
      · exact .inr (heq ▸ hfailed)
      · exact (h.accounted other hstrict).imp_left
          fun hlast => hlast.append fun hran => absurd (honly other hran) heq

/-- Each test of a list of tests that failed is retried. -/
theorem foldlM_retryTest (hnodup : tests.Nodup) {app : App} (happ : Behaves tests app)
    {failing : List TestName} (hfailing : failing.Nodup) (h : Inv tests s)
    (hfailed : ∀ test ∈ failing, test ∈ s.failed.keys) {s' : Launch}
    (hretry : failing.foldlM (Launch.retryTest app) s = some s') : Inv tests s' := by
  induction failing generalizing s with
  | nil =>
    obtain rfl := Option.some.inj hretry
    exact h
  | cons test failing ih =>
    obtain ⟨hfirst, hrest⟩ := nodup_cons.1 hfailing
    rw [foldlM_cons] at hretry
    obtain ⟨middle, htest, hretry⟩ := Option.bind_eq_some_iff.1 hretry
    obtain ⟨hmiddle, hothers⟩ := h.retryTest hnodup happ (hfailed test mem_cons_self) htest
    refine ih hrest hmiddle (fun other hmem => ?_) hretry
    exact hothers other (fun heq => hfirst (heq ▸ hmem))
      (hfailed other (mem_cons_of_mem test hmem))

theorem retry (hnodup : tests.Nodup) {app : App} (happ : Behaves tests app) (retries : Nat)
    (h : Inv tests s) {s' : Launch} (hretry : s.retry app retries = some s') : Inv tests s' := by
  induction retries generalizing s with
  | zero =>
    obtain rfl := Option.some.inj hretry
    exact h
  | succ retries ih =>
    obtain ⟨middle, hround, hretry⟩ := Option.bind_eq_some_iff.1 hretry
    exact ih (foldlM_retryTest hnodup happ s.failed.keys_nodup h (fun _ hmem => hmem) hround)
      hretry

end Inv

/-! ## The loop that resumes -/

/-- The tests that are neither among the failing nor among the flaky ones. -/
def unblamed (tests : List TestName) (s : Launch) : List TestName :=
  tests.filter fun test => decide (test ∉ s.failed.keys ∧ test ∉ s.flaked.keys)

/-- The loop keeps what holds between runs. -/
theorem Inv.resumeLoop {tests : List TestName} (hnodup : tests.Nodup) {app : App}
    (happ : Behaves tests app) (turns : Nat) {s : Launch} (h : Inv tests s) {s' : Launch}
    (hloop : s.resumeLoop app turns = some s') : Inv tests s' := by
  induction turns generalizing s with
  | zero => cases hloop
  | succ turns ih =>
    rw [Launch.resumeLoop] at hloop
    split at hloop
    · split at hloop
      · obtain rfl := Option.some.inj hloop
        exact h
      · next out hout =>
        obtain ⟨executed, ending, hexecutes⟩ := happ _ _ _ hout
        exact ih (h.keep hnodup hexecutes) hloop
    · obtain rfl := Option.some.inj hloop
      exact h

/-- A run that crashes inside a test leaves one test less to crash. -/
theorem length_unblamed_keep {tests : List TestName} (hnodup : tests.Nodup) (s : Launch)
    {out : RunOutput} {executed : List (TestName × Bool)} {ending : Ending}
    (hout : Executes tests s.resumeFilter out executed ending)
    (hcrashed : out.result.crashedTest.isSome = true) :
    ((s.keep s.resumeFilter out).unblamed tests).length < (s.unblamed tests).length := by
  obtain ⟨test, htest⟩ := Option.isSome_iff_exists.1 hcrashed
  have hmem := out.crashedTest_mem htest
  obtain ⟨hin, hallows⟩ := hout.allowed (hout.status_of_collected hnodup (.inr hmem))
  have hnot := (s.resumeFilter_allows test).1 hallows
  rw [Collected, not_or, not_or] at hnot
  have hsub : ((s.keep s.resumeFilter out).unblamed tests).Sublist (s.unblamed tests) := by
    refine monotone_filter_right tests fun other hother => ?_
    have hkept := of_decide_eq_true hother
    exact decide_eq_true ⟨fun hmem => hkept.1 (mem_keys_update.2 (.inl hmem)),
      fun hmem => hkept.2 (mem_keys_update.2 (.inl hmem))⟩
  refine Nat.lt_of_le_of_ne hsub.length_le fun heq => ?_
  -- The test that crashed is in the longer list only.
  have hbefore : test ∈ s.unblamed tests := mem_filter.2 ⟨hin, decide_eq_true hnot.2⟩
  rw [← hsub.eq_of_length heq] at hbefore
  have hafter := of_decide_eq_true (mem_filter.1 hbefore).2
  rcases hmem with hfailed | hflaked
  · exact hafter.1 (mem_keys_update.2 (.inr hfailed))
  · exact hafter.2 (mem_keys_update.2 (.inr hflaked))

/-- Every run behind a crash that crashes inside a test blames a test that was not blamed, so
the loop ends. -/
theorem resumeLoop_isSome {tests : List TestName} (hnodup : tests.Nodup) {app : App}
    (happ : Behaves tests app) (turns : Nat) {s : Launch}
    (hturns : (s.unblamed tests).length + 2 ≤ turns) : (s.resumeLoop app turns).isSome := by
  induction turns generalizing s with
  | zero => omega
  | succ turns ih =>
    rw [resumeLoop]
    split
    · split
      · rfl
      · next out hout =>
        obtain ⟨executed, ending, hexecutes⟩ := happ _ _ _ hout
        by_cases hcrashed : out.result.crashedTest.isSome = true
        · have hless := length_unblamed_keep hnodup s hexecutes hcrashed
          exact ih (by omega)
        · -- The loop looks at the run once more, and is done.
          obtain ⟨turns, rfl⟩ : ∃ n, turns = n + 1 := ⟨turns - 1, by omega⟩
          rw [resumeLoop, if_neg]
          · rfl
          · exact fun hagain => hcrashed (Bool.and_eq_true_iff.1 hagain).2
    · rfl

end Launch

/-! ## The launch -/

/-- What a launch that has ended says of the tests. A run that exits outside any test counts as
one that completed, so that tests may be left only if the last run before the retries did not
run all that it was allowed to. -/
structure Accounts (tests : List TestName) (s : Launch) : Prop where
  once : ∀ run ∈ s.kept, ∀ test, run.2.Ran test → contains "FAILS_".toList test = false →
    s.ExactlyOne test
  passed : s.returned = true → ∀ test, Strict test → Launch.LastPassed s.runs test
  all : s.returned = true →
    (∀ run, s.kept.getLast? = some run → ∀ test ∈ tests, run.1.allows test = true →
      run.2.Ran test) →
    ∀ test ∈ tests, ∃ out ∈ s.runs, out.Ran test

theorem Launch.Inv.accounts {tests : List TestName} {s : Launch} (h : Inv tests s) :
    Accounts tests s where
  once := fun run hrun test => h.exactlyOne hrun
  passed := by
    intro hreturned test hstrict
    refine (h.accounted test hstrict).resolve_right fun hfailed => ?_
    rw [OrderedDict.keys, List.isEmpty_iff.1 hreturned] at hfailed
    cases hfailed
  all := by
    intro _ hlast test hmem
    obtain ⟨run, hrun⟩ := Option.ne_none_iff_exists'.1 fun hnone =>
      h.keptOne (getLast?_eq_none_iff.1 hnone)
    cases hallows : run.1.allows test with
    | true =>
      exact ⟨run.2, h.keptRuns run (mem_of_getLast? hrun), hlast run hrun test hmem hallows⟩
    | false =>
      obtain ⟨earlier, hearlier, hran⟩ := h.last run hrun test hmem hallows
      exact ⟨earlier.2, h.keptRuns earlier hearlier, hran⟩

/-- From the first run that is kept on. -/
theorem launchFrom_accounts {tests : List TestName} (hnodup : tests.Nodup) {app : App}
    (happ : Behaves tests app) (retries : Nat) {turns : Nat} (hturns : tests.length + 2 ≤ turns)
    {s : Launch} (h : Launch.Inv tests s) :
    ∃ outcome, launchFrom app retries turns s = some outcome ∧
      ∀ s', outcome = .finished s' → Accounts tests s' := by
  have hlength : (s.unblamed tests).length ≤ tests.length := length_filter_le _ _
  obtain ⟨resumed, hloop⟩ :=
    Option.isSome_iff_exists.1 (Launch.resumeLoop_isSome hnodup happ turns (s := s) (by omega))
  have hresumed : Launch.Inv tests resumed := h.resumeLoop hnodup happ turns hloop
  rw [launchFrom, hloop]
  dsimp only
  split
  · split
    · exact ⟨_, rfl, fun _ hfinished => nomatch hfinished⟩
    · next retried hretry =>
      refine ⟨_, rfl, fun s' hfinished => ?_⟩
      obtain rfl := LaunchOutcome.finished.inj hfinished
      exact (hresumed.retry hnodup happ retries hretry).accounts
  · refine ⟨_, rfl, fun s' hfinished => ?_⟩
    obtain rfl := LaunchOutcome.finished.inj hfinished
    exact hresumed.accounts

/-- The launch ends, whatever the app does. -/
theorem launch_accounts {tests : List TestName} (hnodup : tests.Nodup) {app : App}
    (happ : Behaves tests app) (retries : Nat) {turns : Nat}
    (hturns : tests.length + 2 ≤ turns) :
    ∃ outcome, launch app retries turns = some outcome ∧
      ∀ s, outcome = .finished s → Accounts tests s := by
  rw [launch]
  split
  · exact ⟨_, rfl, fun _ hfinished => nomatch hfinished⟩
  · next out hout =>
    obtain ⟨executed, ending, hexecutes⟩ := happ _ _ _ hout
    split
    · next hstartup =>
      split
      · exact ⟨_, rfl, fun _ hfinished => nomatch hfinished⟩
      · next again hagain =>
        obtain ⟨_, _, hagain⟩ := happ _ _ _ hagain
        split
        · exact ⟨_, rfl, fun _ hfinished => nomatch hfinished⟩
        · -- Whatever the run that crashed on startup ran has passed.
          refine launchFrom_accounts hnodup happ retries hturns
            (.first hnodup (fun test hstrict => ?_) hagain)
          refine (Launch.LastPassed.nil test).append fun hran => ?_
          exact (hexecutes.passed_or_failed hnodup hstrict hran).resolve_right
            (out.no_failing_of_crashedOnStartup hstartup test).1
    · exact launchFrom_accounts hnodup happ retries hturns
        (.first hnodup (fun test _ => .nil test) hexecutes)

/-- A run that leaves a log, whose statuses are given in the order in which they came. -/
def runOf (log : List String) : RunOutput :=
  let lines := log.map String.toList
  ⟨lines, (lines.foldl GTestLogParser.processLine .new).testStatus.entries, 0⟩

/-- The app crashes in its second test, the third one fails, and the second one passes when it
is retried. -/
def crashingApp : App := fun count filter =>
  let first := runOf ["[ RUN      ] A.x", "[       OK ] A.x", "[ RUN      ] A.y"]
  let second := runOf ["[ RUN      ] A.z", "[  FAILED  ] A.z", "[  PASSED  ] 0 tests.",
    "[  FAILED  ] A.z"]
  let third := runOf ["[ RUN      ] A.y", "[       OK ] A.y", "[  PASSED  ] 1 test."]
  if count = 0 ∧ filter = .all then some first
  else if filter = .except ["A.x".toList, "A.y".toList] then some second
  else if filter = .only ["A.y".toList] then some third
  else if filter = .only ["A.z".toList] then some second
  else none

theorem crashingApp_behaves :
    Behaves ["A.x".toList, "A.y".toList, "A.z".toList] crashingApp := by
  intro count filter out hout
  unfold crashingApp at hout
  dsimp only at hout
  split at hout
  · next heq =>
    obtain ⟨-, rfl⟩ := heq
    obtain rfl := Option.some.inj hout
    exact ⟨[("A.x".toList, true)], .crashes "A.y".toList, by decide +kernel, by decide +kernel,
      by decide +kernel, .refl _⟩
  · split at hout
    · next heq =>
      subst heq
      obtain rfl := Option.some.inj hout
      exact ⟨[("A.z".toList, false)], .completes, by decide +kernel, by decide +kernel,
        by decide +kernel, .refl _⟩
    · split at hout
      · next heq =>
        subst heq
        obtain rfl := Option.some.inj hout
        exact ⟨[("A.y".toList, true)], .completes, by decide +kernel, by decide +kernel,
          by decide +kernel, .refl _⟩
      · split at hout
        · next heq =>
          subst heq
          obtain rfl := Option.some.inj hout
          exact ⟨[("A.z".toList, false)], .completes, by decide +kernel, by decide +kernel,
            by decide +kernel, .refl _⟩
        · cases hout

theorem crashingApp_accounts :
    ∃ outcome, launch crashingApp 1 5 = some outcome ∧
      ∀ s, outcome = .finished s →
        Accounts ["A.x".toList, "A.y".toList, "A.z".toList] s :=
  launch_accounts (by decide +kernel) crashingApp_behaves 1 (by decide)

/-- The only test of the app is named as a flaky one, and fails. -/
def flakyApp : App := fun count filter =>
  if count = 0 ∧ filter = .all then
    some (runOf ["[ RUN      ] A.FLAKY_x", "[  FAILED  ] A.FLAKY_x", "[  PASSED  ] 0 tests.",
      "[  FAILED  ] A.FLAKY_x"])
  else none

/-- A launch returns `True` though a flaky test failed in its only run. -/
theorem flaky_failure_returns_true :
    Behaves ["A.FLAKY_x".toList] flakyApp ∧
      ∃ s, launch flakyApp 3 3 = some (.finished s) ∧ s.returned = true ∧
        ¬Launch.LastPassed s.runs "A.FLAKY_x".toList := by
  constructor
  · intro count filter out hout
    unfold flakyApp at hout
    split at hout
    · next heq =>
      obtain ⟨-, rfl⟩ := heq
      obtain rfl := Option.some.inj hout
      exact ⟨[("A.FLAKY_x".toList, false)], .completes, by decide +kernel, by decide +kernel,
        by decide +kernel, .refl _⟩
    · cases hout
  · let out := runOf ["[ RUN      ] A.FLAKY_x", "[  FAILED  ] A.FLAKY_x",
      "[  PASSED  ] 0 tests.", "[  FAILED  ] A.FLAKY_x"]
    have hcrashed : out.result.crashed = false := by decide +kernel
    have hfailed : out.result.failedTests.entries.isEmpty = true := by decide +kernel
    have happ : flakyApp 0 .all = some out := if_pos ⟨rfl, rfl⟩
    refine ⟨.first [] out, ?_, hfailed, fun hpassed => ?_⟩
    · have hloop : (Launch.first [] out).resumeLoop flakyApp 3 = some (.first [] out) := by
        rw [Launch.resumeLoop, if_neg]
        exact fun hagain => nomatch hcrashed.symm.trans (Bool.and_eq_true_iff.1 hagain).1
      have hnone : (Launch.first [] out).failed.entries = [] := List.isEmpty_iff.1 hfailed
      rw [launch, happ]
      dsimp only
      rw [GTestResult.crashedOnStartup, hcrashed, Bool.false_and, if_neg Bool.false_ne_true,
        launchFrom, hloop]
      dsimp only
      rw [if_neg fun hboth => hboth.2 hnone]
    · have hran : out.Ran "A.FLAKY_x".toList := by decide +kernel
      have hlast : Launch.lastRun [out] "A.FLAKY_x".toList = some out :=
        (Launch.lastRun_append [] out _).trans (if_pos hran)
      exact absurd (hpassed out hlast) (by decide +kernel)

end GTest

end ChromiumIos
