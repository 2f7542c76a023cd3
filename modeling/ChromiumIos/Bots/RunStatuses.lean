import ChromiumIos.Bots.CrashedTest
import ChromiumIos.Bots.TestRunner

/-!
# What the log of a run says of its tests

- `View`: the statuses that the marks of a log lead to, whatever is printed between them.
- `run_executed`: after the marks of the tests that were executed each has its own status.
- `statusOfTest_eq`: the parser has the status of every test of a run.
- `mem_passedTests`, `mem_failedTests`, `mem_flakedTests`: where a run puts a test.
-/

namespace ChromiumIos

open Lib List OrderedDict

namespace GTest

/-! ## Marks -/

/-- What the marks of a log lead to. -/
structure View where
  status : TestName → Option TestStatus
  running : Option TestName
  completed : Bool

namespace View

def new : View := ⟨fun _ => none, none, false⟩

def setStatus (v : View) (test : TestName) (status : TestStatus) : TestName → Option TestStatus :=
  fun other => if other = test then some status else v.status other

def step (v : View) : Directive → View
  | .run test => ⟨v.setStatus test .started, some test, v.completed⟩
  | .ok test => ⟨v.setStatus test .ok, none, v.completed⟩
  | .failed test => ⟨v.setStatus test .failed, none, v.completed⟩
  | .passed => ⟨v.status, none, true⟩
  | _ => v

/-- A test starts when none is running, and fails when it has started or failed; nothing times
out and nothing is retried. -/
def Allows (v : View) : Directive → Prop
  | .run _ => v.running = none
  | .ok _ | .passed => True
  | .failed test => v.status test = some .started ∨ v.status test = some .failed
  | _ => False

end View

/-- The marks of a log, as a machine. -/
def viewer : Machine View Directive := ⟨View.Allows, View.step⟩

/-- The parser sees what the view says. -/
structure Sees (p : GTestLogParser) (v : View) : Prop where
  status : ∀ test, p.statusOfTest test = v.status test
  current : p.currentTest = v.running
  completed : p.completed = v.completed
  retrying : p.retryingFailed = false
  parsing : p.parsingFailures = false
  shared : p.shared = none

theorem sees_new : Sees .new .new := ⟨fun _ => rfl, rfl, rfl, rfl, rfl, rfl⟩

theorem statusOfTest_record (p : GTestLogParser) (test : TestName) (status : TestStatus)
    (description : List Line) (other : TestName) :
    (p.record test status description).statusOfTest other =
      if other = test then some status else p.statusOfTest other := by
  rw [GTestLogParser.statusOfTest, GTestLogParser.record, get?_set,
    GTestLogParser.statusOfTest]
  split <;> rfl

namespace Sees

variable {p : GTestLogParser} {v : View}

theorem of_eq {p' : GTestLogParser} (h : Sees p v) (hstatus : p'.testStatus = p.testStatus)
    (hcurrent : p'.currentTest = p.currentTest) (hcompleted : p'.completed = p.completed)
    (hretrying : p'.retryingFailed = p.retryingFailed)
    (hparsing : p'.parsingFailures = p.parsingFailures) (hshared : p'.shared = p.shared) :
    Sees p' v := by
  refine ⟨fun test => ?_, hcurrent.trans h.current, hcompleted.trans h.completed,
    hretrying.trans h.retrying, hparsing.trans h.parsing, hshared.trans h.shared⟩
  rw [GTestLogParser.statusOfTest, hstatus]
  exact h.status test

theorem readMasterName (h : Sees p v) (line : Line) : Sees (p.readMasterName line) v := by
  unfold GTestLogParser.readMasterName
  split
  · split
    · exact h.of_eq rfl rfl rfl rfl rfl rfl
    · exact h
  · exact h

/-- Output is only collected. -/
theorem output (h : Sees p v) {line : Line} (hlist : literal "Failing tests:".toList line = none) :
    Sees (p.follow line .output) v := by
  have hcollect : Sees (p.collect line) v := by
    unfold GTestLogParser.collect
    split
    · exact h
    · dsimp only
      rw [h.shared]
      exact h.of_eq rfl rfl rfl rfl rfl h.shared.symm
  have hread : (p.collect line).readFailures line = p.collect line := by
    rw [GTestLogParser.readFailures, hcollect.parsing, hlist]
    rfl
  rw [GTestLogParser.follow, hread]
  exact hcollect

theorem quiet (h : Sees p v) {line : Line} {directive : Directive}
    (hquiet : directive.isMark = false)
    (hlist : literal "Failing tests:".toList line = none) :
    Sees (p.follow line directive) v := by
  cases directive with
  | output => exact h.output hlist
  | disabled count => exact h.of_eq rfl rfl rfl rfl rfl rfl
  | flaky count => exact h.of_eq rfl rfl rfl rfl rfl rfl
  | _ => cases hquiet

/-- The status of one test is written, and the description begins anew. -/
theorem write (h : Sees p v) {p' : GTestLogParser} {v' : View} {test : TestName}
    {status : TestStatus} {description : List Line}
    (hstatus : p'.testStatus = p.testStatus.set test (status, description))
    (hview : v'.status = v.setStatus test status) (hcurrent : p'.currentTest = v'.running)
    (hcompleted : p'.completed = p.completed) (hsame : v'.completed = v.completed)
    (hretrying : p'.retryingFailed = p.retryingFailed)
    (hparsing : p'.parsingFailures = p.parsingFailures) (hshared : p'.shared = none) :
    Sees p' v' := by
  refine ⟨fun other => ?_, hcurrent, (hcompleted.trans h.completed).trans hsame.symm,
    hretrying.trans h.retrying, hparsing.trans h.parsing, hshared⟩
  have hrecord := statusOfTest_record p test status description other
  rw [h.status] at hrecord
  rw [hview]
  refine Eq.trans ?_ hrecord
  rw [GTestLogParser.statusOfTest, hstatus]
  rfl

theorem mark (h : Sees p v) {line : Line} {directive : Directive} (hallows : v.Allows directive) :
    Sees (p.follow line directive) (v.step directive) := by
  cases directive with
  | run test =>
    have hnone : p.currentTest = none := h.current.trans hallows
    have htime : p.timeOutCurrent = p := by
      rw [GTestLogParser.timeOutCurrent, hnone]
    have hrun : p.follow line (.run test) =
        ({ p.record test .started [didNotComplete] with currentTest := some test }).describe
          [] := by
      rw [GTestLogParser.follow, GTestLogParser.runLine, htime]
      dsimp only
      rw [if_neg]
      exact fun hretrying => Bool.false_ne_true (h.retrying.symm.trans hretrying)
    rw [hrun]
    exact h.write rfl rfl rfl rfl rfl rfl rfl rfl
  | ok test =>
    have hretrying : ¬p.retryingFailed = true := by
      rw [h.retrying]
      exact Bool.false_ne_true
    show Sees (p.okLine line test) _
    unfold GTestLogParser.okLine
    dsimp only
    split
    · rw [if_neg (show ¬(p.recordError line _).retryingFailed = true from hretrying)]
      exact h.write rfl rfl rfl rfl rfl rfl rfl rfl
    · exact h.write rfl rfl rfl rfl rfl rfl rfl rfl
  | failed test =>
    have hknown :
        ¬p.statusOfTest test ∉ [some TestStatus.started, some .failed, some .timeout] := by
      rw [h.status]
      rcases hallows with hstatus | hstatus <;> simp [hstatus]
    show Sees (p.failedLine line test) _
    unfold GTestLogParser.failedLine
    dsimp only
    rw [if_neg hknown]
    rcases hallows with hstatus | hstatus
    · -- The test has just failed.
      have hnew : p.statusOfTest test ∉ [some TestStatus.failed, some .timeout] := by
        rw [h.status, hstatus]
        simp
      rw [if_pos hnew]
      exact h.write rfl rfl rfl rfl rfl rfl rfl rfl
    · -- The summary names it once more.
      have hold : ¬p.statusOfTest test ∉ [some TestStatus.failed, some .timeout] := by
        rw [h.status, hstatus]
        simp
      have hsame : v.setStatus test .failed = v.status := by
        funext other
        rw [View.setStatus]
        split
        · next heq => rw [heq, hstatus]
        · rfl
      rw [if_neg hold]
      refine ⟨fun other => ?_, rfl, h.completed, h.retrying, h.parsing, rfl⟩
      rw [show (v.step (.failed test)).status = v.status from hsame]
      exact h.status other
  | passed =>
    exact ⟨h.status, rfl, rfl, h.retrying, h.parsing, h.shared⟩
  | _ => cases hallows

/-- **Parts**: what is printed between the marks does not matter. -/
theorem parts (h : Sees p v) {parts : List Line}
    (hlist : ∀ part ∈ parts, literal "Failing tests:".toList part = none)
    (hlegal : viewer.Legal v ((parts.map classify).filter Directive.isMark)) :
    Sees (parts.foldl GTestLogParser.processPart p)
      (viewer.run v ((parts.map classify).filter Directive.isMark)) := by
  induction parts generalizing p v with
  | nil => exact h
  | cons part parts ih =>
    have hpart := hlist part mem_cons_self
    have hparts := fun other hmem => hlist other (mem_cons_of_mem part hmem)
    have hname := h.readMasterName part
    cases hmark : (classify part).isMark with
    | false =>
      rw [map_cons, filter_cons_of_neg (by simp [hmark])] at hlegal ⊢
      exact ih (hname.quiet hmark hpart) hparts hlegal
    | true =>
      rw [map_cons, filter_cons_of_pos hmark] at hlegal ⊢
      exact ih (hname.mark hlegal.1) hparts hlegal.2

/-- **Log**: the parser sees what the marks of a log lead to. -/
theorem log (h : Sees p v) {log : List Line}
    (hlist : ∀ part ∈ log.flatMap split, literal "Failing tests:".toList part = none)
    (hlegal : viewer.Legal v (((log.flatMap split).map classify).filter Directive.isMark)) :
    Sees (log.foldl GTestLogParser.processLine p)
      (viewer.run v (((log.flatMap split).map classify).filter Directive.isMark)) := by
  induction log generalizing p v with
  | nil => exact h
  | cons line log ih =>
    rw [flatMap_cons] at hlist
    rw [flatMap_cons, map_append, filter_append] at hlegal ⊢
    rw [Machine.run_append]
    obtain ⟨hfirst, hrest⟩ := Machine.along_append.1 hlegal
    have hcount : Sees { p with lineNumber := p.lineNumber + 1 } v :=
      h.of_eq rfl rfl rfl rfl rfl rfl
    have hparts := hcount.parts (fun part hmem => hlist part (mem_append_left _ hmem)) hfirst
    exact ih hparts (fun part hmem => hlist part (mem_append_right _ hmem)) hrest

end Sees

/-! ## The tests of a run -/

/-- The status of a test that was executed. -/
def outcome : List (TestName × Bool) → TestName → Option TestStatus
  | [], _ => none
  | (test, passed) :: executed, other =>
    if other = test then some (if passed then .ok else .failed) else outcome executed other

section

variable {executed : List (TestName × Bool)}

theorem outcome_eq_none {test : TestName} :
    outcome executed test = none ↔ test ∉ executed.map Prod.fst := by
  induction executed with
  | nil => exact iff_of_true rfl not_mem_nil
  | cons first executed ih =>
    obtain ⟨other, passed⟩ := first
    rw [outcome, map_cons, mem_cons, not_or, ← ih]
    by_cases heq : test = other
    · rw [if_pos heq]
      exact iff_of_false nofun fun h => h.1 heq
    · rw [if_neg heq]
      exact (and_iff_right heq).symm

theorem outcome_of_mem (hnodup : (executed.map Prod.fst).Nodup) {test : TestName} {passed : Bool}
    (hmem : (test, passed) ∈ executed) :
    outcome executed test = some (if passed then .ok else .failed) := by
  induction executed with
  | nil => cases hmem
  | cons first executed ih =>
    obtain ⟨hfirst, hrest⟩ := nodup_cons.1 hnodup
    rcases mem_cons.1 hmem with rfl | hmem
    · exact if_pos rfl
    · have hne : test ≠ first.1 := fun heq => hfirst (heq ▸ mem_map_of_mem hmem)
      exact (if_neg hne).trans (ih hrest hmem)

/-- A test that passed was executed so. -/
theorem mem_of_outcome_ok {test : TestName}
    (h : outcome executed test = some .ok) : (test, true) ∈ executed := by
  induction executed with
  | nil => cases h
  | cons first executed ih =>
    obtain ⟨other, passed⟩ := first
    rw [outcome] at h
    split at h
    · next heq =>
      cases passed with
      | true => exact heq ▸ mem_cons_self
      | false => cases h
    · exact mem_cons_of_mem _ (ih h)

/-- A test that was executed has passed or failed. -/
theorem outcome_ok_or_failed {test : TestName}
    {status : TestStatus} (h : outcome executed test = some status) :
    status = .ok ∨ status = .failed := by
  induction executed with
  | nil => cases h
  | cons first executed ih =>
    obtain ⟨other, passed⟩ := first
    rw [outcome] at h
    split at h
    · obtain rfl := Option.some.inj h
      cases passed
      · exact .inr rfl
      · exact .inl rfl
    · exact ih h

/-- After the marks of the tests that were executed, each has the status of its own. -/
theorem run_executed (hnodup : (executed.map Prod.fst).Nodup)
    {v : View} (hrunning : v.running = none) :
    viewer.Legal v (executed.flatMap executedMarks) ∧
      viewer.run v (executed.flatMap executedMarks) =
        ⟨fun test => (outcome executed test).or (v.status test), none, v.completed⟩ := by
  induction executed generalizing v with
  | nil =>
    obtain ⟨status, running, completed⟩ := v
    obtain rfl : running = none := hrunning
    exact ⟨trivial, rfl⟩
  | cons first executed ih =>
    obtain ⟨test, passed⟩ := first
    obtain ⟨hfirst, hrest⟩ := nodup_cons.1 hnodup
    -- The test starts and ends.
    let after : View :=
      ⟨v.setStatus test (if passed then .ok else .failed), none, v.completed⟩
    have hmarks : viewer.Legal v (executedMarks (test, passed)) ∧
        viewer.run v (executedMarks (test, passed)) = after := by
      have hset : ∀ status, View.setStatus ⟨v.setStatus test .started, some test, v.completed⟩ test
          status = v.setStatus test status := by
        intro status
        funext other
        simp only [View.setStatus]
        split <;> rfl
      cases passed with
      | true =>
        refine ⟨⟨hrunning, trivial, trivial⟩, ?_⟩
        exact congrArg (View.mk · none v.completed) (hset .ok)
      | false =>
        refine ⟨⟨hrunning, .inl (if_pos rfl), trivial⟩, ?_⟩
        exact congrArg (View.mk · none v.completed) (hset .failed)
    obtain ⟨hlegal, hrun⟩ := ih hrest (v := after) rfl
    rw [flatMap_cons]
    refine ⟨Machine.along_append.2 ⟨hmarks.1, ?_⟩, ?_⟩
    · rw [hmarks.2]
      exact hlegal
    · rw [Machine.run_append, hmarks.2, hrun]
      refine congrArg (View.mk · none v.completed) (funext fun other => ?_)
      show (outcome executed other).or (v.setStatus test _ other) = _
      rw [View.setStatus]
      by_cases heq : other = test
      · have hnone : outcome executed test = none := outcome_eq_none.2 hfirst
        rw [heq, if_pos rfl, hnone, outcome, if_pos rfl]
        rfl
      · rw [if_neg heq, outcome, if_neg heq]

end

/-- The status of a test after the run. -/
def Ending.status (ending : Ending) (executed : List (TestName × Bool)) (test : TestName) :
    Option TestStatus :=
  if ending = .crashes test then some .started else outcome executed test

/-- The end of a run changes the status of the test that crashes only. -/
theorem run_ending {executed : List (TestName × Bool)} (hnodup : (executed.map Prod.fst).Nodup)
    (ending : Ending) :
    viewer.Legal ⟨outcome executed, none, false⟩ (ending.marks executed) ∧
      (viewer.run ⟨outcome executed, none, false⟩ (ending.marks executed)).status =
        ending.status executed := by
  cases ending with
  | exits => exact ⟨trivial, rfl⟩
  | crashes test =>
    refine ⟨⟨rfl, trivial⟩, funext fun other => ?_⟩
    show View.setStatus _ test .started other = _
    rw [View.setStatus, Ending.status]
    by_cases heq : other = test
    · rw [if_pos heq, heq, if_pos rfl]
    · rw [if_neg heq, if_neg fun hcrash => heq (Ending.crashes.inj hcrash).symm]
  | completes =>
    -- The summary names tests that have failed.
    have hsummary : ∀ names : List TestName,
        (∀ test ∈ names, outcome executed test = some .failed) → ∀ v : View,
        v.status = outcome executed →
        viewer.Legal v (names.map .failed) ∧
          (viewer.run v (names.map .failed)).status = outcome executed := by
      intro names
      induction names with
      | nil => exact fun _ v hv => ⟨trivial, hv⟩
      | cons test names ih =>
        intro hfailed v hv
        have htest : v.status test = some .failed := by
          rw [hv]
          exact hfailed test mem_cons_self
        have hstep : (v.step (.failed test)).status = outcome executed := by
          funext other
          show View.setStatus v test .failed other = _
          rw [View.setStatus]
          split
          · next heq => rw [heq, ← hv, htest]
          · rw [hv]
        obtain ⟨hlegal, hrun⟩ :=
          ih (fun other hmem => hfailed other (mem_cons_of_mem test hmem)) _ hstep
        exact ⟨⟨.inr htest, hlegal⟩, hrun⟩
    have hnames : ∀ test ∈ (executed.filter fun test => !test.2).map Prod.fst,
        outcome executed test = some .failed := by
      intro test hmem
      obtain ⟨⟨name, passed⟩, hfilter, rfl⟩ := mem_map.1 hmem
      obtain ⟨hexecuted, hfailed⟩ := mem_filter.1 hfilter
      obtain rfl : passed = false := by simpa using hfailed
      exact outcome_of_mem hnodup hexecuted
    obtain ⟨hlegal, hrun⟩ := hsummary _ hnames ⟨outcome executed, none, true⟩ rfl
    rw [map_map] at hlegal hrun
    refine ⟨⟨trivial, hlegal⟩, hrun.trans (funext fun test => ?_)⟩
    exact (if_neg nofun).symm

theorem Ending.status_eq_none {executed : List (TestName × Bool)} {ending : Ending}
    {test : TestName} :
    ending.status executed test = none ↔ test ∉ executed.map Prod.fst ++ ending.tests := by
  rw [Ending.status, mem_append, not_or]
  by_cases hcrash : ending = .crashes test
  · rw [if_pos hcrash, hcrash]
    exact iff_of_false nofun fun h => h.2 (mem_singleton_self test)
  · rw [if_neg hcrash, outcome_eq_none]
    refine (and_iff_left fun hmem => hcrash ?_).symm
    cases ending with
    | crashes other => rw [mem_singleton.1 hmem]
    | completes | exits => cases hmem

namespace Executes

variable {tests : List TestName} {filter : Filter} {out : RunOutput}
  {executed : List (TestName × Bool)} {ending : Ending}

section

variable (h : Executes tests filter out executed ending)
include h

theorem nodup (hnodup : tests.Nodup) : (executed.map Prod.fst ++ ending.tests).Nodup :=
  (hnodup.filter _).sublist h.inOrder

/-- The parser has the status of every test of the run. -/
theorem statusOfTest_eq (hnodup : tests.Nodup)
    (test : TestName) : out.parsed.statusOfTest test = ending.status executed test := by
  have hnames := List.Nodup.of_append_left (h.nodup hnodup)
  obtain ⟨hlegal, hrun⟩ := run_executed hnames (v := .new) rfl
  have hview : viewer.run .new (executed.flatMap executedMarks) =
      ⟨outcome executed, none, false⟩ := by
    rw [hrun]
    exact congrArg (View.mk · none false) (funext fun test => Option.or_none)
  obtain ⟨hend, hstatus⟩ := run_ending hnames ending
  have hsees := sees_new.log h.noList (by
    rw [h.marks]
    refine Machine.along_append.2 ⟨hlegal, ?_⟩
    rw [hview]
    exact hend)
  rw [h.marks, Machine.run_append, hview] at hsees
  exact (hsees.status test).trans (congrFun hstatus test)

/-- A test that has a status is one of those that the filter allows. -/
theorem allowed {test : TestName}
    (hstatus : ending.status executed test ≠ none) : test ∈ tests ∧ filter.allows test = true := by
  have hmem := h.inOrder.subset (not_not.1 fun hnot => hstatus (Ending.status_eq_none.2 hnot))
  exact mem_filter.1 hmem

/-- The tests with a `RUN` line are those that have a status. -/
theorem ran_iff {test : TestName} : out.Ran test ↔ ending.status executed test ≠ none := by
  have hmark : out.Ran test ↔
      Directive.run test ∈ executed.flatMap executedMarks ++ ending.marks executed := by
    rw [← h.marks, mem_filter]
    exact (and_iff_left rfl).symm
  have hexecuted : Directive.run test ∈ executed.flatMap executedMarks ↔
      test ∈ executed.map Prod.fst := by
    rw [mem_flatMap, mem_map]
    refine exists_congr fun first => and_congr_right fun _ => ?_
    obtain ⟨name, passed⟩ := first
    cases passed <;> simp [executedMarks, eq_comm]
  have hending : Directive.run test ∈ ending.marks executed ↔ test ∈ ending.tests := by
    cases ending <;> simp [Ending.marks, Ending.tests]
  rw [hmark, mem_append, hexecuted, hending, ne_eq, Ending.status_eq_none, not_not,
    mem_append]

/-- A test whose status is that of success has an `OK` line. -/
theorem passed_of_ok {test : TestName}
    (hok : ending.status executed test = some .ok) : out.Passed test := by
  have hmem : (test, true) ∈ executed := by
    rw [Ending.status] at hok
    split at hok
    · cases hok
    · exact mem_of_outcome_ok hok
  have hmark : Directive.ok test ∈
      ((out.log.flatMap split).map classify).filter Directive.isMark := by
    rw [h.marks]
    refine mem_append_left _ (mem_flatMap.2 ⟨_, hmem, ?_⟩)
    exact mem_cons_of_mem _ mem_cons_self
  exact mem_of_mem_filter hmark

/-- The items of the dictionary are the records of the parser. -/
theorem exists_item_iff (hnodup : tests.Nodup) {test : TestName} {P : TestStatus → Prop} :
    (∃ record, (test, record) ∈ out.items ∧ P record.1) ↔
      ∃ status, ending.status executed test = some status ∧ P status := by
  have hstatus := h.statusOfTest_eq hnodup test
  rw [GTestLogParser.statusOfTest] at hstatus
  constructor
  · rintro ⟨record, hmem, hP⟩
    have hrecord := get?_eq_some.2 (h.items.mem_iff.1 hmem)
    rw [hrecord] at hstatus
    exact ⟨record.1, hstatus.symm, hP⟩
  · rintro ⟨status, hsome, hP⟩
    rw [hsome] at hstatus
    obtain ⟨record, hrecord, rfl⟩ := Option.map_eq_some_iff.1 hstatus
    exact ⟨record, h.items.mem_iff.2 (get?_eq_some.1 hrecord), hP⟩

/-! ### Where a run puts a test -/

theorem mem_passedTests (hnodup : tests.Nodup) {test : TestName} : test ∈ out.result.passedTests ↔
      ending.status executed test = some .ok ∧ contains "FAILS_".toList test = false := by
  refine mem_testsByStatus.trans (and_congr ?_ ⟨fun hname => hname rfl, fun hname _ => hname⟩)
  refine (h.exists_item_iff hnodup (P := (· = .ok))).trans ?_
  exact ⟨fun ⟨_, hsome, heq⟩ => heq ▸ hsome, fun hok => ⟨_, hok, rfl⟩⟩

/-- A failing test is one whose status is counted. -/
theorem mem_failedTests_iff (hnodup : tests.Nodup) {test : TestName} :
    test ∈ GTestLogParser.failedTests out.items false true ↔
      ∃ status, ending.status executed test = some status ∧ counted test status = true :=
  mem_failedTests.trans (h.exists_item_iff hnodup (P := fun status => counted test status = true))

end

end Executes

/-- The keys of a dictionary of failing tests. -/
theorem mem_keys_describe {p : GTestLogParser} {tests : List TestName} {test : TestName} :
    test ∈ (tests.foldl (fun dict test => dict.set test (p.failureDescriptionOf test))
        (empty : OrderedDict TestName (List Line))).keys ↔ test ∈ tests := by
  rw [OrderedDict.mem_keys, get?_foldl_set, get?_empty]
  split
  · next hmem => exact iff_of_true nofun hmem
  · next hmem => exact iff_of_false (fun h => h rfl) hmem

namespace RunOutput

variable (out : RunOutput)

theorem mem_keys_failedTests {test : TestName} :
    test ∈ out.result.failedTests.keys ↔
      test ∈ GTestLogParser.failedTests out.items false true ∧
        GTestResult.isFlaky test = false := by
  refine mem_keys_describe.trans (mem_filter.trans (and_congr_right fun _ => ?_))
  simp

theorem mem_keys_flakedTests {test : TestName} :
    test ∈ out.result.flakedTests.keys ↔
      test ∈ GTestLogParser.failedTests out.items false true ∧
        GTestResult.isFlaky test = true :=
  mem_keys_describe.trans mem_filter

/-- The crashed test is among the failing ones. -/
theorem crashedTest_mem {test : TestName} (hcrashed : out.result.crashedTest = some test) :
    test ∈ out.result.failedTests.keys ∨ test ∈ out.result.flakedTests.keys := by
  have hlast : ∀ (tests : OrderedDict TestName (List Line)) crashedTest,
      GTestResult.lastCrashed crashedTest tests = some test →
      crashedTest = some test ∨ test ∈ tests.keys := by
    intro tests
    rw [OrderedDict.keys]
    unfold GTestResult.lastCrashed
    induction tests.entries with
    | nil => exact fun crashedTest h => .inl h
    | cons entry entries ih =>
      intro crashedTest h
      rw [foldl_cons] at h
      rcases ih _ h with hfirst | hrest
      · split at hfirst
        · exact .inr (Option.some.inj hfirst ▸ mem_cons_self)
        · exact .inl hfirst
      · exact .inr (mem_cons_of_mem _ hrest)
  rcases hlast _ _ hcrashed with hfailed | hflaked
  · rcases hlast _ _ hfailed with hnone | hfirst
    · cases hnone
    · exact .inl hfirst
  · exact .inr hflaked

/-- A crash on startup is one without failing tests. -/
theorem no_failing_of_crashedOnStartup
    (hcrashed : out.result.crashedOnStartup = true) (test : TestName) :
    test ∉ out.result.failedTests.keys ∧ test ∉ out.result.flakedTests.keys := by
  have hdefinition : out.result.crashed =
      (!out.parsed.completedWithoutFailure out.items && out.result.failedTests.entries.isEmpty &&
        out.result.flakedTests.entries.isEmpty || out.result.crashedTest.isSome) := rfl
  rw [GTestResult.crashedOnStartup, Bool.and_eq_true] at hcrashed
  obtain ⟨hcrash, hnone⟩ := hcrashed
  have hno : out.result.crashedTest.isSome = false := by simpa using hnone
  rw [hdefinition, hno, Bool.or_false, Bool.and_eq_true, Bool.and_eq_true, List.isEmpty_iff,
    List.isEmpty_iff] at hcrash
  rw [OrderedDict.keys, OrderedDict.keys, hcrash.1.2, hcrash.2]
  exact ⟨not_mem_nil, not_mem_nil⟩

end RunOutput

end GTest

end ChromiumIos
