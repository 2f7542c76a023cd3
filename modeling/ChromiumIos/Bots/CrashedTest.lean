import ChromiumIos.Bots.GTestLogParser
import Mathlib.Data.List.Induction

/-!
# Which test a crash is blamed on

A test that was started and has not ended is known by the text of its description. The text
tells the truth as long as no other test is recorded with it.

- `Unfinished`: a test that the log leaves open.
- `TellsTruth`: the records blame the open test and no other.
- `LogState`: what the lines say by themselves; the parser follows it (`logState_follow`).
- `TellsTruth.follow`: what each kind of line does to the records.
- `crashedTest_iff`: the result of the run blames the open test.
-/

namespace ChromiumIos

open Lib List OrderedDict Option

namespace GTest

/-! ## The test that a log leaves open -/

/-- A line that ends a test. -/
def Directive.ends (test : TestName) : Directive → Bool
  | .ok other | .failed other | .timeout other => other = test
  | _ => false

/-- A line that starts a test other than the given one. -/
def Directive.startsOther (test : TestName) : Directive → Bool
  | .run other => other ≠ test
  | _ => false

/-- A test has been started, has not ended since, and no other test has been started since. -/
def Unfinished (directives : List Directive) (test : TestName) : Prop :=
  ∃ before after, directives = before ++ .run test :: after ∧
    ∀ directive ∈ after, directive.ends test = false ∧ directive.startsOther test = false

/-- The test that is open after one more line. -/
def openAfter (openTest : Option TestName) : Directive → Option TestName
  | .run test => some test
  | .ok test | .failed test | .timeout test => if openTest = some test then none else openTest
  | _ => openTest

theorem openAfter_eq_some_iff {openTest : Option TestName} {directive : Directive}
    {test : TestName} :
    openAfter openTest directive = some test ↔
      directive = .run test ∨
        openTest = some test ∧ directive.ends test = false ∧
          directive.startsOther test = false := by
  cases directive with
  | run other =>
    by_cases h : other = test
    · simp [openAfter, h]
    · simp [openAfter, Directive.startsOther, h]
  | ok other | failed other | timeout other =>
    by_cases h : openTest = some other
    · by_cases hother : other = test
      · simp [openAfter, Directive.ends, h, hother]
      · simp [openAfter, Directive.ends, h, hother]
    · by_cases hother : other = test
      · subst hother
        simp [openAfter, Directive.ends, h]
      · simp [openAfter, Directive.ends, Directive.startsOther, h, hother]
  | _ => simp [openAfter, Directive.ends, Directive.startsOther]

/-- The open test, from the whole log. -/
theorem unfinished_iff (directives : List Directive) (test : TestName) :
    directives.foldl openAfter none = some test ↔ Unfinished directives test := by
  induction directives using reverseRecOn with
  | nil =>
    refine iff_of_false nofun ?_
    rintro ⟨before, after, heq, -⟩
    exact absurd heq (by simp)
  | append_singleton directives directive ih =>
    rw [foldl_append, foldl_cons, foldl_nil, openAfter_eq_some_iff, ih]
    constructor
    · rintro (rfl | ⟨⟨before, after, rfl, hafter⟩, hends, hstarts⟩)
      · exact ⟨directives, [], rfl, nofun⟩
      · refine ⟨before, after ++ [directive], by simp, fun other hother => ?_⟩
        rcases mem_append.1 hother with hmem | hmem
        · exact hafter other hmem
        · rw [mem_singleton.1 hmem]
          exact ⟨hends, hstarts⟩
    · rintro ⟨before, after, heq, hafter⟩
      -- The line is the start of the test, or comes after it.
      rcases eq_nil_or_concat' after with rfl | ⟨after, last, rfl⟩
      · obtain ⟨-, hlast⟩ := append_inj' heq rfl
        exact .inl (cons.inj hlast).1
      · rw [← cons_append, ← append_assoc] at heq
        obtain ⟨hinit, hlast⟩ := append_inj' heq rfl
        obtain rfl : directive = last := (cons.inj hlast).1
        have hend := hafter directive (by simp)
        exact .inr ⟨⟨before, after, hinit, fun other hother => hafter other (by simp [hother])⟩,
          hend.1, hend.2⟩

/-! ## Records that tell the truth -/

/-- Whether a test of a status is among `FailedTests(include_flaky=True)`. -/
def counted (test : TestName) : TestStatus → Bool
  | .failed | .warning => !contains "FAILS_".toList test
  | .timeout | .started => true
  | .ok => false

/-- A record for which a crash is blamed on the test. -/
def Blamed (test : TestName) (record : Record) : Prop :=
  counted test record.1 = true ∧ didNotComplete ∈ record.2

instance (test : TestName) (record : Record) : Decidable (Blamed test record) :=
  instDecidableAnd

/-- The record of a test says that it is running, and blames it, exactly if it is the open
test. -/
def Truthful (openTest : Option TestName) (test : TestName) : Option Record → Prop
  | none => openTest ≠ some test
  | some record =>
    (record.1 = .started ↔ openTest = some test) ∧ (Blamed test record ↔ openTest = some test)

theorem Truthful.congr {openTest openTest' : Option TestName} {test : TestName}
    {record : Option Record} (h : Truthful openTest test record)
    (hsame : openTest' = some test ↔ openTest = some test) : Truthful openTest' test record := by
  cases record with
  | none => exact fun hopen => h (hsame.1 hopen)
  | some record => exact ⟨h.1.trans hsame.symm, h.2.trans hsame.symm⟩

/-- The record of a test that is running. -/
theorem truthful_started {test : TestName} {description : List Line}
    (hmem : didNotComplete ∈ description) :
    Truthful (some test) test (some (.started, description)) :=
  ⟨iff_of_true rfl rfl, iff_of_true ⟨rfl, hmem⟩ rfl⟩

/-- The record of a test that is over. -/
theorem truthful_over {openTest : Option TestName} {test : TestName} {record : Record}
    (hopen : openTest ≠ some test) (hstatus : record.1 ≠ .started) (hblamed : ¬Blamed test record) :
    Truthful openTest test (some record) :=
  ⟨iff_of_false hstatus hopen, iff_of_false hblamed hopen⟩

/-- The records blame the open test and no other. -/
structure TellsTruth (p : GTestLogParser) (openTest : Option TestName) : Prop where
  truthful : ∀ test, Truthful openTest test (p.testStatus.get? test)
  shared : ∀ test, p.shared = some test →
    p.testStatus.get? test = some (.started, p.failureDescription)

theorem tellsTruth_new : TellsTruth .new none := ⟨fun _ => nofun, nofun⟩

namespace TellsTruth

variable {p : GTestLogParser} {openTest : Option TestName}

/-- A test that is recorded as running is the open one. -/
theorem started_iff (h : TellsTruth p openTest) {test : TestName} :
    p.statusOfTest test = some .started ↔ openTest = some test := by
  have htest := h.truthful test
  rw [GTestLogParser.statusOfTest]
  cases hrecord : p.testStatus.get? test with
  | none =>
    rw [hrecord] at htest
    exact iff_of_false nofun htest
  | some record =>
    rw [hrecord] at htest
    exact some_inj.trans htest.1

/-- A line that touches no description. -/
theorem of_eq {p' : GTestLogParser} (h : TellsTruth p openTest)
    (hstatus : p'.testStatus = p.testStatus) (hshared : p'.shared = p.shared)
    (hdescription : p'.failureDescription = p.failureDescription) : TellsTruth p' openTest := by
  constructor
  · rw [hstatus]
    exact h.truthful
  · rw [hstatus, hshared, hdescription]
    exact h.shared

/-- One record is written, and the description begins anew. -/
theorem set {p' : GTestLogParser} {openTest' : Option TestName} (h : TellsTruth p openTest)
    {test : TestName} {record : Record}
    (hstatus : p'.testStatus = p.testStatus.set test record) (hshared : p'.shared = none)
    (hrecord : Truthful openTest' test (some record))
    (hothers : ∀ other, other ≠ test → (openTest' = some other ↔ openTest = some other)) :
    TellsTruth p' openTest' := by
  constructor
  · intro other
    rw [hstatus, get?_set]
    by_cases heq : other = test
    · rw [if_pos heq, heq]
      exact hrecord
    · rw [if_neg heq]
      exact (h.truthful other).congr (hothers other heq)
  · rw [hshared]
    exact fun _ hnone => nomatch hnone

/-- The end of a test leaves the others open. -/
theorem openAfter_end_iff {test other : TestName} (hne : other ≠ test) :
    (if openTest = some test then none else openTest) = some other ↔ openTest = some other := by
  split
  · next hopen =>
    rw [hopen]
    exact iff_of_false nofun fun heq => hne (some.inj heq).symm
  · exact Iff.rfl

theorem openAfter_end_ne (test : TestName) :
    (if openTest = some test then none else openTest) ≠ some test := by
  split
  · exact nofun
  · assumption

end TellsTruth

/-! ## What a line needs -/

/-- What the lines of a log say by themselves: the open test, the test whose output is collected,
whether tests are retried, and the output that has been collected. -/
structure LogState where
  openTest : Option TestName
  currentTest : Option TestName
  retrying : Bool
  output : List Line

/-- One more line. -/
def LogState.after (l : LogState) (line : Line) : Directive → LogState
  | .run test =>
    { l with
      openTest := some test
      currentTest := some test
      output := if l.retrying then [didNotComplete, [], "RETRY OUTPUT:".toList, []] else [] }
  | .ok test | .failed test | .timeout test =>
    { l with
      openTest := if l.openTest = some test then none else l.openTest
      currentTest := none
      output := [] }
  | .runTestCases => { l with currentTest := none, output := [] }
  | .passed => { l with currentTest := none }
  | .retry => { l with retrying := true }
  | .output => if l.currentTest.isSome then { l with output := l.output ++ [line] } else l
  | .disabled _ | .flaky _ => l

/-- What the records need of a line to go on telling the truth: the output that is recorded
for a test that is over does not say that it did not complete (unless the test is not counted),
a test does not start while one that is not the current one is open, and no line of
`run_test_cases.py` comes while the current test is open. The records only say which tests have
failed before. -/
def Clean (l : LogState) (p : GTestLogParser) : Directive → Prop
  | .run test => ∀ other ∈ l.openTest, other ≠ test →
    l.currentTest = some other ∧ didNotComplete ∉ l.output
  | .ok test => l.retrying = true → ¬Blamed test (.warning, l.output)
  | .failed test => p.statusOfTest test ∉ [some .failed, some .timeout] →
    ¬Blamed test (.failed, l.output)
  | .timeout _ => didNotComplete ∉ l.output
  | .runTestCases => ∀ other ∈ l.openTest, l.currentTest ≠ some other
  | .passed | .disabled _ | .flaky _ | .retry | .output => True

instance (l : LogState) (p : GTestLogParser) : ∀ directive, Decidable (Clean l p directive)
  | .run _ => decidableForallMem _
  | .ok _ => instDecidableForall
  | .failed _ => @instDecidableForall _ _ (decidable_of_iff' _ (not_congr mem_pair)) _
  | .timeout _ => instDecidableNot
  | .runTestCases => decidableForallMem _
  | .passed | .disabled _ | .flaky _ | .retry | .output => instDecidableTrue

/-! ## The parser and the log -/

/-- The members of the parser that the lines determine. -/
def GTestLogParser.logState (p : GTestLogParser) (openTest : Option TestName) : LogState :=
  ⟨openTest, p.currentTest, p.retryingFailed, p.failureDescription⟩

section

open GTestLogParser

theorem logState_timeOutCurrent (p : GTestLogParser) (openTest : Option TestName) :
    p.timeOutCurrent.logState openTest = p.logState openTest := by
  unfold timeOutCurrent
  split
  · rfl
  · split <;> rfl

theorem logState_readFailures (p : GTestLogParser) (openTest : Option TestName) (line : Line) :
    (p.readFailures line).logState openTest = p.logState openTest := by
  unfold readFailures
  split
  · split
    · split <;> rfl
    · rfl
  · split <;> rfl

theorem logState_collect (p : GTestLogParser) (openTest : Option TestName) (line : Line) :
    (p.collect line).logState openTest = (p.logState openTest).after line .output := by
  unfold collect
  split
  · next hnone => simp [logState, LogState.after, hnone]
  · next hsome =>
    dsimp only
    split
    · simp [logState, LogState.after, hsome]
    · split <;> simp [logState, LogState.after, record, hsome]

/-- The parser follows the log. -/
theorem logState_follow (p : GTestLogParser) (openTest : Option TestName) (line : Line)
    (directive : Directive) :
    (p.follow line directive).logState (openAfter openTest directive) =
      (p.logState openTest).after line directive := by
  have hretrying : p.timeOutCurrent.retryingFailed = p.retryingFailed :=
    congrArg LogState.retrying (logState_timeOutCurrent p openTest)
  cases directive with
  | run test =>
    simp only [follow, runLine, record, hretrying,
      logState, LogState.after]
    split
    · next hcond => simp [openAfter, hcond]
    · next hcond => simp [describe, openAfter, hcond]
  | ok test =>
    simp only [follow, okLine]
    split <;> split <;> rfl
  | failed test =>
    simp only [follow, failedLine]
    split <;> split <;> rfl
  | timeout test =>
    simp only [follow, timeoutLine]
    split <;> rfl
  | runTestCases =>
    simp [follow, describe, leave, hretrying,
      logState, LogState.after, openAfter]
  | output => exact (logState_readFailures _ _ line).trans (logState_collect p openTest line)
  | passed | disabled _ | flaky _ | retry => rfl

end

/-! ## Each kind of line -/

namespace TellsTruth

variable {p : GTestLogParser} {openTest : Option TestName}

/-- The current test times out when another one starts. -/
theorem get?_timeOutCurrent (p : GTestLogParser) (test : TestName) :
    p.timeOutCurrent.testStatus.get? test =
      if p.currentTest = some test ∧ p.statusOfTest test = some .started then
        some (.timeout, p.failureDescription)
      else p.testStatus.get? test := by
  unfold GTestLogParser.timeOutCurrent
  split
  · next hnone =>
    rw [if_neg]
    rintro ⟨hsome, -⟩
    rw [hnone] at hsome
    cases hsome
  · next current hcurrent =>
    rw [hcurrent]
    split
    · next hstarted =>
      rw [GTestLogParser.record, get?_set]
      by_cases heq : test = current
      · rw [if_pos heq, heq, if_pos ⟨rfl, hstarted⟩]
      · rw [if_neg heq, if_neg fun h => heq (some.inj h.1).symm]
    · next hstarted =>
      rw [if_neg]
      rintro ⟨hsame, hstatus⟩
      exact hstarted (some.inj hsame ▸ hstatus)

section

variable (h : TellsTruth p openTest)
include h

/-- The start of a test: the one that was open has timed out. -/
theorem truthful_timeOutCurrent {test other : TestName}
    (hclean : Clean (p.logState openTest) p (.run test)) (hne : other ≠ test) :
    Truthful (some test) other (p.timeOutCurrent.testStatus.get? other) := by
  have hclosed : some test ≠ some other := fun heq => hne (some.inj heq).symm
  rw [get?_timeOutCurrent]
  split
  · next hcurrent =>
    have hover : TestStatus.timeout ≠ .started := by decide
    refine truthful_over hclosed hover fun hblamed => ?_
    exact (hclean other (h.started_iff.1 hcurrent.2) hne).2 hblamed.2
  · next hcurrent =>
    -- A test that is running is the current one, so this one is over already.
    have hopen : openTest ≠ some other := fun hopen =>
      hcurrent ⟨(hclean other hopen hne).1, h.started_iff.2 hopen⟩
    exact (h.truthful other).congr (iff_of_false hclosed hopen)

theorem runLine {test : TestName} (hclean : Clean (p.logState openTest) p (.run test)) :
    TellsTruth (p.runLine test) (some test) := by
  have hget : ∀ description : List Line, didNotComplete ∈ description → ∀ other,
      Truthful (some test) other
        (if other = test then some (.started, description)
          else p.timeOutCurrent.testStatus.get? other) := by
    intro description hmem other
    by_cases heq : other = test
    · rw [if_pos heq, heq]
      exact truthful_started hmem
    · rw [if_neg heq]
      exact h.truthful_timeOutCurrent hclean heq
  unfold GTestLogParser.runLine
  dsimp only
  split
  · -- The description goes on in the list that has been recorded.
    constructor
    · intro other
      have hother := hget [didNotComplete, [], "RETRY OUTPUT:".toList, []] mem_cons_self other
      simp only [GTestLogParser.record, get?_set]
      split
      · next heq => rwa [if_pos heq] at hother
      · next heq => rwa [if_neg heq] at hother
    · rintro other hshared
      obtain rfl : test = other := some.inj hshared
      simp [GTestLogParser.record]
  · constructor
    · intro other
      have hother := hget [didNotComplete] mem_cons_self other
      simpa only [GTestLogParser.record, GTestLogParser.describe, get?_set]
        using hother
    · intro other hshared
      cases hshared

theorem okLine {line : Line} {test : TestName} (hclean : Clean (p.logState openTest) p (.ok test)) :
    TellsTruth (p.okLine line test) (openAfter openTest (.ok test)) := by
  -- The errors that are recorded are no matter here.
  have hrecord : ∀ record : Record,
      (record = (.warning, p.failureDescription) ∧ p.retryingFailed = true ∨ record = (.ok, [])) →
      Truthful (openAfter openTest (.ok test)) test (some record) := by
    rintro record (⟨rfl, hretrying⟩ | rfl)
    · exact truthful_over (openAfter_end_ne test) nofun (hclean hretrying)
    · exact truthful_over (openAfter_end_ne test) nofun fun hblamed => nomatch hblamed.1
  have hothers : ∀ other, other ≠ test →
      (openAfter openTest (.ok test) = some other ↔ openTest = some other) :=
    fun other hne => openAfter_end_iff hne
  unfold GTestLogParser.okLine
  dsimp only
  split
  · split
    · next hretrying => exact h.set rfl rfl (hrecord _ (.inl ⟨rfl, hretrying⟩)) hothers
    · exact h.set rfl rfl (hrecord _ (.inr rfl)) hothers
  · split
    · next hretrying => exact h.set rfl rfl (hrecord _ (.inl ⟨rfl, hretrying⟩)) hothers
    · exact h.set rfl rfl (hrecord _ (.inr rfl)) hothers

/-- A test that is recorded as over is not the open one. -/
theorem openTest_ne {test : TestName}
    (hstatus : p.statusOfTest test ≠ some .started) : openTest ≠ some test :=
  fun hopen => hstatus (h.started_iff.2 hopen)

theorem failedLine {line : Line} {test : TestName} (hclean : Clean (p.logState openTest) p (.failed test)) :
    TellsTruth (p.failedLine line test) (openAfter openTest (.failed test)) := by
  have hothers : ∀ other, other ≠ test →
      (openAfter openTest (.failed test) = some other ↔ openTest = some other) :=
    fun other hne => openAfter_end_iff hne
  by_cases hover : p.statusOfTest test ∈ [some TestStatus.failed, some .timeout]
  · -- The test has been recorded as failing already, and stays so.
    have hopen : openTest ≠ some test := h.openTest_ne fun hstatus => by simp [hstatus] at hover
    have hkeep : openAfter openTest (.failed test) = openTest := if_neg hopen
    have hsame : (p.failedLine line test).testStatus = p.testStatus := by
      unfold GTestLogParser.failedLine
      dsimp only
      rw [if_neg (not_not.2 hover)]
      split <;> rfl
    rw [hkeep]
    refine ⟨fun other => ?_, fun other hshared => nomatch hshared⟩
    rw [hsame]
    exact h.truthful other
  · have hrecord : Truthful (openAfter openTest (.failed test)) test
        (some (.failed, p.failureDescription)) :=
      truthful_over (openAfter_end_ne test) nofun (hclean hover)
    have hstatus : (p.failedLine line test).testStatus =
        p.testStatus.set test (.failed, p.failureDescription) := by
      unfold GTestLogParser.failedLine
      dsimp only
      rw [if_pos hover]
      split <;> rfl
    exact h.set hstatus rfl hrecord hothers

theorem timeoutLine {line : Line} {test : TestName} (hclean : Clean (p.logState openTest) p (.timeout test)) :
    TellsTruth (p.timeoutLine line test) (openAfter openTest (.timeout test)) := by
  have hrecord : Truthful (openAfter openTest (.timeout test)) test
      (some (.timeout, p.failureDescription ++ ["Killed (timed out).".toList])) := by
    refine truthful_over (openAfter_end_ne test) nofun fun hblamed => ?_
    rcases mem_append.1 hblamed.2 with hmem | hmem
    · exact hclean hmem
    · exact absurd (mem_singleton.1 hmem) (by decide)
  have hstatus : (p.timeoutLine line test).testStatus = p.testStatus.set test
      (.timeout, p.failureDescription ++ ["Killed (timed out).".toList]) := by
    unfold GTestLogParser.timeoutLine
    dsimp only
    split <;> rfl
  exact h.set hstatus rfl hrecord fun other hne => openAfter_end_iff hne

theorem runTestCases (hclean : Clean (p.logState openTest) p .runTestCases) :
    TellsTruth (p.timeOutCurrent.describe []).leave openTest := by
  constructor
  · intro test
    show Truthful openTest test (p.timeOutCurrent.testStatus.get? test)
    rw [get?_timeOutCurrent,
      if_neg fun hcurrent => hclean test (h.started_iff.1 hcurrent.2) hcurrent.1]
    exact h.truthful test
  · exact fun test hshared => nomatch hshared

theorem collect (line : Line) : TellsTruth (p.collect line) openTest := by
  unfold GTestLogParser.collect
  split
  · exact h
  · dsimp only
    split
    · next hshared =>
      refine ⟨h.truthful, fun test hsome => ?_⟩
      have hsame : p.shared = some test := hsome
      exact absurd (hshared.symm.trans hsame) nofun
    · next test hshared =>
      have hrecord := h.shared test hshared
      have hstatus : p.statusOfTest test = some .started := by
        rw [GTestLogParser.statusOfTest, hrecord]
        rfl
      have hopen := h.started_iff.1 hstatus
      have hmem : didNotComplete ∈ p.failureDescription := by
        have htest := h.truthful test
        rw [hrecord] at htest
        exact (htest.2.2 hopen).2
      split
      · next hnone => exact absurd (hstatus.symm.trans hnone) nofun
      · next status hsome =>
        obtain rfl : TestStatus.started = status := some.inj (hstatus.symm.trans hsome)
        constructor
        · intro other
          rw [GTestLogParser.record, get?_set]
          by_cases heq : other = test
          · rw [if_pos heq, heq, hopen]
            exact truthful_started (mem_append_left _ hmem)
          · rw [if_neg heq]
            exact h.truthful other
        · intro other hsharedOther
          obtain rfl : test = other := some.inj (hshared.symm.trans hsharedOther)
          rw [GTestLogParser.record, get?_set, if_pos rfl]

theorem readFailures (line : Line) : TellsTruth (p.readFailures line) openTest := by
  unfold GTestLogParser.readFailures
  split
  · split
    · next test _ =>
      split
      · next hover =>
        -- Only a test that is not running is added.
        have hstatus : p.statusOfTest test ≠ some .started := fun hstatus => by
          simp [hstatus] at hover
        have hopen := h.openTest_ne hstatus
        constructor
        · intro other
          rw [GTestLogParser.record, get?_set]
          by_cases heq : other = test
          · rw [if_pos heq, heq]
            refine truthful_over hopen nofun fun hblamed => ?_
            exact absurd (mem_singleton.1 hblamed.2) (by decide)
          · rw [if_neg heq]
            exact h.truthful other
        · intro other hshared
          have hrecord := h.shared other hshared
          rw [GTestLogParser.record, get?_set, if_neg]
          · exact hrecord
          · rintro rfl
            exact hstatus (by rw [GTestLogParser.statusOfTest, hrecord]; rfl)
      · exact h
    · exact h.of_eq rfl rfl rfl
  · split
    · exact h.of_eq rfl rfl rfl
    · exact h

theorem readMasterName (line : Line) : TellsTruth (p.readMasterName line) openTest := by
  unfold GTestLogParser.readMasterName
  split
  · split
    · exact h.of_eq rfl rfl rfl
    · exact h
  · exact h

/-- **Line**: the records go on telling the truth. -/
theorem follow {line : Line} {directive : Directive} (hclean : Clean (p.logState openTest) p directive) :
    TellsTruth (p.follow line directive) (openAfter openTest directive) := by
  cases directive with
  | runTestCases => exact h.runTestCases hclean
  | passed => exact h.of_eq rfl rfl rfl
  | disabled count => exact h.of_eq rfl rfl rfl
  | flaky count => exact h.of_eq rfl rfl rfl
  | run test => exact h.runLine hclean
  | ok test => exact h.okLine hclean
  | failed test => exact h.failedLine hclean
  | timeout test => exact h.timeoutLine hclean
  | retry => exact h.of_eq rfl rfl rfl
  | output => exact (h.collect line).readFailures line

end

end TellsTruth

/-! ## Whole logs -/

/-- The parser with what the log says, under the parts of lines. -/
def partLog : Machine (GTestLogParser × LogState) Line where
  Pre s part := Clean s.2 s.1 (classify part)
  step s part := (s.1.processPart part, s.2.after part (classify part))

/-- What the records need of a line, part by part. -/
def CleanLine (s : GTestLogParser × LogState) (line : Line) : Prop :=
  partLog.Legal ({ s.1 with lineNumber := s.1.lineNumber + 1 }, s.2) (split line)

instance (s : GTestLogParser × LogState) (line : Line) : Decidable (CleanLine s line) :=
  Machine.decidableAlong (M := partLog) (C := fun s part => Clean s.2 s.1 (classify part)) _ _

/-- The parser with what the log says, under lines. -/
def log : Machine (GTestLogParser × LogState) Line where
  Pre _ _ := True
  step s line := partLog.run ({ s.1 with lineNumber := s.1.lineNumber + 1 }, s.2) (split line)

/-- The parser under lines, any line at any time. -/
def parser : Machine GTestLogParser Line := ⟨fun _ _ => True, GTestLogParser.processLine⟩

/-- What the parser takes the lines of a log for. -/
def directives (lines : List Line) : List Directive := (lines.flatMap split).map classify

namespace TellsTruth

variable {p : GTestLogParser} {openTest : Option TestName}

theorem readMasterName_eq (p : GTestLogParser) (line : Line) :
    ∃ masterName, p.readMasterName line = { p with masterName } := by
  unfold GTestLogParser.readMasterName
  split
  · split
    · exact ⟨_, rfl⟩
    · exact ⟨p.masterName, rfl⟩
  · exact ⟨p.masterName, rfl⟩

theorem logState_processPart (p : GTestLogParser) (openTest : Option TestName) (part : Line) :
    (p.processPart part).logState (openAfter openTest (classify part)) =
      (p.logState openTest).after part (classify part) := by
  obtain ⟨masterName, hname⟩ := readMasterName_eq p part
  rw [GTestLogParser.processPart, logState_follow, hname]
  rfl

theorem partLog_run (p : GTestLogParser) (openTest : Option TestName) (parts : List Line) :
    partLog.run (p, p.logState openTest) parts =
      (parts.foldl GTestLogParser.processPart p, (parts.foldl GTestLogParser.processPart p).logState
        ((parts.map classify).foldl openAfter openTest)) := by
  induction parts generalizing p openTest with
  | nil => rfl
  | cons part parts ih =>
    rw [map_cons, foldl_cons, foldl_cons, ← ih, logState_processPart]
    rfl

/-- **Part**: the records go on telling the truth. -/
theorem processPart (h : TellsTruth p openTest) {part : Line}
    (hclean : Clean (p.logState openTest) p (classify part)) :
    TellsTruth (p.processPart part) (openAfter openTest (classify part)) := by
  refine (h.readMasterName part).follow ?_
  obtain ⟨masterName, hname⟩ := readMasterName_eq p part
  rw [hname]
  cases hdirective : classify part <;> exact hdirective ▸ hclean

/-- **Parts**: the same, one after another. -/
theorem parts (h : TellsTruth p openTest) {parts : List Line}
    (hclean : partLog.Legal (p, p.logState openTest) parts) :
    TellsTruth (parts.foldl GTestLogParser.processPart p)
      ((parts.map classify).foldl openAfter openTest) := by
  induction parts generalizing p openTest with
  | nil => exact h
  | cons part parts ih =>
    refine ih (h.processPart hclean.1) ?_
    rw [logState_processPart]
    exact hclean.2

/-- **Log**: after all lines the records tell the truth. -/
theorem run (h : TellsTruth p openTest) {lines : List Line}
    (hclean : log.Along CleanLine (p, p.logState openTest) lines) :
    TellsTruth (parser.run p lines) ((directives lines).foldl openAfter openTest) := by
  induction lines generalizing p openTest with
  | nil => exact h
  | cons line lines ih =>
    have hcount : TellsTruth { p with lineNumber := p.lineNumber + 1 } openTest :=
      h.of_eq rfl rfl rfl
    have hnext := partLog_run { p with lineNumber := p.lineNumber + 1 } openTest (split line)
    have hrest := ih (hcount.parts hclean.1) (hnext ▸ hclean.2)
    rw [directives, flatMap_cons, map_append, foldl_append]
    exact hrest

end TellsTruth

/-! ## The result -/

theorem mem_testsByStatus {items : List (TestName × Record)} {status : TestStatus}
    {includeFails : Bool} {test : TestName} :
    test ∈ GTestLogParser.testsByStatus items status includeFails true ↔
      (∃ record, (test, record) ∈ items ∧ record.1 = status) ∧
        (includeFails = false → contains "FAILS_".toList test = false) := by
  have hstatus : test ∈ (items.filter fun item => item.2.1 = status).map Prod.fst ↔
      ∃ record, (test, record) ∈ items ∧ record.1 = status := by
    rw [List.mem_map]
    constructor
    · rintro ⟨⟨name, record⟩, hmem, rfl⟩
      obtain ⟨hitem, hrecord⟩ := mem_filter.1 hmem
      exact ⟨record, hitem, of_decide_eq_true hrecord⟩
    · rintro ⟨record, hitem, hrecord⟩
      exact ⟨(test, record), mem_filter.2 ⟨hitem, decide_eq_true hrecord⟩, rfl⟩
  cases includeFails with
  | false =>
    refine mem_filter.trans (and_congr hstatus ?_)
    simp
  | true => exact hstatus.trans (and_iff_left nofun).symm

/-- The failing tests are those of a counted status. -/
theorem mem_failedTests {items : List (TestName × Record)} {test : TestName} :
    test ∈ GTestLogParser.failedTests items false true ↔
      ∃ record, (test, record) ∈ items ∧ counted test record.1 = true := by
  simp only [GTestLogParser.failedTests, GTestLogParser.runningTests, mem_append,
    mem_testsByStatus]
  constructor
  · rintro (((⟨⟨record, hmem, hstatus⟩, hname⟩ | ⟨⟨record, hmem, hstatus⟩, -⟩) |
      ⟨⟨record, hmem, hstatus⟩, hname⟩) | ⟨⟨record, hmem, hstatus⟩, -⟩)
    all_goals refine ⟨record, hmem, ?_⟩
    all_goals rw [hstatus]
    · simpa [counted] using hname
    · rfl
    · simpa [counted] using hname
    · rfl
  · rintro ⟨⟨status, description⟩, hmem, hcounted⟩
    cases status with
    | started => exact .inr ⟨⟨_, hmem, rfl⟩, nofun⟩
    | ok => cases hcounted
    | failed => exact .inl (.inl (.inl ⟨⟨_, hmem, rfl⟩, fun _ => by simpa [counted] using hcounted⟩))
    | timeout => exact .inl (.inl (.inr ⟨⟨_, hmem, rfl⟩, nofun⟩))
    | warning => exact .inl (.inr ⟨⟨_, hmem, rfl⟩, fun _ => by simpa [counted] using hcounted⟩)

/-- If one test at most did not complete, it is the one that is found. -/
theorem lastCrashed_eq {tests : OrderedDict TestName (List Line)} (test : TestName)
    (honly : ∀ entry ∈ tests.entries, didNotComplete ∈ entry.2 → entry.1 = test)
    (crashedTest : Option TestName) :
    GTestResult.lastCrashed crashedTest tests =
      if ∃ entry ∈ tests.entries, didNotComplete ∈ entry.2 then some test else crashedTest := by
  rw [GTestResult.lastCrashed]
  generalize tests.entries = entries at honly
  induction entries generalizing crashedTest with
  | nil => simp
  | cons entry entries ih =>
    have honly' := fun other hmem => honly other (mem_cons_of_mem entry hmem)
    rw [foldl_cons, ih _ honly']
    by_cases hmem : didNotComplete ∈ entry.2
    · -- From here on the test has been found.
      have hname := honly entry mem_cons_self hmem
      rw [if_pos hmem, hname, ite_self, if_pos ⟨entry, mem_cons_self, hmem⟩]
    · rw [if_neg hmem]
      refine if_congr ⟨?_, ?_⟩ rfl rfl
      · rintro ⟨other, hother, hcrashed⟩
        exact ⟨other, mem_cons_of_mem _ hother, hcrashed⟩
      · rintro ⟨other, hother, hcrashed⟩
        exact ⟨other, (mem_cons.1 hother).resolve_left fun heq => hmem (heq ▸ hcrashed),
          hcrashed⟩

/-- The first line of a failure description names the test. -/
theorem append_colon_ne (test : TestName) : test ++ ": ".toList ≠ didNotComplete := by
  intro heq
  have hname : (test ++ ": ".toList).getLast? = some ' ' := by
    rw [getLast?_append]
    rfl
  have hlast : didNotComplete.getLast? = some '.' := by decide
  rw [heq, hlast] at hname
  exact absurd hname (by decide)

/-- The entries of a dictionary of failing tests. -/
theorem mem_describe {p : GTestLogParser} {tests : List TestName} {test : TestName}
    {logLines : List Line} :
    (test, logLines) ∈ (tests.foldl (fun dict test => dict.set test (p.failureDescriptionOf test))
        (empty : OrderedDict TestName (List Line))).entries ↔
      test ∈ tests ∧ logLines = p.failureDescriptionOf test := by
  rw [← get?_eq_some, get?_foldl_set, get?_empty]
  split
  · next hmem =>
    exact some_inj.trans (eq_comm.trans (and_iff_right hmem).symm)
  · next hmem => exact iff_of_false nofun fun h => hmem h.1

variable {p : GTestLogParser} {openTest : Option TestName} {items : List (TestName × Record)}

/-- A failing test whose description says that it did not complete is the open one, and the
open one is such a test. -/
theorem TellsTruth.blamed_iff (h : TellsTruth p openTest) (hitems : p.Items items)
    {test : TestName} :
    test ∈ GTestLogParser.failedTests items false true ∧
        didNotComplete ∈ p.failureDescriptionOf test ↔
      openTest = some test := by
  have hmem : ∀ record, (test, record) ∈ items ↔ p.testStatus.get? test = some record :=
    fun record => hitems.mem_iff.trans get?_eq_some.symm
  have hdescription : ∀ record, p.testStatus.get? test = some record →
      (didNotComplete ∈ p.failureDescriptionOf test ↔ didNotComplete ∈ record.2) := by
    intro record hrecord
    rw [GTestLogParser.failureDescriptionOf, hrecord, mem_cons]
    exact or_iff_right (append_colon_ne test).symm
  have htest := h.truthful test
  rw [mem_failedTests]
  constructor
  · rintro ⟨⟨record, hitem, hcounted⟩, hcrashed⟩
    have hrecord := (hmem record).1 hitem
    rw [hrecord] at htest
    exact htest.2.1 ⟨hcounted, (hdescription record hrecord).1 hcrashed⟩
  · intro hopen
    cases hrecord : p.testStatus.get? test with
    | none =>
      rw [hrecord] at htest
      exact absurd hopen htest
    | some record =>
      rw [hrecord] at htest
      obtain ⟨hcounted, hcrashed⟩ := htest.2.2 hopen
      exact ⟨⟨record, (hmem record).2 hrecord, hcounted⟩, (hdescription record hrecord).2 hcrashed⟩

/-- **Result**: a crash is blamed on the open test. -/
theorem TellsTruth.crashedTest_eq (h : TellsTruth p openTest) (hitems : p.Items items)
    (returnCode : Int) : (resultOf p items returnCode).crashedTest = openTest := by
  let failing := GTestLogParser.failedTests items false true
  let describe (tests : List TestName) : OrderedDict TestName (List Line) :=
    tests.foldl (fun dict test => dict.set test (p.failureDescriptionOf test)) .empty
  have hresult : (resultOf p items returnCode).crashedTest =
      GTestResult.lastCrashed (GTestResult.lastCrashed none
        (describe (failing.filter fun test => !GTestResult.isFlaky test)))
        (describe (failing.filter GTestResult.isFlaky)) := rfl
  have honly : ∀ (keep : TestName → Bool), ∀ entry ∈ (describe (failing.filter keep)).entries,
      didNotComplete ∈ entry.2 → openTest = some entry.1 := by
    rintro keep ⟨test, logLines⟩ hentry hcrashed
    obtain ⟨hfailing, rfl⟩ := mem_describe.1 hentry
    exact (h.blamed_iff hitems).1 ⟨mem_of_mem_filter hfailing, hcrashed⟩
  rw [hresult]
  cases hopen : openTest with
  | none =>
    -- No description says that a test did not complete; any name will do for the search.
    have hnone : ∀ (keep : TestName → Bool) crashedTest,
        GTestResult.lastCrashed crashedTest (describe (failing.filter keep)) = crashedTest := by
      intro keep crashedTest
      have hnever : ∀ entry ∈ (describe (failing.filter keep)).entries,
          didNotComplete ∉ entry.2 := fun entry hentry hcrashed =>
        absurd (hopen.symm.trans (honly keep entry hentry hcrashed)) nofun
      rw [lastCrashed_eq [] fun entry hentry hcrashed =>
        absurd hcrashed (hnever entry hentry)]
      exact if_neg fun ⟨entry, hentry, hcrashed⟩ => hnever entry hentry hcrashed
    rw [hnone, hnone]
  | some test =>
    obtain ⟨hfailing, hcrashed⟩ := (h.blamed_iff hitems).2 hopen
    have hsome : ∀ (keep : TestName → Bool) crashedTest,
        GTestResult.lastCrashed crashedTest (describe (failing.filter keep)) =
          if ∃ entry ∈ (describe (failing.filter keep)).entries, didNotComplete ∈ entry.2
          then some test else crashedTest := by
      intro keep crashedTest
      refine lastCrashed_eq test (fun entry hentry hcrashed => ?_) crashedTest
      exact some.inj ((honly keep entry hentry hcrashed).symm.trans hopen)
    have hentry : ∀ keep : TestName → Bool, keep test = true →
        ∃ entry ∈ (describe (failing.filter keep)).entries, didNotComplete ∈ entry.2 :=
      fun keep hkeep => ⟨_, mem_describe.2 ⟨mem_filter.2 ⟨hfailing, hkeep⟩, rfl⟩, hcrashed⟩
    rw [hsome, hsome]
    -- The open test is among the flaked or among the failed tests.
    by_cases hflaky : GTestResult.isFlaky test = true
    · rw [if_pos (hentry _ hflaky)]
    · rw [if_pos (hentry (fun test => !GTestResult.isFlaky test) (by simp [hflaky])), ite_self]

/-- **A crash is blamed on the right test**: after every log whose lines are clean the crashed
test of the result is the one that the log leaves open, if there is one. -/
theorem crashedTest_iff (lines : List Line)
    (hclean : log.Along CleanLine (.new, ⟨none, none, false, []⟩) lines)
    (before : List Line) (hbefore : before <+: lines) (items : List (TestName × Record))
    (hitems : (parser.run .new before).Items items) (returnCode : Int) (test : TestName) :
    (resultOf (parser.run .new before) items returnCode).crashedTest = some test ↔
      Unfinished (directives before) test := by
  have htruth := tellsTruth_new.run (hclean.of_isPrefix hbefore)
  rw [htruth.crashedTest_eq hitems, unfinished_iff]

/-- One test passes, the next prints a line and fails, and the last one is still running. -/
theorem crashed_in_last_test :
    let p := parser.run .new ["[ RUN      ] A.a".toList, "[       OK ] A.a".toList,
      "[ RUN      ] A.b".toList, "expected 1".toList, "[  FAILED  ] A.b".toList,
      "noise[ RUN      ] A.c".toList]
    (resultOf p p.testStatus.entries 1).crashedTest = some "A.c".toList :=
  (crashedTest_iff _ (by decide +kernel) _ prefix_rfl _ (.refl _) 1 _).2
    ((unfinished_iff _ _).1 (by decide +kernel))

/-- A test that passes when it is retried is blamed for a crash: its description is that of
the retry, which began as the description of a test that did not complete. -/
theorem retried_test_blamed :
    (resultOf (parser.run .new ["RETRYING FAILED TESTS:".toList, "[ RUN      ] A.a".toList,
        "[       OK ] A.a".toList])
        (parser.run .new ["RETRYING FAILED TESTS:".toList, "[ RUN      ] A.a".toList,
        "[       OK ] A.a".toList]).testStatus.entries 0).crashedTest = some "A.a".toList ∧
      ¬Unfinished (directives ["RETRYING FAILED TESTS:".toList, "[ RUN      ] A.a".toList,
        "[       OK ] A.a".toList]) "A.a".toList := by
  constructor
  · decide +kernel
  · rw [← unfinished_iff]
    decide +kernel

end GTest

end ChromiumIos
