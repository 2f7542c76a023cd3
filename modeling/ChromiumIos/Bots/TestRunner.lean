import ChromiumIos.Bots.GTestLogParser

/-!
# `TestRunner.launch`

`test_runner.py`: an app with tests is run, run again if it crashed on startup, resumed behind
the tests at which it crashes, and run once more for each test that failed. What the app does
in each run is for the app to say; the runner has only the logs.

- `Executes`: a run of an app executes some of the tests that its filter allows, in order, and
  completes, crashes inside a test or exits.
- `Launch`: the collections and the runs so far.
- `launch`: the runs one after another.
-/

namespace ChromiumIos

open Lib

namespace GTest

/-! ## Runs -/

/-- What `get_launch_command` makes of a list of tests. -/
inductive Filter
  | all
  | only (tests : List TestName)
  | except (tests : List TestName)
deriving DecidableEq, Repr

def getLaunchCommand (testFilter : List TestName) (invert : Bool) : Filter :=
  if testFilter = [] then .all else if invert then .except testFilter else .only testFilter

def Filter.allows : Filter → TestName → Bool
  | .all, _ => true
  | .only tests, test => test ∈ tests
  | .except tests, test => test ∉ tests

/-- What one run leaves: its log, line by line as `rstrip` leaves it, the items of the
dictionary of statuses in the order in which it gives them, and the return code. -/
structure RunOutput where
  log : List Line
  items : List (TestName × Record)
  returnCode : Int

namespace RunOutput

def parsed (out : RunOutput) : GTestLogParser :=
  out.log.foldl GTestLogParser.processLine .new

/-- `_run`. -/
def result (out : RunOutput) : GTestResult := resultOf out.parsed out.items out.returnCode

/-- The log has a `RUN` line of the test. -/
def Ran (out : RunOutput) (test : TestName) : Prop :=
  Directive.run test ∈ (out.log.flatMap split).map classify

instance (out : RunOutput) (test : TestName) : Decidable (out.Ran test) :=
  inferInstanceAs (Decidable (_ ∈ _))

/-- The log has an `OK` line of the test. -/
def Passed (out : RunOutput) (test : TestName) : Prop :=
  Directive.ok test ∈ (out.log.flatMap split).map classify

instance (out : RunOutput) (test : TestName) : Decidable (out.Passed test) :=
  inferInstanceAs (Decidable (_ ∈ _))

end RunOutput

/-- What an app leaves of its run number `count` with a filter; `none` is that the command is
too long to be run (`E2BIG`). -/
abbrev App := (count : Nat) → Filter → Option RunOutput

/-! ## What a run executes -/

/-- How a run ends. -/
inductive Ending
  | completes
  | crashes (test : TestName)
  | exits
deriving DecidableEq, Repr

/-- The test that is running when the app crashes. -/
def Ending.tests : Ending → List TestName
  | .crashes test => [test]
  | .completes | .exits => []

/-- The lines of a test that was executed, which passed or failed. -/
def executedMarks (executed : TestName × Bool) : List Directive :=
  [.run executed.1, if executed.2 then .ok executed.1 else .failed executed.1]

/-- The lines at the end of a log: a summary that names the tests that failed, or the start of
the test that crashes. -/
def Ending.marks (executed : List (TestName × Bool)) : Ending → List Directive
  | .completes => .passed :: (executed.filter fun test => !test.2).map fun test => .failed test.1
  | .crashes test => [.run test]
  | .exits => []

/-- A line that is more than output, which a test may print anywhere. -/
def Directive.isMark : Directive → Bool
  | .output | .disabled _ | .flaky _ => false
  | _ => true

/-- A run with a filter executes some tests, in order, and ends. Its output does not list
failing tests in the manner of the base launcher. -/
structure Executes (tests : List TestName) (filter : Filter) (out : RunOutput)
    (executed : List (TestName × Bool)) (ending : Ending) : Prop where
  inOrder : (executed.map Prod.fst ++ ending.tests).Sublist (tests.filter filter.allows)
  marks : ((out.log.flatMap split).map classify).filter Directive.isMark =
    executed.flatMap executedMarks ++ ending.marks executed
  noList : ∀ part ∈ out.log.flatMap split, literal "Failing tests:".toList part = none
  items : out.parsed.Items out.items

/-- Every run of the app executes some of the tests that its filter allows. -/
def Behaves (tests : List TestName) (app : App) : Prop :=
  ∀ count filter out, app count filter = some out →
    ∃ executed ending, Executes tests filter out executed ending

/-! ## The launch -/

/-- The collections of a launch, the result of its last run, all of its runs, and those before
the retries whose results are kept. -/
structure Launch where
  passed : List TestName
  failed : OrderedDict TestName (List Line)
  flaked : OrderedDict TestName (List Line)
  result : GTestResult
  runs : List RunOutput
  kept : List (Filter × RunOutput)

namespace Launch

/-- The first run whose result is kept, after one that crashed on startup or none. -/
def first (discarded : List RunOutput) (out : RunOutput) : Launch where
  passed := out.result.passedTests
  failed := out.result.failedTests
  flaked := out.result.flakedTests
  result := out.result
  runs := discarded ++ [out]
  kept := [(.all, out)]

/-- One more run, behind the test at which the app crashed. -/
def keep (s : Launch) (filter : Filter) (out : RunOutput) : Launch where
  passed := s.passed ++ out.result.passedTests
  failed := s.failed.update out.result.failedTests
  flaked := s.flaked.update out.result.flakedTests
  result := out.result
  runs := s.runs ++ [out]
  kept := s.kept ++ [(filter, out)]

/-- The filter that leaves out every test that is in a collection. -/
def resumeFilter (s : Launch) : Filter :=
  getLaunchCommand (s.passed ++ s.failed.keys ++ s.flaked.keys) true

/-- The loop that resumes; `none` is that the loop needs more turns. -/
def resumeLoop (app : App) : Nat → Launch → Option Launch
  | 0, _ => none
  | turns + 1, s =>
    if s.result.crashed && s.result.crashedTest.isSome then
      match app s.runs.length s.resumeFilter with
      | none => some s -- Too many test cases to resume.
      | some out => resumeLoop app turns (s.keep s.resumeFilter out)
    else some s

/-- A test that failed is retried; `none` is that the command cannot be run. -/
def retryTest (app : App) (s : Launch) (test : TestName) : Option Launch :=
  match app s.runs.length (getLaunchCommand [test] false) with
  | none => none
  | some out =>
    let s := { s with result := out.result, runs := s.runs ++ [out] }
    if test ∈ out.result.passedTests then
      some { s with
        flaked := s.flaked.set test ((s.failed.get? test).getD [])
        failed := s.failed.delete test }
    else some s

/-- Every test that has failed so far is retried, so many times. -/
def retry (app : App) : Nat → Launch → Option Launch
  | 0, s => some s
  | retries + 1, s => (s.failed.keys.foldlM (retryTest app) s).bind (retry app retries)

/-- What `launch` returns. -/
def returned (s : Launch) : Bool := s.failed.entries.isEmpty

end Launch

inductive LaunchOutcome
  | appLaunchError
  | osError
  | finished (s : Launch)

/-- The launch from its first kept run on. -/
def launchFrom (app : App) (retries turns : Nat) (s : Launch) : Option LaunchOutcome :=
  match s.resumeLoop app turns with
  | none => none
  | some s =>
    if retries ≠ 0 ∧ s.failed.entries ≠ [] then
      match s.retry app retries with
      | none => some .osError
      | some s => some (.finished s)
    else some (.finished s)

/-- A crash that is not during any test. -/
def GTestResult.crashedOnStartup (result : GTestResult) : Bool :=
  result.crashed && result.crashedTest.isNone

/-- `launch`, with a number of turns for the loop that resumes. -/
def launch (app : App) (retries turns : Nat) : Option LaunchOutcome :=
  match app 0 .all with
  | none => some .osError
  | some out =>
    if out.result.crashedOnStartup then
      match app 1 .all with
      | none => some .osError
      | some again =>
        if again.result.crashedOnStartup then some .appLaunchError
        else launchFrom app retries turns (.first [out] again)
    else launchFrom app retries turns (.first [] out)

end GTest

end ChromiumIos
