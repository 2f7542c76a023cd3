import ChromiumIos.Bots.GTestPatterns
import ChromiumIos.Lib.Machine
import ChromiumIos.Lib.OrderedDict

/-!
# `GTestLogParser` and `GTestResult`

`gtest_utils.py` and `TestRunner._run`: the log of a test run is read line by line into the
statuses of the tests, and the result of the run is read off the statuses.

A line that is collected for the failure description changes the description that has been
recorded for a test, when the two are one list; `shared` is that test.

The statuses are in a dictionary whose order of iteration is its own matter: what reads all
of them is given them in some order (`Items`).
-/

namespace ChromiumIos

open Lib

namespace GTest

inductive TestStatus
  | started
  | ok
  | failed
  | timeout
  | warning
deriving DecidableEq, Repr

/-- A number, or `'some'`. -/
inductive TestCount
  | number (n : Nat)
  | some
deriving DecidableEq, Repr

/-- The count of disabled or flaky tests after another one has been read. -/
def TestCount.read (old : TestCount) (count : Nat) : TestCount :=
  match old with
  | .number _ => if 0 < count then .number count else .some
  | .some => .some

/-- What is recorded for a test: the status and the description. -/
abbrev Record := TestStatus × List Line

structure GTestLogParser where
  completed : Bool
  /-- The `''` is `none`. -/
  currentTest : Option TestName
  failureDescription : List Line
  /-- The test whose recorded description is the list `failureDescription`. -/
  shared : Option TestName
  parsingFailures : Bool
  lineNumber : Nat
  internalErrorLines : List Line
  testStatus : OrderedDict TestName Record
  disabledTests : TestCount
  flakyTests : TestCount
  masterName : List Char
  retryingFailed : Bool

/-- The line by which a test without an end is known. -/
def didNotComplete : Line := "Did not complete.".toList

/-- `strip`. -/
def strip (line : Line) : Line :=
  ((line.dropWhile isSpace).reverse.dropWhile isSpace).reverse

def TestStatus.label : TestStatus → List Char
  | .started => "started".toList
  | .ok => "OK".toList
  | .failed => "failed".toList
  | .timeout => "timeout".toList
  | .warning => "warning".toList

namespace GTestLogParser

def new : GTestLogParser where
  completed := false
  currentTest := none
  failureDescription := []
  shared := none
  parsingFailures := false
  lineNumber := 0
  internalErrorLines := []
  testStatus := .empty
  disabledTests := .number 0
  flakyTests := .number 0
  masterName := []
  retryingFailed := false

variable (p : GTestLogParser)

/-- `_StatusOfTest`; a `none` is `'not known'`. -/
def statusOfTest (test : TestName) : Option TestStatus :=
  (p.testStatus.get? test).map Prod.fst

def statusLabel (test : TestName) : List Char :=
  ((p.statusOfTest test).map TestStatus.label).getD "not known".toList

/-- `_RecordError`. -/
def recordError (line : Line) (reason : List Char) : GTestLogParser :=
  let error := (toString p.lineNumber).toList ++ ": ".toList ++ strip line ++ " [".toList ++
    reason ++ "]".toList
  { p with internalErrorLines := p.internalErrorLines ++ [error] }

def record (test : TestName) (status : TestStatus) (description : List Line) : GTestLogParser :=
  { p with testStatus := p.testStatus.set test (status, description) }

/-- `_failure_description` becomes a new list. -/
def describe (description : List Line) : GTestLogParser :=
  { p with failureDescription := description, shared := none }

/-- A test that is still running when another one starts has timed out. -/
def timeOutCurrent : GTestLogParser :=
  match p.currentTest with
  | none => p
  | some test =>
    if p.statusOfTest test = some .started then p.record test .timeout p.failureDescription else p

/-- The test that was running is over. -/
def leave : GTestLogParser := { p with currentTest := none }

/-! ## Lines -/

def readMasterName (line : Line) : GTestLogParser :=
  if p.masterName = [] then
    match masterNameRe line with
    | some masterName => { p with masterName }
    | none => p
  else p

def runLine (test : TestName) : GTestLogParser :=
  let p := { p.timeOutCurrent.record test .started [didNotComplete] with currentTest := some test }
  if p.retryingFailed then
    -- The recorded description itself is extended.
    let description := [didNotComplete, [], "RETRY OUTPUT:".toList, []]
    { p.record test .started description with
      failureDescription := description, shared := some test }
  else p.describe []

def okLine (line : Line) (test : TestName) : GTestLogParser :=
  let p :=
    if p.statusOfTest test ≠ some .started then
      p.recordError line ("success while in status ".toList ++ p.statusLabel test)
    else p
  let p :=
    if p.retryingFailed then p.record test .warning p.failureDescription
    else p.record test .ok []
  (p.describe []).leave

def failedLine (line : Line) (test : TestName) : GTestLogParser :=
  let status := p.statusOfTest test
  let p :=
    if status ∉ [some .started, some .failed, some .timeout] then
      p.recordError line ("failure while in status ".toList ++ p.statusLabel test)
    else p
  let p :=
    if status ∉ [some .failed, some .timeout] then p.record test .failed p.failureDescription
    else p
  (p.describe []).leave

def timeoutLine (line : Line) (test : TestName) : GTestLogParser :=
  let p :=
    if p.statusOfTest test ∉ [some .started, some .failed] then
      p.recordError line ("timeout while in status ".toList ++ p.statusLabel test)
    else p
  let p := p.record test .timeout (p.failureDescription ++ ["Killed (timed out).".toList])
  (p.describe []).leave

/-- A line of output is collected while a test is running. -/
def collect (line : Line) : GTestLogParser :=
  match p.currentTest with
  | none => p
  | some _ =>
    let description := p.failureDescription ++ [line]
    let p := { p with failureDescription := description }
    match p.shared with
    | none => p
    | some test =>
      match p.statusOfTest test with
      | none => p
      | some status => p.record test status description

/-- The list of failing tests at the end of the output. -/
def readFailures (line : Line) : GTestLogParser :=
  if p.parsingFailures then
    match testName line with
    | some test =>
      if p.statusOfTest test ∈ [none, some .ok] then
        p.record test .failed ["Unknown error, see stdio log.".toList]
      else p
    | none => { p with parsingFailures := false }
  else if (literal "Failing tests:".toList line).isSome then { p with parsingFailures := true }
  else p

/-- `_ProcessLine`, when the name of the master has been read. -/
def follow (line : Line) : Directive → GTestLogParser
  | .runTestCases => (p.timeOutCurrent.describe []).leave
  | .passed => { p with completed := true }.leave
  | .disabled count => { p with disabledTests := p.disabledTests.read count }
  | .flaky count => { p with flakyTests := p.flakyTests.read count }
  | .run test => p.runLine test
  | .ok test => p.okLine line test
  | .failed test => p.failedLine line test
  | .timeout test => p.timeoutLine line test
  | .retry => { p with retryingFailed := true }
  | .output => (p.collect line).readFailures line

/-- `_ProcessLine`. -/
def processPart (line : Line) : GTestLogParser :=
  (p.readMasterName line).follow line (classify line)

/-- `ProcessLine`. -/
def processLine (line : Line) : GTestLogParser :=
  (split line).foldl processPart { p with lineNumber := p.lineNumber + 1 }

/-! ## What has become of the tests -/

/-- The items of the dictionary of statuses, in the order in which it gives them. -/
def Items (items : List (TestName × Record)) : Prop :=
  items.Perm p.testStatus.entries

/-- `_TestsByStatus`. -/
def testsByStatus (items : List (TestName × Record)) (status : TestStatus)
    (includeFails includeFlaky : Bool) : List TestName :=
  let tests := (items.filter fun item => item.2.1 = status).map Prod.fst
  let tests := if includeFails then tests
    else tests.filter fun test => !contains "FAILS_".toList test
  if includeFlaky then tests else tests.filter fun test => !contains "FLAKY_".toList test

def runningTests (items : List (TestName × Record)) : List TestName :=
  testsByStatus items .started true true

def passedTests (items : List (TestName × Record)) (includeFails includeFlaky : Bool) :
    List TestName :=
  testsByStatus items .ok includeFails includeFlaky

def failedTests (items : List (TestName × Record)) (includeFails includeFlaky : Bool) :
    List TestName :=
  testsByStatus items .failed includeFails includeFlaky ++
    testsByStatus items .timeout true true ++
    testsByStatus items .warning includeFails includeFlaky ++
    runningTests items

def failureDescriptionOf (test : TestName) : List Line :=
  (test ++ ": ".toList) :: ((p.testStatus.get? test).map Prod.snd).getD []

def completedWithoutFailure (items : List (TestName × Record)) : Bool :=
  p.completed && failedTests items false false = []

end GTestLogParser

/-! ## The result of a run -/

structure GTestResult where
  crashed : Bool
  crashedTest : Option TestName
  failedTests : OrderedDict TestName (List Line)
  flakedTests : OrderedDict TestName (List Line)
  passedTests : List TestName
  returnCode : Option Int
  success : Option Bool

namespace GTestResult

def new : GTestResult := ⟨false, none, .empty, .empty, [], none, none⟩

/-- The last of several tests whose lines say that it did not complete. -/
def lastCrashed (crashedTest : Option TestName) (tests : OrderedDict TestName (List Line)) :
    Option TestName :=
  tests.entries.foldl (fun crashedTest entry =>
    if didNotComplete ∈ entry.2 then some entry.1 else crashedTest) crashedTest

def finalize (result : GTestResult) (returnCode : Int) (success : Bool) : GTestResult :=
  let crashedTest := lastCrashed (lastCrashed none result.failedTests) result.flakedTests
  { result with
    returnCode := some returnCode
    success := some success
    crashed := (!success && result.failedTests.entries.isEmpty &&
      result.flakedTests.entries.isEmpty) || crashedTest.isSome
    crashedTest }

/-- Tests with the prefix `FLAKY_` are reported as flaked and not as failed. -/
def isFlaky (test : TestName) : Bool :=
  match test.dropWhile (· ≠ '.') with
  | [] => false
  | _ :: name => (literal "FLAKY_".toList name).isSome

end GTestResult

open GTestLogParser GTestResult

/-- `TestRunner._run`, from the log of the run and the return code of the process. -/
def resultOf (p : GTestLogParser) (items : List (TestName × Record)) (returnCode : Int) :
    GTestResult :=
  let failing := GTestLogParser.failedTests items false true
  let describe (tests : List TestName) : OrderedDict TestName (List Line) :=
    tests.foldl (fun dict test => dict.set test (p.failureDescriptionOf test)) .empty
  { GTestResult.new with
    failedTests := describe (failing.filter fun test => !isFlaky test)
    flakedTests := describe (failing.filter isFlaky)
    passedTests := GTestLogParser.passedTests items false true }.finalize returnCode
    (p.completedWithoutFailure items)

end GTest

end ChromiumIos
