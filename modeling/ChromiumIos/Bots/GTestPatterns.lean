import Mathlib.Data.List.Basic

/-!
# The patterns of `GTestLogParser`

`gtest_utils.py`: what the regular expressions of the log parser match, and what the parser
takes a line for. A line is a list of characters; a pattern is a function that gives what is
left of a line behind a match at its start.

- `testNameRegexp`, `testStart`, `testOk` and so on: the expressions.
- `classify`: the first expression that `_ProcessLine` finds to match.
- `split`: the parts in which `ProcessLine` hands a line on.
-/

namespace ChromiumIos

namespace GTest

abbrev Line := List Char

abbrev TestName := List Char

/-- Names are told apart by their characters. -/
scoped instance : LawfulBEq TestName := inferInstance

/-! ## Parts of expressions -/

/-- `\w`. -/
def isWord (c : Char) : Bool := c.isAlphanum || c == '_'

/-- `\s`. -/
def isSpace (c : Char) : Bool := c ∈ [' ', '\t', '\n', '\r', '\x0b', '\x0c']

/-- The given characters. -/
def literal : List Char → Line → Option Line
  | [], l => some l
  | c :: cs, d :: ds => if c = d then literal cs ds else none
  | _ :: _, [] => none

/-- As many characters of a class as there are, at least one. -/
def many1 (p : Char → Bool) (l : Line) : Option (List Char × Line) :=
  if l.takeWhile p = [] then none else some (l.takeWhile p, l.dropWhile p)

/-- `.+`: the characters up to the end of the line, at least one. -/
def anything : Line → Option Unit
  | [] => none
  | c :: _ => if c = '\n' then none else some ()

/-- `search`: the part before the first place where an expression matches, the rest, and what
the match gives. -/
def search {α : Type} (regexp : Line → Option α) : Line → Option (Line × Line × α)
  | [] => (regexp []).map fun found => ([], [], found)
  | c :: l =>
    match regexp (c :: l) with
    | some found => some ([], c :: l, found)
    | none => (search regexp l).map fun (before, rest, found) => (c :: before, rest, found)

/-- `text in line`. -/
def contains (text : List Char) (line : Line) : Bool := (search (literal text) line).isSome

/-! ## Test names -/

/-- `\w*(/\w+)*`. -/
def nameTail : Line → List Char × Line
  | '/' :: d :: l =>
    if isWord d then ('/' :: d :: (nameTail l).1, (nameTail l).2) else ([], '/' :: d :: l)
  | c :: l => if isWord c then (c :: (nameTail l).1, (nameTail l).2) else ([], c :: l)
  | [] => ([], [])

/-- `(\w+/)*\w+\.\w+(/\w+)*`, where `inWord` says that a character of a word precedes. -/
def nameFrom (inWord : Bool) : Line → Option (TestName × Line)
  | [] => none
  | c :: l =>
    if isWord c then (nameFrom true l).map fun (name, rest) => (c :: name, rest)
    else if inWord && c == '/' then (nameFrom false l).map fun (name, rest) => (c :: name, rest)
    else if inWord && c == '.' then
      match l with
      | [] => none
      | d :: l => if isWord d then some (c :: d :: (nameTail l).1, (nameTail l).2) else none
    else none

/-- `test_name_regexp`, with the name and what is behind it. -/
def testNameRegexp (line : Line) : Option (TestName × Line) := nameFrom false line

/-- `_test_name`. -/
def testName (line : Line) : Option TestName := (testNameRegexp line).map Prod.fst

/-! ## The expressions -/

/-- `\[\s+word\s+\] `. -/
def bracket (word : List Char) (line : Line) : Option Line := do
  let line ← literal ['['] line
  let (_, line) ← many1 isSpace line
  let line ← literal word line
  let (_, line) ← many1 isSpace line
  literal [']', ' '] line

/-- `_test_start`. -/
def testStart (line : Line) : Option TestName := do
  let line ← bracket "RUN".toList line
  testName line

/-- `_test_ok`. -/
def testOk (line : Line) : Option TestName := do
  let line ← bracket "OK".toList line
  testName line

/-- `_test_fail`. -/
def testFail (line : Line) : Option TestName := do
  let line ← bracket "FAILED".toList line
  testName line

/-- `_test_passed`: `\[\s+PASSED\s+\] \d+ tests?.`. -/
def testPassed (line : Line) : Option Unit := do
  let line ← bracket "PASSED".toList line
  let (_, line) ← many1 Char.isDigit line
  let line ← literal " test".toList line
  -- The `s` may be the character that the dot matches.
  anything line

/-- `_run_test_cases_line`: `\[\s*\d+\/\d+\]\s+[0-9\.]+s name .+`. -/
def runTestCasesLine (line : Line) : Option Unit := do
  let line ← literal ['['] line
  let (_, line) ← many1 Char.isDigit (line.dropWhile isSpace)
  let line ← literal ['/'] line
  let (_, line) ← many1 Char.isDigit line
  let line ← literal [']'] line
  let (_, line) ← many1 isSpace line
  let (_, line) ← many1 (fun c => c.isDigit || c == '.') line
  let line ← literal ['s', ' '] line
  let (_, line) ← testNameRegexp line
  let line ← literal [' '] line
  anything line

/-- `_test_timeout`. -/
def testTimeout (line : Line) : Option TestName := do
  let line ← literal "Test timeout (".toList line
  let (_, line) ← many1 Char.isDigit line
  let line ← literal " ms) exceeded for ".toList line
  testName line

/-- `\s*YOU HAVE (\d+) kind TEST`. -/
def youHave (kind : List Char) (line : Line) : Option Nat := do
  let line ← literal "YOU HAVE ".toList (line.dropWhile isSpace)
  let (digits, line) ← many1 Char.isDigit line
  let _ ← literal (' ' :: kind ++ " TEST".toList) line
  return digits.foldl (fun n c => 10 * n + (c.toNat - '0'.toNat)) 0

/-- `_disabled`. -/
def disabled (line : Line) : Option Nat := youHave "DISABLED".toList line

/-- `_flaky`. -/
def flaky (line : Line) : Option Nat := youHave "FLAKY".toList line

/-- `_master_name_re`. -/
def masterNameRe (line : Line) : Option (List Char) := do
  let line ← literal "[Running for master: \"".toList line
  let _ ← literal ['"'] (line.dropWhile (· ≠ '"'))
  return line.takeWhile (· ≠ '"')

/-- `_retry_message`. -/
def retryMessage (line : Line) : Option Unit :=
  (literal "RETRYING FAILED TESTS:".toList line).map fun _ => ()

/-! ## Lines -/

/-- What `_ProcessLine` takes a line for. -/
inductive Directive
  | runTestCases
  | passed
  | disabled (count : Nat)
  | flaky (count : Nat)
  | run (test : TestName)
  | ok (test : TestName)
  | failed (test : TestName)
  | timeout (test : TestName)
  | retry
  | output
deriving DecidableEq, Repr

/-- The first expression that matches decides. -/
def classify (line : Line) : Directive :=
  ([(runTestCasesLine line).map fun _ => Directive.runTestCases,
    (testPassed line).map fun _ => .passed,
    (disabled line).map .disabled,
    (flaky line).map .flaky,
    (testStart line).map .run,
    (testOk line).map .ok,
    (testFail line).map .failed,
    (search testTimeout line).map fun (_, _, test) => .timeout test,
    (retryMessage line).map fun _ => .retry].findSome? id).getD .output

/-- The line before a match, and from there on. -/
def cut {α : Type} (regexp : Line → Option α) (line : Line) : Option (Line × Line) :=
  (search regexp line).map fun (before, rest, _) => (before, rest)

/-- The first of the `gtest_regexps` that is found in a line, where it is found. -/
def findDirective (line : Line) : Option (Line × Line) :=
  [cut testStart line, cut testOk line, cut testFail line, cut testPassed line].findSome? id

/-- The parts of a line for `_ProcessLine`: output that precedes a directive is a line of its
own. -/
def split (line : Line) : List Line :=
  match findDirective line with
  | some (before, rest) => if before = [] then [line] else [before, rest]
  | none => [line]

end GTest

end ChromiumIos
