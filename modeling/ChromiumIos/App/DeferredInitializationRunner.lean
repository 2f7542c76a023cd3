import ChromiumIos.Lib.Machine

/-!
# `DeferredInitializationRunner`

`deferred_initialization_runner.mm`: blocks of initialization code wait in a queue and are run one
after another by a timer, or earlier by name.

- `DeferredInitializationRunner`: the runner with the blocks that are running, the innermost one
  first. What a block does while it runs are the calls that come before it returns.
- `machine`: the runner under any order of calls, firing timers and returning blocks.
-/

namespace ChromiumIos

open Lib

/-- `DeferredInitializationBlock`, numbered in the order of enqueueing. -/
structure DeferredInitializationBlock (N : Type) where
  id : Nat
  name : N
deriving DecidableEq, Repr

namespace DeferredInitializationRunner

/-- What happened to a block. It is withdrawn when it is cancelled or replaced. -/
inductive Event (N : Type)
  | enqueued (block : DeferredInitializationBlock N)
  | ran (block : DeferredInitializationBlock N) (byTimer : Bool)
  | withdrawn (block : DeferredInitializationBlock N)
deriving DecidableEq, Repr

/-- A block that is running. -/
structure Frame (N : Type) where
  block : DeferredInitializationBlock N
  byTimer : Bool
deriving DecidableEq, Repr

end DeferredInitializationRunner

open DeferredInitializationRunner

/-- `DeferredInitializationRunner`. The blocks in `cancelled` have no `_runBlock` any more, and
`timers` has what the outstanding timers have captured. -/
structure DeferredInitializationRunner (N : Type) where
  blocksNameQueue : List N
  runBlocks : N → Option (DeferredInitializationBlock N)
  isBlockScheduled : Bool
  cancelled : List (DeferredInitializationBlock N)
  timers : List (Option (DeferredInitializationBlock N))
  running : List (Frame N)
  nextId : Nat
  history : List (Event N)
  dcheckFailed : Bool

namespace DeferredInitializationRunner

variable {N : Type} [DecidableEq N]

def init : DeferredInitializationRunner N where
  blocksNameQueue := []
  runBlocks _ := none
  isBlockScheduled := false
  cancelled := []
  timers := []
  running := []
  nextId := 0
  history := []
  dcheckFailed := false

variable (s : DeferredInitializationRunner N)

/-- `cancelBlockNamed`. -/
def cancelBlockNamed (name : N) : DeferredInitializationRunner N :=
  { s with
    blocksNameQueue := s.blocksNameQueue.filter (· ≠ name)
    cancelled := (s.runBlocks name).toList ++ s.cancelled
    runBlocks := Function.update s.runBlocks name none }

/-- `scheduleNextBlockWithDelay`. -/
def scheduleNextBlockWithDelay : DeferredInitializationRunner N :=
  match s.blocksNameQueue with
  | [] => { s with isBlockScheduled := false }
  | nextBlockName :: rest =>
    { s with
      dcheckFailed := s.dcheckFailed || (s.runBlocks nextBlockName).isNone
      timers := s.timers ++ [s.runBlocks nextBlockName]
      isBlockScheduled := true
      blocksNameQueue := rest }

/-- A call of `cancelBlockNamed` from outside the runner. -/
def withdraw (name : N) : DeferredInitializationRunner N :=
  { s.cancelBlockNamed name with
    history := s.history ++ (s.runBlocks name).toList.map .withdrawn }

/-- The last part of `enqueueBlockNamed`, before a timer is set. -/
def addBlock (name : N) : DeferredInitializationRunner N :=
  { s with
    blocksNameQueue := s.blocksNameQueue ++ [name]
    runBlocks := Function.update s.runBlocks name (some ⟨s.nextId, name⟩)
    nextId := s.nextId + 1
    history := s.history ++ [.enqueued ⟨s.nextId, name⟩] }

/-- `enqueueBlockNamed`. -/
def enqueueBlockNamed (name : N) : DeferredInitializationRunner N :=
  let s := (s.withdraw name).addBlock name
  if !s.isBlockScheduled then s.scheduleNextBlockWithDelay else s

/-- The block of code begins to run. -/
def start (block : DeferredInitializationBlock N)
    (byTimer : Bool) : DeferredInitializationRunner N :=
  { s with
    running := ⟨block, byTimer⟩ :: s.running
    history := s.history ++ [.ran block byTimer] }

/-- `runBlockIfNecessary`, up to the block's own code. -/
def runBlockIfNecessary (name : N) : DeferredInitializationRunner N :=
  match s.runBlocks name with
  | none => s
  | some block => if block ∈ s.cancelled then s else s.start block false

/-- A timer fires. What comes after the block's own code waits until it returns. -/
def timerFires : DeferredInitializationRunner N :=
  match s.timers with
  | [] => s
  | nextBlock :: rest =>
    let s := { s with timers := rest }
    match nextBlock with
    | none => s.scheduleNextBlockWithDelay
    | some block =>
      if block ∈ s.cancelled then s.scheduleNextBlockWithDelay else s.start block true

/-- The innermost block returns: the rest of `run`, and of the timer's code. -/
def blockReturns : DeferredInitializationRunner N :=
  match s.running with
  | [] => s
  | frame :: rest =>
    let s := { s with running := rest }.cancelBlockNamed frame.block.name
    if frame.byTimer then s.scheduleNextBlockWithDelay else s

inductive Op (N : Type)
  | enqueueBlockNamed (name : N)
  | runBlockIfNecessary (name : N)
  | cancelBlockNamed (name : N)
  | timerFires
  | blockReturns

def apply : Op N → DeferredInitializationRunner N
  | .enqueueBlockNamed name => s.enqueueBlockNamed name
  | .runBlockIfNecessary name => s.runBlockIfNecessary name
  | .cancelBlockNamed name => s.withdraw name
  | .timerFires => s.timerFires
  | .blockReturns => s.blockReturns

/-- Timers fire on the main queue, not while a block runs. -/
def Pre : Op N → Prop
  | .timerFires => s.running = [] ∧ s.timers ≠ []
  | .blockReturns => s.running ≠ []
  | _ => True

instance : ∀ op, Decidable (s.Pre op)
  | .enqueueBlockNamed _ | .runBlockIfNecessary _ | .cancelBlockNamed _ => instDecidableTrue
  | .timerFires => instDecidableAnd
  | .blockReturns => instDecidableNot

abbrev machine (N : Type) [DecidableEq N] : Machine (DeferredInitializationRunner N) (Op N) where
  Pre := Pre
  step := apply

end DeferredInitializationRunner

end ChromiumIos
