import Mathlib.Algebra.GroupWithZero.Nat
import TalkSystem.Machine.BatchQueue
import TalkSystem.Machine.Runs

/-!
# `EventLoop` and its functor queue

The loop thread and any number of other threads share the functor queue, the
wake-up descriptor and two flags. A critical section, a load or store of an
atomic flag and a system call on the wake-up descriptor are one step each.

What user code does on the loop is arbitrary: a channel handler makes any
sequence of calls, and `body` says which calls a functor makes when it runs.
The queue of an event loop is a `BatchQueue`: `pendingFunctors_` is its pending
part and the local vector of `doPendingFunctors` its batch.
-/

set_option autoImplicit false

namespace TalkSystem.Net

/-- The calls that user code on the loop thread makes on its own loop.
`wakeupIfCalling` is what `queueInLoop` does behind its critical section; on
the loop thread only `callingPendingFunctors_` decides. -/
inductive LoopCall (Functor : Type) where
  | queueInLoop (functor : Functor)
  | runInLoop (functor : Functor)
  | wakeupIfCalling
  | quit
  deriving DecidableEq

inductive LoopPhase where
  | starting
  | testing
  | polling
  /-- Handling the active channels; the flag says whether the wake-up channel
  is still among them. -/
  | dispatching (wakeup : Bool)
  | swapping
  | running
  | stopped
  deriving DecidableEq, Repr

inductive CallerPhase where
  | idle
  /-- Between `emplace_back` and `wakeup` in `queueInLoop`. -/
  | queued
  /-- Between the store of `quit_` and `wakeup` in `quit`. -/
  | quitting
  deriving DecidableEq, Repr

/-- `emplaced` and `executed` are history: every functor with its caller
(`none` is the loop thread) in the order of `emplace_back`, and every functor
that `doPendingFunctors` has called. -/
structure EventLoop (Functor Thread : Type) where
  queue : BatchQueue Functor
  callingPendingFunctors : Bool
  wakeupCounter : Nat
  quit : Bool
  phase : LoopPhase
  calls : List (LoopCall Functor)
  callers : Thread → CallerPhase
  emplaced : List (Option Thread × Functor)
  executed : List Functor

namespace EventLoop

variable {Functor Thread : Type} [DecidableEq Thread]

def maxCounter : Nat := 2 ^ 64 - 2

def init : EventLoop Functor Thread where
  queue := .empty
  callingPendingFunctors := false
  wakeupCounter := 0
  quit := false
  phase := .starting
  calls := []
  callers := fun _ => .idle
  emplaced := []
  executed := []

/-- The critical section of `queueInLoop`. -/
def emplaceBack (loop : EventLoop Functor Thread) (caller : Option Thread)
    (functor : Functor) : EventLoop Functor Thread :=
  { loop with
    queue := loop.queue.push functor
    emplaced := loop.emplaced ++ [(caller, functor)] }

/-- A write to an eventfd adds one; at the maximum it fails. -/
def wakeup (loop : EventLoop Functor Thread) : EventLoop Functor Thread :=
  if loop.wakeupCounter < maxCounter then
    { loop with wakeupCounter := loop.wakeupCounter + 1 }
  else
    loop

/-- A read of an eventfd resets it. -/
def handleRead (loop : EventLoop Functor Thread) : EventLoop Functor Thread :=
  { loop with wakeupCounter := 0 }

def setCaller (loop : EventLoop Functor Thread) (thread : Thread) (phase : CallerPhase) :
    EventLoop Functor Thread :=
  { loop with callers := Function.update loop.callers thread phase }

end EventLoop

inductive LoopLabel (Functor Thread : Type) where
  | enter
  | test
  | pollReturns (wakeup : Bool)
  | handleRead
  | handleEvent (calls : List (LoopCall Functor))
  | call
  | doPendingFunctors
  | swap
  | runFunctor
  | finish
  | emplace (thread : Thread) (functor : Functor)
  | quit (thread : Thread)
  | wakeup (thread : Thread)

def LoopLabel.onLoopThread {Functor Thread : Type} : LoopLabel Functor Thread → Bool
  | .emplace _ _ | .quit _ | .wakeup _ => false
  | _ => true

/-- The other thread that makes the step; `none` is the loop thread. -/
def LoopLabel.caller? {Functor Thread : Type} : LoopLabel Functor Thread → Option Thread
  | .emplace thread _ | .quit thread | .wakeup thread => some thread
  | _ => none

namespace EventLoop

variable {Functor Thread : Type} [DecidableEq Thread]

/-- The next call of the user code that the loop thread is running. A functor
passed to `runInLoop` runs at once. -/
def callStep (body : Functor → List (LoopCall Functor)) (loop : EventLoop Functor Thread) :
    Option (EventLoop Functor Thread) :=
  match loop.calls with
  | [] => none
  | .queueInLoop functor :: rest =>
      some { loop.emplaceBack none functor with calls := .wakeupIfCalling :: rest }
  | .runInLoop functor :: rest => some { loop with calls := body functor ++ rest }
  | .wakeupIfCalling :: rest =>
      some { if loop.callingPendingFunctors then loop.wakeup else loop with calls := rest }
  | .quit :: rest => some { loop with quit := true, calls := rest }

def step (body : Functor → List (LoopCall Functor)) (loop : EventLoop Functor Thread)
    (label : LoopLabel Functor Thread) : Option (EventLoop Functor Thread) :=
  match label, loop.phase with
  | .enter, .starting => some { loop with quit := false, phase := .testing }
  | .test, .testing =>
      some { loop with phase := if loop.quit then .stopped else .polling }
  -- `poll` may report the wake-up descriptor only while its counter is positive.
  | .pollReturns wakeup, .polling =>
      if wakeup = true → 0 < loop.wakeupCounter then
        some { loop with phase := .dispatching wakeup }
      else
        none
  | .handleRead, .dispatching true =>
      if loop.calls = [] then
        some { loop.handleRead with phase := .dispatching false }
      else
        none
  | .handleEvent calls, .dispatching _ =>
      if loop.calls = [] then some { loop with calls := calls } else none
  | .call, .dispatching _ | .call, .running => loop.callStep body
  | .doPendingFunctors, .dispatching false =>
      if loop.calls = [] then
        some { loop with callingPendingFunctors := true, phase := .swapping }
      else
        none
  | .swap, .swapping => some { loop with queue := loop.queue.swap, phase := .running }
  | .runFunctor, .running =>
      match loop.calls, loop.queue.next? with
      | [], some (functor, rest) =>
          some { loop with
            queue := rest
            calls := body functor
            executed := loop.executed ++ [functor] }
      | _, _ => none
  | .finish, .running =>
      match loop.calls, loop.queue.running with
      | [], [] =>
          some { loop with
            queue := loop.queue.release
            callingPendingFunctors := false
            phase := .testing }
      | _, _ => none
  | .emplace thread functor, _ =>
      if loop.callers thread = .idle then
        some ((loop.emplaceBack (some thread) functor).setCaller thread .queued)
      else
        none
  | .quit thread, _ =>
      if loop.callers thread = .idle then
        some ({ loop with quit := true }.setCaller thread .quitting)
      else
        none
  | .wakeup thread, _ =>
      if loop.callers thread = .idle then none else some (loop.wakeup.setCaller thread .idle)
  | _, _ => none

def machine (body : Functor → List (LoopCall Functor)) :
    Machine (EventLoop Functor Thread) (LoopLabel Functor Thread) where
  step := step body

end EventLoop

end TalkSystem.Net
