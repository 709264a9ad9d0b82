import TalkSystem.Net.EventLoop

/-!
# `EventLoopThread`

One thread owns the object: it calls `startLoop` and later destroys it. The new
thread runs `threadFunc`, whose local `EventLoop` it publishes in `loop_` before
it calls `loop()`. A critical section of `mutex_` is one step, and so is the
unlocked read of `loop_` in the destructor; the steps of the published loop are
those of `EventLoop`.
-/

set_option autoImplicit false

namespace TalkSystem.Net

/-- Where the owner is. It is in `quitting` between the test of `loop_` and the
store of `quit_`, and in `waking` between that store and `wakeup`. -/
inductive OwnerPhase where
  | constructed
  | started
  | waiting
  | running
  | quitting
  | waking
  | joining
  | destroyed
  deriving DecidableEq, Repr

inductive ThreadPhase where
  | notStarted
  | constructing
  | inCallback
  | looping
  | ended
  deriving DecidableEq, Repr

/-- `published` says that `loop_` is not null; it points to `loop` then. -/
structure EventLoopThread (Functor Thread : Type) where
  loop : EventLoop Functor Thread
  published : Bool
  owner : OwnerPhase
  thread : ThreadPhase

inductive EventLoopThreadLabel (Functor Thread : Type) where
  | start
  | lock
  | wake
  | construct
  | callback
  | publish
  | loop (label : LoopLabel Functor Thread)
  | clear
  | destroy
  | quit
  | wakeup
  | join

namespace EventLoopThread

variable {Functor Thread : Type} [DecidableEq Thread]

def init : EventLoopThread Functor Thread := ⟨.init, false, .constructed, .notStarted⟩

/-- The test of `loop_` in `startLoop`, made when the lock has been taken and
again after every return of `wait`, a spurious one included. -/
def testLoop (state : EventLoopThread Functor Thread) : EventLoopThread Functor Thread :=
  { state with owner := if state.published then .running else .waiting }

/-- Who can make this step of the loop: the new thread while it is in `loop()`,
the owner after `startLoop` and before the destructor, and any other thread
while the loop is published. -/
def allows (owner : Thread) (state : EventLoopThread Functor Thread)
    (label : LoopLabel Functor Thread) : Bool :=
  match label.caller? with
  | none => state.thread = .looping
  | some thread => state.published && (thread ≠ owner || state.owner = .running)

/-- `callback` are the calls that `callback_` makes on the new loop; there are
none if it is empty. -/
def step (body : Functor → List (LoopCall Functor)) (callback : List (LoopCall Functor))
    (owner : Thread) (state : EventLoopThread Functor Thread)
    (label : EventLoopThreadLabel Functor Thread) : Option (EventLoopThread Functor Thread) :=
  match label, state.owner, state.thread with
  | .start, .constructed, _ => some { state with owner := .started, thread := .constructing }
  | .lock, .started, _ | .wake, .waiting, _ => some state.testLoop
  | .construct, _, .constructing =>
      some { state with loop := { EventLoop.init with calls := callback }, thread := .inCallback }
  | .callback, _, .inCallback => (state.loop.callStep body).map ({ state with loop := · })
  | .publish, _, .inCallback =>
      if state.loop.calls = [] then
        some { state with published := true, thread := .looping }
      else
        none
  | .loop label, _, _ =>
      if state.allows owner label then
        (state.loop.step body label).map ({ state with loop := · })
      else
        none
  | .clear, _, .looping =>
      if state.loop.phase = .stopped then
        some { state with published := false, thread := .ended }
      else
        none
  | .destroy, .running, _ =>
      if state.loop.callers owner = .idle then
        some { state with owner := if state.published then .quitting else .destroyed }
      else
        none
  -- `loop_` is not read again: the thread may end before either of these two.
  | .quit, .quitting, _ =>
      (state.loop.step body (.quit owner)).map ({ state with loop := ·, owner := .waking })
  | .wakeup, .waking, _ =>
      (state.loop.step body (.wakeup owner)).map ({ state with loop := ·, owner := .joining })
  | .join, .joining, .ended => some { state with owner := .destroyed }
  | _, _, _ => none

def machine (body : Functor → List (LoopCall Functor)) (callback : List (LoopCall Functor))
    (owner : Thread) :
    Machine (EventLoopThread Functor Thread) (EventLoopThreadLabel Functor Thread) where
  step := step body callback owner

end EventLoopThread

end TalkSystem.Net
