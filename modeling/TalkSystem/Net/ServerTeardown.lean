import Mathlib.Data.List.FinRange
import TalkSystem.Net.EventLoopThread

/-!
# The destructor of `TcpServer`

`~TcpServer` passes `connectDestroyed` of every connection to `runInLoop` of the
connection's loop; then its thread pool goes, which destroys the
`EventLoopThread`s in the order of `threads_`. The destructor runs on the thread
of the base loop, so what is passed to the base loop runs at once. The I/O
threads and all other users of the loops go on meanwhile.
-/

set_option autoImplicit false

namespace TalkSystem.Net

/-- The steps that the owner of the `EventLoopThread` makes. -/
def EventLoopThreadLabel.byOwner {Functor Thread : Type} [DecidableEq Thread] (owner : Thread) :
    EventLoopThreadLabel Functor Thread → Bool
  | .construct | .callback | .publish | .clear => false
  | .loop label => label.caller? = some owner
  | .start | .lock | .wake | .destroy | .quit | .wakeup | .join => true

/-- The steps of `~EventLoopThread`. -/
def EventLoopThreadLabel.inDestructor {Functor Thread : Type} :
    EventLoopThreadLabel Functor Thread → Bool
  | .destroy | .quit | .wakeup | .join => true
  | _ => false

/-- `connections` are those that the loop of the destructor has still to reach,
`wakingUp` is the loop that `queueInLoop` has still to wake, `pool` are the
threads still to be destroyed, and `ranAtOnce` the connections of the base loop
whose `connectDestroyed` the destructor has run itself. -/
structure ServerTeardown (Functor Thread Connection : Type) (numThreads : Nat) where
  threads : Fin numThreads → EventLoopThread Functor Thread
  connections : List Connection
  wakingUp : Option (Fin numThreads)
  pool : List (Fin numThreads)
  ranAtOnce : List Connection

inductive TeardownLabel (Functor Thread : Type) (numThreads : Nat) where
  | other (index : Fin numThreads) (label : EventLoopThreadLabel Functor Thread)
  | runInLoop
  | wakeup
  | destroyThread (label : EventLoopThreadLabel Functor Thread)
  | nextThread

namespace ServerTeardown

variable {Functor Thread Connection : Type} [DecidableEq Thread] {numThreads : Nat}

def start (threads : Fin numThreads → EventLoopThread Functor Thread)
    (connections : List Connection) : ServerTeardown Functor Thread Connection numThreads :=
  ⟨threads, connections, none, List.finRange numThreads, []⟩

/-- What the code that is torn down fixes: the calls of the functors and of the
thread initialisation, the destroying thread, the functor of a connection, and
its I/O loop, `none` being the base loop. -/
structure Server (Functor Thread Connection : Type) (numThreads : Nat) where
  body : Functor → List (LoopCall Functor)
  callback : List (LoopCall Functor)
  owner : Thread
  connectDestroyed : Connection → Functor
  getLoop : Connection → Option (Fin numThreads)

variable (server : Server Functor Thread Connection numThreads)

def stepThread (state : ServerTeardown Functor Thread Connection numThreads)
    (index : Fin numThreads) (label : EventLoopThreadLabel Functor Thread) :
    Option (ServerTeardown Functor Thread Connection numThreads) :=
  ((state.threads index).step server.body server.callback server.owner label).map fun thread =>
    { state with threads := Function.update state.threads index thread }

def step (state : ServerTeardown Functor Thread Connection numThreads)
    (label : TeardownLabel Functor Thread numThreads) :
    Option (ServerTeardown Functor Thread Connection numThreads) :=
  match label, state.wakingUp, state.connections, state.pool with
  | .other index label, _, _, _ =>
      if label.byOwner server.owner then none else state.stepThread server index label
  | .runInLoop, none, conn :: rest, _ =>
      match server.getLoop conn with
      | none =>
          some { state with connections := rest, ranAtOnce := state.ranAtOnce ++ [conn] }
      | some index =>
          { state with connections := rest, wakingUp := some index }.stepThread server index
            (.loop (.emplace server.owner (server.connectDestroyed conn)))
  | .wakeup, some index, _, _ =>
      { state with wakingUp := none }.stepThread server index (.loop (.wakeup server.owner))
  | .destroyThread label, none, [], index :: _ =>
      if label.inDestructor then state.stepThread server index label else none
  | .nextThread, none, [], index :: rest =>
      if (state.threads index).owner = .destroyed then some { state with pool := rest } else none
  | _, _, _, _ => none

def machine : Machine (ServerTeardown Functor Thread Connection numThreads)
    (TeardownLabel Functor Thread numThreads) where
  step := step server

end ServerTeardown

end TalkSystem.Net
