import TalkSystem.Machine.BatchQueue
import TalkSystem.Net.TcpConnection

/-!
# A connection shared between threads

`send` and `shutdown` may be called from any thread, while everything else
happens on the connection's loop. Here each load and each store of `state_`,
each access to a caller's string and each critical section of the functor queue
is one step; the loop thread's own work between two such points is one step as
well, since no other thread sees it.

A caller's strings are cells. `send` passes the address and the length of its
argument on, so the functor that it queues refers to a cell and reads it when
it runs.
-/

set_option autoImplicit false

namespace TalkSystem.Net

/-- The data of a `sendInLoop`. `own` is a string that lives as long as the
call, `block` the storage of a string of another thread. `held` is what that
string held when `send` was called; no step reads it. -/
inductive Source (Thread : Type) where
  | own (bytes : List UInt8)
  | block (thread : Thread) (cell len : Nat) (held : List UInt8)
  deriving DecidableEq

def Source.held {Thread : Type} : Source Thread → List UInt8
  | .own bytes => bytes
  | .block _ _ _ held => held

/-- The functors that the loop of a connection runs for it. `callback` is a
write-complete or high-water-mark callback. -/
inductive ConnFunctor (Thread : Type) where
  | sendInLoop (source : Source Thread)
  | shutdownInLoop
  | connectDestroyed
  | callback
  deriving DecidableEq

/-- What the loop thread does next for this connection; `ready` means that it
is in no method of it. -/
inductive LoopInstr (Thread : Type) where
  | ready
  | sendInLoop (source : Source Thread)
  | write (source : Source Thread)
  | append (source : Source Thread) (progress : Endpoint.SendProgress)
  | shutdownStore
  | shutdownInLoop
  | handleWriteTail
  | handleCloseStore
  | handleCloseRest
  | destroyStore
  | destroyDown
  | remove
  deriving DecidableEq

inductive Call where
  | send (cell : Nat)
  | shutdown
  | assign (cell : Nat) (bytes : List UInt8)
  | destroy (cell : Nat)
  deriving DecidableEq

/-- Where a thread is inside a call: behind the load of `kConnected` in `send`
or `shutdown`, or behind the store of `kDisconnecting` in `shutdown`. -/
inductive CallerPc where
  | idle
  | sendLoaded (cell : Nat)
  | shutdownLoaded
  | shutdownStored
  deriving DecidableEq

structure Caller where
  pc : CallerPc
  todo : List Call
  deriving DecidableEq

/-- `uses` and `entered` are history: for each access to the data of a
`sendInLoop` what should have been read and what was, and the data of each
`sendInLoop` that did not give up. -/
structure SharedConnection (Ptr Thread : Type) where
  site : Endpoint Ptr
  queue : BatchQueue (ConnFunctor Thread)
  callingPendingFunctors : Bool
  instr : LoopInstr Thread
  memory : Thread → Nat → List UInt8
  callers : Thread → Caller
  uses : List (List UInt8 × List UInt8)
  entered : List (Source Thread)

/-- The steps of the loop thread, then those of the other threads. `proceed`
carries the kernel's answer to a write and what lies behind a string that is
shorter than it was. -/
inductive SharedLabel (Ptr Thread : Type) where
  | handleRead (answer : ReadAnswer)
  | handleWrite (answer : WriteAnswer)
  | handleClose
  | handleError
  | send (bytes : List UInt8)
  | shutdown
  | retrieveInput (len : Nat)
  | otherChannel (other : Ptr) (channel : Channel) (operation : ChannelOp)
  | proceed (answer : WriteAnswer) (garbage : List UInt8)
  | doPendingFunctors
  | runFunctor
  | finish
  | caller (thread : Thread)
    | queueDestroyed

namespace SharedConnection

variable {Ptr Thread : Type}

def deref (shared : SharedConnection Ptr Thread) (source : Source Thread)
    (garbage : List UInt8) : List UInt8 :=
  match source with
  | .own bytes => bytes
  | .block thread cell len _ =>
      (shared.memory thread cell ++ garbage ++ List.replicate len 0).take len

def queuedBy : Effect → List (ConnFunctor Thread)
  | .queueWriteComplete | .queueHighWaterMark _ => [.callback]
  | _ => []

def goto (shared : SharedConnection Ptr Thread) (site : Endpoint Ptr)
    (instr : LoopInstr Thread) : SharedConnection Ptr Thread :=
  let added := site.effects.drop shared.site.effects.length
  { shared with
    site := site
    instr := instr
    queue := { shared.queue with
      pending := shared.queue.pending ++ added.flatMap queuedBy } }

def readByWrite (site : Endpoint Ptr) (data : List UInt8) : List (List UInt8) :=
  if !site.conn.channel.isWriting && site.conn.outputBuffer.readableBytes == 0 then
    [data]
  else
    []

def readByAppend (progress : Endpoint.SendProgress) (data : List UInt8) : List (List UInt8) :=
  if !progress.faultError && 0 < progress.remaining then
    [(data.drop progress.nwrote).take progress.remaining]
  else
    []

def proceed (shared : SharedConnection Ptr Thread) (answer : WriteAnswer)
    (garbage : List UInt8) : Option (SharedConnection Ptr Thread) :=
  let site := shared.site
  match shared.instr with
  | .ready => none
  | .sendInLoop source =>
      if site.conn.state = .kDisconnected then
        some (shared.goto site .ready)
      else
        some { shared.goto site (.write source) with entered := shared.entered ++ [source] }
  | .write source =>
      let data := shared.deref source garbage
      let written := site.sendInLoopWrite data answer
      some { shared.goto written.2 (.append source written.1) with
        uses := shared.uses ++ (readByWrite site data).map fun read => (source.held, read) }
  | .append source progress =>
      let data := shared.deref source garbage
      some { shared.goto (site.sendInLoopAppend data progress) .ready with
        uses := shared.uses ++ (readByAppend progress data).map fun read =>
          (source.held.drop progress.nwrote, read) }
  | .shutdownStore => some (shared.goto (site.setState .kDisconnecting) .shutdownInLoop)
  | .shutdownInLoop => some (shared.goto site.shutdownInLoop .ready)
  | .handleWriteTail => some (shared.goto (site.handleWriteTail site.conn.state) .ready)
  | .handleCloseStore => some (shared.goto (site.setState .kDisconnected) .handleCloseRest)
  | .handleCloseRest => some (shared.goto site.handleCloseRest .ready)
  | .destroyStore => some (shared.goto (site.setState .kDisconnected) .destroyDown)
  | .destroyDown => some (shared.goto site.notifyDown .remove)
  | .remove => some (shared.goto (site.onChannel .remove) .ready)

/-- The first step of a functor. `connectDestroyed` begins with a load of
`state_`. -/
def enter (shared : SharedConnection Ptr Thread) : ConnFunctor Thread → LoopInstr Thread
  | .sendInLoop source => .sendInLoop source
  | .shutdownInLoop => .shutdownInLoop
  | .connectDestroyed =>
      if shared.site.conn.state = .kConnected then .destroyStore else .remove
  | .callback => .ready

def setCaller [DecidableEq Thread] (shared : SharedConnection Ptr Thread) (thread : Thread)
    (pc : CallerPc) (todo : List Call) : SharedConnection Ptr Thread :=
  { shared with callers := Function.update shared.callers thread ⟨pc, todo⟩ }

def push (shared : SharedConnection Ptr Thread) (functor : ConnFunctor Thread) :
    SharedConnection Ptr Thread :=
  { shared with queue := shared.queue.push functor }

def setCell [DecidableEq Thread] (shared : SharedConnection Ptr Thread) (thread : Thread)
    (cell : Nat) (bytes : List UInt8) : SharedConnection Ptr Thread :=
  { shared with
    memory := Function.update shared.memory thread
      (Function.update (shared.memory thread) cell bytes) }

def sendFunctor (shared : SharedConnection Ptr Thread) (thread : Thread) (cell : Nat) :
    ConnFunctor Thread :=
  let held := shared.memory thread cell
  .sendInLoop (.block thread cell held.length held)

def callerStep [DecidableEq Thread] (shared : SharedConnection Ptr Thread) (thread : Thread) :
    Option (SharedConnection Ptr Thread) :=
  match shared.callers thread with
  | ⟨.idle, []⟩ => none
  | ⟨.idle, .send cell :: rest⟩ =>
      some (shared.setCaller thread
        (if shared.site.conn.state = .kConnected then .sendLoaded cell else .idle) rest)
  | ⟨.idle, .shutdown :: rest⟩ =>
      some (shared.setCaller thread
        (if shared.site.conn.state = .kConnected then .shutdownLoaded else .idle) rest)
  | ⟨.idle, .assign cell bytes :: rest⟩ =>
      some ((shared.setCell thread cell bytes).setCaller thread .idle rest)
  | ⟨.idle, .destroy cell :: rest⟩ =>
      some ((shared.setCell thread cell []).setCaller thread .idle rest)
  | ⟨.sendLoaded cell, todo⟩ =>
      some ((shared.push (shared.sendFunctor thread cell)).setCaller thread .idle todo)
  | ⟨.shutdownLoaded, todo⟩ =>
      some ({ shared with site := shared.site.setState .kDisconnecting }.setCaller thread
        .shutdownStored todo)
  | ⟨.shutdownStored, todo⟩ => some ((shared.push .shutdownInLoop).setCaller thread .idle todo)

/-- The loop thread enters a method of the connection. At the end of the stream
`handleRead` goes on as `handleClose`. -/
def dispatch (shared : SharedConnection Ptr Thread) :
    SharedLabel Ptr Thread → Option (SharedConnection Ptr Thread)
  | .handleRead (.yields []) =>
      let input := (shared.site.conn.inputBuffer.readFd (.yields [])).2
      some (shared.goto
        { shared.site with conn := { shared.site.conn with inputBuffer := input } }
        .handleCloseStore)
  | .handleRead answer => some (shared.goto (shared.site.handleRead answer) .ready)
  | .handleWrite answer =>
      let body := shared.site.handleWriteBody answer
      some (shared.goto body.2 (if body.1 then .handleWriteTail else .ready))
  | .handleClose => some (shared.goto shared.site .handleCloseStore)
  | .handleError => some (shared.goto shared.site.handleError .ready)
  | _ => none

def userCode (shared : SharedConnection Ptr Thread) :
    SharedLabel Ptr Thread → Option (SharedConnection Ptr Thread)
  | .send bytes =>
      some (shared.goto shared.site
        (if shared.site.conn.state = .kConnected then .sendInLoop (.own bytes) else .ready))
  | .shutdown =>
      some (shared.goto shared.site
        (if shared.site.conn.state = .kConnected then .shutdownStore else .ready))
  | .retrieveInput len => some (shared.goto (shared.site.retrieveInput len) .ready)
  | .otherChannel other channel operation =>
      if channel.fd ≠ shared.site.conn.channel.fd then
        some (shared.goto (shared.site.otherChannel other channel operation) .ready)
      else
        none
  | _ => none

def step [DecidableEq Thread] (shared : SharedConnection Ptr Thread)
    (label : SharedLabel Ptr Thread) : Option (SharedConnection Ptr Thread) :=
  match label with
  | .caller thread => shared.callerStep thread
  | .queueDestroyed => some (shared.push .connectDestroyed)
  | .proceed answer garbage => shared.proceed answer garbage
  | .doPendingFunctors =>
      if shared.instr = .ready ∧ shared.callingPendingFunctors = false then
        some { shared with queue := shared.queue.swap, callingPendingFunctors := true }
      else
        none
  | .runFunctor =>
      match shared.instr, shared.queue.next? with
      | .ready, some (functor, rest) =>
          some { shared with queue := rest, instr := shared.enter functor }
      | _, _ => none
  | .finish =>
      if shared.instr = .ready ∧ shared.callingPendingFunctors = true ∧
          shared.queue.running = [] then
        some { shared with queue := shared.queue.release, callingPendingFunctors := false }
      else
        none
  | .send _ | .shutdown | .retrieveInput _ | .otherChannel _ _ _ =>
      if shared.instr = .ready then shared.userCode label else none
  | .handleRead _ | .handleWrite _ | .handleClose | .handleError =>
      if shared.instr = .ready ∧ shared.callingPendingFunctors = false then
        shared.dispatch label
      else
        none

def machine (Ptr Thread : Type) [DecidableEq Thread] :
    Machine (SharedConnection Ptr Thread) (SharedLabel Ptr Thread) where
  step := step

end SharedConnection

end TalkSystem.Net
