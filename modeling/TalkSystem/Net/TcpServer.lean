import TalkSystem.Machine.BatchQueue
import TalkSystem.Net.ConnectionLifecycle
import TalkSystem.Net.ConnectionName
import TalkSystem.Net.TcpConnection

/-!
# `TcpServer` and its loops

Loop 0 is the base loop; with `numThreads` I/O loops the others are
`1 … numThreads`. Every loop has one thread, a functor queue, a poller and the
channels that it is dispatching. A handler and a functor are one step each:
they work on data of their own loop and end with at most one critical section
of another loop's queue.

Ownership is explicit. A `TcpConnectionPtr` is held by the map of the server, by
a functor that is bound to one for as long as the functor lives (a batch is
destroyed as a whole), by a dispatch that has locked the channel's tie, and by
a user thread during its call. Functors that are bound to a raw pointer hold
nothing.
-/

set_option autoImplicit false

namespace TalkSystem.Net

/-- The functors of a server's loops, by the connection they are about. The
last two are bound to a raw `this`; `removeConnectionInLoop` is bound to the raw
server as well. -/
inductive ServerFunctor where
  | connectEstablished (conn : Nat)
  | removeConnectionInLoop (conn : Nat)
  | connectDestroyed (conn : Nat)
  | callback (conn : Nat)
  | sendInLoop (conn : Nat) (data : List UInt8)
  | shutdownInLoop (conn : Nat)
  deriving DecidableEq

namespace ServerFunctor

def conn : ServerFunctor → Nat
  | .connectEstablished conn | .removeConnectionInLoop conn | .connectDestroyed conn
  | .callback conn | .sendInLoop conn _ | .shutdownInLoop conn => conn

def owns : ServerFunctor → Bool
  | .sendInLoop _ _ | .shutdownInLoop _ => false
  | _ => true

end ServerFunctor

inductive Handler where
  | close
  | error
  | read
  | write
  deriving DecidableEq, Repr

/-- The callbacks that `handleEventWithGuard` makes, in its order. -/
def handleEventWithGuard (revents : Events) : List Handler :=
  (if revents.epollhup && !revents.epollin then [.close] else []) ++
    (if revents.epollerr then [.error] else []) ++
    (if revents.epollin || revents.epollpri then [.read] else []) ++
    (if revents.epollout then [.write] else [])

inductive RoundPhase where
  | polling
  | dispatching
  | calling
  deriving DecidableEq, Repr

/-- `active` are the channels still to be dispatched, `handling` is the one
whose callbacks are being made, with the callbacks that are left. -/
structure LoopThread where
  phase : RoundPhase
  queue : BatchQueue ServerFunctor
  poller : EPollPoller Nat
  active : List (Nat × Events)
  handling : Option (Nat × List Handler)

def LoopThread.init : LoopThread := ⟨.polling, .empty, .empty, [], none⟩

def LoopThread.idle (thread : LoopThread) : Bool :=
  thread.active.isEmpty && thread.handling.isNone

inductive UserCall where
  | send (data : List UInt8)
  | shutdown
  deriving DecidableEq

def UserCall.functor (conn : Nat) : UserCall → ServerFunctor
  | .send data => .sendInLoop conn data
  | .shutdown => .shutdownInLoop conn

/-- Where such a call is: before its load of `state_`, behind the load of
`kConnected`, behind the store of `kDisconnecting`, or about to return. -/
inductive UserPc where
  | entered
  | loaded
  | stored
  | returning
  deriving DecidableEq

inductive ServerLife where
  | alive
  | destroying
  | destroyed
  deriving DecidableEq

/-- `conns` and `connLoop` are indexed by the order of acceptance, and
`accepted` is how many there are. `history` records what was done to which
connection. -/
structure TcpServer where
  name : String
  address : InetAddress
  numThreads : Nat
  writeCompleteCallback : Bool
  next : Nat
  nextConnId : Int
  accepted : Nat
  conns : Nat → TcpConnection
  connLoop : Nat → Nat
  connections : String → Option Nat
  loops : Nat → LoopThread
  calls : List (Nat × UserCall × UserPc)
  life : ServerLife
  history : List (Nat × LifeEvent)

namespace TcpServer

def init (name : String) (address : InetAddress) (numThreads : Nat)
    (writeCompleteCallback : Bool) : TcpServer where
  name := name
  address := address
  numThreads := numThreads
  writeCompleteCallback := writeCompleteCallback
  next := 0
  nextConnId := 1
  accepted := 0
  conns := fun _ => TcpConnection.new "" 0
  connLoop := fun _ => 0
  connections := fun _ => none
  loops := fun _ => .init
  calls := []
  life := .alive
  history := []

def fd (server : TcpServer) (conn : Nat) : Nat := (server.conns conn).channel.fd

def setLoop (server : TcpServer) (loop : Nat) (thread : LoopThread) : TcpServer :=
  { server with loops := Function.update server.loops loop thread }

def queueInLoop (server : TcpServer) (loop : Nat) (functor : ServerFunctor) : TcpServer :=
  server.setLoop loop { server.loops loop with queue := (server.loops loop).queue.push functor }

def record (server : TcpServer) (conn : Nat) (event : LifeEvent) : TcpServer :=
  { server with history := server.history ++ [(conn, event)] }

/-! ## Ownership -/

def heldByMap (server : TcpServer) (conn : Nat) : Bool :=
  server.connections (server.conns conn).name == some conn

/-- A functor that is queued, or that belongs to the batch being run, holds the
connection. -/
def heldByFunctor (server : TcpServer) (conn : Nat) : Bool :=
  (List.range (server.numThreads + 1)).any fun loop =>
    (server.loops loop).queue.held.any fun functor => functor.owns && functor.conn == conn

def heldByGuard (server : TcpServer) (conn : Nat) : Bool :=
  (List.range (server.numThreads + 1)).any fun loop =>
    (server.loops loop).handling.any fun handling =>
      handling.1 == conn && (server.conns conn).channel.tied

def heldByUser (server : TcpServer) (conn : Nat) : Bool :=
  server.calls.any fun call => call.1 == conn

def owned (server : TcpServer) (conn : Nat) : Bool :=
  server.heldByMap conn || server.heldByFunctor conn || server.heldByGuard conn ||
    server.heldByUser conn

/-! ## Operations -/

def site (server : TcpServer) (conn : Nat) : Endpoint Nat where
  self := conn
  conn := server.conns conn
  poller := (server.loops (server.connLoop conn)).poller
  effects := []

def callbacksOf (conn : Nat) (effects : List Effect) : List ServerFunctor :=
  effects.flatMap fun effect => match effect with
    | .queueWriteComplete | .queueHighWaterMark _ => [.callback conn]
    | _ => []

/-- Write back what a method of the connection did on its loop. -/
def update (server : TcpServer) (conn : Nat) (after : Endpoint Nat) : TcpServer :=
  let thread := server.loops (server.connLoop conn)
  { server with conns := Function.update server.conns conn after.conn }.setLoop
    (server.connLoop conn)
    { thread with
      poller := after.poller
      queue := { thread.queue with
        pending := thread.queue.pending ++ callbacksOf conn after.effects } }

def removeConnectionInLoop (server : TcpServer) (conn : Nat) : TcpServer :=
  ({ server with
    connections := Function.update server.connections (server.conns conn).name none }.record conn
      .removeConnectionInLoop).queueInLoop (server.connLoop conn) (.connectDestroyed conn)

/-- `removeConnection`, called on the connection's loop: `runInLoop` of the base
loop is immediate on the base loop only. -/
def removeConnection (server : TcpServer) (conn : Nat) : TcpServer :=
  if server.connLoop conn = 0 then
    server.removeConnectionInLoop conn
  else
    server.queueInLoop 0 (.removeConnectionInLoop conn)

/-- A method of a connection runs on its loop; its close callback is
`removeConnection`. -/
def perform (server : TcpServer) (conn : Nat) (method : Endpoint Nat → Endpoint Nat) :
    TcpServer :=
  let after := method (server.site conn)
  let updated := server.update conn after
  if .closeCallback ∈ after.effects then
    (updated.record conn .handleClose).removeConnection conn
  else
    updated

def connectEstablished (server : TcpServer) (conn : Nat) : TcpServer :=
  (server.record conn .connectEstablished).perform conn Endpoint.connectEstablished

def connectDestroyed (server : TcpServer) (conn : Nat) : TcpServer :=
  (server.record conn .connectDestroyed).perform conn Endpoint.connectDestroyed

def getNextLoop (server : TcpServer) : Nat × Nat :=
  if server.numThreads = 0 then
    (0, server.next)
  else
    (server.next + 1, if server.numThreads ≤ server.next + 1 then 0 else server.next + 1)

/-- `newConnection` up to its `runInLoop`. -/
def createConnection (server : TcpServer) (sockfd : Nat) : TcpServer :=
  let name := connName server.name server.address.toIpPort server.nextConnId
  { server with
    next := server.getNextLoop.2
    nextConnId := nextId server.nextConnId
    accepted := server.accepted + 1
    conns := Function.update server.conns server.accepted
      { TcpConnection.new name sockfd with
        writeCompleteCallback := server.writeCompleteCallback }
    connLoop := Function.update server.connLoop server.accepted server.getNextLoop.1
    connections := Function.update server.connections name (some server.accepted) }

def newConnection (server : TcpServer) (sockfd : Nat) : TcpServer :=
  let created := server.createConnection sockfd
  if server.getNextLoop.1 = 0 then
    created.connectEstablished server.accepted
  else
    created.queueInLoop server.getNextLoop.1 (.connectEstablished server.accepted)

def handle (server : TcpServer) (conn : Nat) (handler : Handler) (readAnswer : ReadAnswer)
    (writeAnswer : WriteAnswer) : TcpServer :=
  match handler with
  | .close => server.perform conn Endpoint.handleClose
  | .error => (server.record conn .handleError).perform conn Endpoint.handleError
  | .read => (server.record conn .handleRead).perform conn fun site => site.handleRead readAnswer
  | .write =>
      (server.record conn .handleWrite).perform conn fun site => site.handleWrite writeAnswer

def runFunctor (server : TcpServer) (functor : ServerFunctor) (answer : WriteAnswer) :
    TcpServer :=
  match functor with
  | .connectEstablished conn => server.connectEstablished conn
  | .removeConnectionInLoop conn => server.removeConnectionInLoop conn
  | .connectDestroyed conn => server.connectDestroyed conn
  | .callback _ => server
  | .sendInLoop conn data => server.perform conn fun site => site.sendInLoop data answer
  | .shutdownInLoop conn => server.perform conn Endpoint.shutdownInLoop

/-- The loops that have a thread: after the destruction of the server its I/O
threads are joined, and while it goes on the base thread does nothing else. -/
def runs (server : TcpServer) (loop : Nat) : Bool :=
  loop ≤ server.numThreads &&
    match server.life with
    | .alive => true
    | .destroying => loop != 0
    | .destroyed => loop == 0

/-- The kernel reports a channel only through the interest set of its poller,
each descriptor once. -/
def reportable (server : TcpServer) (loop : Nat) (events : List (Nat × Events)) : Prop :=
  (events.map Prod.fst).Nodup ∧ ∀ event ∈ events,
    ((server.loops loop).poller.interest (server.fd event.1)).any
      (fun entry => entry.2 == event.1) = true

instance (server : TcpServer) (loop : Nat) (events : List (Nat × Events)) :
    Decidable (server.reportable loop events) :=
  inferInstanceAs (Decidable (_ ∧ _))

/-- A descriptor that `accept` may return: the socket of a connection stays
open as long as the connection exists. -/
def unusedFd (server : TcpServer) (sockfd : Nat) : Prop :=
  ∀ conn < server.accepted, server.owned conn = true → server.fd conn ≠ sockfd

instance (server : TcpServer) (sockfd : Nat) : Decidable (server.unusedFd sockfd) :=
  inferInstanceAs (Decidable (∀ _ < _, _))

/-- `~TcpServer` for one entry of `connections_`. -/
def destroyNext (server : TcpServer) (conn : Nat) : TcpServer :=
  let reset := { server with
    connections := Function.update server.connections (server.conns conn).name none }
  if server.connLoop conn = 0 then
    reset.connectDestroyed conn
  else
    reset.queueInLoop (server.connLoop conn) (.connectDestroyed conn)

/-- The I/O threads have left their loops, and the loops are gone with the
functors that they still held. -/
def joinThreads (server : TcpServer) : TcpServer :=
  { server with
    life := .destroyed
    loops := fun loop =>
      if loop = 0 then server.loops 0 else { server.loops loop with queue := .empty } }

end TcpServer

inductive ServerLabel where
  | accept (sockfd : Nat)
  | poll (loop : Nat) (events : List (Nat × Events))
  | handleEvent (loop : Nat)
  | handler (loop : Nat) (readAnswer : ReadAnswer) (writeAnswer : WriteAnswer)
  | handled (loop : Nat)
  | doPendingFunctors (loop : Nat)
  | runFunctor (loop : Nat) (answer : WriteAnswer)
  | finish (loop : Nat)
  | send (conn : Nat) (data : List UInt8) (answer : WriteAnswer)
  | shutdown (conn : Nat)
  | retrieveInput (conn : Nat) (len : Nat)
  | setHighWaterMarkCallback (conn : Nat) (highWaterMark : Nat)
  | call (conn : Nat) (call : UserCall)
  | proceed (index : Nat)
  | destroy
  | destroyNext (conn : Nat)
  | joinThreads

namespace TcpServer

def proceed (server : TcpServer) (index : Nat) : Option TcpServer :=
  match server.calls[index]? with
  | none => none
  | some (conn, call, .entered) =>
      let pc := if (server.conns conn).state = .kConnected then .loaded else .returning
      some { server with calls := server.calls.set index (conn, call, pc) }
  | some (conn, .shutdown, .loaded) =>
      some { server with
        conns := Function.update server.conns conn
          { server.conns conn with state := .kDisconnecting }
        calls := server.calls.set index (conn, .shutdown, .stored) }
  | some (conn, call, .loaded) | some (conn, call, .stored) =>
      some { server.queueInLoop (server.connLoop conn) (call.functor conn) with
        calls := server.calls.set index (conn, call, .returning) }
  | some (_, _, .returning) => some { server with calls := server.calls.eraseIdx index }

def userCode (server : TcpServer) (conn : Nat) (method : Endpoint Nat → Endpoint Nat) :
    Option TcpServer :=
  if conn < server.accepted ∧ server.runs (server.connLoop conn) = true ∧
      (server.loops (server.connLoop conn)).phase ≠ .polling then
    some (server.perform conn method)
  else
    none

def onLoop (server : TcpServer) (loop : Nat) (phase : RoundPhase)
    (action : LoopThread → Option TcpServer) : Option TcpServer :=
  if server.runs loop = true ∧ (server.loops loop).phase = phase then
    action (server.loops loop)
  else
    none

def step (server : TcpServer) (label : ServerLabel) : Option TcpServer :=
  match label with
  | .accept sockfd =>
      if server.life = .alive ∧ (server.loops 0).phase = .dispatching ∧
          (server.loops 0).handling = none ∧ server.unusedFd sockfd then
        some (server.newConnection sockfd)
      else
        none
  | .poll loop events => server.onLoop loop .polling fun thread =>
      if server.reportable loop events then
        some (server.setLoop loop { thread with phase := .dispatching, active := events })
      else
        none
  | .handleEvent loop => server.onLoop loop .dispatching fun thread =>
      match thread.active, thread.handling with
      | (conn, revents) :: rest, none =>
          -- A tied channel is skipped when its connection is gone.
          if (server.conns conn).channel.tied && !server.owned conn then
            some (server.setLoop loop { thread with active := rest })
          else
            some (server.setLoop loop
              { thread with
                active := rest
                handling := some (conn, handleEventWithGuard revents) })
      | _, _ => none
  | .handler loop readAnswer writeAnswer => server.onLoop loop .dispatching fun thread =>
      match thread.handling with
      | some (conn, handler :: rest) =>
          some ((server.setLoop loop { thread with handling := some (conn, rest) }).handle conn
            handler readAnswer writeAnswer)
      | _ => none
  | .handled loop => server.onLoop loop .dispatching fun thread =>
      match thread.handling with
      | some (_, []) => some (server.setLoop loop { thread with handling := none })
      | _ => none
  | .doPendingFunctors loop => server.onLoop loop .dispatching fun thread =>
      if thread.idle = true then
        some (server.setLoop loop { thread with phase := .calling, queue := thread.queue.swap })
      else
        none
  | .runFunctor loop answer => server.onLoop loop .calling fun thread =>
      match thread.queue.next? with
      | some (functor, rest) =>
          some ((server.setLoop loop { thread with queue := rest }).runFunctor functor answer)
      | none => none
  | .finish loop => server.onLoop loop .calling fun thread =>
      if thread.queue.running = [] then
        some (server.setLoop loop { thread with phase := .polling, queue := thread.queue.release })
      else
        none
  | .send conn data answer => server.userCode conn fun site => site.send data answer
  | .shutdown conn => server.userCode conn Endpoint.shutdown
  | .retrieveInput conn len => server.userCode conn fun site => site.retrieveInput len
  | .setHighWaterMarkCallback conn highWaterMark =>
      server.userCode conn fun site => site.setHighWaterMarkCallback highWaterMark
  | .call conn call =>
      if conn < server.accepted ∧ server.owned conn = true then
        some { server with calls := server.calls ++ [(conn, call, .entered)] }
      else
        none
  | .proceed index => server.proceed index
  | .destroy =>
      if server.life = .alive then some { server with life := .destroying } else none
  | .destroyNext conn =>
      if server.life = .destroying ∧ conn < server.accepted ∧ server.heldByMap conn = true then
        some (server.destroyNext conn)
      else
        none
  | .joinThreads =>
      if server.life = .destroying ∧ (∀ conn < server.accepted, server.heldByMap conn = false) ∧
          ∀ loop < server.numThreads, (server.loops (loop + 1)).phase = .polling then
        some server.joinThreads
      else
        none

def machine : Machine TcpServer ServerLabel where
  step := step

end TcpServer

end TalkSystem.Net
