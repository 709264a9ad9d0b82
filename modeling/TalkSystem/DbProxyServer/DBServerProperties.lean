import TalkSystem.DbProxyServer.DBServer
import TalkSystem.Net.TcpServerProperties

/-!
# The callbacks of a `CDBServer`

`connectEstablished` calls `connectionCallback_` without a test, and a
`CDBServer` never sets it. Until a connection is established no channel is
watched, so nothing is called at all; the first connection that is established
calls an empty function.
-/

set_option autoImplicit false

namespace TalkSystem.DbProxyServer

open Net

variable {server next : TcpServer} {label : ServerLabel}

/-! ## What a step performs -/

theorem perform_conns {conn : Nat} {method : Endpoint Nat → Endpoint Nat} :
    (server.perform conn method).conns conn = (method (server.site conn)).conn := by
  by_cases closes : .closeCallback ∈ (method (server.site conn)).effects
  · rw [TcpServer.perform_closed closes, TcpServer.removeConnection]
    split <;> simp [TcpServer.removeConnectionInLoop, TcpServer.queueInLoop, TcpServer.record,
      TcpServer.setLoop, TcpServer.moved_conns_same]
  · rw [TcpServer.perform_open closes]
    exact TcpServer.moved_conns_same

theorem setLoop_site {loop conn : Nat} {thread : LoopThread}
    (same : thread.poller = (server.loops loop).poller) :
    (server.setLoop loop thread).site conn = server.site conn := by
  by_cases here : server.connLoop conn = loop
  · subst here
    simp [TcpServer.site, TcpServer.setLoop, same]
  · simp [TcpServer.site, TcpServer.setLoop, Function.update_of_ne here]

theorem handle_conns {conn : Nat} {handler : Handler} {readAnswer : ReadAnswer}
    {writeAnswer : WriteAnswer} :
    (server.handle conn handler readAnswer writeAnswer).conns conn =
      (handler.method readAnswer writeAnswer (server.site conn)).conn := by
  cases handler with
  | close => exact @perform_conns server conn Endpoint.handleClose
  | error =>
      exact @perform_conns (server.record conn .handleError) conn Endpoint.handleError
  | read =>
      exact @perform_conns (server.record conn .handleRead) conn
        fun site => site.handleRead readAnswer
  | write =>
      exact @perform_conns (server.record conn .handleWrite) conn
        fun site => site.handleWrite writeAnswer

theorem runFunctor_conns {functor : ServerFunctor} {answer : WriteAnswer} :
    (server.runFunctor functor answer).conns functor.conn =
      (functor.method answer (server.site functor.conn)).conn := by
  cases functor with
  | removeConnectionInLoop conn | callback conn => rfl
  | connectEstablished conn =>
      exact @perform_conns (server.record conn .connectEstablished) conn
        Endpoint.connectEstablished
  | connectDestroyed conn =>
      exact @perform_conns (server.record conn .connectDestroyed) conn Endpoint.connectDestroyed
  | sendInLoop conn data =>
      exact @perform_conns server conn fun site => site.sendInLoop data answer
  | shutdownInLoop conn => exact @perform_conns server conn Endpoint.shutdownInLoop

/-- `performs` is what the machine does: the step leaves the connection where
the method has led it. -/
theorem step_performs {conn : Nat} {after : Endpoint Nat}
    (taken : TcpServer.machine.step server label = some next)
    (performed : server.performs label = some (conn, after)) :
    next.conns conn = after.conn := by
  change server.step label = some next at taken
  cases label with
  | accept sockfd =>
      simp only [TcpServer.performs] at performed
      split at performed
      · next base =>
          simp only [TcpServer.step] at taken
          split at taken
          · cases taken
            cases performed
            simp only [TcpServer.newConnection, if_pos base]
            exact perform_conns
          · cases taken
      · cases performed
  | handler loop readAnswer writeAnswer =>
      simp only [TcpServer.step] at taken
      simp only [TcpServer.performs] at performed
      obtain ⟨_, _, acted⟩ := TcpServer.onLoop_eq_some taken
      split at acted
      · next owner handler rest handling =>
          rw [handling] at performed
          cases performed
          cases acted
          rw [handle_conns, setLoop_site (by rfl)]
      · cases acted
  | runFunctor loop answer =>
      simp only [TcpServer.step] at taken
      simp only [TcpServer.performs] at performed
      obtain ⟨_, _, acted⟩ := TcpServer.onLoop_eq_some taken
      split at acted
      · next functor rest found =>
          rw [found] at performed
          cases performed
          cases acted
          rw [runFunctor_conns, setLoop_site (by rfl)]
      · cases acted
  | send conn data answer | shutdown conn =>
      cases performed
      simp only [TcpServer.step, TcpServer.userCode] at taken
      split at taken
      · cases taken
        exact perform_conns
      · cases taken
  | destroyNext conn =>
      simp only [TcpServer.performs] at performed
      split at performed
      · next base =>
          simp only [TcpServer.step] at taken
          split at taken
          · cases taken
            cases performed
            simp only [TcpServer.destroyNext, if_pos base]
            exact perform_conns
          · cases taken
      · cases performed
  | poll | handleEvent | handled | doPendingFunctors | finish | retrieveInput
  | setHighWaterMarkCallback | call | proceed | destroy | joinThreads => cases performed

/-! ## Before any connection is established -/

/-- The step runs `connectEstablished` of some connection. -/
def Establishes (server : TcpServer) : ServerLabel → Prop
  | .accept _ => server.getNextLoop.1 = 0
  | .runFunctor loop _ => ∃ conn rest,
      (server.loops loop).queue.next? = some (.connectEstablished conn, rest)
  | _ => False

def NotEstablishing (state : CallbackServer) (label : ServerLabel) : Prop :=
  ¬ Establishes state.server label

/-- Functors that a server queues before any connection is established. -/
def beginsOrEnds : ServerFunctor → Bool
  | .connectEstablished _ | .connectDestroyed _ => true
  | _ => false

structure QuietLoop (thread : LoopThread) : Prop where
  unwatched : ∀ fd, thread.poller.interest fd = none
  inactive : thread.active = []
  unhandled : thread.handling = none
  functors : ∀ functor ∈ thread.queue.held, beginsOrEnds functor = true

/-- No connection has been established, so nothing is watched or dispatched and
no user call has seen a connected state. -/
structure Quiet (server : TcpServer) : Prop where
  connecting : ∀ conn, (server.conns conn).state = .kConnecting
  loops : ∀ loop, QuietLoop (server.loops loop)
  calls : ∀ call ∈ server.calls, call.2.2 = .entered ∨ call.2.2 = .returning

/-- A method that leaves its connection as it is before it is established. -/
structure QuietEnd (after : Endpoint Nat) : Prop where
  connecting : after.conn.state = .kConnecting
  unwatched : ∀ fd, after.poller.interest fd = none
  effects : after.effects = []

theorem Quiet.site (quiet : Quiet server) (conn : Nat) : QuietEnd (server.site conn) :=
  ⟨quiet.connecting conn, (quiet.loops _).unwatched, rfl⟩

theorem remove_unwatched {channel : Channel} {self : Nat} {poller : EPollPoller Nat}
    (unwatched : ∀ fd, poller.interest fd = none) (fd : Nat) :
    (channel.perform .remove self poller).2.interest fd = none := by
  simp only [Channel.perform, EPollPoller.removeChannel]
  split
  · simp [EPollPoller.update, unwatched]
  · exact unwatched fd

namespace QuietEnd

variable {site : Endpoint Nat}

theorem send (quiet : QuietEnd site) (data : List UInt8) (answer : WriteAnswer) :
    QuietEnd (site.send data answer) := by
  simpa [Endpoint.send, quiet.connecting] using quiet

theorem shutdown (quiet : QuietEnd site) : QuietEnd site.shutdown := by
  simpa [Endpoint.shutdown, quiet.connecting] using quiet

theorem connectDestroyed (quiet : QuietEnd site) : QuietEnd site.connectDestroyed := by
  have stays : site.connectDestroyed = site.onChannel .remove := by
    simp [Endpoint.connectDestroyed, quiet.connecting]
  rw [stays]
  exact ⟨quiet.connecting, remove_unwatched quiet.unwatched, quiet.effects⟩

theorem userMethod (quiet : QuietEnd site) {method : Endpoint Nat → Endpoint Nat}
    (known : TcpServer.UserMethod method) : QuietEnd (method site) := by
  cases known with
  | send => exact quiet.send _ _
  | shutdown => exact quiet.shutdown
  | retrieveInput | setHighWaterMarkCallback =>
      exact ⟨quiet.connecting, quiet.unwatched, quiet.effects⟩

end QuietEnd

/-! ## Steps -/

namespace Quiet

theorem setLoop (quiet : Quiet server) {loop : Nat} {thread : LoopThread}
    (after : QuietLoop thread) : Quiet (server.setLoop loop thread) := by
  refine ⟨quiet.connecting, fun other => ?_, quiet.calls⟩
  by_cases same : other = loop
  · subst same
    rwa [TcpServer.setLoop_same]
  · rw [TcpServer.setLoop_other same]
    exact quiet.loops other

theorem queueInLoop (quiet : Quiet server) (loop : Nat) {functor : ServerFunctor}
    (known : beginsOrEnds functor = true) : Quiet (server.queueInLoop loop functor) := by
  have before := quiet.loops loop
  refine quiet.setLoop ⟨before.unwatched, before.inactive, before.unhandled, ?_⟩
  intro other member
  simp only [BatchQueue.held, BatchQueue.push_finished, BatchQueue.push_waiting,
    ← List.append_assoc, List.mem_append, List.mem_singleton] at member
  rcases member with old | rfl
  · exact before.functors other (by simpa [BatchQueue.held] using old)
  · exact known

theorem perform (quiet : Quiet server) (conn : Nat) {method : Endpoint Nat → Endpoint Nat}
    (after : QuietEnd (method (server.site conn))) : Quiet (server.perform conn method) := by
  rw [TcpServer.perform_open (by simp [after.effects])]
  refine ⟨fun other => ?_, fun loop => ?_, quiet.calls⟩
  · by_cases same : other = conn
    · subst same
      rw [TcpServer.moved_conns_same]
      exact after.connecting
    · rw [TcpServer.moved_conns_other same]
      exact quiet.connecting other
  · have before := quiet.loops loop
    rw [TcpServer.moved_loops]
    split
    · refine ⟨after.unwatched, before.inactive, before.unhandled, ?_⟩
      simpa [TcpServer.callbacksOf, after.effects] using before.functors
    · exact before

theorem record (quiet : Quiet server) (conn : Nat) (event : LifeEvent) :
    Quiet (server.record conn event) :=
  ⟨quiet.connecting, quiet.loops, quiet.calls⟩

theorem connectDestroyed (quiet : Quiet server) (conn : Nat) :
    Quiet (server.connectDestroyed conn) :=
  (quiet.record conn .connectDestroyed).perform conn
    ((quiet.record conn .connectDestroyed).site conn).connectDestroyed

theorem newConnection (quiet : Quiet server) (sockfd : Nat)
    (other_loop : server.getNextLoop.1 ≠ 0) : Quiet (server.newConnection sockfd) := by
  have created : Quiet (server.createConnection sockfd) := by
    refine ⟨fun conn => ?_, quiet.loops, quiet.calls⟩
    by_cases same : conn = server.accepted
    · subst same
      simp [TcpServer.createConnection, TcpConnection.new]
    · rw [TcpServer.createConnection_conns_other same]
      exact quiet.connecting conn
  simp only [TcpServer.newConnection, if_neg other_loop]
  exact created.queueInLoop _ rfl

theorem destroyNext (quiet : Quiet server) (conn : Nat) : Quiet (server.destroyNext conn) := by
  have reset : Quiet { server with
      connections := Function.update server.connections (server.conns conn).name none } :=
    ⟨quiet.connecting, quiet.loops, quiet.calls⟩
  unfold TcpServer.destroyNext
  dsimp only
  split
  · exact reset.connectDestroyed conn
  · exact reset.queueInLoop _ rfl

theorem joinThreads (quiet : Quiet server) : Quiet server.joinThreads := by
  refine ⟨quiet.connecting, fun loop => ?_, quiet.calls⟩
  have before := quiet.loops loop
  by_cases base : loop = 0
  · subst base
    exact before
  · simp only [TcpServer.joinThreads, if_neg base]
    exact ⟨before.unwatched, before.inactive, before.unhandled,
      by simp [BatchQueue.held, BatchQueue.waiting, BatchQueue.empty]⟩

theorem withCall (quiet : Quiet server) {index : Nat} {conn : Nat} {call : UserCall} :
    Quiet { server with calls := server.calls.set index (conn, call, .returning) } := by
  refine ⟨quiet.connecting, quiet.loops, fun other member => ?_⟩
  rcases List.mem_or_eq_of_mem_set member with old | rfl
  · exact quiet.calls other old
  · exact .inr rfl

/-- No user call gets past its load of `state_`. -/
theorem proceed (quiet : Quiet server) {index : Nat}
    (taken : server.proceed index = some next) : Quiet next := by
  unfold TcpServer.proceed at taken
  split at taken
  · cases taken
  · next conn call found =>
      simp only [quiet.connecting conn, reduceCtorEq, if_false] at taken
      cases taken
      exact quiet.withCall
  · next found => simpa using quiet.calls _ (List.mem_of_getElem? found)
  · next found => simpa using quiet.calls _ (List.mem_of_getElem? found)
  · next found => simpa using quiet.calls _ (List.mem_of_getElem? found)
  · cases taken
    exact ⟨quiet.connecting, quiet.loops,
      fun call member => quiet.calls call (List.mem_of_mem_eraseIdx member)⟩

/-- Taking the next functor of the batch, swapping and releasing only move
functors that the queue holds. -/
theorem withQueue (quiet : Quiet server) {loop : Nat} {phase : RoundPhase}
    {queue : BatchQueue ServerFunctor} (fewer : queue.held ⊆ (server.loops loop).queue.held) :
    Quiet (server.setLoop loop { server.loops loop with phase := phase, queue := queue }) := by
  have before := quiet.loops loop
  exact quiet.setLoop ⟨before.unwatched, before.inactive, before.unhandled,
    fun functor member => before.functors functor (fewer member)⟩

theorem runFunctor (quiet : Quiet server) {loop : Nat} {functor : ServerFunctor}
    {rest : BatchQueue ServerFunctor} {answer : WriteAnswer}
    (found : (server.loops loop).queue.next? = some (functor, rest))
    (waits : ∀ conn, functor ≠ .connectEstablished conn) :
    Quiet ((server.setLoop loop { server.loops loop with queue := rest }).runFunctor functor
      answer) := by
  obtain ⟨shape, pending, finished⟩ := BatchQueue.next?_some found
  have known := (quiet.loops loop).functors functor
    (by simp [BatchQueue.held, BatchQueue.waiting, shape])
  have popped : Quiet (server.setLoop loop { server.loops loop with queue := rest }) :=
    quiet.withQueue (by simp [BatchQueue.held, BatchQueue.waiting, shape, pending, finished])
  cases functor with
  | connectEstablished conn => exact absurd rfl (waits conn)
  | connectDestroyed conn => exact popped.connectDestroyed conn
  | removeConnectionInLoop | callback | sendInLoop | shutdownInLoop => cases known

theorem step (quiet : Quiet server) (waits : ¬ Establishes server label)
    (taken : TcpServer.machine.step server label = some next) : Quiet next := by
  cases TcpServer.step_transition taken with
  | @accept sockfd => exact quiet.newConnection sockfd waits
  | @poll loop events _ _ reported =>
      have before := quiet.loops loop
      have none_reported : events = [] := by
        refine List.eq_nil_iff_forall_not_mem.mpr fun event member => ?_
        have watched := reported.2 event member
        simp [before.unwatched] at watched
      exact quiet.setLoop ⟨before.unwatched, none_reported, before.unhandled, before.functors⟩
  | @skip loop _ _ _ _ _ active | @handleEvent loop _ _ _ _ _ active =>
      simp [(quiet.loops loop).inactive] at active
  | @handler loop _ _ _ _ _ _ _ handling | @handled loop _ _ _ handling =>
      simp [(quiet.loops loop).unhandled] at handling
  | @swap loop =>
      exact quiet.withQueue fun functor member => by
        simp only [BatchQueue.held, BatchQueue.swap, BatchQueue.waiting, List.nil_append,
          List.append_nil] at member
        simp [BatchQueue.held, BatchQueue.waiting, member]
  | @runFunctor loop answer functor rest _ _ found =>
      refine quiet.runFunctor found fun conn same => waits ?_
      subst same
      exact ⟨conn, rest, found⟩
  | @finish loop =>
      exact quiet.withQueue fun functor member => by
        simp only [BatchQueue.held, BatchQueue.release, BatchQueue.waiting,
          List.nil_append] at member
        simp [BatchQueue.held, BatchQueue.waiting, List.mem_append.mp member]
  | @userCode conn method _ _ known => exact quiet.perform conn ((quiet.site conn).userMethod known)
  | call =>
      refine ⟨quiet.connecting, quiet.loops, fun call member => ?_⟩
      rcases List.mem_append.mp member with old | new
      · exact quiet.calls call old
      · simp only [List.mem_singleton] at new
        exact .inl (by rw [new])
  | proceed => exact quiet.proceed taken
  | destroy => exact ⟨quiet.connecting, quiet.loops, quiet.calls⟩
  | destroyNext => exact quiet.destroyNext _
  | joinThreads => exact quiet.joinThreads

/-- Before a connection is established no step calls anything. -/
theorem calls_nothing (quiet : Quiet server) (waits : ¬ Establishes server label) :
    server.calledBy label = [] := by
  cases label with
  | accept sockfd =>
      have other_loop : server.getNextLoop.1 ≠ 0 := waits
      simp [TcpServer.calledBy, TcpServer.performs, other_loop]
  | handler loop => simp [TcpServer.calledBy, TcpServer.performs, (quiet.loops loop).unhandled]
  | runFunctor loop answer =>
      cases found : (server.loops loop).queue.next? with
      | none => simp [TcpServer.calledBy, TcpServer.performs, found]
      | some item =>
          obtain ⟨functor, rest⟩ := item
          obtain ⟨shape, _, _⟩ := BatchQueue.next?_some found
          have known := (quiet.loops loop).functors functor
            (by simp [BatchQueue.held, BatchQueue.waiting, shape])
          cases functor with
          | connectEstablished conn => exact absurd ⟨conn, rest, found⟩ waits
          | connectDestroyed conn =>
              simp [TcpServer.calledBy, TcpServer.performs, found, ServerFunctor.method,
                ServerFunctor.conn, (quiet.site conn).connectDestroyed.effects]
          | removeConnectionInLoop | callback | sendInLoop | shutdownInLoop => cases known
  | send conn data answer =>
      simp [TcpServer.calledBy, TcpServer.performs, ((quiet.site conn).send data answer).effects]
  | shutdown conn =>
      simp [TcpServer.calledBy, TcpServer.performs, (quiet.site conn).shutdown.effects]
  | destroyNext conn =>
      by_cases base : server.connLoop conn = 0
      · simp [TcpServer.calledBy, TcpServer.performs, base,
          (quiet.site conn).connectDestroyed.effects]
      · simp [TcpServer.calledBy, TcpServer.performs, base]
  | poll | handleEvent | handled | doPendingFunctors | finish | retrieveInput
  | setHighWaterMarkCallback | call | proceed | destroy | joinThreads => rfl

end Quiet

/-! ## The theorem -/

/-- A server that never got a `connectionCallback_` has given none away. -/
structure Uncalled (state : CallbackServer) : Prop where
  server : state.callbacks.connection = false
  conns : ∀ conn, (state.conns conn).connection = false

theorem Uncalled.table {state : CallbackServer} (uncalled : Uncalled state)
    (label : ServerLabel) (conn : Nat) : (state.table label conn).connection = false := by
  unfold CallbackServer.table
  split
  · by_cases same : conn = state.server.accepted
    · subst same
      simp [ConnectionCallbacks.copied, uncalled.server]
    · simp [Function.update_of_ne same, uncalled.conns]
  · next changed _ =>
      by_cases same : conn = changed
      · subst same
        simp [uncalled.conns]
      · simp [Function.update_of_ne same, uncalled.conns]
  · exact uncalled.conns conn

theorem established_calls (establishes : Establishes server label) :
    ∃ conn, (conn, Callback.connection) ∈ server.calledBy label := by
  unfold Establishes at establishes
  split at establishes
  · refine ⟨server.accepted, ?_⟩
    simp [TcpServer.calledBy, TcpServer.performs, establishes, Endpoint.connectEstablished,
      Endpoint.emit, Effect.callback?]
  · obtain ⟨conn, rest, found⟩ := establishes
    refine ⟨conn, ?_⟩
    simp [TcpServer.calledBy, TcpServer.performs, found, ServerFunctor.method,
      ServerFunctor.conn, Endpoint.connectEstablished, Endpoint.emit, Effect.callback?]
  · cases establishes

theorem Uncalled.not_establishing {state : CallbackServer} {label : ServerLabel}
    (uncalled : Uncalled state) (present : state.CallsPresent label) :
    NotEstablishing state label := by
  intro establishes
  obtain ⟨conn, called⟩ := established_calls establishes
  have set_there := present _ called
  simp [ConnectionCallbacks.has, uncalled.table] at set_there

theorem callbackServer_step {state after : CallbackServer} {label : ServerLabel}
    (taken : CallbackServer.machine.step state label = some after) :
    TcpServer.machine.step state.server label = some after.server ∧
      after.callbacks = state.callbacks ∧ after.conns = state.table label := by
  obtain ⟨server, moved, same⟩ := Option.map_eq_some_iff.mp taken
  cases same
  exact ⟨moved, rfl, rfl⟩

/-- In every run of a `CDBServer` the callbacks that are called are all set if
and only if no `connectEstablished` is run: a `CDBServer` never sets the
`connectionCallback_` that every established connection calls. -/
theorem cdbServer_calls_present (nameArg : String) (listenAddr : InetAddress)
    (labels : List ServerLabel) (final : CallbackServer) :
    CallbackServer.machine.Runs CallbackServer.CallsPresent
        (CDBServer.start nameArg listenAddr) labels final ↔
      CallbackServer.machine.Runs NotEstablishing (CDBServer.start nameArg listenAddr) labels
        final := by
  constructor
  · intro present
    refine present.strengthen Uncalled (fun state label next allowed taken uncalled => ?_)
      ⟨rfl, fun _ => rfl⟩
    obtain ⟨_, callbacks, conns⟩ := callbackServer_step taken
    exact ⟨uncalled.not_establishing allowed,
      ⟨callbacks ▸ uncalled.server, conns ▸ uncalled.table label⟩⟩
  · intro waits
    refine waits.strengthen (fun state => Quiet state.server)
      (fun state label next allowed taken quiet => ?_) ?_
    · obtain ⟨moved, _, _⟩ := callbackServer_step taken
      refine ⟨?_, quiet.step allowed moved⟩
      intro call called
      rw [quiet.calls_nothing allowed] at called
      cases called
    · refine ⟨fun _ => rfl, fun _ => ⟨fun _ => rfl, rfl, rfl, ?_⟩, ?_⟩
      · intro functor member
        cases member
      · intro call member
        cases member

/-- One client connects: the functor that establishes the connection calls the
empty `connectionCallback_`. -/
theorem cdbServer_calls_empty : ∃ state after : CallbackServer,
    CallbackServer.machine.Runs Machine.anyStep (CDBServer.start "db" ⟨(127, 0, 0, 1), 9000⟩)
      [.poll 0 [], .accept 5, .poll 1 [], .doPendingFunctors 1] state ∧
      CallbackServer.machine.step state (.runFunctor 1 (.accepts 0)) = some after ∧
      ¬ state.CallsPresent (.runFunctor 1 (.accepts 0)) := by
  have run : CallbackServer.machine.Runs Machine.anyStep
      (CDBServer.start "db" ⟨(127, 0, 0, 1), 9000⟩)
      [.poll 0 [], .accept 5, .poll 1 [], .doPendingFunctors 1] _ :=
    .cons trivial rfl <| .cons trivial rfl <| .cons trivial rfl <| .cons trivial rfl .nil
  refine ⟨_, _, run, rfl, fun present => ?_⟩
  have called := present (0, .connection) (by decide)
  cases called

end TalkSystem.DbProxyServer
