import Mathlib.Data.Int.CardIntervalMod
import TalkSystem.Net.TcpServerProperties

/-!
# One loop for each connection

Connections are dealt out to the I/O loops in turn, and whatever works on a
connection is done by the thread of its loop: the poller that watches it, the
handlers of its channel and the functors about it. The one functor that runs
elsewhere is `removeConnectionInLoop`, on the base loop. Other threads may call,
and the server may be destroyed, at any time.
-/

set_option autoImplicit false

namespace TalkSystem.Net

/-! ## Whose entries a method makes -/

section Entries

variable {Ptr : Type} {self : Ptr} {channel : Channel} {poller : EPollPoller Ptr}

/-- The interest set has gained no entries but those of one pointer. -/
def AddsOnly (self : Ptr) (before after : EPollPoller Ptr) : Prop :=
  ∀ fd mask ptr, after.interest fd = some (mask, ptr) →
    ptr = self ∨ before.interest fd = some (mask, ptr)

theorem AddsOnly.refl (self : Ptr) (poller : EPollPoller Ptr) : AddsOnly self poller poller :=
  fun _ _ _ found => .inr found

theorem AddsOnly.trans {first second third : EPollPoller Ptr}
    (left : AddsOnly self first second) (right : AddsOnly self second third) :
    AddsOnly self first third := by
  intro fd mask ptr found
  rcases right fd mask ptr found with own | middle
  · exact .inl own
  · exact left fd mask ptr middle

theorem update_addsOnly (operation : CtlOp) :
    AddsOnly self poller (poller.update operation self channel) := by
  intro fd mask ptr found
  by_cases own : fd = channel.fd
  · subst own
    unfold EPollPoller.update at found
    split at found
    · simp only [Function.update_self, Option.some.injEq, Prod.mk.injEq] at found
      exact .inl found.2.symm
    · simp only [Function.update_self, Option.some.injEq, Prod.mk.injEq] at found
      exact .inl found.2.symm
    · simp at found
    · exact .inr found
    · exact .inr found
    · exact .inr found
  · exact .inr ((update_agreeExcept operation).interest fd own ▸ found)

theorem perform_addsOnly (operation : ChannelOp) :
    AddsOnly self poller (channel.perform operation self poller).2 := by
  have updated (changed : Channel) :
      AddsOnly self poller (poller.updateChannel self changed).2 := by
    unfold EPollPoller.updateChannel
    split
    · exact @update_addsOnly _ self changed { poller with
        channels := Function.update poller.channels changed.fd (some self) } .add
    · exact update_addsOnly _
    · split <;> exact update_addsOnly _
  cases operation with
  | remove =>
      simp only [Channel.perform, EPollPoller.removeChannel]
      split
      · exact @update_addsOnly _ self channel { poller with
          channels := Function.update poller.channels channel.fd none } .del
      · exact .refl _ _
  | enableReading | disableReading | enableWriting | disableWriting | disableAll =>
      exact updated _

end Entries

namespace Endpoint

variable {Ptr : Type} (site : Endpoint Ptr)

/-- A method makes entries for its own connection only. -/
def MakesOwn (next : Endpoint Ptr) : Prop := AddsOnly site.self site.poller next.poller

theorem onChannel_makesOwn (operation : ChannelOp) : site.MakesOwn (site.onChannel operation) :=
  perform_addsOnly operation

theorem notifyDown_makesOwn : site.MakesOwn site.notifyDown := site.onChannel_makesOwn .disableAll

theorem handleClose_makesOwn : site.MakesOwn site.handleClose :=
  (site.setState .kDisconnected).notifyDown_makesOwn

theorem shutdownInLoop_makesOwn : site.MakesOwn site.shutdownInLoop := by
  unfold shutdownInLoop
  split <;> exact .refl _ _

theorem shutdown_makesOwn : site.MakesOwn site.shutdown := by
  unfold shutdown
  split
  · exact (site.setState .kDisconnecting).shutdownInLoop_makesOwn
  · exact .refl _ _

theorem connectEstablished_makesOwn : site.MakesOwn site.connectEstablished :=
  perform_addsOnly .enableReading

theorem connectDestroyed_makesOwn : site.MakesOwn site.connectDestroyed := by
  unfold connectDestroyed
  split
  · exact ((site.setState .kDisconnected).notifyDown_makesOwn).trans
      ((site.setState .kDisconnected).notifyDown.onChannel_makesOwn .remove)
  · exact site.onChannel_makesOwn .remove

theorem handleRead_makesOwn (answer : ReadAnswer) : site.MakesOwn (site.handleRead answer) := by
  simp only [handleRead]
  split
  · exact .refl _ _
  · exact handleClose_makesOwn _
  · exact .refl _ _

theorem sendInLoopWrite_poller (data : List UInt8) (answer : WriteAnswer) :
    (site.sendInLoopWrite data answer).2.poller = site.poller ∧
      (site.sendInLoopWrite data answer).2.self = site.self := by
  simp only [sendInLoopWrite]
  split
  · cases answer with
    | accepts count =>
        dsimp only
        split <;> exact ⟨rfl, rfl⟩
    | fails errno => exact ⟨rfl, rfl⟩
  · exact ⟨rfl, rfl⟩

theorem sendInLoopAppend_makesOwn (data : List UInt8) (progress : SendProgress) :
    site.MakesOwn (site.sendInLoopAppend data progress) := by
  simp only [sendInLoopAppend]
  split
  · split <;> split
    · exact onChannel_makesOwn _ .enableWriting
    · exact .refl _ _
    · exact onChannel_makesOwn _ .enableWriting
    · exact .refl _ _
  · exact .refl _ _

theorem sendInLoop_makesOwn (data : List UInt8) (answer : WriteAnswer) :
    site.MakesOwn (site.sendInLoop data answer) := by
  simp only [sendInLoop, sendInLoopFrom]
  split
  · exact .refl _ _
  · obtain ⟨poller, self⟩ := site.sendInLoopWrite_poller data answer
    have appended := (site.sendInLoopWrite data answer).2.sendInLoopAppend_makesOwn data
      (site.sendInLoopWrite data answer).1
    rwa [MakesOwn, poller, self] at appended

theorem send_makesOwn (data : List UInt8) (answer : WriteAnswer) :
    site.MakesOwn (site.send data answer) := by
  unfold send
  split
  · exact site.sendInLoop_makesOwn data answer
  · exact .refl _ _

theorem handleWriteBody_makesOwn (answer : WriteAnswer) :
    site.MakesOwn (site.handleWriteBody answer).2 := by
  simp only [handleWriteBody]
  split
  · split
    · split
      · dsimp only
        split <;> exact onChannel_makesOwn _ .disableWriting
      · exact .refl _ _
    · exact .refl _ _
  · exact .refl _ _

theorem handleWrite_makesOwn (answer : WriteAnswer) : site.MakesOwn (site.handleWrite answer) := by
  have body := site.handleWriteBody_makesOwn answer
  have same : ∀ next : Endpoint Ptr, next.shutdownInLoop.poller = next.poller := by
    intro next
    unfold shutdownInLoop
    split <;> rfl
  simp only [handleWrite, handleWriteTail]
  split
  · split
    · rwa [MakesOwn, same]
    · exact body
  · exact body

theorem connectionMethod_makesOwn {method : Endpoint Nat → Endpoint Nat}
    (user : TcpServer.UserMethod method) (site : Endpoint Nat) : site.MakesOwn (method site) := by
  cases user with
  | send => exact site.send_makesOwn _ _
  | shutdown => exact site.shutdown_makesOwn
  | retrieveInput => exact .refl _ _
  | setHighWaterMarkCallback => exact .refl _ _

end Endpoint

namespace TcpServer

variable {server next : TcpServer} {label : ServerLabel} {numThreads conn loop : Nat}
  {functor : ServerFunctor}

/-- The loop that the `conn`-th accepted connection is given. -/
def dealtLoop (numThreads conn : Nat) : Nat := if numThreads = 0 then 0 else conn % numThreads + 1

def OnLoop (server : TcpServer) (loop conn : Nat) : Prop :=
  conn < server.accepted ∧ server.connLoop conn = loop

/-- The loop whose thread runs a functor. -/
def home (server : TcpServer) : ServerFunctor → Nat
  | .removeConnectionInLoop _ => 0
  | .connectEstablished conn | .connectDestroyed conn | .callback conn | .sendInLoop conn _
  | .shutdownInLoop conn => server.connLoop conn

def AtHome (server : TcpServer) (loop : Nat) (functor : ServerFunctor) : Prop :=
  functor.conn < server.accepted ∧ server.home functor = loop

/-- Loops are dealt out in turn, and everything that a loop has to do with connections is about
connections of its own. -/
structure Confined (numThreads : Nat) (server : TcpServer) : Prop where
  threads : server.numThreads = numThreads
  round : server.numThreads ≠ 0 → server.next = server.accepted % server.numThreads
  dealt : ∀ conn < server.accepted, server.connLoop conn = dealtLoop server.numThreads conn
  waiting : ∀ loop, ∀ functor ∈ (server.loops loop).queue.waiting, server.AtHome loop functor
  active : ∀ loop, ∀ event ∈ (server.loops loop).active, server.OnLoop loop event.1
  handling : ∀ loop conn rest, (server.loops loop).handling = some (conn, rest) →
    server.OnLoop loop conn
  watched : ∀ loop fd mask conn, (server.loops loop).poller.interest fd = some (mask, conn) →
    server.OnLoop loop conn
  calls : ∀ call ∈ server.calls, call.1 < server.accepted
  mapped : ∀ name conn, server.connections name = some conn → conn < server.accepted

theorem Confined.setLoop (inv : Confined numThreads server) {thread : LoopThread}
    (waiting : ∀ functor ∈ thread.queue.waiting, server.AtHome loop functor)
    (active : ∀ event ∈ thread.active, server.OnLoop loop event.1)
    (handling : ∀ conn rest, thread.handling = some (conn, rest) → server.OnLoop loop conn)
    (watched : ∀ fd mask conn, thread.poller.interest fd = some (mask, conn) →
      server.OnLoop loop conn) : Confined numThreads (server.setLoop loop thread) := by
  refine ⟨inv.threads, inv.round, inv.dealt, ?_, ?_, ?_, ?_, inv.calls, inv.mapped⟩
  all_goals
    intro other
    by_cases same : other = loop
  · subst same
    rw [setLoop_same]
    exact waiting
  · rw [setLoop_other same]
    exact inv.waiting other
  · subst same
    rw [setLoop_same]
    exact active
  · rw [setLoop_other same]
    exact inv.active other
  · subst same
    rw [setLoop_same]
    exact handling
  · rw [setLoop_other same]
    exact inv.handling other
  · subst same
    rw [setLoop_same]
    exact watched
  · rw [setLoop_other same]
    exact inv.watched other

theorem Confined.queueInLoop (inv : Confined numThreads server)
    (at_home : server.AtHome loop functor) :
    Confined numThreads (server.queueInLoop loop functor) := by
  refine inv.setLoop (fun other member => ?_) (inv.active loop) (inv.handling loop)
    (inv.watched loop)
  rw [BatchQueue.push_waiting] at member
  rcases List.mem_append.mp member with old | new
  · exact inv.waiting loop other old
  · exact List.mem_singleton.mp new ▸ at_home

theorem callbacksOf_eq {effects : List Effect} (member : functor ∈ callbacksOf conn effects) :
    functor = .callback conn := by
  obtain ⟨effect, _, queued⟩ := List.mem_flatMap.mp member
  cases effect <;> simp_all

/-- A method of a connection works on the connection's loop. -/
theorem Confined.moved (inv : Confined numThreads server) (known : conn < server.accepted)
    {after : Endpoint Nat} (own : (server.site conn).MakesOwn after) {events : List LifeEvent}
    {connections : String → Option Nat}
    (mapped : ∀ name conn, connections name = some conn → conn < server.accepted) :
    Confined numThreads (server.moved conn after events connections) := by
  refine ⟨inv.threads, inv.round, inv.dealt, ?_, ?_, ?_, ?_, inv.calls, mapped⟩
  · intro loop functor member
    rw [moved_loops] at member
    split at member
    case isTrue same =>
      rw [BatchQueue.waiting, ← List.append_assoc] at member
      rcases List.mem_append.mp member with old | new
      · exact inv.waiting loop functor old
      · cases callbacksOf_eq new
        exact ⟨known, same.symm⟩
    case isFalse => exact inv.waiting loop functor member
  · intro loop event member
    rw [moved_active] at member
    exact inv.active loop event member
  · intro loop other rest handled
    rw [moved_handling] at handled
    exact inv.handling loop other rest handled
  · intro loop fd mask other found
    rw [moved_loops] at found
    split at found
    case isTrue same =>
      rcases own fd mask other found with self | before
      · exact self ▸ ⟨known, same.symm⟩
      · exact same ▸ inv.watched _ fd mask other before
    case isFalse => exact inv.watched loop fd mask other found

theorem Confined.record (inv : Confined numThreads server) (event : LifeEvent) :
    Confined numThreads (server.record conn event) :=
  ⟨inv.threads, inv.round, inv.dealt, inv.waiting, inv.active, inv.handling, inv.watched, inv.calls,
    inv.mapped⟩

theorem Confined.unmap (inv : Confined numThreads server) (name : String) :
    Confined numThreads
      { server with connections := Function.update server.connections name none } := by
  refine ⟨inv.threads, inv.round, inv.dealt, inv.waiting, inv.active, inv.handling, inv.watched,
    inv.calls, fun other conn found => ?_⟩
  by_cases same : other = name
  · subst same
    simp at found
  · exact inv.mapped other conn (by simpa [Function.update_of_ne same] using found)

theorem Confined.removeConnectionInLoop (inv : Confined numThreads server)
    (known : conn < server.accepted) :
    Confined numThreads (server.removeConnectionInLoop conn) :=
  ((inv.unmap (server.conns conn).name).record .removeConnectionInLoop).queueInLoop ⟨known, rfl⟩

theorem Confined.removeConnection (inv : Confined numThreads server)
    (known : conn < server.accepted) :
    Confined numThreads (server.removeConnection conn) := by
  unfold TcpServer.removeConnection
  split
  · exact inv.removeConnectionInLoop known
  · exact inv.queueInLoop ⟨known, rfl⟩

theorem Confined.perform (inv : Confined numThreads server) (known : conn < server.accepted)
    {method : Endpoint Nat → Endpoint Nat}
    (own : ∀ site : Endpoint Nat, site.MakesOwn (method site)) :
    Confined numThreads (server.perform conn method) := by
  by_cases closes : .closeCallback ∈ (method (server.site conn)).effects
  · rw [perform_closed closes]
    exact (inv.moved known (own _) inv.mapped).removeConnection known
  · rw [perform_open closes]
    exact inv.moved known (own _) inv.mapped

theorem Confined.connectEstablished (inv : Confined numThreads server)
    (known : conn < server.accepted) :
    Confined numThreads (server.connectEstablished conn) :=
  (inv.record .connectEstablished).perform known Endpoint.connectEstablished_makesOwn

theorem Confined.connectDestroyed (inv : Confined numThreads server)
    (known : conn < server.accepted) :
    Confined numThreads (server.connectDestroyed conn) :=
  (inv.record .connectDestroyed).perform known Endpoint.connectDestroyed_makesOwn

theorem Confined.handle (inv : Confined numThreads server) (known : conn < server.accepted)
    (handler : Handler) (readAnswer : ReadAnswer) (writeAnswer : WriteAnswer) :
    Confined numThreads (server.handle conn handler readAnswer writeAnswer) := by
  cases handler with
  | close => exact inv.perform known Endpoint.handleClose_makesOwn
  | error => exact (inv.record .handleError).perform known fun _ => .refl _ _
  | read => exact (inv.record .handleRead).perform known fun site => site.handleRead_makesOwn _
  | write => exact (inv.record .handleWrite).perform known fun site => site.handleWrite_makesOwn _

theorem Confined.runFunctor (inv : Confined numThreads server)
    (known : functor.conn < server.accepted) (answer : WriteAnswer) :
    Confined numThreads (server.runFunctor functor answer) := by
  cases functor with
  | connectEstablished conn => exact inv.connectEstablished known
  | removeConnectionInLoop conn => exact inv.removeConnectionInLoop known
  | connectDestroyed conn => exact inv.connectDestroyed known
  | callback conn => exact inv
  | sendInLoop conn data => exact inv.perform known fun site => site.sendInLoop_makesOwn _ _
  | shutdownInLoop conn => exact inv.perform known Endpoint.shutdownInLoop_makesOwn

/-! ## A new connection -/

theorem getNextLoop_dealt (inv : Confined numThreads server) :
    server.getNextLoop.1 = dealtLoop server.numThreads server.accepted := by
  by_cases threads : server.numThreads = 0
  · rw [getNextLoop, if_pos threads, dealtLoop, if_pos threads]
  · rw [getNextLoop, if_neg threads, dealtLoop, if_neg threads, inv.round threads]

theorem succ_mod_eq {count size : Nat} (some_size : size ≠ 0) :
    (if size ≤ count % size + 1 then 0 else count % size + 1) = (count + 1) % size := by
  have below : count % size < size := Nat.mod_lt _ (Nat.pos_of_ne_zero some_size)
  rw [← Nat.mod_add_mod]
  by_cases last : size ≤ count % size + 1
  · have wraps : count % size + 1 = size := by omega
    rw [if_pos last, wraps, Nat.mod_self]
  · rw [if_neg last]
    exact (Nat.mod_eq_of_lt (by omega)).symm

theorem Confined.createConnection (inv : Confined numThreads server) (sockfd : Nat) :
    Confined numThreads (server.createConnection sockfd) := by
  have onLoop {loop conn : Nat} (placed : server.OnLoop loop conn) :
      (server.createConnection sockfd).OnLoop loop conn := by
    refine ⟨Nat.lt_succ_of_lt placed.1, ?_⟩
    rw [createConnection_connLoop_other (Nat.ne_of_lt placed.1)]
    exact placed.2
  refine ⟨inv.threads, fun threads => ?_, fun conn known => ?_, fun loop functor member => ?_,
    fun loop event member => onLoop (inv.active loop event member),
    fun loop conn rest handled => onLoop (inv.handling loop conn rest handled),
    fun loop fd mask conn found => onLoop (inv.watched loop fd mask conn found),
    fun call member => Nat.lt_succ_of_lt (inv.calls call member), fun name conn found => ?_⟩
  · have next : (server.createConnection sockfd).next = server.getNextLoop.2 := rfl
    have some_threads : server.numThreads ≠ 0 := threads
    rw [next, getNextLoop, if_neg some_threads, inv.round some_threads]
    exact succ_mod_eq some_threads
  · by_cases new : conn = server.accepted
    · subst new
      have dealt : (server.createConnection sockfd).connLoop server.accepted =
          server.getNextLoop.1 := Function.update_self _ _ _
      exact dealt.trans (getNextLoop_dealt inv)
    · rw [createConnection_connLoop_other new]
      have below : conn < server.accepted + 1 := known
      exact inv.dealt conn (by omega)
  · obtain ⟨known, at_home⟩ := inv.waiting loop functor member
    refine ⟨Nat.lt_succ_of_lt known, ?_⟩
    have kept := @createConnection_connLoop_other server functor.conn sockfd (Nat.ne_of_lt known)
    cases functor <;> first | exact at_home | exact kept.trans at_home
  · by_cases named : name = connName server.name server.address.toIpPort server.nextConnId
    · have stored : (server.createConnection sockfd).connections name = some server.accepted := by
        rw [named]
        exact Function.update_self _ _ _
      cases stored.symm.trans found
      exact Nat.lt_succ_self _
    · have before : server.connections name = some conn := by
        rw [← found]
        exact (Function.update_of_ne named _ _).symm
      exact Nat.lt_succ_of_lt (inv.mapped name conn before)

theorem Confined.newConnection (inv : Confined numThreads server) (sockfd : Nat) :
    Confined numThreads (server.newConnection sockfd) := by
  have created := inv.createConnection sockfd
  have known : server.accepted < (server.createConnection sockfd).accepted :=
    Nat.lt_succ_self _
  simp only [TcpServer.newConnection]
  split
  · exact created.connectEstablished known
  · exact created.queueInLoop ⟨known, Function.update_self _ _ _⟩

/-! ## Steps -/

theorem Confined.proceed (inv : Confined numThreads server) {index : Nat}
    (moved : UserTransition server index next) : Confined numThreads next := by
  have kept {calls : List (Nat × UserCall × UserPc)} {server : TcpServer}
      (inv : Confined numThreads server) (known : ∀ call ∈ calls, call.1 < server.accepted) :
      Confined numThreads { server with calls := calls } :=
    ⟨inv.threads, inv.round, inv.dealt, inv.waiting, inv.active, inv.handling, inv.watched, known,
      inv.mapped⟩
  have replaced {conn : Nat} {call : UserCall} {before after : UserPc}
      (found : server.calls[index]? = some (conn, call, before)) :
      ∀ entry ∈ server.calls.set index (conn, call, after), entry.1 < server.accepted := by
    intro entry member
    rcases List.mem_or_eq_of_mem_set member with old | rfl
    · exact inv.calls entry old
    · exact inv.calls (conn, call, before) (List.mem_of_getElem? found)
  cases moved with
  | load found => exact kept inv (replaced found)
  | @store conn found =>
      have stored : Confined numThreads { server with
          conns := Function.update server.conns conn
            { server.conns conn with state := .kDisconnecting } } :=
        ⟨inv.threads, inv.round, inv.dealt, inv.waiting, inv.active, inv.handling, inv.watched,
          inv.calls, inv.mapped⟩
      exact kept stored (replaced found)
  | @queue conn call pc found =>
      have known : conn < server.accepted := inv.calls _ (List.mem_of_getElem? found)
      refine kept (inv.queueInLoop ?_) (replaced found)
      cases call <;> exact ⟨known, rfl⟩
  | leave found =>
      exact kept inv fun entry member => inv.calls entry (List.mem_of_mem_eraseIdx member)

theorem Confined.step (inv : Confined numThreads server)
    (taken : machine.step server label = some next) :
    Confined numThreads next := by
  cases step_transition taken with
  | accept => exact inv.newConnection _
  | @poll loop events _ _ reported =>
      refine inv.setLoop (inv.waiting loop) (fun event member => ?_) (inv.handling loop)
        (inv.watched loop)
      have own := reported.2 event member
      cases found : (server.loops loop).poller.interest (server.fd event.1) with
      | none => simp [found] at own
      | some entry =>
          have pointer : entry.2 = event.1 := by simpa [found] using own
          exact pointer ▸ inv.watched loop _ entry.1 entry.2 found
  | @skip loop conn revents rest _ _ active =>
      exact inv.setLoop (inv.waiting loop)
        (fun event member => inv.active loop event (active ▸ List.mem_cons_of_mem _ member))
        (inv.handling loop) (inv.watched loop)
  | @handleEvent loop conn revents rest _ _ active =>
      refine inv.setLoop (inv.waiting loop)
        (fun event member => inv.active loop event (active ▸ List.mem_cons_of_mem _ member))
        (fun other rest handled => ?_) (inv.watched loop)
      cases handled
      exact inv.active loop (conn, revents) (active ▸ List.mem_cons_self)
  | @handler loop conn handler rest _ _ _ _ handling =>
      have placed := inv.handling loop conn _ handling
      have resumed : Confined numThreads
          (server.setLoop loop { server.loops loop with handling := some (conn, rest) }) := by
        refine inv.setLoop (inv.waiting loop) (inv.active loop) (fun other rest handled => ?_)
          (inv.watched loop)
        cases handled
        exact placed
      exact resumed.handle placed.1 handler _ _
  | @handled loop =>
      exact inv.setLoop (inv.waiting loop) (inv.active loop) (fun _ _ handled => by cases handled)
        (inv.watched loop)
  | @swap loop =>
      refine inv.setLoop (fun functor member => inv.waiting loop functor ?_) (inv.active loop)
        (inv.handling loop) (inv.watched loop)
      exact List.mem_append_right _ (by simpa [BatchQueue.swap, BatchQueue.waiting] using member)
  | @runFunctor loop answer functor rest _ _ item =>
      have waiting := BatchQueue.next?_waiting item
      have here := inv.waiting loop functor (waiting ▸ List.mem_cons_self)
      have taken : Confined numThreads
          (server.setLoop loop { server.loops loop with queue := rest }) :=
        inv.setLoop
          (fun other member => inv.waiting loop other (waiting ▸ List.mem_cons_of_mem _ member))
          (inv.active loop) (inv.handling loop) (inv.watched loop)
      exact taken.runFunctor here.1 answer
  | @finish loop =>
      exact inv.setLoop (inv.waiting loop) (inv.active loop) (inv.handling loop) (inv.watched loop)
  | userCode known user => exact inv.perform known (Endpoint.connectionMethod_makesOwn user)
  | @call conn call known =>
      refine ⟨inv.threads, inv.round, inv.dealt, inv.waiting, inv.active, inv.handling, inv.watched,
        fun entry member => ?_, inv.mapped⟩
      rcases List.mem_append.mp member with old | new
      · exact inv.calls entry old
      · cases List.mem_singleton.mp new
        exact known
  | proceed moved => exact inv.proceed moved
  | destroy =>
      exact ⟨inv.threads, inv.round, inv.dealt, inv.waiting, inv.active, inv.handling, inv.watched,
        inv.calls, inv.mapped⟩
  | @destroyNext conn _ known =>
      unfold TcpServer.destroyNext
      dsimp only
      split
      · exact (inv.unmap _).connectDestroyed known
      · exact (inv.unmap _).queueInLoop ⟨known, rfl⟩
  | joinThreads =>
      refine ⟨inv.threads, inv.round, inv.dealt, fun loop functor member => ?_,
        fun loop event member => ?_, fun loop conn rest handled => ?_,
        fun loop fd mask conn found => ?_, inv.calls, inv.mapped⟩
      all_goals simp only [TcpServer.joinThreads] at *
      · split at member
        case isTrue same => exact same ▸ inv.waiting 0 functor member
        case isFalse => cases member
      · split at member
        case isTrue same => exact same ▸ inv.active 0 event member
        case isFalse => exact inv.active loop event member
      · split at handled
        case isTrue same => exact same ▸ inv.handling 0 conn rest handled
        case isFalse => exact inv.handling loop conn rest handled
      · split at found
        case isTrue same => exact same ▸ inv.watched 0 fd mask conn found
        case isFalse => exact inv.watched loop fd mask conn found

theorem confined_init (name : String) (address : InetAddress) (numThreads : Nat)
    (callback : Bool) : Confined numThreads (init name address numThreads callback) where
  threads := rfl
  round _ := (Nat.zero_mod _).symm
  dealt conn known := absurd known (Nat.not_lt_zero conn)
  waiting _ functor member := by cases member
  active _ event member := by cases member
  handling _ _ _ handled := by cases handled
  watched _ _ _ _ found := by cases found
  calls call member := by cases member
  mapped _ _ found := by cases found

theorem Confined.run {name : String} {address : InetAddress} {callback : Bool}
    {labels : List ServerLabel} {final : TcpServer}
    (run : machine.Runs Machine.anyStep (init name address numThreads callback) labels final) :
    Confined numThreads final :=
  run.invariant (Confined numThreads) (fun _ _ _ _ taken inv => inv.step taken)
    (confined_init name address numThreads callback)

theorem AtHome.cases (placed : server.AtHome loop functor) :
    server.connLoop functor.conn = loop ∨
      loop = 0 ∧ functor = .removeConnectionInLoop functor.conn := by
  obtain ⟨_, at_home⟩ := placed
  cases functor with
  | removeConnectionInLoop => exact .inr ⟨at_home.symm, rfl⟩
  | connectEstablished | connectDestroyed | callback | sendInLoop | shutdownInLoop =>
      exact .inl at_home

/-- A server with two I/O loops that accepts three connections. -/
def acceptThree : List ServerLabel := [.poll 0 [], .accept 5, .accept 6, .accept 7]

theorem acceptThree_run : ∃ final,
    machine.Runs Machine.anyStep (init "s" ⟨(0, 0, 0, 0), 80⟩ 2 false) acceptThree final ∧
      final.accepted = 3 :=
  ⟨_, .cons trivial rfl <| .cons trivial rfl <| .cons trivial rfl <| .cons trivial rfl .nil, rfl⟩

/-- In every run, each of the I/O loops has been given its share of the connections: no loop has
two more than another. -/
theorem connections_balanced {name : String} {address : InetAddress} {callback : Bool}
    {labels : List ServerLabel} {final : TcpServer}
    (run : machine.Runs Machine.anyStep (init name address numThreads callback) labels final)
    (some_loop : loop < numThreads) :
    Nat.count (fun conn => final.connLoop conn = loop + 1) final.accepted =
      final.accepted / numThreads + if loop < final.accepted % numThreads then 1 else 0 := by
  have inv := Confined.run run
  have share := Nat.count_modEq_card final.accepted (Nat.zero_lt_of_lt some_loop) loop
  rw [Nat.mod_eq_of_lt some_loop] at share
  rw [← share, Nat.count_eq_card_filter_range, Nat.count_eq_card_filter_range]
  refine congrArg Finset.card (Finset.filter_congr fun conn member => ?_)
  have dealt := inv.dealt conn (Finset.mem_range.mp member)
  rw [inv.threads, dealtLoop, if_neg (Nat.ne_of_gt (Nat.zero_lt_of_lt some_loop))] at dealt
  rw [dealt, Nat.ModEq, Nat.mod_eq_of_lt some_loop, Nat.add_right_cancel_iff]

theorem connections_balanced_three : ∃ final,
    machine.Runs Machine.anyStep (init "s" ⟨(0, 0, 0, 0), 80⟩ 2 false) acceptThree final ∧
      Nat.count (fun conn => final.connLoop conn = 0 + 1) final.accepted = 2 := by
  obtain ⟨final, run, accepted⟩ := acceptThree_run
  refine ⟨final, run, (connections_balanced run (by decide)).trans ?_⟩
  rw [accepted]
  rfl

end TcpServer

end TalkSystem.Net
