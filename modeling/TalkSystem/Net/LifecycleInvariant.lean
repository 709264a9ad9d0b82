import TalkSystem.Net.TcpServerProperties

/-!
# Every connection of a server has an orderly life

The invariant ties the automaton of a connection's life to the server: which
functor is due for it and in which queue, whether the map holds it, what the
poller and the kernel know of its channel, and which callbacks may still be
made for it. A step that works on one connection moves that connection on and
leaves the others alone; this is proved once, and each transition is a case.

Between the parts of a step a functor may be in nobody's queue, because the
loop thread has just taken it or is just about to run or queue it. It is then
*in hand*.
-/

set_option autoImplicit false

namespace TalkSystem.Net

open Endpoint

namespace LifeStage

/-- `connections_` holds the connection. -/
def mapped : LifeStage → Bool
  | .connecting | .up | .closing => true
  | _ => false

def registered : LifeStage → Bool
  | .up | .closing | .removed => true
  | _ => false

end LifeStage

def Handler.mayClose : Handler → Bool
  | .close | .read => true
  | _ => false

/-- What the connection and its poller look like in a stage. -/
def Shape (conn : Nat) (tcp : TcpConnection) (poller : EPollPoller Nat) : LifeStage → Prop
  | .connecting => tcp.state = .kConnecting ∧ tcp.channel = Channel.new tcp.channel.fd ∧
      tcp.outputBuffer.readable = []
  | .up => Live ⟨conn, tcp, poller, []⟩ ∧
      (tcp.state = .kConnected ∨ tcp.state = .kDisconnecting)
  | .closing | .removed => tcp.state = .kDisconnected ∧ tcp.channel.index = .kDeleted ∧
      tcp.channel.isWriting = false
  | .destroyed => tcp.state = .kDisconnected

def MayHandle : LifeStage → List Handler → Prop
  | .up, rest => rest.countP Handler.mayClose ≤ 1
  | .closing, rest | .removed, rest => rest.countP Handler.mayClose = 0
  | _, _ => False

theorem MayHandle.tail {stage : LifeStage} {handler : Handler} {rest : List Handler}
    (may : MayHandle stage (handler :: rest)) : MayHandle stage rest := by
  have fewer : rest.countP Handler.mayClose ≤ (handler :: rest).countP Handler.mayClose :=
    (List.sublist_cons_self handler rest).countP_le
  cases stage <;> simp only [MayHandle] at may ⊢ <;> omega

theorem Shape.congr {conn : Nat} {tcp : TcpConnection} {before after : EPollPoller Nat}
    {stage : LifeStage} (shape : Shape conn tcp before stage)
    (interest : after.interest tcp.channel.fd = before.interest tcp.channel.fd)
    (channels : after.channels tcp.channel.fd = before.channels tcp.channel.fd) :
    Shape conn tcp after stage := by
  cases stage with
  | up =>
      obtain ⟨live, state⟩ := shape
      refine ⟨⟨⟨live.watched.index, ?_, ?_⟩, live.reading, live.writing_iff⟩, state⟩
      · exact interest.trans live.watched.stored
      · exact channels.trans live.watched.known
  | connecting | closing | removed | destroyed => exact shape

namespace TcpServer

variable {server next : TcpServer} {label : ServerLabel} {stage : Nat → LifeStage}

def eventsOf (server : TcpServer) (conn : Nat) : List LifeEvent :=
  server.history.filterMap fun entry => if entry.1 = conn then some entry.2 else none

/-- The functor that has to come next for a connection, and its loop. -/
def dutyOf (server : TcpServer) (conn : Nat) : LifeStage → Option (Nat × ServerFunctor)
  | .connecting => some (server.connLoop conn, .connectEstablished conn)
  | .closing => some (0, .removeConnectionInLoop conn)
  | .removed => some (server.connLoop conn, .connectDestroyed conn)
  | _ => none

def inHand (hand : Option (Nat × ServerFunctor)) (loop : Nat) (functor : ServerFunctor) : Nat :=
  if hand = some (loop, functor) then 1 else 0

/-- How often a functor has to be waiting at a loop, or in hand. -/
def dueCount (server : TcpServer) (stage : Nat → LifeStage) (loop : Nat)
    (functor : ServerFunctor) : Nat :=
  if functor.conn < server.accepted then
    inHand (server.dutyOf functor.conn (stage functor.conn)) loop functor
  else
    0

structure Dispatch (accepted : Nat) (connLoop : Nat → Nat) (stage : Nat → LifeStage)
    (loop : Nat) (thread : LoopThread) : Prop where
  active : ∀ event ∈ thread.active, event.1 < accepted ∧ connLoop event.1 = loop ∧
    stage event.1 = .up ∧ (handleEventWithGuard event.2).countP Handler.mayClose ≤ 1
  distinct : (thread.active.map Prod.fst).Nodup
  handling : ∀ conn rest, thread.handling = some (conn, rest) → conn < accepted ∧
    connLoop conn = loop ∧ conn ∉ thread.active.map Prod.fst ∧ MayHandle (stage conn) rest
  outside : thread.phase ≠ .dispatching → thread.active = [] ∧ thread.handling = none
  batch : thread.phase ≠ .calling → thread.queue.running = []

structure Registry (server : TcpServer) : Prop where
  bounded : server.accepted < 2 ^ 31
  counter : server.accepted + 1 < 2 ^ 31 → server.nextConnId = (server.accepted + 1 : Nat)
  named : ∀ conn < server.accepted, (server.conns conn).name =
    connName server.name server.address.toIpPort (conn + 1 : Nat)
  loop_le : ∀ conn < server.accepted, server.connLoop conn ≤ server.numThreads
  next_lt : server.numThreads ≠ 0 → server.next < server.numThreads

structure LifeInv (server : TcpServer) (stage : Nat → LifeStage)
    (hand : Option (Nat × ServerFunctor)) : Prop where
  registry : Registry server
  traced : ∀ conn < server.accepted,
    LifeStage.connecting.run (server.eventsOf conn) = some (stage conn)
  recorded : ∀ entry ∈ server.history, entry.1 < server.accepted
  shape : ∀ conn < server.accepted, Shape conn (server.conns conn)
    (server.loops (server.connLoop conn)).poller (stage conn)
  mapped : ∀ name conn, server.connections name = some conn ↔
    conn < server.accepted ∧ (server.conns conn).name = name ∧ (stage conn).mapped = true
  duties : ∀ loop functor, functor.isCallback = false →
    (server.loops loop).queue.waiting.count functor + inHand hand loop functor =
      server.dueCount stage loop functor
  dispatch : ∀ loop,
    Dispatch server.accepted server.connLoop stage loop (server.loops loop)
  fds : ∀ left < server.accepted, ∀ right < server.accepted, stage left ≠ .destroyed →
    stage right ≠ .destroyed → server.fd left = server.fd right → left = right
  channels : ∀ loop fd conn, (server.loops loop).poller.channels fd = some conn →
    conn < server.accepted ∧ server.connLoop conn = loop ∧ server.fd conn = fd ∧
      (stage conn).registered = true
  interest : ∀ loop fd mask conn, (server.loops loop).poller.interest fd = some (mask, conn) →
    conn < server.accepted ∧ server.connLoop conn = loop ∧ server.fd conn = fd ∧
      stage conn = .up

/-! ## A step that works on one connection -/

variable {conn : Nat} {after : Endpoint Nat} {events : List LifeEvent}
  {connections : String → Option Nat} {hand hand' : Option (Nat × ServerFunctor)}
  {final : LifeStage}

/-- What a method did to its connection and to the poller, as far as the
invariant is concerned. -/
structure Moves (server : TcpServer) (stage : Nat → LifeStage) (conn : Nat)
    (after : Endpoint Nat) (final : LifeStage) : Prop where
  name : after.conn.name = (server.conns conn).name
  fd : after.conn.channel.fd = server.fd conn
  agree : AgreeExcept (server.fd conn) (server.loops (server.connLoop conn)).poller after.poller
  shape : Shape conn after.conn after.poller final
  untouched : stage conn = .destroyed →
    after.poller = (server.loops (server.connLoop conn)).poller
  channels : ∀ other, after.poller.channels (server.fd conn) = some other →
    (other = conn ∧ final.registered = true) ∨
      (other ≠ conn ∧
        (server.loops (server.connLoop conn)).poller.channels (server.fd conn) = some other)
  interest : ∀ mask other, after.poller.interest (server.fd conn) = some (mask, other) →
    (other = conn ∧ final = .up) ∨
      (other ≠ conn ∧ (server.loops (server.connLoop conn)).poller.interest (server.fd conn) =
        some (mask, other))

theorem moved_name (moves : Moves server stage conn after final) (other : Nat) :
    ((server.moved conn after events connections).conns other).name =
      (server.conns other).name := by
  by_cases same : other = conn
  · subst same
    rw [moved_conns_same, moves.name]
  · rw [moved_conns_other same]

theorem moved_fd (moves : Moves server stage conn after final) (other : Nat) :
    (server.moved conn after events connections).fd other = server.fd other := by
  by_cases same : other = conn
  · subst same
    rw [fd, moved_conns_same, moves.fd]
  · rw [fd, moved_conns_other same, fd]

theorem moved_eventsOf_same :
    (server.moved conn after events connections).eventsOf conn =
      server.eventsOf conn ++ events := by
  simp [moved, eventsOf]

theorem moved_eventsOf_other {other : Nat} (different : other ≠ conn) :
    (server.moved conn after events connections).eventsOf other = server.eventsOf other := by
  simp [moved, eventsOf, Ne.symm different]

theorem Moves.poller_other (moves : Moves server stage conn after final)
    (inv : LifeInv server stage hand) (known : conn < server.accepted) {other : Nat}
    (different : other ≠ conn) (other_known : other < server.accepted)
    (alive : stage other ≠ .destroyed) :
    let poller := ((server.moved conn after events connections).loops
      (server.connLoop other)).poller
    poller.interest (server.fd other) =
        (server.loops (server.connLoop other)).poller.interest (server.fd other) ∧
      poller.channels (server.fd other) =
        (server.loops (server.connLoop other)).poller.channels (server.fd other) := by
  by_cases loops : server.connLoop other = server.connLoop conn
  · dsimp only
    rw [loops, moved_poller_same]
    by_cases gone : stage conn = .destroyed
    · rw [moves.untouched gone]
      exact ⟨rfl, rfl⟩
    · have fds : server.fd other ≠ server.fd conn := fun same =>
        different (inv.fds other other_known conn known alive gone same)
      exact ⟨moves.agree.interest _ fds, moves.agree.channels _ fds⟩
  · dsimp only
    rw [moved_poller_other loops]
    exact ⟨rfl, rfl⟩

theorem dutyOf_conn {loop : Nat} {functor : ServerFunctor}
    (duty : server.dutyOf conn final = some (loop, functor)) : functor.conn = conn := by
  cases final <;> simp only [dutyOf, Option.some.injEq, Prod.mk.injEq, reduceCtorEq] at duty <;>
    rw [← duty.2] <;> rfl

/-- A connection that moves on trades one duty for another. -/
theorem dueCount_update (known : conn < server.accepted) (loop : Nat) (functor : ServerFunctor) :
    server.dueCount (Function.update stage conn final) loop functor +
        inHand (server.dutyOf conn (stage conn)) loop functor =
      server.dueCount stage loop functor + inHand (server.dutyOf conn final) loop functor := by
  by_cases own : functor.conn = conn
  · simp only [dueCount, own, known, if_true, Function.update_self]
    exact Nat.add_comm _ _
  · have elsewhere (at_stage : LifeStage) :
        inHand (server.dutyOf conn at_stage) loop functor = 0 :=
      if_neg fun duty => own (dutyOf_conn duty)
    rw [elsewhere, elsewhere, dueCount, dueCount, Function.update_of_ne own]

/-- Away from the descriptor of the connection its loop's poller is what it was. -/
theorem Moves.agree_elsewhere (moves : Moves server stage conn after final) {loop fd : Nat}
    (away : ¬ (loop = server.connLoop conn ∧ fd = server.fd conn)) :
    let poller := ((server.moved conn after events connections).loops loop).poller
    poller.channels fd = (server.loops loop).poller.channels fd ∧
      poller.interest fd = (server.loops loop).poller.interest fd := by
  dsimp only
  by_cases own_loop : loop = server.connLoop conn
  · subst own_loop
    have own_fd : fd ≠ server.fd conn := fun same => away ⟨rfl, same⟩
    rw [moved_poller_same]
    exact ⟨moves.agree.channels fd own_fd, moves.agree.interest fd own_fd⟩
  · rw [moved_poller_other own_loop]
    exact ⟨rfl, rfl⟩

theorem LifeInv.channels_moved (inv : LifeInv server stage hand) (known : conn < server.accepted)
    (moves : Moves server stage conn after final) {loop fd other : Nat}
    (found : ((server.moved conn after events connections).loops loop).poller.channels fd =
      some other) :
    other < server.accepted ∧ server.connLoop other = loop ∧ server.fd other = fd ∧
      (Function.update stage conn final other).registered = true := by
  by_cases here : loop = server.connLoop conn ∧ fd = server.fd conn
  · obtain ⟨rfl, rfl⟩ := here
    rw [moved_poller_same] at found
    rcases moves.channels other found with ⟨rfl, registered⟩ | ⟨different, before⟩
    · exact ⟨known, rfl, rfl, by rw [Function.update_self]; exact registered⟩
    · rw [Function.update_of_ne different]
      exact inv.channels _ _ other before
  · rw [(moves.agree_elsewhere here).1] at found
    obtain ⟨other_known, own_loop, own_fd, registered⟩ := inv.channels loop fd other found
    have different : other ≠ conn := by
      rintro rfl
      exact here ⟨own_loop.symm, own_fd.symm⟩
    exact ⟨other_known, own_loop, own_fd, by rw [Function.update_of_ne different]; exact registered⟩

theorem LifeInv.interest_moved (inv : LifeInv server stage hand) (known : conn < server.accepted)
    (moves : Moves server stage conn after final) {loop fd other : Nat} {mask : Events}
    (found : ((server.moved conn after events connections).loops loop).poller.interest fd =
      some (mask, other)) :
    other < server.accepted ∧ server.connLoop other = loop ∧ server.fd other = fd ∧
      Function.update stage conn final other = .up := by
  by_cases here : loop = server.connLoop conn ∧ fd = server.fd conn
  · obtain ⟨rfl, rfl⟩ := here
    rw [moved_poller_same] at found
    rcases moves.interest mask other found with ⟨rfl, up⟩ | ⟨different, before⟩
    · exact ⟨known, rfl, rfl, by rw [Function.update_self]; exact up⟩
    · rw [Function.update_of_ne different]
      exact inv.interest _ _ mask other before
  · rw [(moves.agree_elsewhere here).2] at found
    obtain ⟨other_known, own_loop, own_fd, up⟩ := inv.interest loop fd mask other found
    have different : other ≠ conn := by
      rintro rfl
      exact here ⟨own_loop.symm, own_fd.symm⟩
    exact ⟨other_known, own_loop, own_fd, by rw [Function.update_of_ne different]; exact up⟩

theorem Dispatch.moved {loop : Nat}
    (dispatch : Dispatch server.accepted server.connLoop stage loop (server.loops loop))
    (active : conn ∈ (server.loops (server.connLoop conn)).active.map Prod.fst → final = .up)
    (handling : ∀ rest, (server.loops (server.connLoop conn)).handling = some (conn, rest) →
      MayHandle final rest) :
    Dispatch server.accepted server.connLoop (Function.update stage conn final) loop
      ((server.moved conn after events connections).loops loop) where
  active event member := by
    rw [moved_active] at member
    obtain ⟨event_known, own_loop, up, once⟩ := dispatch.active event member
    refine ⟨event_known, own_loop, ?_, once⟩
    by_cases same : event.1 = conn
    · rw [same, Function.update_self]
      rw [same] at own_loop
      subst own_loop
      exact active (List.mem_map.mpr ⟨event, member, same⟩)
    · rw [Function.update_of_ne same]
      exact up
  distinct := by
    rw [moved_active]
    exact dispatch.distinct
  handling other rest shape := by
    rw [moved_handling] at shape
    obtain ⟨other_known, own_loop, apart, may⟩ := dispatch.handling other rest shape
    refine ⟨other_known, own_loop, by rw [moved_active]; exact apart, ?_⟩
    by_cases same : other = conn
    · subst same
      rw [Function.update_self]
      subst own_loop
      exact handling rest shape
    · rw [Function.update_of_ne same]
      exact may
  outside := by
    rw [moved_phase, moved_active, moved_handling]
    exact dispatch.outside
  batch := by
    rw [moved_phase, moved_running]
    exact dispatch.batch

/-- One connection moves on, the others stay as they are. -/
theorem LifeInv.move (inv : LifeInv server stage hand) (known : conn < server.accepted)
    (moves : Moves server stage conn after final)
    (run : (stage conn).run events = some final)
    (map : ∀ name other, connections name = some other ↔
      (other = conn ∧ (server.conns conn).name = name ∧ final.mapped = true) ∨
        (other ≠ conn ∧ server.connections name = some other))
    (hands : (hand = server.dutyOf conn (stage conn) ∧ hand' = server.dutyOf conn final) ∨
      (stage conn = final ∧ hand' = hand))
    (gone : stage conn = .destroyed → final = .destroyed)
    (active : conn ∈ (server.loops (server.connLoop conn)).active.map Prod.fst → final = .up)
    (handling : ∀ rest, (server.loops (server.connLoop conn)).handling = some (conn, rest) →
      MayHandle final rest) :
    LifeInv (server.moved conn after events connections) (Function.update stage conn final)
      hand' where
  registry :=
    { bounded := inv.registry.bounded
      counter := inv.registry.counter
      named := fun other other_known =>
        (moved_name moves other).trans (inv.registry.named other other_known)
      loop_le := inv.registry.loop_le
      next_lt := inv.registry.next_lt }
  traced other other_known := by
    by_cases same : other = conn
    · subst same
      rw [moved_eventsOf_same, LifeStage.run_append, inv.traced other other_known,
        Function.update_self]
      exact run
    · rw [moved_eventsOf_other same, Function.update_of_ne same]
      exact inv.traced other other_known
  recorded entry member := by
    rcases List.mem_append.mp member with old | new
    · exact inv.recorded entry old
    · obtain ⟨event, _, rfl⟩ := List.mem_map.mp new
      exact known
  shape other other_known := by
    by_cases same : other = conn
    · subst same
      rw [moved_conns_same, Function.update_self]
      change Shape other after.conn
        ((server.moved other after events connections).loops (server.connLoop other)).poller final
      rw [moved_poller_same]
      exact moves.shape
    · rw [moved_conns_other same, Function.update_of_ne same]
      have shape := inv.shape other other_known
      by_cases alive : stage other = .destroyed
      · rw [alive] at shape ⊢
        exact shape
      · obtain ⟨interest, channels⟩ := moves.poller_other inv known same other_known alive
        exact shape.congr interest channels
  mapped name other := by
    rw [moved_name moves other]
    change connections name = some other ↔ other < server.accepted ∧ _
    rw [map]
    by_cases same : other = conn
    · subst same
      simp [known]
    · simp [same, inv.mapped]
  duties loop functor named := by
    have before := inv.duties loop functor named
    rw [moved_waiting loop named]
    change _ = server.dueCount (Function.update stage conn final) loop functor
    rcases hands with ⟨rfl, rfl⟩ | ⟨rfl, rfl⟩
    · have traded := @dueCount_update server stage conn final known loop functor
      omega
    · rw [Function.update_eq_self]
      exact before
  dispatch loop := (inv.dispatch loop).moved active handling
  fds left left_known right right_known left_alive right_alive same := by
    have alive {other : Nat} (still : Function.update stage conn final other ≠ .destroyed) :
        stage other ≠ .destroyed := by
      by_cases same : other = conn
      · subst same
        rw [Function.update_self] at still
        exact fun destroyed => still (gone destroyed)
      · rwa [Function.update_of_ne same] at still
    rw [moved_fd moves, moved_fd moves] at same
    exact inv.fds left left_known right right_known (alive left_alive) (alive right_alive) same
  channels loop fd other found := by
    rw [moved_fd moves]
    exact inv.channels_moved known moves found
  interest loop fd mask other found := by
    rw [moved_fd moves]
    exact inv.interest_moved known moves found

theorem LifeInv.setLoop (inv : LifeInv server stage hand) {loop : Nat} {thread : LoopThread}
    (poller : thread.poller = (server.loops loop).poller)
    (counts : ∀ functor, functor.isCallback = false →
      thread.queue.waiting.count functor + inHand hand' loop functor =
        (server.loops loop).queue.waiting.count functor + inHand hand loop functor)
    (hands : ∀ other ≠ loop, ∀ functor, inHand hand' other functor = inHand hand other functor)
    (dispatch : Dispatch server.accepted server.connLoop stage loop thread) :
    LifeInv (server.setLoop loop thread) stage hand' := by
  have same_poller (other : Nat) :
      ((server.setLoop loop thread).loops other).poller = (server.loops other).poller := by
    by_cases same : other = loop
    · subst same
      rw [setLoop_same, poller]
    · rw [setLoop_other same]
  refine
    { registry := ⟨inv.registry.bounded, inv.registry.counter, inv.registry.named,
        inv.registry.loop_le, inv.registry.next_lt⟩
      traced := inv.traced
      recorded := inv.recorded
      shape := ?_
      mapped := inv.mapped
      duties := ?_
      dispatch := ?_
      fds := inv.fds
      channels := ?_
      interest := ?_ }
  · intro conn known
    rw [same_poller]
    exact inv.shape conn known
  · intro other functor named
    have before := inv.duties other functor named
    by_cases same : other = loop
    · subst same
      have counted := counts functor named
      rw [setLoop_same]
      change _ = server.dueCount stage other functor
      omega
    · have held := hands other same functor
      rw [setLoop_other same]
      change _ = server.dueCount stage other functor
      omega
  · intro other
    by_cases same : other = loop
    · subst same
      rw [setLoop_same]
      exact dispatch
    · rw [setLoop_other same]
      exact inv.dispatch other
  · intro other fd conn
    rw [same_poller]
    exact inv.channels other fd conn
  · intro other fd mask conn
    rw [same_poller]
    exact inv.interest other fd mask conn

theorem LifeInv.queueInLoop {loop : Nat} {functor : ServerFunctor}
    (inv : LifeInv server stage (some (loop, functor))) :
    LifeInv (server.queueInLoop loop functor) stage none := by
  have dispatch := inv.dispatch loop
  refine inv.setLoop rfl ?_ ?_
    ⟨dispatch.active, dispatch.distinct, dispatch.handling, dispatch.outside, dispatch.batch⟩
  · intro other named
    simp only [BatchQueue.push_waiting, List.count_append, inHand]
    by_cases same : functor = other
    · subst same
      simp
    · simp [same]
  · intro other different other_functor
    simp [inHand, Ne.symm different]

end TcpServer

end TalkSystem.Net
