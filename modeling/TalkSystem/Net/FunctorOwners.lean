import TalkSystem.Net.TcpServerProperties

/-!
# Queued functors and the objects they are bound to

`sendInLoop` and `shutdownInLoop` are queued with a raw connection, and
`removeConnectionInLoop` with the raw server. Nothing in the queue keeps these
objects, so a functor is safe only if somebody else keeps its object until the
functor has run. The server does so for a connection as long as it is in the
map, through the removal that is queued on the base loop, and through the
`connectDestroyed` that follows the functor into its batch.
-/

set_option autoImplicit false

namespace TalkSystem.Net

open Endpoint

/-- A functor of the list is bound to a `TcpConnectionPtr` of the connection. -/
def Keeps (functors : List ServerFunctor) (conn : Nat) : Prop :=
  ∃ functor ∈ functors, functor.owns = true ∧ functor.conn = conn

/-- A functor of the list is bound to the raw connection. -/
def Awaits (functors : List ServerFunctor) (conn : Nat) : Prop :=
  ∃ functor ∈ functors, functor.owns = false ∧ functor.conn = conn

theorem Keeps.append_left {functors : List ServerFunctor} {conn : Nat}
    (keeps : Keeps functors conn) (more : List ServerFunctor) : Keeps (functors ++ more) conn := by
  obtain ⟨functor, member, owner⟩ := keeps
  exact ⟨functor, List.mem_append_left _ member, owner⟩

def Handler.closes (readAnswer : ReadAnswer) : Handler → Bool
  | .close => true
  | .read => readAnswer == .yields []
  | _ => false

def UserPc.queues (call : UserCall) : UserPc → Bool
  | .stored => true
  | .loaded => call != .shutdown
  | _ => false

namespace TcpServer

variable {server next : TcpServer} {label : ServerLabel} {conn : Nat}
  {hand : Option Nat}

def targetExists (server : TcpServer) : ServerFunctor → Bool
  | .sendInLoop conn _ | .shutdownInLoop conn => server.owned conn
  | .removeConnectionInLoop _ => server.life == .alive
  | _ => true

/-- Somebody holds the connection until every functor that is queued on its
loop by now has run. -/
def Lasting (server : TcpServer) (conn : Nat) : Prop :=
  server.heldByMap conn = true ∨
    .removeConnectionInLoop conn ∈ (server.loops 0).queue.waiting ∨
    Keeps (server.loops (server.connLoop conn)).queue.pending conn

/-- When a step respects the raw pointers. A name is given once; `send` and
`shutdown` queue only while the connection has a lasting owner; the destructor
starts when no removal is queued, and none is queued afterwards; and it takes a
connection of the base loop out of the map only when no raw functor that waits
there depends on it. -/
def TargetStep (server : TcpServer) : ServerLabel → Prop
  | .accept _ => ∀ conn < server.accepted,
      (server.conns conn).name ≠ connName server.name server.address.toIpPort server.nextConnId
  | .handler loop readAnswer _ => server.life = .alive ∨
      ∀ conn handler rest, (server.loops loop).handling = some (conn, handler :: rest) →
        handler.closes readAnswer = true → server.connLoop conn = 0
  | .proceed index => ∀ conn call pc, server.calls[index]? = some (conn, call, pc) →
      pc.queues call = true → server.Lasting conn
  | .destroy => ∀ conn, .removeConnectionInLoop conn ∉ (server.loops 0).queue.waiting
  | .destroyNext conn => server.connLoop conn = 0 →
      (Awaits (server.loops 0).queue.pending conn → Keeps (server.loops 0).queue.pending conn) ∧
      (Awaits (server.loops 0).queue.running conn → Keeps (server.loops 0).queue.held conn)
  | _ => True

/-- The invariant. A connection in `hand` is one whose owner the loop thread is
just replacing. -/
structure TargetInv (server : TcpServer) (hand : Option Nat) : Prop where
  names : ∀ left, ∀ right < server.accepted,
    (server.conns left).name = (server.conns right).name → left = right
  unnamed : ∀ conn, server.accepted ≤ conn → (server.conns conn).name = ""
  loop_le : ∀ conn < server.accepted, server.connLoop conn ≤ server.numThreads
  next_lt : server.numThreads ≠ 0 → server.next < server.numThreads
  callers : ∀ call ∈ server.calls, call.1 < server.accepted
  homes : ∀ loop, ∀ functor ∈ (server.loops loop).queue.waiting, functor.owns = false →
    functor.conn < server.accepted ∧ server.connLoop functor.conn = loop
  removals : ∀ loop conn, .removeConnectionInLoop conn ∈ (server.loops loop).queue.waiting →
    loop = 0 ∧ server.life = .alive
  batch : ∀ loop, (server.loops loop).phase ≠ .calling → (server.loops loop).queue.running = []
  pending : ∀ loop, ∀ functor ∈ (server.loops loop).queue.pending, functor.owns = false →
    server.Lasting functor.conn ∨ hand = some functor.conn
  running : ∀ loop, ∀ functor ∈ (server.loops loop).queue.running, functor.owns = false →
    (server.Lasting functor.conn ∨ hand = some functor.conn) ∨
      Keeps (server.loops loop).queue.batch functor.conn

/-! ## Steps that only add owners -/

/-- Nothing that the invariant speaks of changes, except that owners are
queued. -/
structure Adds (server next : TcpServer) : Prop where
  accepted : next.accepted = server.accepted
  numThreads : next.numThreads = server.numThreads
  round : next.next = server.next
  connLoop : next.connLoop = server.connLoop
  connections : next.connections = server.connections
  calls : next.calls = server.calls
  life : next.life = server.life
  names : ∀ conn, (next.conns conn).name = (server.conns conn).name
  phase : ∀ loop, (next.loops loop).phase ≠ .calling → (server.loops loop).phase ≠ .calling
  running : ∀ loop, (next.loops loop).queue.running = (server.loops loop).queue.running
  batch : ∀ loop, (next.loops loop).queue.batch = (server.loops loop).queue.batch
  pending : ∀ loop, ∃ added,
    (next.loops loop).queue.pending = (server.loops loop).queue.pending ++ added ∧
    ∀ functor ∈ added, functor.owns = true ∧
      ∀ conn, functor = .removeConnectionInLoop conn → loop = 0 ∧ server.life = .alive

namespace Adds

theorem trans {middle : TcpServer} (first : Adds server middle) (second : Adds middle next) :
    Adds server next where
  accepted := second.accepted.trans first.accepted
  numThreads := second.numThreads.trans first.numThreads
  round := second.round.trans first.round
  connLoop := second.connLoop.trans first.connLoop
  connections := second.connections.trans first.connections
  calls := second.calls.trans first.calls
  life := second.life.trans first.life
  names conn := (second.names conn).trans (first.names conn)
  phase loop idle := first.phase loop (second.phase loop idle)
  running loop := (second.running loop).trans (first.running loop)
  batch loop := (second.batch loop).trans (first.batch loop)
  pending loop := by
    obtain ⟨early, first_pending, first_owns⟩ := first.pending loop
    obtain ⟨late, second_pending, second_owns⟩ := second.pending loop
    refine ⟨early ++ late, by rw [second_pending, first_pending, List.append_assoc], ?_⟩
    intro functor member
    rcases List.mem_append.mp member with in_early | in_late
    · exact first_owns functor in_early
    · obtain ⟨owns, removal⟩ := second_owns functor in_late
      exact ⟨owns, fun conn shape => first.life ▸ removal conn shape⟩

/-- One queue grows by owners. -/
theorem setLoop {loop : Nat} {thread : LoopThread} {added : List ServerFunctor}
    (queue : thread.queue = { (server.loops loop).queue with
      pending := (server.loops loop).queue.pending ++ added })
    (phase : thread.phase ≠ .calling → (server.loops loop).phase ≠ .calling)
    (owners : ∀ functor ∈ added, functor.owns = true ∧
      ∀ conn, functor = .removeConnectionInLoop conn → loop = 0 ∧ server.life = .alive) :
    Adds server (server.setLoop loop thread) where
  accepted := rfl
  numThreads := rfl
  round := rfl
  connLoop := rfl
  connections := rfl
  calls := rfl
  life := rfl
  names _ := rfl
  phase other := by
    by_cases same : other = loop
    · subst same
      rw [setLoop_same]
      exact phase
    · rw [setLoop_other same]
      exact id
  running other := by
    by_cases same : other = loop
    · subst same
      rw [setLoop_same, queue]
    · rw [setLoop_other same]
  batch other := by
    by_cases same : other = loop
    · subst same
      rw [setLoop_same, queue]
      rfl
    · rw [setLoop_other same]
  pending other := by
    by_cases same : other = loop
    · subst same
      exact ⟨added, by rw [setLoop_same, queue], owners⟩
    · rw [setLoop_other same]
      exact ⟨[], (List.append_nil _).symm, by simp⟩

theorem sameQueue {loop : Nat} {thread : LoopThread}
    (queue : thread.queue = (server.loops loop).queue)
    (phase : thread.phase ≠ .calling → (server.loops loop).phase ≠ .calling) :
    Adds server (server.setLoop loop thread) :=
  @setLoop server loop thread [] (by rw [queue, List.append_nil]) phase (by simp)

theorem record (event : LifeEvent) : Adds server (server.record conn event) :=
  ⟨rfl, rfl, rfl, rfl, rfl, rfl, rfl, fun _ => rfl, fun _ => id, fun _ => rfl, fun _ => rfl,
    fun _ => ⟨[], (List.append_nil _).symm, by simp⟩⟩

theorem queueInLoop {loop : Nat} {functor : ServerFunctor} (owns : functor.owns = true)
    (removal : ∀ conn, functor = .removeConnectionInLoop conn →
      loop = 0 ∧ server.life = .alive) :
    Adds server (server.queueInLoop loop functor) := by
  refine setLoop rfl id fun other member => ?_
  cases List.mem_singleton.mp member
  exact ⟨owns, removal⟩

theorem moved {after : Endpoint Nat} (events : List LifeEvent)
    (name : after.conn.name = (server.conns conn).name) :
    Adds server (server.moved conn after events server.connections) where
  accepted := rfl
  numThreads := rfl
  round := rfl
  connLoop := rfl
  connections := rfl
  calls := rfl
  life := rfl
  names other := by
    by_cases same : other = conn
    · subst same
      rw [moved_conns_same, name]
    · rw [moved_conns_other same]
  phase loop := by rw [moved_phase]; exact id
  running loop := moved_running loop
  batch loop := moved_batch loop
  pending loop := by
    obtain ⟨added, pending, callbacks⟩ :=
      @moved_pending server conn after events server.connections loop
    refine ⟨added, pending, fun functor member => ?_⟩
    have callback := callbacks functor member
    cases functor <;> simp_all [ServerFunctor.isCallback, ServerFunctor.owns]

end Adds

theorem Lasting.adds (lasting : server.Lasting conn) (adds : Adds server next) :
    next.Lasting conn := by
  rcases lasting with map | removal | keeps
  · refine .inl ?_
    rw [heldByMap, adds.connections, adds.names]
    exact map
  · obtain ⟨added, pending, _⟩ := adds.pending 0
    refine .inr (.inl ?_)
    rw [BatchQueue.waiting, adds.running, pending, ← List.append_assoc]
    exact List.mem_append_left _ removal
  · obtain ⟨added, pending, _⟩ := adds.pending (server.connLoop conn)
    refine .inr (.inr ?_)
    rw [adds.connLoop, pending]
    exact keeps.append_left added

theorem TargetInv.adds (inv : TargetInv server hand) (adds : Adds server next) :
    TargetInv next hand := by
  -- A functor that does not own anything, and a removal, was there before.
  have waiting_before {loop : Nat} {functor : ServerFunctor}
      (member : functor ∈ (next.loops loop).queue.waiting) :
      functor ∈ (server.loops loop).queue.waiting ∨ functor.owns = true ∧
        ∀ conn, functor = .removeConnectionInLoop conn → loop = 0 ∧ server.life = .alive := by
    obtain ⟨added, pending, owners⟩ := adds.pending loop
    rw [BatchQueue.waiting, adds.running, pending, ← List.append_assoc] at member
    exact (List.mem_append.mp member).imp_right (owners functor)
  have kept {other : Nat} (safe : server.Lasting other ∨ hand = some other) :
      next.Lasting other ∨ hand = some other := safe.imp_left fun lasting => lasting.adds adds
  constructor
  · intro left right known same
    rw [adds.names, adds.names] at same
    exact inv.names left right (adds.accepted ▸ known) same
  · intro other unknown
    rw [adds.names]
    exact inv.unnamed other (adds.accepted ▸ unknown)
  · intro other known
    rw [adds.connLoop, adds.numThreads]
    exact inv.loop_le other (adds.accepted ▸ known)
  · rw [adds.numThreads, adds.round]
    exact inv.next_lt
  · rw [adds.calls, adds.accepted]
    exact inv.callers
  · intro loop functor member raw
    rw [adds.accepted, adds.connLoop]
    rcases waiting_before member with before | ⟨owns, _⟩
    · exact inv.homes loop functor before raw
    · simp [raw] at owns
  · intro loop other member
    rw [adds.life]
    rcases waiting_before member with before | ⟨_, removal⟩
    · exact inv.removals loop other before
    · exact removal other rfl
  · intro loop idle
    rw [adds.running]
    exact inv.batch loop (adds.phase loop idle)
  · intro loop functor member raw
    obtain ⟨added, pending, owners⟩ := adds.pending loop
    rw [pending] at member
    rcases List.mem_append.mp member with before | new
    · exact kept (inv.pending loop functor before raw)
    · have owns := (owners functor new).1
      simp [raw] at owns
  · intro loop functor member raw
    rw [adds.running] at member
    rw [adds.batch]
    exact (inv.running loop functor member raw).imp_left kept

/-! ## The map and the functors in hand -/

def erase (server : TcpServer) (conn : Nat) : TcpServer :=
  { server with connections := Function.update server.connections (server.conns conn).name none }

theorem TargetInv.intoHand (inv : TargetInv server none) (conn : Nat) :
    TargetInv server (some conn) where
  names := inv.names
  unnamed := inv.unnamed
  loop_le := inv.loop_le
  next_lt := inv.next_lt
  callers := inv.callers
  homes := inv.homes
  removals := inv.removals
  batch := inv.batch
  pending loop functor member raw :=
    (inv.pending loop functor member raw).imp_right fun impossible => by cases impossible
  running loop functor member raw :=
    (inv.running loop functor member raw).imp_left
      (Or.imp_right fun impossible => by cases impossible)

theorem TargetInv.erase (inv : TargetInv server (some conn)) :
    TargetInv (server.erase conn) (some conn) := by
  have kept {other : Nat} (known : other < server.accepted)
      (safe : server.Lasting other ∨ some conn = some other) :
      (server.erase conn).Lasting other ∨ some conn = some other := by
    by_cases same : conn = other
    · exact .inr (congrArg some same)
    · rcases safe with (map | removal | keeps) | impossible
      · refine .inl (.inl ?_)
        have names : (server.conns other).name ≠ (server.conns conn).name := fun equal =>
          same (inv.names conn other known equal.symm)
        simpa [heldByMap, TcpServer.erase, Function.update_of_ne names] using map
      · exact .inl (.inr (.inl removal))
      · exact .inl (.inr (.inr keeps))
      · exact .inr impossible
  refine ⟨inv.names, inv.unnamed, inv.loop_le, inv.next_lt, inv.callers, inv.homes,
    inv.removals, inv.batch, ?_, ?_⟩
  · intro loop functor member raw
    exact kept (inv.homes loop functor (List.mem_append_right _ member) raw).1
      (inv.pending loop functor member raw)
  · intro loop functor member raw
    exact (inv.running loop functor member raw).imp_left
      (kept (inv.homes loop functor (List.mem_append_left _ member) raw).1)

theorem TargetInv.settle (inv : TargetInv server (some conn))
    (pending : ∀ loop, Awaits (server.loops loop).queue.pending conn → server.Lasting conn)
    (running : ∀ loop, Awaits (server.loops loop).queue.running conn →
      server.Lasting conn ∨ Keeps (server.loops loop).queue.batch conn) :
    TargetInv server none := by
  refine ⟨inv.names, inv.unnamed, inv.loop_le, inv.next_lt, inv.callers, inv.homes,
    inv.removals, inv.batch, ?_, ?_⟩
  · intro loop functor member raw
    rcases inv.pending loop functor member raw with lasting | in_hand
    · exact .inl lasting
    · cases in_hand
      exact .inl (pending loop ⟨functor, member, raw, rfl⟩)
  · intro loop functor member raw
    rcases inv.running loop functor member raw with (lasting | in_hand) | keeps
    · exact .inl (.inl lasting)
    · cases in_hand
      exact (running loop ⟨functor, member, raw, rfl⟩).imp_left .inl
    · exact .inr keeps

theorem TargetInv.queueDestroyed (inv : TargetInv server (some conn)) :
    TargetInv (server.queueInLoop (server.connLoop conn) (.connectDestroyed conn)) none := by
  have lasting : (server.queueInLoop (server.connLoop conn) (.connectDestroyed conn)).Lasting
      conn := by
    refine .inr (.inr ⟨.connectDestroyed conn, ?_, rfl, rfl⟩)
    simp [TcpServer.queueInLoop, setLoop]
  exact (inv.adds (.queueInLoop rfl (by simp))).settle (fun _ _ => lasting)
    (fun _ _ => .inl lasting)

theorem TargetInv.removeConnectionInLoop (inv : TargetInv server (some conn)) :
    TargetInv (server.removeConnectionInLoop conn) none :=
  (inv.erase.adds (.record .removeConnectionInLoop)).queueDestroyed

theorem TargetInv.removeConnection (inv : TargetInv server none)
    (remote : server.connLoop conn ≠ 0 → server.life = .alive) :
    TargetInv (server.removeConnection conn) none := by
  unfold TcpServer.removeConnection
  split
  · exact (inv.intoHand conn).removeConnectionInLoop
  · next elsewhere => exact inv.adds (.queueInLoop rfl fun _ _ => ⟨rfl, remote elsewhere⟩)

end TcpServer

end TalkSystem.Net
