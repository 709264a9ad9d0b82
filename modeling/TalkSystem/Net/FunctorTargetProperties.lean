import TalkSystem.Net.FunctorOwners

/-!
# Queued functors find their objects

Each step of a server keeps the owners that the queued functors rely on, as
long as the step respects the raw pointers.
-/

set_option autoImplicit false

namespace TalkSystem.Net

open Endpoint

namespace TcpServer

variable {server next : TcpServer} {label : ServerLabel} {conn : Nat}
  {hand : Option Nat}

/-! ## Methods, handlers and functors -/

theorem Adds.perform {method : Endpoint Nat → Endpoint Nat}
    (quiet : .closeCallback ∉ (method (server.site conn)).effects)
    (name : (method (server.site conn)).conn.name = (server.conns conn).name) :
    Adds server (server.perform conn method) := by
  rw [perform_open quiet]
  exact .moved [] name

theorem Adds.steady {method : Endpoint Nat → Endpoint Nat} {added : List Effect}
    (steady : Steady (server.site conn) (method (server.site conn)) added) :
    Adds server (server.perform conn method) :=
  .perform (steady.no_close rfl) steady.name

theorem Adds.recorded {event : LifeEvent} {method : Endpoint Nat → Endpoint Nat}
    {added : List Effect} (steady : Steady (server.site conn) (method (server.site conn)) added) :
    Adds server ((server.record conn event).perform conn method) :=
  (Adds.record event).trans (.steady steady)

theorem Adds.connectEstablished : Adds server (server.connectEstablished conn) :=
  (Adds.record .connectEstablished).trans (.perform (by simp [site]) rfl)

theorem Adds.connectDestroyed : Adds server (server.connectDestroyed conn) := by
  refine (Adds.record .connectDestroyed).trans (.perform ?_ ?_)
  · unfold Endpoint.connectDestroyed
    split <;> simp [site]
  · unfold Endpoint.connectDestroyed
    split <;> rfl

theorem Adds.userCode {method : Endpoint Nat → Endpoint Nat} (calls : UserMethod method) :
    Adds server (server.perform conn method) := by
  cases calls with
  | @send data answer =>
      obtain ⟨_, steady⟩ := send_steady (server.site conn) data answer
      exact .steady steady
  | shutdown =>
      by_cases connected : (server.site conn).conn.state = .kConnected
      · obtain ⟨_, steady, _⟩ :=
          shutdownInLoop_steady ((server.site conn).setState .kDisconnecting)
        have asked : (server.site conn).shutdown =
            ((server.site conn).setState .kDisconnecting).shutdownInLoop := if_pos connected
        exact .perform (by rw [asked]; exact steady.no_close rfl)
          (by rw [asked]; exact steady.name)
      · have skipped : (server.site conn).shutdown = server.site conn := if_neg connected
        exact .perform (by rw [skipped]; simp [site]) (by rw [skipped]; rfl)
  | @retrieveInput len =>
      exact .steady (retrieveInput_steady len)
  | @setHighWaterMarkCallback highWaterMark =>
      exact .steady (setHighWaterMarkCallback_steady highWaterMark)

theorem TargetInv.handle (inv : TargetInv server none) {handler : Handler}
    {readAnswer : ReadAnswer} {writeAnswer : WriteAnswer}
    (remote : handler.closes readAnswer = true → server.connLoop conn ≠ 0 →
      server.life = .alive) :
    TargetInv (server.handle conn handler readAnswer writeAnswer) none := by
  cases handler with
  | close =>
      rw [TcpServer.handle, perform_closed (by simp)]
      exact (inv.adds (.moved [.handleClose] rfl)).removeConnection (remote rfl)
  | error =>
      rw [TcpServer.handle]
      exact inv.adds (.recorded (.refl _))
  | read =>
      by_cases eof : readAnswer = .yields []
      · subst eof
        have closes : .closeCallback ∈ ((server.site conn).handleRead (.yields [])).effects := by
          rw [handleRead_eof]
          simp
        have name : ((server.site conn).handleRead (.yields [])).conn.name =
            (server.conns conn).name := by
          rw [handleRead_eof]
          rfl
        rw [TcpServer.handle, perform_closed closes, record_moved]
        exact (inv.adds (.moved [.handleRead, .handleClose] name)).removeConnection (remote rfl)
      · obtain ⟨_, steady, _⟩ := @handleRead_open Nat (server.site conn) _ eof
        rw [TcpServer.handle]
        exact inv.adds (.recorded steady)
  | write =>
      obtain ⟨_, steady⟩ := handleWrite_steady (server.site conn) writeAnswer
      rw [TcpServer.handle]
      exact inv.adds (.recorded steady)

/-- The connection whose removal is in hand while a functor runs. -/
def removalOf : ServerFunctor → Option Nat
  | .removeConnectionInLoop conn => some conn
  | _ => none

/-- Who kept a connection still does when a loop changes its queue, if the queue
does not lose a removal or the pending owners of its own connections. -/
theorem Lasting.setLoop {loop : Nat} {thread : LoopThread} (lasting : server.Lasting conn)
    (removal : loop = 0 → .removeConnectionInLoop conn ∈ (server.loops loop).queue.waiting →
      .removeConnectionInLoop conn ∈ thread.queue.waiting ∨ hand = some conn)
    (keeps : server.connLoop conn = loop → Keeps (server.loops loop).queue.pending conn →
      Keeps thread.queue.pending conn) :
    (server.setLoop loop thread).Lasting conn ∨ hand = some conn := by
  rcases lasting with map | removed | kept
  · exact .inl (.inl map)
  · by_cases base : loop = 0
    · subst base
      refine (removal rfl removed).imp_left fun waiting => .inr (.inl ?_)
      rw [setLoop_same]
      exact waiting
    · refine .inl (.inr (.inl ?_))
      rw [setLoop_other (Ne.symm base)]
      exact removed
  · refine .inl (.inr (.inr ?_))
    by_cases own : server.connLoop conn = loop
    · subst own
      change Keeps ((server.setLoop _ thread).loops (server.connLoop conn)).queue.pending conn
      rw [setLoop_same]
      exact keeps rfl kept
    · change Keeps ((server.setLoop loop thread).loops (server.connLoop conn)).queue.pending conn
      rw [setLoop_other own]
      exact kept

theorem TargetInv.setLoop (inv : TargetInv server none) {loop : Nat} {thread : LoopThread}
    (waiting : ∀ functor ∈ thread.queue.waiting,
      functor ∈ (server.loops loop).queue.waiting ∨ functor.owns = false ∧
        functor.conn < server.accepted ∧ server.connLoop functor.conn = loop)
    (removal : ∀ conn, .removeConnectionInLoop conn ∈ (server.loops loop).queue.waiting →
      .removeConnectionInLoop conn ∈ thread.queue.waiting ∨ hand = some conn)
    (batch : thread.phase ≠ .calling → thread.queue.running = [])
    (pending : ∀ functor ∈ thread.queue.pending, functor.owns = false →
      (server.setLoop loop thread).Lasting functor.conn ∨ hand = some functor.conn)
    (running : ∀ functor ∈ thread.queue.running, functor.owns = false →
      ((server.setLoop loop thread).Lasting functor.conn ∨ hand = some functor.conn) ∨
        Keeps thread.queue.batch functor.conn) :
    TargetInv (server.setLoop loop thread) hand := by
  -- Connections of other loops keep the owners that they have.
  have kept {elsewhere : Nat} (apart : elsewhere ≠ loop) {functor : ServerFunctor}
      (member : functor ∈ (server.loops elsewhere).queue.waiting) (raw : functor.owns = false)
      (safe : server.Lasting functor.conn ∨ none = some functor.conn) :
      (server.setLoop loop thread).Lasting functor.conn ∨ hand = some functor.conn := by
    obtain ⟨_, home⟩ := inv.homes elsewhere functor member raw
    rcases safe with lasting | impossible
    · exact lasting.setLoop (fun _ => removal _) fun here => absurd (home ▸ here) apart
    · cases impossible
  refine ⟨inv.names, inv.unnamed, inv.loop_le, inv.next_lt, inv.callers, ?_, ?_, ?_, ?_, ?_⟩
  · intro elsewhere functor member raw
    by_cases same : elsewhere = loop
    · subst same
      rw [setLoop_same] at member
      rcases waiting functor member with before | ⟨_, new⟩
      · exact inv.homes elsewhere functor before raw
      · exact new
    · rw [setLoop_other same] at member
      exact inv.homes elsewhere functor member raw
  · intro elsewhere conn member
    by_cases same : elsewhere = loop
    · subst same
      rw [setLoop_same] at member
      rcases waiting _ member with before | ⟨raw, _⟩
      · exact inv.removals elsewhere conn before
      · cases raw
    · rw [setLoop_other same] at member
      exact inv.removals elsewhere conn member
  · intro elsewhere
    by_cases same : elsewhere = loop
    · subst same
      rw [setLoop_same]
      exact batch
    · rw [setLoop_other same]
      exact inv.batch elsewhere
  · intro elsewhere functor member raw
    by_cases same : elsewhere = loop
    · subst same
      rw [setLoop_same] at member
      exact pending functor member raw
    · rw [setLoop_other same] at member
      exact kept same (List.mem_append_right _ member) raw
        (inv.pending elsewhere functor member raw)
  · intro elsewhere functor member raw
    by_cases same : elsewhere = loop
    · subst same
      rw [setLoop_same] at member ⊢
      exact running functor member raw
    · rw [setLoop_other same] at member ⊢
      exact (inv.running elsewhere functor member raw).imp_left
        (kept same (List.mem_append_left _ member) raw)

theorem TargetInv.take (inv : TargetInv server none) {loop : Nat} {functor : ServerFunctor}
    {rest : BatchQueue ServerFunctor} (calling : (server.loops loop).phase = .calling)
    (item : (server.loops loop).queue.next? = some (functor, rest)) :
    TargetInv (server.setLoop loop { server.loops loop with queue := rest })
      (removalOf functor) := by
  obtain ⟨running, pending, _⟩ := BatchQueue.next?_some item
  have waiting := BatchQueue.next?_waiting item
  have batch := BatchQueue.next?_batch item
  have removal (conn : Nat)
      (queued : .removeConnectionInLoop conn ∈ (server.loops loop).queue.waiting) :
      .removeConnectionInLoop conn ∈ rest.waiting ∨ removalOf functor = some conn := by
    rw [waiting] at queued
    rcases List.mem_cons.mp queued with rfl | later
    · exact .inr rfl
    · exact .inl later
  have kept {conn : Nat} (safe : server.Lasting conn ∨ none = some conn) :
      (server.setLoop loop { server.loops loop with queue := rest }).Lasting conn ∨
        removalOf functor = some conn := by
    rcases safe with lasting | impossible
    · exact lasting.setLoop (fun _ => removal conn) fun _ keeps => by rw [pending]; exact keeps
    · cases impossible
  refine inv.setLoop ?_ removal (fun idle => absurd calling idle) ?_ ?_
  · intro other member
    rw [waiting]
    exact .inl (List.mem_cons_of_mem _ member)
  · intro other member raw
    rw [pending] at member
    exact kept (inv.pending loop other member raw)
  · intro other member raw
    rw [batch]
    refine (inv.running loop other ?_ raw).imp_left kept
    rw [running]
    exact List.mem_cons_of_mem _ member

theorem TargetInv.runFunctor {functor : ServerFunctor}
    (inv : TargetInv server (removalOf functor)) (answer : WriteAnswer) :
    TargetInv (server.runFunctor functor answer) none := by
  cases functor with
  | connectEstablished conn => exact inv.adds .connectEstablished
  | removeConnectionInLoop conn => exact inv.removeConnectionInLoop
  | connectDestroyed conn => exact inv.adds .connectDestroyed
  | callback conn => exact inv
  | sendInLoop conn data =>
      obtain ⟨_, steady⟩ := sendInLoop_steady (server.site conn) data answer
      rw [TcpServer.runFunctor]
      exact inv.adds (.steady steady)
  | shutdownInLoop conn =>
      obtain ⟨_, steady, _⟩ := shutdownInLoop_steady (server.site conn)
      exact inv.adds (.steady steady)

/-- The pending functors become the batch, and their owners with them. -/
theorem TargetInv.swap (inv : TargetInv server none) {loop : Nat}
    (dispatching : (server.loops loop).phase = .dispatching) :
    TargetInv (server.setLoop loop
      { server.loops loop with phase := .calling, queue := (server.loops loop).queue.swap })
      none := by
  have waiting := BatchQueue.swap_waiting (inv.batch loop (by simp [dispatching]))
  refine inv.setLoop ?_ ?_ (by simp) (by simp [BatchQueue.swap]) ?_
  · intro functor member
    exact .inl (waiting ▸ member)
  · intro conn queued
    exact .inl (waiting ▸ queued)
  · intro functor member raw
    obtain ⟨_, home⟩ := inv.homes loop functor (List.mem_append_right _ member) raw
    rcases inv.pending loop functor member raw with (map | removed | keeps) | impossible
    · exact .inl (.inl (.inl map))
    · refine .inl (.inl (.inr (.inl ?_)))
      by_cases base : loop = 0
      · subst base
        rw [setLoop_same, waiting]
        exact removed
      · rw [setLoop_other (Ne.symm base)]
        exact removed
    · rw [home] at keeps
      exact .inr keeps
    · cases impossible

theorem TargetInv.finish (inv : TargetInv server none) {loop : Nat}
    (drained : (server.loops loop).queue.running = []) :
    TargetInv (server.setLoop loop
      { server.loops loop with phase := .polling, queue := (server.loops loop).queue.release })
      none := by
  refine inv.setLoop (fun _ => .inl) (fun _ => .inl) (fun _ => drained) ?_ ?_
  · intro functor member raw
    rcases inv.pending loop functor member raw with lasting | impossible
    · exact lasting.setLoop (fun _ => .inl) fun _ => id
    · cases impossible
  · intro functor member
    change functor ∈ (server.loops loop).queue.running at member
    rw [drained] at member
    cases member

/-! ## User threads -/

theorem TargetInv.setCalls (inv : TargetInv server none)
    {calls : List (Nat × UserCall × UserPc)}
    (known : ∀ call ∈ calls, call.1 < server.accepted) :
    TargetInv { server with calls := calls } none where
  names := inv.names
  unnamed := inv.unnamed
  loop_le := inv.loop_le
  next_lt := inv.next_lt
  callers := known
  homes := inv.homes
  removals := inv.removals
  batch := inv.batch
  pending := inv.pending
  running := inv.running

theorem TargetInv.queueRaw (inv : TargetInv server none) {functor : ServerFunctor}
    (raw : functor.owns = false) (known : functor.conn < server.accepted)
    (lasting : server.Lasting functor.conn) :
    TargetInv (server.queueInLoop (server.connLoop functor.conn) functor) none := by
  have kept {other : Nat} (safe : server.Lasting other ∨ none = some other) :
      (server.queueInLoop (server.connLoop functor.conn) functor).Lasting other ∨
        none = some other := by
    rcases safe with lasting | impossible
    · refine lasting.setLoop (fun _ queued => .inl ?_) fun _ keeps => keeps.append_left _
      rw [BatchQueue.push_waiting]
      exact List.mem_append_left _ queued
    · cases impossible
  refine inv.setLoop ?_ ?_ (inv.batch _) ?_ ?_
  · intro other member
    rw [BatchQueue.push_waiting] at member
    rcases List.mem_append.mp member with before | new
    · exact .inl before
    · cases List.mem_singleton.mp new
      exact .inr ⟨raw, known, rfl⟩
  · intro other queued
    rw [BatchQueue.push_waiting]
    exact .inl (List.mem_append_left _ queued)
  · intro other member other_raw
    rcases List.mem_append.mp member with before | new
    · exact kept (inv.pending _ other before other_raw)
    · cases List.mem_singleton.mp new
      exact kept (.inl lasting)
  · intro other member other_raw
    exact (inv.running _ other member other_raw).imp_left kept

theorem TargetInv.proceed (inv : TargetInv server none) {index : Nat}
    (allowed : server.TargetStep (.proceed index)) (taken : UserTransition server index next) :
    TargetInv next none := by
  have known {conn : Nat} {call : UserCall} {pc : UserPc}
      (found : server.calls[index]? = some (conn, call, pc)) : conn < server.accepted :=
    inv.callers _ (List.mem_of_getElem? found)
  have moved_call {conn : Nat} {call : UserCall} {before after : UserPc}
      (found : server.calls[index]? = some (conn, call, before)) :
      ∀ other ∈ server.calls.set index (conn, call, after), other.1 < server.accepted := by
    intro other member
    rcases List.mem_or_eq_of_mem_set member with old | rfl
    · exact inv.callers other old
    · exact known found
  cases taken with
  | load found => exact inv.setCalls (moved_call found)
  | @store conn found =>
      have stored : Adds server { server with
          conns := Function.update server.conns conn
            { server.conns conn with state := .kDisconnecting } } := by
        refine ⟨rfl, rfl, rfl, rfl, rfl, rfl, rfl, fun other => ?_, fun _ => id, fun _ => rfl,
          fun _ => rfl, fun _ => ⟨[], (List.append_nil _).symm, by simp⟩⟩
        by_cases same : other = conn
        · subst same
          simp
        · simp [Function.update_of_ne same]
      exact (inv.adds stored).setCalls (moved_call found)
  | @queue conn call pc found queues =>
      have lasting := allowed conn call pc found (by
        rcases queues with rfl | ⟨rfl, send⟩
        · rfl
        · simpa [UserPc.queues] using send)
      have target : (call.functor conn).conn = conn := by cases call <;> rfl
      have queued := inv.queueRaw (by cases call <;> rfl)
        (target.symm ▸ known found) (target.symm ▸ lasting)
      rw [target] at queued
      exact queued.setCalls (moved_call found)
  | leave found =>
      exact inv.setCalls fun call member => inv.callers call (List.mem_of_mem_eraseIdx member)

/-! ## The destructor and new connections -/

theorem TargetInv.destroyNext (inv : TargetInv server none)
    (allowed : server.TargetStep (.destroyNext conn)) :
    TargetInv (server.destroyNext conn) none := by
  have erased := (inv.intoHand conn).erase
  unfold TcpServer.destroyNext
  split
  · next base =>
      obtain ⟨in_pending, in_running⟩ := allowed base
      have on_base {loop : Nat} {functor : ServerFunctor}
          (member : functor ∈ (server.loops loop).queue.waiting) (raw : functor.owns = false)
          (target : functor.conn = conn) : loop = 0 := by
        rw [← (inv.homes loop functor member raw).2, target, base]
      have lasting (keeps : Keeps (server.loops 0).queue.pending conn) :
          (server.erase conn).Lasting conn := by
        refine .inr (.inr ?_)
        change Keeps (server.loops (server.connLoop conn)).queue.pending conn
        rwa [base]
      refine (erased.settle ?_ ?_).adds .connectDestroyed
      · intro loop awaits
        obtain ⟨functor, member, raw, target⟩ := awaits
        obtain rfl := on_base (List.mem_append_right _ member) raw target
        exact lasting (in_pending ⟨functor, member, raw, target⟩)
      · intro loop awaits
        obtain ⟨functor, member, raw, target⟩ := awaits
        obtain rfl := on_base (List.mem_append_left _ member) raw target
        obtain ⟨owner, held, owns⟩ := in_running ⟨functor, member, raw, target⟩
        rw [BatchQueue.held, BatchQueue.waiting, ← List.append_assoc] at held
        rcases List.mem_append.mp held with in_batch | pending
        · exact .inr ⟨owner, in_batch, owns⟩
        · exact .inl (lasting ⟨owner, pending, owns⟩)
  · exact erased.queueDestroyed

theorem TargetInv.joinThreads (inv : TargetInv server none)
    (destroying : server.life = .destroying) : TargetInv server.joinThreads none := by
  have base : server.joinThreads.loops 0 = server.loops 0 := rfl
  have gone {loop : Nat} (apart : loop ≠ 0) : (server.joinThreads.loops loop).queue = .empty := by
    simp [TcpServer.joinThreads, apart]
  -- What waits after the join waits on the base loop.
  have kept {functor : ServerFunctor} (home : server.connLoop functor.conn = 0)
      (safe : server.Lasting functor.conn ∨ none = some functor.conn) :
      server.joinThreads.Lasting functor.conn ∨ none = some functor.conn := by
    refine safe.imp_left (Or.imp_right (Or.imp_right fun keeps => ?_))
    change Keeps (server.joinThreads.loops (server.connLoop functor.conn)).queue.pending _
    rw [home] at keeps ⊢
    exact keeps
  refine ⟨inv.names, inv.unnamed, inv.loop_le, inv.next_lt, inv.callers, ?_, ?_, ?_, ?_, ?_⟩
  · intro loop functor member
    by_cases same : loop = 0
    · subst same
      exact inv.homes 0 functor member
    · rw [gone same] at member
      cases member
  · intro loop conn member
    by_cases same : loop = 0
    · subst same
      have alive := (inv.removals 0 conn member).2
      rw [destroying] at alive
      cases alive
    · rw [gone same] at member
      cases member
  · intro loop idle
    by_cases same : loop = 0
    · subst same
      exact inv.batch 0 idle
    · rw [gone same]
      rfl
  · intro loop functor member raw
    by_cases same : loop = 0
    · subst same
      exact kept (inv.homes 0 functor (List.mem_append_right _ member) raw).2
        (inv.pending 0 functor member raw)
    · rw [gone same] at member
      cases member
  · intro loop functor member raw
    by_cases same : loop = 0
    · subst same
      exact (inv.running 0 functor member raw).imp_left
        (kept (inv.homes 0 functor (List.mem_append_left _ member) raw).2)
    · rw [gone same] at member
      cases member

theorem TargetInv.createConnection (inv : TargetInv server none) {sockfd : Nat}
    (allowed : server.TargetStep (.accept sockfd)) :
    TargetInv (server.createConnection sockfd) none := by
  have new_name : ((server.createConnection sockfd).conns server.accepted).name =
      connName server.name server.address.toIpPort server.nextConnId := by
    simp [TcpServer.createConnection, TcpConnection.new]
  have old_name {other : Nat} (old : other ≠ server.accepted) :
      ((server.createConnection sockfd).conns other).name = (server.conns other).name := by
    rw [createConnection_conns_other old]
  -- The new name is nobody else's: not of an accepted connection, and not empty.
  have fresh {other : Nat} (old : other ≠ server.accepted) : (server.conns other).name ≠
      connName server.name server.address.toIpPort server.nextConnId := by
    rcases Nat.lt_or_gt_of_ne old with before | after
    · exact allowed other before
    · rw [inv.unnamed other (Nat.le_of_lt after)]
      exact (connName_ne_empty _ _ _).symm
  have kept {other : Nat} (known : other < server.accepted)
      (safe : server.Lasting other ∨ none = some other) :
      (server.createConnection sockfd).Lasting other ∨ none = some other := by
    have old := Nat.ne_of_lt known
    refine safe.imp_left fun lasting => ?_
    rcases lasting with map | removed | keeps
    · refine .inl ?_
      rw [heldByMap, old_name old]
      simpa [TcpServer.createConnection, Function.update_of_ne (fresh old), heldByMap] using map
    · exact .inr (.inl removed)
    · refine .inr (.inr ?_)
      rw [createConnection_connLoop_other old]
      exact keeps
  refine ⟨?_, ?_, ?_, ?_, ?_, ?_, inv.removals, inv.batch, ?_, ?_⟩
  · intro left right known same
    by_cases left_new : left = server.accepted
    · by_cases right_new : right = server.accepted
      · rw [left_new, right_new]
      · subst left_new
        rw [new_name, old_name right_new] at same
        exact absurd same.symm (fresh right_new)
    · by_cases right_new : right = server.accepted
      · subst right_new
        rw [new_name, old_name left_new] at same
        exact absurd same (fresh left_new)
      · rw [old_name left_new, old_name right_new] at same
        exact inv.names left right
          (Nat.lt_of_le_of_ne (Nat.le_of_lt_succ known) right_new) same
  · intro other unknown
    have after : server.accepted < other := unknown
    rw [old_name (Nat.ne_of_gt after)]
    exact inv.unnamed other (Nat.le_of_lt after)
  · intro other known
    by_cases new : other = server.accepted
    · subst new
      simpa [TcpServer.createConnection] using getNextLoop_le inv.next_lt
    · rw [createConnection_connLoop_other new]
      exact inv.loop_le other (Nat.lt_of_le_of_ne (Nat.le_of_lt_succ known) new)
  · exact getNextLoop_next inv.next_lt
  · intro call member
    exact Nat.lt_succ_of_lt (inv.callers call member)
  · intro loop functor member raw
    obtain ⟨known, home⟩ := inv.homes loop functor member raw
    rw [createConnection_connLoop_other (Nat.ne_of_lt known)]
    exact ⟨Nat.lt_succ_of_lt known, home⟩
  · intro loop functor member raw
    exact kept (inv.homes loop functor (List.mem_append_right _ member) raw).1
      (inv.pending loop functor member raw)
  · intro loop functor member raw
    exact (inv.running loop functor member raw).imp_left
      (kept (inv.homes loop functor (List.mem_append_left _ member) raw).1)

theorem TargetInv.newConnection (inv : TargetInv server none) {sockfd : Nat}
    (allowed : server.TargetStep (.accept sockfd)) :
    TargetInv (server.newConnection sockfd) none := by
  have created := inv.createConnection allowed
  unfold TcpServer.newConnection
  split
  · exact created.adds .connectEstablished
  · exact created.adds (.queueInLoop rfl (by simp))

theorem TargetInv.step (inv : TargetInv server none) (allowed : server.TargetStep label)
    (taken : Transition server label next) : TargetInv next none := by
  cases taken with
  | accept => exact inv.newConnection allowed
  | poll _ polling => exact inv.adds (.sameQueue rfl (by simp [polling]))
  | skip _ dispatching => exact inv.adds (.sameQueue rfl (by simp [dispatching]))
  | handleEvent _ dispatching => exact inv.adds (.sameQueue rfl (by simp [dispatching]))
  | @handler loop conn handler rest readAnswer writeAnswer _ dispatching handling =>
      have popped : TargetInv (server.setLoop loop
          { server.loops loop with handling := some (conn, rest) }) none :=
        inv.adds (.sameQueue rfl (by simp [dispatching]))
      refine popped.handle fun closes elsewhere => ?_
      rcases allowed with alive | local_only
      · exact alive
      · exact absurd (local_only _ _ _ handling closes) elsewhere
  | handled _ dispatching => exact inv.adds (.sameQueue rfl (by simp [dispatching]))
  | swap _ dispatching => exact inv.swap dispatching
  | runFunctor _ calling item => exact (inv.take calling item).runFunctor _
  | finish _ _ drained => exact inv.finish drained
  | userCode _ calls => exact inv.adds (.userCode calls)
  | call known =>
      refine inv.setCalls fun other member => ?_
      rcases List.mem_append.mp member with before | new
      · exact inv.callers other before
      · cases List.mem_singleton.mp new
        exact known
  | proceed moves => exact inv.proceed allowed moves
  | destroy =>
      refine ⟨inv.names, inv.unnamed, inv.loop_le, inv.next_lt, inv.callers, inv.homes, ?_,
        inv.batch, inv.pending, inv.running⟩
      intro loop conn queued
      obtain ⟨rfl, _⟩ := inv.removals loop conn queued
      exact absurd queued (allowed conn)
  | destroyNext => exact inv.destroyNext allowed
  | joinThreads destroying => exact inv.joinThreads destroying

theorem targetInv_init (name : String) (address : InetAddress) (numThreads : Nat)
    (callback : Bool) : TargetInv (init name address numThreads callback) none where
  names _ _ known := absurd known (Nat.not_lt_zero _)
  unnamed _ _ := rfl
  loop_le _ known := absurd known (Nat.not_lt_zero _)
  next_lt := Nat.pos_of_ne_zero
  callers _ member := by cases member
  homes _ _ member := by cases member
  removals _ _ member := by cases member
  batch _ _ := rfl
  pending _ _ member := by cases member
  running _ _ member := by cases member

theorem Lasting.owned (lasting : server.Lasting conn)
    (on_loop : server.connLoop conn ≤ server.numThreads) : server.owned conn = true := by
  rcases lasting with map | removal | ⟨functor, pending, owns, rfl⟩
  · simp [TcpServer.owned, map]
  · have held := heldByFunctor_of_mem (Nat.zero_le _) (List.mem_append_right _ removal) rfl
    simp only [ServerFunctor.conn] at held
    simp [TcpServer.owned, held]
  · have held := heldByFunctor_of_mem on_loop
      (List.mem_append_right _ (List.mem_append_right _ pending)) owns
    simp [TcpServer.owned, held]

/-- In every run that respects the raw pointers, the functor that a loop runs
next finds its object. -/
theorem queued_functor_target_exists (name : String) (address : InetAddress) (numThreads : Nat)
    (callback : Bool) (labels : List ServerLabel) (final : TcpServer)
    (run : machine.Runs TargetStep (init name address numThreads callback) labels final) :
    ∀ loop functor rest, (final.loops loop).queue.next? = some (functor, rest) →
      final.targetExists functor = true := by
  have inv : TargetInv final none :=
    run.invariant (fun server => TargetInv server none)
      (fun _ _ _ allowed taken inv => inv.step allowed (step_transition taken))
      (targetInv_init name address numThreads callback)
  intro loop functor rest item
  obtain ⟨running, _, _⟩ := BatchQueue.next?_some item
  have member : functor ∈ (final.loops loop).queue.running := by
    rw [running]
    exact List.mem_cons_self
  have waiting : functor ∈ (final.loops loop).queue.waiting := List.mem_append_left _ member
  have raw_owned (raw : functor.owns = false) : final.owned functor.conn = true := by
    obtain ⟨known, home⟩ := inv.homes loop functor waiting raw
    have on_loop := inv.loop_le functor.conn known
    rcases inv.running loop functor member raw with (lasting | impossible) | keeps
    · exact lasting.owned on_loop
    · cases impossible
    · obtain ⟨owner, in_batch, owns, same⟩ := keeps
      rw [home] at on_loop
      have held := heldByFunctor_of_mem on_loop
        (by rw [BatchQueue.held, BatchQueue.waiting, ← List.append_assoc]
            exact List.mem_append_left _ in_batch) owns
      rw [same] at held
      simp [TcpServer.owned, held]
  cases functor with
  | sendInLoop conn data => exact raw_owned rfl
  | shutdownInLoop conn => exact raw_owned rfl
  | removeConnectionInLoop conn => simp [targetExists, (inv.removals loop conn waiting).2]
  | connectEstablished | connectDestroyed | callback => rfl

def connectionUp : List ServerLabel :=
  [.poll 0 [], .accept 5, .poll 1 [], .doPendingFunctors 1, .runFunctor 1 (.accepts 0), .finish 1]

def peerHangsUp : List ServerLabel :=
  [.poll 1 [(0, ⟨false, false, false, false, true⟩)], .handleEvent 1,
    .handler 1 (.yields []) (.accepts 0), .handled 1]

/-- A string is sent just before the hang-up: its functor and `connectDestroyed`
come into one batch. -/
theorem queued_functor_target_exists_before_destroyed : ∃ final rest,
    machine.Runs TargetStep (init "chat" ⟨(127, 0, 0, 1), 8000⟩ 1 false)
      (connectionUp ++ [.call 0 (.send [1]), .proceed 0, .proceed 0, .proceed 0] ++ peerHangsUp ++
        [.doPendingFunctors 0, .runFunctor 0 (.accepts 0), .doPendingFunctors 1]) final ∧
      (final.loops 1).queue.next? = some (.sendInLoop 0 [1], rest) ∧
      final.heldByMap 0 = false ∧ final.targetExists (.sendInLoop 0 [1]) = true := by
  obtain ⟨final, rest, run, item, unmapped⟩ : ∃ final rest,
      machine.Runs TargetStep (init "chat" ⟨(127, 0, 0, 1), 8000⟩ 1 false)
        (connectionUp ++ [.call 0 (.send [1]), .proceed 0, .proceed 0, .proceed 0] ++
          peerHangsUp ++ [.doPendingFunctors 0, .runFunctor 0 (.accepts 0), .doPendingFunctors 1])
        final ∧
      (final.loops 1).queue.next? = some (.sendInLoop 0 [1], rest) ∧
      final.heldByMap 0 = false :=
    ⟨_, _, .cons trivial rfl <| .cons (fun _ known => absurd known (Nat.not_lt_zero _)) rfl <|
      .cons trivial rfl <| .cons trivial rfl <| .cons trivial rfl <| .cons trivial rfl <|
      .cons trivial rfl <| .cons (by rintro _ _ _ ⟨⟩ ⟨⟩) rfl <|
      .cons (by rintro _ _ _ ⟨⟩ _; exact .inl rfl) rfl <| .cons (by rintro _ _ _ ⟨⟩ ⟨⟩) rfl <|
      .cons trivial rfl <| .cons trivial rfl <| .cons (.inl rfl) rfl <| .cons trivial rfl <|
      .cons trivial rfl <| .cons trivial rfl <| .cons trivial rfl .nil, rfl, rfl⟩
  exact ⟨final, rest, run, item, unmapped, queued_functor_target_exists _ _ _ _ _ _ run 1 _ _ item⟩

/-- Three ways to lose the object of a queued functor. A user thread has loaded
`kConnected`, and queues `sendInLoop` only when `connectDestroyed` is already
running; the destructor takes a connection of the base loop out of the map while
its `sendInLoop` waits there; the destructor runs while the removal of a closed
connection waits on the base loop. -/
theorem queued_functor_target_gone :
    (∃ final rest, machine.Runs Machine.anyStep (init "chat" ⟨(127, 0, 0, 1), 8000⟩ 1 false)
      (connectionUp ++ [.call 0 (.send [1]), .proceed 0] ++ peerHangsUp ++
        [.doPendingFunctors 0, .runFunctor 0 (.accepts 0), .finish 0, .doPendingFunctors 1,
          .runFunctor 1 (.accepts 0), .proceed 0, .proceed 0, .finish 1, .poll 1 [],
          .doPendingFunctors 1]) final ∧
      final.runs 1 = true ∧ (final.loops 1).queue.next? = some (.sendInLoop 0 [1], rest) ∧
      final.targetExists (.sendInLoop 0 [1]) = false) ∧
    (∃ final rest, machine.Runs Machine.anyStep (init "chat" ⟨(127, 0, 0, 1), 8000⟩ 0 false)
      [.poll 0 [], .accept 5, .call 0 (.send [1]), .proceed 0, .proceed 0, .proceed 0, .destroy,
        .destroyNext 0, .joinThreads, .doPendingFunctors 0] final ∧
      final.runs 0 = true ∧ (final.loops 0).queue.next? = some (.sendInLoop 0 [1], rest) ∧
      final.targetExists (.sendInLoop 0 [1]) = false) ∧
    ∃ final rest, machine.Runs Machine.anyStep (init "chat" ⟨(127, 0, 0, 1), 8000⟩ 1 false)
      (connectionUp ++ peerHangsUp ++
        [.destroy, .destroyNext 0, .doPendingFunctors 1, .runFunctor 1 (.accepts 0), .finish 1,
          .joinThreads, .doPendingFunctors 0]) final ∧
      final.runs 0 = true ∧ (final.loops 0).queue.next? = some (.removeConnectionInLoop 0, rest) ∧
      final.targetExists (.removeConnectionInLoop 0) = false := by
  refine ⟨?_, ?_, ?_⟩
  · exact ⟨_, _, .cons trivial rfl <| .cons trivial rfl <| .cons trivial rfl <|
      .cons trivial rfl <| .cons trivial rfl <| .cons trivial rfl <| .cons trivial rfl <|
      .cons trivial rfl <| .cons trivial rfl <| .cons trivial rfl <| .cons trivial rfl <|
      .cons trivial rfl <| .cons trivial rfl <| .cons trivial rfl <| .cons trivial rfl <|
      .cons trivial rfl <| .cons trivial rfl <| .cons trivial rfl <| .cons trivial rfl <|
      .cons trivial rfl <| .cons trivial rfl <| .cons trivial rfl .nil, rfl, rfl, rfl⟩
  · exact ⟨_, _, .cons trivial rfl <| .cons trivial rfl <| .cons trivial rfl <|
      .cons trivial rfl <| .cons trivial rfl <| .cons trivial rfl <| .cons trivial rfl <|
      .cons trivial rfl <| .cons trivial rfl <| .cons trivial rfl .nil, rfl, rfl, rfl⟩
  · exact ⟨_, _, .cons trivial rfl <| .cons trivial rfl <| .cons trivial rfl <|
      .cons trivial rfl <| .cons trivial rfl <| .cons trivial rfl <| .cons trivial rfl <|
      .cons trivial rfl <| .cons trivial rfl <| .cons trivial rfl <| .cons trivial rfl <|
      .cons trivial rfl <| .cons trivial rfl <| .cons trivial rfl <| .cons trivial rfl <|
      .cons trivial rfl <| .cons trivial rfl .nil, rfl, rfl, rfl⟩

end TcpServer

end TalkSystem.Net
