import TalkSystem.Net.ConnectionMilestones

/-!
# Every connection of a server has an orderly life

The invariant holds in every run, and what users rely on is read off it.
-/

set_option autoImplicit false

namespace TalkSystem.Net

open Endpoint

namespace TcpServer

variable {server next : TcpServer} {label : ServerLabel} {stage : Nat → LifeStage}
  {conn : Nat} {after : Endpoint Nat} {events : List LifeEvent}
  {hand : Option (Nat × ServerFunctor)} {final : LifeStage}

/-! ## Owners -/

theorem LifeInv.heldByMap (inv : LifeInv server stage hand) (known : conn < server.accepted)
    (mapped : (stage conn).mapped = true) : server.heldByMap conn = true := by
  simpa [TcpServer.heldByMap] using (inv.mapped _ conn).mpr ⟨known, rfl, mapped⟩

/-- Until it is destroyed a connection is in the map, or the functor that will
destroy it holds it. -/
theorem LifeInv.held (inv : LifeInv server stage none) (known : conn < server.accepted)
    (alive : stage conn ≠ .destroyed) :
    server.heldByMap conn = true ∨ server.heldByFunctor conn = true := by
  by_cases removed : stage conn = .removed
  · refine .inr ?_
    have counted := inv.duties (server.connLoop conn) (.connectDestroyed conn) rfl
    have queued : (server.loops (server.connLoop conn)).queue.waiting.count
        (.connectDestroyed conn) = 1 := by
      simpa [dueCount, ServerFunctor.conn, known, removed, dutyOf, inHand] using counted
    have waiting : .connectDestroyed conn ∈
        (server.loops (server.connLoop conn)).queue.waiting :=
      List.count_pos_iff.mp (by omega)
    exact heldByFunctor_of_mem (inv.registry.loop_le conn known)
      (List.mem_append_right _ waiting) rfl
  · refine .inl (inv.heldByMap known ?_)
    cases at_stage : stage conn <;> simp_all [LifeStage.mapped]

theorem LifeInv.owned (inv : LifeInv server stage none) (known : conn < server.accepted)
    (alive : stage conn ≠ .destroyed) : server.owned conn = true := by
  rcases inv.held known alive with map | functor
  · simp [TcpServer.owned, map]
  · simp [TcpServer.owned, functor]

/-! ## Accepting and running functors -/

variable {sockfd : Nat}

theorem createConnection_fd_old (known : conn < server.accepted) :
    (server.createConnection sockfd).fd conn = server.fd conn := by
  rw [fd, createConnection_conns_other (Nat.ne_of_lt known), fd]

theorem createConnection_fd_new :
    (server.createConnection sockfd).fd server.accepted = sockfd := by
  simp [createConnection, fd, TcpConnection.new, Channel.new]

theorem createConnection_named (registry : Registry server)
    (few : server.accepted + 1 < 2 ^ 31) (known : conn < server.accepted + 1) :
    ((server.createConnection sockfd).conns conn).name =
      connName server.name server.address.toIpPort (conn + 1 : Nat) := by
  rcases Nat.lt_succ_iff_lt_or_eq.mp known with before | rfl
  · rw [createConnection_conns_other (Nat.ne_of_lt before), registry.named conn before]
  · simp [createConnection, registry.counter few, TcpConnection.new]

theorem Registry.createConnection (registry : Registry server)
    (few : server.accepted + 1 < 2 ^ 31) : Registry (server.createConnection sockfd) where
  bounded := few
  counter more := by
    change nextId server.nextConnId = _
    rw [registry.counter few]
    exact nextId_of_lt more
  named conn known := createConnection_named registry few known
  loop_le conn known := by
    rcases Nat.lt_succ_iff_lt_or_eq.mp known with before | rfl
    · rw [createConnection_connLoop_other (Nat.ne_of_lt before)]
      exact registry.loop_le conn before
    · simpa [TcpServer.createConnection] using getNextLoop_le registry.next_lt
  next_lt := getNextLoop_next registry.next_lt

theorem LifeInv.createConnection_mapped (inv : LifeInv server stage none)
    (few : server.accepted + 1 < 2 ^ 31) (name : String) (conn : Nat) :
    (server.createConnection sockfd).connections name = some conn ↔
      conn < server.accepted + 1 ∧
        ((server.createConnection sockfd).conns conn).name = name ∧
        (Function.update stage server.accepted .connecting conn).mapped = true := by
  have counter := inv.registry.counter few
  change Function.update server.connections _ _ name = some conn ↔ _
  rw [counter]
  by_cases new_name :
      name = connName server.name server.address.toIpPort (server.accepted + 1 : Nat)
  · subst new_name
    rw [Function.update_self]
    constructor
    · intro same
      cases same
      refine ⟨Nat.lt_succ_self _, createConnection_named inv.registry few (Nat.lt_succ_self _), ?_⟩
      rw [Function.update_self]
      rfl
    · intro given
      obtain ⟨known, named, _⟩ := given
      rw [createConnection_named inv.registry few known] at named
      have same := connName_injective (by omega) few named
      exact congrArg some (by omega)
  · rw [Function.update_of_ne new_name]
    by_cases new : conn = server.accepted
    · subst new
      rw [createConnection_named inv.registry few (Nat.lt_succ_self _)]
      constructor
      · intro found
        exact absurd ((inv.mapped _ _).mp found).1 (Nat.lt_irrefl _)
      · intro given
        obtain ⟨_, named, _⟩ := given
        exact absurd named.symm new_name
    · rw [Function.update_of_ne new, inv.mapped]
      have bounds : conn < server.accepted + 1 ↔ conn < server.accepted := by omega
      constructor
      · intro given
        obtain ⟨known, named, mapped⟩ := given
        rw [createConnection_conns_other (Nat.ne_of_lt known)]
        exact ⟨bounds.mpr known, named, mapped⟩
      · intro given
        obtain ⟨known, named, mapped⟩ := given
        rw [createConnection_conns_other (Nat.ne_of_lt (bounds.mp known))] at named
        exact ⟨bounds.mp known, named, mapped⟩

theorem LifeInv.createConnection_duties (inv : LifeInv server stage none) (loop : Nat)
    {functor : ServerFunctor} (named : functor.isCallback = false) :
    (server.loops loop).queue.waiting.count functor +
        inHand (some (server.getNextLoop.1, .connectEstablished server.accepted)) loop functor =
      (server.createConnection sockfd).dueCount
        (Function.update stage server.accepted .connecting) loop functor := by
  have before := inv.duties loop functor named
  have no_hand : inHand none loop functor = 0 := rfl
  have accepted : (server.createConnection sockfd).accepted = server.accepted + 1 := rfl
  unfold dueCount at before ⊢
  rw [accepted]
  by_cases new : functor.conn = server.accepted
  · rw [new, if_neg (Nat.lt_irrefl _)] at before
    rw [new, if_pos (Nat.lt_succ_self _), Function.update_self]
    have duty : (server.createConnection sockfd).dutyOf server.accepted .connecting =
        some (server.getNextLoop.1, .connectEstablished server.accepted) := by
      simp [dutyOf, TcpServer.createConnection]
    rw [duty]
    omega
  · have not_in_hand :
        inHand (some (server.getNextLoop.1, .connectEstablished server.accepted)) loop functor =
          0 := by
      refine if_neg fun same => ?_
      cases same
      exact new rfl
    rw [Function.update_of_ne new]
    by_cases known : functor.conn < server.accepted
    · have duty : (server.createConnection sockfd).dutyOf functor.conn (stage functor.conn) =
          server.dutyOf functor.conn (stage functor.conn) := by
        have same_loop := @createConnection_connLoop_other _ _ sockfd (Nat.ne_of_lt known)
        cases stage functor.conn <;> simp [dutyOf, same_loop]
      rw [if_pos (Nat.lt_succ_of_lt known), duty]
      rw [if_pos known] at before
      omega
    · rw [if_neg (by omega)]
      rw [if_neg known] at before
      omega

theorem LifeInv.createConnection_fds (inv : LifeInv server stage none)
    (unused : server.unusedFd sockfd) {old : Nat} (known : old < server.accepted)
    (alive : stage old ≠ .destroyed) :
    (server.createConnection sockfd).fd old ≠
      (server.createConnection sockfd).fd server.accepted := by
  rw [createConnection_fd_old known, createConnection_fd_new]
  exact unused old known (inv.owned known alive)

theorem LifeInv.createConnection (inv : LifeInv server stage none)
    (few : server.accepted + 1 < 2 ^ 31) (unused : server.unusedFd sockfd) :
    LifeInv (server.createConnection sockfd) (Function.update stage server.accepted .connecting)
      (some (server.getNextLoop.1, .connectEstablished server.accepted)) where
  registry := inv.registry.createConnection few
  traced conn known := by
    rcases Nat.lt_succ_iff_lt_or_eq.mp known with before | rfl
    · rw [Function.update_of_ne (Nat.ne_of_lt before)]
      exact inv.traced conn before
    · have none_yet : (server.createConnection sockfd).eventsOf server.accepted = [] := by
        simp only [eventsOf, TcpServer.createConnection, List.filterMap_eq_nil_iff]
        intro entry member
        simp [Nat.ne_of_lt (inv.recorded entry member)]
      rw [Function.update_self, none_yet]
      rfl
  recorded entry member := Nat.lt_succ_of_lt (inv.recorded entry member)
  shape conn known := by
    rcases Nat.lt_succ_iff_lt_or_eq.mp known with before | rfl
    · have old := Nat.ne_of_lt before
      rw [Function.update_of_ne old, createConnection_conns_other old,
        createConnection_connLoop_other old]
      exact inv.shape conn before
    · rw [Function.update_self]
      have new : (server.createConnection sockfd).conns server.accepted =
          { TcpConnection.new (connName server.name server.address.toIpPort server.nextConnId)
              sockfd with
            writeCompleteCallback := server.writeCompleteCallback } := by
        simp [TcpServer.createConnection]
      rw [new]
      exact ⟨rfl, rfl, Buffer.new_readable _⟩
  mapped := inv.createConnection_mapped few
  duties loop functor named := inv.createConnection_duties loop named
  dispatch loop := by
    have dispatch := inv.dispatch loop
    refine ⟨fun event member => ?_, dispatch.distinct, fun conn rest handling => ?_,
      dispatch.outside, dispatch.batch⟩
    · obtain ⟨known, own_loop, up, once⟩ := dispatch.active event member
      refine ⟨Nat.lt_succ_of_lt known, ?_, ?_, once⟩
      · rw [createConnection_connLoop_other (Nat.ne_of_lt known)]; exact own_loop
      · rw [Function.update_of_ne (Nat.ne_of_lt known)]; exact up
    · obtain ⟨known, own_loop, apart, may⟩ := dispatch.handling conn rest handling
      refine ⟨Nat.lt_succ_of_lt known, ?_, apart, ?_⟩
      · rw [createConnection_connLoop_other (Nat.ne_of_lt known)]; exact own_loop
      · rw [Function.update_of_ne (Nat.ne_of_lt known)]; exact may
  fds left left_known right right_known left_alive right_alive same := by
    rcases Nat.lt_succ_iff_lt_or_eq.mp left_known with left_old | rfl <;>
      rcases Nat.lt_succ_iff_lt_or_eq.mp right_known with right_old | rfl
    · rw [Function.update_of_ne (Nat.ne_of_lt left_old)] at left_alive
      rw [Function.update_of_ne (Nat.ne_of_lt right_old)] at right_alive
      rw [createConnection_fd_old left_old, createConnection_fd_old right_old] at same
      exact inv.fds left left_old right right_old left_alive right_alive same
    · rw [Function.update_of_ne (Nat.ne_of_lt left_old)] at left_alive
      exact absurd same (inv.createConnection_fds unused left_old left_alive)
    · rw [Function.update_of_ne (Nat.ne_of_lt right_old)] at right_alive
      exact absurd same.symm (inv.createConnection_fds unused right_old right_alive)
    · rfl
  channels loop fd conn found := by
    obtain ⟨known, own_loop, own_fd, registered⟩ := inv.channels loop fd conn found
    rw [createConnection_connLoop_other (Nat.ne_of_lt known), createConnection_fd_old known,
      Function.update_of_ne (Nat.ne_of_lt known)]
    exact ⟨Nat.lt_succ_of_lt known, own_loop, own_fd, registered⟩
  interest loop fd mask conn found := by
    obtain ⟨known, own_loop, own_fd, up⟩ := inv.interest loop fd mask conn found
    rw [createConnection_connLoop_other (Nat.ne_of_lt known), createConnection_fd_old known,
      Function.update_of_ne (Nat.ne_of_lt known)]
    exact ⟨Nat.lt_succ_of_lt known, own_loop, own_fd, up⟩

theorem LifeInv.newConnection (inv : LifeInv server stage none)
    (few : server.accepted + 1 < 2 ^ 31) (unused : server.unusedFd sockfd) :
    ∃ stage', LifeInv (server.newConnection sockfd) stage' none := by
  have created := inv.createConnection few unused
  unfold TcpServer.newConnection
  dsimp only
  split
  · exact ⟨_, created.connectEstablished⟩
  · exact ⟨_, created.queueInLoop⟩

theorem LifeInv.take (inv : LifeInv server stage none) {loop : Nat} {functor : ServerFunctor}
    {rest : BatchQueue ServerFunctor} (calling : (server.loops loop).phase = .calling)
    (item : (server.loops loop).queue.next? = some (functor, rest)) :
    LifeInv (server.setLoop loop { server.loops loop with queue := rest }) stage
      (if functor.isCallback then none else some (loop, functor)) := by
  have waiting := BatchQueue.next?_waiting item
  have dispatch := inv.dispatch loop
  refine inv.setLoop rfl ?_ ?_ ⟨dispatch.active, dispatch.distinct, dispatch.handling,
    dispatch.outside, fun not_calling => absurd calling not_calling⟩
  · intro other named
    rw [waiting, List.count_cons]
    by_cases same : functor = other
    · subst same
      simp [inHand, named]
    · by_cases callback : functor.isCallback = true
      · simp [inHand, same, callback]
      · simp [inHand, same, callback]
  · intro other different other_functor
    by_cases callback : functor.isCallback = true
    · simp [inHand, callback]
    · simp [inHand, callback, Ne.symm different]

theorem LifeInv.runFunctor (inv : LifeInv server stage none) {loop : Nat}
    {functor : ServerFunctor} {rest : BatchQueue ServerFunctor}
    (calling : (server.loops loop).phase = .calling)
    (item : (server.loops loop).queue.next? = some (functor, rest)) (answer : WriteAnswer) :
    ∃ stage', LifeInv
      ((server.setLoop loop { server.loops loop with queue := rest }).runFunctor functor answer)
      stage' none := by
  have taken := inv.take calling item
  cases functor with
  | connectEstablished conn => exact ⟨_, taken.connectEstablished⟩
  | removeConnectionInLoop conn =>
      have base : loop = 0 := by
        obtain ⟨_, duty⟩ := LifeInv.in_hand taken rfl
        simp only [ServerFunctor.conn] at duty
        cases at_stage : stage conn <;> simp_all [dutyOf]
      subst base
      exact ⟨_, taken.removeConnectionInLoop⟩
  | connectDestroyed conn =>
      refine ⟨_, taken.connectDestroyed ?_⟩
      simpa [TcpServer.setLoop] using calling
  | callback conn => exact ⟨_, taken⟩
  | sendInLoop conn data =>
      obtain ⟨_, duty⟩ := LifeInv.in_hand taken rfl
      simp only [ServerFunctor.conn] at duty
      cases at_stage : stage conn <;> simp_all [dutyOf]
  | shutdownInLoop conn =>
      obtain ⟨_, duty⟩ := LifeInv.in_hand taken rfl
      simp only [ServerFunctor.conn] at duty
      cases at_stage : stage conn <;> simp_all [dutyOf]

/-! ## Runs -/

/-- The steps of a server that is not destroyed and whose connections are used
on their own loops only: fewer than `2 ^ 31` connections are accepted, and the
kernel does not report a hang-up together with urgent data alone. -/
def LifecycleStep (server : TcpServer) : ServerLabel → Prop
  | .accept _ => server.accepted + 1 < 2 ^ 31
  | .poll _ events => ∀ event ∈ events,
      ¬ (event.2.epollhup = true ∧ event.2.epollpri = true ∧ event.2.epollin = false)
  | .call _ _ | .proceed _ | .destroy | .destroyNext _ | .joinThreads => False
  | _ => True

theorem handleEventWithGuard_mayClose {revents : Events}
    (plain : ¬ (revents.epollhup = true ∧ revents.epollpri = true ∧ revents.epollin = false)) :
    (handleEventWithGuard revents).countP Handler.mayClose ≤ 1 := by
  obtain ⟨epollin, epollpri, epollout, epollerr, epollhup⟩ := revents
  revert plain
  cases epollin <;> cases epollpri <;> cases epollout <;> cases epollerr <;> cases epollhup <;>
    decide

theorem LifeInv.poll (inv : LifeInv server stage none) {loop : Nat}
    {events : List (Nat × Events)} (polling : (server.loops loop).phase = .polling)
    (reported : server.reportable loop events)
    (plain : ∀ event ∈ events,
      ¬ (event.2.epollhup = true ∧ event.2.epollpri = true ∧ event.2.epollin = false)) :
    LifeInv (server.setLoop loop
      { server.loops loop with phase := .dispatching, active := events }) stage none := by
  have dispatch := inv.dispatch loop
  obtain ⟨distinct, watched⟩ := reported
  obtain ⟨_, none_handling⟩ := dispatch.outside (by simp [polling])
  refine inv.setLoop rfl (fun _ _ => rfl) (fun _ _ _ => rfl)
    ⟨fun event member => ?_, distinct, ?_, by simp, fun _ => dispatch.batch (by simp [polling])⟩
  · have reports := watched event member
    cases found : (server.loops loop).poller.interest (server.fd event.1) with
    | none => simp [found] at reports
    | some entry =>
        obtain ⟨mask, pointer⟩ := entry
        have own : pointer = event.1 := by simpa [found] using reports
        subst own
        obtain ⟨known, own_loop, _, up⟩ := inv.interest _ _ _ _ found
        exact ⟨known, own_loop, up, handleEventWithGuard_mayClose (plain event member)⟩
  · simp [none_handling]

theorem LifeInv.handleEvent (inv : LifeInv server stage none) {loop : Nat} {revents : Events}
    {rest : List (Nat × Events)} (dispatching : (server.loops loop).phase = .dispatching)
    (head : (server.loops loop).active = (conn, revents) :: rest) :
    LifeInv (server.setLoop loop
      { server.loops loop with
        active := rest
        handling := some (conn, handleEventWithGuard revents) }) stage none := by
  have dispatch := inv.dispatch loop
  have distinct := dispatch.distinct
  rw [head, List.map_cons, List.nodup_cons] at distinct
  refine inv.setLoop rfl (fun _ _ => rfl) (fun _ _ _ => rfl)
    ⟨fun event member => ?_, distinct.2, ?_, fun outside => absurd dispatching outside,
      dispatch.batch⟩
  · exact dispatch.active event (by rw [head]; exact List.mem_cons_of_mem _ member)
  · intro other handlers same
    cases same
    obtain ⟨known, own_loop, up, once⟩ :=
      dispatch.active (conn, revents) (by rw [head]; exact List.mem_cons_self)
    refine ⟨known, own_loop, distinct.1, ?_⟩
    change stage conn = .up at up
    rw [up]
    exact once

theorem LifeInv.skip (inv : LifeInv server stage none) {loop : Nat} {revents : Events}
    {rest : List (Nat × Events)} (dispatching : (server.loops loop).phase = .dispatching)
    (head : (server.loops loop).active = (conn, revents) :: rest)
    (none_handling : (server.loops loop).handling = none) :
    LifeInv (server.setLoop loop { server.loops loop with active := rest }) stage none := by
  have dispatch := inv.dispatch loop
  have distinct := dispatch.distinct
  rw [head, List.map_cons, List.nodup_cons] at distinct
  refine inv.setLoop rfl (fun _ _ => rfl) (fun _ _ _ => rfl)
    ⟨fun event member => ?_, distinct.2, by simp [none_handling],
      fun outside => absurd dispatching outside, dispatch.batch⟩
  exact dispatch.active event (by rw [head]; exact List.mem_cons_of_mem _ member)

theorem LifeInv.handler (inv : LifeInv server stage none) {loop : Nat} {handler : Handler}
    {rest : List Handler} (dispatching : (server.loops loop).phase = .dispatching)
    (handling : (server.loops loop).handling = some (conn, handler :: rest))
    (readAnswer : ReadAnswer) (writeAnswer : WriteAnswer) :
    ∃ stage', LifeInv ((server.setLoop loop
      { server.loops loop with handling := some (conn, rest) }).handle conn handler readAnswer
        writeAnswer) stage' none := by
  have dispatch := inv.dispatch loop
  obtain ⟨known, own_loop, apart, may⟩ := dispatch.handling conn _ handling
  have popped : LifeInv (server.setLoop loop
      { server.loops loop with handling := some (conn, rest) }) stage none := by
    refine inv.setLoop rfl (fun _ _ => rfl) (fun _ _ _ => rfl)
      ⟨dispatch.active, dispatch.distinct, ?_, fun outside => absurd dispatching outside,
        dispatch.batch⟩
    intro other handlers same
    cases same
    exact ⟨known, own_loop, apart, may.tail⟩
  refine popped.handle known ?_ may readAnswer writeAnswer
  subst own_loop
  simp [TcpServer.setLoop]

theorem LifeInv.step (inv : LifeInv server stage none) (allowed : server.LifecycleStep label)
    (taken : Transition server label next) : ∃ stage', LifeInv next stage' none := by
  cases taken with
  | accept _ _ unused => exact inv.newConnection allowed unused
  | poll _ polling reported => exact ⟨_, inv.poll polling reported allowed⟩
  | skip _ dispatching head none_handling => exact ⟨_, inv.skip dispatching head none_handling⟩
  | handleEvent _ dispatching head => exact ⟨_, inv.handleEvent dispatching head⟩
  | handler _ dispatching handling => exact inv.handler dispatching handling _ _
  | @handled loop conn _ dispatching handling =>
      have dispatch := inv.dispatch loop
      exact ⟨_, inv.setLoop rfl (fun _ _ => rfl) (fun _ _ _ => rfl)
        ⟨dispatch.active, dispatch.distinct, by simp, fun outside => absurd dispatching outside,
          dispatch.batch⟩⟩
  | @swap loop _ dispatching idle =>
      have dispatch := inv.dispatch loop
      have drained := dispatch.batch (by simp [dispatching])
      have nothing : (server.loops loop).active = [] ∧ (server.loops loop).handling = none := by
        simpa [LoopThread.idle] using idle
      refine ⟨_, inv.setLoop rfl (fun functor _ => ?_) (fun _ _ _ => rfl)
        ⟨dispatch.active, dispatch.distinct, dispatch.handling, fun _ => nothing, by simp⟩⟩
      rw [BatchQueue.swap_waiting drained]
  | runFunctor _ calling item => exact inv.runFunctor calling item _
  | @finish loop _ calling drained =>
      have dispatch := inv.dispatch loop
      exact ⟨_, inv.setLoop rfl (fun _ _ => rfl) (fun _ _ _ => rfl)
        ⟨dispatch.active, dispatch.distinct, dispatch.handling,
          fun _ => dispatch.outside (by simp [calling]), fun _ => drained⟩⟩
  | userCode known calls => exact ⟨_, inv.userCode known calls⟩
  | call | proceed | destroy | destroyNext | joinThreads => exact allowed.elim

theorem lifeInv_init (name : String) (address : InetAddress) (numThreads : Nat)
    (callback : Bool) :
    LifeInv (init name address numThreads callback) (fun _ => .connecting) none where
  registry :=
    { bounded := (by decide : 0 < 2 ^ 31)
      counter := fun _ => rfl
      named := fun _ known => absurd known (Nat.not_lt_zero _)
      loop_le := fun _ known => absurd known (Nat.not_lt_zero _)
      next_lt := Nat.pos_of_ne_zero }
  traced _ known := absurd known (Nat.not_lt_zero _)
  recorded _ member := by cases member
  shape _ known := absurd known (Nat.not_lt_zero _)
  mapped name conn := by
    constructor
    · intro found
      cases found
    · intro given
      obtain ⟨known, _⟩ := given
      exact absurd known (Nat.not_lt_zero _)
  duties loop functor _ := by
    simp [init, LoopThread.init, BatchQueue.empty, BatchQueue.waiting, dueCount, inHand]
  dispatch loop :=
    { active := by simp [init, LoopThread.init]
      distinct := by simp [init, LoopThread.init]
      handling := by simp [init, LoopThread.init]
      outside := by simp [init, LoopThread.init]
      batch := by simp [init, LoopThread.init, BatchQueue.empty] }
  fds _ known := absurd known (Nat.not_lt_zero _)
  channels _ _ _ found := by cases found
  interest _ _ _ _ found := by cases found

theorem LifeInv.run {start final : TcpServer} {labels : List ServerLabel}
    (run : machine.Runs LifecycleStep start labels final)
    (initial : ∃ stage, LifeInv start stage none) : ∃ stage, LifeInv final stage none :=
  run.invariant (fun server => ∃ stage, LifeInv server stage none)
    (fun _ _ _ allowed taken ⟨_, inv⟩ => inv.step allowed (step_transition taken)) initial

/-- The loop has no trace of a channel: not in its poller, not in the kernel's
interest set, and not among the channels that it is dispatching. -/
structure Forgotten (thread : LoopThread) (conn : Nat) : Prop where
  channels : ∀ fd, thread.poller.channels fd ≠ some conn
  interest : ∀ fd mask, thread.poller.interest fd ≠ some (mask, conn)
  active : conn ∉ thread.active.map Prod.fst
  handling : ∀ rest, thread.handling ≠ some (conn, rest)

theorem LifeInv.forgotten (inv : LifeInv server stage hand) (gone : stage conn = .destroyed)
    (loop : Nat) : Forgotten (server.loops loop) conn where
  channels fd found := by
    have registered := (inv.channels loop fd conn found).2.2.2
    rw [gone] at registered
    cases registered
  interest fd mask found := by
    have up := (inv.interest loop fd mask conn found).2.2.2
    rw [gone] at up
    cases up
  active member := by
    obtain ⟨event, active, rfl⟩ := List.mem_map.mp member
    have up := ((inv.dispatch loop).active event active).2.2.1
    rw [gone] at up
    cases up
  handling rest found := by
    have may := ((inv.dispatch loop).handling conn rest found).2.2.2
    rw [gone] at may
    exact may

/-- The life of every accepted connection, in every run of a server with any
number of I/O loops: its history is orderly, the map holds it from its creation
to its removal, something holds it until it is destroyed, and after that its
channel is nowhere. -/
theorem connection_lifecycle (name : String) (address : InetAddress) (numThreads : Nat)
    (callback : Bool) (labels : List ServerLabel) (final : TcpServer)
    (run : machine.Runs LifecycleStep (init name address numThreads callback) labels final) :
    ∀ conn < final.accepted,
      OrderlyLife (final.eventsOf conn) ∧
      (∀ key, final.connections key = some conn ↔
        (final.conns conn).name = key ∧ .removeConnectionInLoop ∉ final.eventsOf conn) ∧
      (.connectDestroyed ∉ final.eventsOf conn →
        final.heldByMap conn = true ∨ final.heldByFunctor conn = true) ∧
      (.connectDestroyed ∈ final.eventsOf conn →
        ∀ loop, Forgotten (final.loops loop) conn) := by
  obtain ⟨stage, inv⟩ := LifeInv.run run ⟨_, lifeInv_init name address numThreads callback⟩
  intro conn known
  have traced := inv.traced conn known
  have removed_iff : .removeConnectionInLoop ∈ final.eventsOf conn ↔
      (stage conn).mapped = false := by
    rw [LifeStage.mem_iff_rank_lt rfl (Nat.zero_le _) traced]
    cases stage conn <;> simp [LifeStage.rank, LifeStage.mapped]
  have destroyed_iff : .connectDestroyed ∈ final.eventsOf conn ↔ stage conn = .destroyed := by
    rw [LifeStage.mem_iff_rank_lt rfl (Nat.zero_le _) traced]
    cases stage conn <;> simp [LifeStage.rank]
  refine ⟨orderlyLife_of_run traced, fun key => ?_, fun alive => ?_, fun gone => ?_⟩
  · rw [inv.mapped, removed_iff, Bool.not_eq_false]
    exact ⟨fun held => held.2, fun held => ⟨known, held⟩⟩
  · exact inv.held known fun gone => alive (destroyed_iff.mpr gone)
  · exact fun loop => inv.forgotten (destroyed_iff.mp gone) loop

/-- A whole life over two loops: the base loop accepts, the I/O loop establishes
and meets a hang-up, the base loop removes, and the I/O loop destroys. -/
def hangUp : List ServerLabel :=
  [.poll 0 [], .accept 5, .poll 1 [], .doPendingFunctors 1, .runFunctor 1 (.accepts 0), .finish 1,
    .poll 1 [(0, ⟨false, false, false, false, true⟩)], .handleEvent 1,
    .handler 1 (.yields []) (.accepts 0), .handled 1, .doPendingFunctors 0,
    .runFunctor 0 (.accepts 0), .doPendingFunctors 1, .runFunctor 1 (.accepts 0)]

theorem connection_lifecycle_hang_up : ∃ final,
    machine.Runs LifecycleStep (init "chat" ⟨(127, 0, 0, 1), 8000⟩ 1 false) hangUp final ∧
      .connectDestroyed ∈ final.eventsOf 0 ∧ OrderlyLife (final.eventsOf 0) ∧
      ∀ loop, Forgotten (final.loops loop) 0 := by
  have plain : ∀ event ∈ ([] : List (Nat × Events)),
      ¬ (event.2.epollhup = true ∧ event.2.epollpri = true ∧ event.2.epollin = false) := by
    simp
  obtain ⟨final, run, known, gone⟩ : ∃ final,
      machine.Runs LifecycleStep (init "chat" ⟨(127, 0, 0, 1), 8000⟩ 1 false) hangUp final ∧
        0 < final.accepted ∧ .connectDestroyed ∈ final.eventsOf 0 :=
    ⟨_, .cons plain rfl <| .cons (by decide : 0 + 1 < 2 ^ 31) rfl <| .cons plain rfl <|
      .cons trivial rfl <| .cons trivial rfl <| .cons trivial rfl <|
      .cons (by simp [LifecycleStep]) rfl <| .cons trivial rfl <| .cons trivial rfl <|
      .cons trivial rfl <| .cons trivial rfl <| .cons trivial rfl <| .cons trivial rfl <|
      .cons trivial rfl .nil, by decide, by decide⟩
  have life := connection_lifecycle _ _ _ _ _ _ run 0 known
  exact ⟨final, run, gone, life.1, life.2.2.2 gone⟩

end TcpServer

end TalkSystem.Net
