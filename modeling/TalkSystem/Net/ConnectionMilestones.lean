import TalkSystem.Net.LifecycleInvariant

/-!
# The milestones of a connection

Each method, handler and functor moves one connection on by the events that it
records.
-/

set_option autoImplicit false

namespace TalkSystem.Net

open Endpoint

namespace TcpServer

variable {server next : TcpServer} {label : ServerLabel} {stage : Nat → LifeStage}
  {conn : Nat} {after : Endpoint Nat} {events : List LifeEvent}
  {hand : Option (Nat × ServerFunctor)} {final : LifeStage}

/-! ## The methods -/

theorem Moves.live (live : after.Live) (self : after.self = conn)
    (state : after.conn.state = .kConnected ∨ after.conn.state = .kDisconnecting)
    (name : after.conn.name = (server.conns conn).name)
    (fd : after.conn.channel.fd = server.fd conn)
    (agree : AgreeExcept (server.fd conn) (server.loops (server.connLoop conn)).poller
      after.poller)
    (alive : stage conn ≠ .destroyed) : Moves server stage conn after .up where
  name := name
  fd := fd
  agree := agree
  shape := ⟨⟨⟨live.watched.index, self ▸ live.watched.stored, self ▸ live.watched.known⟩,
    live.reading, live.writing_iff⟩, state⟩
  untouched destroyed := absurd destroyed alive
  channels other found := by
    rw [← fd, live.watched.known] at found
    cases found
    exact .inl ⟨self, rfl⟩
  interest mask other found := by
    rw [← fd, live.watched.stored] at found
    cases found
    exact .inl ⟨self, rfl⟩

theorem Moves.same (inv : LifeInv server stage hand) (known : conn < server.accepted)
    (name : after.conn.name = (server.conns conn).name)
    (state : after.conn.state = (server.conns conn).state)
    (channel : after.conn.channel = (server.conns conn).channel)
    (output : after.conn.outputBuffer = (server.conns conn).outputBuffer)
    (poller : after.poller = (server.loops (server.connLoop conn)).poller) :
    Moves server stage conn after (stage conn) where
  name := name
  fd := by rw [channel]; rfl
  agree := by rw [poller]; exact .refl _ _
  shape := by
    have shape := inv.shape conn known
    rw [poller]
    generalize stage conn = stage at shape
    cases stage with
    | up =>
        obtain ⟨live, up⟩ := shape
        refine ⟨⟨⟨?_, ?_, ?_⟩, ?_, ?_⟩, by rw [state]; exact up⟩
        · exact (congrArg Channel.index channel).trans live.watched.index
        · exact channel ▸ live.watched.stored
        · exact channel ▸ live.watched.known
        · exact (congrArg (fun channel => channel.events.epollin) channel).trans live.reading
        · exact channel ▸ output ▸ live.writing_iff
    | connecting => simpa [Shape, state, channel, output] using shape
    | closing | removed => simpa [Shape, state, channel] using shape
    | destroyed => exact state.trans shape
  untouched _ := poller
  channels other found := by
    rw [poller] at found
    by_cases same : other = conn
    · subst same
      exact .inl ⟨rfl, (inv.channels _ _ _ found).2.2.2⟩
    · exact .inr ⟨same, found⟩
  interest mask other found := by
    rw [poller] at found
    by_cases same : other = conn
    · subst same
      exact .inl ⟨rfl, (inv.interest _ _ _ _ found).2.2.2⟩
    · exact .inr ⟨same, found⟩

theorem LifeInv.in_hand {loop : Nat} {functor : ServerFunctor}
    (inv : LifeInv server stage (some (loop, functor))) (named : functor.isCallback = false) :
    functor.conn < server.accepted ∧
      server.dutyOf functor.conn (stage functor.conn) = some (loop, functor) := by
  have counted := inv.duties loop functor named
  have once : inHand (some (loop, functor)) loop functor = 1 := if_pos rfl
  rw [once, dueCount] at counted
  split at counted
  · next known =>
      refine ⟨known, ?_⟩
      unfold inHand at counted
      split at counted
      · next duty => exact duty
      · omega
  · omega

/-! ## The four milestones -/

theorem LifeInv.not_active (inv : LifeInv server stage hand) (not_up : stage conn ≠ .up) :
    conn ∉ (server.loops (server.connLoop conn)).active.map Prod.fst := by
  intro member
  obtain ⟨event, active, rfl⟩ := List.mem_map.mp member
  exact not_up ((inv.dispatch _).active event active).2.2.1

theorem LifeInv.not_watched (inv : LifeInv server stage hand) (known : conn < server.accepted)
    (not_up : stage conn ≠ .up) (alive : stage conn ≠ .destroyed) :
    (server.loops (server.connLoop conn)).poller.interest (server.fd conn) = none := by
  cases entry : (server.loops (server.connLoop conn)).poller.interest (server.fd conn) with
  | none => rfl
  | some found =>
      obtain ⟨mask, other⟩ := found
      obtain ⟨other_known, _, same_fd, up⟩ := inv.interest _ _ _ _ entry
      have same := inv.fds other other_known conn known (by simp [up]) alive same_fd
      exact absurd (same ▸ up) not_up

theorem Registry.name_injective (registry : Registry server) {left right : Nat}
    (left_known : left < server.accepted) (right_known : right < server.accepted)
    (same : (server.conns left).name = (server.conns right).name) : left = right := by
  have bounded := registry.bounded
  rw [registry.named left left_known, registry.named right right_known] at same
  have counters := connName_injective (by omega) (by omega) same
  omega

theorem LifeInv.map_kept (inv : LifeInv server stage hand) (known : conn < server.accepted)
    (same : final.mapped = (stage conn).mapped) (name : String) (other : Nat) :
    server.connections name = some other ↔
      (other = conn ∧ (server.conns conn).name = name ∧ final.mapped = true) ∨
        (other ≠ conn ∧ server.connections name = some other) := by
  by_cases own : other = conn
  · subst own
    simp [inv.mapped, known, same]
  · simp [own]

theorem LifeInv.map_erased (inv : LifeInv server stage hand) (known : conn < server.accepted)
    (unmapped : final.mapped = false) (name : String) (other : Nat) :
    Function.update server.connections (server.conns conn).name none name = some other ↔
      (other = conn ∧ (server.conns conn).name = name ∧ final.mapped = true) ∨
        (other ≠ conn ∧ server.connections name = some other) := by
  have others_name (found : server.connections name = some other)
      (different : other ≠ conn) : name ≠ (server.conns conn).name := by
    obtain ⟨other_known, same, _⟩ := (inv.mapped name other).mp found
    exact fun own => different (inv.registry.name_injective other_known known (same.trans own))
  by_cases own_name : name = (server.conns conn).name
  · subst own_name
    rw [Function.update_self]
    simp only [reduceCtorEq, unmapped, Bool.false_eq_true, and_false, false_or, false_iff, not_and]
    exact fun different found => others_name found different rfl
  · rw [Function.update_of_ne own_name]
    constructor
    · intro found
      refine .inr ⟨?_, found⟩
      rintro rfl
      exact own_name ((inv.mapped name other).mp found).2.1.symm
    · rintro (⟨_, same, _⟩ | ⟨_, found⟩)
      · exact absurd same.symm own_name
      · exact found

theorem LifeInv.connectEstablished {loop : Nat}
    (inv : LifeInv server stage (some (loop, .connectEstablished conn))) :
    LifeInv (server.connectEstablished conn) (Function.update stage conn .up) none := by
  obtain ⟨known, duty⟩ := inv.in_hand rfl
  simp only [ServerFunctor.conn] at known duty
  have connecting : stage conn = .connecting := by
    cases at_stage : stage conn <;> simp_all [dutyOf]
  obtain ⟨state, channel, empty⟩ : Shape conn _ _ .connecting := connecting ▸ inv.shape conn known
  have unused := inv.not_watched known (by simp [connecting]) (by simp [connecting])
  have live : ((server.site conn).connectEstablished).Live := by
    apply connectEstablished_live
    · exact ⟨by rw [show (server.site conn).conn.channel = Channel.new _ from channel]; rfl, unused⟩
    · rw [show (server.site conn).conn.channel = Channel.new _ from channel]; rfl
    · exact empty
  rw [TcpServer.connectEstablished, perform_open (by simp [site]), record_moved]
  refine inv.move known
    (Moves.live live rfl (.inl rfl) rfl connectEstablished_fd ?_ (by simp [connecting])) ?_
    (inv.map_kept known (by simp [connecting, LifeStage.mapped])) (.inl ⟨duty.symm, rfl⟩)
    (by simp [connecting]) (fun _ => rfl) ?_
  · exact @connectEstablished_agree Nat (server.site conn)
  · rw [connecting]; rfl
  · intro rest handling
    have may := ((inv.dispatch _).handling conn rest handling).2.2.2
    rw [connecting] at may
    exact may.elim

def withInput (server : TcpServer) (conn : Nat) (input : Buffer) : Endpoint Nat :=
  { server.site conn with conn := { server.conns conn with inputBuffer := input } }

/-- The first part of closing: the connection goes down and its removal is in
hand. -/
theorem LifeInv.close (inv : LifeInv server stage none) (known : conn < server.accepted)
    (up : stage conn = .up) (input : Buffer) (before : List LifeEvent)
    (reads : LifeStage.up.run before = some .up)
    (apart : conn ∉ (server.loops (server.connLoop conn)).active.map Prod.fst)
    (last : ∀ rest, (server.loops (server.connLoop conn)).handling = some (conn, rest) →
      rest.countP Handler.mayClose = 0) :
    LifeInv (server.moved conn (server.withInput conn input).handleClose
        (before ++ [.handleClose]) server.connections)
      (Function.update stage conn .closing) (some (0, .removeConnectionInLoop conn)) := by
  obtain ⟨live, _⟩ : Shape conn _ _ .up := up ▸ inv.shape conn known
  have filled : (server.withInput conn input).Live :=
    ⟨live.watched, live.reading, live.writing_iff⟩
  have unwatched := filled.handleClose
  have fd : (server.withInput conn input).handleClose.conn.channel.fd = server.fd conn :=
    handleClose_fd
  have agree := @handleClose_agree Nat (server.withInput conn input)
  refine inv.move known ⟨rfl, fd, agree, ⟨rfl, unwatched.index, ?_⟩, by simp [up],
    ?_, ?_⟩ ?_ (inv.map_kept known (by simp [up, LifeStage.mapped]))
    (.inl ⟨by rw [up]; rfl, rfl⟩) (by simp [up]) (fun active => absurd active apart) last
  · exact notifyDown_stopped
  · intro other found
    rw [← fd, unwatched.known] at found
    cases found
    exact .inl ⟨rfl, rfl⟩
  · intro mask other found
    rw [← fd, unwatched.stored] at found
    cases found
  · rw [up]
    exact LifeStage.run_concat reads rfl

/-- The second part: the map forgets the connection. -/
theorem LifeInv.removeConnectionInLoop
    (inv : LifeInv server stage (some (0, .removeConnectionInLoop conn))) :
    LifeInv (server.removeConnectionInLoop conn) (Function.update stage conn .removed) none := by
  obtain ⟨known, duty⟩ := inv.in_hand rfl
  simp only [ServerFunctor.conn] at known duty
  have closing : stage conn = .closing := by
    cases at_stage : stage conn <;> simp_all [dutyOf]
  have same : Moves server stage conn (server.site conn) (stage conn) :=
    .same inv known rfl rfl rfl rfl rfl
  have forgotten : LifeInv
      (server.moved conn (server.site conn) [.removeConnectionInLoop]
        (Function.update server.connections (server.conns conn).name none))
      (Function.update stage conn .removed)
      (some (server.connLoop conn, .connectDestroyed conn)) := by
    rw [closing] at same
    refine inv.move known
      ⟨same.name, same.fd, same.agree, same.shape, same.untouched, same.channels, ?_⟩ ?_
      (inv.map_erased known rfl) (.inl ⟨duty.symm, rfl⟩) (by simp [closing])
      (fun active => absurd active (inv.not_active (by simp [closing]))) ?_
    · intro mask other found
      rcases same.interest mask other found with ⟨_, impossible⟩ | old
      · cases impossible
      · exact .inr old
    · rw [closing]; rfl
    · intro rest handling
      have may := ((inv.dispatch _).handling conn rest handling).2.2.2
      rw [closing] at may
      exact may
  have split : server.removeConnectionInLoop conn =
      (server.moved conn (server.site conn) [.removeConnectionInLoop]
        (Function.update server.connections (server.conns conn).name none)).queueInLoop
        (server.connLoop conn) (.connectDestroyed conn) := by
    rw [moved, update_site]
    rfl
  rw [split]
  exact forgotten.queueInLoop

theorem LifeInv.connectDestroyed {loop : Nat}
    (inv : LifeInv server stage (some (loop, .connectDestroyed conn)))
    (calling : (server.loops loop).phase = .calling) :
    LifeInv (server.connectDestroyed conn) (Function.update stage conn .destroyed) none := by
  obtain ⟨known, duty⟩ := inv.in_hand rfl
  simp only [ServerFunctor.conn] at known duty
  have removed : stage conn = .removed ∧ server.connLoop conn = loop := by
    cases at_stage : stage conn <;> simp_all [dutyOf]
  obtain ⟨removed, rfl⟩ := removed
  obtain ⟨down, index, stopped⟩ : Shape conn _ _ .removed := removed ▸ inv.shape conn known
  have unused := inv.not_watched known (by simp [removed]) (by simp [removed])
  obtain ⟨none_active, none_handling⟩ :=
    (inv.dispatch (server.connLoop conn)).outside (by simp [calling])
  have only_remove :
      (server.site conn).connectDestroyed = (server.site conn).onChannel .remove := by
    simp [Endpoint.connectDestroyed, site, down]
  have forgotten : ((server.site conn).onChannel .remove).poller.channels (server.fd conn) =
      none := by
    simp [onChannel, Channel.perform, EPollPoller.removeChannel, site, index, fd]
  have still_unused : ((server.site conn).onChannel .remove).poller.interest (server.fd conn) =
      none := by
    simpa [onChannel, Channel.perform, EPollPoller.removeChannel, site, index, fd] using unused
  have agree := @onChannel_agree Nat (server.site conn) .remove
  rw [TcpServer.connectDestroyed, perform_open, record_moved]
  · change LifeInv (server.moved conn (server.site conn).connectDestroyed _ server.connections) _ _
    rw [only_remove]
    refine inv.move known ⟨rfl, onChannel_fd _, agree, down, by simp [removed], ?_, ?_⟩ ?_
      (inv.map_kept known (by simp [removed, LifeStage.mapped])) (.inl ⟨duty.symm, rfl⟩)
      (by simp [removed]) (by simp [none_active]) (by simp [none_handling])
    · simp [forgotten]
    · simp [still_unused]
    · rw [removed]; rfl
  · change .closeCallback ∉ (server.site conn).connectDestroyed.effects
    rw [only_remove]
    simp [site]

theorem LifeInv.removeConnection
    (inv : LifeInv server stage (some (0, .removeConnectionInLoop conn))) :
    ∃ stage', LifeInv (server.removeConnection conn) stage' none := by
  unfold TcpServer.removeConnection
  split
  · exact ⟨_, inv.removeConnectionInLoop⟩
  · exact ⟨_, inv.queueInLoop⟩

/-! ## Handlers and user code -/

theorem LifeInv.stay (inv : LifeInv server stage none) (known : conn < server.accepted)
    (moves : Moves server stage conn after (stage conn))
    (run : (stage conn).run events = some (stage conn)) :
    LifeInv (server.moved conn after events server.connections) stage none := by
  have next := inv.move known moves run (inv.map_kept known rfl) (.inr ⟨rfl, rfl⟩) id
    (fun active => ?_) (fun rest handling => ((inv.dispatch _).handling conn rest handling).2.2.2)
  · rwa [Function.update_eq_self] at next
  · by_contra not_up
    exact inv.not_active not_up active

theorem LifeInv.steady (inv : LifeInv server stage none) (known : conn < server.accepted)
    (up : stage conn = .up) {added : List Effect}
    (steady : Steady (server.site conn) after added)
    (run : LifeStage.up.run events = some .up) :
    LifeInv (server.moved conn after events server.connections) stage none := by
  obtain ⟨live, state⟩ : Shape conn _ _ .up := up ▸ inv.shape conn known
  refine inv.stay known ?_ (by rw [up]; exact run)
  rw [up]
  exact .live (steady.live live) steady.self (by rw [steady.state]; exact state) steady.name
    steady.fd steady.agree (by simp [up])

theorem LifeInv.unchanged (inv : LifeInv server stage none) (known : conn < server.accepted)
    (run : (stage conn).run events = some (stage conn)) :
    LifeInv (server.moved conn (server.site conn) events server.connections) stage none :=
  inv.stay known (.same inv known rfl rfl rfl rfl rfl) run

theorem LifeInv.handle (inv : LifeInv server stage none) {handler : Handler}
    {rest : List Handler} (known : conn < server.accepted)
    (handling : (server.loops (server.connLoop conn)).handling = some (conn, rest))
    (may : MayHandle (stage conn) (handler :: rest)) (readAnswer : ReadAnswer)
    (writeAnswer : WriteAnswer) :
    ∃ stage', LifeInv (server.handle conn handler readAnswer writeAnswer) stage' none := by
  have apart := ((inv.dispatch _).handling conn rest handling).2.2.1
  have closing_up (closes : handler.mayClose = true) :
      stage conn = .up ∧ ∀ others,
        (server.loops (server.connLoop conn)).handling = some (conn, others) →
        others.countP Handler.mayClose = 0 := by
    cases at_stage : stage conn <;>
      simp only [at_stage, MayHandle, List.countP_cons_of_pos closes] at may
    · refine ⟨rfl, fun others same => ?_⟩
      rw [handling] at same
      cases same
      omega
    all_goals omega
  cases handler with
  | close =>
      obtain ⟨up, last⟩ := closing_up rfl
      have closed := inv.close known up (server.conns conn).inputBuffer [] rfl apart last
      rw [TcpServer.handle, perform_closed (by simp)]
      exact closed.removeConnection
  | error =>
      rw [TcpServer.handle, perform_open (by simp [handleError, site]), record_moved]
      refine ⟨_, inv.unchanged known ?_⟩
      cases at_stage : stage conn <;> simp_all [MayHandle, LifeStage.run, LifeStage.next]
  | read =>
      obtain ⟨up, last⟩ := closing_up rfl
      by_cases eof : readAnswer = .yields []
      · subst eof
        have closed := inv.close known up
          ((server.conns conn).inputBuffer.readFd (.yields [])).2 [.handleRead] rfl apart last
        have as_close : (server.site conn).handleRead (.yields []) =
            (server.withInput conn
              ((server.conns conn).inputBuffer.readFd (.yields [])).2).handleClose :=
          handleRead_eof
        rw [← as_close] at closed
        have closes : .closeCallback ∈ ((server.site conn).handleRead (.yields [])).effects := by
          rw [as_close]
          simp
        rw [TcpServer.handle, perform_closed closes, record_moved]
        exact closed.removeConnection
      · obtain ⟨added, steady, _⟩ := @handleRead_open Nat (server.site conn) _ eof
        have quiet := steady.no_close rfl
        rw [TcpServer.handle, perform_open quiet, record_moved]
        exact ⟨_, inv.steady known up steady rfl⟩
  | write =>
      by_cases up : stage conn = .up
      · obtain ⟨added, steady⟩ := handleWrite_steady (server.site conn) writeAnswer
        have quiet := steady.no_close rfl
        rw [TcpServer.handle, perform_open quiet, record_moved]
        exact ⟨_, inv.steady known up steady rfl⟩
      · have shape := inv.shape conn known
        have stopped : (server.conns conn).channel.isWriting = false ∧
            (stage conn).run [.handleWrite] = some (stage conn) := by
          cases at_stage : stage conn <;>
            simp_all [MayHandle, Shape, LifeStage.run, LifeStage.next]
        have same : (server.site conn).handleWrite writeAnswer = server.site conn := by
          obtain ⟨added, flushed⟩ := handleWriteBody_spec (server.site conn) writeAnswer
          obtain ⟨not_drained, unchanged, _⟩ := flushed.idle stopped.1
          rw [handleWrite, not_drained, unchanged]
          rfl
        have quiet : .closeCallback ∉ ((server.site conn).handleWrite writeAnswer).effects := by
          rw [same]
          simp [site]
        rw [TcpServer.handle, perform_open quiet, record_moved]
        have kept := inv.unchanged known stopped.2
        rw [← same] at kept
        exact ⟨_, kept⟩

theorem LifeInv.userCode (inv : LifeInv server stage none) (known : conn < server.accepted)
    {method : Endpoint Nat → Endpoint Nat} (calls : UserMethod method) :
    LifeInv (server.perform conn method) stage none := by
  have shape := inv.shape conn known
  have not_up (apart : stage conn ≠ .up) : (server.site conn).conn.state ≠ .kConnected := by
    change (server.conns conn).state ≠ .kConnected
    cases at_stage : stage conn <;> simp_all [Shape]
  have skipped (same : method (server.site conn) = server.site conn) :
      LifeInv (server.perform conn method) stage none := by
    rw [perform_open (by rw [same]; simp [site]), same]
    exact inv.unchanged known rfl
  cases calls with
  | @send data answer =>
      by_cases up : stage conn = .up
      · obtain ⟨added, steady⟩ := send_steady (server.site conn) data answer
        rw [@perform_open server conn (fun site => site.send data answer) (steady.no_close rfl)]
        exact inv.steady known up steady rfl
      · exact skipped (send_not_connected (not_up up) data answer)
  | shutdown =>
      by_cases connected : (server.site conn).conn.state = .kConnected
      · have up : stage conn = .up := by
          by_contra apart
          exact not_up apart connected
        obtain ⟨live, _⟩ : Shape conn _ _ .up := up ▸ shape
        obtain ⟨added, steady, _⟩ :=
          shutdownInLoop_steady ((server.site conn).setState .kDisconnecting)
        have quiet := steady.no_close rfl
        have asked : (server.site conn).shutdown =
            ((server.site conn).setState .kDisconnecting).shutdownInLoop := if_pos connected
        rw [perform_open (by rw [asked]; exact quiet), asked]
        refine inv.stay known ?_ (by rw [up]; rfl)
        rw [up]
        exact .live (steady.live (Live.setState live _)) steady.self (.inr steady.state)
          steady.name steady.fd steady.agree (by simp [up])
      · exact skipped (if_neg connected)
  | @retrieveInput len =>
      rw [perform_open (by simp [Endpoint.retrieveInput, site])]
      exact inv.stay known (.same inv known rfl rfl rfl rfl rfl) rfl
  | @setHighWaterMarkCallback highWaterMark =>
      rw [perform_open (by simp [Endpoint.setHighWaterMarkCallback, site])]
      exact inv.stay known (.same inv known rfl rfl rfl rfl rfl) rfl

end TcpServer

end TalkSystem.Net
