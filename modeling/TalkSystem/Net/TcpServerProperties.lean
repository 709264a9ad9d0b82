import TalkSystem.Net.TcpConnectionProperties
import TalkSystem.Net.TcpServer

/-! What a step of a server can do, with the facts that the step has tested,
and the fields that the operations of a server leave alone. -/

set_option autoImplicit false

namespace TalkSystem.Net

def ServerFunctor.isCallback : ServerFunctor → Bool
  | .callback _ => true
  | _ => false

namespace TcpServer

variable {server next : TcpServer} {label : ServerLabel}

inductive UserMethod : (Endpoint Nat → Endpoint Nat) → Prop where
  | send {data : List UInt8} {answer : WriteAnswer} :
      UserMethod fun site => site.send data answer
  | shutdown : UserMethod Endpoint.shutdown
  | retrieveInput {len : Nat} : UserMethod fun site => site.retrieveInput len
  | setHighWaterMarkCallback {highWaterMark : Nat} :
      UserMethod fun site => site.setHighWaterMarkCallback highWaterMark

inductive UserTransition (server : TcpServer) (index : Nat) : TcpServer → Prop where
  | load {conn : Nat} {call : UserCall} {pc : UserPc} :
      server.calls[index]? = some (conn, call, .entered) → pc = .loaded ∨ pc = .returning →
      UserTransition server index
        { server with calls := server.calls.set index (conn, call, pc) }
  | store {conn : Nat} :
      server.calls[index]? = some (conn, .shutdown, .loaded) →
      UserTransition server index
        { server with
          conns := Function.update server.conns conn
            { server.conns conn with state := .kDisconnecting }
          calls := server.calls.set index (conn, .shutdown, .stored) }
  | queue {conn : Nat} {call : UserCall} {pc : UserPc} :
      server.calls[index]? = some (conn, call, pc) →
      pc = .stored ∨ (pc = .loaded ∧ call ≠ .shutdown) →
      UserTransition server index
        { server.queueInLoop (server.connLoop conn) (call.functor conn) with
          calls := server.calls.set index (conn, call, .returning) }
  | leave {conn : Nat} {call : UserCall} :
      server.calls[index]? = some (conn, call, .returning) →
      UserTransition server index { server with calls := server.calls.eraseIdx index }

inductive Transition (server : TcpServer) : ServerLabel → TcpServer → Prop where
  | accept {sockfd : Nat} : server.life = .alive → (server.loops 0).phase = .dispatching →
      server.unusedFd sockfd → Transition server (.accept sockfd) (server.newConnection sockfd)
  | poll {loop : Nat} {events : List (Nat × Events)} :
      server.runs loop = true → (server.loops loop).phase = .polling →
      server.reportable loop events →
      Transition server (.poll loop events)
        (server.setLoop loop
          { server.loops loop with phase := .dispatching, active := events })
  | skip {loop conn : Nat} {revents : Events} {rest : List (Nat × Events)} :
      server.runs loop = true → (server.loops loop).phase = .dispatching →
      (server.loops loop).active = (conn, revents) :: rest →
      (server.loops loop).handling = none →
      Transition server (.handleEvent loop)
        (server.setLoop loop { server.loops loop with active := rest })
  | handleEvent {loop conn : Nat} {revents : Events} {rest : List (Nat × Events)} :
      server.runs loop = true → (server.loops loop).phase = .dispatching →
      (server.loops loop).active = (conn, revents) :: rest →
      (server.loops loop).handling = none →
      Transition server (.handleEvent loop)
        (server.setLoop loop
          { server.loops loop with
            active := rest
            handling := some (conn, handleEventWithGuard revents) })
  | handler {loop conn : Nat} {handler : Handler} {rest : List Handler}
      {readAnswer : ReadAnswer} {writeAnswer : WriteAnswer} :
      server.runs loop = true → (server.loops loop).phase = .dispatching →
      (server.loops loop).handling = some (conn, handler :: rest) →
      Transition server (.handler loop readAnswer writeAnswer)
        ((server.setLoop loop
          { server.loops loop with handling := some (conn, rest) }).handle conn handler
            readAnswer writeAnswer)
  | handled {loop conn : Nat} :
      server.runs loop = true → (server.loops loop).phase = .dispatching →
      (server.loops loop).handling = some (conn, []) →
      Transition server (.handled loop)
        (server.setLoop loop { server.loops loop with handling := none })
  | swap {loop : Nat} :
      server.runs loop = true → (server.loops loop).phase = .dispatching →
      (server.loops loop).idle = true →
      Transition server (.doPendingFunctors loop)
        (server.setLoop loop
          { server.loops loop with
            phase := .calling
            queue := (server.loops loop).queue.swap })
  | runFunctor {loop : Nat} {answer : WriteAnswer} {functor : ServerFunctor}
      {rest : BatchQueue ServerFunctor} :
      server.runs loop = true → (server.loops loop).phase = .calling →
      (server.loops loop).queue.next? = some (functor, rest) →
      Transition server (.runFunctor loop answer)
        ((server.setLoop loop { server.loops loop with queue := rest }).runFunctor functor answer)
  | finish {loop : Nat} :
      server.runs loop = true → (server.loops loop).phase = .calling →
      (server.loops loop).queue.running = [] →
      Transition server (.finish loop)
        (server.setLoop loop
          { server.loops loop with
            phase := .polling
            queue := (server.loops loop).queue.release })
  | userCode {conn : Nat} {method : Endpoint Nat → Endpoint Nat} {label : ServerLabel} :
      conn < server.accepted → UserMethod method →
      Transition server label (server.perform conn method)
  | call {conn : Nat} {call : UserCall} :
      conn < server.accepted → server.owned conn = true →
      Transition server (.call conn call)
        { server with calls := server.calls ++ [(conn, call, .entered)] }
  | proceed {index : Nat} {next : TcpServer} :
      UserTransition server index next → Transition server (.proceed index) next
  | destroy : server.life = .alive →
      Transition server .destroy { server with life := .destroying }
  | destroyNext {conn : Nat} : server.life = .destroying → conn < server.accepted →
      server.heldByMap conn = true →
      Transition server (.destroyNext conn) (server.destroyNext conn)
  | joinThreads : server.life = .destroying →
      Transition server .joinThreads server.joinThreads

theorem proceed_transition {index : Nat} (taken : server.proceed index = some next) :
    UserTransition server index next := by
  unfold proceed at taken
  split at taken
  · cases taken
  · next found =>
      cases taken
      refine .load found ?_
      split
      · exact .inl rfl
      · exact .inr rfl
  · next found => cases taken; exact .store found
  · next not_shutdown found =>
      cases taken
      exact .queue found (.inr ⟨rfl, fun shutdown => not_shutdown shutdown⟩)
  · next found => cases taken; exact .queue found (.inl rfl)
  · next found => cases taken; exact .leave found

theorem userCode_transition {conn : Nat} {method : Endpoint Nat → Endpoint Nat}
    (known : UserMethod method) (taken : server.userCode conn method = some next) :
    Transition server label next := by
  unfold userCode at taken
  split at taken
  · next enabled => cases taken; exact .userCode enabled.1 known
  · cases taken

theorem onLoop_eq_some {loop : Nat} {phase : RoundPhase} {action : LoopThread → Option TcpServer}
    (taken : server.onLoop loop phase action = some next) :
    server.runs loop = true ∧ (server.loops loop).phase = phase ∧
      action (server.loops loop) = some next := by
  unfold onLoop at taken
  split at taken
  · next enabled => exact ⟨enabled.1, enabled.2, taken⟩
  · cases taken

theorem step_transition (taken : machine.step server label = some next) :
    Transition server label next := by
  change step server label = some next at taken
  cases label with
  | accept sockfd =>
      simp only [step] at taken
      split at taken
      · next enabled => cases taken; exact .accept enabled.1 enabled.2.1 enabled.2.2.2
      · cases taken
  | poll loop events =>
      simp only [step] at taken
      obtain ⟨running, phase, acted⟩ := onLoop_eq_some taken
      split at acted
      · next reported => cases acted; exact .poll running phase reported
      · cases acted
  | handleEvent loop =>
      simp only [step] at taken
      obtain ⟨running, phase, acted⟩ := onLoop_eq_some taken
      split at acted
      · next head none_handling =>
          split at acted
          · cases acted; exact .skip running phase head none_handling
          · cases acted; exact .handleEvent running phase head none_handling
      · cases acted
  | handler loop readAnswer writeAnswer =>
      simp only [step] at taken
      obtain ⟨running, phase, acted⟩ := onLoop_eq_some taken
      split at acted
      · next handling => cases acted; exact .handler running phase handling
      · cases acted
  | handled loop =>
      simp only [step] at taken
      obtain ⟨running, phase, acted⟩ := onLoop_eq_some taken
      split at acted
      · next handling => cases acted; exact .handled running phase handling
      · cases acted
  | doPendingFunctors loop =>
      simp only [step] at taken
      obtain ⟨running, phase, acted⟩ := onLoop_eq_some taken
      split at acted
      · next idle => cases acted; exact .swap running phase idle
      · cases acted
  | runFunctor loop answer =>
      simp only [step] at taken
      obtain ⟨running, phase, acted⟩ := onLoop_eq_some taken
      split at acted
      · next item => cases acted; exact .runFunctor running phase item
      · cases acted
  | finish loop =>
      simp only [step] at taken
      obtain ⟨running, phase, acted⟩ := onLoop_eq_some taken
      split at acted
      · next done => cases acted; exact .finish running phase done
      · cases acted
  | send conn data answer => exact userCode_transition .send taken
  | shutdown conn => exact userCode_transition .shutdown taken
  | retrieveInput conn len => exact userCode_transition .retrieveInput taken
  | setHighWaterMarkCallback conn highWaterMark =>
      exact userCode_transition .setHighWaterMarkCallback taken
  | call conn call =>
      simp only [step] at taken
      split at taken
      · next enabled => cases taken; exact .call enabled.1 enabled.2
      · cases taken
  | proceed index => exact .proceed (proceed_transition taken)
  | destroy =>
      simp only [step] at taken
      split at taken
      · next alive => cases taken; exact .destroy alive
      · cases taken
  | destroyNext conn =>
      simp only [step] at taken
      split at taken
      · next enabled => cases taken; exact .destroyNext enabled.1 enabled.2.1 enabled.2.2
      · cases taken
  | joinThreads =>
      simp only [step] at taken
      split at taken
      · next enabled => cases taken; exact .joinThreads enabled.1
      · cases taken

theorem setLoop_same {loop : Nat} {thread : LoopThread} :
    (server.setLoop loop thread).loops loop = thread := Function.update_self ..

theorem setLoop_other {loop other : Nat} {thread : LoopThread} (apart : other ≠ loop) :
    (server.setLoop loop thread).loops other = server.loops other := Function.update_of_ne apart ..

/-! ## A method of one connection -/

/-- A method of `conn` has led to `after`, with these events and this map. -/
def moved (server : TcpServer) (conn : Nat) (after : Endpoint Nat) (events : List LifeEvent)
    (connections : String → Option Nat) : TcpServer :=
  { server.update conn after with
    history := server.history ++ events.map fun event => (conn, event)
    connections := connections }

variable {conn : Nat} {after : Endpoint Nat} {events : List LifeEvent}
  {connections : String → Option Nat}

theorem callbacksOf_isCallback {effects : List Effect} {functor : ServerFunctor}
    (member : functor ∈ callbacksOf conn effects) : functor.isCallback = true := by
  obtain ⟨effect, _, queued⟩ := List.mem_flatMap.mp member
  cases effect <;> simp_all [ServerFunctor.isCallback]

theorem moved_loops (loop : Nat) :
    (server.moved conn after events connections).loops loop =
      if loop = server.connLoop conn then
        { server.loops loop with
          poller := after.poller
          queue := { (server.loops loop).queue with
            pending := (server.loops loop).queue.pending ++ callbacksOf conn after.effects } }
      else
        server.loops loop := by
  by_cases same : loop = server.connLoop conn
  · subst same
    simp [moved, update, setLoop]
  · simp [moved, update, setLoop, same]

@[simp] theorem moved_phase (loop : Nat) :
    ((server.moved conn after events connections).loops loop).phase =
      (server.loops loop).phase := by
  rw [moved_loops]
  split <;> rfl

@[simp] theorem moved_active (loop : Nat) :
    ((server.moved conn after events connections).loops loop).active =
      (server.loops loop).active := by
  rw [moved_loops]
  split <;> rfl

@[simp] theorem moved_handling (loop : Nat) :
    ((server.moved conn after events connections).loops loop).handling =
      (server.loops loop).handling := by
  rw [moved_loops]
  split <;> rfl

@[simp] theorem moved_batch (loop : Nat) :
    ((server.moved conn after events connections).loops loop).queue.batch =
      (server.loops loop).queue.batch := by
  rw [moved_loops]
  split <;> rfl

@[simp] theorem moved_running (loop : Nat) :
    ((server.moved conn after events connections).loops loop).queue.running =
      (server.loops loop).queue.running := by
  rw [moved_loops]
  split <;> rfl

theorem moved_pending (loop : Nat) : ∃ added,
    ((server.moved conn after events connections).loops loop).queue.pending =
      (server.loops loop).queue.pending ++ added ∧
    ∀ functor ∈ added, functor.isCallback = true := by
  rw [moved_loops]
  split
  · exact ⟨_, rfl, fun _ member => callbacksOf_isCallback member⟩
  · exact ⟨[], (List.append_nil _).symm, by simp⟩

theorem moved_waiting (loop : Nat) {functor : ServerFunctor}
    (named : functor.isCallback = false) :
    ((server.moved conn after events connections).loops loop).queue.waiting.count functor =
      (server.loops loop).queue.waiting.count functor := by
  obtain ⟨added, pending, callbacks⟩ := @moved_pending server conn after events connections loop
  have absent : functor ∉ added := fun member => by
    simp [callbacks functor member] at named
  rw [BatchQueue.waiting, moved_running, pending]
  simp [BatchQueue.waiting, List.count_append, List.count_eq_zero_of_not_mem absent]

theorem moved_poller_other {loop : Nat} (other : loop ≠ server.connLoop conn) :
    ((server.moved conn after events connections).loops loop).poller =
      (server.loops loop).poller := by
  simp [moved, update, setLoop, Function.update_of_ne other]

theorem moved_poller_same :
    ((server.moved conn after events connections).loops (server.connLoop conn)).poller =
      after.poller := by
  simp [moved, update, setLoop]

theorem moved_conns_same : (server.moved conn after events connections).conns conn =
    after.conn := by
  simp [moved, update, setLoop]

theorem moved_conns_other {other : Nat} (different : other ≠ conn) :
    (server.moved conn after events connections).conns other = server.conns other := by
  simp [moved, update, setLoop, Function.update_of_ne different]

theorem update_site : server.update conn (server.site conn) = server := by
  simp [update, site, setLoop, callbacksOf]

theorem record_moved (event : LifeEvent) :
    (server.record conn event).moved conn after events connections =
      server.moved conn after (event :: events) connections := by
  simp [moved, record, update, setLoop]

theorem perform_open {method : Endpoint Nat → Endpoint Nat}
    (quiet : .closeCallback ∉ (method (server.site conn)).effects) :
    server.perform conn method =
      server.moved conn (method (server.site conn)) [] server.connections := by
  simp [perform, quiet, moved, update, setLoop]

theorem perform_closed {method : Endpoint Nat → Endpoint Nat}
    (closes : .closeCallback ∈ (method (server.site conn)).effects) :
    server.perform conn method =
      (server.moved conn (method (server.site conn)) [.handleClose]
        server.connections).removeConnection conn := by
  simp only [perform, if_pos closes]
  rfl

/-! ## Owners and new connections -/

theorem heldByFunctor_of_mem {loop : Nat} {functor : ServerFunctor}
    (on_loop : loop ≤ server.numThreads) (held : functor ∈ (server.loops loop).queue.held)
    (owns : functor.owns = true) : server.heldByFunctor functor.conn = true := by
  refine List.any_eq_true.mpr ⟨loop, List.mem_range.mpr (by omega), ?_⟩
  exact List.any_eq_true.mpr ⟨functor, held, by simp [owns]⟩

theorem getNextLoop_le (round : server.numThreads ≠ 0 → server.next < server.numThreads) :
    server.getNextLoop.1 ≤ server.numThreads := by
  unfold getNextLoop
  split
  · exact Nat.zero_le _
  · next threads => exact round threads

theorem getNextLoop_next (round : server.numThreads ≠ 0 → server.next < server.numThreads)
    (threads : server.numThreads ≠ 0) : server.getNextLoop.2 < server.numThreads := by
  have before := round threads
  unfold getNextLoop
  split
  · exact before
  · split <;> omega

variable {sockfd : Nat}

theorem createConnection_conns_other (other : conn ≠ server.accepted) :
    (server.createConnection sockfd).conns conn = server.conns conn := by
  simp [createConnection, Function.update_of_ne other]

theorem createConnection_connLoop_other (other : conn ≠ server.accepted) :
    (server.createConnection sockfd).connLoop conn = server.connLoop conn := by
  simp [createConnection, Function.update_of_ne other]

end TcpServer

end TalkSystem.Net
