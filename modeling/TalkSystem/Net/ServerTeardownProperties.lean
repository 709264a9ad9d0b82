import TalkSystem.Net.EventLoopThreadProperties
import TalkSystem.Net.QuitFlushProperties
import TalkSystem.Net.ServerTeardown

/-!
# What the destructor of `TcpServer` leaves behind

The destructor queues on every loop before it quits the first one, so the quit
request of a loop finds everything that the destructor has queued on it. Whether
that is executed is decided by the phase of the loop at the request.
-/

set_option autoImplicit false

namespace TalkSystem.Net

namespace EventLoopThread

variable {Functor Thread : Type} [DecidableEq Thread]
  {body : Functor → List (LoopCall Functor)} {callback : List (LoopCall Functor)}
  {owner : Thread} {state next : EventLoopThread Functor Thread}
  {label : EventLoopThreadLabel Functor Thread}
  {labels : List (EventLoopThreadLabel Functor Thread)}

/-- The new thread has published its loop, and may have ended since. -/
def Served (state : EventLoopThread Functor Thread) : Prop :=
  state.thread = .looping ∨ state.thread = .ended

theorem Transition.queueInv (taken : Transition body callback owner state label next)
    (inv : Published state) (queue : EventLoop.QueueInv state.loop) :
    EventLoop.QueueInv next.loop := by
  cases taken with
  | construct => exact ⟨rfl, fun _ => rfl, by simp [EventLoop.init]⟩
  | callback phase moved => exact queue.call (by simp [inv.callback phase]) moved
  | loop _ moved | quit _ moved | wakeup _ moved => exact queue.step moved
  | start | lock | wake | publish | clear | destroy | join => exact queue

theorem Transition.served (taken : Transition body callback owner state label next)
    (inv : Published state) (served : state.Served) : next.Served := by
  cases taken with
  | start phase =>
      have unstarted := inv.unstarted phase
      simp [Served, unstarted] at served
  | construct phase | callback phase | publish phase => simp [Served, phase] at served
  | clear => exact .inr rfl
  | lock | wake | loop | destroy | quit | wakeup | join => exact served

theorem Transition.ended (taken : Transition body callback owner state label next)
    (inv : Published state) (ended : state.thread = .ended) : next.thread = .ended := by
  cases taken with
  | start phase =>
      have unstarted := inv.unstarted phase
      simp [unstarted] at ended
  | construct phase | callback phase | publish phase | clear phase => simp [phase] at ended
  | lock | wake | loop | destroy | quit | wakeup | join => exact ended

theorem Transition.owner_kept (taken : Transition body callback owner state label next)
    (foreign : label.byOwner owner = false) : next.owner = state.owner := by
  cases taken with
  | start | lock | wake | destroy | quit | wakeup | join =>
      simp [EventLoopThreadLabel.byOwner] at foreign
  | construct | callback | publish | loop | clear => rfl

/-- Once the loop is published the history of queued functors only grows. -/
theorem Transition.emplaced (taken : Transition body callback owner state label next)
    (served : state.Served) :
    state.loop.emplaced <+: next.loop.emplaced := by
  cases taken with
  | start | lock | wake | publish | clear | destroy | join => exact List.prefix_rfl
  | construct phase | callback phase => simp [Served, phase] at served
  | loop _ moved | quit _ moved | wakeup _ moved =>
      obtain ⟨added, grown, _⟩ := moved.emplaced
      exact ⟨added, grown.symm⟩

theorem Transition.flushing (taken : Transition body callback owner state label next)
    (served : state.Served) (queue : EventLoop.QueueInv state.loop)
    (flushing : state.loop.Flushing owner state.loop.emplaced.length)
    (quiet : ∀ functor, label ≠ .loop (.emplace owner functor)) :
    next.loop.Flushing owner next.loop.emplaced.length := by
  cases taken with
  | start | lock | wake | publish | clear | destroy | join => exact flushing
  | construct phase | callback phase => simp [Served, phase] at served
  | loop _ moved =>
      exact flushing.step_all queue moved fun functor same => quiet functor (by rw [same])
  | quit _ moved | wakeup _ moved => exact flushing.step_all queue moved nofun

theorem queueInv_run (run : (machine body callback owner).Runs Machine.anyStep init labels state) :
    EventLoop.QueueInv state.loop := by
  obtain ⟨_, queue⟩ := run.invariant
    (fun state => Published state ∧ EventLoop.QueueInv state.loop)
    (fun _ _ _ _ taken holds =>
      ⟨holds.1.step (step_transition taken), (step_transition taken).queueInv holds.1 holds.2⟩)
    ⟨published_init, ⟨rfl, fun _ => rfl, fun _ => rfl⟩⟩
  exact queue

end EventLoopThread

namespace ServerTeardown

variable {Functor Thread Connection : Type} [DecidableEq Thread] {numThreads : Nat}
  {server : Server Functor Thread Connection numThreads}
  {state next final : ServerTeardown Functor Thread Connection numThreads}
  {label : TeardownLabel Functor Thread numThreads}
  {labels : List (TeardownLabel Functor Thread numThreads)}

def withThread (state : ServerTeardown Functor Thread Connection numThreads)
    (index : Fin numThreads) (thread : EventLoopThread Functor Thread) :
    ServerTeardown Functor Thread Connection numThreads :=
  { state with threads := Function.update state.threads index thread }

/-- The steps of one of the threads. -/
def ThreadStep (server : Server Functor Thread Connection numThreads) :
    EventLoopThread Functor Thread → EventLoopThreadLabel Functor Thread →
      EventLoopThread Functor Thread → Prop :=
  EventLoopThread.Transition server.body server.callback server.owner

inductive Transition (server : Server Functor Thread Connection numThreads) :
    ServerTeardown Functor Thread Connection numThreads →
      TeardownLabel Functor Thread numThreads →
      ServerTeardown Functor Thread Connection numThreads → Prop where
  | other {state : ServerTeardown Functor Thread Connection numThreads}
      {index : Fin numThreads} {label : EventLoopThreadLabel Functor Thread}
      {thread : EventLoopThread Functor Thread} : label.byOwner server.owner = false →
      ThreadStep server (state.threads index) label thread →
      Transition server state (.other index label) (state.withThread index thread)
  | runAtOnce {state : ServerTeardown Functor Thread Connection numThreads}
      {conn : Connection} {rest : List Connection} : state.wakingUp = none →
      state.connections = conn :: rest → server.getLoop conn = none →
      Transition server state .runInLoop
        { state with connections := rest, ranAtOnce := state.ranAtOnce ++ [conn] }
  | queue {state : ServerTeardown Functor Thread Connection numThreads}
      {conn : Connection} {rest : List Connection} {index : Fin numThreads}
      {thread : EventLoopThread Functor Thread} : state.wakingUp = none →
      state.connections = conn :: rest → server.getLoop conn = some index →
      ThreadStep server (state.threads index)
        (.loop (.emplace server.owner (server.connectDestroyed conn))) thread →
      Transition server state .runInLoop
        ({ state with connections := rest, wakingUp := some index }.withThread index thread)
  | wakeup {state : ServerTeardown Functor Thread Connection numThreads}
      {index : Fin numThreads} {thread : EventLoopThread Functor Thread} :
      state.wakingUp = some index →
      ThreadStep server (state.threads index) (.loop (.wakeup server.owner)) thread →
      Transition server state .wakeup
        ({ state with wakingUp := none }.withThread index thread)
  | destroyThread {state : ServerTeardown Functor Thread Connection numThreads}
      {index : Fin numThreads} {rest : List (Fin numThreads)}
      {label : EventLoopThreadLabel Functor Thread}
      {thread : EventLoopThread Functor Thread} : state.wakingUp = none →
      state.connections = [] → state.pool = index :: rest → label.inDestructor = true →
      ThreadStep server (state.threads index) label thread →
      Transition server state (.destroyThread label) (state.withThread index thread)
  | nextThread {state : ServerTeardown Functor Thread Connection numThreads}
      {index : Fin numThreads} {rest : List (Fin numThreads)} :
      state.pool = index :: rest → (state.threads index).owner = .destroyed →
      Transition server state .nextThread { state with pool := rest }

theorem stepThread_some {index : Fin numThreads} {label : EventLoopThreadLabel Functor Thread}
    (taken : state.stepThread server index label = some next) :
    ∃ thread, ThreadStep server (state.threads index) label thread ∧
      next = state.withThread index thread := by
  obtain ⟨thread, moved, same⟩ := Option.map_eq_some_iff.mp taken
  exact ⟨thread, EventLoopThread.step_transition moved, same.symm⟩

theorem step_transition (taken : (machine server).step state label = some next) :
    Transition server state label next := by
  simp only [machine, step] at taken
  split at taken
  case h_1 =>
    split at taken
    · cases taken
    · next foreign =>
        obtain ⟨thread, moved, rfl⟩ := stepThread_some taken
        exact .other (by simpa using foreign) moved
  case h_2 idle shape =>
    split at taken
    · next base => cases taken; exact .runAtOnce idle shape base
    · next index loop =>
        obtain ⟨thread, moved, rfl⟩ := stepThread_some taken
        exact .queue idle shape loop moved
  case h_3 waking =>
    obtain ⟨thread, moved, rfl⟩ := stepThread_some taken
    exact .wakeup waking moved
  case h_4 idle done shape =>
    split at taken
    · next destructor =>
        obtain ⟨thread, moved, rfl⟩ := stepThread_some taken
        exact .destroyThread idle done shape destructor moved
    · cases taken
  case h_5 idle done shape =>
    split at taken
    · next destroyed => cases taken; exact .nextThread shape destroyed
    · cases taken
  case h_6 => cases taken

/-! ## The invariant -/

/-- One thread of the pool: its owner is the destroying thread, which after its
request to quit is owed nothing that the next swap would not take. -/
structure ThreadInv (owner : Thread) (thread : EventLoopThread Functor Thread) : Prop where
  published : EventLoopThread.Published thread
  served : thread.Served
  queue : EventLoop.QueueInv thread.loop
  flushing : thread.owner ∈ [.waking, .joining, .destroyed] →
    thread.loop.Flushing owner thread.loop.emplaced.length
  joined : thread.owner = .destroyed → thread.thread = .ended

/-- The destructor finds its functors executed or still before a swap: an I/O
loop that it finds gone owes it nothing, and one that it quits is flushing. -/
def QuitsFlush (server : Server Functor Thread Connection numThreads)
    (state : ServerTeardown Functor Thread Connection numThreads) :
    TeardownLabel Functor Thread numThreads → Prop
  | .destroyThread .destroy => ∀ index ∈ state.pool.head?,
      (state.threads index).published = true ∨
        ¬ (state.threads index).loop.Owes server.owner (state.threads index).loop.emplaced.length
  | .destroyThread .quit => ∀ index ∈ state.pool.head?,
      (state.threads index).loop.Flushing server.owner (state.threads index).loop.emplaced.length
  | _ => True

/-- A step that leaves the owner where it is and that queues nothing for it. -/
theorem ThreadInv.other {thread after : EventLoopThread Functor Thread}
    {label : EventLoopThreadLabel Functor Thread} (inv : ThreadInv server.owner thread)
    (moved : ThreadStep server thread label after) (same : after.owner = thread.owner)
    (quiet : thread.owner ∈ [.waking, .joining, .destroyed] →
      ∀ functor, label ≠ .loop (.emplace server.owner functor)) :
    ThreadInv server.owner after where
  published := inv.published.step moved
  served := moved.served inv.published inv.served
  queue := moved.queueInv inv.published inv.queue
  flushing late :=
    moved.flushing inv.served inv.queue (inv.flushing (same ▸ late)) (quiet (same ▸ late))
  joined destroyed := moved.ended inv.published (inv.joined (same ▸ destroyed))

/-- The destructor of one thread. -/
theorem ThreadInv.destructor {thread after : EventLoopThread Functor Thread}
    {label : EventLoopThreadLabel Functor Thread} (inv : ThreadInv server.owner thread)
    (moved : ThreadStep server thread label after) (destructor : label.inDestructor = true)
    (gone : label = .destroy → thread.published = true ∨
      ¬ thread.loop.Owes server.owner thread.loop.emplaced.length)
    (asked : label = .quit → thread.loop.Flushing server.owner thread.loop.emplaced.length) :
    ThreadInv server.owner after := by
  have published := inv.published.step moved
  have served := moved.served inv.published inv.served
  have queue := moved.queueInv inv.published inv.queue
  cases moved with
  | destroy phase idle =>
      refine ⟨published, served, queue, fun late => ?_, fun destroyed => ?_⟩
      · have unpublished : thread.published ≠ true := by
          intro live
          simp [live] at late
        exact .inr ((gone rfl).resolve_left unpublished)
      · have unpublished : thread.published ≠ true := by
          intro live
          simp [live] at destroyed
        exact inv.served.resolve_left (mt inv.published.looping.mpr unpublished)
  | quit phase moved =>
      exact ⟨published, served, queue, fun _ => (asked rfl).step_all inv.queue moved nofun,
        by simp⟩
  | wakeup phase moved =>
      have flushing := inv.flushing (by simp [phase])
      exact ⟨published, served, queue, fun _ => flushing.step_all inv.queue moved nofun, by simp⟩
  | join phase ended =>
      exact ⟨published, served, queue, fun _ => inv.flushing (by simp [phase]), fun _ => ended⟩
  | start | lock | wake | construct | callback | publish | loop | clear =>
      simp [EventLoopThreadLabel.inDestructor] at destructor

/-- What has happened to the `connectDestroyed` of a connection that the loop of
the destructor has passed. -/
def Handed (server : Server Functor Thread Connection numThreads)
    (state : ServerTeardown Functor Thread Connection numThreads) (conn : Connection) : Prop :=
  match server.getLoop conn with
  | none => conn ∈ state.ranAtOnce
  | some index =>
      (some server.owner, server.connectDestroyed conn) ∈ (state.threads index).loop.emplaced

structure TeardownInv (server : Server Functor Thread Connection numThreads)
    (connections : List Connection)
    (state : ServerTeardown Functor Thread Connection numThreads) : Prop where
  thread : ∀ index, ThreadInv server.owner (state.threads index)
  handed : ∀ conn ∈ connections, conn ∈ state.connections ∨ state.Handed server conn
  busy : state.connections ≠ [] ∨ state.wakingUp ≠ none →
    ∀ index, (state.threads index).owner = .running
  pool : ∀ index, index ∈ state.pool ∨ (state.threads index).owner = .destroyed

section WithThread

omit [DecidableEq Thread]

@[simp] theorem withThread_same {index : Fin numThreads}
    {thread : EventLoopThread Functor Thread} :
    (state.withThread index thread).threads index = thread := by
  simp [withThread]

theorem withThread_other {index other : Fin numThreads}
    {thread : EventLoopThread Functor Thread} (different : other ≠ index) :
    (state.withThread index thread).threads other = state.threads other := by
  simp [withThread, different]

/-- A property of all threads survives the replacement of one that has it. -/
theorem forall_withThread (property : EventLoopThread Functor Thread → Prop)
    {index : Fin numThreads} {thread : EventLoopThread Functor Thread}
    (holds : ∀ other, property (state.threads other)) (replaced : property thread) :
    ∀ other, property ((state.withThread index thread).threads other) := by
  intro other
  by_cases same : other = index
  · subst same
    rwa [withThread_same]
  · rw [withThread_other same]
    exact holds other

theorem Handed.withThread {conn : Connection} {index : Fin numThreads}
    {thread : EventLoopThread Functor Thread} (handed : state.Handed server conn)
    (grown : (state.threads index).loop.emplaced <+: thread.loop.emplaced) :
    (state.withThread index thread).Handed server conn := by
  unfold Handed at *
  cases loop : server.getLoop conn with
  | none =>
      simp only [loop] at handed
      exact handed
  | some target =>
      simp only [loop] at handed ⊢
      by_cases same : target = index
      · subst same
        rw [withThread_same]
        exact grown.subset handed
      · rwa [withThread_other same]

/-- A step of one thread that the connections still to be handed allow. -/
theorem TeardownInv.withThread {connections : List Connection} {index : Fin numThreads}
    {thread : EventLoopThread Functor Thread} (inv : TeardownInv server connections state)
    (after : ThreadInv server.owner thread)
    (grown : (state.threads index).loop.emplaced <+: thread.loop.emplaced)
    (running : state.connections ≠ [] ∨ state.wakingUp ≠ none → thread.owner = .running)
    (destroyed : (state.threads index).owner = .destroyed → thread.owner = .destroyed) :
    TeardownInv server connections (state.withThread index thread) where
  thread := forall_withThread (ThreadInv server.owner) inv.thread after
  handed conn member := (inv.handed conn member).imp id fun handed => handed.withThread grown
  busy open_call :=
    forall_withThread (fun thread => thread.owner = .running) (inv.busy open_call)
      (running open_call)
  pool other := by
    by_cases same : other = index
    · subst same
      rw [withThread_same]
      exact (inv.pool other).imp id destroyed
    · rw [withThread_other same]
      exact inv.pool other

/-- A connection of the start is the next one, still to come, or handed to its loop. -/
theorem TeardownInv.handed_rest {connections rest : List Connection} {conn other : Connection}
    (inv : TeardownInv server connections state) (shape : state.connections = conn :: rest)
    (member : other ∈ connections) :
    other = conn ∨ other ∈ rest ∨ state.Handed server other := by
  rcases inv.handed other member with waiting | handed
  · rw [shape] at waiting
    exact (List.mem_cons.mp waiting).imp id .inl
  · exact .inr (.inr handed)

theorem TeardownInv.runAtOnce {connections rest : List Connection} {conn : Connection}
    (inv : TeardownInv server connections state) (shape : state.connections = conn :: rest)
    (base : server.getLoop conn = none) :
    TeardownInv server connections
      { state with connections := rest, ranAtOnce := state.ranAtOnce ++ [conn] } := by
  refine ⟨inv.thread, fun other member => ?_, fun _ => inv.busy (by simp [shape]), inv.pool⟩
  rcases inv.handed_rest shape member with rfl | later | handed
  · exact .inr (by simp [Handed, base])
  · exact .inl later
  · refine .inr ?_
    unfold Handed at *
    split at handed
    · simp [handed]
    · next same => simpa [same] using handed

end WithThread

theorem TeardownInv.queue {connections rest : List Connection} {conn : Connection}
    {index : Fin numThreads} {thread : EventLoopThread Functor Thread}
    (inv : TeardownInv server connections state) (shape : state.connections = conn :: rest)
    (loop : server.getLoop conn = some index)
    (moved : ThreadStep server (state.threads index)
      (.loop (.emplace server.owner (server.connectDestroyed conn))) thread) :
    TeardownInv server connections
      ({ state with connections := rest, wakingUp := some index }.withThread index thread) := by
  have local_inv := inv.thread index
  have running := inv.busy (by simp [shape])
  have same : thread.owner = (state.threads index).owner := by cases moved; rfl
  have after := local_inv.other moved same (by simp [running index])
  refine ⟨forall_withThread (ThreadInv server.owner) inv.thread after,
    fun other member => ?_, fun _ => ?_, fun other => ?_⟩
  · rcases inv.handed_rest shape member with rfl | later | handed
    · right
      simp only [Handed, loop, withThread_same]
      cases moved with
      | loop _ emplaced =>
          cases emplaced
          simp [EventLoop.setCaller, EventLoop.emplaceBack]
    · exact .inl later
    · have kept : { state with connections := rest, wakingUp := some index }.Handed server
          other := handed
      exact .inr (kept.withThread (moved.emplaced local_inv.served))
  · exact forall_withThread (fun thread => thread.owner = .running) running
      (same.trans (running index))
  · refine (inv.pool other).imp id fun destroyed => ?_
    simp [running other] at destroyed

theorem TeardownInv.step {connections : List Connection}
    (inv : TeardownInv server connections state) (allowed : QuitsFlush server state label)
    (taken : Transition server state label next) : TeardownInv server connections next := by
  cases taken with
  | @other index label thread foreign moved =>
      have local_inv := inv.thread index
      have same := moved.owner_kept foreign
      refine inv.withThread (local_inv.other moved same fun _ functor emplace => ?_)
        (moved.emplaced local_inv.served)
        (fun open_call => same.trans (inv.busy open_call index))
        fun destroyed => same.trans destroyed
      rw [emplace] at foreign
      simp [EventLoopThreadLabel.byOwner, LoopLabel.caller?] at foreign
  | runAtOnce idle shape base => exact inv.runAtOnce shape base
  | queue idle shape loop moved => exact inv.queue shape loop moved
  | @wakeup index thread waking moved =>
      have local_inv := inv.thread index
      have running := inv.busy (by simp [waking])
      have same : thread.owner = (state.threads index).owner := by cases moved; rfl
      have woken : TeardownInv server connections { state with wakingUp := none } :=
        ⟨inv.thread, inv.handed, fun _ => running, inv.pool⟩
      exact woken.withThread (local_inv.other moved same (by simp [running index]))
        (moved.emplaced local_inv.served)
        (fun _ => same.trans (running index)) fun destroyed => same.trans destroyed
  | @destroyThread index rest label thread idle done shape destructor moved =>
      have local_inv := inv.thread index
      refine inv.withThread (local_inv.destructor moved destructor ?_ ?_)
        (moved.emplaced local_inv.served) (by simp [idle, done]) ?_
      · rintro rfl
        exact allowed index (by simp [shape])
      · rintro rfl
        exact allowed index (by simp [shape])
      · intro destroyed
        cases moved with
        | destroy phase | quit phase | wakeup phase | join phase => simp [phase] at destroyed
        | start | lock | wake | construct | callback | publish | loop | clear =>
            simp [EventLoopThreadLabel.inDestructor] at destructor
  | @nextThread index rest shape destroyed =>
      refine ⟨inv.thread, inv.handed, inv.busy, fun other => ?_⟩
      rcases inv.pool other with member | destroyed
      · rw [shape] at member
        rcases List.mem_cons.mp member with rfl | later
        · exact .inr destroyed
        · exact .inl later
      · exact .inr destroyed

/-! ## Work queued before a quit request -/

/-- The `connectDestroyed` of the connection has run in its own loop, with all
else that the destroying thread queued there. -/
def Destroyed (server : Server Functor Thread Connection numThreads)
    (state : ServerTeardown Functor Thread Connection numThreads) (conn : Connection) : Prop :=
  match server.getLoop conn with
  | none => conn ∈ state.ranAtOnce
  | some index =>
      server.connectDestroyed conn ∈ (state.threads index).loop.executedOf (some server.owner) ∧
        (state.threads index).loop.emplacedBy (some server.owner) <+:
          (state.threads index).loop.executedOf (some server.owner)

theorem ThreadInv.executed {owner : Thread} {thread : EventLoopThread Functor Thread}
    (inv : ThreadInv owner thread) (destroyed : thread.owner = .destroyed) :
    thread.loop.emplacedBy (some owner) <+: thread.loop.executedOf (some owner) := by
  have stopped := inv.published.ended (inv.joined destroyed)
  have executed := (inv.flushing (by simp [destroyed])).executed inv.queue stopped
  rwa [List.take_length] at executed

theorem TeardownInv.destroyed {connections : List Connection} {conn : Connection}
    (inv : TeardownInv server connections state) (member : conn ∈ connections)
    (done : state.connections = []) (joined : state.pool = []) : state.Destroyed server conn := by
  have handed := (inv.handed conn member).resolve_left (by simp [done])
  unfold Handed at handed
  unfold Destroyed
  split
  · next base => simpa only [base] using handed
  · next index loop =>
      simp only [loop] at handed
      have destroyed := (inv.pool index).resolve_left (by simp [joined])
      have executed := (inv.thread index).executed destroyed
      refine ⟨executed.subset ?_, executed⟩
      exact List.mem_map.mpr ⟨_, List.mem_filter.mpr ⟨handed, by simp⟩, rfl⟩

/-- Work queued before a quit request is done, if the request finds the loop
between its test of `quit_` and its swap or finds none of the work pending: then
all that the thread had queued has been executed when `loop()` returns. If the
requests of `~TcpServer` all do so, every connection has been destroyed in its
own loop when the destructor returns. -/
theorem queued_before_quit_executed :
    (∀ (body : Functor → List (LoopCall Functor)) (thread : Thread)
        (before after : List (LoopLabel Functor Thread))
        (loop asked final : EventLoop Functor Thread),
        (EventLoop.machine body).Runs Machine.anyStep .init before loop →
        (EventLoop.machine body).step loop (.quit thread) = some asked →
        loop.Flushing thread loop.emplaced.length →
        (EventLoop.machine body).Runs Machine.anyStep asked after final →
        final.phase = .stopped →
        loop.emplacedBy (some thread) <+: final.executedOf (some thread)) ∧
      ∀ (server : Server Functor Thread Connection numThreads)
        (threads : Fin numThreads → EventLoopThread Functor Thread)
        (connections : List Connection),
        (∀ index, (threads index).owner = .running ∧ ∃ labels,
          (EventLoopThread.machine server.body server.callback server.owner).Runs
            Machine.anyStep .init labels (threads index)) →
        ∀ (labels : List (TeardownLabel Functor Thread numThreads))
          (final : ServerTeardown Functor Thread Connection numThreads),
          (machine server).Runs (QuitsFlush server) (start threads connections) labels final →
          final.connections = [] → final.pool = [] →
          ∀ conn ∈ connections, final.Destroyed server conn := by
  refine ⟨?_, ?_⟩
  · intro body thread before after loop asked final run asks flushing continued returned
    exact EventLoop.executed_before_return run asks flushing continued returned
  · intro server threads connections served labels final run done joined conn member
    have local_inv (index : Fin numThreads) : ThreadInv server.owner (threads index) := by
      obtain ⟨running, labels, run⟩ := served index
      have published := EventLoopThread.published_run run
      exact ⟨published, published.served (by simp [running]), EventLoopThread.queueInv_run run,
        by simp [running], by simp [running]⟩
    have start_inv : TeardownInv server connections (start threads connections) :=
      ⟨local_inv, fun _ waiting => .inl waiting, fun _ index => (served index).1,
        fun index => .inl (List.mem_finRange index)⟩
    have inv := run.invariant (TeardownInv server connections)
      (fun _ _ _ allowed taken inv => inv.step allowed (step_transition taken)) start_inv
    exact inv.destroyed member done joined

/-- A server with one I/O loop, which all connections use. -/
def oneLoopServer : Server Nat Nat Nat 1 where
  body := fun _ => []
  callback := []
  owner := 0
  connectDestroyed := fun conn => conn
  getLoop := fun _ => some 0

/-- An I/O thread that has entered `loop()` and is in this phase. -/
def servingThread (phase : LoopPhase) : EventLoopThread Nat Nat where
  loop := { EventLoop.init with phase := phase }
  published := true
  owner := .running
  thread := .looping

theorem servingThread_polling :
    (EventLoopThread.machine oneLoopServer.body oneLoopServer.callback oneLoopServer.owner).Runs
      Machine.anyStep .init
      [.start, .lock, .construct, .publish, .wake, .loop .enter, .loop .test]
      (servingThread .polling) :=
  .cons trivial rfl <| .cons trivial rfl <| .cons trivial rfl <| .cons trivial rfl <|
    .cons trivial rfl <| .cons trivial rfl <| .cons trivial rfl .nil

theorem queued_before_quit_executed_polling :
    (∃ final : EventLoop Nat Nat, final.phase = .stopped ∧
      [7] <+: final.executedOf (some 0)) ∧
      ∃ final : ServerTeardown Nat Nat Nat 1, final.pool = [] ∧
        ∀ conn ∈ [7, 8], final.Destroyed oneLoopServer conn := by
  have law := @queued_before_quit_executed Nat Nat Nat _ 1
  refine ⟨?_, ?_⟩
  · have run : (EventLoop.machine fun _ => []).Runs Machine.anyStep (.init : EventLoop Nat Nat)
        [.enter, .test, .emplace 0 7, .wakeup 0] _ :=
      .cons trivial rfl <| .cons trivial rfl <| .cons trivial rfl <| .cons trivial rfl .nil
    refine ⟨_, ?_, law.1 _ 0 _ [.pollReturns true, .handleRead, .doPendingFunctors, .swap,
      .runFunctor, .finish, .test] _ _ _ run rfl (.inl rfl) (.cons trivial rfl <|
        .cons trivial rfl <| .cons trivial rfl <| .cons trivial rfl <| .cons trivial rfl <|
        .cons trivial rfl <| .cons trivial rfl .nil) rfl⟩
    rfl
  · obtain ⟨final, run, done, joined⟩ : ∃ final, (machine oneLoopServer).Runs
        (QuitsFlush oneLoopServer) (start (fun _ => servingThread .polling) [7, 8])
        [.runInLoop, .wakeup, .runInLoop, .wakeup, .destroyThread .destroy, .destroyThread .quit,
          .other 0 (.loop (.pollReturns true)), .destroyThread .wakeup,
          .other 0 (.loop .handleRead), .other 0 (.loop .doPendingFunctors),
          .other 0 (.loop .swap), .other 0 (.loop .runFunctor), .other 0 (.loop .runFunctor),
          .other 0 (.loop .finish), .other 0 (.loop .test), .other 0 .clear,
          .destroyThread .join, .nextThread] final ∧ final.connections = [] ∧ final.pool = [] :=
      ⟨_, .cons trivial rfl <| .cons trivial rfl <| .cons trivial rfl <| .cons trivial rfl <|
        .cons (fun _ member => by cases member; exact .inl rfl) rfl <|
        .cons (fun _ member => by cases member; exact .inl rfl) rfl <|
        .cons trivial rfl <| .cons trivial rfl <| .cons trivial rfl <| .cons trivial rfl <|
        .cons trivial rfl <| .cons trivial rfl <| .cons trivial rfl <| .cons trivial rfl <|
        .cons trivial rfl <| .cons trivial rfl <| .cons trivial rfl <| .cons trivial rfl .nil,
        rfl, rfl⟩
    exact ⟨final, joined,
      law.2 _ _ _ (fun _ => ⟨rfl, _, servingThread_polling⟩) _ _ run done joined⟩

/-- A functor is queued and the loop is told to quit while it works through the
batch of its last swap: it stops with the functor pending. The destructor of a
server loses the `connectDestroyed` of a connection in the same way. -/
theorem queued_before_quit_lost :
    (∃ loop asked final : EventLoop Nat Nat,
      (EventLoop.machine fun _ => []).Runs Machine.anyStep .init
        [.enter, .test, .pollReturns false, .doPendingFunctors, .swap, .emplace 0 7, .wakeup 0]
        loop ∧
      (EventLoop.machine fun _ => []).step loop (.quit 0) = some asked ∧
      (EventLoop.machine fun _ => []).Runs Machine.anyStep asked [.finish, .test] final ∧
      final.phase = .stopped ∧ loop.emplacedBy (some 0) = [7] ∧ final.executed = []) ∧
      ∃ final : ServerTeardown Nat Nat Nat 1,
        (machine oneLoopServer).Runs Machine.anyStep (start (fun _ => servingThread .polling) [7])
          [.other 0 (.loop (.pollReturns false)), .other 0 (.loop .doPendingFunctors),
            .other 0 (.loop .swap), .runInLoop, .wakeup, .destroyThread .destroy,
            .destroyThread .quit, .destroyThread .wakeup, .other 0 (.loop .finish),
            .other 0 (.loop .test), .other 0 .clear, .destroyThread .join, .nextThread] final ∧
        final.connections = [] ∧ final.pool = [] ∧ ¬ final.Destroyed oneLoopServer 7 := by
  refine ⟨?_, ?_⟩
  · have run : (EventLoop.machine fun _ => []).Runs Machine.anyStep (.init : EventLoop Nat Nat)
        [.enter, .test, .pollReturns false, .doPendingFunctors, .swap, .emplace 0 7, .wakeup 0] _ :=
      .cons trivial rfl <| .cons trivial rfl <| .cons trivial rfl <| .cons trivial rfl <|
        .cons trivial rfl <| .cons trivial rfl <| .cons trivial rfl .nil
    exact ⟨_, _, _, run, rfl, .cons trivial rfl <| .cons trivial rfl .nil, rfl, rfl, rfl⟩
  · refine ⟨_, .cons trivial rfl <| .cons trivial rfl <| .cons trivial rfl <|
      .cons trivial rfl <| .cons trivial rfl <| .cons trivial rfl <| .cons trivial rfl <|
      .cons trivial rfl <| .cons trivial rfl <| .cons trivial rfl <| .cons trivial rfl <|
      .cons trivial rfl <| .cons trivial rfl .nil, rfl, rfl, ?_⟩
    rintro ⟨executed, _⟩
    cases executed

end ServerTeardown

end TalkSystem.Net
