import TalkSystem.Base.ThreadPoolProperties

/-!
# The destructor of `ThreadPool` and its workers

The destructor waits on `exitCond_` for `threads_` to become empty. A thread that
leaves by shutdown notifies it; a thread that is reaped does not. Since shutdown
does not count threads off, a thread whose timed wait has run out can still be
reaped when it is the last one.
-/

set_option autoImplicit false

namespace TalkSystem.Base

theorem WorkerPhase.notify_ne_waiting {phase : WorkerPhase} : phase.notify ≠ .waiting false := by
  cases phase <;> simp [notify]

theorem DestructorPhase.notify_ne_waiting {phase : DestructorPhase} :
    phase.notify ≠ .waiting false := by
  cases phase <;> simp [notify]

namespace PoolState

variable {state next : PoolState} {label : PoolLabel} {labels : List PoolLabel}

/-- The destructor is blocked without a notification, and no worker is left that
could give it one. -/
def Deadlocked (state : PoolState) : Prop :=
  state.destructor = .waiting false ∧
    (state.pool.threads = [] ∨
      ∀ threadid ∈ state.pool.threads, state.workers threadid = .waiting false)

def AvoidsDeadlock (state : PoolState) (label : PoolLabel) : Prop :=
  ∀ next, machine.step state label = some next → ¬ next.Deadlocked

/-- The last thread of `threads_` is reaped while the destructor is blocked
without a notification. -/
def ReapsLast (state : PoolState) : PoolLabel → Prop
  | .wakeWorker threadid timedOut longIdle =>
      state.pool.reaps timedOut longIdle = true ∧ state.pool.threads = [threadid] ∧
        state.destructor = .waiting false
  | _ => False

def SparesLast (state : PoolState) (label : PoolLabel) : Prop := ¬ state.ReapsLast label

/-- The critical section of the destructor wakes every blocked worker, and none
blocks again afterwards. -/
structure ShutdownInv (state : PoolState) : Prop where
  awake : state.destructor ≠ .uncalled → state.destructor ≠ .stored →
    ∀ threadid, state.workers threadid ≠ .waiting false
  peopled : state.destructor = .waiting false → state.pool.threads ≠ []

theorem ShutdownInv.not_deadlocked (inv : ShutdownInv state) : ¬ state.Deadlocked := by
  rintro ⟨blocked, gone | asleep⟩
  · exact inv.peopled blocked gone
  · obtain ⟨threadid, member⟩ := List.exists_mem_of_ne_nil _ (inv.peopled blocked)
    exact inv.awake (by simp [blocked]) (by simp [blocked]) threadid (asleep threadid member)

theorem setWorker_awake {threadid : Nat} {phase : WorkerPhase}
    (awake : ∀ other, state.workers other ≠ .waiting false) (moves : phase ≠ .waiting false)
    (other : Nat) : (state.setWorker threadid phase).workers other ≠ .waiting false := by
  by_cases same : other = threadid
  · subst same
    simpa [setWorker] using moves
  · simpa [setWorker, same] using awake other

theorem awaitThreads_peopled (blocked : state.awaitThreads.destructor = .waiting false) :
    state.pool.threads ≠ [] := by
  simp only [awaitThreads] at blocked
  split at blocked
  · cases blocked
  · next peopled => exact peopled

theorem ShutdownInv.step (inv : ShutdownInv state) (pool : PoolInv state)
    (spares : state.SparesLast label) (taken : Transition state label next) :
    ShutdownInv next := by
  cases taken with
  | launch | finishTask | countIdle =>
      exact ⟨fun called late => setWorker_awake (inv.awake called late) (by simp), inv.peopled⟩
  | @enqueue _ call submit found under_way =>
      have uncalled := pool.life.running.mp (pool.life.running_of_call found under_way)
      unfold PoolState.enqueue
      dsimp only
      split <;> exact ⟨fun called => absurd uncalled called, fun blocked =>
        absurd (uncalled.symm.trans blocked) (by simp)⟩
  | wait _ _ running =>
      have uncalled := pool.life.running.mp running
      exact ⟨fun called => absurd uncalled called, inv.peopled⟩
  | leave =>
      refine ⟨fun called late => setWorker_awake (inv.awake ?_ ?_) (by simp),
        fun blocked => absurd blocked DestructorPhase.notify_ne_waiting⟩
      · exact fun uncalled => called (notify_uncalled.mpr uncalled)
      · intro stored
        exact late (by simp [PoolState.leave, notifyExit, setWorker, stored,
          DestructorPhase.notify])
  | take =>
      unfold PoolState.takeTask
      dsimp only
      split
      · exact ⟨fun called late => setWorker_awake (inv.awake called late) (by simp), inv.peopled⟩
      · exact ⟨fun _ _ _ => WorkerPhase.notify_ne_waiting, inv.peopled⟩
  | reap waiting reaps =>
      exact ⟨fun called late => setWorker_awake (inv.awake called late) (by simp),
        fun blocked gone => spares ⟨reaps, pool.threads.last_of_reap waiting gone, blocked⟩⟩
  | destroy =>
      refine ⟨fun _ late => absurd rfl late, fun blocked => ?_⟩
      cases blocked
  | lockDestructor =>
      exact ⟨fun _ _ _ => WorkerPhase.notify_ne_waiting, awaitThreads_peopled⟩
  | wakeDestructor blocked =>
      exact ⟨fun _ _ => inv.awake (by simp [blocked]) (by simp [blocked]), awaitThreads_peopled⟩
  | count | submit | refuse => exact ⟨inv.awake, inv.peopled⟩

theorem reapsLast_deadlocks (reaps : state.ReapsLast label)
    (taken : machine.step state label = some next) : next.Deadlocked := by
  cases label with
  | wakeWorker threadid timedOut longIdle =>
      obtain ⟨idle, last, blocked⟩ := reaps
      rw [reap_of_step idle taken]
      exact ⟨blocked, .inl (by simp [PoolState.reap, setWorker, ThreadPool.reap, last])⟩
  | launch | count | submit | lockSubmit | wakeSubmit | lockWorker | finishTask | countIdle
  | destroy | lockDestructor | wakeDestructor => cases reaps

/-- A run of a pool keeps out of deadlock in all its states if and only if it
never reaps the last thread of `threads_` while the destructor is blocked
without a notification. -/
theorem destructor_deadlock_free (mode : PoolMode)
    (taskQueMaxThreshHold threadSizeThreshHold : Int) (count : Nat)
    (labels : List PoolLabel) (state : PoolState) :
    machine.Runs AvoidsDeadlock
        (start (.configured mode taskQueMaxThreshHold threadSizeThreshHold) count 0) labels
        state ↔
      machine.Runs SparesLast
        (start (.configured mode taskQueMaxThreshHold threadSizeThreshHold) count 0) labels
        state := by
  constructor
  · intro run
    refine run.strengthen (fun _ => True) (fun state label next avoids taken _ => ?_) trivial
    exact ⟨fun reaps => avoids next taken (reapsLast_deadlocks reaps taken), trivial⟩
  · intro run
    refine run.strengthen (fun state => PoolInv state ∧ ShutdownInv state)
      (fun state label next spares taken holds => ?_)
      ⟨poolInv_start, fun called => absurd rfl called, nofun⟩
    obtain ⟨pool, shutdown⟩ := holds
    have after := shutdown.step pool spares (step_transition taken)
    refine ⟨fun other moved => ?_, pool.step (step_transition taken), after⟩
    obtain rfl : next = other := Option.some.inj (taken.symm.trans moved)
    exact after.not_deadlocked

/-- Two workers are idle when the destructor blocks. The first leaves by shutdown
and wakes the destructor, which blocks again; the wait of the second has run out,
and since two threads are still counted it is reaped without a word. -/
theorem destructor_deadlocks : ∃ state : PoolState,
    machine.Runs Machine.anyStep (start (.configured .MODE_CACHED 8 4) 1 0)
      [.launch, .lockWorker 0, .count, .submit, .submit, .lockSubmit 0, .lockSubmit 1,
        .wakeWorker 0 false false, .lockWorker 1, .finishTask 0, .countIdle 0, .lockWorker 0,
        .finishTask 1, .countIdle 1, .lockWorker 1, .destroy, .lockDestructor,
        .wakeWorker 0 false false, .wakeDestructor, .wakeWorker 1 true true] state ∧
      state.destructor = .waiting false ∧ state.pool.threads = [] := by
  refine ⟨_, .cons trivial rfl <| .cons trivial rfl <| .cons trivial rfl <| .cons trivial rfl <|
    .cons trivial rfl <| .cons trivial rfl <| .cons trivial rfl <| .cons trivial rfl <|
    .cons trivial rfl <| .cons trivial rfl <| .cons trivial rfl <| .cons trivial rfl <|
    .cons trivial rfl <| .cons trivial rfl <| .cons trivial rfl <| .cons trivial rfl <|
    .cons trivial rfl <| .cons trivial rfl <| .cons trivial rfl <| .cons trivial rfl .nil, ?_, ?_⟩
  · rfl
  · rfl

end PoolState

end TalkSystem.Base
