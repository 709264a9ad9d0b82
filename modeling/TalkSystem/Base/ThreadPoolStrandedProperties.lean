import TalkSystem.Base.ThreadPoolProperties

/-!
# Tasks without a thread in a cached `ThreadPool`

`submitTask` creates a thread only when more tasks are queued than threads are
idle, and a worker whose timed wait has run out leaves without another look at
the queue. A pool that was started without threads can lose its last one to a
task that was queued for it.
-/

set_option autoImplicit false

namespace TalkSystem.Base.PoolState

variable {state next : PoolState} {label : PoolLabel} {labels : List PoolLabel}
  {taskQueMaxThreshHold threadSizeThreshHold : Int} {count : Nat}

/-- Tasks are queued in a running pool that has no thread. -/
def Stranded (state : PoolState) : Prop :=
  state.pool.isPoolRunning = true ∧ state.pool.taskQue ≠ [] ∧ state.pool.threads = []

def StrandsNone (state : PoolState) (label : PoolLabel) : Prop :=
  ∀ next, machine.step state label = some next → ¬ next.Stranded

/-- The last thread of `threads_` is reaped while tasks are queued. -/
def Deserts (state : PoolState) : PoolLabel → Prop
  | .wakeWorker threadid timedOut longIdle =>
      state.pool.reaps timedOut longIdle = true ∧ state.pool.threads = [threadid] ∧
        state.pool.taskQue ≠ [] ∧ state.pool.isPoolRunning = true
  | _ => False

def Attends (state : PoolState) (label : PoolLabel) : Prop := ¬ state.Deserts label

/-- Without threads nobody is idle, so the task that has been queued calls for a
thread. -/
theorem grows_of_no_threads (counters : CountersInv state)
    (cached : state.pool.poolMode = .MODE_CACHED)
    (room : 1 ≤ state.pool.threadSizeThreshHold) (running : state.pool.isPoolRunning = true)
    (gone : state.pool.threads = []) (call : Nat) :
    (state.pool.emplace call).grows = true := by
  have size := counters.size
  have counted := counters.counted
  have launched := counters.launched
  have idle := counters.idle
  have least := counters.least
  have core := counters.core.resolve_right (by simp [running])
  have nobody : state.busy = 0 := by simp [busy, gone, ProcessTable.count]
  simp only [gone, List.length_nil] at core
  have unmatched : state.pool.idleThreadSize < state.pool.taskSize + 1 := by omega
  have below : state.pool.curThreadSize < state.pool.threadSizeThreshHold := by omega
  simp [ThreadPool.grows, ThreadPool.emplace, cached, unmatched, below]

theorem enqueue_threads (counters : CountersInv state)
    (cached : state.pool.poolMode = .MODE_CACHED)
    (room : 1 ≤ state.pool.threadSizeThreshHold) (running : state.pool.isPoolRunning = true)
    (call : Nat) : (state.enqueue call).pool.threads ≠ [] := by
  unfold PoolState.enqueue
  dsimp only
  split
  · simp [createThread, setWorker, ThreadPool.addThread]
  · next stays =>
      intro gone
      exact stays (grows_of_no_threads counters cached room running gone call)

theorem takeTask_pool {threadid task : Nat} :
    (state.takeTask threadid task).pool = state.pool.pop := by
  unfold PoolState.takeTask
  dsimp only
  split <;> rfl

theorem not_stranded_step (pool : PoolInv state)
    (kept : Configured .MODE_CACHED taskQueMaxThreshHold threadSizeThreshHold count state)
    (room : 1 ≤ threadSizeThreshHold) (attends : state.Attends label)
    (taken : Transition state label next) (inv : ¬ state.Stranded) : ¬ next.Stranded := by
  rintro ⟨running, queued, gone⟩
  cases taken with
  | @enqueue _ call _ found under_way =>
      exact enqueue_threads pool.counters kept.mode (kept.threads ▸ room)
        (pool.life.running_of_call found under_way) call gone
  | leave _ empty => exact queued empty
  | take _ shape =>
      rw [takeTask_pool] at running gone
      exact inv ⟨running, by simp [shape], gone⟩
  | reap waiting reaps =>
      exact attends ⟨reaps, pool.threads.last_of_reap waiting gone, queued, running⟩
  | destroy => cases running
  | launch | count | submit | refuse | wait | finishTask | countIdle | lockDestructor
  | wakeDestructor => exact inv ⟨running, queued, gone⟩

theorem deserts_strands (deserts : state.Deserts label)
    (taken : machine.step state label = some next) : next.Stranded := by
  cases label with
  | wakeWorker threadid timedOut longIdle =>
      obtain ⟨idle, last, queued, running⟩ := deserts
      rw [reap_of_step idle taken]
      exact ⟨running, queued, by simp [PoolState.reap, setWorker, ThreadPool.reap, last]⟩
  | launch | count | submit | lockSubmit | wakeSubmit | lockWorker | finishTask | countIdle
  | destroy | lockDestructor | wakeDestructor => cases deserts

theorem not_stranded_start :
    ¬ (start (.configured .MODE_CACHED taskQueMaxThreshHold threadSizeThreshHold) count
      0).Stranded := fun stranded => stranded.2.1 rfl

/-- A run strands no task if and only if none of its steps reaps the last thread
of `threads_` while tasks are queued. -/
theorem strandsNone_iff_attends (room : 1 ≤ threadSizeThreshHold) :
    machine.Runs StrandsNone
        (start (.configured .MODE_CACHED taskQueMaxThreshHold threadSizeThreshHold) count 0)
        labels state ↔
      machine.Runs Attends
        (start (.configured .MODE_CACHED taskQueMaxThreshHold threadSizeThreshHold) count 0)
        labels state := by
  constructor
  · intro run
    refine run.strengthen (fun _ => True) (fun state label next strands taken _ => ?_) trivial
    exact ⟨fun deserts => strands next taken (deserts_strands deserts taken), trivial⟩
  · intro run
    refine run.strengthen
      (fun state => (PoolInv state ∧
        Configured .MODE_CACHED taskQueMaxThreshHold threadSizeThreshHold count state) ∧
        ¬ state.Stranded)
      (fun state label next attends moves holds => ?_)
      ⟨⟨poolInv_start, ⟨rfl, rfl, rfl, rfl⟩⟩, not_stranded_start⟩
    obtain ⟨⟨pool, kept⟩, inv⟩ := holds
    have taken := step_transition moves
    have after := not_stranded_step pool kept room attends taken inv
    refine ⟨fun other moved => ?_, ⟨pool.step taken, kept.step taken⟩, after⟩
    obtain rfl : next = other := Option.some.inj (moves.symm.trans moved)
    exact after

/-- A pool that was started with a thread keeps it. -/
theorem attends_of_count (pool : PoolInv state)
    (kept : Configured .MODE_CACHED taskQueMaxThreshHold threadSizeThreshHold count state)
    (some_thread : 1 ≤ count) : state.Attends label := by
  intro deserts
  cases label with
  | wakeWorker threadid timedOut longIdle =>
      obtain ⟨reaps, last, _, running⟩ := deserts
      simp only [ThreadPool.reaps, Bool.and_eq_true, decide_eq_true_eq] at reaps
      have core := pool.counters.core.resolve_right (by simp [running])
      have init := kept.init
      simp only [last, List.length_singleton] at core
      omega
  | launch | count | submit | lockSubmit | wakeSubmit | lockWorker | finishTask | countIdle
  | destroy | lockDestructor | wakeDestructor => cases deserts

/-- A queue without room stays empty. -/
theorem taskQue_step_of_no_room
    (kept : Configured .MODE_CACHED taskQueMaxThreshHold threadSizeThreshHold count state)
    (no_room : toSizeT taskQueMaxThreshHold = 0) (taken : Transition state label next)
    (empty : state.pool.taskQue = []) : next.pool.taskQue = [] := by
  cases taken with
  | enqueue _ _ room => simp [ThreadPool.notFull, empty, kept.tasks, no_room] at room
  | take _ shape => simp [empty] at shape
  | launch | count | submit | refuse | wait | leave | reap | finishTask | countIdle | destroy
  | lockDestructor | wakeDestructor => exact empty

theorem not_stranded_of_attends (room : 1 ≤ threadSizeThreshHold)
    (run : machine.Runs Attends
      (start (.configured .MODE_CACHED taskQueMaxThreshHold threadSizeThreshHold) count 0)
      labels state) : ¬ state.Stranded := by
  exact ((strandsNone_iff_attends room).mpr run).invariant (fun state => ¬ state.Stranded)
    (fun _ _ next strands moves _ => strands next moves) not_stranded_start

theorem not_stranded_of_count (room : 1 ≤ threadSizeThreshHold) (some_thread : 1 ≤ count)
    (run : machine.Runs Machine.anyStep
      (start (.configured .MODE_CACHED taskQueMaxThreshHold threadSizeThreshHold) count 0)
      labels state) : ¬ state.Stranded := by
  refine not_stranded_of_attends room (run.strengthen
    (fun state => PoolInv state ∧
      Configured .MODE_CACHED taskQueMaxThreshHold threadSizeThreshHold count state)
    (fun state label next _ moves holds => ?_) ⟨poolInv_start, ⟨rfl, rfl, rfl, rfl⟩⟩)
  obtain ⟨pool, kept⟩ := holds
  have taken := step_transition moves
  exact ⟨attends_of_count pool kept some_thread, pool.step taken, kept.step taken⟩

theorem not_stranded_of_no_room (no_room : toSizeT taskQueMaxThreshHold = 0)
    (run : machine.Runs Machine.anyStep
      (start (.configured .MODE_CACHED taskQueMaxThreshHold threadSizeThreshHold) count 0)
      labels state) : ¬ state.Stranded := by
  have empty : Configured .MODE_CACHED taskQueMaxThreshHold threadSizeThreshHold count state ∧
      state.pool.taskQue = [] :=
    run.invariant
      (fun state =>
        Configured .MODE_CACHED taskQueMaxThreshHold threadSizeThreshHold count state ∧
          state.pool.taskQue = [])
      (fun state label next _ moves holds => ⟨holds.1.step (step_transition moves),
        taskQue_step_of_no_room holds.1 no_room (step_transition moves) holds.2⟩)
      ⟨⟨rfl, rfl, rfl, rfl⟩, rfl⟩
  exact fun stranded => stranded.2.1 empty.2

theorem lockSubmit_grow {call : Nat} (found : state.calls[call]? = some .locking)
    (room : state.pool.notFull = true) (grows : (state.pool.emplace call).grows = true) :
    machine.step state (.lockSubmit call) = some (state.queueTask call).createThread := by
  have queued : (state.queueTask call).pool.grows = true := grows
  simp [machine, PoolState.step, found, trySubmit, room, PoolState.enqueue, queued]

theorem lockSubmit_stay {call : Nat} (found : state.calls[call]? = some .locking)
    (room : state.pool.notFull = true) (stays : (state.pool.emplace call).grows = false) :
    machine.step state (.lockSubmit call) = some (state.queueTask call) := by
  have queued : (state.queueTask call).pool.grows = false := stays
  simp [machine, PoolState.step, found, trySubmit, room, PoolState.enqueue, queued]

/-- A worker is created for the first task. The second task finds it idle, so no
other is created; but its timed wait has run out. -/
theorem stranded_of_no_threads (open_queue : toSizeT taskQueMaxThreshHold ≠ 0)
    (room : 1 ≤ threadSizeThreshHold) : ∃ state : PoolState,
    machine.Runs Machine.anyStep
      (start (.configured .MODE_CACHED taskQueMaxThreshHold threadSizeThreshHold) 0 0)
      [.submit, .lockSubmit 0, .lockWorker 0, .finishTask 0, .countIdle 0, .lockWorker 0,
        .submit, .lockSubmit 1, .wakeWorker 0 true true] state ∧
      state.Stranded := by
  have below : (0 : Int) < threadSizeThreshHold := room
  have positive : 0 < toSizeT taskQueMaxThreshHold := by
    unfold toSizeT at open_queue ⊢
    omega
  have notFull {pool : ThreadPool} (empty : pool.taskQue = [])
      (same : pool.taskQueMaxThreshHold = taskQueMaxThreshHold) : pool.notFull = true := by
    simpa [ThreadPool.notFull, empty, same] using positive
  refine ⟨_, .cons trivial rfl <|
    .cons trivial (lockSubmit_grow rfl (notFull rfl rfl) (decide_eq_true below)) <|
    .cons trivial rfl <| .cons trivial rfl <| .cons trivial rfl <| .cons trivial rfl <|
    .cons trivial rfl <| .cons trivial (lockSubmit_stay rfl (notFull rfl rfl) rfl) <|
    .cons trivial rfl .nil, ?_⟩
  exact ⟨rfl, List.cons_ne_nil 1 [], rfl⟩

/-- A cached pool never strands a task if and only if it was started with a
thread, or its queue takes no task. In either case a run strands no task if and
only if it never reaps the last thread of `threads_` while tasks are queued. -/
theorem cached_pool_strands_none_iff (taskQueMaxThreshHold threadSizeThreshHold : Int)
    (count : Nat) (room : 1 ≤ threadSizeThreshHold) :
    ((∀ labels state,
        machine.Runs Machine.anyStep
          (start (.configured .MODE_CACHED taskQueMaxThreshHold threadSizeThreshHold) count 0)
          labels state →
        ¬ state.Stranded) ↔
      1 ≤ count ∨ toSizeT taskQueMaxThreshHold = 0) ∧
    ∀ labels state,
      machine.Runs StrandsNone
          (start (.configured .MODE_CACHED taskQueMaxThreshHold threadSizeThreshHold) count 0)
          labels state ↔
        machine.Runs Attends
          (start (.configured .MODE_CACHED taskQueMaxThreshHold threadSizeThreshHold) count 0)
          labels state := by
  refine ⟨⟨fun never => ?_, fun safe labels state run => ?_⟩,
    fun labels state => strandsNone_iff_attends room⟩
  · by_contra unmet
    rw [not_or] at unmet
    obtain ⟨no_thread, open_queue⟩ := unmet
    obtain rfl : count = 0 := by omega
    obtain ⟨state, run, stranded⟩ := stranded_of_no_threads open_queue room
    exact never _ state run stranded
  · rcases safe with some_thread | no_room
    · exact not_stranded_of_count room some_thread run
    · exact not_stranded_of_no_room no_room run

theorem cached_pool_strands_none_iff_one :
    (∀ labels state,
      machine.Runs Machine.anyStep (start (.configured .MODE_CACHED 8 4) 1 0) labels state →
      ¬ state.Stranded) ∧
    ¬ ∀ labels state,
      machine.Runs Machine.anyStep (start (.configured .MODE_CACHED 8 4) 0 0) labels state →
      ¬ state.Stranded := by
  have one : (1 : Int) ≤ 4 := by decide
  refine ⟨(cached_pool_strands_none_iff 8 4 1 one).1.mpr (.inl (by decide)), fun never => ?_⟩
  have safe := (cached_pool_strands_none_iff 8 4 0 one).1.mp never
  simp [toSizeT] at safe

/-- A cached pool of a machine whose `hardware_concurrency` is unknown. -/
theorem cached_pool_strands_second_task : ∃ state : PoolState,
    machine.Runs Machine.anyStep (start (.configured .MODE_CACHED 8 4) 0 0)
      [.submit, .lockSubmit 0, .lockWorker 0, .finishTask 0, .countIdle 0, .lockWorker 0,
        .submit, .lockSubmit 1, .wakeWorker 0 true true] state ∧
      state.pool.isPoolRunning = true ∧ state.pool.taskQue = [1] ∧ state.pool.threads = [] := by
  refine ⟨_, .cons trivial rfl <| .cons trivial rfl <| .cons trivial rfl <| .cons trivial rfl <|
    .cons trivial rfl <| .cons trivial rfl <| .cons trivial rfl <| .cons trivial rfl <|
    .cons trivial rfl .nil, ?_, ?_, ?_⟩
  · rfl
  · rfl
  · rfl

end TalkSystem.Base.PoolState
