import TalkSystem.Base.ThreadPoolProperties

/-!
# Tasks of a `ThreadPool`

Every task that `submitTask` accepts is taken from the queue once, in order, and
run once. When the destructor returns all of them have finished: threads leave
by shutdown only with the queue empty for good, and reaping never takes the last
of the threads that are counted.
-/

set_option autoImplicit false

namespace TalkSystem.Base

@[simp] theorem WorkerPhase.notify_eq_executing {phase : WorkerPhase} {task : Nat} :
    phase.notify = .executing task ↔ phase = .executing task := by
  cases phase <;> simp [notify]

@[simp] theorem SubmitPhase.notify_eq_enqueued {phase : SubmitPhase} :
    phase.notify = .enqueued ↔ phase = .enqueued := by
  cases phase <;> simp [notify]

@[simp] theorem SubmitPhase.notify_eq_rejected {phase : SubmitPhase} :
    phase.notify = .rejected ↔ phase = .rejected := by
  cases phase <;> simp [notify]

namespace PoolState

variable {state next : PoolState} {label : PoolLabel} {labels : List PoolLabel}
  {threadid call task : Nat}

/-! ## The order of the queue -/

/-- The queue holds what was enqueued and not taken, and a call has enqueued its
task if and only if it returned so. -/
structure OrderInv (state : PoolState) : Prop where
  order : state.dequeued ++ state.pool.taskQue = state.enqueued
  accepted : ∀ call, call ∈ state.enqueued ↔ state.calls[call]? = some .enqueued
  once : state.enqueued.Nodup

theorem notifyNotFull_calls {after : SubmitPhase} (kept : ∀ phase : SubmitPhase,
      phase.notify = after ↔ phase = after) :
    state.notifyNotFull.calls[call]? = some after ↔ state.calls[call]? = some after := by
  simp only [notifyNotFull, List.getElem?_map, Option.map_eq_some_iff]
  constructor
  · rintro ⟨phase, found, notified⟩
    rw [found, (kept phase).mp notified]
  · exact fun found => ⟨after, found, (kept after).mpr rfl⟩

/-- The calls of others are left alone, and this one was not `after` before. -/
theorem set_calls_iff {phase after changed : SubmitPhase} {other : Nat}
    (found : state.calls[call]? = some phase) (before : phase ≠ after) (later : changed ≠ after) :
    (state.calls.set call changed)[other]? = some after ↔ state.calls[other]? = some after := by
  by_cases same : other = call
  · subst same
    have inside := (List.getElem?_eq_some_iff.mp found).1
    simp [List.getElem?_set_self inside, found, before, later]
  · rw [List.getElem?_set_ne (Ne.symm same)]

namespace OrderInv

theorem queueTask (inv : OrderInv state) {phase : SubmitPhase}
    (found : state.calls[call]? = some phase) (under_way : phase.returned = false) :
    OrderInv (state.queueTask call) := by
  have unaccepted : phase ≠ .enqueued := by rintro rfl; cases under_way
  have absent : call ∉ state.enqueued := by
    rw [inv.accepted, found]
    simpa using unaccepted
  refine ⟨?_, fun other => ?_, ?_⟩
  · simp only [PoolState.queueTask, notifyNotEmpty, ThreadPool.emplace, ← List.append_assoc,
      inv.order]
  · by_cases same : other = call
    · subst same
      have inside := (List.getElem?_eq_some_iff.mp found).1
      simp [PoolState.queueTask, notifyNotEmpty, List.getElem?_set_self inside]
    · simp only [PoolState.queueTask, notifyNotEmpty, List.mem_append, List.mem_singleton, same,
        or_false, List.getElem?_set_ne (Ne.symm same)]
      exact inv.accepted other
  · refine List.nodup_append.mpr ⟨inv.once, List.nodup_singleton _, ?_⟩
    rintro other member _ queued rfl
    exact absent (List.mem_singleton.mp queued ▸ member)

theorem takeTask (inv : OrderInv state) {rest : List Nat}
    (shape : state.pool.taskQue = task :: rest) : OrderInv (state.takeTask threadid task) := by
  have order := inv.order
  have taken : OrderInv (state.popTask threadid task) := by
    refine ⟨?_, inv.accepted, inv.once⟩
    rw [shape] at order
    simpa [popTask, setWorker, ThreadPool.pop, shape] using order
  have notified : OrderInv (if (state.popTask threadid task).pool.taskQue.isEmpty then
      state.popTask threadid task else (state.popTask threadid task).notifyNotEmpty) := by
    split
    · exact taken
    · exact ⟨taken.order, taken.accepted, taken.once⟩
  exact ⟨notified.order, fun other => (notified.accepted other).trans
    (notifyNotFull_calls fun _ => SubmitPhase.notify_eq_enqueued).symm, notified.once⟩

theorem step (inv : OrderInv state) (taken : Transition state label next) : OrderInv next := by
  cases taken with
  | submit =>
      refine ⟨inv.order, fun other => (inv.accepted other).trans ?_, inv.once⟩
      rw [List.getElem?_append]
      split
      · rfl
      · next outside =>
          rw [List.getElem?_eq_none (Nat.le_of_not_lt outside)]
          cases other - state.calls.length <;> simp
  | enqueue found under_way =>
      have queued := inv.queueTask found under_way
      unfold PoolState.enqueue
      dsimp only
      split
      · exact ⟨queued.order, queued.accepted, queued.once⟩
      · exact queued
  | @refuse _ call phase after found under_way different =>
      have unaccepted : phase ≠ .enqueued := by rintro rfl; cases under_way
      exact ⟨inv.order, fun other => (inv.accepted other).trans
        (set_calls_iff found unaccepted different).symm, inv.once⟩
  | take _ shape => exact inv.takeTask shape
  | launch | count | wait | leave | reap | finishTask | countIdle | destroy | lockDestructor
  | wakeDestructor => exact ⟨inv.order, inv.accepted, inv.once⟩

end OrderInv

/-! ## The work -/

/-- A task that was taken has finished or is run by one worker. -/
structure WorkInv (state : PoolState) : Prop where
  taken : ∀ task ∈ state.dequeued,
    task ∈ state.finished ∨ ∃ threadid, state.workers threadid = .executing task
  running : ∀ threadid task, state.workers threadid = .executing task →
    task ∈ state.dequeued ∧ task ∉ state.finished
  single : ∀ first second task, state.workers first = .executing task →
    state.workers second = .executing task → first = second
  unique : state.finished.Nodup
  finished : state.finished ⊆ state.dequeued

namespace WorkInv

/-- Steps after which the same workers run the same tasks. -/
theorem of_same (inv : WorkInv state) (dequeued : next.dequeued = state.dequeued)
    (finished : next.finished = state.finished)
    (same : ∀ threadid task,
      next.workers threadid = .executing task ↔ state.workers threadid = .executing task) :
    WorkInv next := by
  refine ⟨?_, ?_, ?_, finished ▸ inv.unique, ?_⟩
  · intro task member
    rw [dequeued] at member
    rw [finished]
    exact (inv.taken task member).imp id fun ⟨threadid, runs⟩ => ⟨threadid, (same _ _).mpr runs⟩
  · intro threadid task runs
    rw [dequeued, finished]
    exact inv.running threadid task ((same _ _).mp runs)
  · intro first second task left right
    exact inv.single first second task ((same _ _).mp left) ((same _ _).mp right)
  · rw [dequeued, finished]
    exact inv.finished

theorem executing_setWorker {phase : WorkerPhase}
    (before : ∀ task, state.workers threadid ≠ .executing task)
    (after : ∀ task, phase ≠ .executing task) (other task : Nat) :
    (state.setWorker threadid phase).workers other = .executing task ↔
      state.workers other = .executing task := by
  by_cases same : other = threadid
  · subst same
    simp [setWorker, before task, after task]
  · simp [setWorker, same]

theorem executing_notifyNotEmpty (other task : Nat) :
    state.notifyNotEmpty.workers other = .executing task ↔
      state.workers other = .executing task := by
  simp [notifyNotEmpty]

theorem not_executing_of_seeking (seeking : (state.workers threadid).seeking = true)
    (task : Nat) : state.workers threadid ≠ .executing task := by
  intro executing
  simp [executing, WorkerPhase.seeking] at seeking

theorem enqueue (inv : WorkInv state) (threads : ThreadsInv state) :
    WorkInv (state.enqueue call) := by
  have queued : WorkInv (state.queueTask call) := inv.of_same rfl rfl executing_notifyNotEmpty
  unfold PoolState.enqueue
  dsimp only
  split
  · refine queued.of_same rfl rfl (executing_setWorker ?_ (by simp))
    intro task
    simp [PoolState.queueTask, notifyNotEmpty, threads.unborn _ (Nat.le_refl _),
      WorkerPhase.notify]
  · exact queued

theorem popTask (inv : WorkInv state) (seeking : (state.workers threadid).seeking = true)
    (fresh : task ∉ state.dequeued) : WorkInv (state.popTask threadid task) := by
  have idle := not_executing_of_seeking seeking
  have elsewhere {other : Nat} (different : other ≠ threadid) :
      (state.popTask threadid task).workers other = state.workers other := by
    simp [PoolState.popTask, setWorker, different]
  have here : (state.popTask threadid task).workers threadid = .executing task := by
    simp [PoolState.popTask, setWorker]
  refine ⟨fun other member => ?_, fun other running executing => ?_,
    fun first second shared left right => ?_, inv.unique,
    fun other done => List.mem_append_left _ (inv.finished done)⟩
  · rcases List.mem_append.mp member with old | new
    · refine (inv.taken other old).imp id fun runs => ?_
      obtain ⟨worker, executing⟩ := runs
      refine ⟨worker, ?_⟩
      have different : worker ≠ threadid := by rintro rfl; exact idle _ executing
      rwa [elsewhere different]
    · exact .inr ⟨threadid, by rw [here, List.mem_singleton.mp new]⟩
  · by_cases same : other = threadid
    · subst same
      obtain rfl : task = running := by simpa [here] using executing
      exact ⟨List.mem_append_right _ (List.mem_singleton.mpr rfl),
        fun done => fresh (inv.finished done)⟩
    · rw [elsewhere same] at executing
      obtain ⟨dequeued, unfinished⟩ := inv.running other running executing
      exact ⟨List.mem_append_left _ dequeued, unfinished⟩
  · -- The new task is nobody else's, since everything that runs was taken before.
    by_cases one : first = threadid <;> by_cases two : second = threadid
    · rw [one, two]
    · subst one
      obtain rfl : task = shared := by simpa [here] using left
      rw [elsewhere two] at right
      exact absurd (inv.running _ _ right).1 fresh
    · subst two
      obtain rfl : task = shared := by simpa [here] using right
      rw [elsewhere one] at left
      exact absurd (inv.running _ _ left).1 fresh
    · rw [elsewhere one] at left
      rw [elsewhere two] at right
      exact inv.single first second shared left right

theorem finishTask (inv : WorkInv state) (executing : state.workers threadid = .executing task) :
    WorkInv { state.setWorker threadid .executed with finished := state.finished ++ [task] } := by
  obtain ⟨dequeued, unfinished⟩ := inv.running threadid task executing
  have elsewhere {other running : Nat}
      (runs : (state.setWorker threadid .executed).workers other = .executing running) :
      other ≠ threadid ∧ state.workers other = .executing running := by
    by_cases same : other = threadid
    · subst same
      simp [setWorker] at runs
    · exact ⟨same, by simpa [setWorker, same] using runs⟩
  refine ⟨fun other member => ?_, fun other running runs => ?_,
    fun first second shared left right =>
      inv.single first second shared (elsewhere left).2 (elsewhere right).2, ?_, ?_⟩
  · by_cases same : other = task
    · exact .inl (List.mem_append_right _ (List.mem_singleton.mpr same))
    · refine (inv.taken other member).imp (List.mem_append_left _) fun executed => ?_
      obtain ⟨worker, runs⟩ := executed
      refine ⟨worker, ?_⟩
      have different : worker ≠ threadid := by
        rintro rfl
        exact same (by simpa [executing] using runs.symm)
      simpa [setWorker, different] using runs
  · obtain ⟨different, before⟩ := elsewhere runs
    obtain ⟨taken, open_task⟩ := inv.running other running before
    refine ⟨taken, fun done => ?_⟩
    rcases List.mem_append.mp done with old | new
    · exact open_task old
    · obtain rfl := List.mem_singleton.mp new
      exact different (inv.single other threadid running before executing)
  · refine List.nodup_append.mpr ⟨inv.unique, List.nodup_singleton _, ?_⟩
    rintro other done _ new rfl
    exact unfinished (List.mem_singleton.mp new ▸ done)
  · intro other done
    rcases List.mem_append.mp done with old | new
    · exact inv.finished old
    · exact List.mem_singleton.mp new ▸ dequeued

theorem step (inv : WorkInv state) (threads : ThreadsInv state) (order : OrderInv state)
    (taken : Transition state label next) : WorkInv next := by
  cases taken with
  | launch starting =>
      have unstarted := threads.unlaunched starting _ (Nat.le_refl _)
      exact inv.of_same rfl rfl (executing_setWorker (by simp [unstarted]) (by simp))
  | enqueue => exact inv.enqueue threads
  | wait seeking =>
      exact inv.of_same rfl rfl
        (executing_setWorker (not_executing_of_seeking seeking) (by simp))
  | leave seeking =>
      exact inv.of_same rfl rfl
        (executing_setWorker (not_executing_of_seeking seeking) (by simp))
  | @take _ threadid task rest seeking shape =>
      have once := order.once
      rw [← order.order, shape] at once
      have fresh : task ∉ state.dequeued := fun member =>
        (List.nodup_append.mp once).2.2 task member task (by simp) rfl
      have popped := inv.popTask seeking fresh
      unfold PoolState.takeTask
      dsimp only
      split
      · exact popped.of_same rfl rfl fun _ _ => Iff.rfl
      · exact popped.of_same rfl rfl executing_notifyNotEmpty
  | reap waiting =>
      exact inv.of_same rfl rfl (executing_setWorker (by simp [waiting]) (by simp))
  | finishTask executing => exact inv.finishTask executing
  | countIdle executed =>
      exact inv.of_same rfl rfl (executing_setWorker (by simp [executed]) (by simp))
  | lockDestructor => exact inv.of_same rfl rfl executing_notifyNotEmpty
  | count | submit | refuse | destroy | wakeDestructor =>
      exact inv.of_same rfl rfl fun _ _ => Iff.rfl

end WorkInv

/-! ## The destructor -/

/-- The destructor returns when `threads_` is empty, and no thread is created
any more. -/
def Emptied (state : PoolState) : Prop := state.destructor = .returned → state.pool.threads = []

theorem awaitThreads_emptied : state.awaitThreads.Emptied := by
  intro returned
  simp only [awaitThreads] at returned
  split at returned
  · next empty => exact empty
  · cases returned

theorem Emptied.step (emptied : Emptied state) (life : LifeInv state)
    (taken : Transition state label next) : Emptied next := by
  cases taken with
  | @enqueue _ call submit found under_way =>
      have uncalled := life.running.mp (life.running_of_call found under_way)
      intro returned
      have before : state.destructor = .returned := by
        unfold PoolState.enqueue at returned
        dsimp only at returned
        split at returned <;> exact returned
      simp [before] at uncalled
  | leave =>
      intro returned
      have before : state.destructor = .returned := by
        cases shape : state.destructor <;>
          simp [PoolState.leave, notifyExit, setWorker, shape, DestructorPhase.notify] at returned ⊢
      simp [PoolState.leave, notifyExit, setWorker, ThreadPool.leave, emptied before]
  | take =>
      unfold PoolState.takeTask
      dsimp only
      split <;> exact emptied
  | reap =>
      intro returned
      simp [PoolState.reap, setWorker, ThreadPool.reap, emptied returned]
  | destroy =>
      intro returned
      cases returned
  | lockDestructor => exact awaitThreads_emptied
  | wakeDestructor => exact awaitThreads_emptied
  | launch | count | submit | refuse | wait | finishTask | countIdle => exact emptied

structure TasksInv (state : PoolState) : Prop where
  order : OrderInv state
  work : WorkInv state
  emptied : Emptied state

variable {mode : PoolMode} {taskQueMaxThreshHold threadSizeThreshHold : Int} {count : Nat}

theorem tasksInv_run
    (run : machine.Runs Machine.anyStep
      (start (.configured mode taskQueMaxThreshHold threadSizeThreshHold) count 0) labels state) :
    TasksInv state := by
  obtain ⟨_, tasks⟩ := run.invariant (fun state => PoolInv state ∧ TasksInv state)
    (fun _ _ _ _ taken holds => by
      obtain ⟨pool, tasks⟩ := holds
      have moved := step_transition taken
      exact ⟨pool.step moved, tasks.order.step moved,
        tasks.work.step pool.threads tasks.order moved, tasks.emptied.step pool.life moved⟩)
    ⟨poolInv_start, ⟨rfl, by simp [start], List.nodup_nil⟩,
      ⟨by simp [start], by simp [start], by simp [start], List.nodup_nil, by simp [start]⟩, nofun⟩
  exact tasks

/-- With the last thread gone the queue is empty: it was empty when a thread
left by shutdown, and reaping alone leaves as many threads as were started. -/
theorem PoolInv.queue_empty (inv : PoolInv state) (positive : 1 ≤ state.pool.initThreadSize)
    (gone : state.pool.threads = []) : state.pool.taskQue = [] := by
  rcases inv.counters.core with counted | ⟨empty, _⟩
  · have least := inv.counters.least
    simp only [gone, List.length_nil] at counted
    omega
  · exact empty

theorem ThreadsInv.none_executing (inv : ThreadsInv state) (gone : state.pool.threads = [])
    (threadid task : Nat) : state.workers threadid ≠ .executing task := by
  intro executing
  have member : threadid ∈ state.pool.threads :=
    inv.member (by simp [executing, WorkerPhase.live])
  simp [gone] at member

/-- The call of `submitTask` that a step belongs to. -/
def callOf (state : PoolState) : PoolLabel → Option Nat
  | .submit => some state.calls.length
  | .lockSubmit call | .wakeSubmit call _ => some call
  | _ => none

theorem trySubmit_pool {timedOut : Bool} (inside : call < state.calls.length) :
    (state.trySubmit call timedOut).calls[call]? = some .enqueued ∨
      (state.trySubmit call timedOut).pool = state.pool := by
  unfold trySubmit
  split
  · left
    unfold PoolState.enqueue
    dsimp only
    split <;> simp [createThread, setWorker, queueTask, notifyNotEmpty,
      List.getElem?_set_self inside]
  · exact .inr rfl

/-- What does not enqueue the task leaves the pool as it is. -/
theorem call_unchanged (mine : state.callOf label = some call)
    (taken : machine.step state label = some next) :
    next.calls[call]? = some .enqueued ∨ next.pool = state.pool := by
  change state.step label = some next at taken
  cases label with
  | submit =>
      simp only [step] at taken
      split at taken
      · cases taken
        exact .inr rfl
      · cases taken
  | lockSubmit other =>
      cases mine
      simp only [step] at taken
      split at taken
      · next found =>
          cases taken
          exact trySubmit_pool (List.getElem?_eq_some_iff.mp found).1
      · cases taken
  | wakeSubmit other timedOut =>
      cases mine
      simp only [step] at taken
      split at taken
      · next found =>
          cases taken
          exact trySubmit_pool (List.getElem?_eq_some_iff.mp found).1
      · cases taken
  | launch | count | lockWorker | wakeWorker | finishTask | countIdle | destroy | lockDestructor
  | wakeDestructor => cases mine

theorem rejected_stays (rejected : state.calls[call]? = some .rejected)
    (taken : Transition state label next) : next.calls[call]? = some .rejected := by
  cases taken with
  | submit =>
      have inside := (List.getElem?_eq_some_iff.mp rejected).1
      rwa [List.getElem?_append_left inside]
  | @enqueue _ other phase found under_way =>
      have open_call : phase ≠ .rejected := by rintro rfl; cases under_way
      have kept : (state.queueTask other).calls[call]? = some .rejected :=
        (set_calls_iff found open_call (by simp)).mpr rejected
      unfold PoolState.enqueue
      dsimp only
      split <;> exact kept
  | @refuse _ other phase after found under_way =>
      have different : call ≠ other := by
        rintro rfl
        rw [rejected] at found
        cases found
        cases under_way
      rwa [List.getElem?_set_ne (Ne.symm different)]
  | take =>
      unfold PoolState.takeTask
      dsimp only
      split <;> exact (notifyNotFull_calls fun _ => SubmitPhase.notify_eq_rejected).mpr rejected
  | launch | count | wait | leave | reap | finishTask | countIdle | destroy | lockDestructor
  | wakeDestructor => exact rejected

/-- Every accepted task runs exactly once and the destructor waits for all of
them. A step of a `submitTask` call that does not enqueue the task changes
nothing of the pool; a rejected task is never enqueued, taken or run and stays
rejected; accepted tasks leave the queue once each, in their order, and finish
at most once; and when the destructor has returned, all of them have finished. -/
theorem accepted_tasks_run_once (mode : PoolMode)
    (taskQueMaxThreshHold threadSizeThreshHold : Int) (count : Nat) (positive : 1 ≤ count)
    (labels : List PoolLabel) (state : PoolState)
    (run : machine.Runs Machine.anyStep
      (start (.configured mode taskQueMaxThreshHold threadSizeThreshHold) count 0) labels state) :
    (∀ call label next, state.callOf label = some call →
        machine.step state label = some next →
        next.calls[call]? = some .enqueued ∨ next.pool = state.pool) ∧
      (∀ call, state.calls[call]? = some .rejected →
        call ∉ state.enqueued ∧ call ∉ state.dequeued ∧
        (∀ threadid, state.workers threadid ≠ .executing call) ∧ call ∉ state.finished ∧
        ∀ label next, machine.step state label = some next →
          next.calls[call]? = some .rejected) ∧
      (∀ call, call ∈ state.enqueued ↔ state.calls[call]? = some .enqueued) ∧
      state.dequeued ++ state.pool.taskQue = state.enqueued ∧ state.enqueued.Nodup ∧
      (∀ task, task ∈ state.dequeued ↔
        task ∈ state.finished ∨ ∃ threadid, state.workers threadid = .executing task) ∧
      state.finished.Nodup ∧
      (state.destructor = .returned → ∀ task ∈ state.enqueued, task ∈ state.finished) := by
  obtain ⟨pool, kept⟩ := poolInv_run run
  obtain ⟨order, work, emptied⟩ := tasksInv_run run
  have enqueued_of_dequeued {task : Nat} (member : task ∈ state.dequeued) :
      task ∈ state.enqueued := order.order ▸ List.mem_append_left _ member
  refine ⟨fun call label next mine taken => call_unchanged mine taken, fun call rejected => ?_,
    order.accepted, order.order, order.once, fun task => ⟨work.taken task, ?_⟩, work.unique, ?_⟩
  · have refused : call ∉ state.enqueued := by
      rw [order.accepted, rejected]
      simp
    have untaken : call ∉ state.dequeued := fun member => refused (enqueued_of_dequeued member)
    exact ⟨refused, untaken, fun threadid runs => untaken (work.running threadid call runs).1,
      fun done => untaken (work.finished done),
      fun label next taken => rejected_stays rejected (step_transition taken)⟩
  · rintro (done | ⟨threadid, runs⟩)
    · exact work.finished done
    · exact (work.running threadid task runs).1
  · intro returned task member
    have gone := emptied returned
    have empty := pool.queue_empty (by rw [kept.init]; omega) gone
    rw [← order.order, empty, List.append_nil] at member
    refine (work.taken task member).resolve_right ?_
    rintro ⟨threadid, runs⟩
    exact pool.threads.none_executing gone threadid task runs

theorem accepted_tasks_run_once_destroyed : ∃ state : PoolState,
    machine.Runs Machine.anyStep (start (.configured .MODE_FIXED 1 4) 1 0)
      [.launch, .count, .submit, .submit, .lockSubmit 0, .lockSubmit 1, .wakeSubmit 1 true,
        .lockWorker 0, .destroy, .lockDestructor, .finishTask 0, .countIdle 0, .lockWorker 0,
        .wakeDestructor] state ∧
      state.destructor = .returned ∧ state.calls = [.enqueued, .rejected] ∧
      (∀ task ∈ state.enqueued, task ∈ state.finished) ∧ 1 ∉ state.finished := by
  have run : machine.Runs Machine.anyStep (start (.configured .MODE_FIXED 1 4) 1 0)
      [.launch, .count, .submit, .submit, .lockSubmit 0, .lockSubmit 1, .wakeSubmit 1 true,
        .lockWorker 0, .destroy, .lockDestructor, .finishTask 0, .countIdle 0, .lockWorker 0,
        .wakeDestructor] _ :=
    .cons trivial rfl <| .cons trivial rfl <| .cons trivial rfl <| .cons trivial rfl <|
      .cons trivial rfl <| .cons trivial rfl <| .cons trivial rfl <| .cons trivial rfl <|
      .cons trivial rfl <| .cons trivial rfl <| .cons trivial rfl <| .cons trivial rfl <|
      .cons trivial rfl <| .cons trivial rfl .nil
  obtain ⟨_, rejected, _, _, _, _, _, all_done⟩ :=
    accepted_tasks_run_once _ _ _ 1 (Nat.le_refl 1) _ _ run
  exact ⟨_, run, rfl, rfl, all_done rfl, (rejected 1 rfl).2.2.2.1⟩

end PoolState

end TalkSystem.Base
