import Mathlib.Data.List.Nodup
import TalkSystem.Base.ThreadPool
import TalkSystem.Machine.ProcessTable

/-!
# Accounting of a `ThreadPool`

`Transition` says what a step can do, with the facts that it has tested. The
invariants of this module relate `threads_`, the queue and the counters; they
hold from `start` to the end of the destructor, except that the workers that
leave by shutdown are no longer counted off.
-/

set_option autoImplicit false

namespace TalkSystem.Base

theorem toSizeT_le {value : Int} (nonneg : 0 ≤ value) : toSizeT value ≤ value := by
  unfold toSizeT
  omega

/-- The setters lead to the configured pools: the limit on threads is kept only
in `MODE_CACHED`. -/
theorem ThreadPool.configured_of_setters (mode : PoolMode)
    (taskQueMaxThreshHold threadSizeThreshHold : Int) :
    ((new.setMode mode).setTaskQueMaxThreshHold taskQueMaxThreshHold).setThreadSizeThreshHold
        threadSizeThreshHold =
      configured mode taskQueMaxThreshHold
        (if mode = .MODE_CACHED then threadSizeThreshHold else THREAD_MAX_THRESHHOLD) := by
  cases mode <;> rfl

/-- A worker that is about to look for a task. -/
def WorkerPhase.seeking : WorkerPhase → Bool
  | .locking | .waiting _ => true
  | _ => false

/-- A worker that has been launched and has not left. -/
def WorkerPhase.live : WorkerPhase → Bool
  | .unstarted | .exited => false
  | _ => true

theorem WorkerPhase.live_of_seeking {phase : WorkerPhase} (seeking : phase.seeking = true) :
    phase.live = true := by
  cases phase <;> first | rfl | cases seeking

@[simp] theorem WorkerPhase.notify_eq_exited {phase : WorkerPhase} :
    phase.notify = .exited ↔ phase = .exited := by
  cases phase <;> simp [notify]

@[simp] theorem WorkerPhase.notify_eq_unstarted {phase : WorkerPhase} :
    phase.notify = .unstarted ↔ phase = .unstarted := by
  cases phase <;> simp [notify]

@[simp] theorem WorkerPhase.notify_busy {phase : WorkerPhase} :
    phase.notify.busy = phase.busy := by
  cases phase <;> rfl

namespace PoolState

variable {state next : PoolState} {label : PoolLabel} {labels : List PoolLabel}

inductive Transition : PoolState → PoolLabel → PoolState → Prop where
  | launch {state : PoolState} : state.startReturned = false →
      state.launched = state.counted → state.launched ∈ state.pool.threads →
      Transition state .launch
        { state.setWorker state.launched .locking with launched := state.launched + 1 }
  | count {state : PoolState} : state.counted < state.launched →
      Transition state .count
        { state with
          pool := { state.pool with idleThreadSize := state.pool.idleThreadSize + 1 }
          counted := state.counted + 1 }
  | submit {state : PoolState} : state.startReturned = true → state.destructor = .uncalled →
      Transition state .submit { state with calls := state.calls ++ [.locking] }
  | enqueue {state : PoolState} {label : PoolLabel} {call : Nat} {phase : SubmitPhase} :
      state.calls[call]? = some phase → phase.returned = false → state.pool.notFull = true →
      Transition state label (state.enqueue call)
  | refuse {state : PoolState} {label : PoolLabel} {call : Nat} {phase after : SubmitPhase} :
      state.calls[call]? = some phase → phase.returned = false → after ≠ .enqueued →
      Transition state label { state with calls := state.calls.set call after }
  | wait {state : PoolState} {label : PoolLabel} {threadid : Nat} :
      (state.workers threadid).seeking = true → state.pool.taskQue = [] →
      state.pool.isPoolRunning = true →
      Transition state label (state.setWorker threadid (.waiting false))
  | leave {state : PoolState} {label : PoolLabel} {threadid : Nat} :
      (state.workers threadid).seeking = true → state.pool.taskQue = [] →
      state.pool.isPoolRunning = false →
      Transition state label (state.leave threadid)
  | take {state : PoolState} {label : PoolLabel} {threadid task : Nat} {rest : List Nat} :
      (state.workers threadid).seeking = true → state.pool.taskQue = task :: rest →
      Transition state label (state.takeTask threadid task)
  | reap {state : PoolState} {threadid : Nat} {notified timedOut longIdle : Bool} :
      state.workers threadid = .waiting notified →
      state.pool.reaps timedOut longIdle = true →
      Transition state (.wakeWorker threadid timedOut longIdle) (state.reap threadid)
  | finishTask {state : PoolState} {threadid task : Nat} :
      state.workers threadid = .executing task →
      Transition state (.finishTask threadid)
        { state.setWorker threadid .executed with finished := state.finished ++ [task] }
  | countIdle {state : PoolState} {threadid : Nat} : state.workers threadid = .executed →
      Transition state (.countIdle threadid)
        { state.setWorker threadid .locking with
          pool := { state.pool with idleThreadSize := state.pool.idleThreadSize + 1 } }
  | destroy {state : PoolState} : state.startReturned = true → state.destructor = .uncalled →
      state.allReturned = true →
      Transition state .destroy
        { state with
          pool := { state.pool with isPoolRunning := false }
          destructor := .stored }
  | lockDestructor {state : PoolState} : state.destructor = .stored →
      Transition state .lockDestructor state.notifyNotEmpty.awaitThreads
  | wakeDestructor {state : PoolState} {notified : Bool} :
      state.destructor = .waiting notified →
      Transition state .wakeDestructor state.awaitThreads

theorem trySubmit_transition {call : Nat} {phase : SubmitPhase} {timedOut : Bool}
    (found : state.calls[call]? = some phase) (running : phase.returned = false) :
    Transition state label (state.trySubmit call timedOut) := by
  unfold trySubmit
  split
  · next room => exact .enqueue found running room
  · exact .refuse found running (by split <;> simp)

theorem seekTask_transition {threadid : Nat}
    (seeking : (state.workers threadid).seeking = true) :
    Transition state label (state.seekTask threadid) := by
  unfold seekTask
  split
  · next empty =>
      split
      · next running => exact .wait seeking empty running
      · next stopped => exact .leave seeking empty (by simpa using stopped)
  · next shape => exact .take seeking shape

theorem step_transition (taken : machine.step state label = some next) :
    Transition state label next := by
  change state.step label = some next at taken
  cases label with
  | launch =>
      simp only [step] at taken
      split at taken
      · next enabled => cases taken; exact .launch enabled.2.1 enabled.1 enabled.2.2
      · cases taken
  | count =>
      simp only [step] at taken
      split at taken
      · next enabled => cases taken; exact .count enabled
      · cases taken
  | submit =>
      simp only [step] at taken
      split at taken
      · next enabled => cases taken; exact .submit enabled.1 enabled.2
      · cases taken
  | lockSubmit call =>
      simp only [step] at taken
      split at taken
      · next found => cases taken; exact trySubmit_transition found rfl
      · cases taken
  | wakeSubmit call timedOut =>
      simp only [step] at taken
      split at taken
      · next found => cases taken; exact trySubmit_transition found rfl
      · cases taken
  | lockWorker threadid =>
      simp only [step] at taken
      split at taken
      · next locking =>
          cases taken
          exact seekTask_transition (by simp [locking, WorkerPhase.seeking])
      · cases taken
  | wakeWorker threadid timedOut longIdle =>
      simp only [step] at taken
      split at taken
      · next notified waiting =>
          split at taken
          · next reaps => cases taken; exact .reap waiting reaps
          · cases taken
            exact seekTask_transition (by simp [waiting, WorkerPhase.seeking])
      · cases taken
  | finishTask threadid =>
      simp only [step] at taken
      split at taken
      · next executing => cases taken; exact .finishTask executing
      · cases taken
  | countIdle threadid =>
      simp only [step] at taken
      split at taken
      · next executed => cases taken; exact .countIdle executed
      · cases taken
  | destroy =>
      simp only [step] at taken
      split at taken
      · next enabled => cases taken; exact .destroy enabled.1 enabled.2.1 enabled.2.2
      · cases taken
  | lockDestructor =>
      simp only [step] at taken
      split at taken
      · next stored => cases taken; exact .lockDestructor stored
      · cases taken
  | wakeDestructor =>
      simp only [step] at taken
      split at taken
      · next waiting => cases taken; exact .wakeDestructor waiting
      · cases taken

/-- A worker that is due for reaping leaves. -/
theorem reap_of_step {threadid : Nat} {timedOut longIdle : Bool}
    (idle : state.pool.reaps timedOut longIdle = true)
    (taken : machine.step state (.wakeWorker threadid timedOut longIdle) = some next) :
    next = state.reap threadid := by
  change state.step (.wakeWorker threadid timedOut longIdle) = some next at taken
  simp only [step] at taken
  split at taken
  · rw [if_pos idle] at taken
    exact (Option.some.inj taken).symm
  · cases taken

/-! ## The threads -/

def busy (state : PoolState) : Nat :=
  ProcessTable.count WorkerPhase.busy state.workers state.pool.threads

/-- `threads_` has the threads that were created and have not left, and those
that `start` has not launched yet do nothing. -/
structure ThreadsInv (state : PoolState) : Prop where
  unique : state.pool.threads.Nodup
  alive : ∀ threadid, threadid ∈ state.pool.threads ↔
    threadid < state.numCreated ∧ state.workers threadid ≠ .exited
  unborn : ∀ threadid, state.numCreated ≤ threadid → state.workers threadid = .unstarted
  unlaunched : state.startReturned = false →
    ∀ threadid, state.launched ≤ threadid → state.workers threadid = .unstarted
  begun : state.calls ≠ [] → state.startReturned = true

variable {threadid call : Nat} {phase : WorkerPhase}

namespace ThreadsInv

theorem born (inv : ThreadsInv state) (live : (state.workers threadid).live = true) :
    threadid < state.numCreated := by
  by_contra outside
  simp [inv.unborn threadid (Nat.le_of_not_lt outside), WorkerPhase.live] at live

theorem member (inv : ThreadsInv state) (live : (state.workers threadid).live = true) :
    threadid ∈ state.pool.threads := by
  refine (inv.alive threadid).mpr ⟨inv.born live, fun exited => ?_⟩
  simp [exited, WorkerPhase.live] at live

theorem launched_of_live (inv : ThreadsInv state) (starting : state.startReturned = false)
    (live : (state.workers threadid).live = true) : threadid < state.launched := by
  by_contra late
  simp [inv.unlaunched starting threadid (Nat.le_of_not_lt late), WorkerPhase.live] at live

/-- A thread that is running stays in `threads_` and goes on in another phase. -/
theorem setWorker (inv : ThreadsInv state) (live : (state.workers threadid).live = true)
    (stays : phase ≠ .exited) : ThreadsInv (state.setWorker threadid phase) := by
  have born := inv.born live
  refine ⟨inv.unique, fun other => ?_, fun other unborn => ?_, fun starting other late => ?_,
    inv.begun⟩
  · by_cases same : other = threadid
    · subst same
      simp [PoolState.setWorker, inv.member live, born, stays]
    · simpa [PoolState.setWorker, same] using inv.alive other
  · have later : state.numCreated ≤ other := unborn
    have different : other ≠ threadid := by omega
    simpa [PoolState.setWorker, different] using inv.unborn other unborn
  · have before := inv.launched_of_live starting live
    have later : state.launched ≤ other := late
    have different : other ≠ threadid := by omega
    simpa [PoolState.setWorker, different] using inv.unlaunched starting other late

theorem notifyNotEmpty (inv : ThreadsInv state) : ThreadsInv state.notifyNotEmpty := by
  refine ⟨inv.unique, fun other => ?_, fun other unborn => ?_, fun starting other late => ?_,
    inv.begun⟩
  · simpa [PoolState.notifyNotEmpty] using inv.alive other
  · simpa [PoolState.notifyNotEmpty] using inv.unborn other unborn
  · simpa [PoolState.notifyNotEmpty] using inv.unlaunched starting other late

theorem notifyNotFull (inv : ThreadsInv state) : ThreadsInv state.notifyNotFull :=
  ⟨inv.unique, inv.alive, inv.unborn, inv.unlaunched,
    fun some_call => inv.begun fun none => some_call (by simp [PoolState.notifyNotFull, none])⟩

/-- No call is made before `start` has returned. -/
theorem begun_of_call {submit : SubmitPhase} (inv : ThreadsInv state)
    (found : state.calls[call]? = some submit) : state.startReturned = true := by
  refine inv.begun fun none => ?_
  simp [none] at found

theorem queueTask {submit : SubmitPhase} (inv : ThreadsInv state)
    (found : state.calls[call]? = some submit) : ThreadsInv (state.queueTask call) := by
  have emplaced : ThreadsInv { state with
      pool := state.pool.emplace call
      calls := state.calls.set call .enqueued
      enqueued := state.enqueued ++ [call] } :=
    ⟨inv.unique, inv.alive, inv.unborn, inv.unlaunched, fun _ => inv.begun_of_call found⟩
  exact emplaced.notifyNotEmpty

/-- A running thread leaves, on either way out. -/
theorem exit {pool : ThreadPool} (inv : ThreadsInv state)
    (live : (state.workers threadid).live = true)
    (threads : pool.threads = state.pool.threads.erase threadid)
    (same : pool.initThreadSize = state.pool.initThreadSize) :
    ThreadsInv ({ state with pool := pool }.setWorker threadid .exited) := by
  have born := inv.born live
  refine ⟨threads ▸ inv.unique.erase threadid, fun other => ?_, fun other unborn => ?_,
    fun starting other late => ?_, fun some_call => ?_⟩
  · have erased : other ∈ pool.threads ↔ other ≠ threadid ∧ other ∈ state.pool.threads := by
      rw [threads, inv.unique.mem_erase_iff]
    by_cases moved : other = threadid
    · subst moved
      simp [PoolState.setWorker, erased]
    · simpa [PoolState.setWorker, moved, erased] using inv.alive other
  · have later : state.numCreated ≤ other := unborn
    have different : other ≠ threadid := by omega
    simpa [PoolState.setWorker, different] using inv.unborn other unborn
  · have before : state.startReturned = false := by
      simpa [startReturned, PoolState.setWorker, same] using starting
    have launched := inv.launched_of_live before live
    have later : state.launched ≤ other := late
    have different : other ≠ threadid := by omega
    simpa [PoolState.setWorker, different] using inv.unlaunched before other late
  · simpa [startReturned, PoolState.setWorker, same] using inv.begun some_call

theorem createThread (inv : ThreadsInv state) (returned : state.startReturned = true) :
    ThreadsInv state.createThread := by
  have absent : state.numCreated ∉ state.pool.threads := fun member =>
    Nat.lt_irrefl _ ((inv.alive _).mp member).1
  refine ⟨?_, fun other => ?_, fun other unborn => ?_, fun starting => ?_, fun _ => returned⟩
  · exact List.nodup_append.mpr ⟨inv.unique, List.nodup_singleton _, by
      rintro other member _ created rfl
      exact absent (List.mem_singleton.mp created ▸ member)⟩
  · by_cases fresh : other = state.numCreated
    · subst fresh
      simp [PoolState.createThread, PoolState.setWorker, ThreadPool.addThread]
    · have before := inv.alive other
      simp only [PoolState.createThread, PoolState.setWorker, ThreadPool.addThread,
        List.mem_append, List.mem_singleton, fresh, or_false, Function.update_of_ne fresh, before]
      constructor
      · rintro ⟨born, present⟩
        exact ⟨Nat.lt_succ_of_lt born, present⟩
      · rintro ⟨born, present⟩
        exact ⟨by omega, present⟩
  · have later : state.numCreated + 1 ≤ other := unborn
    have fresh : other ≠ state.numCreated := by omega
    simpa [PoolState.createThread, PoolState.setWorker, fresh] using
      inv.unborn other (by omega)
  · have contradiction : state.startReturned = false := starting
    simp [returned] at contradiction

theorem launch (inv : ThreadsInv state) (starting : state.startReturned = false)
    (created : state.launched ∈ state.pool.threads) :
    ThreadsInv { state.setWorker state.launched .locking with launched := state.launched + 1 } := by
  have born := ((inv.alive _).mp created).1
  refine ⟨inv.unique, fun other => ?_, fun other unborn => ?_, fun _ other late => ?_, inv.begun⟩
  · by_cases same : other = state.launched
    · subst same
      simp [PoolState.setWorker, created, born]
    · simpa [PoolState.setWorker, same] using inv.alive other
  · have different : other ≠ state.launched := by
      rintro rfl
      exact absurd born (Nat.not_lt.mpr unborn)
    simpa [PoolState.setWorker, different] using inv.unborn other unborn
  · have later : state.launched + 1 ≤ other := late
    have different : other ≠ state.launched := by omega
    simpa [PoolState.setWorker, different] using inv.unlaunched starting other (by omega)

theorem count (inv : ThreadsInv state) {pool : ThreadPool}
    (threads : pool.threads = state.pool.threads)
    (same : pool.initThreadSize = state.pool.initThreadSize) :
    ThreadsInv { state with pool := pool, counted := state.counted + 1 } := by
  refine ⟨threads ▸ inv.unique, fun other => threads ▸ inv.alive other, inv.unborn,
    fun starting => inv.unlaunched ?_, fun some_call => ?_⟩
  · simp only [startReturned, same, decide_eq_false_iff_not] at starting ⊢
    omega
  · have before := inv.begun some_call
    simp only [startReturned, same, decide_eq_true_eq] at before ⊢
    omega

/-- A thread that leaves `threads_` empty was its last. -/
theorem last_of_reap {notified : Bool} (inv : ThreadsInv state)
    (waiting : state.workers threadid = .waiting notified)
    (gone : (state.reap threadid).pool.threads = []) : state.pool.threads = [threadid] := by
  have member : threadid ∈ state.pool.threads :=
    inv.member (by simp [waiting, WorkerPhase.live])
  have erased : state.pool.threads.erase threadid = [] := gone
  exact List.perm_singleton.mp (erased ▸ List.perm_cons_erase member)

end ThreadsInv

theorem ThreadsInv.step (inv : ThreadsInv state) (taken : Transition state label next) :
    ThreadsInv next := by
  cases taken with
  | launch starting _ created => exact inv.launch starting created
  | count => exact inv.count rfl rfl
  | submit returned => exact ⟨inv.unique, inv.alive, inv.unborn, inv.unlaunched, fun _ => returned⟩
  | @enqueue _ call phase found =>
      have queued := inv.queueTask found
      unfold PoolState.enqueue
      dsimp only
      split
      · exact queued.createThread (inv.begun_of_call found)
      · exact queued
  | refuse found =>
      exact ⟨inv.unique, inv.alive, inv.unborn, inv.unlaunched, fun _ => inv.begun_of_call found⟩
  | wait seeking => exact inv.setWorker (WorkerPhase.live_of_seeking seeking) (by simp)
  | @leave _ threadid seeking =>
      have gone : ThreadsInv ({ state with
          pool := state.pool.leave threadid }.setWorker threadid .exited) :=
        inv.exit (WorkerPhase.live_of_seeking seeking) rfl rfl
      exact ⟨gone.unique, gone.alive, gone.unborn, gone.unlaunched, gone.begun⟩
  | @take _ threadid task rest seeking =>
      have popped : ThreadsInv { state with
          pool := state.pool.pop
          dequeued := state.dequeued ++ [task] } :=
        ⟨inv.unique, inv.alive, inv.unborn, inv.unlaunched, inv.begun⟩
      have taken : ThreadsInv (state.popTask threadid task) :=
        popped.setWorker (WorkerPhase.live_of_seeking seeking) (by simp)
      refine notifyNotFull ?_
      split
      · exact taken
      · exact taken.notifyNotEmpty
  | reap waiting => exact inv.exit (by simp [waiting, WorkerPhase.live]) rfl rfl
  | @finishTask threadid task executing =>
      have moved : ThreadsInv (state.setWorker threadid .executed) :=
        inv.setWorker (by simp [executing, WorkerPhase.live]) (by simp)
      exact ⟨moved.unique, moved.alive, moved.unborn, moved.unlaunched, moved.begun⟩
  | @countIdle threadid executed =>
      have moved : ThreadsInv (state.setWorker threadid .locking) :=
        inv.setWorker (by simp [executed, WorkerPhase.live]) (by simp)
      exact ⟨moved.unique, moved.alive, moved.unborn, moved.unlaunched, moved.begun⟩
  | destroy => exact ⟨inv.unique, inv.alive, inv.unborn, inv.unlaunched, inv.begun⟩
  | lockDestructor =>
      have notified := inv.notifyNotEmpty
      exact ⟨notified.unique, notified.alive, notified.unborn, notified.unlaunched, notified.begun⟩
  | wakeDestructor => exact ⟨inv.unique, inv.alive, inv.unborn, inv.unlaunched, inv.begun⟩

/-! ## The counters -/

/-- The queue and its counter, and the three numbers of threads. A thread that
`start` has not counted yet is neither idle nor busy. The last field fails only
when a thread has left by shutdown, and then the queue stays empty. -/
structure CountersInv (state : PoolState) : Prop where
  size : state.pool.taskSize = state.pool.taskQue.length
  bound : 0 ≤ state.pool.taskQueMaxThreshHold →
    (state.pool.taskQue.length : Int) ≤ state.pool.taskQueMaxThreshHold
  counted : state.counted ≤ state.launched
  launched : (state.launched : Int) ≤ state.pool.initThreadSize
  idle : state.pool.curThreadSize = state.pool.idleThreadSize + state.busy +
    (state.pool.initThreadSize - state.counted)
  least : state.pool.initThreadSize ≤ state.pool.curThreadSize
  most : state.pool.curThreadSize ≤
    max state.pool.initThreadSize state.pool.threadSizeThreshHold
  fixed : state.pool.poolMode = .MODE_FIXED →
    state.pool.curThreadSize = state.pool.initThreadSize
  core : (state.pool.threads.length : Int) = state.pool.curThreadSize ∨
    state.pool.taskQue = [] ∧ state.pool.isPoolRunning = false

theorem busy_setWorker (inv : ThreadsInv state) (member : threadid ∈ state.pool.threads) :
    (state.setWorker threadid phase).busy + (state.workers threadid).busy.toNat =
      state.busy + phase.busy.toNat :=
  ProcessTable.count_update inv.unique member

@[simp] theorem busy_notifyNotEmpty : state.notifyNotEmpty.busy = state.busy :=
  ProcessTable.count_map fun _ => WorkerPhase.notify_busy

@[simp] theorem busy_notifyNotFull : state.notifyNotFull.busy = state.busy := rfl

/-- A thread that leaves is not busy. -/
theorem busy_exit {pool : ThreadPool} (inv : ThreadsInv state)
    (member : threadid ∈ state.pool.threads) (seeking : (state.workers threadid).busy = false)
    (threads : pool.threads = state.pool.threads.erase threadid) :
    ({ state with pool := pool }.setWorker threadid .exited).busy = state.busy := by
  have absent : threadid ∉ pool.threads := by
    rw [threads]
    exact inv.unique.not_mem_erase
  have erased := @ProcessTable.count_erase _ _ WorkerPhase.busy state.workers _ _ _ member
  calc ({ state with pool := pool }.setWorker threadid .exited).busy
      = ProcessTable.count WorkerPhase.busy state.workers pool.threads :=
        ProcessTable.count_update_of_not_mem absent
    _ = state.busy := by simpa [threads, seeking, PoolState.busy] using erased

theorem busy_createThread (inv : ThreadsInv state) : state.createThread.busy = state.busy := by
  have absent : state.numCreated ∉ state.pool.threads := fun member =>
    Nat.lt_irrefl _ ((inv.alive _).mp member).1
  have kept : ProcessTable.count WorkerPhase.busy
      (Function.update state.workers state.numCreated .locking) state.pool.threads =
        state.busy := ProcessTable.count_update_of_not_mem absent
  simp [PoolState.busy, PoolState.createThread, PoolState.setWorker, ThreadPool.addThread,
    ProcessTable.count_append_singleton, kept, WorkerPhase.busy]

theorem WorkerPhase.not_busy_of_seeking {phase : WorkerPhase} (seeking : phase.seeking = true) :
    phase.busy = false := by
  cases phase <;> first | rfl | cases seeking

namespace CountersInv

theorem notifyNotEmpty (inv : CountersInv state) : CountersInv state.notifyNotEmpty :=
  ⟨inv.size, inv.bound, inv.counted, inv.launched, by rw [busy_notifyNotEmpty]; exact inv.idle,
    inv.least, inv.most, inv.fixed, inv.core⟩

theorem notifyNotFull (inv : CountersInv state) : CountersInv state.notifyNotFull :=
  ⟨inv.size, inv.bound, inv.counted, inv.launched, inv.idle, inv.least, inv.most, inv.fixed,
    inv.core⟩

/-- A worker that moves between phases in which it is not busy. -/
theorem setWorker (inv : CountersInv state) (threads : ThreadsInv state)
    (member : threadid ∈ state.pool.threads)
    (same : (state.workers threadid).busy = phase.busy) :
    CountersInv (state.setWorker threadid phase) := by
  have kept : (state.setWorker threadid phase).busy + _ = _ := busy_setWorker threads member
  rw [same] at kept
  refine ⟨inv.size, inv.bound, inv.counted, inv.launched, ?_, inv.least, inv.most, inv.fixed,
    inv.core⟩
  rw [show (state.setWorker threadid phase).busy = state.busy by omega]
  exact inv.idle

theorem queueTask (inv : CountersInv state) (room : state.pool.notFull = true)
    (running : state.pool.isPoolRunning = true) : CountersInv (state.queueTask call) := by
  have emplaced : CountersInv { state with
      pool := state.pool.emplace call
      calls := state.calls.set call .enqueued
      enqueued := state.enqueued ++ [call] } := by
    refine ⟨?_, fun nonneg => ?_, inv.counted, inv.launched, inv.idle, inv.least, inv.most,
      inv.fixed, .inl (inv.core.resolve_right (by simp [running]))⟩
    · simp only [ThreadPool.emplace, List.length_append, List.length_singleton, inv.size]
      omega
    · have below : (state.pool.taskQue.length : Int) < toSizeT state.pool.taskQueMaxThreshHold :=
        by simpa [ThreadPool.notFull] using room
      have cast : toSizeT state.pool.taskQueMaxThreshHold ≤ state.pool.taskQueMaxThreshHold :=
        toSizeT_le nonneg
      simp only [ThreadPool.emplace, List.length_append, List.length_singleton]
      omega
  exact emplaced.notifyNotEmpty

theorem createThread (inv : CountersInv state) (threads : ThreadsInv state)
    (grows : state.pool.grows = true) (running : state.pool.isPoolRunning = true) :
    CountersInv state.createThread := by
  simp only [ThreadPool.grows, Bool.and_eq_true, decide_eq_true_eq] at grows
  obtain ⟨⟨cached, _⟩, room⟩ := grows
  have core := inv.core.resolve_right (by simp [running])
  have least := inv.least
  have idle := inv.idle
  refine ⟨inv.size, inv.bound, inv.counted, inv.launched, ?_, ?_, ?_, fun fixed => ?_, .inl ?_⟩
  · rw [busy_createThread threads]
    simp only [PoolState.createThread, PoolState.setWorker, ThreadPool.addThread]
    omega
  · simp only [PoolState.createThread, PoolState.setWorker, ThreadPool.addThread]
    omega
  · simp only [PoolState.createThread, PoolState.setWorker, ThreadPool.addThread]
    omega
  · have mode : state.pool.poolMode = .MODE_FIXED := fixed
    simp [cached] at mode
  · simp only [PoolState.createThread, PoolState.setWorker, ThreadPool.addThread,
      List.length_append, List.length_singleton]
    omega

theorem leave (inv : CountersInv state) (threads : ThreadsInv state)
    (seeking : (state.workers threadid).seeking = true) (empty : state.pool.taskQue = [])
    (stopped : state.pool.isPoolRunning = false) : CountersInv (state.leave threadid) := by
  have kept : (state.leave threadid).busy = state.busy :=
    busy_exit threads (threads.member (WorkerPhase.live_of_seeking seeking))
      (WorkerPhase.not_busy_of_seeking seeking) rfl
  exact ⟨inv.size, inv.bound, inv.counted, inv.launched, by rw [kept]; exact inv.idle, inv.least,
    inv.most, inv.fixed, .inr ⟨empty, stopped⟩⟩

theorem reap (inv : CountersInv state) (threads : ThreadsInv state)
    {notified timedOut longIdle : Bool}
    (waiting : state.workers threadid = .waiting notified)
    (reaps : state.pool.reaps timedOut longIdle = true) : CountersInv (state.reap threadid) := by
  simp only [ThreadPool.reaps, Bool.and_eq_true, decide_eq_true_eq] at reaps
  obtain ⟨⟨⟨cached, _⟩, _⟩, extra⟩ := reaps
  have member : threadid ∈ state.pool.threads :=
    threads.member (by simp [waiting, WorkerPhase.live])
  have kept : (state.reap threadid).busy = state.busy :=
    busy_exit threads member (by simp [waiting, WorkerPhase.busy]) rfl
  have idle := inv.idle
  have most := inv.most
  refine ⟨inv.size, inv.bound, inv.counted, inv.launched, ?_, ?_, ?_, fun fixed => ?_, ?_⟩
  · rw [kept]
    simp only [PoolState.reap, PoolState.setWorker, ThreadPool.reap]
    omega
  · simp only [PoolState.reap, PoolState.setWorker, ThreadPool.reap]
    omega
  · simp only [PoolState.reap, PoolState.setWorker, ThreadPool.reap]
    omega
  · have mode : state.pool.poolMode = .MODE_FIXED := fixed
    simp [cached] at mode
  · refine inv.core.imp (fun core => ?_) id
    have some_thread := List.length_pos_of_mem member
    simp only [PoolState.reap, PoolState.setWorker, ThreadPool.reap,
      List.length_erase_of_mem member]
    omega

theorem takeTask (inv : CountersInv state) (threads : ThreadsInv state) {task : Nat}
    {rest : List Nat} (seeking : (state.workers threadid).seeking = true)
    (shape : state.pool.taskQue = task :: rest) : CountersInv (state.takeTask threadid task) := by
  have popped : ThreadsInv { state with
      pool := state.pool.pop
      dequeued := state.dequeued ++ [task] } :=
    ⟨threads.unique, threads.alive, threads.unborn, threads.unlaunched, threads.begun⟩
  have busier : (state.popTask threadid task).busy + _ = state.busy + 1 :=
    busy_setWorker popped (threads.member (WorkerPhase.live_of_seeking seeking))
  have before : (state.workers threadid).busy = false := WorkerPhase.not_busy_of_seeking seeking
  have size := inv.size
  have idle := inv.idle
  have taken : CountersInv (state.popTask threadid task) := by
    refine ⟨?_, fun nonneg => ?_, inv.counted, inv.launched, ?_, inv.least, inv.most, inv.fixed,
      .inl (inv.core.resolve_right (by simp [shape]))⟩
    · simp only [popTask, PoolState.setWorker, ThreadPool.pop, shape, List.tail_cons,
        List.length_cons] at size ⊢
      omega
    · have bound := inv.bound nonneg
      simp only [popTask, PoolState.setWorker, ThreadPool.pop, shape, List.tail_cons,
        List.length_cons] at bound ⊢
      omega
    · simp only [before, Bool.toNat_false] at busier
      simp only [popTask, PoolState.setWorker, ThreadPool.pop] at busier ⊢
      omega
  refine notifyNotFull ?_
  split
  · exact taken
  · exact taken.notifyNotEmpty

end CountersInv

/-- When the destructor has begun no call of `submitTask` is under way. -/
structure LifeInv (state : PoolState) : Prop where
  running : state.pool.isPoolRunning = true ↔ state.destructor = .uncalled
  returned : state.destructor ≠ .uncalled → state.allReturned = true

theorem LifeInv.running_of_call {submit : SubmitPhase} (inv : LifeInv state)
    (found : state.calls[call]? = some submit) (under_way : submit.returned = false) :
    state.pool.isPoolRunning = true := by
  by_contra stopped
  have all := inv.returned (mt inv.running.mpr stopped)
  have returned := List.all_eq_true.mp all submit (List.mem_of_getElem? found)
  simp [under_way] at returned

theorem CountersInv.step (inv : CountersInv state) (threads : ThreadsInv state)
    (life : LifeInv state) (taken : Transition state label next) : CountersInv next := by
  cases taken with
  | launch starting level created =>
      have unstarted := threads.unlaunched starting _ (Nat.le_refl _)
      have moved : CountersInv (state.setWorker state.launched .locking) :=
        inv.setWorker threads created (by simp [unstarted, WorkerPhase.busy])
      have counted := inv.counted
      refine ⟨moved.size, moved.bound, ?_, ?_, moved.idle, moved.least, moved.most, moved.fixed,
        moved.core⟩
      · simp only [PoolState.setWorker]
        omega
      · simp only [startReturned, decide_eq_false_iff_not] at starting
        simp only [PoolState.setWorker]
        omega
  | count behind =>
      have idle := inv.idle
      refine ⟨inv.size, inv.bound, behind, inv.launched, ?_, inv.least, inv.most, inv.fixed,
        inv.core⟩
      simp only [PoolState.busy] at idle ⊢
      omega
  | @enqueue _ call submit found under_way room =>
      have running := life.running_of_call found under_way
      have queued : CountersInv (state.queueTask call) := inv.queueTask room running
      unfold PoolState.enqueue
      dsimp only
      split
      · next grows =>
          exact queued.createThread (threads.queueTask found) grows running
      · exact queued
  | @wait _ threadid seeking =>
      refine inv.setWorker threads (threads.member (WorkerPhase.live_of_seeking seeking)) ?_
      rw [WorkerPhase.not_busy_of_seeking seeking]
      rfl
  | leave seeking empty stopped => exact inv.leave threads seeking empty stopped
  | take seeking shape => exact inv.takeTask threads seeking shape
  | reap waiting reaps => exact inv.reap threads waiting reaps
  | @finishTask threadid task executing =>
      have moved : CountersInv (state.setWorker threadid .executed) :=
        inv.setWorker threads (threads.member (by simp [executing, WorkerPhase.live]))
          (by simp [executing, WorkerPhase.busy])
      exact ⟨moved.size, moved.bound, moved.counted, moved.launched, moved.idle, moved.least,
        moved.most, moved.fixed, moved.core⟩
  | @countIdle threadid executed =>
      have member : threadid ∈ state.pool.threads :=
        threads.member (by simp [executed, WorkerPhase.live])
      have fewer : (state.setWorker threadid .locking).busy + _ = state.busy + 0 :=
        busy_setWorker threads member
      have idle := inv.idle
      refine ⟨inv.size, inv.bound, inv.counted, inv.launched, ?_, inv.least, inv.most, inv.fixed,
        inv.core⟩
      simp only [executed, WorkerPhase.busy, Bool.toNat_true] at fewer
      simp only [PoolState.busy, PoolState.setWorker] at fewer idle ⊢
      omega
  | destroy =>
      exact ⟨inv.size, inv.bound, inv.counted, inv.launched, inv.idle, inv.least, inv.most,
        inv.fixed, inv.core.imp id fun left => ⟨left.1, rfl⟩⟩
  | lockDestructor =>
      have notified := inv.notifyNotEmpty
      exact ⟨notified.size, notified.bound, notified.counted, notified.launched, notified.idle,
        notified.least, notified.most, notified.fixed, notified.core⟩
  | submit | refuse | wakeDestructor =>
      exact ⟨inv.size, inv.bound, inv.counted, inv.launched, inv.idle, inv.least, inv.most,
        inv.fixed, inv.core⟩

@[simp] theorem allReturned_notifyNotFull :
    state.notifyNotFull.allReturned = state.allReturned := by
  have same (submit : SubmitPhase) : submit.notify.returned = submit.returned := by
    cases submit <;> rfl
  simp [allReturned, PoolState.notifyNotFull, List.all_map, Function.comp_def, same]

@[simp] theorem notify_uncalled {destructor : DestructorPhase} :
    destructor.notify = .uncalled ↔ destructor = .uncalled := by
  cases destructor <;> simp [DestructorPhase.notify]

theorem awaitThreads_called : state.awaitThreads.destructor ≠ .uncalled := by
  unfold awaitThreads
  dsimp only
  split <;> simp

theorem LifeInv.step (inv : LifeInv state) (taken : Transition state label next) :
    LifeInv next := by
  cases taken with
  | launch | count | wait | reap | finishTask | countIdle => exact ⟨inv.running, inv.returned⟩
  | submit _ uncalled => exact ⟨inv.running, fun called => absurd uncalled called⟩
  | @enqueue _ call submit found under_way =>
      have uncalled := inv.running.mp (inv.running_of_call found under_way)
      unfold PoolState.enqueue
      dsimp only
      split <;> exact ⟨inv.running, fun called => absurd uncalled called⟩
  | refuse found under_way =>
      have uncalled := inv.running.mp (inv.running_of_call found under_way)
      exact ⟨inv.running, fun called => absurd uncalled called⟩
  | leave =>
      exact ⟨inv.running.trans notify_uncalled.symm,
        fun called => inv.returned (mt notify_uncalled.mpr called)⟩
  | take =>
      unfold PoolState.takeTask
      dsimp only
      split <;> exact ⟨inv.running,
        fun called => allReturned_notifyNotFull.trans (inv.returned called)⟩
  | destroy _ _ returned => exact ⟨by simp, fun _ => returned⟩
  | lockDestructor stored =>
      have called : state.destructor ≠ .uncalled := by simp [stored]
      exact ⟨iff_of_false (mt inv.running.mp called) awaitThreads_called,
        fun _ => inv.returned called⟩
  | wakeDestructor waiting =>
      have called : state.destructor ≠ .uncalled := by simp [waiting]
      exact ⟨iff_of_false (mt inv.running.mp called) awaitThreads_called,
        fun _ => inv.returned called⟩

/-! ## Runs -/

structure PoolInv (state : PoolState) : Prop where
  threads : ThreadsInv state
  counters : CountersInv state
  life : LifeInv state

theorem PoolInv.step (inv : PoolInv state) (taken : Transition state label next) : PoolInv next :=
  ⟨inv.threads.step taken, inv.counters.step inv.threads inv.life taken, inv.life.step taken⟩

variable {mode : PoolMode} {taskQueMaxThreshHold threadSizeThreshHold : Int} {count : Nat}

theorem start_threads :
    (start (.configured mode taskQueMaxThreshHold threadSizeThreshHold) count 0).pool.threads =
      List.range count := by
  simp [start, ThreadPool.create]

theorem poolInv_start :
    PoolInv (start (.configured mode taskQueMaxThreshHold threadSizeThreshHold) count 0) := by
  have idle : (start (.configured mode taskQueMaxThreshHold threadSizeThreshHold) count
      0).busy = 0 := by
    simp [busy, ProcessTable.count, start, WorkerPhase.busy]
  refine ⟨⟨?_, fun threadid => ?_, fun _ _ => rfl, fun _ _ _ => rfl,
    fun some_call => absurd rfl some_call⟩,
    ⟨rfl, id, Nat.le_refl _, ?_, ?_, Int.le_refl _, Int.le_max_left _ _, fun _ => rfl, .inl ?_⟩,
    ⟨?_, fun called => absurd rfl called⟩⟩
  · rw [start_threads]
    exact List.nodup_range
  · rw [start_threads]
    simp [start]
  · simp [start, ThreadPool.create]
  · rw [idle]
    simp [start, ThreadPool.create, ThreadPool.configured, ThreadPool.new]
  · rw [start_threads]
    simp [start, ThreadPool.create]
  · simp [start, ThreadPool.create]

/-- The settings of a pool are those that it was started with. -/
structure Configured (mode : PoolMode) (taskQueMaxThreshHold threadSizeThreshHold : Int)
    (count : Nat) (state : PoolState) : Prop where
  mode : state.pool.poolMode = mode
  tasks : state.pool.taskQueMaxThreshHold = taskQueMaxThreshHold
  threads : state.pool.threadSizeThreshHold = threadSizeThreshHold
  init : state.pool.initThreadSize = count

theorem Configured.step
    (kept : Configured mode taskQueMaxThreshHold threadSizeThreshHold count state)
    (taken : Transition state label next) :
    Configured mode taskQueMaxThreshHold threadSizeThreshHold count next := by
  cases taken with
  | enqueue =>
      unfold PoolState.enqueue
      dsimp only
      split <;> exact ⟨kept.mode, kept.tasks, kept.threads, kept.init⟩
  | take =>
      unfold PoolState.takeTask
      dsimp only
      split <;> exact ⟨kept.mode, kept.tasks, kept.threads, kept.init⟩
  | launch | count | submit | refuse | wait | leave | reap | finishTask | countIdle | destroy
  | lockDestructor | wakeDestructor => exact ⟨kept.mode, kept.tasks, kept.threads, kept.init⟩

theorem poolInv_run {guard : PoolState → PoolLabel → Prop}
    (run : machine.Runs guard
      (start (.configured mode taskQueMaxThreshHold threadSizeThreshHold) count 0) labels state) :
    PoolInv state ∧ Configured mode taskQueMaxThreshHold threadSizeThreshHold count state :=
  run.invariant
    (fun state =>
      PoolInv state ∧ Configured mode taskQueMaxThreshHold threadSizeThreshHold count state)
    (fun _ _ _ _ taken holds =>
      ⟨holds.1.step (step_transition taken), holds.2.step (step_transition taken)⟩)
    ⟨poolInv_start, ⟨rfl, rfl, rfl, rfl⟩⟩

/-- The accounting of a pool between the return of `start` and its destructor,
in either mode, whatever the submitters do: the counter of the queue is its
length and keeps to its bound, the counter of the threads is the size of
`threads_` and is the idle ones plus those between taking a task and counting
themselves idle, and it stays between its two limits. -/
theorem thread_pool_accounting (mode : PoolMode)
    (taskQueMaxThreshHold threadSizeThreshHold : Int) (count : Nat) (labels : List PoolLabel)
    (state : PoolState)
    (run : machine.Runs Machine.anyStep
      (start (.configured mode taskQueMaxThreshHold threadSizeThreshHold) count 0) labels state)
    (started : state.startReturned = true) (serving : state.destructor = .uncalled) :
    state.pool.taskSize = state.pool.taskQue.length ∧
      (0 ≤ taskQueMaxThreshHold → state.pool.taskSize ≤ taskQueMaxThreshHold) ∧
      (state.pool.threads.length : Int) = state.pool.curThreadSize ∧
      state.pool.curThreadSize = state.pool.idleThreadSize + state.busy ∧
      (count : Int) ≤ state.pool.curThreadSize ∧
      state.pool.curThreadSize ≤ max (count : Int) threadSizeThreshHold ∧
      (mode = .MODE_FIXED → state.pool.curThreadSize = count) := by
  obtain ⟨⟨_, counters, life⟩, kept⟩ := poolInv_run run
  have running := life.running.mpr serving
  have complete : (state.counted : Int) = state.pool.initThreadSize := by
    have counted := counters.counted
    have launched := counters.launched
    simp only [startReturned, decide_eq_true_eq] at started
    omega
  have idle := counters.idle
  refine ⟨counters.size, fun nonneg => ?_, counters.core.resolve_right (by simp [running]), ?_,
    kept.init ▸ counters.least, kept.init ▸ kept.threads ▸ counters.most,
    fun fixed => kept.init ▸ counters.fixed (kept.mode.trans fixed)⟩
  · rw [counters.size]
    exact kept.tasks ▸ counters.bound (kept.tasks ▸ nonneg)
  · omega

theorem thread_pool_accounting_growing : ∃ state : PoolState,
    machine.Runs Machine.anyStep (start (.configured .MODE_CACHED 8 4) 1 0)
      [.launch, .lockWorker 0, .count, .submit, .submit, .lockSubmit 0, .lockSubmit 1,
        .wakeWorker 0 false false] state ∧
      (state.pool.threads.length : Int) = state.pool.curThreadSize ∧
      state.pool.curThreadSize = 2 ∧ state.busy = 1 := by
  have run : machine.Runs Machine.anyStep (start (.configured .MODE_CACHED 8 4) 1 0)
      [.launch, .lockWorker 0, .count, .submit, .submit, .lockSubmit 0, .lockSubmit 1,
        .wakeWorker 0 false false] _ :=
    .cons trivial rfl <| .cons trivial rfl <| .cons trivial rfl <| .cons trivial rfl <|
      .cons trivial rfl <| .cons trivial rfl <| .cons trivial rfl <| .cons trivial rfl .nil
  exact ⟨_, run, (thread_pool_accounting _ _ _ 1 _ _ run rfl rfl).2.2.1, rfl, rfl⟩

end PoolState

end TalkSystem.Base
