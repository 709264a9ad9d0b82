import TalkSystem.Net.EventLoop

/-!
# Wake-ups and functor order

`Transition` says once what a step of an event loop can do; the invariants of
this module are case analyses over it. The wake-up invariant follows the loop
thread through its phases. The queue is an exactly-once first-in first-out
queue, and a call of `doPendingFunctors` is bounded by the batch that it took.
-/

set_option autoImplicit false

namespace TalkSystem.Net

namespace EventLoop

variable {Functor Thread : Type} {body : Functor → List (LoopCall Functor)}
  {loop next start final : EventLoop Functor Thread}
  {label : LoopLabel Functor Thread} {labels : List (LoopLabel Functor Thread)}

/-! ## Field laws -/

@[simp] theorem wakeup_queue : loop.wakeup.queue = loop.queue := by
  unfold wakeup; split <;> rfl
@[simp] theorem wakeup_phase : loop.wakeup.phase = loop.phase := by
  unfold wakeup; split <;> rfl
@[simp] theorem wakeup_calls : loop.wakeup.calls = loop.calls := by
  unfold wakeup; split <;> rfl
@[simp] theorem wakeup_calling :
    loop.wakeup.callingPendingFunctors = loop.callingPendingFunctors := by
  unfold wakeup; split <;> rfl
@[simp] theorem wakeup_emplaced : loop.wakeup.emplaced = loop.emplaced := by
  unfold wakeup; split <;> rfl
@[simp] theorem wakeup_executed : loop.wakeup.executed = loop.executed := by
  unfold wakeup; split <;> rfl

/-- After a wake-up the descriptor is readable, also when the write failed. -/
theorem wakeup_counter : 0 < loop.wakeup.wakeupCounter := by
  have positive : 0 < maxCounter := by decide
  unfold wakeup
  split
  · exact Nat.succ_pos _
  · omega

/-! ## Calls of user code -/

inductive CallTransition (body : Functor → List (LoopCall Functor)) :
    EventLoop Functor Thread → EventLoop Functor Thread → Prop where
  | queueInLoop {loop : EventLoop Functor Thread} {functor : Functor}
      {rest : List (LoopCall Functor)} :
      loop.calls = .queueInLoop functor :: rest →
      CallTransition body loop
        { loop.emplaceBack none functor with calls := .wakeupIfCalling :: rest }
  | runInLoop {loop : EventLoop Functor Thread} {functor : Functor}
      {rest : List (LoopCall Functor)} :
      loop.calls = .runInLoop functor :: rest →
      CallTransition body loop { loop with calls := body functor ++ rest }
  | wakeup {loop : EventLoop Functor Thread} {rest : List (LoopCall Functor)} :
      loop.calls = .wakeupIfCalling :: rest → loop.callingPendingFunctors = true →
      CallTransition body loop { loop.wakeup with calls := rest }
  | noWakeup {loop : EventLoop Functor Thread} {rest : List (LoopCall Functor)} :
      loop.calls = .wakeupIfCalling :: rest → loop.callingPendingFunctors = false →
      CallTransition body loop { loop with calls := rest }
  | quit {loop : EventLoop Functor Thread} {rest : List (LoopCall Functor)} :
      loop.calls = .quit :: rest →
      CallTransition body loop { loop with quit := true, calls := rest }

theorem callStep_transition (taken : loop.callStep body = some next) :
    CallTransition body loop next := by
  unfold callStep at taken
  split at taken
  · cases taken
  · next shape => cases taken; exact .queueInLoop shape
  · next shape => cases taken; exact .runInLoop shape
  · next rest shape =>
      cases calling : loop.callingPendingFunctors with
      | true =>
          rw [if_pos calling] at taken
          cases taken
          exact .wakeup shape calling
      | false =>
          rw [if_neg (by simp [calling])] at taken
          cases taken
          exact .noWakeup shape calling
  · next shape => cases taken; exact .quit shape

/-! ## The invariants -/

/-- Nothing is pending, or something will wake the loop: the descriptor is
readable, or another thread is about to write to it. -/
def Covered (loop : EventLoop Functor Thread) : Prop :=
  loop.queue.pending = [] ∨ 0 < loop.wakeupCounter ∨ ∃ thread, loop.callers thread = .queued

/-- What each phase of the loop owes to the next `poll`. While channels are
dispatched nothing is owed, since the swap is still to come; afterwards the
loop thread itself may be the one that is about to wake the loop. -/
structure WakeInv (loop : EventLoop Functor Thread) : Prop where
  calling : loop.phase = .running → loop.callingPendingFunctors = true
  entering : loop.phase = .swapping → loop.callingPendingFunctors = true
  covered : loop.phase = .starting ∨ loop.phase = .testing ∨ loop.phase = .polling →
    loop.Covered
  running : loop.phase = .running →
    loop.Covered ∨ ∃ rest, loop.calls = .wakeupIfCalling :: rest

theorem WakeInv.of_covered (calling : loop.phase = .running → loop.callingPendingFunctors = true)
    (entering : loop.phase = .swapping → loop.callingPendingFunctors = true)
    (covered : loop.Covered) : WakeInv loop :=
  ⟨calling, entering, fun _ => covered, fun _ => .inl covered⟩

theorem WakeInv.call (inv : WakeInv loop)
    (phase : (∃ wakeup, loop.phase = .dispatching wakeup) ∨ loop.phase = .running)
    (taken : CallTransition body loop next) : WakeInv next := by
  rcases phase with ⟨wakeup, dispatching⟩ | running
  · -- During dispatch the invariant asks for nothing, and a call keeps the phase.
    have same : next.phase = .dispatching wakeup := by
      cases taken <;> simp [emplaceBack, dispatching]
    constructor <;> simp [same]
  · have calling := inv.calling running
    have covered := inv.running running
    cases taken with
    | queueInLoop shape =>
        exact ⟨fun _ => calling, fun _ => calling, by simp [emplaceBack, running],
          fun _ => .inr ⟨_, rfl⟩⟩
    | runInLoop shape =>
        exact .of_covered (fun _ => calling) (fun _ => calling)
          (covered.resolve_right (by simp [shape]))
    | wakeup shape flag =>
        exact .of_covered (fun _ => by simpa using calling) (fun _ => by simpa using calling)
          (.inr (.inl wakeup_counter))
    | noWakeup shape flag => simp [calling] at flag
    | quit shape =>
        exact .of_covered (fun _ => calling) (fun _ => calling)
          (covered.resolve_right (by simp [shape]))

theorem wakeInv_init : WakeInv (init : EventLoop Functor Thread) :=
  .of_covered (by simp [init]) (by simp [init]) (.inl rfl)

/-- Every functor is executed, in the batch, or pending, in queue order. -/
structure QueueInv (loop : EventLoop Functor Thread) : Prop where
  order : loop.executed ++ loop.queue.waiting = loop.emplaced.map Prod.snd
  no_batch : loop.phase ≠ .running → loop.queue.running = []
  no_calls : loop.phase = .swapping → loop.calls = []

theorem QueueInv.emplaceBack (inv : QueueInv loop) (caller : Option Thread) (functor : Functor) :
    QueueInv (loop.emplaceBack caller functor) where
  order := by
    have order := inv.order
    simp only [EventLoop.emplaceBack, BatchQueue.push_waiting, List.map_append, List.map_cons,
      List.map_nil, ← List.append_assoc, order]
  no_batch := inv.no_batch
  no_calls := inv.no_calls

theorem QueueInv.call (inv : QueueInv loop) (not_swapping : loop.phase ≠ .swapping)
    (moved : CallTransition body loop next) : QueueInv next := by
  cases moved with
  | @queueInLoop functor rest shape =>
      have pushed := inv.emplaceBack none functor
      exact ⟨pushed.order, pushed.no_batch, fun phase => absurd phase not_swapping⟩
  | runInLoop shape | noWakeup shape _ | quit shape =>
      exact ⟨inv.order, inv.no_batch, fun phase => absurd phase not_swapping⟩
  | wakeup shape _ =>
      exact ⟨by simpa using inv.order, by simpa using inv.no_batch,
        fun phase => absurd (by simpa using phase) not_swapping⟩

/-! ## Steps of the machine -/

variable [DecidableEq Thread]

inductive Transition (body : Functor → List (LoopCall Functor)) :
    EventLoop Functor Thread → LoopLabel Functor Thread → EventLoop Functor Thread → Prop where
  | enter {loop : EventLoop Functor Thread} : loop.phase = .starting →
      Transition body loop .enter { loop with quit := false, phase := .testing }
  | test {loop : EventLoop Functor Thread} : loop.phase = .testing →
      Transition body loop .test
        { loop with phase := if loop.quit then .stopped else .polling }
  | pollReturns {loop : EventLoop Functor Thread} {wakeup : Bool} : loop.phase = .polling →
      (wakeup = true → 0 < loop.wakeupCounter) →
      Transition body loop (.pollReturns wakeup) { loop with phase := .dispatching wakeup }
  | handleRead {loop : EventLoop Functor Thread} : loop.phase = .dispatching true →
      loop.calls = [] →
      Transition body loop .handleRead { loop.handleRead with phase := .dispatching false }
  | handleEvent {loop : EventLoop Functor Thread} {wakeup : Bool}
      {calls : List (LoopCall Functor)} : loop.phase = .dispatching wakeup → loop.calls = [] →
      Transition body loop (.handleEvent calls) { loop with calls := calls }
  | call {loop next : EventLoop Functor Thread} :
      ((∃ wakeup, loop.phase = .dispatching wakeup) ∨ loop.phase = .running) →
      CallTransition body loop next → Transition body loop .call next
  | doPendingFunctors {loop : EventLoop Functor Thread} : loop.phase = .dispatching false →
      loop.calls = [] →
      Transition body loop .doPendingFunctors
        { loop with callingPendingFunctors := true, phase := .swapping }
  | swap {loop : EventLoop Functor Thread} : loop.phase = .swapping →
      Transition body loop .swap { loop with queue := loop.queue.swap, phase := .running }
  | runFunctor {loop : EventLoop Functor Thread} {functor : Functor}
      {rest : BatchQueue Functor} : loop.phase = .running → loop.calls = [] →
      loop.queue.next? = some (functor, rest) →
      Transition body loop .runFunctor
        { loop with
          queue := rest
          calls := body functor
          executed := loop.executed ++ [functor] }
  | finish {loop : EventLoop Functor Thread} : loop.phase = .running → loop.calls = [] →
      loop.queue.running = [] →
      Transition body loop .finish
        { loop with
          queue := loop.queue.release
          callingPendingFunctors := false
          phase := .testing }
  | emplace {loop : EventLoop Functor Thread} {thread : Thread} {functor : Functor} :
      loop.callers thread = .idle →
      Transition body loop (.emplace thread functor)
        ((loop.emplaceBack (some thread) functor).setCaller thread .queued)
  | quit {loop : EventLoop Functor Thread} {thread : Thread} : loop.callers thread = .idle →
      Transition body loop (.quit thread)
        ({ loop with quit := true }.setCaller thread .quitting)
  | wakeup {loop : EventLoop Functor Thread} {thread : Thread} : loop.callers thread ≠ .idle →
      Transition body loop (.wakeup thread) (loop.wakeup.setCaller thread .idle)

theorem step_transition (taken : (machine body).step loop label = some next) :
    Transition body loop label next := by
  simp only [machine, step] at taken
  split at taken
  case h_1 phase => cases taken; exact .enter phase
  case h_2 phase => cases taken; exact .test phase
  case h_3 phase =>
    split at taken
    · next readable => cases taken; exact .pollReturns phase readable
    · cases taken
  case h_4 phase =>
    split at taken
    · next idle => cases taken; exact .handleRead phase idle
    · cases taken
  case h_5 phase =>
    split at taken
    · next idle => cases taken; exact .handleEvent phase idle
    · cases taken
  case h_6 phase => exact .call (.inl ⟨_, phase⟩) (callStep_transition taken)
  case h_7 phase => exact .call (.inr phase) (callStep_transition taken)
  case h_8 phase =>
    split at taken
    · next idle => cases taken; exact .doPendingFunctors phase idle
    · cases taken
  case h_9 phase => cases taken; exact .swap phase
  case h_10 phase =>
    split at taken
    · next idle found => cases taken; exact .runFunctor phase idle found
    · cases taken
  case h_11 phase =>
    split at taken
    · next idle empty => cases taken; exact .finish phase idle empty
    · cases taken
  case h_12 =>
    split at taken
    · next idle => cases taken; exact .emplace idle
    · cases taken
  case h_13 =>
    split at taken
    · next idle => cases taken; exact .quit idle
    · cases taken
  case h_14 =>
    split at taken
    · cases taken
    · next busy => cases taken; exact .wakeup busy
  case h_15 => cases taken

/-! ## Wake-ups -/

theorem WakeInv.step (inv : WakeInv loop) (taken : Transition body loop label next) :
    WakeInv next := by
  obtain ⟨calling, entering, covered, running⟩ := inv
  cases taken with
  | enter phase =>
      exact .of_covered (by simp) (by simp) (covered (.inl phase))
  | test phase =>
      have before := covered (.inr (.inl phase))
      refine .of_covered ?_ ?_ before <;> dsimp only <;> split <;> simp
  | pollReturns phase readable => constructor <;> simp
  | handleRead phase idle => constructor <;> simp
  | handleEvent phase idle => constructor <;> simp [phase]
  | call phase moved => exact WakeInv.call ⟨calling, entering, covered, running⟩ phase moved
  | doPendingFunctors phase idle => constructor <;> simp
  | swap phase => exact .of_covered (fun _ => entering phase) (by simp) (.inl rfl)
  | runFunctor phase idle found =>
      have before := (running phase).resolve_right (by simp [idle])
      obtain ⟨_, pending, _⟩ := BatchQueue.next?_some found
      refine .of_covered (fun _ => calling phase) (by simp [phase]) ?_
      simpa [Covered, pending] using before
  | finish phase idle empty =>
      have before := (running phase).resolve_right (by simp [idle])
      exact .of_covered (by simp) (by simp) before
  | @emplace thread functor idle =>
      exact .of_covered calling entering (.inr (.inr ⟨thread, by simp [setCaller]⟩))
  | @quit thread idle =>
      have kept :
          loop.Covered → ({ loop with quit := true }.setCaller thread .quitting).Covered := by
        rintro (none | readable | ⟨other, queued⟩)
        · exact .inl none
        · exact .inr (.inl readable)
        · have different : other ≠ thread := fun same => by simp [same, idle] at queued
          exact .inr (.inr ⟨other, by simp [setCaller, different, queued]⟩)
      exact ⟨calling, entering, fun phase => kept (covered phase),
        fun phase => (running phase).imp kept id⟩
  | @wakeup thread busy =>
      exact .of_covered (by simpa [setCaller] using calling) (by simpa [setCaller] using entering)
        (.inr (.inl (by simpa [setCaller] using wakeup_counter)))

/-- No lost wake-up: whenever the loop thread is entering `poll` or blocked in
it and functors are pending, the wake-up descriptor is readable or another
thread is between its `emplace_back` and its `wakeup`. -/
theorem no_lost_wakeup (body : Functor → List (LoopCall Functor))
    (labels : List (LoopLabel Functor Thread)) (loop : EventLoop Functor Thread)
    (run : (machine body).Runs Machine.anyStep init labels loop)
    (polling : loop.phase = .polling) (work : loop.queue.pending ≠ []) :
    0 < loop.wakeupCounter ∨ ∃ thread, loop.callers thread = .queued := by
  have inv : WakeInv loop :=
    run.invariant WakeInv (fun _ _ _ _ taken inv => inv.step (step_transition taken)) wakeInv_init
  exact (inv.covered (.inr (.inr polling))).resolve_left work

theorem no_lost_wakeup_queued : ∃ loop : EventLoop Nat Nat,
    (machine fun _ => []).Runs Machine.anyStep init [.enter, .test, .emplace 0 7] loop ∧
      (0 < loop.wakeupCounter ∨ ∃ thread, loop.callers thread = .queued) := by
  have run : (machine fun _ => []).Runs Machine.anyStep (init : EventLoop Nat Nat)
      [.enter, .test, .emplace 0 7] _ :=
    .cons trivial rfl (.cons trivial rfl (.cons trivial rfl .nil))
  exact ⟨_, run, no_lost_wakeup _ _ _ run rfl (by decide)⟩

/-! ## Order of the functors -/

theorem QueueInv.step (inv : QueueInv loop) (taken : Transition body loop label next) :
    QueueInv next := by
  cases taken with
  | enter phase => exact ⟨inv.order, fun _ => inv.no_batch (by simp [phase]), by simp⟩
  | test phase =>
      refine ⟨inv.order, fun _ => inv.no_batch (by simp [phase]), ?_⟩
      dsimp only
      split <;> simp
  | pollReturns phase readable =>
      exact ⟨inv.order, fun _ => inv.no_batch (by simp [phase]), by simp⟩
  | handleRead phase idle => exact ⟨inv.order, fun _ => inv.no_batch (by simp [phase]), by simp⟩
  | handleEvent phase idle =>
      exact ⟨inv.order, fun _ => inv.no_batch (by simp [phase]), by simp [phase]⟩
  | call phase moved =>
      have not_swapping : loop.phase ≠ .swapping := by
        rcases phase with ⟨wakeup, phase⟩ | phase <;> simp [phase]
      exact inv.call not_swapping moved
  | doPendingFunctors phase idle =>
      exact ⟨inv.order, fun _ => inv.no_batch (by simp [phase]), fun _ => idle⟩
  | swap phase =>
      have empty := inv.no_batch (by simp [phase])
      refine ⟨?_, by simp, by simp⟩
      rw [← inv.order, BatchQueue.swap_waiting empty]
  | runFunctor phase idle found =>
      refine ⟨?_, fun other => absurd phase other, by simp [phase]⟩
      rw [← inv.order, BatchQueue.next?_waiting found]
      simp
  | finish phase idle empty => exact ⟨inv.order, fun _ => empty, by simp⟩
  | @emplace thread functor idle =>
      have pushed := inv.emplaceBack (some thread) functor
      exact ⟨pushed.order, pushed.no_batch, pushed.no_calls⟩
  | quit idle => exact ⟨inv.order, inv.no_batch, inv.no_calls⟩
  | wakeup busy =>
      exact ⟨by simpa [setCaller] using inv.order, by simpa [setCaller] using inv.no_batch,
        by simpa [setCaller] using inv.no_calls⟩

theorem queueInv_run (run : (machine body).Runs Machine.anyStep init labels loop) :
    QueueInv loop :=
  run.invariant QueueInv (fun _ _ _ _ taken inv => inv.step (step_transition taken))
    ⟨rfl, fun _ => rfl, fun _ => rfl⟩

/-! ## One call of `doPendingFunctors` -/

def NotFinished (_ : EventLoop Functor Thread) (label : LoopLabel Functor Thread) : Prop :=
  label ≠ .finish

/-- The loop thread is in a call of `doPendingFunctors` that swapped out
`taken` when `before` had been executed. -/
structure InBatch (before taken : List Functor) (loop : EventLoop Functor Thread) : Prop where
  phase : loop.phase = .running
  batch : loop.queue.batch = taken
  executed : loop.executed = before ++ loop.queue.finished

theorem InBatch.step {before taken : List Functor} (inv : InBatch before taken loop)
    (open_call : NotFinished loop label) (moved : Transition body loop label next) :
    InBatch before taken next := by
  obtain ⟨running, batch, executed⟩ := inv
  cases moved with
  | enter phase | test phase | pollReturns phase _ | handleRead phase _ | handleEvent phase _
  | doPendingFunctors phase _ | swap phase => simp [running] at phase
  | finish _ _ _ => exact absurd rfl open_call
  | call phase moved =>
      cases moved with
      | queueInLoop shape | runInLoop shape | noWakeup shape _ | quit shape =>
          exact ⟨running, batch, executed⟩
      | wakeup shape _ =>
          exact ⟨by simpa using running, by simpa using batch, by simpa using executed⟩
  | runFunctor phase idle found =>
      obtain ⟨_, _, finished⟩ := BatchQueue.next?_some found
      exact ⟨running, (BatchQueue.next?_batch found).trans batch, by simp [executed, finished]⟩
  | emplace idle | quit idle => exact ⟨running, batch, executed⟩
  | wakeup busy =>
      exact ⟨by simpa [setCaller] using running, by simpa [setCaller] using batch,
        by simpa [setCaller] using executed⟩

/-- The number of steps that a call takes when each functor takes at most
`cost`. Queueing a functor costs the same whatever the functor is. -/
def LoopCall.cost (cost : Functor → Nat) : LoopCall Functor → Nat
  | .queueInLoop _ => 2
  | .runInLoop functor => cost functor
  | .wakeupIfCalling | .quit => 1

/-- Every functor returns: `cost` bounds the steps of its calls, those of the
functors that it runs at once included. -/
def FunctorsReturn (body : Functor → List (LoopCall Functor)) (cost : Functor → Nat) : Prop :=
  ∀ functor, ((body functor).map (LoopCall.cost cost)).sum < cost functor

def work (cost : Functor → Nat) (loop : EventLoop Functor Thread) : Nat :=
  (loop.calls.map (LoopCall.cost cost)).sum + (loop.queue.running.map cost).sum

/-- In a batch every step of the loop thread uses up some work, and other
threads add none. -/
theorem work_step {cost : Functor → Nat} (returns : FunctorsReturn body cost)
    (running : loop.phase = .running) (open_call : NotFinished loop label)
    (moved : Transition body loop label next) :
    work cost next + (if label.onLoopThread then 1 else 0) ≤ work cost loop := by
  cases moved with
  | enter phase | test phase | pollReturns phase _ | handleRead phase _ | handleEvent phase _
  | doPendingFunctors phase _ | swap phase => simp [running] at phase
  | finish _ _ _ => exact absurd rfl open_call
  | call phase moved =>
      cases moved with
      | queueInLoop shape =>
          simp only [work, emplaceBack, BatchQueue.push_running, shape, LoopCall.cost,
            LoopLabel.onLoopThread, List.map_cons, List.sum_cons, if_true]
          omega
      | @runInLoop functor rest shape =>
          have bound := returns functor
          simp only [work, shape, LoopCall.cost, LoopLabel.onLoopThread, List.map_append,
            List.sum_append, List.map_cons, List.sum_cons, if_true]
          omega
      | wakeup shape _ | noWakeup shape _ | quit shape =>
          simp only [work, wakeup_queue, shape, LoopCall.cost, LoopLabel.onLoopThread,
            List.map_cons, List.sum_cons, if_true]
          omega
  | @runFunctor functor rest phase idle found =>
      have bound := returns functor
      obtain ⟨shape, _, _⟩ := BatchQueue.next?_some found
      simp only [work, idle, shape, LoopLabel.onLoopThread, List.map_nil, List.sum_nil,
        List.map_cons, List.sum_cons, if_true]
      omega
  | emplace idle | quit idle | wakeup busy =>
      simp [work, LoopLabel.onLoopThread, EventLoop.emplaceBack, setCaller]

theorem batch_run {before taken : List Functor}
    (run : (machine body).Runs NotFinished start labels final)
    (inv : InBatch before taken start) :
    InBatch before taken final ∧ ∀ cost, FunctorsReturn body cost →
      work cost final + labels.countP LoopLabel.onLoopThread ≤ work cost start := by
  induction run with
  | nil => exact ⟨inv, fun cost _ => by simp⟩
  | @cons state middle final label rest open_call taken _ ih =>
      have moved := step_transition taken
      obtain ⟨inv_final, bound⟩ := ih (inv.step open_call moved)
      refine ⟨inv_final, fun cost returns => ?_⟩
      have first := work_step returns inv.phase open_call moved
      have later := bound cost returns
      rw [List.countP_cons]
      omega

theorem batch_progress (running : loop.phase = .running) :
    ∃ label : LoopLabel Functor Thread, label.onLoopThread = true ∧
      ((machine body).step loop label).isSome = true := by
  cases calls : loop.calls with
  | cons call rest =>
      refine ⟨.call, rfl, ?_⟩
      cases call <;> simp [machine, step, running, callStep, calls]
  | nil =>
      cases batch : loop.queue.running with
      | nil => exact ⟨.finish, rfl, by simp [machine, step, running, calls, batch]⟩
      | cons functor rest =>
          exact ⟨.runFunctor, rfl,
            by simp [machine, step, running, calls, BatchQueue.next?, batch]⟩

def executedOf (loop : EventLoop Functor Thread) (caller : Option Thread) : List Functor :=
  ((loop.emplaced.take loop.executed.length).filter (·.1 = caller)).map Prod.snd

def emplacedBy (loop : EventLoop Functor Thread) (caller : Option Thread) : List Functor :=
  (loop.emplaced.filter (·.1 = caller)).map Prod.snd

/-- The functor queue is an exactly-once first-in first-out queue at every
point of every interleaving; each caller's functors run in its call order; and
a call of `doPendingFunctors` executes exactly what it swapped out, in a number
of steps that the batch alone bounds, whatever is queued meanwhile. -/
theorem functor_queue_exactly_once (body : Functor → List (LoopCall Functor))
    (labels : List (LoopLabel Functor Thread)) (loop : EventLoop Functor Thread)
    (run : (machine body).Runs Machine.anyStep init labels loop) :
    loop.executed ++ loop.queue.running ++ loop.queue.pending = loop.emplaced.map Prod.snd ∧
      loop.executed = (loop.emplaced.take loop.executed.length).map Prod.snd ∧
      (∀ caller, loop.executedOf caller <+: loop.emplacedBy caller) ∧
      ∀ entered, (machine body).step loop .swap = some entered →
        ∀ segment last, (machine body).Runs NotFinished entered segment last →
          last.executed = loop.executed ++ last.queue.finished ∧
          last.queue.finished ++ last.queue.running = loop.queue.pending ∧
          (∀ returned, (machine body).step last .finish = some returned →
            returned.executed = loop.executed ++ loop.queue.pending) ∧
          (∃ label : LoopLabel Functor Thread, label.onLoopThread = true ∧
            ((machine body).step last label).isSome = true) ∧
          ∀ cost, FunctorsReturn body cost →
            segment.countP LoopLabel.onLoopThread ≤ (loop.queue.pending.map cost).sum := by
  have inv := queueInv_run run
  have order : loop.executed ++ (loop.queue.running ++ loop.queue.pending) =
      loop.emplaced.map Prod.snd := inv.order
  refine ⟨by rw [List.append_assoc]; exact order, ?_, ?_, ?_⟩
  · rw [List.map_take, ← order, List.take_left]
  · intro caller
    exact (((List.take_prefix _ _).filter _).map _)
  · intro entered swapped segment last batch
    cases step_transition swapped with
    | swap phase =>
        have start : InBatch loop.executed loop.queue.pending
            { loop with queue := loop.queue.swap, phase := .running } :=
          ⟨rfl, by simp [BatchQueue.swap, BatchQueue.batch], by simp [BatchQueue.swap]⟩
        obtain ⟨inside, bound⟩ := batch_run batch start
        refine ⟨inside.executed, inside.batch, ?_, batch_progress inside.phase, ?_⟩
        · intro returned finished
          cases step_transition finished with
          | finish _ _ empty =>
              have whole := inside.batch
              rw [BatchQueue.batch, empty, List.append_nil] at whole
              rw [← whole]
              exact inside.executed
        · intro cost returns
          have limit := bound cost returns
          simp only [work, inv.no_calls phase, BatchQueue.swap, List.map_nil, List.sum_nil,
            Nat.zero_add] at limit
          omega

theorem functor_queue_self_queueing : ∃ loop : EventLoop Nat Nat,
    (machine fun functor => [.queueInLoop (functor + 1)]).Runs Machine.anyStep init
      [.enter, .test, .emplace 0 7, .wakeup 0, .pollReturns true, .handleRead,
        .doPendingFunctors, .swap, .runFunctor, .call] loop ∧
      loop.executed ++ loop.queue.running ++ loop.queue.pending =
        loop.emplaced.map Prod.snd := by
  have run : (machine fun functor => [.queueInLoop (functor + 1)]).Runs Machine.anyStep
      (init : EventLoop Nat Nat)
      [.enter, .test, .emplace 0 7, .wakeup 0, .pollReturns true, .handleRead,
        .doPendingFunctors, .swap, .runFunctor, .call] _ :=
    .cons trivial rfl (.cons trivial rfl (.cons trivial rfl (.cons trivial rfl (.cons trivial rfl
      (.cons trivial rfl (.cons trivial rfl (.cons trivial rfl (.cons trivial rfl
        (.cons trivial rfl .nil)))))))))
  exact ⟨_, run, (functor_queue_exactly_once _ _ _ run).1⟩

end EventLoop

end TalkSystem.Net
