import TalkSystem.Net.EventLoopProperties

/-!
# Functors that were queued before a quit request

The loop tests `quit_` between two calls of `doPendingFunctors`. A request that
is made before the swap of an iteration lets that swap happen, so everything
pending is executed before the next test; a request that is made after the swap
stops the loop with the pending functors in its queue.
-/

set_option autoImplicit false

namespace TalkSystem.Net

namespace LoopPhase

/-- Between the test of `quit_` and the swap. -/
def beforeSwap : LoopPhase → Bool
  | .polling | .dispatching _ | .swapping => true
  | .starting | .testing | .running | .stopped => false

end LoopPhase

namespace EventLoop

variable {Functor Thread : Type} {body : Functor → List (LoopCall Functor)}
  {loop next final : EventLoop Functor Thread} {label : LoopLabel Functor Thread}
  {labels : List (LoopLabel Functor Thread)} {thread : Thread} {count : Nat}

/-- How many functors have left `pendingFunctors_`. -/
def taken (loop : EventLoop Functor Thread) : Nat :=
  loop.executed.length + loop.queue.running.length

/-- One of the first `count` functors was queued by this thread and is still in
`pendingFunctors_`. -/
def Owes (loop : EventLoop Functor Thread) (thread : Thread) (count : Nat) : Prop :=
  ∃ entry ∈ (loop.emplaced.take count).drop loop.taken, entry.1 = some thread

/-- The loop owes this thread none of the first `count` functors, or it cannot
test `quit_` again before it has swapped them out. -/
def Flushing (loop : EventLoop Functor Thread) (thread : Thread) (count : Nat) : Prop :=
  loop.phase.beforeSwap = true ∨ ¬ loop.Owes thread count

theorem CallTransition.emplaced (moved : CallTransition body loop next) :
    ∃ added, next.emplaced = loop.emplaced ++ added ∧ ∀ entry ∈ added, entry.1 = none := by
  cases moved with
  | @queueInLoop functor rest shape => exact ⟨[(none, functor)], rfl, by simp⟩
  | runInLoop | noWakeup | quit => exact ⟨[], by simp, by simp⟩
  | wakeup => exact ⟨[], by simp, by simp⟩

theorem CallTransition.taken (moved : CallTransition body loop next) :
    next.taken = loop.taken := by
  cases moved <;> simp [EventLoop.taken, emplaceBack]

/-- What is not owed stays so while functors only leave the front of the queue
and join its end. -/
theorem not_owes_of_le {added : List (Option Thread × Functor)} (settled : ¬ loop.Owes thread count)
    (within : count ≤ loop.emplaced.length) (grown : next.emplaced = loop.emplaced ++ added)
    (advanced : loop.taken ≤ next.taken) : ¬ next.Owes thread count := by
  rintro ⟨entry, member, caller⟩
  rw [grown, List.take_append_of_le_length within] at member
  exact settled ⟨entry, (List.drop_sublist_drop_left _ advanced).subset member, caller⟩

theorem not_owes_of_taken (whole : loop.emplaced.length ≤ loop.taken) :
    ¬ loop.Owes thread count := by
  rintro ⟨entry, member, -⟩
  have short : (loop.emplaced.take count).length ≤ loop.taken :=
    Nat.le_trans (List.length_take_le' count loop.emplaced) whole
  simp [List.drop_eq_nil_of_le short] at member

variable [DecidableEq Thread]

/-- A step appends to the history of queued functors, and only the critical
section of a thread appends under that thread. -/
theorem Transition.emplaced (moved : Transition body loop label next) :
    ∃ added, next.emplaced = loop.emplaced ++ added ∧
      ∀ entry ∈ added, ∀ thread, entry.1 = some thread → label = .emplace thread entry.2 := by
  cases moved with
  | call _ moved =>
      obtain ⟨added, grown, own⟩ := moved.emplaced
      exact ⟨added, grown, fun entry member thread caller => by simp [own entry member] at caller⟩
  | @emplace thread functor idle => exact ⟨[(some thread, functor)], rfl, by simp⟩
  | enter | test | pollReturns | handleRead | handleEvent | doPendingFunctors | swap | runFunctor
  | finish | quit => exact ⟨[], (List.append_nil _).symm, by simp⟩
  | wakeup => exact ⟨[], by simp [setCaller], by simp⟩

theorem Transition.taken_le (inv : QueueInv loop) (moved : Transition body loop label next) :
    loop.taken ≤ next.taken := by
  cases moved with
  | call _ moved => exact Nat.le_of_eq moved.taken.symm
  | swap phase => simp [taken, inv.no_batch (by simp [phase])]
  | runFunctor _ _ found =>
      obtain ⟨shape, _, _⟩ := BatchQueue.next?_some found
      simp only [taken, shape, List.length_append, List.length_cons, List.length_nil]
      omega
  | wakeup => simp [taken, setCaller]
  | enter | test | pollReturns | handleRead | handleEvent | doPendingFunctors | finish | emplace
  | quit => exact Nat.le_refl _

/-- The swap is the only way from before it to behind it, and it takes all. -/
theorem Transition.beforeSwap (inv : QueueInv loop) (moved : Transition body loop label next)
    (before : loop.phase.beforeSwap = true) :
    next.phase.beforeSwap = true ∨ next.emplaced.length ≤ next.taken := by
  cases moved with
  | enter phase | test phase | runFunctor phase | finish phase =>
      simp [phase, LoopPhase.beforeSwap] at before
  | swap phase =>
      have empty := inv.no_batch (by simp [phase])
      have order := congrArg List.length inv.order
      simp only [BatchQueue.waiting, empty, List.nil_append, List.length_append,
        List.length_map] at order
      exact .inr (by simp only [taken, BatchQueue.swap]; omega)
  | call _ moved =>
      left
      cases moved <;> simpa [emplaceBack] using before
  | pollReturns | handleRead | doPendingFunctors => exact .inl rfl
  | handleEvent | emplace | quit => exact .inl before
  | wakeup => exact .inl (by simpa [setCaller] using before)

theorem Flushing.step (flushing : loop.Flushing thread count) (inv : QueueInv loop)
    (within : count ≤ loop.emplaced.length) (moved : Transition body loop label next) :
    next.Flushing thread count := by
  rcases flushing with before | settled
  · exact (moved.beforeSwap inv before).imp_right not_owes_of_taken
  · obtain ⟨added, grown, _⟩ := moved.emplaced
    exact .inr (not_owes_of_le settled within grown (moved.taken_le inv))

/-- A thread that queues nothing more is flushed of all that it has queued. -/
theorem Flushing.step_all (flushing : loop.Flushing thread loop.emplaced.length)
    (inv : QueueInv loop) (moved : Transition body loop label next)
    (quiet : ∀ functor, label ≠ .emplace thread functor) :
    next.Flushing thread next.emplaced.length := by
  obtain before | settled := flushing.step inv (Nat.le_refl _) moved
  · exact .inl before
  · refine .inr ?_
    rintro ⟨entry, member, caller⟩
    obtain ⟨added, grown, callers⟩ := moved.emplaced
    rw [List.take_length, grown, List.drop_append] at member
    rcases List.mem_append.mp member with old | new
    · exact settled ⟨entry, by rwa [grown, List.take_left], caller⟩
    · exact quiet _ (callers entry (List.mem_of_mem_drop new) thread caller)

/-- A functor that is not owed at the return of `loop()` has been executed. -/
theorem Flushing.executed (flushing : loop.Flushing thread count) (inv : QueueInv loop)
    (returned : loop.phase = .stopped) :
    ((loop.emplaced.take count).filter (·.1 = some thread)).map Prod.snd <+:
      loop.executedOf (some thread) := by
  have settled := flushing.resolve_left (by simp [returned, LoopPhase.beforeSwap])
  have done : loop.taken = loop.executed.length := by
    simp [taken, inv.no_batch (by simp [returned])]
  have rest : ((loop.emplaced.take count).drop loop.executed.length).filter
      (·.1 = some thread) = [] := by
    rw [List.filter_eq_nil_iff]
    intro entry member caller
    exact settled ⟨entry, done ▸ member, by simpa using caller⟩
  have front : ((loop.emplaced.take count).take loop.executed.length) <+:
      loop.emplaced.take loop.executed.length := by
    rw [List.take_take, Nat.min_comm, ← List.take_take]
    exact List.take_prefix _ _
  rw [← List.take_append_drop loop.executed.length (loop.emplaced.take count),
    List.filter_append, rest, List.append_nil]
  exact (front.filter _).map _

theorem executed_before_return {before after : List (LoopLabel Functor Thread)}
    {asked : EventLoop Functor Thread}
    (run : (machine body).Runs Machine.anyStep init before loop)
    (asks : (machine body).step loop (.quit thread) = some asked)
    (flushing : loop.Flushing thread loop.emplaced.length)
    (continued : (machine body).Runs Machine.anyStep asked after final)
    (returned : final.phase = .stopped) :
    loop.emplacedBy (some thread) <+: final.executedOf (some thread) := by
  have inv := queueInv_run run
  have moved := step_transition asks
  have unchanged : asked.emplaced = loop.emplaced := by cases moved; rfl
  obtain ⟨queue, ⟨added, grown⟩, flushed⟩ := continued.invariant
    (fun state => QueueInv state ∧ loop.emplaced <+: state.emplaced ∧
      state.Flushing thread loop.emplaced.length)
    (fun state label next _ taken holds => by
      obtain ⟨queue, ⟨added, grown⟩, flushing⟩ := holds
      have moved := step_transition taken
      obtain ⟨more, extended, _⟩ := moved.emplaced
      refine ⟨queue.step moved, ⟨added ++ more, ?_⟩, flushing.step queue ?_ moved⟩
      · rw [extended, ← grown, List.append_assoc]
      · rw [← grown, List.length_append]
        exact Nat.le_add_right _ _)
    ⟨inv.step moved, ⟨[], by rw [unchanged, List.append_nil]⟩,
      flushing.step inv (Nat.le_refl _) moved⟩
  have executed := flushed.executed queue returned
  rwa [← grown, List.take_left] at executed

end EventLoop

end TalkSystem.Net
