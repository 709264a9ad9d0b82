import Mathlib.Data.List.Basic

/-!
# The life of a connection

What a server does to one connection, as a finite automaton that knows nothing
about loops, queues or pollers. A history is orderly when the automaton accepts
it; what users rely on is read off accepted histories once.
-/

set_option autoImplicit false

namespace TalkSystem.Net

inductive LifeEvent where
  | connectEstablished
  | handleRead
  | handleWrite
  | handleError
  | handleClose
  | removeConnectionInLoop
  | connectDestroyed
  deriving DecidableEq, Repr

inductive LifeStage where
  | connecting
  | up
  | closing
  | removed
  | destroyed
  deriving DecidableEq, Repr

namespace LifeStage

/-- A closed connection reads no more, but handlers for output and errors may
still be due from the dispatch that closed it. -/
def next : LifeStage → LifeEvent → Option LifeStage
  | .connecting, .connectEstablished => some .up
  | .up, .handleRead | .up, .handleWrite | .up, .handleError => some .up
  | .up, .handleClose => some .closing
  | .closing, .handleWrite | .closing, .handleError => some .closing
  | .closing, .removeConnectionInLoop => some .removed
  | .removed, .handleWrite | .removed, .handleError => some .removed
  | .removed, .connectDestroyed => some .destroyed
  | _, _ => none

def run (stage : LifeStage) : List LifeEvent → Option LifeStage
  | [] => some stage
  | event :: rest => (stage.next event).bind fun following => following.run rest

def rank : LifeStage → Nat
  | .connecting => 0
  | .up => 1
  | .closing => 2
  | .removed => 3
  | .destroyed => 4

end LifeStage

/-- The stage in which an event happens for the last time, for the four events
that move a connection on. -/
def LifeEvent.milestone : LifeEvent → Option Nat
  | .connectEstablished => some 0
  | .handleClose => some 1
  | .removeConnectionInLoop => some 2
  | .connectDestroyed => some 3
  | _ => none

namespace LifeStage

variable {stage following final : LifeStage} {event : LifeEvent} {events more : List LifeEvent}

theorem run_append : stage.run (events ++ more) = (stage.run events).bind fun middle =>
    middle.run more := by
  induction events generalizing stage with
  | nil => rfl
  | cons event rest ih =>
      cases moved : stage.next event with
      | none => simp [run, moved]
      | some following => simp [run, moved, ih]

theorem run_concat (before : stage.run events = some following)
    (moves : following.next event = some final) : stage.run (events ++ [event]) = some final := by
  rw [run_append, before]
  simp [run, moves]

theorem run_split (accepted : stage.run (events ++ event :: more) = some final) :
    ∃ middle following, stage.run events = some middle ∧ middle.next event = some following ∧
      following.run more = some final := by
  rw [run_append] at accepted
  obtain ⟨middle, early, late⟩ := Option.bind_eq_some_iff.mp accepted
  obtain ⟨following, moves, rest⟩ := Option.bind_eq_some_iff.mp late
  exact ⟨middle, following, early, moves, rest⟩

/-- A milestone moves a life on by exactly one stage, other events do not. -/
theorem next_rank (moves : stage.next event = some following) :
    match event.milestone with
    | some rank => stage.rank = rank ∧ following.rank = rank + 1
    | none => following.rank = stage.rank := by
  cases stage <;> cases event <;> cases moves <;> simp [LifeEvent.milestone, rank]

theorem run_rank_le (accepted : stage.run events = some final) : stage.rank ≤ final.rank := by
  induction events generalizing stage with
  | nil => cases accepted; exact Nat.le_refl _
  | cons event rest ih =>
      obtain ⟨following, moves, later⟩ := Option.bind_eq_some_iff.mp accepted
      have moved := next_rank moves
      have onward := ih later
      split at moved <;> omega

theorem not_mem_of_rank_lt {rank : Nat} (milestone : event.milestone = some rank)
    (past : rank < stage.rank) (accepted : stage.run events = some final) : event ∉ events := by
  intro member
  obtain ⟨before, after, rfl⟩ := List.append_of_mem member
  obtain ⟨middle, following, early, moves, _⟩ := run_split accepted
  have moved := next_rank moves
  simp only [milestone] at moved
  have onward := run_rank_le early
  omega

theorem count_milestone_le {rank : Nat} (milestone : event.milestone = some rank)
    (accepted : stage.run events = some final) : events.count event ≤ 1 := by
  by_cases member : event ∈ events
  · obtain ⟨before, after, rfl⟩ := List.append_of_mem member
    obtain ⟨middle, following, early, moves, rest⟩ := run_split accepted
    have moved := next_rank moves
    simp only [milestone] at moved
    have none_after := not_mem_of_rank_lt milestone (by omega) rest
    -- In front of its only occurrence the event cannot have happened either.
    have none_before : event ∉ before := by
      intro earlier
      obtain ⟨first, second, rfl⟩ := List.append_of_mem earlier
      obtain ⟨start, onward, _, moves_first, reaches⟩ := run_split early
      have moved_first := next_rank moves_first
      simp only [milestone] at moved_first
      have up := run_rank_le reaches
      omega
    have before_count := List.count_eq_zero_of_not_mem none_before
    have after_count := List.count_eq_zero_of_not_mem none_after
    rw [List.count_append, List.count_cons_self]
    omega
  · rw [List.count_eq_zero_of_not_mem member]
    exact Nat.zero_le _

theorem mem_of_rank_lt {rank : Nat} (milestone : event.milestone = some rank)
    (early : stage.rank ≤ rank) (accepted : stage.run events = some final)
    (past : rank < final.rank) : event ∈ events := by
  induction events generalizing stage with
  | nil => cases accepted; omega
  | cons head rest ih =>
      obtain ⟨following, moves, later⟩ := Option.bind_eq_some_iff.mp accepted
      by_cases same : head = event
      · exact same ▸ List.mem_cons_self
      · refine List.mem_cons_of_mem _ (ih ?_ later)
        have moved := next_rank moves
        split at moved
        · next reached found =>
            by_cases equal : reached = rank
            · -- Two milestones with one rank are the same event.
              subst equal
              revert same found milestone
              cases head <;> cases event <;> simp [LifeEvent.milestone] <;> omega
            · omega
        · omega

theorem mem_iff_rank_lt {rank : Nat} (milestone : event.milestone = some rank)
    (early : stage.rank ≤ rank) (accepted : stage.run events = some final) :
    event ∈ events ↔ rank < final.rank := by
  refine ⟨fun member => ?_, mem_of_rank_lt milestone early accepted⟩
  obtain ⟨before, after, rfl⟩ := List.append_of_mem member
  obtain ⟨middle, following, _, moves, rest⟩ := run_split accepted
  have moved := next_rank moves
  simp only [milestone] at moved
  have onward := run_rank_le rest
  omega

end LifeStage

/-- What a user of the server may rely on for one connection. -/
structure OrderlyLife (events : List LifeEvent) : Prop where
  once : ∀ event, event.milestone ≠ none → events.count event ≤ 1
  established_first : ∀ before event after, events = before ++ event :: after →
    event ≠ .connectEstablished → .connectEstablished ∈ before
  closed_before_removed : ∀ before after, events = before ++ .removeConnectionInLoop :: after →
    .handleClose ∈ before
  removed_before_destroyed : ∀ before after, events = before ++ .connectDestroyed :: after →
    .removeConnectionInLoop ∈ before

theorem orderlyLife_of_run {events : List LifeEvent} {final : LifeStage}
    (accepted : LifeStage.connecting.run events = some final) : OrderlyLife events where
  once event moves_on := by
    obtain ⟨rank, milestone⟩ := Option.ne_none_iff_exists'.mp moves_on
    exact LifeStage.count_milestone_le milestone accepted
  established_first before event after shape not_first := by
    subst shape
    obtain ⟨middle, following, early, moves, _⟩ := LifeStage.run_split accepted
    refine LifeStage.mem_of_rank_lt rfl (Nat.le_refl _) early ?_
    cases middle <;> cases event <;> simp_all [LifeStage.next, LifeStage.rank]
  closed_before_removed before after shape := by
    subst shape
    obtain ⟨middle, following, early, moves, _⟩ := LifeStage.run_split accepted
    obtain ⟨here, _⟩ := LifeStage.next_rank moves
    exact LifeStage.mem_of_rank_lt rfl (Nat.zero_le _) early (by omega)
  removed_before_destroyed before after shape := by
    subst shape
    obtain ⟨middle, following, early, moves, _⟩ := LifeStage.run_split accepted
    obtain ⟨here, _⟩ := LifeStage.next_rank moves
    exact LifeStage.mem_of_rank_lt rfl (Nat.zero_le _) early (by omega)

end TalkSystem.Net
