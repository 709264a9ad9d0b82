import Mathlib.Data.List.Basic

/-!
# A first-in first-out queue that is emptied in batches

Producers append to `pending`. The consumer takes everything pending at once
and works through that batch; the items of the batch are released together
when it has been worked through.
-/

set_option autoImplicit false

namespace TalkSystem

structure BatchQueue (Item : Type) where
  pending : List Item
  running : List Item
  finished : List Item
  deriving DecidableEq, Repr

namespace BatchQueue

variable {Item : Type}

def empty : BatchQueue Item := ⟨[], [], []⟩

def push (queue : BatchQueue Item) (item : Item) : BatchQueue Item :=
  { queue with pending := queue.pending ++ [item] }

/-- Take the pending items as the next batch. -/
def swap (queue : BatchQueue Item) : BatchQueue Item := ⟨[], queue.pending, []⟩

def next? (queue : BatchQueue Item) : Option (Item × BatchQueue Item) :=
  match queue.running with
  | [] => none
  | item :: rest =>
      some (item, { queue with running := rest, finished := queue.finished ++ [item] })

def release (queue : BatchQueue Item) : BatchQueue Item := { queue with finished := [] }

/-- The items still to be taken, in the order in which they will be. -/
def waiting (queue : BatchQueue Item) : List Item := queue.running ++ queue.pending

/-- Every item that the queue still holds. -/
def held (queue : BatchQueue Item) : List Item := queue.finished ++ queue.waiting

def batch (queue : BatchQueue Item) : List Item := queue.finished ++ queue.running

@[simp] theorem push_waiting (queue : BatchQueue Item) (item : Item) :
    (queue.push item).waiting = queue.waiting ++ [item] := by
  simp [push, waiting]

@[simp] theorem push_batch (queue : BatchQueue Item) (item : Item) :
    (queue.push item).batch = queue.batch := rfl

@[simp] theorem push_finished (queue : BatchQueue Item) (item : Item) :
    (queue.push item).finished = queue.finished := rfl

@[simp] theorem push_running (queue : BatchQueue Item) (item : Item) :
    (queue.push item).running = queue.running := rfl

@[simp] theorem push_pending (queue : BatchQueue Item) (item : Item) :
    (queue.push item).pending = queue.pending ++ [item] := rfl

/-- A batch that has been worked through is replaced without losing an item. -/
theorem swap_waiting {queue : BatchQueue Item} (idle : queue.running = []) :
    queue.swap.waiting = queue.waiting := by
  simp [swap, waiting, idle]

theorem next?_some {queue after : BatchQueue Item} {item : Item}
    (taken : queue.next? = some (item, after)) :
    queue.running = item :: after.running ∧ after.pending = queue.pending ∧
      after.finished = queue.finished ++ [item] := by
  unfold next? at taken
  split at taken
  · cases taken
  · next head rest shape =>
      cases taken
      exact ⟨shape, rfl, rfl⟩

theorem next?_waiting {queue after : BatchQueue Item} {item : Item}
    (taken : queue.next? = some (item, after)) : queue.waiting = item :: after.waiting := by
  obtain ⟨running, pending, _⟩ := next?_some taken
  simp [waiting, running, pending]

theorem next?_batch {queue after : BatchQueue Item} {item : Item}
    (taken : queue.next? = some (item, after)) : after.batch = queue.batch := by
  obtain ⟨running, _, finished⟩ := next?_some taken
  simp [batch, running, finished]

theorem next?_eq_none {queue : BatchQueue Item} : queue.next? = none ↔ queue.running = [] := by
  unfold next?
  split <;> simp_all

end BatchQueue

end TalkSystem
