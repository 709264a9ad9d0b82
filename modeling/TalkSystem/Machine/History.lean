import Mathlib.Data.List.Basic

/-!
# Histories

A history lists events in the order in which they happen. A condition on an
event may depend on what happened before it.
-/

set_option autoImplicit false

namespace TalkSystem

variable {Event : Type} {allowed : List Event → Event → Prop} {history : List Event}
  {event : Event}

/-- Every event of the history was allowed after the events before it. -/
def Historic (allowed : List Event → Event → Prop) (history : List Event) : Prop :=
  ∀ before event after, history = before ++ event :: after → allowed before event

theorem Historic.nil : Historic allowed [] := by
  intro before event after split
  simp at split

theorem historic_append_singleton :
    Historic allowed (history ++ [event]) ↔ Historic allowed history ∧ allowed history event := by
  constructor
  · intro holds
    refine ⟨fun before earlier after split => ?_, holds history event [] rfl⟩
    exact holds before earlier (after ++ [event]) (by simp [split])
  · intro ⟨holds, last⟩ before earlier after split
    rcases List.eq_nil_or_concat after with rfl | ⟨rest, final, rfl⟩
    · obtain ⟨rfl, same⟩ := List.append_inj' split rfl
      cases same
      exact last
    · have cut : history ++ [event] = (before ++ earlier :: rest) ++ [final] := by
        simp [split]
      obtain ⟨rfl, -⟩ := List.append_inj' cut rfl
      exact holds before earlier rest rfl

end TalkSystem
