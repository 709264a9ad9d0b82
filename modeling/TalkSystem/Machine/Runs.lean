import Mathlib.Logic.Function.Basic

/-!
# Guarded runs of a labelled machine

A machine is a partial step function: the label carries every choice that the
scheduler, the kernel or the user makes, so a step is a computation. A run is
guarded when each of its steps satisfies a condition on the state before the
step and on the label. The rules below are the only way the development
reasons about runs.
-/

set_option autoImplicit false

namespace TalkSystem

/-- A deterministic labelled machine; `none` means that the label is not
enabled in the state. -/
structure Machine (State Label : Type) where
  step : State → Label → Option State

namespace Machine

variable {State Label : Type} {machine : Machine State Label}
  {guard : State → Label → Prop}

/-- `machine.Runs guard start labels final`: performing the labels in order
leads from `start` to `final`, and every step meets `guard`. -/
inductive Runs (machine : Machine State Label) (guard : State → Label → Prop) :
    State → List Label → State → Prop where
  | nil {state : State} : Runs machine guard state [] state
  | cons {state next final : State} {label : Label} {labels : List Label} :
      guard state label → machine.step state label = some next →
      Runs machine guard next labels final →
      Runs machine guard state (label :: labels) final

def anyStep : State → Label → Prop := fun _ _ => True

namespace Runs

variable {start final : State} {labels : List Label}

/-- The invariant rule: what the start satisfies and each guarded step keeps
holds at the end of every guarded run. -/
theorem invariant (property : State → Prop)
    (keeps : ∀ state label next, guard state label →
      machine.step state label = some next → property state → property next)
    (run : machine.Runs guard start labels final) (holds : property start) :
    property final := by
  induction run with
  | nil => exact holds
  | cons allowed taken _ ih => exact ih (keeps _ _ _ allowed taken holds)

/-- A run meets every guard that its own guard and an invariant give. -/
theorem strengthen {other : State → Label → Prop} (property : State → Prop)
    (keeps : ∀ state label next, guard state label →
      machine.step state label = some next → property state →
      other state label ∧ property next)
    (run : machine.Runs guard start labels final) (holds : property start) :
    machine.Runs other start labels final := by
  induction run with
  | nil => exact .nil
  | cons allowed taken _ ih =>
      obtain ⟨also, kept⟩ := keeps _ _ _ allowed taken holds
      exact .cons also taken (ih kept)

/-- An additive measure: if each step changes `measure` by the amount its own
label accounts for, the whole run changes it by the sum. -/
theorem accumulates {Total : Type} (combine : Total → Label → Total)
    (measure : State → Total)
    (adds : ∀ state label next, guard state label →
      machine.step state label = some next →
      measure next = combine (measure state) label)
    (run : machine.Runs guard start labels final) :
    measure final = labels.foldl combine (measure start) := by
  induction run with
  | nil => rfl
  | cons allowed taken _ ih => rw [ih, adds _ _ _ allowed taken, List.foldl_cons]

/-- A run that is extended by one more guarded step. -/
theorem concat {next : State} {label : Label}
    (run : machine.Runs guard start labels final) (allowed : guard final label)
    (taken : machine.step final label = some next) :
    machine.Runs guard start (labels ++ [label]) next := by
  induction run with
  | nil => exact .cons allowed taken .nil
  | cons first stepped _ ih => exact .cons first stepped (ih allowed taken)

/-- A run is cut between any two of its labels. -/
theorem split {before after : List Label} (run : machine.Runs guard start (before ++ after) final) :
    ∃ middle, machine.Runs guard start before middle ∧ machine.Runs guard middle after final := by
  induction before generalizing start with
  | nil => exact ⟨start, .nil, run⟩
  | cons label before ih =>
      cases run with
      | cons allowed taken rest =>
          obtain ⟨middle, first, second⟩ := ih rest
          exact ⟨middle, .cons allowed taken first, second⟩

/-- What a run loses it loses at one of its steps. -/
theorem exists_losing_step (property : State → Prop)
    (run : machine.Runs guard start labels final) (holds : property start)
    (lost : ¬ property final) :
    ∃ before label after state next, labels = before ++ label :: after ∧
      machine.Runs guard start before state ∧ guard state label ∧
      machine.step state label = some next ∧ property state ∧ ¬ property next := by
  induction run with
  | nil => exact absurd holds lost
  | @cons state next final label rest allowed taken _ ih =>
      by_cases kept : property next
      · obtain ⟨before, losing, after, last, beyond, labels, run, found⟩ := ih kept lost
        exact ⟨label :: before, losing, after, last, beyond, by rw [labels, List.cons_append],
          .cons allowed taken run, found⟩
      · exact ⟨[], label, rest, state, next, rfl, .nil, allowed, taken, holds, kept⟩

/-- A forward simulation that may stutter: where each guarded step is followed by at most one
guarded step of the other machine, a run is followed by a run. -/
theorem simulates {OtherState OtherLabel : Type} {other : Machine OtherState OtherLabel}
    {otherGuard : OtherState → OtherLabel → Prop} (relates : State → OtherState → Prop)
    (follows : ∀ state label next abstract, guard state label →
      machine.step state label = some next → relates state abstract →
      relates next abstract ∨ ∃ otherLabel abstractNext, otherGuard abstract otherLabel ∧
        other.step abstract otherLabel = some abstractNext ∧ relates next abstractNext)
    (run : machine.Runs guard start labels final) {abstract : OtherState}
    (related : relates start abstract) :
    ∃ otherLabels abstractFinal,
      other.Runs otherGuard abstract otherLabels abstractFinal ∧ relates final abstractFinal := by
  induction run generalizing abstract with
  | nil => exact ⟨[], abstract, .nil, related⟩
  | cons allowed taken _ ih =>
      rcases follows _ _ _ _ allowed taken related with
        stutters | ⟨otherLabel, next, permitted, moved, stays⟩
      · exact ih stutters
      · obtain ⟨otherLabels, abstractFinal, otherRun, ends⟩ := ih stays
        exact ⟨otherLabel :: otherLabels, abstractFinal, .cons permitted moved otherRun, ends⟩

end Runs

end Machine

end TalkSystem
