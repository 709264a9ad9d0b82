import Mathlib.Data.List.Perm.Basic
import Mathlib.Logic.Function.Basic

/-!
# Counting processes by their phase

A table gives every process its phase; the processes that exist are the members
of a list without duplicates. The laws say how the number of members in a kind
of phase changes when one process moves, leaves or joins.
-/

set_option autoImplicit false

namespace TalkSystem.ProcessTable

variable {Process Phase : Type}

def count (kind : Phase → Bool) (table : Process → Phase) (members : List Process) : Nat :=
  members.countP fun process => kind (table process)

variable {kind : Phase → Bool} {table : Process → Phase} {members : List Process}
  {process : Process} {phase : Phase}

@[simp] theorem count_nil : count kind table [] = 0 := rfl

theorem count_append_singleton :
    count kind table (members ++ [process]) =
      count kind table members + (kind (table process)).toNat := by
  simp only [count, List.countP_append, List.countP_cons, List.countP_nil, Nat.zero_add]
  cases kind (table process) <;> simp

/-- A change of all phases that respects the kind. -/
theorem count_map {change : Phase → Phase} (respects : ∀ phase, kind (change phase) = kind phase) :
    count kind (fun process => change (table process)) members = count kind table members := by
  simp only [count, respects]

variable [DecidableEq Process]

theorem count_update_of_not_mem (absent : process ∉ members) :
    count kind (Function.update table process phase) members = count kind table members := by
  refine List.countP_congr fun other member => ?_
  have different : other ≠ process := fun same => absent (same ▸ member)
  rw [Function.update_of_ne different]

/-- One member moves to another phase. -/
theorem count_update (unique : members.Nodup) (member : process ∈ members) :
    count kind (Function.update table process phase) members + (kind (table process)).toNat =
      count kind table members + (kind phase).toNat := by
  induction members with
  | nil => cases member
  | cons head tail ih =>
      obtain ⟨absent, unique_tail⟩ := List.nodup_cons.mp unique
      simp only [count, List.countP_cons]
      rcases List.mem_cons.mp member with rfl | later
      · have rest : count kind (Function.update table process phase) tail = count kind table tail :=
          count_update_of_not_mem absent
        simp only [count] at rest
        rw [rest, Function.update_self]
        cases kind phase <;> cases kind (table process) <;> simp
      · have different : head ≠ process := fun same => absent (same ▸ later)
        have rest := ih unique_tail later
        simp only [count] at rest
        rw [Function.update_of_ne different]
        omega

theorem count_erase (member : process ∈ members) :
    count kind table (members.erase process) + (kind (table process)).toNat =
      count kind table members := by
  have split := (List.perm_cons_erase member).countP_eq fun other => kind (table other)
  simp only [count, split, List.countP_cons]
  cases kind (table process) <;> simp

end TalkSystem.ProcessTable
