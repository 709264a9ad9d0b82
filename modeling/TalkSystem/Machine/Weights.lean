import Mathlib.Algebra.Order.BigOperators.Group.List
import Mathlib.Algebra.Order.Ring.Nat
import Mathlib.Data.List.Perm.Subperm

/-!
# Weights of lists

Each item of a list has a weight. The laws compare total weights when items
are dropped, chosen or replaced, and say what equality of the totals tells
about the single items.
-/

set_option autoImplicit false

namespace TalkSystem.Weights

variable {Item Source : Type}

def total (weight : Item → Nat) (items : List Item) : Nat := (items.map weight).sum

@[simp] theorem total_nil (weight : Item → Nat) : total weight [] = 0 := rfl

@[simp] theorem total_cons (weight : Item → Nat) (item : Item) (items : List Item) :
    total weight (item :: items) = weight item + total weight items := by
  simp [total]

theorem total_le_of_subset (weight : Item → Nat) {items others : List Item}
    (unique : items.Nodup) (inside : items ⊆ others) :
    total weight items ≤ total weight others := by
  obtain ⟨middle, permuted, part⟩ := unique.subperm inside
  calc total weight items
      = total weight middle := (permuted.map weight).sum_eq.symm
    _ ≤ total weight others := (part.map weight).sum_le_sum fun _ _ => Nat.zero_le _

/-- Choosing from each source at most one item that is not heavier. -/
theorem total_filterMap_le {weight : Item → Nat} {bound : Source → Nat}
    {choose : Source → Option Item} {sources : List Source}
    (lighter : ∀ source ∈ sources, ∀ item, choose source = some item →
      weight item ≤ bound source) :
    total weight (sources.filterMap choose) ≤ total bound sources := by
  induction sources with
  | nil => simp
  | cons source sources ih =>
      have rest := ih fun other member => lighter other (List.mem_cons_of_mem source member)
      cases chosen : choose source with
      | none =>
          simp only [List.filterMap_cons, chosen, total_cons]
          omega
      | some item =>
          have here := lighter source List.mem_cons_self item chosen
          simp only [List.filterMap_cons, chosen, total_cons]
          omega

theorem total_min_le (weight : Item → Nat) (cap : Nat) (items : List Item) :
    total (fun item => min cap (weight item)) items ≤ total weight items := by
  induction items with
  | nil => simp
  | cons item items ih =>
      simp only [total_cons]
      omega

/-- If capping each weight loses nothing in total, no weight exceeds the cap. -/
theorem le_of_total_le_min {weight : Item → Nat} {cap : Nat} {items : List Item}
    (kept : total weight items ≤ total (fun item => min cap (weight item)) items) :
    ∀ item ∈ items, weight item ≤ cap := by
  induction items with
  | nil => simp
  | cons item items ih =>
      have others := total_min_le weight cap items
      simp only [total_cons] at kept
      intro other member
      rcases List.mem_cons.mp member with rfl | later
      · omega
      · exact ih (by omega) other later

end TalkSystem.Weights
