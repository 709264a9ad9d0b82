import Mathlib.Data.List.Basic

/-!
# Lists split at a separator

`List.splitOn` and `List.intercalate` seen from the parts: reasoning along the
separators, and how long the joined list is.
-/

set_option autoImplicit false

namespace TalkSystem.Splitting

variable {Item : Type} [DecidableEq Item] {separator : Item}

/-- A list either has no separator, or it is a part without one, a separator and
the rest. -/
theorem induction (separator : Item) {property : List Item → Prop}
    (last : ∀ part, separator ∉ part → property part)
    (step : ∀ part rest, separator ∉ part → property rest →
      property (part ++ separator :: rest))
    (list : List Item) : property list := by
  induction length : list.length using Nat.strongRecOn generalizing list with
  | ind size ih =>
      by_cases present : separator ∈ list
      · obtain ⟨part, rest, rfl, free⟩ := List.eq_append_cons_of_mem present
        have shorter : rest.length < size := by
          simp only [List.length_append, List.length_cons] at length
          omega
        exact step part rest free (ih rest.length shorter rest rfl)
      · exact last list present

theorem separator_not_mem {list part : List Item} (member : part ∈ list.splitOn separator) :
    separator ∉ part := by
  induction list using induction separator with
  | last whole free =>
      rw [List.splitOn_eq_singleton free, List.mem_singleton] at member
      exact member ▸ free
  | step first rest free ih =>
      rw [List.splitOn_append_cons_self_of_not_mem free] at member
      rcases List.mem_cons.mp member with rfl | later
      · exact free
      · exact ih later

/-! ## Joining -/

omit [DecidableEq Item] in
/-- Every part but the first costs a separator. -/
theorem length_intercalate {parts : List (List Item)} (more : parts ≠ []) :
    ([separator].intercalate parts).length + 1 = parts.flatten.length + parts.length := by
  induction parts with
  | nil => exact (more rfl).elim
  | cons first parts ih =>
      cases parts with
      | nil => simp
      | cons second parts =>
          have rest := ih (by simp)
          rw [List.intercalate_cons_cons, List.flatten_cons]
          simp only [List.length_append, List.length_cons, List.length_nil] at rest ⊢
          omega

theorem count_intercalate {parts : List (List Item)} (more : parts ≠ [])
    (free : ∀ part ∈ parts, separator ∉ part) :
    ([separator].intercalate parts).count separator + 1 = parts.length := by
  induction parts with
  | nil => exact (more rfl).elim
  | cons first parts ih =>
      have none_first : first.count separator = 0 :=
        List.count_eq_zero.mpr (free first List.mem_cons_self)
      cases parts with
      | nil => rw [List.intercalate_singleton, none_first, List.length_singleton]
      | cons second parts =>
          have rest := ih (by simp) fun part member => free part (List.mem_cons_of_mem first member)
          rw [List.intercalate_cons_cons, List.count_append, List.count_append,
            List.count_singleton_self, none_first, List.length_cons]
          omega

omit [DecidableEq Item] in
theorem mem_intercalate {parts : List (List Item)} {item : Item} {part : List Item}
    (inside : part ∈ parts) (member : item ∈ part) :
    item ∈ [separator].intercalate parts := by
  induction parts with
  | nil => simp at inside
  | cons first parts ih =>
      cases parts with
      | nil =>
          rw [List.mem_singleton] at inside
          simpa [inside] using member
      | cons second parts =>
          rw [List.intercalate_cons_cons, List.mem_append, List.mem_append]
          rcases List.mem_cons.mp inside with rfl | later
          · exact .inl (.inl member)
          · exact .inr (ih later)

omit [DecidableEq Item] in
theorem not_mem_intercalate {parts : List (List Item)} {item : Item}
    (different : item ≠ separator) (absent : ∀ part ∈ parts, item ∉ part) :
    item ∉ [separator].intercalate parts := by
  induction parts with
  | nil => simp
  | cons first parts ih =>
      cases parts with
      | nil => simpa using absent first List.mem_cons_self
      | cons second parts =>
          have rest := ih fun part member => absent part (List.mem_cons_of_mem first member)
          rw [List.intercalate_cons_cons, List.mem_append, List.mem_append]
          simp [absent first List.mem_cons_self, different, rest]

end TalkSystem.Splitting
