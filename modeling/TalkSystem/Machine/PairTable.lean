import Mathlib.Data.List.Nodup
import Mathlib.Logic.Function.Basic

/-!
# Partial functions as lists of pairs

A finite partial function is written down as the list of its pairs, in any
order. Storing a list of pairs over a function lets the later pairs win; storing
the pairs of a function where nothing was stored gives it back.
-/

set_option autoImplicit false

namespace TalkSystem.PairTable

variable {Key Value : Type} {pairs : List (Key × Value)} {table : Key → Option Value} {key : Key}
  {value : Value}

/-- The pairs of `table`, each key once. -/
structure Lists (pairs : List (Key × Value)) (table : Key → Option Value) : Prop where
  unique : (pairs.map Prod.fst).Nodup
  mem_iff : ∀ key value, (key, value) ∈ pairs ↔ table key = some value

theorem Lists.lookup [BEq Key] [LawfulBEq Key] (lists : Lists pairs table) (key : Key) :
    pairs.lookup key = table key := by
  cases found : pairs.lookup key with
  | some value =>
      obtain ⟨before, after, rfl, _⟩ := List.lookup_eq_some_iff.mp found
      exact ((lists.mem_iff key value).mp (by simp)).symm
  | none =>
      cases bound : table key with
      | none => rfl
      | some value =>
          have member := (lists.mem_iff key value).mpr bound
          simpa using List.lookup_eq_none_iff.mp found _ member

variable [DecidableEq Key]

def storeAll (table : Key → Option Value) (pairs : List (Key × Value)) : Key → Option Value :=
  pairs.foldl (fun table pair => Function.update table pair.1 (some pair.2)) table

theorem storeAll_cons (pair : Key × Value) :
    storeAll table (pair :: pairs) =
      storeAll (Function.update table pair.1 (some pair.2)) pairs := rfl

theorem storeAll_of_not_mem (absent : key ∉ pairs.map Prod.fst) :
    storeAll table pairs key = table key := by
  induction pairs generalizing table with
  | nil => rfl
  | cons pair pairs ih =>
      rw [List.map_cons, List.mem_cons, not_or] at absent
      rw [storeAll_cons, ih absent.2, Function.update_of_ne absent.1]

/-- What is found was stored, or was there before. -/
theorem mem_or_of_storeAll (found : storeAll table pairs key = some value) :
    (key, value) ∈ pairs ∨ table key = some value := by
  induction pairs generalizing table with
  | nil => exact .inr found
  | cons pair pairs ih =>
      rw [storeAll_cons] at found
      rcases ih found with later | before
      · exact .inl (List.mem_cons_of_mem _ later)
      · by_cases same : key = pair.1
        · subst same
          rw [Function.update_self, Option.some.injEq] at before
          exact .inl (before ▸ List.mem_cons_self)
        · exact .inr (Function.update_of_ne same _ table ▸ before)

theorem storeAll_of_mem (unique : (pairs.map Prod.fst).Nodup) (member : (key, value) ∈ pairs) :
    storeAll table pairs key = some value := by
  induction pairs generalizing table with
  | nil => cases member
  | cons pair pairs ih =>
      rw [List.map_cons, List.nodup_cons] at unique
      rcases List.mem_cons.mp member with rfl | later
      · rw [storeAll_cons, storeAll_of_not_mem unique.1, Function.update_self]
      · exact ih unique.2 later

theorem Lists.storeAll_empty (lists : Lists pairs table) :
    storeAll (fun _ => none) pairs = table := by
  funext key
  cases bound : table key with
  | some value => exact storeAll_of_mem lists.unique ((lists.mem_iff key value).mpr bound)
  | none =>
      refine storeAll_of_not_mem fun member => ?_
      obtain ⟨pair, listed, rfl⟩ := List.mem_map.mp member
      simpa [bound] using (lists.mem_iff pair.1 pair.2).mp listed

end TalkSystem.PairTable
