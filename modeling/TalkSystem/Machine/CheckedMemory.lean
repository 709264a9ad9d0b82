import Mathlib.Data.List.Basic

/-!
# Checked accesses to an array

An array is a list of cells. Reading or writing a range that does not lie
inside has no result, so a computation that has one never left the array.
-/

set_option autoImplicit false

namespace TalkSystem.CheckedMemory

variable {Cell : Type}

def load (cells : List Cell) (start count : Nat) : Option (List Cell) :=
  if start + count ≤ cells.length then some ((cells.drop start).take count) else none

def store (cells : List Cell) (start : Nat) (data : List Cell) : Option (List Cell) :=
  if start + data.length ≤ cells.length then
    some (cells.take start ++ data ++ cells.drop (start + data.length))
  else
    none

/-- Copy `count` cells within one array, one after the other from the first. -/
def copyForward (cells : List Cell) (first dest : Nat) : Nat → Option (List Cell)
  | 0 => some cells
  | count + 1 =>
      match cells[first]? with
      | none => none
      | some cell =>
          if dest < cells.length then
            copyForward (cells.set dest cell) (first + 1) (dest + 1) count
          else
            none

theorem load_inside {cells : List Cell} {start count : Nat}
    (inside : start + count ≤ cells.length) :
    load cells start count = some ((cells.drop start).take count) := if_pos inside

theorem store_inside {cells data : List Cell} {start : Nat}
    (inside : start + data.length ≤ cells.length) :
    store cells start data =
      some (cells.take start ++ data ++ cells.drop (start + data.length)) := if_pos inside

/-- Storing one cell more: the first by itself, the others behind it. -/
theorem store_cons {cells data : List Cell} {start : Nat} {cell : Cell}
    (inside : start + (data.length + 1) ≤ cells.length) :
    store (cells.set start cell) (start + 1) data = store cells start (cell :: data) := by
  have early : start < cells.length := by omega
  rw [store_inside (by simp only [List.length_set]; omega),
    store_inside (by simp only [List.length_cons]; omega)]
  have front : (cells.set start cell).take (start + 1) = cells.take start ++ [cell] := by
    rw [List.take_add_one, List.take_set_of_le (Nat.le_refl _)]
    simp [early]
  have back : (cells.set start cell).drop (start + 1 + data.length) =
      cells.drop (start + (cell :: data).length) := by
    rw [List.drop_set_of_lt (by omega), List.length_cons, Nat.add_right_comm, Nat.add_assoc]
  rw [front, back]
  simp

theorem load_store {cells data filled : List Cell} {start : Nat}
    (stored : store cells start data = some filled) :
    load filled start data.length = some data := by
  by_cases inside : start + data.length ≤ cells.length
  · obtain rfl := Option.some.inj ((store_inside inside).symm.trans stored)
    have front : (cells.take start).length = start := by
      simp only [List.length_take]
      omega
    rw [load_inside (by simp only [List.length_append]; omega), List.append_assoc,
      List.drop_left' front, List.take_left]
  · simp [store, inside] at stored

/-- A forward copy to an earlier position, or in place, reads every cell before
it is overwritten, so the ranges may overlap. -/
theorem copyForward_eq_store {first dest count : Nat} (cells : List Cell)
    (earlier : dest ≤ first) (inside : first + count ≤ cells.length) :
    copyForward cells first dest count = store cells dest ((cells.drop first).take count) := by
  induction count generalizing cells first dest with
  | zero =>
      have room : dest + ([] : List Cell).length ≤ cells.length := by
        simp only [List.length_nil]
        omega
      simp [copyForward, store_inside room]
  | succ count ih =>
      have present : first < cells.length := by omega
      have ahead : (cells.drop first).take (count + 1) =
          cells[first] :: (cells.drop (first + 1)).take count := by
        rw [List.drop_eq_getElem_cons present, List.take_succ_cons]
      have kept : (cells.set dest cells[first]).drop (first + 1) = cells.drop (first + 1) :=
        List.drop_set_of_lt (by omega)
      have room : dest + (((cells.drop (first + 1)).take count).length + 1) ≤ cells.length := by
        simp only [List.length_take, List.length_drop]
        omega
      rw [copyForward, List.getElem?_eq_getElem present]
      simp only [if_pos (show dest < cells.length by omega)]
      rw [ih _ (by omega) (by simp only [List.length_set]; omega), kept, store_cons room, ahead]

end TalkSystem.CheckedMemory
