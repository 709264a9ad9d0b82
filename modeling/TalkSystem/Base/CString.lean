import Mathlib.Data.List.TakeWhile
import Std.Data.TreeMap
import TalkSystem.Machine.PairTable

/-!
# Byte strings

`std::string` contents, the C strings in them, and `map<string, string>`. A
`map` is a tree map on byte strings, which are compared as `std::string`
compares them.
-/

set_option autoImplicit false

namespace TalkSystem

abbrev Bytes := List UInt8

abbrev StringMap := Std.TreeMap Bytes Bytes

def ascii (text : String) : Bytes := text.toList.map fun char => char.toNat.toUInt8

/-- The C string in a `std::string`: it ends at the first NUL. -/
def cStr (text : Bytes) : Bytes := text.takeWhile (· ≠ 0)

theorem cStr_eq_self_iff {text : Bytes} : cStr text = text ↔ 0 ∉ text := by
  rw [cStr, List.takeWhile_eq_self_iff]
  constructor
  · intro free member
    simpa using free 0 member
  · intro free byte member
    have different : byte ≠ 0 := fun zero => free (zero ▸ member)
    simpa using different

theorem cStr_append {left right : Bytes} (free : 0 ∉ left) :
    cStr (left ++ right) = left ++ cStr right := by
  rw [cStr, List.takeWhile_append_of_pos]
  · rfl
  · intro byte member
    have different : byte ≠ 0 := fun zero => free (zero ▸ member)
    simpa using different

theorem cStr_append_of_mem {left : Bytes} (nul : 0 ∈ left) (right : Bytes) :
    cStr (left ++ right) = cStr left := by
  have shorter : (cStr left).length ≠ left.length := by
    intro same
    have whole := (List.takeWhile_prefix _).eq_of_length same
    exact cStr_eq_self_iff.mp whole nul
  exact List.takeWhile_append.trans (if_neg shorter)

theorem zero_not_mem_cStr (text : Bytes) : 0 ∉ cStr text := by
  intro member
  simpa using List.mem_takeWhile_imp member

/-- The entries of a map, in the order of its iteration. -/
theorem lists_toList (table : StringMap) :
    PairTable.Lists table.toList fun key => table[key]? where
  unique := by
    refine List.pairwise_map.mpr (Std.TreeMap.distinct_keys_toList.imp ?_)
    intro left right different same
    exact different (same ▸ Std.ReflCmp.compare_self)
  mem_iff _ _ := Std.TreeMap.mem_toList_iff_getElem?_eq_some

end TalkSystem
