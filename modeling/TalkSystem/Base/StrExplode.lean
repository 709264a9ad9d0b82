import Mathlib.Algebra.Group.Int.Defs
import Mathlib.Algebra.GroupWithZero.Nat
import TalkSystem.Base.CString

/-!
# `CStrExplode`

The constructor counts the items in one loop and fills the slots in another.
The bytes of `str` are those before its NUL. A slot of `m_item_list` is `none`
as long as nothing has been assigned to it.
-/

set_option autoImplicit false

namespace TalkSystem.Base.CStrExplode

abbrev ItemList := List (Option Bytes)

/-- The first loop; `m_item_cnt` is a `uint32_t`. -/
def itemCnt (seperator : UInt8) (str : Bytes) : Nat :=
  str.foldl (fun cnt byte => if byte = seperator then (cnt + 1) % 2 ^ 32 else cnt) 1

/-- `len` for the bytes from `start` to `pos`, a `uint32_t`. -/
def itemLen (item : Bytes) : Nat := item.length % 2 ^ 32

/-- Assign a slot: `new char[len + 1]`, `strncpy` and the NUL behind it. There is
no result if `len + 1` wraps to 0, so that the copy has no room, or if there is
no such slot. -/
def assign (list : ItemList) (idx : Nat) (item : Bytes) : Option ItemList :=
  if itemLen item + 1 < 2 ^ 32 ∧ idx < list.length then
    some (list.set idx (some (item.take (itemLen item))))
  else
    none

/-- The second loop and what follows it, with the bytes from `start` to `pos` in
`item`. A separator where an item would start is taken for its first byte, and
an `idx` that does not fit into an `int` has no result. -/
def fill (seperator : UInt8) (list : ItemList) (idx : Nat) (item : Bytes) :
    Bytes → Option ItemList
  | [] => if itemLen item ≠ 0 then assign list idx item else some list
  | byte :: str =>
      if item ≠ [] ∧ byte = seperator then do
        let list ← assign list idx item
        if idx + 1 < 2 ^ 31 then fill seperator list (idx + 1) [] str else none
      else
        fill seperator list idx (item ++ [byte]) str

/-- `m_item_list` after the constructor; `GetItemCnt()` is its length. -/
def new (str : Bytes) (seperator : UInt8) : Option ItemList :=
  fill seperator (List.replicate (itemCnt seperator str) none) 0 [] str

end TalkSystem.Base.CStrExplode
