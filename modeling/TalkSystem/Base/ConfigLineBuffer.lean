import TalkSystem.Base.ConfigFileReader
import TalkSystem.Machine.CheckedMemory

/-!
# `_LoadFile` on its buffer

The same functions with the array they work on. A `char *` is an index, and
what reads or writes outside the array has no result. A line is cut in place,
so the array comes back changed.
-/

set_option autoImplicit false

namespace TalkSystem.Base.LineBuffer

/-- The number of cells before the first one that satisfies `stops`; there must
be one. -/
def scan (stops : UInt8 → Bool) : Bytes → Option Nat
  | [] => none
  | byte :: cells => if stops byte then some 0 else (scan stops cells).map (· + 1)

def strlen (cells : Bytes) (pointer : Nat) : Option Nat := scan (· == 0) (cells.drop pointer)

/-- The `std::string` made of a `char *`. -/
def cString (cells : Bytes) (pointer : Nat) : Option Bytes :=
  (strlen cells pointer).map fun length => (cells.drop pointer).take length

/-- `strchr`; the inner `none` is NULL. -/
def strchr (cells : Bytes) (pointer : Nat) (wanted : UInt8) : Option (Option Nat) := do
  let offset ← scan (fun byte => byte == wanted || byte == 0) (cells.drop pointer)
  let found ← cells[pointer + offset]?
  some (if found = wanted then some (pointer + offset) else none)

def poke (cells : Bytes) (pointer : Nat) (byte : UInt8) : Option Bytes :=
  if pointer < cells.length then some (cells.set pointer byte) else none

/-- The backward loop of `_TrimSpace`, from the cell before `stop` on: the cells
afterwards, and where `end_pos` stays. Before the first cell there is nothing to
read. -/
def cutBlanks (cells : Bytes) : Nat → Option (Bytes × Nat)
  | 0 => none
  | end_pos + 1 => do
      let byte ← cells[end_pos]?
      if isBlank byte then
        cutBlanks (cells.set end_pos 0) end_pos
      else
        some (cells, end_pos)

/-- `_TrimSpace`: the cells afterwards and the pointer returned, `none` for
NULL. The sum that does not fit into an `int` has no result. -/
def trimSpace (cells : Bytes) (name : Nat) : Option (Bytes × Option Nat) := do
  let blanks ← scan (fun byte => !isBlank byte) (cells.drop name)
  let start_pos := name + blanks
  if (← strlen cells start_pos) = 0 then
    some (cells, none)
  else do
    let (cells, end_pos) ← cutBlanks cells (name + (← strlen cells name))
    let len := CConfigFileReader.castInt ((end_pos : Int) - start_pos) + 1
    if len = 2 ^ 31 then
      none
    else
      some (cells, if len ≤ 0 then none else some start_pos)

def parseLine (cells : Bytes) (line : Nat) (configMap : StringMap) :
    Option (Bytes × StringMap) := do
  match ← strchr cells line equalsSign with
  | none => some (cells, configMap)
  | some p =>
      let cells ← poke cells p 0
      let (cells, key) ← trimSpace cells line
      let (cells, value) ← trimSpace cells (p + 1)
      match key, value with
      | some key, some value =>
          some (cells, configMap.insertIfNew (← cString cells key) (← cString cells value))
      | _, _ => some (cells, configMap)

/-- "remove \n at the end" in `_LoadFile`, where `len - 1` is a `size_t`. -/
def removeNewline (buf : Bytes) : Option Bytes := do
  let len ← strlen buf 0
  let last := (len + 2 ^ 64 - 1) % 2 ^ 64
  if (← buf[last]?) = newline then poke buf last 0 else some buf

/-- "remove string start with #" in `_LoadFile`. -/
def removeComment (buf : Bytes) : Option Bytes := do
  match ← strchr buf 0 hashSign with
  | none => some buf
  | some ch => poke buf ch 0

/-- The body of the loop in `_LoadFile`, with what `fgets` stores. -/
def loadLine (buf : Bytes) (configMap : StringMap) (bytes : Bytes) :
    Option (Bytes × StringMap) := do
  let buf ← CheckedMemory.store buf 0 (bytes ++ [0])
  let buf ← removeNewline buf
  let buf ← removeComment buf
  if (← strlen buf 0) = 0 then
    some (buf, configMap)
  else
    parseLine buf 0 configMap

def loadBufs (buf : Bytes) (configMap : StringMap) (bufs : List Bytes) :
    Option (Bytes × StringMap) :=
  bufs.foldlM (fun state bytes => loadLine state.1 state.2 bytes) (buf, configMap)

/-- The loop of `_LoadFile`, with what was in the buffer before. -/
def loadContents (buf : Bytes) (configMap : StringMap) (contents : Bytes) :
    Option (Bytes × StringMap) :=
  loadBufs buf configMap (CConfigFileReader.readLines contents.length contents)

end TalkSystem.Base.LineBuffer
