import Mathlib.Algebra.GroupWithZero.Nat
import Mathlib.Algebra.Group.Int.Defs
import TalkSystem.Base.CString

/-!
# `CodedInputStream` and `CodedOutputStream`

The coded streams of Protocol Buffers, as far as the messages use them: an input
stream over an array of fewer than `2 ^ 31` bytes, and the bytes that the writers
produce. `uint32` and `uint64` are numbers cut to their width.
-/

set_option autoImplicit false

namespace TalkSystem.Protocol

def kMaxVarintBytes : Nat := 10
def kMaxVarint32Bytes : Nat := 5

/-! ## Reading from an array without bound checks -/

/-- `past` is a read behind the end of the array, `overrun` a number that is too long. -/
inductive ArrayRead where
  | past
  | overrun
  | done (value : Nat) (ptr : Bytes)
  deriving DecidableEq, Repr

def ArrayRead.result : ArrayRead → Option (Nat × Bytes)
  | .done value ptr => some (value, ptr)
  | .past | .overrun => none

inductive PartRead where
  | past
  | done (part : Nat) (ptr : Bytes)
  | more (part : Nat) (ptr : Bytes)
  deriving DecidableEq, Repr

/-- A row of unrolled lines, `b = *(ptr++); part += b << shift; if (!(b & 0x80)) goto done;
part -= 0x80 << shift;`, for shifts at which nothing overflows. -/
def readPart : List Nat → Nat → Bytes → PartRead
  | [], part, ptr => .more part ptr
  | _ :: _, _, [] => .past
  | shift :: shifts, part, b :: ptr =>
      let part := part + b.toNat <<< shift
      if b.toNat < 0x80 then .done part ptr else readPart shifts (part - 0x80 <<< shift) ptr

/-- The loop over the bytes that hold nothing but high-order bits. -/
def discardBytes (result : Nat) : Nat → Bytes → ArrayRead
  | 0, _ => .overrun
  | _ + 1, [] => .past
  | count + 1, b :: ptr => if b.toNat < 0x80 then .done result ptr else discardBytes result count ptr

def ReadVarint32FromArray (buffer : Bytes) : ArrayRead :=
  match readPart [0, 7, 14, 21] 0 buffer with
  | .past | .more _ [] => .past
  | .done result ptr => .done result ptr
  | .more result (b :: ptr) =>
      let result := (result + b.toNat <<< 28) % 2 ^ 32
      if b.toNat < 0x80 then .done result ptr
      else discardBytes result (kMaxVarintBytes - kMaxVarint32Bytes) ptr

/-- The fast path of `ReadVarint64Fallback`. -/
def ReadVarint64FromArray (buffer : Bytes) : ArrayRead :=
  match readPart [0, 7, 14, 21] 0 buffer with
  | .past => .past
  | .done part0 ptr => .done part0 ptr
  | .more part0 ptr =>
      match readPart [0, 7, 14, 21] 0 ptr with
      | .past => .past
      | .done part1 ptr => .done (part0 ||| part1 <<< 28) ptr
      | .more part1 ptr =>
          match readPart [0, 7] 0 ptr with
          | .past => .past
          | .done part2 ptr => .done (part0 ||| part1 <<< 28 ||| (part2 <<< 56) % 2 ^ 64) ptr
          | .more _ _ => .overrun

/-- Enough bytes, or the last byte ends a number. -/
def readsFast (buffer : Bytes) : Bool :=
  kMaxVarintBytes ≤ buffer.length || buffer.getLast?.any fun b => b.toNat < 0x80

/-! ## Numbers -/

/-- The loop of `ReadVarint64Slow`, with the number of bytes that are left to it. -/
def slowLoop : Nat → Nat → Nat → Bytes → Option (Nat × Bytes)
  | 0, _, _, _ => none
  | _ + 1, _, _, [] => none
  | left + 1, count, result, b :: buffer =>
      let result := result ||| ((b.toNat &&& 0x7F) <<< (7 * count)) % 2 ^ 64
      if b.toNat < 0x80 then some (result, buffer) else slowLoop left (count + 1) result buffer

def ReadVarint64Slow (buffer : Bytes) : Option (Nat × Bytes) :=
  slowLoop kMaxVarintBytes 0 0 buffer

def ReadVarint64Fallback (buffer : Bytes) : Option (Nat × Bytes) :=
  if readsFast buffer then (ReadVarint64FromArray buffer).result else ReadVarint64Slow buffer

def ReadVarint32Slow (buffer : Bytes) : Option (Nat × Bytes) :=
  (ReadVarint64Fallback buffer).map fun found => (found.1 % 2 ^ 32, found.2)

def ReadVarint32Fallback (buffer : Bytes) : Option (Nat × Bytes) :=
  if readsFast buffer then (ReadVarint32FromArray buffer).result else ReadVarint32Slow buffer

def ReadVarint32 (buffer : Bytes) : Option (Nat × Bytes) :=
  match buffer with
  | [] => ReadVarint32Fallback []
  | b :: rest => if b.toNat < 0x80 then some (b.toNat, rest) else ReadVarint32Fallback (b :: rest)

def ReadVarint64 (buffer : Bytes) : Option (Nat × Bytes) :=
  match buffer with
  | [] => ReadVarint64Fallback []
  | b :: rest => if b.toNat < 0x80 then some (b.toNat, rest) else ReadVarint64Fallback (b :: rest)

/-- `ReadLittleEndian32` and `ReadLittleEndian64` by their number of bytes. -/
def ReadLittleEndian (width : Nat) (buffer : Bytes) : Option (Nat × Bytes) :=
  if width ≤ buffer.length then
    some ((buffer.take width).foldr (fun b value => b.toNat + 256 * value) 0, buffer.drop width)
  else
    none

/-- `InternalReadStringInline`; the size is a `uint32` that is passed as an `int`. -/
def ReadString (buffer : Bytes) (size : Nat) : Option (Bytes × Bytes) :=
  if size < 2 ^ 31 ∧ size ≤ buffer.length then some (buffer.take size, buffer.drop size) else none

/-! ## The input stream -/

/-- `buffer` is what lies between `buffer_` and `buffer_end_`; `total_bytes_read` is the size of
the array, which is `current_limit_` too. -/
structure CodedInputStream where
  buffer : Bytes
  total_bytes_read : Nat
  last_tag : Nat
  legitimate_message_end : Bool
  recursion_depth : Nat
  deriving DecidableEq, Repr

namespace CodedInputStream

def kDefaultTotalBytesLimit : Nat := 64 <<< 20

def default_recursion_limit : Nat := 100

def new (buffer : Bytes) : CodedInputStream := ⟨buffer, buffer.length, 0, false, 0⟩

/-- `Refresh` fails at the end of an array. Where a read fails, `buffer` stays in the model;
the source has gone on in it, and reads it no more. -/
def ReadTagSlow (input : CodedInputStream) : CodedInputStream × Nat :=
  if input.buffer = [] then
    ({ input with
        legitimate_message_end :=
          if kDefaultTotalBytesLimit ≤ input.total_bytes_read then
            input.total_bytes_read = kDefaultTotalBytesLimit
          else
            true }, 0)
  else
    match ReadVarint64 input.buffer with
    | some (result, buffer) => ({ input with buffer := buffer }, result % 2 ^ 32)
    | none => (input, 0)

def ReadTagFallback (input : CodedInputStream) : CodedInputStream × Nat :=
  if readsFast input.buffer then
    match ReadVarint32FromArray input.buffer with
    | .done tag ptr => ({ input with buffer := ptr }, tag)
    | .past | .overrun => (input, 0)
  else if input.buffer = [] ∧ input.total_bytes_read < kDefaultTotalBytesLimit then
    ({ input with legitimate_message_end := true }, 0)
  else
    input.ReadTagSlow

def slowTag (input : CodedInputStream) : CodedInputStream × Nat :=
  let (input, tag) := input.ReadTagFallback
  ({ input with last_tag := tag }, tag)

def ReadTag (input : CodedInputStream) : CodedInputStream × Nat :=
  match input.buffer with
  | [] => input.slowTag
  | b :: rest =>
      if b.toNat < 0x80 then ({ input with buffer := rest, last_tag := b.toNat }, b.toNat)
      else input.slowTag

/-- The way through the slow path of `ReadTagWithCutoff`. -/
def slowTagWithCutoff (input : CodedInputStream) (cutoff : Nat) : CodedInputStream × Nat × Bool :=
  let (input, tag) := input.slowTag
  (input, tag, (tag + 2 ^ 32 - 1) % 2 ^ 32 < cutoff)

def ReadTagWithCutoff (input : CodedInputStream) (cutoff : Nat) : CodedInputStream × Nat × Bool :=
  match input.buffer with
  | [] => input.slowTagWithCutoff cutoff
  | b0 :: rest =>
      if 0 < b0.toNat ∧ b0.toNat < 0x80 then
        ({ input with buffer := rest, last_tag := b0.toNat }, b0.toNat,
          0x7f ≤ cutoff || b0.toNat ≤ cutoff)
      else
        match rest with
        | [] => input.slowTagWithCutoff cutoff
        | b1 :: rest =>
            if 0x80 ≤ cutoff ∧ 0x80 ≤ (b0 &&& ~~~b1).toNat then
              let tag := (1 <<< 7) * b1.toNat + (b0.toNat - 0x80)
              ({ input with buffer := rest, last_tag := tag }, tag,
                (0x7f <<< 7) + 0x7f ≤ cutoff || tag ≤ cutoff)
            else
              input.slowTagWithCutoff cutoff

/-- The buffer behind the tag, if it is the next one. -/
def ExpectTag (input : CodedInputStream) (expected : Nat) : Option CodedInputStream :=
  if expected < 1 <<< 7 then
    match input.buffer with
    | b :: rest => if b.toNat = expected then some { input with buffer := rest } else none
    | [] => none
  else if expected < 1 <<< 14 then
    match input.buffer with
    | b0 :: b1 :: rest =>
        if b0.toNat = (expected ||| 0x80) % 256 ∧ b1.toNat = (expected >>> 7) % 256 then
          some { input with buffer := rest }
        else
          none
    | _ => none
  else
    none

def ExpectAtEnd (input : CodedInputStream) : Option CodedInputStream :=
  if input.buffer = [] then
    some { input with last_tag := 0, legitimate_message_end := true }
  else
    none

def LastTagWas (input : CodedInputStream) (expected : Nat) : Bool := input.last_tag = expected

def IncrementRecursionDepth (input : CodedInputStream) : CodedInputStream × Bool :=
  ({ input with recursion_depth := input.recursion_depth + 1 },
    input.recursion_depth + 1 ≤ default_recursion_limit)

def DecrementRecursionDepth (input : CodedInputStream) : CodedInputStream :=
  { input with recursion_depth := input.recursion_depth - 1 }

end CodedInputStream

/-! ## Writing -/

/-- `WriteVarint32FallbackToArrayInline`. -/
def WriteVarint32FallbackToArray (value : Nat) : Bytes :=
  let target (shift : Nat) : UInt8 := ((value >>> shift) ||| 0x80).toUInt8
  if 1 <<< 7 ≤ value then
    if 1 <<< 14 ≤ value then
      if 1 <<< 21 ≤ value then
        if 1 <<< 28 ≤ value then
          [target 0, target 7, target 14, target 21, (value >>> 28).toUInt8]
        else
          [target 0, target 7, target 14, target 21 &&& 0x7F]
      else
        [target 0, target 7, target 14 &&& 0x7F]
    else
      [target 0, target 7 &&& 0x7F]
  else
    [target 0 &&& 0x7F]

/-- The loop that composes the bytes of a number first; `left` is the room for them. -/
def composeBytes : Nat → Nat → Bytes
  | 0, _ => []
  | left + 1, value =>
      if 0x7F < value then
        ((value.toUInt8 &&& 0x7F) ||| 0x80) :: composeBytes left (value >>> 7)
      else
        [value.toUInt8 &&& 0x7F]

/-- `WriteVarint32`; `buffer_size` is the room in the buffer of the stream. -/
def WriteVarint32 (buffer_size value : Nat) : Bytes :=
  if kMaxVarint32Bytes ≤ buffer_size then WriteVarint32FallbackToArray value
  else composeBytes kMaxVarint32Bytes value

def WriteVarint32ToArray (value : Nat) : Bytes :=
  if value < 0x80 then [value.toUInt8] else WriteVarint32FallbackToArray value

def WriteTagToArray (value : Nat) : Bytes :=
  if value < 1 <<< 7 then
    [value.toUInt8]
  else if value < 1 <<< 14 then
    [(value ||| 0x80).toUInt8, (value >>> 7).toUInt8]
  else
    WriteVarint32FallbackToArray value

def VarintSize32 (value : Nat) : Nat :=
  if value < 1 <<< 7 then 1
  else if value < 1 <<< 14 then 2
  else if value < 1 <<< 21 then 3
  else if value < 1 <<< 28 then 4
  else 5

/-- `WriteVarint64ToArrayInline` with the size that its comparisons choose. -/
def WriteVarint64ToArray (value : Nat) : Bytes :=
  let part0 := value % 2 ^ 32
  let part1 := (value >>> 28) % 2 ^ 32
  let part2 := (value >>> 56) % 2 ^ 32
  let size :=
    if part2 = 0 then
      if part1 = 0 then
        if part0 < 1 <<< 14 then (if part0 < 1 <<< 7 then 1 else 2)
        else (if part0 < 1 <<< 21 then 3 else 4)
      else
        if part1 < 1 <<< 14 then (if part1 < 1 <<< 7 then 5 else 6)
        else (if part1 < 1 <<< 21 then 7 else 8)
    else (if part2 < 1 <<< 7 then 9 else 10)
  let target : Bytes :=
    [part0 ||| 0x80, part0 >>> 7 ||| 0x80, part0 >>> 14 ||| 0x80, part0 >>> 21 ||| 0x80,
      part1 ||| 0x80, part1 >>> 7 ||| 0x80, part1 >>> 14 ||| 0x80, part1 >>> 21 ||| 0x80,
      part2 ||| 0x80, part2 >>> 7 ||| 0x80].map Nat.toUInt8
  (target.take size).modify (size - 1) (· &&& 0x7F)

/-- `WriteVarint64`; `buffer_size` is the room in the buffer of the stream. -/
def WriteVarint64 (buffer_size value : Nat) : Bytes :=
  if kMaxVarintBytes ≤ buffer_size then WriteVarint64ToArray value
  else composeBytes kMaxVarintBytes value

def VarintSize64 (value : Nat) : Nat :=
  if value < 1 <<< 35 then
    if value < 1 <<< 7 then 1
    else if value < 1 <<< 14 then 2
    else if value < 1 <<< 21 then 3
    else if value < 1 <<< 28 then 4
    else 5
  else if value < 1 <<< 42 then 6
  else if value < 1 <<< 49 then 7
  else if value < 1 <<< 56 then 8
  else if value < 1 <<< 63 then 9
  else 10

/-- An `int` as the `uint64` that it is cast to. -/
def signExtended (value : Int) : Nat := (value % 2 ^ 64).toNat

def WriteVarint32SignExtended (buffer_size : Nat) (value : Int) : Bytes :=
  if value < 0 then WriteVarint64 buffer_size (signExtended value)
  else WriteVarint32 buffer_size value.toNat

def WriteVarint32SignExtendedToArray (value : Int) : Bytes :=
  if value < 0 then WriteVarint64ToArray (signExtended value) else WriteVarint32ToArray value.toNat

def VarintSize32SignExtended (value : Int) : Nat := if value < 0 then 10 else VarintSize32 value.toNat

/-- `WriteStringWithSizeToArray`. -/
def WriteStringWithSizeToArray (str : Bytes) : Bytes := WriteVarint32ToArray str.length ++ str

/-- `WriteLittleEndian32` and `WriteLittleEndian64` by their number of bytes. -/
def WriteLittleEndian : Nat → Nat → Bytes
  | 0, _ => []
  | width + 1, value => value.toUInt8 :: WriteLittleEndian width (value >>> 8)

end TalkSystem.Protocol
