import TalkSystem.Protocol.CodedStream

/-!
# The wire format

Tags, the fields that a message does not know, and how they are read and written.
A text has fewer than `2 ^ 31` bytes.
-/

set_option autoImplicit false

namespace TalkSystem.Protocol

/-! ## Tags -/

namespace WireFormatLite

inductive WireType where
  | VARINT
  | FIXED64
  | LENGTH_DELIMITED
  | START_GROUP
  | END_GROUP
  | FIXED32
  deriving DecidableEq, Repr

def WireType.value : WireType → Nat
  | .VARINT => 0
  | .FIXED64 => 1
  | .LENGTH_DELIMITED => 2
  | .START_GROUP => 3
  | .END_GROUP => 4
  | .FIXED32 => 5

def kTagTypeBits : Nat := 3
def kTagTypeMask : Nat := (1 <<< kTagTypeBits) - 1

def MakeTag (field_number : Nat) (type : WireType) : Nat :=
  (field_number <<< kTagTypeBits ||| type.value) % 2 ^ 32

/-- There is no type for the values 6 and 7. -/
def GetTagWireType (tag : Nat) : Option WireType :=
  match tag &&& kTagTypeMask with
  | 0 => some .VARINT
  | 1 => some .FIXED64
  | 2 => some .LENGTH_DELIMITED
  | 3 => some .START_GROUP
  | 4 => some .END_GROUP
  | 5 => some .FIXED32
  | _ => none

def GetTagFieldNumber (tag : Nat) : Nat := tag >>> kTagTypeBits

/-- `ReadString` and `ReadBytes`. -/
def ReadString (buffer : Bytes) : Option (Bytes × Bytes) :=
  (ReadVarint32 buffer).bind fun length => Protocol.ReadString length.2 length.1

end WireFormatLite

open WireFormatLite

/-! ## Unknown fields -/

inductive UnknownField where
  | varint (number value : Nat)
  | fixed32 (number value : Nat)
  | fixed64 (number value : Nat)
  | length_delimited (number : Nat) (data : Bytes)
  | group (number : Nat) (group : List UnknownField)
  deriving Repr

def UnknownField.number : UnknownField → Nat
  | .varint number _ | .fixed32 number _ | .fixed64 number _ | .length_delimited number _
  | .group number _ => number

/-- The wire type of the tag in front. -/
def UnknownField.wireType : UnknownField → WireType
  | .varint _ _ => .VARINT
  | .fixed32 _ _ => .FIXED32
  | .fixed64 _ _ => .FIXED64
  | .length_delimited _ _ => .LENGTH_DELIMITED
  | .group _ _ => .START_GROUP

/-- The fields in the order in which they were added. -/
abbrev UnknownFieldSet := List UnknownField

def CodedInputStream.withRest (input : CodedInputStream) (rest : Bytes) : CodedInputStream :=
  { input with buffer := rest }

namespace WireFormat

/-! ## Reading -/

/-- The field behind a tag; `skipMessage` reads the fields of a group. -/
def SkipField (skipMessage : CodedInputStream → Option (UnknownFieldSet × CodedInputStream))
    (input : CodedInputStream) (tag : Nat) : Option (UnknownField × CodedInputStream) :=
  let number := GetTagFieldNumber tag
  match GetTagWireType tag with
  | some .VARINT =>
      (ReadVarint64 input.buffer).map fun read => (.varint number read.1, input.withRest read.2)
  | some .FIXED64 =>
      (ReadLittleEndian 8 input.buffer).map fun read => (.fixed64 number read.1, input.withRest read.2)
  | some .LENGTH_DELIMITED =>
      (WireFormatLite.ReadString input.buffer).map fun read =>
        (.length_delimited number read.1, input.withRest read.2)
  | some .START_GROUP =>
      let (input, allowed) := input.IncrementRecursionDepth
      if allowed then
        (skipMessage input).bind fun read =>
          let input := read.2.DecrementRecursionDepth
          if input.LastTagWas (MakeTag number .END_GROUP) then some (.group number read.1, input)
          else none
      else
        none
  | some .FIXED32 =>
      (ReadLittleEndian 4 input.buffer).map fun read => (.fixed32 number read.1, input.withRest read.2)
  | some .END_GROUP | none => none

/-- Every turn reads a tag, so that the bytes of the buffer bound the number of turns. -/
def SkipMessage : Nat → CodedInputStream → Option (UnknownFieldSet × CodedInputStream)
  | 0, _ => none
  | turns + 1, input =>
      let (input, tag) := input.ReadTag
      if tag = 0 ∨ GetTagWireType tag = some .END_GROUP then
        some ([], input)
      else
        (SkipField (SkipMessage turns) input tag).bind fun field =>
          (SkipMessage turns field.2).map fun later => (field.1 :: later.1, later.2)

end WireFormat

/-- `MergeFromCodedStream` of a set. -/
def UnknownFieldSet.MergeFromCodedStream (set : UnknownFieldSet) (input : CodedInputStream) :
    Option (UnknownFieldSet × CodedInputStream) :=
  match WireFormat.SkipMessage (input.buffer.length + 1) input with
  | some (other, input) =>
      if input.legitimate_message_end then some (set ++ other, input) else none
  | none => none

namespace WireFormat

/-! ## Writing -/

mutual

/-- The body of the loop of `SerializeUnknownFieldsToArray`. -/
def unknownFieldToArray : UnknownField → Bytes
  | .varint number value => WriteTagToArray (MakeTag number .VARINT) ++ WriteVarint64ToArray value
  | .fixed32 number value => WriteTagToArray (MakeTag number .FIXED32) ++ WriteLittleEndian 4 value
  | .fixed64 number value => WriteTagToArray (MakeTag number .FIXED64) ++ WriteLittleEndian 8 value
  | .length_delimited number data =>
      WriteTagToArray (MakeTag number .LENGTH_DELIMITED) ++ WriteStringWithSizeToArray data
  | .group number group =>
      WriteTagToArray (MakeTag number .START_GROUP) ++ SerializeUnknownFieldsToArray group ++
        WriteTagToArray (MakeTag number .END_GROUP)
termination_by structural field => field

def SerializeUnknownFieldsToArray : UnknownFieldSet → Bytes
  | [] => []
  | field :: later => unknownFieldToArray field ++ SerializeUnknownFieldsToArray later
termination_by structural set => set

end

end WireFormat

/-- The bytes written to a stream, whose buffer has room for `room written` more when `written`
are in it. -/
structure CodedOutputStream where
  room : Nat → Nat
  bytes : Bytes

namespace CodedOutputStream

def WriteRaw (output : CodedOutputStream) (data : Bytes) : CodedOutputStream :=
  { output with bytes := output.bytes ++ data }

def buffer_size (output : CodedOutputStream) : Nat := output.room output.bytes.length

def WriteVarint32 (output : CodedOutputStream) (value : Nat) : CodedOutputStream :=
  output.WriteRaw (Protocol.WriteVarint32 output.buffer_size value)

def WriteVarint64 (output : CodedOutputStream) (value : Nat) : CodedOutputStream :=
  output.WriteRaw (Protocol.WriteVarint64 output.buffer_size value)

def WriteVarint32SignExtended (output : CodedOutputStream) (value : Int) : CodedOutputStream :=
  output.WriteRaw (Protocol.WriteVarint32SignExtended output.buffer_size value)

def WriteLittleEndian (output : CodedOutputStream) (width value : Nat) : CodedOutputStream :=
  output.WriteRaw (Protocol.WriteLittleEndian width value)

/-- A tag is written like a number. -/
def WriteTag (output : CodedOutputStream) (field_number : Nat) (type : WireType) :
    CodedOutputStream :=
  output.WriteVarint32 (MakeTag field_number type)

end CodedOutputStream

namespace WireFormat

mutual

/-- The body of the loop of `SerializeUnknownFields`. -/
def unknownFieldTo (output : CodedOutputStream) : UnknownField → CodedOutputStream
  | .varint number value => (output.WriteTag number .VARINT).WriteVarint64 value
  | .fixed32 number value => (output.WriteTag number .FIXED32).WriteLittleEndian 4 value
  | .fixed64 number value => (output.WriteTag number .FIXED64).WriteLittleEndian 8 value
  | .length_delimited number data =>
      ((output.WriteTag number .LENGTH_DELIMITED).WriteVarint32 data.length).WriteRaw data
  | .group number group =>
      (SerializeUnknownFields (output.WriteTag number .START_GROUP) group).WriteTag number .END_GROUP
termination_by structural field => field

def SerializeUnknownFields (output : CodedOutputStream) : UnknownFieldSet → CodedOutputStream
  | [] => output
  | field :: later => SerializeUnknownFields (unknownFieldTo output field) later
termination_by structural set => set

end

mutual

/-- The body of the loop of `ComputeUnknownFieldsSize`. -/
def unknownFieldSize : UnknownField → Nat
  | .varint number value => VarintSize32 (MakeTag number .VARINT) + VarintSize64 value
  | .fixed32 number _ => VarintSize32 (MakeTag number .FIXED32) + 4
  | .fixed64 number _ => VarintSize32 (MakeTag number .FIXED64) + 8
  | .length_delimited number data =>
      VarintSize32 (MakeTag number .LENGTH_DELIMITED) + VarintSize32 data.length + data.length
  | .group number group =>
      VarintSize32 (MakeTag number .START_GROUP) + ComputeUnknownFieldsSize group +
        VarintSize32 (MakeTag number .END_GROUP)
termination_by structural field => field

def ComputeUnknownFieldsSize : UnknownFieldSet → Nat
  | [] => 0
  | field :: later => unknownFieldSize field + ComputeUnknownFieldsSize later
termination_by structural set => set

end

end WireFormat

end TalkSystem.Protocol
