import Mathlib.Data.Fintype.Defs
import Mathlib.Logic.Function.Basic
import TalkSystem.Protocol.WireFormat

/-!
# The generated message classes

What `protoc` has written for a message whose fields are numbers, enumerators and
texts: reading with its jumps from a field to the next, writing, sizes and merging.
A class is given by the literals of its code. A message has fewer than `2 ^ 31`
bytes.
-/

set_option autoImplicit false

namespace TalkSystem.Protocol

open WireFormatLite WireFormat

/-! ## Fields -/

/-- An enumeration comes with the values that its `_IsValid` accepts. -/
inductive FieldType where
  | uint32
  | enum (values : List Int) (ints : ∀ value ∈ values, -2 ^ 31 ≤ value ∧ value < 2 ^ 31)
  | string
  | bytes

namespace FieldType

def Value : FieldType → Type
  | .uint32 => UInt32
  | .enum values _ => { value : Int // value ∈ values }
  | .string | .bytes => { data : Bytes // data.length < 2 ^ 31 }

def wireType : FieldType → WireType
  | .uint32 | .enum _ _ => .VARINT
  | .string | .bytes => .LENGTH_DELIMITED

/-- `static_cast<int>` of a `uint32`. -/
def toInt (value : Nat) : Int := (value : Int).bmod (2 ^ 32)

/-- A text, whose size `ReadString` has checked to be an `int`. -/
def readText (buffer : Bytes) : Option ({ data : Bytes // data.length < 2 ^ 31 } × Bytes) :=
  (WireFormatLite.ReadString buffer).bind fun read =>
    if fits : read.1.length < 2 ^ 31 then some (⟨read.1, fits⟩, read.2) else none

/-- What is read for a field; on the left is an `int` that `_IsValid` rejects. -/
def read : (type : FieldType) → Bytes → Option ((Int ⊕ type.Value) × Bytes)
  | .uint32, buffer => (ReadVarint32 buffer).map fun read => (.inr read.1.toUInt32, read.2)
  | .enum values _, buffer =>
      (ReadVarint32 buffer).map fun read =>
        let value := toInt read.1
        (if valid : value ∈ values then .inr ⟨value, valid⟩ else .inl value, read.2)
  | .string, buffer | .bytes, buffer =>
      (readText buffer).map fun read => (.inr read.1, read.2)

/-- `WriteUInt32ToArray`, `WriteEnumToArray`, `WriteStringToArray` and `WriteBytesToArray`. -/
def writeToArray (number : Nat) : (type : FieldType) → type.Value → Bytes
  | .uint32, value =>
      WriteTagToArray (MakeTag number .VARINT) ++ WriteVarint32ToArray (UInt32.toNat value)
  | .enum _ _, value =>
      WriteTagToArray (MakeTag number .VARINT) ++ WriteVarint32SignExtendedToArray value.val
  | .string, data | .bytes, data =>
      WriteTagToArray (MakeTag number .LENGTH_DELIMITED) ++ WriteStringWithSizeToArray data.val

/-- `WriteUInt32`, `WriteEnum`, `WriteStringMaybeAliased` and `WriteBytesMaybeAliased`. -/
def write (output : CodedOutputStream) (number : Nat) : (type : FieldType) → type.Value →
    CodedOutputStream
  | .uint32, value => (output.WriteTag number .VARINT).WriteVarint32 (UInt32.toNat value)
  | .enum _ _, value => (output.WriteTag number .VARINT).WriteVarint32SignExtended value.val
  | .string, data | .bytes, data =>
      ((output.WriteTag number .LENGTH_DELIMITED).WriteVarint32 data.val.length).WriteRaw data.val

/-- `UInt32Size`, `EnumSize`, `StringSize` and `BytesSize`. -/
def size : (type : FieldType) → type.Value → Nat
  | .uint32, value => VarintSize32 (UInt32.toNat value)
  | .enum _ _, value => VarintSize32SignExtended value.val
  | .string, data | .bytes, data => VarintSize32 data.val.length + data.val.length

end FieldType

/-- `tag` is what the `switch` and `ExpectTag` compare with, `tag_size` what `ByteSize` adds. -/
structure Field where
  name : String
  number : Nat
  type : FieldType
  tag : Nat
  tag_size : Nat
  required : Bool

structure MessageType where
  name : String
  fields : List Field
  cutoff : Nat
  ascending : fields.Pairwise fun field later => field.number < later.number
  literals : ∀ field ∈ fields, 0 < field.number ∧ field.number < 2 ^ 29 ∧
    field.tag = MakeTag field.number field.type.wireType ∧
    field.tag_size = VarintSize32 field.tag ∧ field.tag ≤ cutoff

namespace MessageType

abbrev Index (type : MessageType) : Type := Fin type.fields.length

def field (type : MessageType) (i : type.Index) : Field := type.fields.get i

/-- The `case` of a field number. -/
def find (type : MessageType) (number : Nat) : Option type.Index :=
  (List.finRange type.fields.length).find? fun i => (type.field i).number = number

/-- The fields that are behind one in the `switch`. -/
def after (type : MessageType) (i : type.Index) : List type.Index :=
  (List.finRange type.fields.length).drop (i + 1)

end MessageType

/-- A value with its has-bit; without it the value is the default. -/
structure Message (type : MessageType) where
  value : (i : type.Index) → Option (type.field i).type.Value
  unknown_fields : UnknownFieldSet

/-- How a turn of the loop of `MergePartialFromCodedStream` ends. -/
inductive Turn (type : MessageType) where
  | failure
  | success (message : Message type) (input : CodedInputStream)
  | again (message : Message type) (input : CodedInputStream)

namespace Message

variable {type : MessageType}

def Clear : Message type := ⟨fun _ => none, []⟩

def set (message : Message type) (i : type.Index) (value : (type.field i).type.Value) :
    Message type :=
  { message with value := Function.update message.value i (some value) }

def AddField (message : Message type) (field : UnknownField) : Message type :=
  { message with unknown_fields := message.unknown_fields ++ [field] }

/-! ## Reading -/

/-- What stands at `parse_x`. -/
def readField (message : Message type) (input : CodedInputStream) (i : type.Index) :
    Option (Message type × CodedInputStream) :=
  ((type.field i).type.read input.buffer).map fun read =>
    (match read.1 with
      | .inl value => message.AddField (.varint (type.field i).number (signExtended value))
      | .inr value => message.set i value,
      input.withRest read.2)

/-- From `parse_x` on, with the jumps to the fields behind. -/
def parseField (message : Message type) (input : CodedInputStream) (i : type.Index) :
    List type.Index → Turn type
  | [] =>
      match message.readField input i with
      | none => .failure
      | some (message, input) =>
          match input.ExpectAtEnd with
          | some input => .success message input
          | none => .again message input
  | next :: later =>
      match message.readField input i with
      | none => .failure
      | some (message, input) =>
          match input.ExpectTag (type.field next).tag with
          | some input => parseField message input next later
          | none => .again message input

def handle_unusual (message : Message type) (input : CodedInputStream) (tag : Nat) : Turn type :=
  if tag = 0 ∨ GetTagWireType tag = some .END_GROUP then
    .success message input
  else
    match SkipField (SkipMessage (input.buffer.length + 1)) input tag with
    | none => .failure
    | some (field, input) => .again (message.AddField field) input

def parseTurn (message : Message type) (input : CodedInputStream) : Turn type :=
  let (input, tag, below) := input.ReadTagWithCutoff type.cutoff
  if below then
    match type.find (GetTagFieldNumber tag) with
    | some i =>
        if tag = (type.field i).tag then message.parseField input i (type.after i)
        else message.handle_unusual input tag
    | none => message.handle_unusual input tag
  else
    message.handle_unusual input tag

/-- Every turn reads a tag, so that the bytes of the buffer bound the number of turns. -/
def parseLoop : Nat → Message type → CodedInputStream → Option (Message type × CodedInputStream)
  | 0, _, _ => none
  | turns + 1, message, input =>
      match message.parseTurn input with
      | .failure => none
      | .success message input => some (message, input)
      | .again message input => parseLoop turns message input

def MergePartialFromCodedStream (message : Message type) (input : CodedInputStream) :
    Option (Message type × CodedInputStream) :=
  parseLoop (input.buffer.length + 1) message input

def has (message : Message type) (i : type.Index) : Bool := (message.value i).isSome

def IsInitialized (message : Message type) : Bool :=
  (List.finRange type.fields.length).all fun i => !(type.field i).required || message.has i

/-- The names of the required fields that are not there, joined by commas. -/
def InitializationErrorString (message : Message type) : String :=
  ", ".intercalate (((List.finRange type.fields.length).filter fun i =>
    (type.field i).required && !message.has i).map fun i => (type.field i).name)

def InitializationErrorMessage (action : String) (message : Message type) : String :=
  "Can't " ++ action ++ " message of type \"" ++ type.name ++
    "\" because it is missing required fields: " ++ message.InitializationErrorString

/-- `InlineParsePartialFromArray`. The message after a call that returns false is left out. -/
def ParsePartialFromArray (data : Bytes) : Option (Message type) :=
  match MergePartialFromCodedStream Clear (.new data) with
  | some (message, input) => if input.legitimate_message_end then some message else none
  | none => none

/-- `InlineParseFromArray` with the error it logs. -/
def ParseFromArray (data : Bytes) : Option (Message type) × Option String :=
  match MergePartialFromCodedStream (@Clear type) (.new data) with
  | some (message, input) =>
      if message.IsInitialized then
        (if input.legitimate_message_end then some message else none, none)
      else
        (none, some (message.InitializationErrorMessage "parse"))
  | none => (none, none)

/-! ## Merging -/

def MergeFrom (message source : Message type) : Message type where
  value i := (source.value i).or (message.value i)
  unknown_fields := message.unknown_fields ++ source.unknown_fields

/-! ## Writing -/

def SerializeWithCachedSizes (message : Message type) (output : CodedOutputStream) :
    CodedOutputStream :=
  SerializeUnknownFields
    ((List.finRange type.fields.length).foldl (fun output i =>
      (message.value i).elim output ((type.field i).type.write output (type.field i).number)) output)
    message.unknown_fields

def SerializeWithCachedSizesToArray (message : Message type) : Bytes :=
  ((List.finRange type.fields.length).flatMap fun i =>
    (message.value i).elim [] ((type.field i).type.writeToArray (type.field i).number)) ++
  SerializeUnknownFieldsToArray message.unknown_fields

def ByteSize (message : Message type) : Nat :=
  ((List.finRange type.fields.length).map fun i =>
    (message.value i).elim 0 fun value =>
      (type.field i).tag_size + (type.field i).type.size value).sum +
  ComputeUnknownFieldsSize message.unknown_fields

/-- What is written to an array; `inconsistent` is `ByteSizeConsistencyError`, before which more
than `ByteSize` bytes may have been written. -/
inductive Written (Target : Type) where
  | refused
  | inconsistent
  | done (target : Target)
  deriving DecidableEq, Repr

/-- Writing from `start` on, where `byte_size` bytes are reserved. -/
def writeReserved (message : Message type) : Written Bytes :=
  let bytes := message.SerializeWithCachedSizesToArray
  if bytes.length = message.ByteSize then .done bytes else .inconsistent

def SerializePartialToArray (message : Message type) (size : Nat) : Written Bytes :=
  if size < message.ByteSize then .refused else message.writeReserved

def AppendPartialToString (message : Message type) (output : Bytes) : Written Bytes :=
  match message.writeReserved with
  | .done bytes => .done (output ++ bytes)
  | .refused => .refused
  | .inconsistent => .inconsistent

def SerializePartialToCodedStream (message : Message type) (output : CodedOutputStream) :
    Written CodedOutputStream :=
  if message.ByteSize ≤ output.buffer_size then
    match message.writeReserved with
    | .done bytes => .done (output.WriteRaw bytes)
    | .refused => .refused
    | .inconsistent => .inconsistent
  else
    let final := message.SerializeWithCachedSizes output
    if final.bytes.length - output.bytes.length = message.ByteSize then .done final
    else .inconsistent

end Message

/-! ## The classes -/

def IpAddr : MessageType where
  name := "IM.BaseDefine.IpAddr"
  fields := [⟨"ip", 1, .string, 10, 1, true⟩, ⟨"port", 2, .uint32, 16, 1, true⟩]
  cutoff := 127
  ascending := by decide
  literals := by decide

def IMHeartBeat : MessageType where
  name := "IM.Other.IMHeartBeat"
  fields := []
  cutoff := 127
  ascending := by decide
  literals := by decide

/-- `MsgType_IsValid`. -/
def MsgType : FieldType := .enum [1, 2, 17, 18] (by decide)

def IMMsgData : MessageType where
  name := "IM.Message.IMMsgData"
  fields := [
    ⟨"from_user_id", 1, .uint32, 8, 1, true⟩,
    ⟨"to_session_id", 2, .uint32, 16, 1, true⟩,
    ⟨"msg_id", 3, .uint32, 24, 1, true⟩,
    ⟨"create_time", 4, .uint32, 32, 1, true⟩,
    ⟨"msg_type", 5, MsgType, 40, 1, true⟩,
    ⟨"msg_data", 6, .bytes, 50, 1, true⟩,
    ⟨"attach_data", 20, .bytes, 162, 2, false⟩]
  cutoff := 16383
  ascending := by decide
  literals := by decide

end TalkSystem.Protocol
