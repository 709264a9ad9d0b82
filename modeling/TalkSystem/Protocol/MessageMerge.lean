import TalkSystem.Protocol.GeneratedMessage
import TalkSystem.Protocol.WireGrammar

/-!
# Merging wire fields into a message

What a message is for: every field on the wire either gives a field of the message
its value or is kept among the unknown fields.
-/

set_option autoImplicit false

namespace TalkSystem.Protocol

open WireFormatLite

/-- What a field of the type takes from the wire, if the wire type is its own; on the left is an
enumerator that is not valid. -/
def FieldType.take : (type : FieldType) → UnknownField → Option (Int ⊕ type.Value)
  | .uint32, .varint _ value => some (.inr value.toUInt32)
  | .enum values _, .varint _ value =>
      some (if valid : toInt value ∈ values then .inr ⟨toInt value, valid⟩ else .inl (toInt value))
  | .string, .length_delimited _ data | .bytes, .length_delimited _ data =>
      if fits : data.length < 2 ^ 31 then some (.inr ⟨data, fits⟩) else none
  | _, _ => none

/-- The value that a field on the wire gives to a field of a message. -/
def Field.valueOf (own : Field) (field : UnknownField) : Option own.type.Value :=
  if field.number = own.number then (own.type.take field).bind Sum.getRight? else none

namespace MessageType

variable (type : MessageType)

/-- What is kept of a field on the wire that gives no value. -/
def keep (field : UnknownField) : Option UnknownField :=
  match type.find field.number with
  | none => some field
  | some i =>
      match (type.field i).type.take field with
      | none => some field
      | some (.inl value) => some (.varint (type.field i).number (signExtended value))
      | some (.inr _) => none

end MessageType

namespace Message

variable {type : MessageType}

def mergeField (message : Message type) (field : UnknownField) : Message type :=
  match type.find field.number with
  | none => message.AddField field
  | some i =>
      match (type.field i).type.take field with
      | none => message.AddField field
      | some (.inl value) =>
          message.AddField (.varint (type.field i).number (signExtended value))
      | some (.inr value) => message.set i value

def mergeFields (message : Message type) (fields : UnknownFieldSet) : Message type :=
  fields.foldl mergeField message

/-- A message that can be on the wire: what it keeps is none of its fields, and is not nested too
deep. -/
structure Sound (message : Message type) : Prop where
  wire : UnknownFieldSet.Sound CodedInputStream.default_recursion_limit message.unknown_fields
  kept : ∀ field ∈ message.unknown_fields, type.keep field = some field

end Message

end TalkSystem.Protocol
