import TalkSystem.Machine.Base128
import TalkSystem.Protocol.WireFormat

/-!
# The grammar of the wire format

Which bytes stand for which fields, as a relation: a number may have superfluous
digits, a tag may have bits above the 32nd, and a group ends with the tag of its own
number.
-/

set_option autoImplicit false

namespace TalkSystem.Protocol

open WireFormatLite

/-- The bytes are the digits of a number that is cut to the modulus. -/
def Digits (modulus : Nat) (bytes : Bytes) (value : Nat) : Prop :=
  ∃ digits, Base128.decode kMaxVarintBytes bytes = some (digits, []) ∧ digits % modulus = value

def littleEndian (bytes : Bytes) : Nat := bytes.foldr (fun b value => b.toNat + 256 * value) 0

/-- What stands behind a tag that is not of a group. -/
inductive Payload (number : Nat) : WireType → Bytes → UnknownField → Prop where
  | varint {bytes : Bytes} {value : Nat} :
      Digits (2 ^ 64) bytes value → Payload number .VARINT bytes (.varint number value)
  | fixed64 {bytes : Bytes} :
      bytes.length = 8 → Payload number .FIXED64 bytes (.fixed64 number (littleEndian bytes))
  | length_delimited {size data : Bytes} :
      Digits (2 ^ 32) size data.length → data.length < 2 ^ 31 →
      Payload number .LENGTH_DELIMITED (size ++ data) (.length_delimited number data)
  | fixed32 {bytes : Bytes} :
      bytes.length = 4 → Payload number .FIXED32 bytes (.fixed32 number (littleEndian bytes))

/-- The bytes hold the fields, with groups in groups to so many levels. -/
inductive Encodes : Nat → Bytes → UnknownFieldSet → Prop where
  | nil {levels : Nat} : Encodes levels [] []
  | field {levels tag : Nat} {type : WireType} {start payload rest : Bytes}
      {field : UnknownField} {later : UnknownFieldSet} :
      Digits (2 ^ 32) start tag → tag ≠ 0 → GetTagWireType tag = some type →
      Payload (GetTagFieldNumber tag) type payload field → Encodes levels rest later →
      Encodes levels (start ++ (payload ++ rest)) (field :: later)
  | group {levels tag : Nat} {start inner stop rest : Bytes} {group later : UnknownFieldSet} :
      Digits (2 ^ 32) start tag → GetTagWireType tag = some .START_GROUP →
      Encodes levels inner group → Digits (2 ^ 32) stop (MakeTag (GetTagFieldNumber tag) .END_GROUP) →
      Encodes (levels + 1) rest later →
      Encodes (levels + 1) (start ++ (inner ++ (stop ++ rest)))
        (.group (GetTagFieldNumber tag) group :: later)

mutual

/-- A field that can be on the wire, with groups in groups to so many levels. -/
def UnknownField.Sound (levels : Nat) : UnknownField → Prop
  | .varint number value => 0 < number ∧ number < 2 ^ 29 ∧ value < 2 ^ 64
  | .fixed32 number value => number < 2 ^ 29 ∧ value < 2 ^ 32
  | .fixed64 number value => number < 2 ^ 29 ∧ value < 2 ^ 64
  | .length_delimited number data => number < 2 ^ 29 ∧ data.length < 2 ^ 31
  | .group number group => number < 2 ^ 29 ∧ 0 < levels ∧ UnknownFieldSet.Sound (levels - 1) group
termination_by structural field => field

def UnknownFieldSet.Sound (levels : Nat) : UnknownFieldSet → Prop
  | [] => True
  | field :: later => field.Sound levels ∧ UnknownFieldSet.Sound levels later
termination_by structural set => set

end

theorem Encodes.append {levels : Nat} {bytes rest : Bytes} {fields later : UnknownFieldSet}
    (first : Encodes levels bytes fields) (second : Encodes levels rest later) :
    Encodes levels (bytes ++ rest) (fields ++ later) := by
  induction first with
  | nil => exact second
  | field start tag type payload _ ih =>
      rw [List.append_assoc, List.append_assoc]
      exact .field start tag type payload (ih second)
  | group start type inner stop _ _ ih =>
      rw [List.append_assoc, List.append_assoc, List.append_assoc]
      exact .group start type inner stop (ih second)

end TalkSystem.Protocol
