import TalkSystem.Protocol.MessageMergeProperties

/-!
# Messages written and read back

What is written for a message is its fields on the wire with the kept fields behind
them, in an array as in a stream, and takes the bytes that were counted.
-/

set_option autoImplicit false

namespace TalkSystem.Protocol

open WireFormatLite WireFormat CodedInputStream Base128

/-! ## Fields -/

namespace FieldType

/-- The field on the wire that a value is written as. -/
def wire (number : Nat) : (type : FieldType) → type.Value → UnknownField
  | .uint32, value => .varint number (UInt32.toNat value)
  | .enum _ _, value => .varint number (signExtended value.val)
  | .string, data | .bytes, data => .length_delimited number data.val

theorem signExtended_lt (value : Int) : signExtended value < 2 ^ 64 := by
  unfold signExtended
  omega

theorem signExtended_of_nonneg {value : Int} (nonneg : ¬value < 0) (high : value < 2 ^ 31) :
    signExtended value = value.toNat := by
  unfold signExtended
  omega

theorem toInt_signExtended {value : Int} (low : -2 ^ 31 ≤ value) (high : value < 2 ^ 31) :
    toInt (signExtended value) = value := by
  unfold toInt signExtended
  rw [Int.bmod_def]
  omega

theorem toInt_range (value : Nat) : -2 ^ 31 ≤ toInt value ∧ toInt value < 2 ^ 31 := by
  unfold toInt
  rw [Int.bmod_def]
  omega

theorem wire_number (type : FieldType) (number : Nat) (value : type.Value) :
    (type.wire number value).number = number := by
  cases type <;> rfl

theorem take_wire (type : FieldType) (number : Nat) (value : type.Value) :
    type.take (type.wire number value) = some (.inr value) := by
  cases type with
  | uint32 =>
      have same : (UInt32.toNat value).toUInt32 = value := UInt32.ofNat_toNat
      rw [wire, take, same]
  | enum values ints =>
      obtain ⟨low, high⟩ := ints value.val value.property
      have same := toInt_signExtended low high
      have valid : toInt (signExtended value.val) ∈ values := by
        rw [same]
        exact value.property
      rw [wire, take, dif_pos valid]
      generalize toInt (signExtended value.val) = read at same valid ⊢
      subst same
      rfl
  | string | bytes =>
      rw [wire, take, dif_pos value.property]
      rfl

/-- A value in front of other fields. -/
theorem encodes_value {levels number : Nat} {rest : Bytes} {later : UnknownFieldSet}
    (type : FieldType) (positive : 0 < number) (small : number < 2 ^ 29) (value : type.Value)
    (behind : Encodes levels rest later) :
    Encodes levels (type.writeToArray number value ++ rest) (type.wire number value :: later) := by
  cases type with
  | uint32 =>
      have fits : UInt32.toNat value < 2 ^ 32 := UInt32.toNat_lt value
      have digits : Digits (2 ^ 64) (WriteVarint32ToArray (UInt32.toNat value))
          (UInt32.toNat value) := by
        rw [WriteVarint32ToArray_eq fits]
        exact digits_of_encode (by decide) (Nat.lt_trans fits (by decide))
          (Nat.lt_trans fits (by decide))
      exact encodes_payload small (.inl positive) (.varint digits) behind
  | enum values ints =>
      obtain ⟨low, high⟩ := ints value.val value.property
      have digits : Digits (2 ^ 64) (WriteVarint32SignExtendedToArray value.val)
          (signExtended value.val) := by
        rw [WriteVarint32SignExtendedToArray]
        split
        case isTrue => exact digits_of_varint64 (signExtended_lt _)
        case isFalse nonneg =>
          have fits : value.val.toNat < 2 ^ 32 := by omega
          rw [signExtended_of_nonneg nonneg high, WriteVarint32ToArray_eq fits]
          exact digits_of_encode (by decide) (Nat.lt_trans fits (by decide))
            (Nat.lt_trans fits (by decide))
      exact encodes_payload small (.inl positive) (.varint digits) behind
  | string | bytes =>
      have size := digits_of_varint32 (Nat.lt_trans value.property (by decide))
      exact encodes_payload small (.inl positive) (.length_delimited size value.property) behind

/-- The stream takes the bytes of the array. -/
theorem write_eq (output : CodedOutputStream) (number : Nat) (type : FieldType) (value : type.Value) :
    type.write output number value = output.WriteRaw (type.writeToArray number value) := by
  cases type with
  | uint32 =>
      have fits : UInt32.toNat value < 2 ^ 32 := UInt32.toNat_lt value
      rw [write, writeToArray, output.WriteTag_eq, CodedOutputStream.WriteVarint32_eq _ fits,
        output.WriteRaw_append]
  | enum values ints =>
      obtain ⟨low, high⟩ := ints value.val value.property
      rw [write, writeToArray, output.WriteTag_eq, CodedOutputStream.WriteVarint32SignExtended,
        Protocol.WriteVarint32SignExtended, WriteVarint32SignExtendedToArray]
      split
      case isTrue =>
        have fits := signExtended_lt value.val
        rw [Protocol.WriteVarint64_eq _ fits, WriteVarint64ToArray_eq fits, output.WriteRaw_append]
      case isFalse =>
        have fits : value.val.toNat < 2 ^ 32 := by omega
        rw [Protocol.WriteVarint32_eq _ fits, WriteVarint32ToArray_eq fits, output.WriteRaw_append]
  | string | bytes =>
      rw [write, writeToArray, output.WriteTag_eq, WriteStringWithSizeToArray,
        CodedOutputStream.WriteVarint32_eq _ (Nat.lt_trans value.property (by decide)),
        output.WriteRaw_append, output.WriteRaw_append, List.append_assoc]

end FieldType

/-! ## Kept fields -/

namespace UnknownFieldSet

theorem sound_iff {levels : Nat} {fields : UnknownFieldSet} :
    UnknownFieldSet.Sound levels fields ↔ ∀ field ∈ fields, field.Sound levels := by
  induction fields with
  | nil => simp [UnknownFieldSet.Sound]
  | cons field later ih => rw [UnknownFieldSet.Sound, ih, List.forall_mem_cons]

end UnknownFieldSet

namespace MessageType

variable {type : MessageType} {field kept : UnknownField}

/-- What is kept is the field itself or an enumerator that is not valid. -/
theorem keep_cases (found : type.keep field = some kept) :
    kept = field ∨ ∃ i value, field.number = (type.field i).number ∧
      (type.field i).type.take field = some (.inl value) ∧
      kept = .varint (type.field i).number (signExtended value) := by
  rw [keep] at found
  split at found
  case h_1 => exact .inl (Option.some.inj found).symm
  case h_2 i index =>
    split at found
    case h_1 => exact .inl (Option.some.inj found).symm
    case h_2 value invalid =>
      exact .inr ⟨i, value, (type.field_of_find index).symm, invalid, (Option.some.inj found).symm⟩
    case h_3 => cases found

theorem keep_number (found : type.keep field = some kept) : kept.number = field.number := by
  obtain rfl | ⟨i, value, number, -, rfl⟩ := keep_cases found
  · rfl
  · exact number.symm

/-- An enumerator that is not valid is still not valid when it comes back. -/
theorem take_invalid {own : FieldType} {number : Nat} {value : Int}
    (invalid : own.take field = some (.inl value)) :
    own.take (.varint number (signExtended value)) = some (.inl value) := by
  cases own with
  | enum values ints =>
      cases field with
      | varint number' read =>
          rw [FieldType.take] at invalid ⊢
          split at invalid
          case isTrue => cases invalid
          case isFalse missing =>
            obtain rfl : FieldType.toInt read = value := Sum.inl.inj (Option.some.inj invalid)
            obtain ⟨low, high⟩ := FieldType.toInt_range read
            rw [FieldType.toInt_signExtended low high, dif_neg missing]
      | fixed32 | fixed64 | length_delimited | group => cases invalid
  | uint32 => cases field <;> cases invalid
  | string | bytes =>
      cases field with
      | length_delimited number' data =>
          rw [FieldType.take] at invalid
          split at invalid <;> cases invalid
      | varint | fixed32 | fixed64 | group => cases invalid

theorem keep_kept (found : type.keep field = some kept) : type.keep kept = some kept := by
  obtain rfl | ⟨i, value, number, invalid, rfl⟩ := keep_cases found
  · exact found
  · rw [keep, show (UnknownField.varint (type.field i).number (signExtended value)).number =
        (type.field i).number from rfl, type.find_field]
    dsimp only
    rw [take_invalid invalid]

theorem valueOf_kept (kept : type.keep field = some field) (i : type.Index) :
    (type.field i).valueOf field = none := by
  rw [Field.valueOf]
  split
  case isTrue own =>
    rw [keep, own, type.find_field] at kept
    dsimp only at kept
    split at kept
    case h_1 other => rw [other, Option.bind_none]
    case h_2 value invalid => rw [invalid, Option.bind_some]; rfl
    case h_3 => cases kept
  case isFalse => rfl

end MessageType

/-! ## Messages -/

namespace Message

variable {type : MessageType} (message : Message type)

/-- The values on the wire, in the order of the class. -/
def wireFields : UnknownFieldSet :=
  (List.finRange type.fields.length).filterMap fun i =>
    (message.value i).map ((type.field i).type.wire (type.field i).number)

theorem encodes_values (levels : Nat) (indexes : List type.Index) {rest : Bytes}
    {later : UnknownFieldSet} (behind : Encodes levels rest later) :
    Encodes levels
      ((indexes.flatMap fun i =>
        (message.value i).elim [] ((type.field i).type.writeToArray (type.field i).number)) ++ rest)
      ((indexes.filterMap fun i =>
        (message.value i).map ((type.field i).type.wire (type.field i).number)) ++ later) := by
  induction indexes with
  | nil => exact behind
  | cons i indexes ih =>
      obtain ⟨positive, small, -, -, -⟩ := type.literals_field i
      rw [List.flatMap_cons, List.filterMap_cons]
      cases message.value i with
      | none => exact ih
      | some value =>
          rw [Option.elim_some, List.append_assoc]
          exact (type.field i).type.encodes_value positive small value ih

/-- What is written for a message is its values and behind them what it keeps. -/
theorem encodes_message (sound : message.Sound) :
    Encodes default_recursion_limit message.SerializeWithCachedSizesToArray
      (message.wireFields ++ message.unknown_fields) :=
  message.encodes_values _ _ (encodes_unknownFields message.unknown_fields sound.wire)

theorem valueOf_wire (i j : type.Index) (value : (type.field j).type.Value) (other : i ≠ j) :
    (type.field i).valueOf ((type.field j).type.wire (type.field j).number value) = none := by
  rw [Field.valueOf, FieldType.wire_number]
  exact if_neg fun same => other (type.number_injective same.symm)

theorem valueOf_wire_self (own : Field) (value : own.type.Value) :
    own.valueOf (own.type.wire own.number value) = some value := by
  rw [Field.valueOf, FieldType.wire_number, if_pos rfl, FieldType.take_wire]
  rfl

theorem keep_wire (i : type.Index) (value : (type.field i).type.Value) :
    type.keep ((type.field i).type.wire (type.field i).number value) = none := by
  rw [MessageType.keep, FieldType.wire_number, type.find_field]
  dsimp only
  rw [FieldType.take_wire]

theorem filterMap_single {α β : Type} {members : List α} {i : α} {f : α → Option β}
    (distinct : members.Nodup) (member : i ∈ members) (others : ∀ j ∈ members, j ≠ i → f j = none) :
    members.filterMap f = (f i).toList := by
  induction members with
  | nil => cases member
  | cons j members ih =>
      obtain ⟨apart, distinct⟩ := List.nodup_cons.mp distinct
      have ⟨first, rest⟩ := List.forall_mem_cons.mp others
      rw [List.filterMap_cons]
      obtain rfl | later := List.mem_cons.mp member
      · have nothing : members.filterMap f = [] := by
          refine List.filterMap_eq_nil_iff.mpr fun j index => rest j index ?_
          rintro rfl
          exact apart index
        rw [nothing]
        cases f i <;> rfl
      · rw [first fun same => apart (same ▸ later)]
        exact ih distinct later rest

theorem filterMap_wireFields (i : type.Index) :
    message.wireFields.filterMap (type.field i).valueOf = (message.value i).toList := by
  rw [wireFields, List.filterMap_filterMap,
    filterMap_single (List.nodup_finRange _) (List.mem_finRange i)]
  · cases message.value i with
    | none => rfl
    | some value => exact congrArg Option.toList (valueOf_wire_self (type.field i) value)
  · intro j _ other
    cases message.value j with
    | none => rfl
    | some value => exact valueOf_wire i j value other.symm

theorem filterMap_written (sound : message.Sound) (i : type.Index) :
    (message.wireFields ++ message.unknown_fields).filterMap (type.field i).valueOf =
      (message.value i).toList := by
  have nothing : message.unknown_fields.filterMap (type.field i).valueOf = [] :=
    List.filterMap_eq_nil_iff.mpr fun field member =>
      MessageType.valueOf_kept (sound.kept field member) i
  rw [List.filterMap_append, filterMap_wireFields, nothing, List.append_nil]

theorem filterMap_kept (sound : message.Sound) :
    (message.wireFields ++ message.unknown_fields).filterMap type.keep = message.unknown_fields := by
  have values_taken : message.wireFields.filterMap type.keep = [] := by
    refine List.filterMap_eq_nil_iff.mpr fun field member => ?_
    obtain ⟨i, -, written⟩ := List.mem_filterMap.mp member
    obtain ⟨value, -, rfl⟩ := Option.map_eq_some_iff.mp written
    exact keep_wire i value
  have others_kept : message.unknown_fields.filterMap type.keep = message.unknown_fields := by
    rw [List.filterMap_congr sound.kept, List.filterMap_some]
  rw [List.filterMap_append, values_taken, others_kept, List.nil_append]

theorem mergeFields_written (sound : message.Sound) :
    Clear.mergeFields (message.wireFields ++ message.unknown_fields) = message := by
  refine ext (fun i => ?_) ?_
  · rw [mergeFields_value, message.filterMap_written sound]
    cases message.value i <;> rfl
  · rw [mergeFields_unknown, message.filterMap_kept sound]
    rfl

theorem mergeFields_sound {levels : Nat} {bytes : Bytes} {fields : UnknownFieldSet}
    (levels_eq : levels = default_recursion_limit) (encodes : Encodes levels bytes fields) :
    (@Clear type |>.mergeFields fields).Sound := by
  subst levels_eq
  have on_wire := UnknownFieldSet.sound_iff.mp encodes.sound
  constructor
  · rw [mergeFields_unknown, UnknownFieldSet.sound_iff]
    intro kept member
    obtain ⟨field, field_member, found⟩ := List.mem_filterMap.mp member
    obtain rfl | ⟨i, value, -, -, rfl⟩ := MessageType.keep_cases found
    · exact on_wire kept field_member
    · obtain ⟨positive, small, -, -, -⟩ := type.literals_field i
      exact ⟨positive, small, FieldType.signExtended_lt value⟩
  · rw [mergeFields_unknown]
    intro kept member
    obtain ⟨field, -, found⟩ := List.mem_filterMap.mp member
    exact MessageType.keep_kept found

theorem sound_of_parse {data : Bytes} {message : Message type}
    (small : data.length ≤ kDefaultTotalBytesLimit)
    (parsed : ParsePartialFromArray data = some message) : message.Sound := by
  obtain ⟨fields, encodes, rfl⟩ := (ParsePartialFromArray_iff small).mp parsed
  exact mergeFields_sound rfl encodes

/-! ### Sizes -/

theorem enum_size {value : Int} (low : -2 ^ 31 ≤ value) (high : value < 2 ^ 31) :
    VarintSize32SignExtended value = (WriteVarint32SignExtendedToArray value).length := by
  rw [VarintSize32SignExtended, WriteVarint32SignExtendedToArray]
  split
  case isTrue negative =>
    have fits := FieldType.signExtended_lt value
    have many : 128 ^ 9 ≤ signExtended value := by
      unfold signExtended
      omega
    have size : (encode kMaxVarintBytes (signExtended value)).length = 10 :=
      encode_length (by decide) (.inr many) (Nat.lt_trans fits (by decide))
    rw [WriteVarint64ToArray_eq fits, size]
  case isFalse => exact varint32_size (by omega)

/-- The literal of the code and the size of the value count the bytes of the field. -/
theorem size_eq (i : type.Index) (value : (type.field i).type.Value) :
    (type.field i).tag_size + (type.field i).type.size value =
      ((type.field i).type.writeToArray (type.field i).number value).length := by
  obtain ⟨-, -, tag, tag_length, -⟩ := type.literals_field i
  rw [tag_length, tag, Protocol.tag_size]
  generalize (type.field i).type = own at value ⊢
  cases own with
  | uint32 =>
      rw [FieldType.size, FieldType.writeToArray, List.length_append,
        varint32_size (UInt32.toNat_lt value)]
      rfl
  | enum values ints =>
      obtain ⟨low, high⟩ := ints value.val value.property
      rw [FieldType.size, FieldType.writeToArray, List.length_append, enum_size low high]
      rfl
  | string | bytes =>
      rw [FieldType.size, FieldType.writeToArray, List.length_append, WriteStringWithSizeToArray,
        List.length_append, varint32_size (Nat.lt_trans value.property (by decide))]
      rfl

theorem ByteSize_eq (sound : message.Sound) :
    message.ByteSize = message.SerializeWithCachedSizesToArray.length := by
  rw [ByteSize, SerializeWithCachedSizesToArray, List.length_append, List.length_flatMap,
    ComputeUnknownFieldsSize_eq _ sound.wire]
  refine congrArg (· + _) (congrArg List.sum (List.map_congr_left fun i _ => ?_))
  cases message.value i with
  | none => rfl
  | some value => exact size_eq i value

theorem foldl_write (indexes : List type.Index) (output : CodedOutputStream) :
    indexes.foldl (fun output i =>
        (message.value i).elim output ((type.field i).type.write output (type.field i).number))
        output =
      output.WriteRaw (indexes.flatMap fun i =>
        (message.value i).elim [] ((type.field i).type.writeToArray (type.field i).number)) := by
  induction indexes generalizing output with
  | nil => simp [CodedOutputStream.WriteRaw]
  | cons i indexes ih =>
      rw [List.foldl_cons, ih, List.flatMap_cons]
      cases message.value i with
      | none => rfl
      | some value =>
          rw [Option.elim_some, Option.elim_some, FieldType.write_eq, output.WriteRaw_append]

theorem SerializeWithCachedSizes_eq (sound : message.Sound) (output : CodedOutputStream) :
    message.SerializeWithCachedSizes output =
      output.WriteRaw message.SerializeWithCachedSizesToArray := by
  rw [SerializeWithCachedSizes, SerializeWithCachedSizesToArray, foldl_write,
    SerializeUnknownFields_eq _ _ sound.wire, output.WriteRaw_append]

/-! ### Round trips -/

end Message

end TalkSystem.Protocol
