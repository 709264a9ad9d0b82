import TalkSystem.Protocol.GeneratedMessageProperties

/-!
# What merging comes to

A field of a message has the last value for it on the wire, and what gives no value
is kept in order. Merging after merging is merging the message that was merged.
-/

set_option autoImplicit false

namespace TalkSystem.Protocol

open WireFormatLite

namespace Message

variable {type : MessageType}

theorem ext {first second : Message type} (value : ∀ i, first.value i = second.value i)
    (unknown : first.unknown_fields = second.unknown_fields) : first = second := by
  cases first
  cases second
  exact congr (congrArg mk (funext value)) unknown

theorem mergeField_unknown (message : Message type) (field : UnknownField) :
    (message.mergeField field).unknown_fields =
      message.unknown_fields ++ (type.keep field).toList := by
  rw [mergeField, MessageType.keep]
  split
  · rfl
  · split
    · rfl
    · rfl
    · exact (List.append_nil _).symm

theorem mergeField_value (message : Message type) (field : UnknownField) (i : type.Index) :
    (message.mergeField field).value i = ((type.field i).valueOf field).or (message.value i) := by
  rw [mergeField, Field.valueOf]
  split
  case h_1 missing =>
    rw [if_neg, Option.none_or]
    · rfl
    · intro own
      rw [own, type.find_field] at missing
      cases missing
  case h_2 j found =>
    have number := type.field_of_find found
    by_cases same : i = j
    · subst same
      rw [if_pos number.symm]
      split
      case h_1 other =>
        rw [other]
        rfl
      case h_2 value invalid =>
        rw [invalid]
        rfl
      case h_3 value valid =>
        rw [valid]
        exact Function.update_self ..
    · have other : field.number ≠ (type.field i).number := by
        rw [← number]
        exact fun own => same (type.number_injective own).symm
      rw [if_neg other, Option.none_or]
      split
      · rfl
      · rfl
      · exact Function.update_of_ne same ..

theorem mergeFields_unknown (message : Message type) (fields : UnknownFieldSet) :
    (message.mergeFields fields).unknown_fields =
      message.unknown_fields ++ fields.filterMap type.keep := by
  induction fields generalizing message with
  | nil => exact (List.append_nil _).symm
  | cons field later ih =>
      have first := ih (message.mergeField field)
      rw [mergeField_unknown, List.append_assoc] at first
      rw [mergeFields, List.foldl_cons, ← mergeFields, first, List.filterMap_cons]
      cases type.keep field <;> rfl

theorem mergeFields_value (message : Message type) (fields : UnknownFieldSet) (i : type.Index) :
    (message.mergeFields fields).value i =
      ((fields.filterMap (type.field i).valueOf).getLast?).or (message.value i) := by
  induction fields generalizing message with
  | nil => rfl
  | cons field later ih =>
      have first := ih (message.mergeField field)
      rw [mergeField_value] at first
      rw [mergeFields, List.foldl_cons, ← mergeFields, first, List.filterMap_cons]
      cases (type.field i).valueOf field with
      | none => rfl
      | some value =>
          dsimp only
          rw [List.getLast?_cons]
          cases (later.filterMap (type.field i).valueOf).getLast? <;> rfl

theorem mergeFields_append (message : Message type) (fields later : UnknownFieldSet) :
    message.mergeFields (fields ++ later) = (message.mergeFields fields).mergeFields later :=
  List.foldl_append

/-- Merging fields is merging the message that they make. -/
theorem mergeFields_eq_MergeFrom (message : Message type) (fields : UnknownFieldSet) :
    message.mergeFields fields = message.MergeFrom (Clear.mergeFields fields) := by
  refine ext (fun i => ?_) ?_
  · rw [mergeFields_value, MergeFrom]
    dsimp only
    rw [mergeFields_value Clear]
    exact congrArg (Option.or · _) Option.or_none.symm
  · rw [mergeFields_unknown, MergeFrom, mergeFields_unknown Clear]
    rfl

end Message

/-! ## Accepted arrays -/

open CodedInputStream WireFormat

/-- After a message the end of the array is known exactly where nothing is left. -/
theorem legitimate_message_end_iff {data ending : Bytes}
    (small : data.length ≤ kDefaultTotalBytesLimit) :
    ((CodedInputStream.new data).withRest ending).plainTag.1.legitimate_message_end = true ↔
      ending = [] := by
  have fallback : ((CodedInputStream.new data).withRest ending).plainTag.1.legitimate_message_end =
      ((CodedInputStream.new data).withRest ending).fallbackTag.1.legitimate_message_end := rfl
  rw [fallback, fallbackTag]
  by_cases ends : ending = []
  · have shown : decide (data.length ≤ kDefaultTotalBytesLimit) = true := decide_eq_true small
    rw [if_pos (show ((CodedInputStream.new data).withRest ending).buffer = [] from ends)]
    exact iff_of_true shown ends
  · rw [if_neg (show ((CodedInputStream.new data).withRest ending).buffer ≠ [] from ends)]
    refine iff_of_false ?_ ends
    cases readDigits (2 ^ 32) ((CodedInputStream.new data).withRest ending).buffer <;>
      exact Bool.false_ne_true

theorem stops_at_end (data : Bytes) : Stops ((CodedInputStream.new data).withRest []) := by
  have ends : ((CodedInputStream.new data).withRest []).fallbackTag.2 = 0 := by
    rw [fallbackTag, if_pos (show ((CodedInputStream.new data).withRest []).buffer = [] from rfl)]
  exact .inl ends

namespace Message

variable {type : MessageType}

/-- Exactly the arrays of the grammar are accepted, and their fields are merged. -/
theorem ParsePartialFromArray_iff {data : Bytes} {message : Message type}
    (small : data.length ≤ kDefaultTotalBytesLimit) :
    ParsePartialFromArray data = some message ↔
      ∃ fields, Encodes default_recursion_limit data fields ∧
        message = Clear.mergeFields fields := by
  rw [ParsePartialFromArray, MergePartialFromCodedStream_eq Clear (Nat.zero_le _) small, mergeMessage]
  constructor
  · intro parsed
    cases read : SkipMessage ((CodedInputStream.new data).buffer.length + 1)
        (CodedInputStream.new data) with
    | none =>
        rw [read] at parsed
        cases parsed
    | some found =>
        obtain ⟨fields, out⟩ := found
        obtain ⟨bytes, ending, split, encodes, -, rfl⟩ := encodes_of_SkipMessage read (Nat.zero_add _)
        rw [read, Option.map_some] at parsed
        dsimp only at parsed
        split at parsed
        case isTrue legitimate =>
          cases parsed
          rw [(legitimate_message_end_iff small).mp legitimate, List.append_nil] at split
          cases (show data = bytes from split)
          exact ⟨fields, encodes, rfl⟩
        case isFalse => cases parsed
  · rintro ⟨fields, encodes, rfl⟩
    have read : SkipMessage ((CodedInputStream.new data).buffer.length + 1)
        (CodedInputStream.new data) =
          some (fields, ((CodedInputStream.new data).withRest []).plainTag.1) :=
      SkipMessage_of_encodes encodes (List.append_nil data).symm (Nat.zero_add _)
        (stops_at_end data) (Nat.lt_succ_self _)
    rw [read, Option.map_some]
    exact if_pos ((legitimate_message_end_iff small).mpr rfl)

/-- The last valid value for a field on the wire counts, and what is no value of a field is kept in
its order. -/
theorem parsed_message_iff {data : Bytes} {message : Message type}
    (small : data.length ≤ kDefaultTotalBytesLimit) :
    ParsePartialFromArray data = some message ↔
      ∃ fields, Encodes default_recursion_limit data fields ∧
        (∀ i, message.value i = (fields.filterMap (type.field i).valueOf).getLast?) ∧
        message.unknown_fields = fields.filterMap type.keep := by
  rw [ParsePartialFromArray_iff small]
  refine exists_congr fun fields => and_congr_right fun _ => ⟨?_, fun parts => ext (fun i => ?_) ?_⟩
  · rintro rfl
    refine ⟨fun i => ?_, mergeFields_unknown Clear fields⟩
    rw [mergeFields_value]
    exact Option.or_none
  · rw [mergeFields_value, parts.1 i]
    exact Option.or_none.symm
  · rw [mergeFields_unknown, parts.2]
    rfl

theorem parsed_message_iff_twice :
    ∃ fields, Encodes default_recursion_limit [16, 1, 40, 9, 16, 2] fields ∧
      (fields.filterMap (IpAddr.field (1 : Fin 2)).valueOf).getLast? = some (2 : UInt32) ∧
      fields.filterMap IpAddr.keep = [.varint 5 9] := by
  have parsed : @ParsePartialFromArray IpAddr [16, 1, 40, 9, 16, 2] =
    some (((@Clear IpAddr |>.set (1 : Fin 2) (1 : UInt32)).AddField (.varint 5 9)).set
      (1 : Fin 2) (2 : UInt32)) := rfl
  obtain ⟨fields, encodes, value, kept⟩ :=
    (@parsed_message_iff IpAddr [16, 1, 40, 9, 16, 2] _ (by decide)).mp parsed
  exact ⟨fields, encodes, (value (1 : Fin 2)).symm, kept.symm⟩

/-- Two messages one behind the other are the second one merged into the first. -/
theorem concatenation_merges {first second : Bytes} {message source : Message type}
    (first_parsed : ParsePartialFromArray first = some message)
    (second_parsed : ParsePartialFromArray second = some source)
    (small : (first ++ second).length ≤ kDefaultTotalBytesLimit) :
    ParsePartialFromArray (first ++ second) = some (message.MergeFrom source) := by
  have sizes : first.length + second.length ≤ kDefaultTotalBytesLimit := by
    rwa [← List.length_append]
  obtain ⟨fields, encodes, rfl⟩ := (ParsePartialFromArray_iff (by omega)).mp first_parsed
  obtain ⟨later, later_encodes, rfl⟩ := (ParsePartialFromArray_iff (by omega)).mp second_parsed
  rw [ParsePartialFromArray_iff small, ← mergeFields_eq_MergeFrom, ← mergeFields_append]
  exact ⟨fields ++ later, encodes.append later_encodes, rfl⟩

theorem concatenation_merges_port :
    ∃ message, @ParsePartialFromArray IpAddr [16, 1] = some message ∧
      @ParsePartialFromArray IpAddr ([16, 1] ++ [40, 9]) =
        some (message.MergeFrom ⟨fun _ => none, [.varint 5 9]⟩) :=
  ⟨_, rfl, @concatenation_merges IpAddr [16, 1] [40, 9] _ _ rfl rfl (by decide)⟩

end Message

end TalkSystem.Protocol
