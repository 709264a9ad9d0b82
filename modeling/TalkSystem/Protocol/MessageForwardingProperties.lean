import TalkSystem.Protocol.MessageRoundTripProperties

/-!
# Messages passed on by an older class

A class to which fields were added reads the same from what an older class has passed
on as from what the older class was sent.
-/

set_option autoImplicit false

namespace TalkSystem.Protocol

open WireFormatLite WireFormat CodedInputStream

namespace Field

/-- What is kept of a field on the wire that has the number of the field. -/
def keep (own : Field) (field : UnknownField) : Option UnknownField :=
  match own.type.take field with
  | none => some field
  | some (.inl value) => some (.varint own.number (signExtended value))
  | some (.inr _) => none

theorem keep_written (own : Field) (value : own.type.Value) :
    own.keep (own.type.wire own.number value) = none := by
  rw [keep, FieldType.take_wire]

theorem keep_again {own : Field} {field kept : UnknownField} (number : field.number = own.number)
    (found : own.keep field = some kept) : kept.number = own.number ∧ own.keep kept = some kept := by
  have first := found
  rw [keep] at found
  split at found
  case h_1 =>
    cases found
    exact ⟨number, first⟩
  case h_2 value invalid =>
    cases found
    refine ⟨rfl, ?_⟩
    rw [keep, MessageType.take_invalid invalid]
  case h_3 => cases found

end Field

namespace MessageType

variable {older newer : MessageType}

theorem index_of_mem {own : Field} (member : own ∈ older.fields) : ∃ i, older.field i = own :=
  List.get_of_mem member

theorem same_of_number {own other : Field} (member : own ∈ newer.fields)
    (others : other ∈ newer.fields) (same : own.number = other.number) : own = other := by
  obtain ⟨i, rfl⟩ := index_of_mem member
  obtain ⟨j, rfl⟩ := index_of_mem others
  rw [newer.number_injective same]

theorem keep_of_unknown {field : UnknownField}
    (unknown : ∀ own ∈ older.fields, own.number ≠ field.number) :
    older.keep field = some field := by
  rw [keep]
  split
  case h_1 => rfl
  case h_2 i found =>
    exact absurd (older.field_of_find found) (unknown _ (List.get_mem older.fields i))

theorem keep_of_mem {own : Field} (member : own ∈ newer.fields) {field : UnknownField}
    (number : field.number = own.number) : newer.keep field = own.keep field := by
  obtain ⟨i, rfl⟩ := index_of_mem member
  rw [keep, number, newer.find_field, Field.keep]
  dsimp only
  cases (newer.field i).type.take field with
  | none => rfl
  | some read => cases read <;> rfl

/-- What the newer class keeps is not changed by the older one. -/
theorem keep_bind (added : older.fields ⊆ newer.fields) (field : UnknownField) :
    (older.keep field).bind newer.keep = newer.keep field := by
  by_cases known : ∃ own ∈ older.fields, own.number = field.number
  · obtain ⟨own, member, number⟩ := known
    rw [keep_of_mem member number.symm, keep_of_mem (added member) number.symm]
    cases found : own.keep field with
    | none => rfl
    | some kept =>
        obtain ⟨same, again⟩ := Field.keep_again number.symm found
        exact (keep_of_mem (added member) same).trans again
  · rw [keep_of_unknown fun own member same => known ⟨own, member, same⟩]
    rfl

/-- A field that was added takes the same from what the older class keeps. -/
theorem valueOf_bind {own : Field} (unknown : ∀ other ∈ older.fields, other.number ≠ own.number)
    (field : UnknownField) : (older.keep field).bind own.valueOf = own.valueOf field := by
  by_cases number : field.number = own.number
  · rw [keep_of_unknown fun other member => number ▸ unknown other member]
    rfl
  · have others {kept : UnknownField} (same : kept.number = field.number) :
        own.valueOf kept = none := if_neg (same ▸ number)
    rw [others rfl]
    cases found : older.keep field with
    | none => rfl
    | some kept => exact others (keep_number found)

end MessageType

namespace Message

variable {older newer : MessageType} (fields : UnknownFieldSet)

/-- What the older class writes for the fields it has read. -/
def passedOn (older : MessageType) : UnknownFieldSet :=
  (@Clear older |>.mergeFields fields).wireFields ++ fields.filterMap older.keep

theorem passedOn_eq : passedOn fields older =
    (@Clear older |>.mergeFields fields).wireFields ++
      (@Clear older |>.mergeFields fields).unknown_fields := by
  rw [passedOn, mergeFields_unknown]
  rfl

theorem valueOf_passedOn (added : older.fields ⊆ newer.fields)
    (sound : (@Clear older |>.mergeFields fields).Sound) {own : Field}
    (member : own ∈ newer.fields) :
    ((passedOn fields older).filterMap own.valueOf).getLast? =
      (fields.filterMap own.valueOf).getLast? := by
  by_cases known : own ∈ older.fields
  · obtain ⟨i, rfl⟩ := MessageType.index_of_mem known
    rw [passedOn_eq, filterMap_written _ sound, mergeFields_value]
    cases (fields.filterMap (older.field i).valueOf).getLast? <;> rfl
  · have unknown (other : Field) (others : other ∈ older.fields) : other.number ≠ own.number :=
      fun same => known (MessageType.same_of_number (added others) member same ▸ others)
    have nothing : (@Clear older |>.mergeFields fields).wireFields.filterMap own.valueOf = [] := by
      refine List.filterMap_eq_nil_iff.mpr fun field written => ?_
      obtain ⟨i, -, written⟩ := List.mem_filterMap.mp written
      obtain ⟨value, -, rfl⟩ := Option.map_eq_some_iff.mp written
      rw [Field.valueOf, FieldType.wire_number]
      exact if_neg (unknown _ (List.get_mem older.fields i))
    rw [passedOn, List.filterMap_append, nothing, List.nil_append, List.filterMap_filterMap,
      List.filterMap_congr fun field _ => MessageType.valueOf_bind unknown field]

theorem keep_passedOn (added : older.fields ⊆ newer.fields) :
    (passedOn fields older).filterMap newer.keep = fields.filterMap newer.keep := by
  have nothing : (@Clear older |>.mergeFields fields).wireFields.filterMap newer.keep = [] := by
    refine List.filterMap_eq_nil_iff.mpr fun field written => ?_
    obtain ⟨i, -, written⟩ := List.mem_filterMap.mp written
    obtain ⟨value, -, rfl⟩ := Option.map_eq_some_iff.mp written
    have member : older.field i ∈ newer.fields := added (List.get_mem older.fields i)
    rw [MessageType.keep_of_mem member (FieldType.wire_number ..), Field.keep_written]
  rw [passedOn, List.filterMap_append, nothing, List.nil_append, List.filterMap_filterMap,
    List.filterMap_congr fun field _ => MessageType.keep_bind added field]

/-- Passing a message on loses nothing that a class with more fields would have read. -/
theorem forwarded_message_parses (added : older.fields ⊆ newer.fields) {data : Bytes}
    {message : Message older} (small : data.length ≤ kDefaultTotalBytesLimit)
    (parsed : ParsePartialFromArray data = some message)
    (room : message.ByteSize ≤ kDefaultTotalBytesLimit) :
    @ParsePartialFromArray newer message.SerializeWithCachedSizesToArray =
      ParsePartialFromArray data := by
  have sound := sound_of_parse small parsed
  obtain ⟨fields, encodes, rfl⟩ := (ParsePartialFromArray_iff small).mp parsed
  rw [ByteSize_eq _ sound] at room
  have written := encodes_message _ sound
  rw [← passedOn_eq] at written
  have sent := (@ParsePartialFromArray_iff newer _ _ small).mpr ⟨fields, encodes, rfl⟩
  have passed := (@ParsePartialFromArray_iff newer _ _ room).mpr ⟨_, written, rfl⟩
  rw [sent, passed, Option.some.injEq]
  refine ext (fun i => ?_) ?_
  · rw [mergeFields_value, mergeFields_value]
    exact congrArg (Option.or · _) (valueOf_passedOn fields added sound (List.get_mem newer.fields i))
  · rw [mergeFields_unknown, mergeFields_unknown, keep_passedOn fields added]

theorem forwarded_message_parses_attach :
    ∃ message : Message IMHeartBeat, ParsePartialFromArray [40, 9, 162, 1, 1, 7] = some message ∧
      @ParsePartialFromArray IMMsgData message.SerializeWithCachedSizesToArray =
        ParsePartialFromArray [40, 9, 162, 1, 1, 7] := by
  have parsed : @ParsePartialFromArray IMHeartBeat [40, 9, 162, 1, 1, 7] =
    some ⟨fun _ => none, [.varint 5 9, .length_delimited 20 [7]]⟩ := rfl
  exact ⟨_, parsed, @forwarded_message_parses IMHeartBeat IMMsgData (List.nil_subset _)
    [40, 9, 162, 1, 1, 7] _ (by decide) parsed (by decide)⟩

end Message

end TalkSystem.Protocol
