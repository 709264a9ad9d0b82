import TalkSystem.Protocol.MessageRoundTripProperties
import TalkSystem.Protocol.WirePrefixProperties

/-!
# Complete messages

A message is parsed when its required fields are on the wire, each with a value that
is valid; if not, the error names those that are missing. A part of a complete
message is not taken for one.
-/

set_option autoImplicit false

namespace TalkSystem.Protocol

open WireFormatLite WireFormat CodedInputStream

/-! ## Missing fields -/

namespace MessageType

variable (type : MessageType)

/-- The names of the required fields that no field on the wire gives a value. -/
def missing (fields : UnknownFieldSet) : List String :=
  (type.fields.filter fun own =>
    own.required && fields.all fun field => (own.valueOf field).isNone).map Field.name

theorem filter_fields (p : Field → Bool) :
    type.fields.filter p =
      ((List.finRange type.fields.length).filter fun i => p (type.field i)).map type.field := by
  have fields : (List.finRange type.fields.length).map type.field = type.fields :=
    List.map_get_finRange type.fields
  have filtered := congrArg (List.filter p) fields
  rw [List.filter_map] at filtered
  exact filtered.symm

end MessageType

namespace Message

variable {type : MessageType}

theorem has_mergeFields (fields : UnknownFieldSet) (i : type.Index) :
    (!(Clear.mergeFields fields).has i) =
      fields.all fun field => ((type.field i).valueOf field).isNone := by
  rw [has, mergeFields_value]
  induction fields with
  | nil => rfl
  | cons field later ih =>
      rw [List.filterMap_cons, List.all_cons]
      cases (type.field i).valueOf field with
      | none => exact ih
      | some value =>
          dsimp only
          rw [List.getLast?_cons]
          rfl

theorem filter_mergeFields (fields : UnknownFieldSet) :
    ((List.finRange type.fields.length).filter fun i =>
        (type.field i).required && !(Clear.mergeFields fields).has i).map
        (fun i => (type.field i).name) =
      type.missing fields := by
  rw [MessageType.missing, type.filter_fields, List.map_map]
  refine congrArg (List.map _) (List.filter_congr fun i _ => ?_)
  exact congrArg _ (has_mergeFields fields i)

theorem IsInitialized_iff (message : Message type) :
    message.IsInitialized = true ↔
      ((List.finRange type.fields.length).filter fun i =>
        (type.field i).required && !message.has i) = [] := by
  rw [IsInitialized, List.all_eq_true, List.filter_eq_nil_iff]
  refine forall₂_congr fun i _ => ?_
  cases (type.field i).required <;> cases message.has i <;> decide

theorem IsInitialized_mergeFields (fields : UnknownFieldSet) :
    (@Clear type |>.mergeFields fields).IsInitialized = true ↔ type.missing fields = [] := by
  rw [IsInitialized_iff, ← filter_mergeFields, List.map_eq_nil_iff]

theorem ParseFromArray_of_encodes {data : Bytes} {fields : UnknownFieldSet}
    (small : data.length ≤ kDefaultTotalBytesLimit)
    (encodes : Encodes default_recursion_limit data fields) :
    @ParseFromArray type data =
      if type.missing fields = [] then (some (Clear.mergeFields fields), none)
      else (none, some ("Can't parse message of type \"" ++ type.name ++
        "\" because it is missing required fields: " ++ ", ".intercalate (type.missing fields))) := by
  have parsed := (@ParsePartialFromArray_iff type data _ small).mpr ⟨fields, encodes, rfl⟩
  rw [ParsePartialFromArray] at parsed
  split at parsed
  case h_2 => cases parsed
  case h_1 message input merged =>
    rw [Option.ite_none_right_eq_some, Option.some.injEq] at parsed
    obtain ⟨ended, rfl⟩ := parsed
    have start : "Can't " ++ "parse" ++ " message of type \"" =
      "Can't parse message of type \"" := by decide
    rw [ParseFromArray, merged]
    dsimp only
    rw [if_pos ended, InitializationErrorMessage, InitializationErrorString, filter_mergeFields, start]
    by_cases complete : type.missing fields = []
    · rw [if_pos complete, if_pos ((IsInitialized_mergeFields fields).mpr complete)]
    · rw [if_neg complete, if_neg fun initialized =>
        complete ((IsInitialized_mergeFields fields).mp initialized)]

theorem ParseFromArray_partly {data : Bytes} {message : Message type}
    (parsed : (ParseFromArray data).1 = some message) :
    ParsePartialFromArray data = some message := by
  rw [ParseFromArray] at parsed
  rw [ParsePartialFromArray]
  split at parsed
  case h_2 => cases parsed
  case h_1 merged input found =>
    split at parsed
    case isTrue => exact parsed
    case isFalse => cases parsed

theorem ParseFromArray_has {data : Bytes} {message : Message type} {i : type.Index}
    (parsed : (ParseFromArray data).1 = some message) (required : (type.field i).required = true) :
    message.has i = true := by
  rw [ParseFromArray] at parsed
  split at parsed
  case h_2 => cases parsed
  case h_1 merged input found =>
    split at parsed
    case isFalse => cases parsed
    case isTrue initialized =>
      rw [Option.ite_none_right_eq_some, Option.some.injEq] at parsed
      obtain ⟨-, rfl⟩ := parsed
      have present := List.all_eq_true.mp initialized i (List.mem_finRange i)
      rwa [required, Bool.not_true, Bool.false_or] at present

/-- What is parsed, and what is logged if not. -/
theorem ParseFromArray_result {data : Bytes} (small : data.length ≤ kDefaultTotalBytesLimit) :
    (∀ fields, Encodes default_recursion_limit data fields →
      @ParseFromArray type data =
        if type.missing fields = [] then (some (Clear.mergeFields fields), none)
        else (none, some ("Can't parse message of type \"" ++ type.name ++
          "\" because it is missing required fields: " ++
          ", ".intercalate (type.missing fields)))) ∧
    ((∀ fields, ¬Encodes default_recursion_limit data fields) →
      (@ParseFromArray type data).1 = none) := by
  refine ⟨fun fields => ParseFromArray_of_encodes small, fun malformed => ?_⟩
  refine Option.eq_none_iff_forall_ne_some.mpr fun message parsed => ?_
  obtain ⟨fields, encodes, -⟩ := (ParsePartialFromArray_iff small).mp (ParseFromArray_partly parsed)
  exact malformed fields encodes

theorem ParseFromArray_result_port :
    @ParseFromArray IpAddr [16, 1] =
      (none, some ("Can't parse message of type \"IM.BaseDefine.IpAddr\" because it is missing " ++
        "required fields: ip")) := by
  have encodes : Encodes default_recursion_limit [16, 1] [.varint 2 1] :=
    @Encodes.field default_recursion_limit 16 .VARINT [16] [1] [] (.varint 2 1) []
      ⟨16, rfl, rfl⟩ (by decide) rfl (.varint ⟨1, rfl, rfl⟩) .nil
  exact ((@ParseFromArray_result IpAddr [16, 1] (by decide)).1 _ encodes).trans rfl

/-! ## Truncated messages -/

theorem wire_mem {message : Message type} {field : UnknownField}
    (member : field ∈ message.wireFields) :
    ∃ i value, message.value i = some value ∧
      field = (type.field i).type.wire (type.field i).number value := by
  obtain ⟨i, -, written⟩ := List.mem_filterMap.mp member
  obtain ⟨value, found, rfl⟩ := Option.map_eq_some_iff.mp written
  exact ⟨i, value, found, rfl⟩

theorem number_of_valueOf {own : Field} {field : UnknownField} {value : own.type.Value}
    (found : own.valueOf field = some value) : field.number = own.number := by
  rw [Field.valueOf, Option.ite_none_right_eq_some] at found
  exact found.1

theorem number_le {i last : type.Index} (before : i ≤ last) :
    (type.field i).number ≤ (type.field last).number := by
  have ascending := List.pairwise_iff_getElem.mp type.ascending
  obtain same | less := Nat.eq_or_lt_of_le before
  · rw [Fin.ext same]
  · exact Nat.le_of_lt (ascending i last i.isLt last.isLt less)

/-- The values are on the wire in the order of their numbers. -/
theorem wireFields_ascending (message : Message type) :
    message.wireFields.Pairwise fun field later => field.number < later.number := by
  have ascending := List.pairwise_iff_getElem.mp type.ascending
  refine List.Pairwise.filterMap _ (fun i j before field written later writes => ?_)
    (List.pairwise_lt_finRange _)
  obtain ⟨value, -, rfl⟩ := Option.map_eq_some_iff.mp written
  obtain ⟨value', -, rfl⟩ := Option.map_eq_some_iff.mp writes
  rw [FieldType.wire_number, FieldType.wire_number]
  exact ascending i j i.isLt j.isLt before

/-- What is parsed from the front of a message has no other values than the message. When the
message keeps nothing and the last field of its class is required, it is the whole message. -/
theorem truncated_message_agrees {message part : Message type} {data rest : Bytes}
    (sound : message.Sound) (split : message.SerializeWithCachedSizesToArray = data ++ rest)
    (small : data.length ≤ kDefaultTotalBytesLimit)
    (parsed : (ParseFromArray data).1 = some part) :
    (∀ i, part.value i = none ∨ part.value i = message.value i) ∧
      part.unknown_fields <+: message.unknown_fields ∧
      ∀ last, (∀ i, i ≤ last) → (type.field last).required = true →
        message.unknown_fields = [] → rest = [] := by
  have has := fun i => @ParseFromArray_has type data part i parsed
  obtain ⟨fields, encodes, rfl⟩ := (ParsePartialFromArray_iff small).mp (ParseFromArray_partly parsed)
  have whole := message.encodes_message sound
  rw [split] at whole
  obtain ⟨later, all, behind⟩ := encodes.front whole
  have value (i : type.Index) : (message.value i).toList =
      fields.filterMap (type.field i).valueOf ++ later.filterMap (type.field i).valueOf := by
    rw [← List.filterMap_append, ← all, message.filterMap_written sound]
  refine ⟨fun i => ?_, ?_, fun last greatest required nothing => ?_⟩
  · rw [mergeFields_value]
    have one := value i
    cases front : fields.filterMap (type.field i).valueOf with
    | nil => exact .inl rfl
    | cons found others =>
        rw [front] at one
        cases held : message.value i with
        | none =>
            rw [held] at one
            cases one
        | some value =>
            rw [held] at one
            obtain ⟨rfl, none_left⟩ := List.cons.inj one
            rw [(List.append_eq_nil_iff.mp none_left.symm).1]
            exact .inr rfl
  · rw [mergeFields_unknown, ← message.filterMap_kept sound, all, List.filterMap_append]
    exact List.prefix_append _ _
  · have present := has last required
    rw [nothing, List.append_nil] at all
    have ascending := message.wireFields_ascending
    rw [all, List.pairwise_append] at ascending
    obtain ⟨field, member, taken⟩ : ∃ field ∈ fields, (type.field last).valueOf field ≠ none := by
      by_contra! none_there
      rw [Message.has, mergeFields_value, List.filterMap_eq_nil_iff.mpr none_there] at present
      cases present
    obtain ⟨value, taken⟩ := Option.ne_none_iff_exists'.mp taken
    have none_left : later = [] := by
      refine List.eq_nil_iff_forall_not_mem.mpr fun other other_member => ?_
      have after := ascending.2.2 field member other other_member
      obtain ⟨j, written, -, rfl⟩ := wire_mem (all ▸ List.mem_append_right fields other_member)
      rw [number_of_valueOf taken, FieldType.wire_number] at after
      exact Nat.not_lt.mpr (number_le (greatest j)) after
    rw [none_left] at behind
    cases behind
    rfl

theorem truncated_message_agrees_kept :
    ∃ part : Message IpAddr, (ParseFromArray [10, 0, 16, 1]).1 = some part ∧
      (part.value (1 : Fin 2) = none ∨ part.value (1 : Fin 2) = some (1 : UInt32)) ∧
      part.unknown_fields <+: [.varint 3 1] := by
  let message : Message IpAddr := ((@Clear IpAddr |>.set (0 : Fin 2) (⟨[], by decide⟩ :
    { data : Bytes // data.length < 2 ^ 31 })).set (1 : Fin 2) (1 : UInt32)).AddField (.varint 3 1)
  have sound : message.Sound :=
    ⟨⟨⟨by decide, by decide, by decide⟩, trivial⟩,
      List.forall_mem_singleton.mpr rfl⟩
  obtain ⟨part, parsed⟩ : ∃ part, (@ParseFromArray IpAddr [10, 0, 16, 1]).1 = some part :=
    Option.isSome_iff_exists.mp (by decide)
  have agrees := @truncated_message_agrees IpAddr message part [10, 0, 16, 1] [24, 1] sound
    (by decide) (by decide) parsed
  exact ⟨part, parsed, agrees.1 (1 : Fin 2), agrees.2.1⟩

end Message

end TalkSystem.Protocol
