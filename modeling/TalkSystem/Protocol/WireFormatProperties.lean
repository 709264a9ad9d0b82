import TalkSystem.Protocol.CodedStreamProperties
import TalkSystem.Protocol.WireGrammar

/-!
# Unknown fields on the wire

`SkipMessage` accepts the grammar of the wire format and nothing else, and what is
written for unknown fields is in it.
-/

set_option autoImplicit false

namespace TalkSystem.Protocol

open Base128 WireFormatLite WireFormat

/-! ## Tags -/

namespace WireFormatLite

theorem MakeTag_eq {number : Nat} (small : number < 2 ^ 29) (type : WireType) :
    MakeTag number type = 8 * number + type.value := by
  have value_lt : type.value < 2 ^ 3 := by cases type <;> decide
  rw [MakeTag, kTagTypeBits, ← Nat.shiftLeft_add_eq_or_of_lt value_lt, Nat.shiftLeft_eq,
    Nat.mod_eq_of_lt (by omega), Nat.mul_comm]

theorem GetTagFieldNumber_lt {tag : Nat} (fits : tag < 2 ^ 32) : GetTagFieldNumber tag < 2 ^ 29 := by
  rw [GetTagFieldNumber, kTagTypeBits, Nat.shiftRight_eq_div_pow]
  omega

theorem GetTagWireType_eq {tag : Nat} {type : WireType} :
    GetTagWireType tag = some type ↔ tag % 8 = type.value := by
  have kept : tag &&& kTagTypeMask = tag % 8 := Nat.and_two_pow_sub_one_eq_mod tag 3
  have below : tag % 8 < 8 := Nat.mod_lt _ (by decide)
  rw [GetTagWireType, kept]
  generalize tag % 8 = low at below ⊢
  revert low
  cases type <;> decide

theorem GetTagWireType_MakeTag {number : Nat} (small : number < 2 ^ 29) (type : WireType) :
    GetTagWireType (MakeTag number type) = some type := by
  have value_lt : type.value < 8 := by cases type <;> decide
  rw [GetTagWireType_eq, MakeTag_eq small]
  omega

theorem GetTagFieldNumber_MakeTag {number : Nat} (small : number < 2 ^ 29) (type : WireType) :
    GetTagFieldNumber (MakeTag number type) = number := by
  have value_lt : type.value < 8 := by cases type <;> decide
  rw [GetTagFieldNumber, kTagTypeBits, Nat.shiftRight_eq_div_pow, MakeTag_eq small]
  omega

/-- A tag is made of its number and its type. -/
theorem MakeTag_GetTagFieldNumber {tag : Nat} {type : WireType} (fits : tag < 2 ^ 32)
    (known : GetTagWireType tag = some type) : MakeTag (GetTagFieldNumber tag) type = tag := by
  have low := GetTagWireType_eq.mp known
  rw [MakeTag_eq (GetTagFieldNumber_lt fits), GetTagFieldNumber, kTagTypeBits,
    Nat.shiftRight_eq_div_pow]
  omega

theorem MakeTag_lt (number : Nat) (type : WireType) : MakeTag number type < 2 ^ 32 :=
  Nat.mod_lt _ (by decide)

end WireFormatLite

/-! ## Digits -/

section Digits

variable {modulus value : Nat} {bytes rest : Bytes}

theorem readDigits_of_digits (digits : Digits modulus bytes value) :
    readDigits modulus (bytes ++ rest) = some (value, rest) := by
  obtain ⟨number, found, rfl⟩ := digits
  rw [readDigits, decode_append found, List.nil_append, Option.map_some]

theorem digits_of_readDigits (read : readDigits modulus bytes = some (value, rest)) :
    ∃ before, bytes = before ++ rest ∧ Digits modulus before value := by
  obtain ⟨⟨number, left⟩, found, same⟩ := Option.map_eq_some_iff.mp read
  cases same
  obtain ⟨before, split, alone⟩ := decode_split found
  exact ⟨before, split, number, alone, rfl⟩

theorem Digits.lt (digits : Digits (modulus + 1) bytes value) : value < modulus + 1 := by
  obtain ⟨number, -, rfl⟩ := digits
  exact Nat.mod_lt _ (Nat.succ_pos _)

theorem Digits.ne_nil (digits : Digits modulus bytes value) : 0 < bytes.length := by
  obtain ⟨number, found, -⟩ := digits
  exact Nat.zero_lt_of_lt (decode_shorter found)

end Digits

namespace CodedInputStream

variable {input : CodedInputStream}

theorem plainTag_of_digits {start rest : Bytes} {tag : Nat} (bytes : input.buffer = start ++ rest)
    (digits : Digits (2 ^ 32) start tag) :
    input.plainTag = ({ input with buffer := rest, last_tag := tag }, tag) := by
  have some_bytes : input.buffer ≠ [] := by
    rw [bytes]
    exact List.append_ne_nil_of_left_ne_nil (List.ne_nil_of_length_pos digits.ne_nil) rest
  rw [plainTag, fallbackTag, if_neg some_bytes, bytes, readDigits_of_digits digits]
  rfl

theorem digits_of_plainTag (some_tag : input.plainTag.2 ≠ 0) :
    ∃ start rest tag, input.buffer = start ++ rest ∧ Digits (2 ^ 32) start tag ∧
      input.plainTag = ({ input with buffer := rest, last_tag := tag }, tag) := by
  have same : input.plainTag.2 = input.fallbackTag.2 := rfl
  cases read : readDigits (2 ^ 32) input.buffer with
  | none =>
      rw [same, fallbackTag, read] at some_tag
      split at some_tag <;> exact absurd rfl some_tag
  | some found =>
      obtain ⟨start, bytes, digits⟩ := digits_of_readDigits read
      exact ⟨start, found.2, found.1, bytes, digits, plainTag_of_digits bytes digits⟩

end CodedInputStream

/-! ## Payloads -/

section Payload

variable {skip : CodedInputStream → Option (UnknownFieldSet × CodedInputStream)}
  {input out : CodedInputStream} {tag : Nat} {type : WireType} {payload rest : Bytes}
  {field : UnknownField}

theorem ReadString_of_digits {size data : Bytes} (digits : Digits (2 ^ 32) size data.length)
    (small : data.length < 2 ^ 31) :
    WireFormatLite.ReadString (size ++ (data ++ rest)) = some (data, rest) := by
  rw [WireFormatLite.ReadString, ReadVarint32_eq, readDigits_of_digits digits, Option.bind_some,
    Protocol.ReadString, if_pos ⟨small, by simp⟩, List.take_left' rfl, List.drop_left' rfl]

theorem digits_of_ReadString {buffer data : Bytes}
    (read : WireFormatLite.ReadString buffer = some (data, rest)) :
    ∃ size, buffer = size ++ (data ++ rest) ∧ Digits (2 ^ 32) size data.length ∧
      data.length < 2 ^ 31 := by
  rw [WireFormatLite.ReadString, ReadVarint32_eq] at read
  obtain ⟨⟨length, left⟩, counted, taken⟩ := Option.bind_eq_some_iff.mp read
  obtain ⟨size, rfl, digits⟩ := digits_of_readDigits counted
  rw [Protocol.ReadString] at taken
  split at taken
  case isTrue fits =>
    cases taken
    have length_eq : (left.take length).length = length := List.length_take_of_le fits.2
    have small : (left.take length).length < 2 ^ 31 := by
      rw [length_eq]
      exact fits.1
    exact ⟨size, by rw [List.take_append_drop], by rwa [length_eq], small⟩
  case isFalse => cases taken

theorem ReadLittleEndian_of_length {width : Nat} (length : payload.length = width) :
    ReadLittleEndian width (payload ++ rest) = some (littleEndian payload, rest) := by
  rw [ReadLittleEndian, if_pos (by simp [length]), List.take_left' length, List.drop_left' length]
  rfl

theorem length_of_ReadLittleEndian {width value : Nat} {buffer : Bytes}
    (read : ReadLittleEndian width buffer = some (value, rest)) :
    ∃ bytes, buffer = bytes ++ rest ∧ bytes.length = width ∧ value = littleEndian bytes := by
  rw [ReadLittleEndian] at read
  split at read
  case isTrue fits =>
    cases read
    exact ⟨buffer.take width, (List.take_append_drop width buffer).symm,
      List.length_take_of_le fits, rfl⟩
  case isFalse => cases read

theorem SkipField_of_payload (known : GetTagWireType tag = some type)
    (encodes : Payload (GetTagFieldNumber tag) type payload field)
    (bytes : input.buffer = payload ++ rest) :
    SkipField skip input tag = some (field, input.withRest rest) := by
  rw [SkipField, known, bytes]
  dsimp only
  cases encodes with
  | varint digits => rw [ReadVarint64_eq, readDigits_of_digits digits, Option.map_some]
  | fixed64 length => rw [ReadLittleEndian_of_length length, Option.map_some]
  | length_delimited digits small =>
      rw [List.append_assoc, ReadString_of_digits digits small, Option.map_some]
  | fixed32 length => rw [ReadLittleEndian_of_length length, Option.map_some]

/-- A field that is no group takes the bytes of its payload. -/
theorem payload_of_SkipField (read : SkipField skip input tag = some (field, out))
    (single : GetTagWireType tag ≠ some .START_GROUP) :
    ∃ type payload rest, GetTagWireType tag = some type ∧ input.buffer = payload ++ rest ∧
      Payload (GetTagFieldNumber tag) type payload field ∧ out = input.withRest rest := by
  rw [SkipField] at read
  cases known : GetTagWireType tag with
  | none =>
      rw [known] at read
      cases read
  | some type =>
      rw [known] at read
      cases type with
      | VARINT =>
          rw [ReadVarint64_eq] at read
          obtain ⟨⟨value, rest⟩, found, same⟩ := Option.map_eq_some_iff.mp read
          cases same
          obtain ⟨payload, bytes, digits⟩ := digits_of_readDigits found
          exact ⟨_, payload, rest, rfl, bytes, .varint digits, rfl⟩
      | FIXED64 =>
          obtain ⟨⟨value, rest⟩, found, same⟩ := Option.map_eq_some_iff.mp read
          cases same
          obtain ⟨payload, bytes, length, rfl⟩ := length_of_ReadLittleEndian found
          exact ⟨_, payload, rest, rfl, bytes, .fixed64 length, rfl⟩
      | LENGTH_DELIMITED =>
          obtain ⟨⟨data, rest⟩, found, same⟩ := Option.map_eq_some_iff.mp read
          cases same
          obtain ⟨size, bytes, digits, small⟩ := digits_of_ReadString found
          exact ⟨_, size ++ data, rest, rfl, by rw [bytes, List.append_assoc],
            .length_delimited digits small, rfl⟩
      | START_GROUP => exact absurd known single
      | END_GROUP => cases read
      | FIXED32 =>
          obtain ⟨⟨value, rest⟩, found, same⟩ := Option.map_eq_some_iff.mp read
          cases same
          obtain ⟨payload, bytes, length, rfl⟩ := length_of_ReadLittleEndian found
          exact ⟨_, payload, rest, rfl, bytes, .fixed32 length, rfl⟩

end Payload

/-! ## Messages -/

section Message

open CodedInputStream

/-- A message ends here: there is no tag, or one that ends a group. -/
def Stops (input : CodedInputStream) : Prop :=
  input.plainTag.2 = 0 ∨ GetTagWireType input.plainTag.2 = some .END_GROUP

variable {levels turns : Nat} {bytes ending : Bytes} {fields : UnknownFieldSet}
  {input out : CodedInputStream}

theorem plainTag_withRest (input : CodedInputStream) (rest : Bytes) (tag : Nat) :
    (CodedInputStream.withRest { input with buffer := rest, last_tag := tag } ending).plainTag =
      (input.withRest ending).plainTag :=
  plainTag_withTag (input.withRest ending) tag

theorem stops_withTag {rest : Bytes} {tag : Nat} :
    Stops (CodedInputStream.withRest { input with buffer := rest, last_tag := tag } ending) ↔
      Stops (input.withRest ending) := by
  rw [Stops, plainTag_withRest]
  exact Iff.rfl

theorem SkipField_group {skip : CodedInputStream → Option (UnknownFieldSet × CodedInputStream)}
    {tag : Nat} (known : GetTagWireType tag = some .START_GROUP)
    (allowed : input.recursion_depth < default_recursion_limit) :
    SkipField skip input tag =
      (skip { input with recursion_depth := input.recursion_depth + 1 }).bind fun read =>
        if read.2.last_tag = MakeTag (GetTagFieldNumber tag) .END_GROUP then
          some (.group (GetTagFieldNumber tag) read.1, read.2.DecrementRecursionDepth)
        else
          none := by
  rw [SkipField, known]
  dsimp only
  rw [IncrementRecursionDepth, decide_eq_true (Nat.succ_le_of_lt allowed), if_pos rfl]
  refine congrArg (Option.bind _) (funext fun read => ?_)
  rw [LastTagWas, DecrementRecursionDepth]
  simp only [decide_eq_true_eq]

theorem SkipField_deep {skip : CodedInputStream → Option (UnknownFieldSet × CodedInputStream)}
    {tag : Nat} (known : GetTagWireType tag = some .START_GROUP)
    (deep : ¬input.recursion_depth < default_recursion_limit) : SkipField skip input tag = none := by
  rw [SkipField, known]
  dsimp only
  rw [IncrementRecursionDepth, decide_eq_false (by omega)]
  rfl

theorem SkipMessage_stop (stops : Stops input) :
    SkipMessage (turns + 1) input = some ([], input.plainTag.1) := by
  rw [SkipMessage, ReadTag_eq]
  exact if_pos stops

theorem SkipMessage_step {next : CodedInputStream} {tag : Nat} (plain : input.plainTag = (next, tag))
    (some_tag : tag ≠ 0) (inside : GetTagWireType tag ≠ some .END_GROUP) :
    SkipMessage (turns + 1) input =
      (SkipField (SkipMessage turns) next tag).bind fun field =>
        (SkipMessage turns field.2).map fun later => (field.1 :: later.1, later.2) := by
  rw [SkipMessage, ReadTag_eq, plain]
  exact if_neg (not_or.mpr ⟨some_tag, inside⟩)

theorem Payload.type_ne {number : Nat} {type : WireType} {payload : Bytes} {field : UnknownField}
    (encodes : Payload number type payload field) : type ≠ .END_GROUP := by
  cases encodes <;> decide

theorem SkipMessage_of_encodes (encodes : Encodes levels bytes fields)
    (split : input.buffer = bytes ++ ending)
    (depth : input.recursion_depth + levels = default_recursion_limit)
    (stops : Stops (input.withRest ending)) (enough : input.buffer.length < turns) :
    SkipMessage turns input = some (fields, (input.withRest ending).plainTag.1) := by
  induction encodes generalizing turns input ending with
  | nil =>
      obtain ⟨turns, rfl⟩ := Nat.exists_eq_succ_of_ne_zero (Nat.ne_of_gt (Nat.zero_lt_of_lt enough))
      have same : input.withRest ending = input := by
        rw [CodedInputStream.withRest, ← List.nil_append ending, ← split]
      rw [same] at stops ⊢
      exact SkipMessage_stop stops
  | @field levels tag type start payload rest field later start_digits tag_ne known payload_encodes
      later_encodes ih =>
      obtain ⟨turns, rfl⟩ := Nat.exists_eq_succ_of_ne_zero (Nat.ne_of_gt (Nat.zero_lt_of_lt enough))
      rw [List.append_assoc, List.append_assoc] at split
      have shorter := start_digits.ne_nil
      rw [split, List.length_append, List.length_append] at enough
      let next : CodedInputStream := { input with buffer := rest ++ ending, last_tag := tag }
      have continued : SkipMessage turns next = some (later, (next.withRest ending).plainTag.1) :=
        ih rfl depth (stops_withTag.mpr stops) (show (rest ++ ending).length < turns by omega)
      rw [plainTag_withRest] at continued
      have inside : GetTagWireType tag ≠ some .END_GROUP := by
        rw [known]
        exact fun same => payload_encodes.type_ne (Option.some.inj same)
      rw [SkipMessage_step (plainTag_of_digits split start_digits) tag_ne inside,
        SkipField_of_payload known payload_encodes rfl, Option.bind_some]
      exact congrArg (Option.map _) continued
  | @group levels tag start inner stop rest group later start_digits known inner_encodes
      stop_digits later_encodes inner_ih later_ih =>
      obtain ⟨turns, rfl⟩ := Nat.exists_eq_succ_of_ne_zero (Nat.ne_of_gt (Nat.zero_lt_of_lt enough))
      rw [List.append_assoc, List.append_assoc, List.append_assoc] at split
      have shorter := start_digits.ne_nil
      rw [split, List.length_append, List.length_append, List.length_append] at enough
      have allowed : input.recursion_depth < default_recursion_limit := by omega
      have some_tag : tag ≠ 0 := by
        rintro rfl
        cases known
      have inside : GetTagWireType tag ≠ some .END_GROUP := by
        rw [known]
        decide
      have end_type : GetTagWireType (MakeTag (GetTagFieldNumber tag) .END_GROUP) = some .END_GROUP :=
        GetTagWireType_MakeTag (GetTagFieldNumber_lt start_digits.lt) .END_GROUP
      let group_start : CodedInputStream :=
        { input with
          buffer := inner ++ (stop ++ (rest ++ ending))
          last_tag := tag
          recursion_depth := input.recursion_depth + 1 }
      let next : CodedInputStream :=
        { input with
          buffer := rest ++ ending
          last_tag := MakeTag (GetTagFieldNumber tag) .END_GROUP }
      have inner_end : (group_start.withRest (stop ++ (rest ++ ending))).plainTag =
          ({ next with recursion_depth := input.recursion_depth + 1 },
            MakeTag (GetTagFieldNumber tag) .END_GROUP) := plainTag_of_digits rfl stop_digits
      have inner_stops : Stops (group_start.withRest (stop ++ (rest ++ ending))) := by
        rw [Stops, inner_end]
        exact .inr end_type
      have inner_read : SkipMessage turns group_start =
          some (group, (group_start.withRest (stop ++ (rest ++ ending))).plainTag.1) :=
        inner_ih rfl (show input.recursion_depth + 1 + levels = _ by omega) inner_stops
          (show (inner ++ (stop ++ (rest ++ ending))).length < turns by
            rw [List.length_append, List.length_append]
            omega)
      have continued : SkipMessage turns next = some (later, (next.withRest ending).plainTag.1) :=
        later_ih rfl depth (stops_withTag.mpr stops) (show (rest ++ ending).length < turns by omega)
      rw [plainTag_withRest] at continued
      rw [inner_end] at inner_read
      have group_read : SkipField (SkipMessage turns)
          { input with buffer := inner ++ (stop ++ (rest ++ ending)), last_tag := tag } tag =
            some (.group (GetTagFieldNumber tag) group, next) := by
        rw [SkipField_group known, inner_read, Option.bind_some]
        · exact if_pos rfl
        · exact allowed
      rw [SkipMessage_step (plainTag_of_digits split start_digits) some_tag inside, group_read,
        Option.bind_some, continued]
      rfl

/-- A group that has been read ended with its own tag, inside the levels that are allowed. -/
theorem group_of_SkipField {skip : CodedInputStream → Option (UnknownFieldSet × CodedInputStream)}
    {tag : Nat} {field : UnknownField} (known : GetTagWireType tag = some .START_GROUP)
    (read : SkipField skip input tag = some (field, out)) :
    input.recursion_depth < default_recursion_limit ∧
      ∃ group inner, skip { input with recursion_depth := input.recursion_depth + 1 } =
          some (group, inner) ∧
        inner.last_tag = MakeTag (GetTagFieldNumber tag) .END_GROUP ∧
        field = .group (GetTagFieldNumber tag) group ∧ out = inner.DecrementRecursionDepth := by
  by_cases allowed : input.recursion_depth < default_recursion_limit
  · rw [SkipField_group known allowed] at read
    obtain ⟨⟨group, inner⟩, skipped, ended⟩ := Option.bind_eq_some_iff.mp read
    split at ended
    case isTrue own =>
      cases ended
      exact ⟨allowed, group, inner, skipped, own, rfl, rfl⟩
    case isFalse => cases ended
  · rw [SkipField_deep known allowed] at read
    cases read

theorem end_of_group {number : Nat} (small : number < 2 ^ 29)
    (own : input.plainTag.1.last_tag = MakeTag number .END_GROUP) :
    ∃ stop rest, input.buffer = stop ++ rest ∧ Digits (2 ^ 32) stop (MakeTag number .END_GROUP) ∧
      input.plainTag.1 =
        { input with buffer := rest, last_tag := MakeTag number .END_GROUP } := by
  have some_tag : input.plainTag.2 ≠ 0 := by
    intro zero
    have type := GetTagWireType_MakeTag small .END_GROUP
    rw [← own, show input.plainTag.1.last_tag = 0 from zero] at type
    cases type
  obtain ⟨stop, rest, tag, split, digits, plain⟩ := digits_of_plainTag some_tag
  rw [plain] at own ⊢
  cases own
  exact ⟨stop, rest, split, digits, rfl⟩

theorem encodes_of_SkipMessage (read : SkipMessage turns input = some (fields, out))
    (depth : input.recursion_depth + levels = default_recursion_limit) :
    ∃ bytes ending, input.buffer = bytes ++ ending ∧ Encodes levels bytes fields ∧
      Stops (input.withRest ending) ∧ out = (input.withRest ending).plainTag.1 := by
  induction turns generalizing levels input fields out with
  | zero => cases read
  | succ turns ih =>
      by_cases stops : Stops input
      · rw [SkipMessage_stop stops] at read
        cases read
        exact ⟨[], input.buffer, rfl, .nil, stops, rfl⟩
      · obtain ⟨some_tag, inside⟩ := not_or.mp stops
        obtain ⟨start, rest, tag, split, digits, plain⟩ := digits_of_plainTag some_tag
        rw [plain] at some_tag inside
        rw [SkipMessage_step plain some_tag inside] at read
        obtain ⟨⟨field, behind⟩, field_read, more⟩ := Option.bind_eq_some_iff.mp read
        obtain ⟨⟨later, out⟩, later_read, same⟩ := Option.map_eq_some_iff.mp more
        cases same
        by_cases known : GetTagWireType tag = some .START_GROUP
        · obtain ⟨allowed, group, inner, skipped, own, rfl, rfl⟩ := group_of_SkipField known field_read
          obtain ⟨levels, rfl⟩ := Nat.exists_eq_succ_of_ne_zero
            (show levels ≠ 0 by simp only at allowed; omega)
          obtain ⟨inner_bytes, inner_ending, inner_split, inner_encodes, inner_stops, rfl⟩ :=
            ih skipped (show input.recursion_depth + 1 + levels = _ by omega)
          obtain ⟨stop, behind, stop_split, stop_digits, inner_plain⟩ :=
            end_of_group (GetTagFieldNumber_lt digits.lt) own
          rw [inner_plain] at later_read
          obtain ⟨later_bytes, ending, later_split, later_encodes, later_stops, rfl⟩ :=
            ih later_read depth
          refine ⟨start ++ (inner_bytes ++ (stop ++ later_bytes)), ending, ?_,
            .group digits known inner_encodes stop_digits later_encodes,
            stops_withTag.mp later_stops, congrArg Prod.fst (plainTag_withRest input _ _)⟩
          simp only [CodedInputStream.withRest, DecrementRecursionDepth] at *
          simp [split, inner_split, stop_split, later_split]
        · obtain ⟨type, payload, rest', known', split', payload_encodes, rfl⟩ :=
            payload_of_SkipField field_read known
          obtain ⟨later_bytes, ending, later_split, later_encodes, later_stops, rfl⟩ :=
            ih later_read depth
          refine ⟨start ++ (payload ++ later_bytes), ending, ?_,
            .field digits some_tag known' payload_encodes later_encodes,
            stops_withTag.mp later_stops, congrArg Prod.fst (plainTag_withRest input _ _)⟩
          simp only [CodedInputStream.withRest] at *
          simp [split, split', later_split]

/-- The bytes in front of the end hold the fields, and nothing else is accepted. -/
theorem SkipMessage_iff (depth : input.recursion_depth + levels = default_recursion_limit)
    (enough : input.buffer.length < turns) :
    SkipMessage turns input = some (fields, out) ↔
      ∃ bytes ending, input.buffer = bytes ++ ending ∧ Encodes levels bytes fields ∧
        Stops (input.withRest ending) ∧ out = (input.withRest ending).plainTag.1 := by
  constructor
  · intro read
    exact encodes_of_SkipMessage read depth
  · rintro ⟨bytes, ending, split, encodes, stops, rfl⟩
    exact SkipMessage_of_encodes encodes split depth stops enough

/-- More turns than bytes change nothing. -/
theorem SkipMessage_turns {more : Nat} (allowed : input.recursion_depth ≤ default_recursion_limit)
    (enough : input.buffer.length < turns) (enough' : input.buffer.length < more) :
    SkipMessage turns input = SkipMessage more input := by
  have depth := Nat.add_sub_of_le allowed
  refine Option.ext fun read => ?_
  rw [SkipMessage_iff depth enough, SkipMessage_iff depth enough']

theorem SkipField_turns {more tag : Nat} (enough : input.buffer.length < turns)
    (enough' : input.buffer.length < more) :
    SkipField (SkipMessage turns) input tag = SkipField (SkipMessage more) input tag := by
  by_cases group : GetTagWireType tag = some .START_GROUP
  · by_cases allowed : input.recursion_depth < default_recursion_limit
    · have same : SkipMessage turns { input with recursion_depth := input.recursion_depth + 1 } =
          SkipMessage more { input with recursion_depth := input.recursion_depth + 1 } :=
        SkipMessage_turns (Nat.succ_le_of_lt allowed) enough enough'
      rw [SkipField_group group allowed, SkipField_group group allowed, same]
    · rw [SkipField_deep group allowed, SkipField_deep group allowed]
  · rw [SkipField, SkipField]
    split <;> first | rfl | contradiction

/-- Reading goes on in the buffer and leaves the depth and the size of the array alone. -/
structure Continues (input out : CodedInputStream) : Prop where
  shorter : out.buffer.length ≤ input.buffer.length
  depth : out.recursion_depth = input.recursion_depth
  total : out.total_bytes_read = input.total_bytes_read

theorem Continues.trans {next : CodedInputStream} (first : Continues input next)
    (second : Continues next out) : Continues input out :=
  ⟨Nat.le_trans second.shorter first.shorter, second.depth.trans first.depth,
    second.total.trans first.total⟩

theorem plainTag_continues (input : CodedInputStream) : Continues input input.plainTag.1 := by
  have fallback : Continues input input.fallbackTag.1 := by
    rw [fallbackTag]
    split
    · exact ⟨Nat.le_refl _, rfl, rfl⟩
    · cases read : readDigits (2 ^ 32) input.buffer with
      | none => exact ⟨Nat.le_refl _, rfl, rfl⟩
      | some found =>
          obtain ⟨start, split, -⟩ := digits_of_readDigits read
          exact ⟨by simp [split], rfl, rfl⟩
  exact ⟨fallback.shorter, fallback.depth, fallback.total⟩

/-- A tag takes at least one byte. -/
theorem plainTag_shorter {next : CodedInputStream} {tag : Nat} (plain : input.plainTag = (next, tag))
    (some_tag : tag ≠ 0) : next.buffer.length < input.buffer.length := by
  obtain ⟨start, rest, tag', split, digits, plain'⟩ :=
    digits_of_plainTag (show input.plainTag.2 ≠ 0 by rw [plain]; exact some_tag)
  rw [plain] at plain'
  cases plain'
  rw [split, List.length_append]
  exact Nat.lt_add_of_pos_left digits.ne_nil

theorem SkipField_continues {tag : Nat} {field : UnknownField}
    (read : SkipField (SkipMessage turns) input tag = some (field, out)) : Continues input out := by
  by_cases group : GetTagWireType tag = some .START_GROUP
  · obtain ⟨allowed, fields, inner, skipped, -, -, rfl⟩ := group_of_SkipField group read
    obtain ⟨bytes, ending, split, -, -, rfl⟩ := encodes_of_SkipMessage skipped
      (Nat.add_sub_of_le (Nat.succ_le_of_lt allowed))
    have kept := plainTag_continues
      (CodedInputStream.withRest { input with recursion_depth := input.recursion_depth + 1 } ending)
    refine ⟨Nat.le_trans kept.shorter ?_, ?_, kept.total⟩
    · simp only [CodedInputStream.withRest] at split ⊢
      simp [split]
    · rw [DecrementRecursionDepth, kept.depth]
      rfl
  · obtain ⟨type, payload, rest, -, split, -, rfl⟩ := payload_of_SkipField read group
    exact ⟨by simp [CodedInputStream.withRest, split], rfl, rfl⟩

theorem SkipField_field {skip : CodedInputStream → Option (UnknownFieldSet × CodedInputStream)}
    {tag : Nat} {field : UnknownField} (read : SkipField skip input tag = some (field, out)) :
    field.number = GetTagFieldNumber tag ∧ GetTagWireType tag = some field.wireType := by
  by_cases group : GetTagWireType tag = some .START_GROUP
  · obtain ⟨-, fields, inner, -, -, rfl, -⟩ := group_of_SkipField group read
    exact ⟨rfl, group⟩
  · obtain ⟨type, payload, rest, known, -, encodes, -⟩ := payload_of_SkipField read group
    cases encodes <;> exact ⟨rfl, known⟩

end Message

/-! ## Writing -/

section Writing

theorem digits_of_encode {modulus width value : Nat} (few : width ≤ 9)
    (fits : value < 128 ^ (width + 1)) (small : value < modulus) :
    Digits modulus (encode (width + 1) value) value := by
  have read := decode_encode fits few []
  rw [List.append_nil] at read
  exact ⟨value, read, Nat.mod_eq_of_lt small⟩

theorem digits_of_tag (number : Nat) (type : WireType) :
    Digits (2 ^ 32) (WriteTagToArray (MakeTag number type)) (MakeTag number type) := by
  have fits := MakeTag_lt number type
  rw [WriteTagToArray_eq fits]
  exact digits_of_encode (by decide) (Nat.lt_trans fits (by decide)) fits

theorem digits_of_varint32 {value : Nat} (fits : value < 2 ^ 32) :
    Digits (2 ^ 32) (WriteVarint32ToArray value) value := by
  rw [WriteVarint32ToArray_eq fits]
  exact digits_of_encode (by decide) (Nat.lt_trans fits (by decide)) fits

theorem digits_of_varint64 {value : Nat} (fits : value < 2 ^ 64) :
    Digits (2 ^ 64) (WriteVarint64ToArray value) value := by
  rw [WriteVarint64ToArray_eq fits]
  exact digits_of_encode (by decide) (Nat.lt_trans fits (by decide)) fits

theorem WriteLittleEndian_length (width value : Nat) :
    (WriteLittleEndian width value).length = width := by
  induction width generalizing value with
  | zero => rfl
  | succ width ih => exact congrArg Nat.succ (ih (value >>> 8))

theorem littleEndian_WriteLittleEndian {width value : Nat} (fits : value < 256 ^ width) :
    littleEndian (WriteLittleEndian width value) = value := by
  induction width generalizing value with
  | zero =>
      rw [Nat.pow_zero] at fits
      exact (Nat.lt_one_iff.mp fits).symm
  | succ width ih =>
      have byte : value.toUInt8.toNat = value % 256 := rfl
      have high : value >>> 8 = value / 256 := Nat.shiftRight_eq_div_pow value 8
      rw [WriteLittleEndian, littleEndian, List.foldr_cons, byte, ← littleEndian, ih, high,
        Nat.mod_add_div]
      rw [high, Nat.div_lt_iff_lt_mul (by decide), ← Nat.pow_succ]
      exact fits

/-- A field in front of others, of which no group is asked. -/
theorem encodes_payload {levels number : Nat} {type : WireType} {payload rest : Bytes}
    {field : UnknownField} {later : UnknownFieldSet} (small : number < 2 ^ 29)
    (some_tag : 0 < number ∨ 0 < type.value) (encodes : Payload number type payload field)
    (behind : Encodes levels rest later) :
    Encodes levels (WriteTagToArray (MakeTag number type) ++ payload ++ rest) (field :: later) := by
  rw [List.append_assoc]
  refine .field (digits_of_tag number type) ?_ (GetTagWireType_MakeTag small type) ?_ behind
  · rw [MakeTag_eq small]
    omega
  · rw [GetTagFieldNumber_MakeTag small]
    exact encodes

mutual

theorem encodes_unknownField {levels : Nat} {rest : Bytes} {later : UnknownFieldSet}
    (field : UnknownField) (sound : field.Sound levels) (behind : Encodes levels rest later) :
    Encodes levels (unknownFieldToArray field ++ rest) (field :: later) := by
  cases field with
  | varint number value =>
      exact encodes_payload sound.2.1 (.inl sound.1) (.varint (digits_of_varint64 sound.2.2)) behind
  | fixed32 number value =>
      have payload : Payload number .FIXED32 (WriteLittleEndian 4 value) _ :=
        .fixed32 (WriteLittleEndian_length 4 value)
      rw [littleEndian_WriteLittleEndian sound.2] at payload
      exact encodes_payload sound.1 (.inr (by decide)) payload behind
  | fixed64 number value =>
      have payload : Payload number .FIXED64 (WriteLittleEndian 8 value) _ :=
        .fixed64 (WriteLittleEndian_length 8 value)
      rw [littleEndian_WriteLittleEndian sound.2] at payload
      exact encodes_payload sound.1 (.inr (by decide)) payload behind
  | length_delimited number data =>
      have size := digits_of_varint32 (Nat.lt_trans sound.2 (by decide))
      exact encodes_payload sound.1 (.inr (by decide)) (.length_delimited size sound.2) behind
  | group number group =>
      obtain ⟨small, deep, inner⟩ := sound
      obtain ⟨levels, rfl⟩ := Nat.exists_eq_succ_of_ne_zero (Nat.ne_of_gt deep)
      have encodes := Encodes.group (digits_of_tag number .START_GROUP)
        (GetTagWireType_MakeTag small .START_GROUP) (encodes_unknownFields group inner)
        (digits_of_tag _ .END_GROUP) behind
      rw [GetTagFieldNumber_MakeTag small] at encodes
      rw [unknownFieldToArray, List.append_assoc, List.append_assoc]
      exact encodes

theorem encodes_unknownFields {levels : Nat} (fields : UnknownFieldSet)
    (sound : UnknownFieldSet.Sound levels fields) :
    Encodes levels (SerializeUnknownFieldsToArray fields) fields := by
  cases fields with
  | nil => exact .nil
  | cons field later => exact encodes_unknownField field sound.1 (encodes_unknownFields later sound.2)

end

/-! The stream and the array are written alike, and the size is that of what is written. -/

theorem tag_size (number : Nat) (type : WireType) :
    VarintSize32 (MakeTag number type) = (WriteTagToArray (MakeTag number type)).length := by
  rw [VarintSize32_eq (MakeTag_lt number type), WriteTagToArray_eq (MakeTag_lt number type)]

theorem varint32_size {value : Nat} (fits : value < 2 ^ 32) :
    VarintSize32 value = (WriteVarint32ToArray value).length := by
  rw [VarintSize32_eq fits, WriteVarint32ToArray_eq fits]

theorem varint64_size {value : Nat} (fits : value < 2 ^ 64) :
    VarintSize64 value = (WriteVarint64ToArray value).length := by
  rw [VarintSize64_eq fits, WriteVarint64ToArray_eq fits]

mutual

theorem unknownFieldSize_eq {levels : Nat} (field : UnknownField) (sound : field.Sound levels) :
    unknownFieldSize field = (unknownFieldToArray field).length := by
  cases field with
  | varint number value =>
      rw [unknownFieldSize, unknownFieldToArray, tag_size, varint64_size sound.2.2, List.length_append]
  | fixed32 number value =>
      rw [unknownFieldSize, unknownFieldToArray, tag_size, List.length_append,
        WriteLittleEndian_length]
  | fixed64 number value =>
      rw [unknownFieldSize, unknownFieldToArray, tag_size, List.length_append,
        WriteLittleEndian_length]
  | length_delimited number data =>
      rw [unknownFieldSize, unknownFieldToArray, tag_size, WriteStringWithSizeToArray,
        varint32_size (Nat.lt_trans sound.2 (by decide)), List.length_append, List.length_append,
        Nat.add_assoc]
  | group number group =>
      rw [unknownFieldSize, unknownFieldToArray, tag_size, tag_size,
        ComputeUnknownFieldsSize_eq group sound.2.2, List.length_append, List.length_append]

theorem ComputeUnknownFieldsSize_eq {levels : Nat} (fields : UnknownFieldSet)
    (sound : UnknownFieldSet.Sound levels fields) :
    ComputeUnknownFieldsSize fields = (SerializeUnknownFieldsToArray fields).length := by
  cases fields with
  | nil => rfl
  | cons field later =>
      rw [ComputeUnknownFieldsSize, SerializeUnknownFieldsToArray, unknownFieldSize_eq field sound.1,
        ComputeUnknownFieldsSize_eq later sound.2, List.length_append]

end

namespace CodedOutputStream

variable (output : CodedOutputStream)

theorem WriteRaw_append (first second : Bytes) :
    (output.WriteRaw first).WriteRaw second = output.WriteRaw (first ++ second) := by
  simp [CodedOutputStream.WriteRaw]

theorem WriteTag_eq (number : Nat) (type : WireType) :
    output.WriteTag number type = output.WriteRaw (WriteTagToArray (MakeTag number type)) := by
  have fits := MakeTag_lt number type
  rw [CodedOutputStream.WriteTag, CodedOutputStream.WriteVarint32, Protocol.WriteVarint32_eq _ fits,
    WriteTagToArray_eq fits]

theorem WriteVarint32_eq {value : Nat} (fits : value < 2 ^ 32) :
    output.WriteVarint32 value = output.WriteRaw (WriteVarint32ToArray value) := by
  rw [CodedOutputStream.WriteVarint32, Protocol.WriteVarint32_eq _ fits, WriteVarint32ToArray_eq fits]

theorem WriteVarint64_eq {value : Nat} (fits : value < 2 ^ 64) :
    output.WriteVarint64 value = output.WriteRaw (WriteVarint64ToArray value) := by
  rw [CodedOutputStream.WriteVarint64, Protocol.WriteVarint64_eq _ fits, WriteVarint64ToArray_eq fits]

end CodedOutputStream

mutual

theorem unknownFieldTo_eq {levels : Nat} (output : CodedOutputStream) (field : UnknownField)
    (sound : field.Sound levels) :
    unknownFieldTo output field = output.WriteRaw (unknownFieldToArray field) := by
  cases field with
  | varint number value =>
      rw [unknownFieldTo, unknownFieldToArray, output.WriteTag_eq,
        CodedOutputStream.WriteVarint64_eq _ sound.2.2, output.WriteRaw_append]
  | fixed32 number value =>
      rw [unknownFieldTo, unknownFieldToArray, output.WriteTag_eq,
        CodedOutputStream.WriteLittleEndian, output.WriteRaw_append]
  | fixed64 number value =>
      rw [unknownFieldTo, unknownFieldToArray, output.WriteTag_eq,
        CodedOutputStream.WriteLittleEndian, output.WriteRaw_append]
  | length_delimited number data =>
      rw [unknownFieldTo, unknownFieldToArray, output.WriteTag_eq, WriteStringWithSizeToArray,
        CodedOutputStream.WriteVarint32_eq _ (Nat.lt_trans sound.2 (by decide)),
        output.WriteRaw_append, output.WriteRaw_append, List.append_assoc]
  | group number group =>
      rw [unknownFieldTo, unknownFieldToArray, output.WriteTag_eq,
        SerializeUnknownFields_eq _ group sound.2.2, CodedOutputStream.WriteTag_eq,
        output.WriteRaw_append, output.WriteRaw_append, List.append_assoc]

theorem SerializeUnknownFields_eq {levels : Nat} (output : CodedOutputStream)
    (fields : UnknownFieldSet) (sound : UnknownFieldSet.Sound levels fields) :
    SerializeUnknownFields output fields =
      output.WriteRaw (SerializeUnknownFieldsToArray fields) := by
  cases fields with
  | nil => simp [SerializeUnknownFields, SerializeUnknownFieldsToArray, CodedOutputStream.WriteRaw]
  | cons field later =>
      rw [SerializeUnknownFields, SerializeUnknownFieldsToArray,
        unknownFieldTo_eq output field sound.1,
        SerializeUnknownFields_eq _ later sound.2, output.WriteRaw_append]

end

end Writing

/-! ## What the grammar holds -/

theorem littleEndian_lt (bytes : Bytes) : littleEndian bytes < 256 ^ bytes.length := by
  induction bytes with
  | nil => exact Nat.one_pos
  | cons b bytes ih =>
      have byte_lt := b.toNat_lt
      rw [littleEndian] at ih
      rw [littleEndian, List.foldr_cons, List.length_cons, Nat.pow_succ]
      omega

theorem Payload.sound {levels tag : Nat} {type : WireType} {payload : Bytes} {field : UnknownField}
    (fits : tag < 2 ^ 32) (some_tag : tag ≠ 0) (known : GetTagWireType tag = some type)
    (encodes : Payload (GetTagFieldNumber tag) type payload field) : field.Sound levels := by
  have small := GetTagFieldNumber_lt fits
  cases encodes with
  | varint digits =>
      refine ⟨?_, small, digits.lt⟩
      have low := GetTagWireType_eq.mp known
      rw [GetTagFieldNumber, kTagTypeBits, Nat.shiftRight_eq_div_pow]
      simp only [WireType.value] at low
      omega
  | fixed64 length =>
      refine ⟨small, ?_⟩
      have below := littleEndian_lt payload
      rw [length] at below
      exact below
  | length_delimited digits short => exact ⟨small, short⟩
  | fixed32 length =>
      refine ⟨small, ?_⟩
      have below := littleEndian_lt payload
      rw [length] at below
      exact below

theorem Encodes.sound {levels : Nat} {bytes : Bytes} {fields : UnknownFieldSet}
    (encodes : Encodes levels bytes fields) : UnknownFieldSet.Sound levels fields := by
  induction encodes with
  | nil => exact trivial
  | field start some_tag known payload _ ih => exact ⟨payload.sound start.lt some_tag known, ih⟩
  | group start _ _ _ _ inner_ih later_ih =>
      exact ⟨⟨GetTagFieldNumber_lt start.lt, Nat.succ_pos _, inner_ih⟩, later_ih⟩

end TalkSystem.Protocol
