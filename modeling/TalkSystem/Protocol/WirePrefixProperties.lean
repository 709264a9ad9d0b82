import TalkSystem.Protocol.WireFormatProperties

/-!
# The front of the wire

Bytes stand for one list of fields only, and the bytes of fields at the front of others
stand for the first of these.
-/

set_option autoImplicit false

namespace TalkSystem.Protocol

open WireFormatLite WireFormat Base128

theorem Digits.front {modulus value other : Nat} {first second x y : Bytes}
    (digits : Digits modulus first value) (others : Digits modulus second other)
    (same : first ++ x = second ++ y) : first = second ∧ value = other ∧ x = y := by
  obtain ⟨read, decoded, rfl⟩ := digits
  obtain ⟨read', decoded', rfl⟩ := others
  have found := decode_append decoded x
  rw [same, decode_append decoded' y] at found
  cases found
  exact ⟨List.append_cancel_right same, rfl, rfl⟩

theorem Payload.front {number : Nat} {type : WireType} {first second x y : Bytes}
    {field other : UnknownField} (payload : Payload number type first field)
    (others : Payload number type second other) (same : first ++ x = second ++ y) :
    first = second ∧ field = other ∧ x = y := by
  cases payload with
  | varint digits =>
      cases others with
      | varint digits' =>
          obtain ⟨rfl, rfl, rfl⟩ := digits.front digits' same
          exact ⟨rfl, rfl, rfl⟩
  | fixed64 length =>
      cases others with
      | fixed64 length' =>
          obtain ⟨rfl, rfl⟩ := List.append_inj same (length.trans length'.symm)
          exact ⟨rfl, rfl, rfl⟩
  | fixed32 length =>
      cases others with
      | fixed32 length' =>
          obtain ⟨rfl, rfl⟩ := List.append_inj same (length.trans length'.symm)
          exact ⟨rfl, rfl, rfl⟩
  | length_delimited size fits =>
      cases others with
      | length_delimited size' fits' =>
          rw [List.append_assoc, List.append_assoc] at same
          obtain ⟨rfl, length, same⟩ := size.front size' same
          obtain ⟨rfl, rfl⟩ := List.append_inj same length
          exact ⟨rfl, rfl, rfl⟩

/-- The end of the bytes or of a group. -/
def Ends (bytes : Bytes) : Prop :=
  bytes = [] ∨ ∃ stop tag behind, Digits (2 ^ 32) stop tag ∧
    GetTagWireType tag = some .END_GROUP ∧ bytes = stop ++ behind

/-- No field starts where others end. -/
theorem Ends.not_tag {start rest bytes : Bytes} {tag : Nat} {type : WireType} (ends : Ends bytes)
    (digits : Digits (2 ^ 32) start tag) (known : GetTagWireType tag = some type)
    (other : type ≠ .END_GROUP) : start ++ rest ≠ bytes := by
  rintro rfl
  obtain empty | ⟨stop, tag', behind, digits', ending, same⟩ := ends
  · have size := digits.ne_nil
    rw [(List.append_eq_nil_iff.mp empty).1] at size
    cases size
  · obtain ⟨-, rfl, -⟩ := digits.front digits' same
    rw [known, Option.some.injEq] at ending
    exact other ending

theorem Encodes.nothing {levels : Nat} {bytes x y : Bytes} {fields : UnknownFieldSet}
    (encodes : Encodes levels bytes fields) (ends : Ends y) (same : bytes ++ x = y) :
    bytes = [] ∧ fields = [] := by
  cases encodes with
  | nil => exact ⟨rfl, rfl⟩
  | field start nonzero known payload later =>
      rw [List.append_assoc] at same
      exact absurd same (ends.not_tag start known payload.type_ne)
  | group start known inner stop later =>
      rw [List.append_assoc] at same
      exact absurd same (ends.not_tag start known (by decide))

theorem Payload.not_group {number : Nat} {payload : Bytes} {field : UnknownField} :
    ¬Payload number .START_GROUP payload field := by
  intro payload
  cases payload

theorem GetTagWireType_inj {tag : Nat} {type other : WireType} (known : GetTagWireType tag = some type)
    (others : GetTagWireType tag = some other) : type = other :=
  Option.some.inj (known.symm.trans others)

/-- Fields that go on to an end start with those that were read before. -/
theorem Encodes.first {levels more : Nat} {bytes longer x y : Bytes}
    {fields all : UnknownFieldSet} (encodes : Encodes levels bytes fields)
    (longest : Encodes more longer all) (ends : Ends y) (same : bytes ++ x = longer ++ y) :
    ∃ rest later, longer = bytes ++ rest ∧ all = fields ++ later ∧ Encodes more rest later := by
  induction encodes generalizing more longer x y all with
  | nil => exact ⟨longer, all, rfl, rfl, longest⟩
  | @field levels tag type start payload rest field later digits nonzero known holds _ ih =>
      cases longest with
      | nil =>
          rw [List.append_assoc] at same
          exact absurd same (ends.not_tag digits known holds.type_ne)
      | field digits' nonzero' known' holds' longest =>
          simp only [List.append_assoc] at same
          obtain ⟨rfl, rfl, same⟩ := digits.front digits' same
          obtain rfl := GetTagWireType_inj known known'
          obtain ⟨rfl, rfl, same⟩ := holds.front holds' same
          obtain ⟨behind, others, rfl, rfl, encodes⟩ := ih longest ends same
          refine ⟨behind, others, ?_, rfl, encodes⟩
          simp only [List.append_assoc]
      | group digits' known' inner stop longest =>
          simp only [List.append_assoc] at same
          obtain ⟨-, rfl, -⟩ := digits.front digits' same
          obtain rfl := GetTagWireType_inj known known'
          exact absurd holds Payload.not_group
  | @group levels tag start inner stop rest group later digits known _ last _ innerIH ih =>
      cases longest with
      | nil =>
          rw [List.append_assoc] at same
          exact absurd same (ends.not_tag digits known (by decide))
      | field digits' nonzero' known' holds' longest =>
          simp only [List.append_assoc] at same
          obtain ⟨-, rfl, -⟩ := digits.front digits' same
          obtain rfl := GetTagWireType_inj known known'
          exact absurd holds' Payload.not_group
      | @group _ _ _ inner' stop' _ group' _ digits' known' inside last' longest =>
          simp only [List.append_assoc] at same
          obtain ⟨rfl, rfl, same⟩ := digits.front digits' same
          have small := GetTagFieldNumber_lt digits.lt
          have ended (behind : Bytes) : Ends (stop ++ behind) :=
            .inr ⟨stop, _, behind, last, GetTagWireType_MakeTag small _, rfl⟩
          have ended' (behind : Bytes) : Ends (stop' ++ behind) :=
            .inr ⟨stop', _, behind, last', GetTagWireType_MakeTag small _, rfl⟩
          -- The groups are equally long, since the other one goes on to its own end.
          obtain ⟨between, others, rfl, rfl, encodes⟩ := innerIH inside (ended' _) same
          rw [List.append_assoc] at same
          have stops := List.append_cancel_left same
          obtain ⟨rfl, rfl⟩ := encodes.nothing (ended _) stops.symm
          obtain ⟨rfl, -, same⟩ := last.front last' stops
          obtain ⟨behind, others, rfl, rfl, encodes⟩ := ih longest ends same
          refine ⟨behind, others, ?_, ?_, encodes⟩
          · simp only [List.append_assoc, List.append_nil]
          · simp only [List.append_nil, List.cons_append]

/-- The bytes of fields at the front stand for the first fields. -/
theorem Encodes.front {levels more : Nat} {bytes rest : Bytes} {fields all : UnknownFieldSet}
    (encodes : Encodes levels bytes fields) (whole : Encodes more (bytes ++ rest) all) :
    ∃ later, all = fields ++ later ∧ Encodes more rest later := by
  obtain ⟨behind, later, split, rfl, encodes⟩ :=
    encodes.first whole (.inl rfl) (List.append_nil (bytes ++ rest)).symm
  obtain rfl := List.append_cancel_left split
  exact ⟨later, rfl, encodes⟩

theorem Encodes.unique {levels more : Nat} {bytes : Bytes} {fields others : UnknownFieldSet}
    (encodes : Encodes levels bytes fields) (again : Encodes more bytes others) :
    fields = others := by
  rw [← List.append_nil bytes] at again
  obtain ⟨later, rfl, encodes⟩ := encodes.front again
  rw [(encodes.nothing (.inl rfl) (List.append_nil [])).2, List.append_nil]

end TalkSystem.Protocol
