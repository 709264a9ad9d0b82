import TalkSystem.Protocol.MessageMerge
import TalkSystem.Protocol.WireFormatProperties

/-!
# The generated parsers

With its jumps from field to field, a generated parser does what a loop over the
fields on the wire does.
-/

set_option autoImplicit false

namespace TalkSystem.Protocol

open WireFormatLite WireFormat CodedInputStream

/-! ## Fields -/

namespace FieldType

theorem toInt_mod (value : Nat) : toInt (value % 2 ^ 32) = toInt value := by
  unfold toInt
  generalize 2 ^ 32 = modulus
  rw [Int.natCast_emod, Int.emod_bmod]

theorem toUInt32_mod {value modulus : Nat} (divides : 2 ^ 32 ∣ modulus) :
    (value % modulus).toUInt32 = value.toUInt32 :=
  UInt32.toNat_inj.mp (Nat.mod_mod_of_dvd value divides)

/-- Reading a field and taking it from the wire. -/
inductive Reading (type : FieldType) (number : Nat) (input : CodedInputStream) :
    Option ((Int ⊕ type.Value) × Bytes) → Option (UnknownField × CodedInputStream) → Prop where
  | failed : Reading type number input none none
  | read {value : Int ⊕ type.Value} {rest : Bytes} {field : UnknownField} :
      type.take field = some value → field.number = number →
      Reading type number input (some (value, rest)) (some (field, input.withRest rest))

variable {number : Nat} {input : CodedInputStream}
  {skip : CodedInputStream → Option (UnknownFieldSet × CodedInputStream)}

theorem readText_cases (buffer : Bytes) :
    readText buffer = none ∧ WireFormatLite.ReadString buffer = none ∨
      ∃ data rest, ∃ fits : data.length < 2 ^ 31,
        readText buffer = some (⟨data, fits⟩, rest) ∧
        WireFormatLite.ReadString buffer = some (data, rest) := by
  cases read : WireFormatLite.ReadString buffer with
  | none => exact .inl ⟨by rw [readText, read]; rfl, rfl⟩
  | some found =>
      obtain ⟨size, -, -, fits⟩ := digits_of_ReadString read
      refine .inr ⟨found.1, found.2, fits, ?_, rfl⟩
      rw [readText, read, Option.bind_some, dif_pos fits]

theorem reading (type : FieldType) (small : number < 2 ^ 29) :
    Reading type number input (type.read input.buffer)
      (SkipField skip input (MakeTag number type.wireType)) := by
  have known := GetTagWireType_MakeTag small type.wireType
  have own := GetTagFieldNumber_MakeTag small type.wireType
  rw [SkipField, known]
  cases type with
  | uint32 =>
      simp only [wireType, FieldType.read, ReadVarint64_eq, ReadVarint32_eq, readDigits]
      cases Base128.decode kMaxVarintBytes input.buffer with
      | none => exact .failed
      | some found =>
          refine .read ?_ own
          rw [take, toUInt32_mod (by decide), ← toUInt32_mod (Nat.dvd_refl (2 ^ 32))]
  | enum values ints =>
      simp only [wireType, FieldType.read, ReadVarint64_eq, ReadVarint32_eq, readDigits]
      cases Base128.decode kMaxVarintBytes input.buffer with
      | none => exact .failed
      | some found =>
          have same : toInt (found.1 % 2 ^ 64) = toInt (found.1 % 2 ^ 32) := by
            rw [toInt_mod, ← toInt_mod, Nat.mod_mod_of_dvd _ (by decide), toInt_mod]
          refine .read ?_ own
          rw [take, same]
  | string | bytes =>
      simp only [wireType, FieldType.read]
      obtain ⟨missing, missing'⟩ | ⟨data, rest, fits, text, text'⟩ := readText_cases input.buffer
      · rw [missing, missing']
        exact .failed
      · rw [text, text']
        exact .read (by rw [take, dif_pos fits]) own

/-- A field of another wire type is not taken. -/
theorem take_other {type : FieldType} {field : UnknownField}
    (other : field.wireType ≠ type.wireType) : type.take field = none := by
  cases type <;> cases field <;> first | rfl | exact absurd rfl other

end FieldType

namespace MessageType

variable (type : MessageType)

theorem number_injective {i j : type.Index} (same : (type.field i).number = (type.field j).number) :
    i = j := by
  have ascending := List.pairwise_iff_getElem.mp type.ascending
  obtain less | equal | greater := Nat.lt_trichotomy i j
  · exact absurd (ascending i j i.isLt j.isLt less) (Nat.not_lt.mpr (Nat.le_of_eq same.symm))
  · exact Fin.ext equal
  · exact absurd (ascending j i j.isLt i.isLt greater) (Nat.not_lt.mpr (Nat.le_of_eq same))

theorem field_of_find {number : Nat} {i : type.Index} (found : type.find number = some i) :
    (type.field i).number = number := by
  rw [find] at found
  simpa using List.find?_some found

theorem find_field (i : type.Index) : type.find (type.field i).number = some i := by
  have found : (type.find (type.field i).number).isSome := by
    rw [find, List.find?_isSome]
    exact ⟨i, List.mem_finRange i, decide_eq_true rfl⟩
  obtain ⟨j, index⟩ := Option.isSome_iff_exists.mp found
  rw [index, type.number_injective (type.field_of_find index)]

theorem literals_field (i : type.Index) :
    0 < (type.field i).number ∧ (type.field i).number < 2 ^ 29 ∧
      (type.field i).tag = MakeTag (type.field i).number (type.field i).type.wireType ∧
      (type.field i).tag_size = VarintSize32 (type.field i).tag ∧ (type.field i).tag ≤ type.cutoff :=
  type.literals (type.field i) (List.get_mem _ i)

theorem tag_ne_zero (i : type.Index) : (type.field i).tag ≠ 0 := by
  obtain ⟨positive, small, tag, -, -⟩ := type.literals_field i
  rw [tag, MakeTag_eq small]
  omega

theorem tag_wireType (i : type.Index) :
    GetTagWireType (type.field i).tag = some (type.field i).type.wireType := by
  obtain ⟨-, small, tag, -, -⟩ := type.literals_field i
  rw [tag, GetTagWireType_MakeTag small]

theorem tag_number (i : type.Index) :
    GetTagFieldNumber (type.field i).tag = (type.field i).number := by
  obtain ⟨-, small, tag, -, -⟩ := type.literals_field i
  rw [tag, GetTagFieldNumber_MakeTag small]

theorem tag_not_end (i : type.Index) : GetTagWireType (type.field i).tag ≠ some .END_GROUP := by
  rw [tag_wireType]
  cases (type.field i).type <;> simp [FieldType.wireType]

end MessageType

/-! ## Parsing -/

namespace Message

variable {type : MessageType} {input : CodedInputStream}
  {skip : CodedInputStream → Option (UnknownFieldSet × CodedInputStream)}

/-- What is done at `parse_x` is done with the field on the wire. -/
theorem readField_eq (message : Message type) (i : type.Index) :
    message.readField input i =
      (SkipField skip input (type.field i).tag).map fun read =>
        (message.mergeField read.1, read.2) := by
  obtain ⟨-, small, tag, -, -⟩ := type.literals_field i
  have reading : FieldType.Reading (type.field i).type (type.field i).number input
      ((type.field i).type.read input.buffer) (SkipField skip input (type.field i).tag) := by
    rw [tag]
    exact (type.field i).type.reading small
  rw [readField]
  generalize (type.field i).type.read input.buffer = read at reading ⊢
  generalize SkipField skip input (type.field i).tag = skipped at reading ⊢
  cases reading with
  | failed => rfl
  | @read value rest field taken own =>
      rw [Option.map_some, Option.map_some, mergeField, own, type.find_field]
      cases value <;> simp only [taken]

/-- The field behind any other tag is kept. -/
theorem mergeField_unusual (message : Message type) {tag : Nat} {field : UnknownField}
    {out : CodedInputStream} (fits : tag < 2 ^ 32)
    (read : SkipField skip input tag = some (field, out))
    (unusual : ∀ i, type.find (GetTagFieldNumber tag) = some i → tag ≠ (type.field i).tag) :
    message.mergeField field = message.AddField field := by
  obtain ⟨own, known⟩ := SkipField_field read
  rw [mergeField, own]
  cases found : type.find (GetTagFieldNumber tag) with
  | none => rfl
  | some i =>
      have number := type.field_of_find found
      have other : field.wireType ≠ (type.field i).type.wireType := by
        intro same
        refine unusual i found ?_
        rw [(type.literals_field i).2.2.1, number, ← same, MakeTag_GetTagFieldNumber fits known]
      dsimp only
      rw [FieldType.take_other other]

/-! ### The loop over the wire -/

/-- A plain loop: every field on the wire is merged, until there is no tag or a group ends. -/
def mergeMessage (message : Message type) (input : CodedInputStream) :
    Option (Message type × CodedInputStream) :=
  (SkipMessage (input.buffer.length + 1) input).map fun read =>
    (message.mergeFields read.1, read.2)

theorem mergeMessage_stop (message : Message type) (stops : Stops input) :
    message.mergeMessage input = some (message, input.plainTag.1) := by
  rw [mergeMessage, SkipMessage_stop stops]
  rfl

theorem mergeMessage_step (message : Message type) {next : CodedInputStream} {tag : Nat}
    (allowed : input.recursion_depth ≤ default_recursion_limit)
    (plain : input.plainTag = (next, tag)) (some_tag : tag ≠ 0)
    (inside : GetTagWireType tag ≠ some .END_GROUP) :
    message.mergeMessage input =
      (SkipField (SkipMessage (next.buffer.length + 1)) next tag).bind fun read =>
        (message.mergeField read.1).mergeMessage read.2 := by
  have continues := plainTag_continues input
  have shorter := plainTag_shorter plain some_tag
  rw [plain] at continues
  rw [mergeMessage, SkipMessage_step plain some_tag inside,
    SkipField_turns shorter (Nat.lt_succ_self next.buffer.length)]
  cases read : SkipField (SkipMessage (next.buffer.length + 1)) next tag with
  | none => rfl
  | some found =>
      obtain ⟨field, out⟩ := found
      have behind := SkipField_continues read
      have same : SkipMessage input.buffer.length out = SkipMessage (out.buffer.length + 1) out :=
        SkipMessage_turns (by rw [behind.depth, continues.depth]; exact allowed)
          (Nat.lt_of_le_of_lt behind.shorter shorter) (Nat.lt_succ_self _)
      rw [Option.bind_some, Option.bind_some, same, mergeMessage, Option.map_map]
      rfl

theorem mergeMessage_withTag (message : Message type) (input : CodedInputStream) (tag : Nat) :
    message.mergeMessage { input with last_tag := tag } = message.mergeMessage input := by
  rw [mergeMessage, mergeMessage, SkipMessage, SkipMessage, ReadTag_eq, ReadTag_eq,
    plainTag_withTag]

theorem readField_withTag (message : Message type) (input : CodedInputStream) (tag : Nat)
    (i : type.Index) :
    (message.readField { input with last_tag := tag } i).bind
        (fun read => read.1.mergeMessage read.2) =
      (message.readField input i).bind fun read => read.1.mergeMessage read.2 := by
  rw [readField, readField]
  cases (type.field i).type.read input.buffer with
  | none => rfl
  | some read => exact mergeMessage_withTag _ (input.withRest read.2) tag

theorem readField_rest {message merged : Message type} {out : CodedInputStream} {i : type.Index}
    (read : message.readField input i = some (merged, out)) : ∃ rest, out = input.withRest rest := by
  obtain ⟨found, -, same⟩ := Option.map_eq_some_iff.mp read
  cases same
  exact ⟨found.2, rfl⟩

/-! ### The generated loop -/

/-- What becomes of a turn when the plain loop takes over. -/
def finish : Turn type → Option (Message type × CodedInputStream)
  | .failure => none
  | .success message input => some (message, input)
  | .again message input => message.mergeMessage input

/-- The jumps to the next fields are short cuts for turns of the plain loop. -/
theorem finish_parseField (message : Message type) (i : type.Index) (later : List type.Index)
    (allowed : input.recursion_depth ≤ default_recursion_limit)
    (small : input.total_bytes_read ≤ kDefaultTotalBytesLimit) :
    finish (message.parseField input i later) =
      (message.readField input i).bind fun read => read.1.mergeMessage read.2 := by
  induction later generalizing message input i with
  | nil =>
      rw [parseField]
      cases read : message.readField input i with
      | none => rfl
      | some found =>
          obtain ⟨message, out⟩ := found
          obtain ⟨rest, rfl⟩ := readField_rest read
          dsimp only
          cases ended : (input.withRest rest).ExpectAtEnd with
          | none => rfl
          | some behind =>
              have plain := ExpectAtEnd_eq (input.withRest rest) ended small
              have stops : Stops (input.withRest rest) := .inl (congrArg Prod.snd plain)
              rw [Option.bind_some, mergeMessage_stop message stops, plain]
              rfl
  | cons next later ih =>
      rw [parseField]
      cases read : message.readField input i with
      | none => rfl
      | some found =>
          obtain ⟨message, out⟩ := found
          obtain ⟨rest, rfl⟩ := readField_rest read
          dsimp only
          cases expected : (input.withRest rest).ExpectTag (type.field next).tag with
          | none => rfl
          | some behind =>
              have fallback := ExpectTag_eq (input.withRest rest) expected
              have plain : (input.withRest rest).plainTag =
                  ({ behind with last_tag := (type.field next).tag }, (type.field next).tag) := by
                rw [plainTag, fallback]
              have continues := plainTag_continues (input.withRest rest)
              rw [plain] at continues
              have depth : behind.recursion_depth = input.recursion_depth := continues.depth
              have total : behind.total_bytes_read = input.total_bytes_read := continues.total
              rw [Option.bind_some, ih message next (by rwa [depth]) (by rwa [total]),
                mergeMessage_step message (show (input.withRest rest).recursion_depth ≤ _ from allowed)
                  plain (type.tag_ne_zero next) (type.tag_not_end next),
                ← readField_withTag message behind (type.field next).tag next,
                @readField_eq _ _ (SkipMessage (behind.buffer.length + 1)) message next,
                Option.bind_map]
              rfl

theorem finish_handle_unusual (message : Message type) {next : CodedInputStream} {tag : Nat}
    (allowed : input.recursion_depth ≤ default_recursion_limit)
    (plain : input.plainTag = (next, tag)) (fits : tag < 2 ^ 32)
    (unusual : ∀ i, type.find (GetTagFieldNumber tag) = some i → tag ≠ (type.field i).tag) :
    finish (message.handle_unusual next tag) = message.mergeMessage input := by
  rw [handle_unusual]
  split
  case isTrue ends =>
    have stops : Stops input := by
      rw [Stops, plain]
      exact ends
    rw [mergeMessage_stop message stops, plain]
    rfl
  case isFalse goes =>
    obtain ⟨some_tag, inside⟩ := not_or.mp goes
    rw [mergeMessage_step message allowed plain some_tag inside]
    cases read : SkipField (SkipMessage (next.buffer.length + 1)) next tag with
    | none => rfl
    | some found =>
        rw [Option.bind_some, mergeField_unusual message fits read unusual]
        rfl

/-- A turn of the generated loop, finished by the plain loop, does what the plain loop does. -/
theorem finish_parseTurn (message : Message type)
    (allowed : input.recursion_depth ≤ default_recursion_limit)
    (small : input.total_bytes_read ≤ kDefaultTotalBytesLimit) :
    finish (message.parseTurn input) = message.mergeMessage input := by
  obtain ⟨below, read, flag⟩ := ReadTagWithCutoff_eq input type.cutoff
  have fits : input.plainTag.2 < 2 ^ 32 := fallbackTag_lt input
  have continues := plainTag_continues input
  rw [parseTurn, read]
  dsimp only
  generalize plain : input.plainTag = found at flag fits continues
  obtain ⟨next, tag⟩ := found
  dsimp only at flag fits continues ⊢
  split
  case isTrue =>
    split
    case h_1 i found =>
      split
      case isTrue own =>
        subst own
        rw [finish_parseField message i (type.after i) (by rwa [continues.depth])
            (by rwa [continues.total]),
          mergeMessage_step message allowed plain (type.tag_ne_zero i) (type.tag_not_end i),
          @readField_eq _ _ (SkipMessage (next.buffer.length + 1)) message i, Option.bind_map]
        rfl
      case isFalse other =>
        refine finish_handle_unusual message allowed plain fits fun j found' => ?_
        rw [found] at found'
        cases found'
        exact other
    case h_2 missing =>
      refine finish_handle_unusual message allowed plain fits fun j found => ?_
      rw [missing] at found
      cases found
  case isFalse above =>
    refine finish_handle_unusual message allowed plain fits fun j found own => above ?_
    rw [flag (own ▸ type.tag_ne_zero j), own]
    exact decide_eq_true (type.literals_field j).2.2.2.2

theorem readField_continues {message merged : Message type} {out : CodedInputStream} {i : type.Index}
    (read : message.readField input i = some (merged, out)) : Continues input out := by
  rw [@readField_eq _ _ (SkipMessage 0) message i] at read
  obtain ⟨found, skipped, same⟩ := Option.map_eq_some_iff.mp read
  cases same
  exact SkipField_continues skipped

theorem parseField_continues {message merged : Message type} {out : CodedInputStream}
    {i : type.Index} {later : List type.Index}
    (turn : message.parseField input i later = .again merged out) : Continues input out := by
  induction later generalizing message input i with
  | nil =>
      rw [parseField] at turn
      cases read : message.readField input i with
      | none =>
          rw [read] at turn
          cases turn
      | some found =>
          rw [read] at turn
          dsimp only at turn
          split at turn
          · cases turn
          · cases turn
            exact readField_continues read
  | cons next later ih =>
      rw [parseField] at turn
      cases read : message.readField input i with
      | none =>
          rw [read] at turn
          cases turn
      | some found =>
          rw [read] at turn
          dsimp only at turn
          split at turn
          case h_1 behind expected =>
            have fallback := ExpectTag_eq found.2 expected
            have continues := plainTag_continues found.2
            rw [plainTag, fallback] at continues
            have jump : Continues found.2 behind :=
              ⟨continues.shorter, continues.depth, continues.total⟩
            exact ((readField_continues read).trans jump).trans (ih turn)
          case h_2 =>
            cases turn
            exact readField_continues read

theorem handle_unusual_continues {message merged : Message type} {out : CodedInputStream} {tag : Nat}
    (turn : message.handle_unusual input tag = .again merged out) :
    Continues input out ∧ tag ≠ 0 := by
  rw [handle_unusual] at turn
  split at turn
  case isTrue => cases turn
  case isFalse goes =>
    split at turn
    case h_1 => cases turn
    case h_2 field behind read =>
      cases turn
      exact ⟨SkipField_continues read, (not_or.mp goes).1⟩

/-- A turn that goes on has taken a tag. -/
theorem parseTurn_continues {message merged : Message type} {out : CodedInputStream}
    (turn : message.parseTurn input = .again merged out) :
    Continues input out ∧ out.buffer.length < input.buffer.length := by
  obtain ⟨below, read, -⟩ := ReadTagWithCutoff_eq input type.cutoff
  have continues := plainTag_continues input
  rw [parseTurn, read] at turn
  dsimp only at turn
  have step : Continues input.plainTag.1 out ∧ input.plainTag.2 ≠ 0 := by
    split at turn
    · split at turn
      case h_1 i found =>
        split at turn
        case isTrue own => exact ⟨parseField_continues turn, own ▸ type.tag_ne_zero i⟩
        case isFalse => exact handle_unusual_continues turn
      case h_2 => exact handle_unusual_continues turn
    · exact handle_unusual_continues turn
  exact ⟨continues.trans step.1, Nat.lt_of_le_of_lt step.1.shorter (plainTag_shorter rfl step.2)⟩

theorem parseLoop_eq {turns : Nat} (message : Message type)
    (allowed : input.recursion_depth ≤ default_recursion_limit)
    (small : input.total_bytes_read ≤ kDefaultTotalBytesLimit)
    (enough : input.buffer.length < turns) :
    parseLoop turns message input = message.mergeMessage input := by
  induction turns generalizing message input with
  | zero => cases enough
  | succ turns ih =>
      rw [parseLoop, ← finish_parseTurn message allowed small]
      cases turn : message.parseTurn input with
      | failure => rfl
      | success => rfl
      | again merged out =>
          obtain ⟨continues, shorter⟩ := parseTurn_continues turn
          exact ih merged (by rwa [continues.depth]) (by rwa [continues.total]) (by omega)

/-- The generated parser merges the fields on the wire. -/
theorem MergePartialFromCodedStream_eq (message : Message type)
    (allowed : input.recursion_depth ≤ default_recursion_limit)
    (small : input.total_bytes_read ≤ kDefaultTotalBytesLimit) :
    message.MergePartialFromCodedStream input = message.mergeMessage input :=
  parseLoop_eq message allowed small (Nat.lt_succ_self _)

end Message

end TalkSystem.Protocol
