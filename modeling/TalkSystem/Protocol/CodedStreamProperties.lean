import TalkSystem.Machine.Base128
import TalkSystem.Protocol.CodedStream

/-!
# The paths of the coded streams agree

A number is read by up to four routines and written by two, depending on the room
in the buffer. They all read and write its digits in base 128.
-/

set_option autoImplicit false

namespace TalkSystem.Protocol

open Base128

/-! ## Unrolled lines -/

def Unfinished (buffer : Bytes) : Prop := ∀ b ∈ buffer, 0x80 ≤ b.toNat

/-- What unrolled lines for `count` digits from the `first` on come to. -/
inductive PartReads (count first part : Nat) (buffer : Bytes) : PartRead → Prop where
  | past : Unfinished buffer → buffer.length < count → PartReads count first part buffer .past
  | done {value : Nat} {ptr : Bytes} : decode count buffer = some (value, ptr) →
      PartReads count first part buffer (.done (part + 128 ^ first * value) ptr)
  | more {low : Nat} {ptr : Bytes} : front count buffer = some (low, ptr) →
      PartReads count first part buffer (.more (part + 128 ^ first * low) ptr)

theorem shiftLeft_digit (value first : Nat) : value <<< (7 * first) = 128 ^ first * value := by
  rw [Nat.shiftLeft_eq, Nat.pow_mul, Nat.mul_comm]

/-- A byte that is not the last one leaves its digit in the part. -/
theorem digit_carried (part first value : Nat) {b : UInt8} (goes : 0x80 ≤ b.toNat) :
    part + 128 ^ first * b.toNat - 128 ^ first * 0x80 + 128 ^ (first + 1) * value =
      part + 128 ^ first * (b.toNat - 128 + 128 * value) := by
  have carried : 128 ^ first * 0x80 ≤ 128 ^ first * b.toNat := Nat.mul_le_mul_left _ goes
  rw [Nat.mul_add, Nat.mul_sub, Nat.pow_succ, Nat.mul_assoc, Nat.add_sub_assoc carried, Nat.add_assoc]

theorem readPart_reads (count first part : Nat) (buffer : Bytes) :
    PartReads count first part buffer
      (readPart ((List.range' first count).map (7 * ·)) part buffer) := by
  induction count generalizing first part buffer with
  | zero => exact @PartReads.more 0 first part buffer 0 buffer rfl
  | succ count ih =>
      rw [List.range'_succ, List.map_cons]
      cases buffer with
      | nil => exact .past (by simp [Unfinished]) (Nat.succ_pos _)
      | cons b buffer =>
          rw [readPart, shiftLeft_digit, shiftLeft_digit]
          by_cases last : b.toNat < 0x80
          · rw [if_pos last]
            exact .done (by rw [decode, if_pos last])
          · have goes := Nat.not_lt.mp last
            rw [if_neg last]
            have reads := ih (first + 1) (part + 128 ^ first * b.toNat - 128 ^ first * 0x80) buffer
            generalize readPart _ _ buffer = read at reads ⊢
            cases reads with
            | past unfinished short =>
                exact .past (List.forall_mem_cons.mpr ⟨goes, unfinished⟩) (Nat.succ_lt_succ short)
            | done found =>
                rw [digit_carried part first _ goes]
                exact .done (by rw [decode, if_neg last, found]; rfl)
            | more found =>
                rw [digit_carried part first _ goes]
                exact .more (by rw [front, if_neg last, found]; rfl)

/-! ## Reading from an array -/

theorem discardBytes_eq (result count : Nat) (ptr : Bytes) :
    discardBytes result count ptr =
      (decode count ptr).elim (if ptr.length < count then .past else .overrun)
        fun found => .done result found.2 := by
  induction count generalizing ptr with
  | zero => rfl
  | succ count ih =>
      cases ptr with
      | nil => rfl
      | cons b ptr =>
          rw [discardBytes, decode]
          split
          · rfl
          · rw [ih]
            cases decode count ptr with
            | none =>
                simp only [Option.map_none, Option.elim_none, List.length_cons,
                  Nat.add_lt_add_iff_right]
            | some found => rfl

/-- What a number of at most ten bytes is cut to; `past` where the bytes end in the middle. -/
def arrayRead (modulus : Nat) (buffer : Bytes) : ArrayRead :=
  (decode kMaxVarintBytes buffer).elim
    (if buffer.length < kMaxVarintBytes then .past else .overrun)
    fun found => .done (found.1 % modulus) found.2

theorem arrayRead_of_unfinished (modulus : Nat) {buffer : Bytes} (unfinished : Unfinished buffer)
    (short : buffer.length < kMaxVarintBytes) : arrayRead modulus buffer = .past := by
  rw [arrayRead, decode_unfinished unfinished, Option.elim_none, if_pos short]

theorem arrayRead_of_decode {modulus value : Nat} {buffer ptr : Bytes}
    (found : decode kMaxVarintBytes buffer = some (value, ptr)) :
    arrayRead modulus buffer = .done (value % modulus) ptr := by
  rw [arrayRead, found]
  rfl

/-- The rest of a number is behind its first `count` digits. -/
theorem arrayRead_of_front {modulus count low : Nat} {buffer ptr : Bytes} (left : Nat)
    (found : front count buffer = some (low, ptr)) (total : count + left = kMaxVarintBytes) :
    arrayRead modulus buffer =
      (decode left ptr).elim (if ptr.length < left then .past else .overrun)
        fun high => .done ((low + 128 ^ count * high.1) % modulus) high.2 := by
  obtain ⟨before, split, length, -⟩ := front_split found
  have size : buffer.length < kMaxVarintBytes ↔ ptr.length < left := by
    rw [split, List.length_append, length, ← total, Nat.add_lt_add_iff_left]
  rw [arrayRead, ← total, decode_front found, total]
  cases decode left ptr with
  | none => simp [size]
  | some high => rfl

theorem ReadVarint32FromArray_eq (buffer : Bytes) :
    ReadVarint32FromArray buffer = arrayRead (2 ^ 32) buffer := by
  have reads : PartReads 4 0 0 buffer (readPart [0, 7, 14, 21] 0 buffer) := readPart_reads 4 0 0 buffer
  rw [ReadVarint32FromArray]
  generalize readPart [0, 7, 14, 21] 0 buffer = read at reads ⊢
  cases reads with
  | past unfinished short =>
      rw [arrayRead_of_unfinished _ unfinished (Nat.lt_trans short (by decide))]
  | @done value ptr found =>
      have below := decode_lt found
      rw [arrayRead_of_decode (decode_mono found (by decide)),
        Nat.mod_eq_of_lt (Nat.lt_trans below (by decide))]
      simp
  | @more low ptr found =>
      rw [arrayRead_of_front 6 found rfl]
      cases ptr with
      | nil => rfl
      | cons b ptr =>
          simp only [kMaxVarintBytes, kMaxVarint32Bytes, Nat.reduceSub, discardBytes_eq]
          rw [decode, List.length_cons, Nat.shiftLeft_eq]
          split
          · refine congrArg (ArrayRead.done · ptr) ?_
            dsimp only
            omega
          · -- The digits from the sixth on are multiples of `2 ^ 35`.
            cases decode 5 ptr with
            | none => simp [Nat.succ_lt_succ_iff]
            | some high =>
                refine congrArg (ArrayRead.done · high.2) ?_
                dsimp only
                omega

theorem or_digits {low high : Nat} (count : Nat) (below : low < 128 ^ count) :
    low ||| high <<< (7 * count) = low + 128 ^ count * high := by
  rw [Nat.or_comm, ← Nat.shiftLeft_add_eq_or_of_lt (by rwa [Nat.pow_mul]), shiftLeft_digit,
    Nat.add_comm]

/-- A digit of which only the bits up to the 64th are kept. -/
theorem or_top_digit {low high : Nat} (count : Nat) (below : low < 128 ^ count)
    (fits : low < 2 ^ 64) :
    low ||| (high <<< (7 * count)) % 2 ^ 64 = (low + 128 ^ count * high) % 2 ^ 64 := by
  rw [← or_digits count below, Nat.or_mod_two_pow, Nat.mod_eq_of_lt fits]

theorem ReadVarint64FromArray_eq (buffer : Bytes) :
    ReadVarint64FromArray buffer = arrayRead (2 ^ 64) buffer := by
  have reads0 : PartReads 4 0 0 buffer (readPart [0, 7, 14, 21] 0 buffer) :=
    readPart_reads 4 0 0 buffer
  rw [ReadVarint64FromArray]
  generalize readPart [0, 7, 14, 21] 0 buffer = read0 at reads0 ⊢
  cases reads0 with
  | past unfinished short =>
      rw [arrayRead_of_unfinished _ unfinished (Nat.lt_trans short (by decide))]
  | @done part0 ptr found =>
      have below := decode_lt found
      rw [arrayRead_of_decode (decode_mono found (by decide)),
        Nat.mod_eq_of_lt (Nat.lt_trans below (by decide))]
      simp
  | @more part0 ptr found0 =>
      have below0 := front_lt found0
      have reads1 : PartReads 4 0 0 ptr (readPart [0, 7, 14, 21] 0 ptr) := readPart_reads 4 0 0 ptr
      rw [arrayRead_of_front 6 found0 rfl]
      dsimp only
      generalize readPart [0, 7, 14, 21] 0 ptr = read1 at reads1 ⊢
      cases reads1 with
      | past unfinished short =>
          rw [decode_unfinished unfinished, Option.elim_none, if_pos (Nat.lt_trans short (by decide))]
      | @done part1 ptr1 found1 =>
          have below1 := decode_lt found1
          have value_lt : part0 + 128 ^ 4 * part1 < 2 ^ 64 := by omega
          rw [decode_mono found1 (by decide), Option.elim_some, Nat.mod_eq_of_lt value_lt,
            ← or_digits 4 below0]
          simp
      | @more part1 ptr1 found1 =>
          have below1 := front_lt found1
          have low_lt : part0 + 128 ^ 4 * part1 < 128 ^ 8 := by omega
          have reads2 : PartReads 2 0 0 ptr1 (readPart [0, 7] 0 ptr1) := readPart_reads 2 0 0 ptr1
          obtain ⟨before, rfl, length, -⟩ := front_split found1
          rw [decode_front found1 2, List.length_append, length]
          dsimp only
          generalize readPart [0, 7] 0 ptr1 = read2 at reads2 ⊢
          cases reads2 with
          | past unfinished short =>
              rw [decode_unfinished unfinished, Option.map_none, Option.elim_none,
                if_pos (by omega)]
          | @done part2 ptr2 found2 =>
              have value_eq : (part0 ||| part1 <<< 28 ||| part2 <<< 56 % 2 ^ 64) =
                  (part0 + 128 ^ 4 * (part1 + 128 ^ 4 * part2)) % 2 ^ 64 := by
                rw [or_digits 4 below0, or_top_digit 8 low_lt (Nat.lt_trans low_lt (by decide)),
                  Nat.mul_add, ← Nat.mul_assoc, ← Nat.pow_add, Nat.add_assoc]
              rw [found2, Option.map_some, Option.elim_some, ← value_eq]
              simp
          | @more part2 ptr2 found2 =>
              obtain ⟨before', rfl, length', -⟩ := front_split found2
              have long : ¬4 + (before' ++ ptr2).length < 6 := by
                rw [List.length_append, length']
                omega
              rw [decode_front found2 0, if_neg long]
              rfl

/-! ## Every path reads the same number -/

theorem getLast_unfinished {buffer : Bytes} (unfinished : Unfinished buffer) :
    (buffer.getLast?.any fun b => b.toNat < 0x80) = false := by
  cases found : buffer.getLast? with
  | none => rfl
  | some b =>
      have goes := unfinished b (List.mem_of_getLast? found)
      simpa using goes

/-- Where the fast path is taken, no byte behind the buffer is looked at. -/
theorem arrayRead_of_readsFast {modulus : Nat} {buffer : Bytes} (fast : readsFast buffer = true) :
    arrayRead modulus buffer ≠ .past := by
  intro past
  rw [arrayRead] at past
  cases found : decode kMaxVarintBytes buffer with
  | some found' =>
      rw [found] at past
      cases past
  | none =>
      rw [found, Option.elim_none] at past
      split at past
      case isFalse => cases past
      case isTrue short =>
        have goes_on := getLast_unfinished (unfinished_of_decode found short)
        rw [readsFast, goes_on, Bool.or_false, decide_eq_true_eq] at fast
        exact Nat.not_lt.mpr fast short

def readDigits (modulus : Nat) (buffer : Bytes) : Option (Nat × Bytes) :=
  (decode kMaxVarintBytes buffer).map fun found => (found.1 % modulus, found.2)

theorem arrayRead_result (modulus : Nat) (buffer : Bytes) :
    (arrayRead modulus buffer).result = readDigits modulus buffer := by
  rw [arrayRead, readDigits]
  cases decode kMaxVarintBytes buffer with
  | none =>
      rw [Option.elim_none]
      split <;> rfl
  | some found => rfl

theorem low_bits (b : UInt8) : b.toNat &&& 0x7F = b.toNat % 128 :=
  Nat.and_two_pow_sub_one_eq_mod b.toNat 7

theorem slowLoop_eq {left count result : Nat} {buffer : Bytes} (total : count + left = kMaxVarintBytes)
    (below : result < 128 ^ count) (fits : result < 2 ^ 64) :
    slowLoop left count result buffer =
      (decode left buffer).map fun found => ((result + 128 ^ count * found.1) % 2 ^ 64, found.2) := by
  induction left generalizing count result buffer with
  | zero => rfl
  | succ left ih =>
      cases buffer with
      | nil => rfl
      | cons b buffer =>
          rw [slowLoop, decode, low_bits, or_top_digit count below fits]
          split
          case isTrue last =>
            rw [Nat.mod_eq_of_lt last]
            rfl
          case isFalse goes =>
            have digit : b.toNat % 128 = b.toNat - 128 := by
              have byte_lt := b.toNat_lt
              omega
            cases left with
            | zero => rfl
            | succ left =>
                have next_lt : result + 128 ^ count * (b.toNat - 128) < 128 ^ (count + 1) := by
                  have byte_lt : b.toNat - 128 + 1 ≤ 128 := by
                    have byte_lt := b.toNat_lt
                    omega
                  calc result + 128 ^ count * (b.toNat - 128)
                      < 128 ^ count + 128 ^ count * (b.toNat - 128) := Nat.add_lt_add_right below _
                    _ = 128 ^ count * (b.toNat - 128 + 1) := by rw [Nat.mul_succ, Nat.add_comm]
                    _ ≤ 128 ^ (count + 1) := Nat.mul_le_mul_left _ byte_lt
                have few : count + 1 ≤ 9 := by
                  rw [kMaxVarintBytes] at total
                  omega
                have next_fits : result + 128 ^ count * (b.toNat - 128) < 2 ^ 64 :=
                  Nat.lt_of_lt_of_le next_lt
                    (Nat.le_trans (Nat.pow_le_pow_right (by decide) few) (by decide))
                rw [digit, Nat.mod_eq_of_lt next_fits, ih (by omega) next_lt next_fits, Option.map_map]
                refine congrArg (Option.map · _) (funext fun found => Prod.ext ?_ rfl)
                simp only [Function.comp_apply, Nat.mul_add, Nat.pow_succ, Nat.mul_assoc,
                  Nat.add_assoc]

theorem ReadVarint64Slow_eq (buffer : Bytes) :
    ReadVarint64Slow buffer = readDigits (2 ^ 64) buffer := by
  rw [ReadVarint64Slow, slowLoop_eq rfl (by decide) (by decide), readDigits]
  simp

theorem ReadVarint64Fallback_eq (buffer : Bytes) :
    ReadVarint64Fallback buffer = readDigits (2 ^ 64) buffer := by
  rw [ReadVarint64Fallback, ReadVarint64FromArray_eq, arrayRead_result, ReadVarint64Slow_eq, ite_self]

theorem ReadVarint32Slow_eq (buffer : Bytes) :
    ReadVarint32Slow buffer = readDigits (2 ^ 32) buffer := by
  rw [ReadVarint32Slow, ReadVarint64Fallback_eq, readDigits, readDigits, Option.map_map]
  refine congrArg (Option.map · _) (funext fun found => Prod.ext ?_ rfl)
  exact Nat.mod_mod_of_dvd _ (by decide)

theorem ReadVarint32Fallback_eq (buffer : Bytes) :
    ReadVarint32Fallback buffer = readDigits (2 ^ 32) buffer := by
  rw [ReadVarint32Fallback, ReadVarint32FromArray_eq, arrayRead_result, ReadVarint32Slow_eq, ite_self]

theorem decode_single {b : UInt8} (last : b.toNat < 0x80) (rest : Bytes) :
    decode kMaxVarintBytes (b :: rest) = some (b.toNat, rest) := by
  rw [kMaxVarintBytes, decode, if_pos last]

theorem ReadVarint64_eq (buffer : Bytes) :
    ReadVarint64 buffer = readDigits (2 ^ 64) buffer := by
  cases buffer with
  | nil => exact ReadVarint64Fallback_eq []
  | cons b rest =>
      rw [ReadVarint64]
      split
      case isTrue last =>
        rw [readDigits, decode_single last, Option.map_some,
          Nat.mod_eq_of_lt (Nat.lt_trans last (by decide))]
      case isFalse => exact ReadVarint64Fallback_eq (b :: rest)

theorem ReadVarint32_eq (buffer : Bytes) :
    ReadVarint32 buffer = readDigits (2 ^ 32) buffer := by
  cases buffer with
  | nil => exact ReadVarint32Fallback_eq []
  | cons b rest =>
      rw [ReadVarint32]
      split
      case isTrue last =>
        rw [readDigits, decode_single last, Option.map_some,
          Nat.mod_eq_of_lt (Nat.lt_trans last (by decide))]
      case isFalse => exact ReadVarint32Fallback_eq (b :: rest)

/-! ## Tags -/

theorem or_top_bit (byte : Fin 256) : byte.val ||| 0x80 = byte.val % 128 + 128 := by
  decide +revert +kernel

theorem or_toUInt8 (value : Nat) : (value ||| 0x80).toUInt8 = (value % 128 + 128).toUInt8 := by
  refine UInt8.toNat_inj.mp ?_
  have byte : (value ||| 0x80) % 2 ^ 8 = value % 2 ^ 8 % 128 + 128 := by
    rw [Nat.or_mod_two_pow]
    exact or_top_bit ⟨value % 2 ^ 8, Nat.mod_lt _ (by decide)⟩
  rw [Nat.mod_mod_of_dvd _ (by decide)] at byte
  exact byte.trans (toNat_toUInt8 (by omega)).symm

namespace CodedInputStream

/-- `ReadTagFallback` without its fast path. -/
def fallbackTag (input : CodedInputStream) : CodedInputStream × Nat :=
  if input.buffer = [] then
    ({ input with legitimate_message_end := input.total_bytes_read ≤ kDefaultTotalBytesLimit }, 0)
  else
    (readDigits (2 ^ 32) input.buffer).elim (input, 0) fun read =>
      ({ input with buffer := read.2 }, read.1)

def plainTag (input : CodedInputStream) : CodedInputStream × Nat :=
  ({ input.fallbackTag.1 with last_tag := input.fallbackTag.2 }, input.fallbackTag.2)

variable (input : CodedInputStream)

theorem ReadTagSlow_eq : input.ReadTagSlow = input.fallbackTag := by
  rw [ReadTagSlow, fallbackTag]
  split
  case isTrue ends =>
    refine congrArg (fun legitimate => ({ input with legitimate_message_end := legitimate }, 0)) ?_
    split
    · grind
    · grind
  case isFalse =>
    rw [ReadVarint64_eq, readDigits, readDigits]
    cases decode kMaxVarintBytes input.buffer with
    | none => rfl
    | some found =>
        have cut : found.1 % 2 ^ 64 % 2 ^ 32 = found.1 % 2 ^ 32 :=
          Nat.mod_mod_of_dvd _ (by decide)
        simp only [Option.map_some, Option.elim_some, cut]

theorem ReadTagFallback_eq : input.ReadTagFallback = input.fallbackTag := by
  rw [ReadTagFallback, ReadTagSlow_eq]
  split
  case isTrue fast =>
    have some_bytes : input.buffer ≠ [] := by
      intro none
      rw [none] at fast
      cases fast
    rw [fallbackTag, if_neg some_bytes, ← arrayRead_result, ReadVarint32FromArray_eq]
    cases arrayRead (2 ^ 32) input.buffer <;> rfl
  case isFalse =>
    split
    case isTrue ends =>
      rw [fallbackTag, if_pos ends.1, decide_eq_true (Nat.le_of_lt ends.2)]
    case isFalse => rfl

theorem slowTag_eq : input.slowTag = input.plainTag := by
  rw [slowTag, ReadTagFallback_eq, plainTag]

theorem fallbackTag_single {b : UInt8} {rest : Bytes} (single : input.buffer = b :: rest)
    (last : b.toNat < 0x80) : input.fallbackTag = ({ input with buffer := rest }, b.toNat) := by
  rw [fallbackTag, if_neg (by simp [single]), single, readDigits, decode_single last,
    Option.map_some, Option.elim_some, Nat.mod_eq_of_lt (Nat.lt_trans last (by decide))]

theorem ReadTag_eq : input.ReadTag = input.plainTag := by
  rw [ReadTag]
  split
  · exact slowTag_eq input
  case h_2 b rest single =>
    split
    case isTrue last => rw [plainTag, fallbackTag_single input single last]
    case isFalse => exact slowTag_eq input

theorem and_not_top_bit (b0 b1 : UInt8) :
    0x80 ≤ (b0 &&& ~~~b1).toNat ↔ 0x80 ≤ b0.toNat ∧ b1.toNat < 0x80 := by
  have top (b : Fin 256) : 0x80 ≤ b.val ↔ b.val.testBit 7 = true := by decide +revert +kernel
  have top_byte (b : UInt8) : 0x80 ≤ b.toNat ↔ b.toNat.testBit 7 = true :=
    top ⟨b.toNat, b.toNat_lt⟩
  have opposite : 0x80 ≤ (~~~b1).toNat ↔ b1.toNat < 0x80 := by
    have byte_lt := b1.toNat_lt
    rw [UInt8.toNat_not, UInt8.size]
    omega
  rw [← opposite, top_byte, top_byte, top_byte, UInt8.toNat_and, Nat.testBit_and, Bool.and_eq_true]

theorem fallbackTag_pair {b0 b1 : UInt8} {rest : Bytes} (pair : input.buffer = b0 :: b1 :: rest)
    (goes : 0x80 ≤ b0.toNat) (last : b1.toNat < 0x80) :
    input.fallbackTag =
      ({ input with buffer := rest }, 128 * b1.toNat + (b0.toNat - 128)) := by
  have byte_lt := b0.toNat_lt
  have digits : decode kMaxVarintBytes (b0 :: b1 :: rest) =
      some (b0.toNat - 128 + 128 * b1.toNat, rest) := by
    rw [kMaxVarintBytes, decode, if_neg (Nat.not_lt.mpr goes), decode, if_pos last]
    rfl
  rw [fallbackTag, if_neg (by simp [pair]), pair, readDigits, digits, Option.map_some,
    Option.elim_some, Nat.mod_eq_of_lt (by omega), Nat.add_comm]

theorem fallbackTag_lt : input.fallbackTag.2 < 2 ^ 32 := by
  rw [fallbackTag, readDigits]
  split
  · exact Nat.two_pow_pos 32
  · cases decode kMaxVarintBytes input.buffer with
    | none => exact Nat.two_pow_pos 32
    | some found => exact Nat.mod_lt _ (Nat.two_pow_pos 32)

/-- The flag tells whether the tag is below the cutoff, as far as there is a tag. -/
theorem ReadTagWithCutoff_eq (cutoff : Nat) :
    ∃ below, input.ReadTagWithCutoff cutoff = (input.plainTag.1, input.plainTag.2, below) ∧
      (input.plainTag.2 ≠ 0 → below = decide (input.plainTag.2 ≤ cutoff)) := by
  have slow : ∃ below,
      input.slowTagWithCutoff cutoff = (input.plainTag.1, input.plainTag.2, below) ∧
        (input.plainTag.2 ≠ 0 → below = decide (input.plainTag.2 ≤ cutoff)) := by
    rw [slowTagWithCutoff, slowTag_eq]
    refine ⟨_, rfl, fun tag => decide_eq_decide.mpr ?_⟩
    have tag_lt := fallbackTag_lt input
    have same : input.plainTag.2 = input.fallbackTag.2 := rfl
    rw [same] at tag ⊢
    omega
  rw [ReadTagWithCutoff]
  split
  · exact slow
  case h_2 b0 rest some_bytes =>
    split
    case isTrue single =>
      rw [plainTag, fallbackTag_single input some_bytes single.2]
      refine ⟨_, rfl, fun _ => ?_⟩
      rw [Bool.or_eq_decide, decide_eq_decide]
      simp only [decide_eq_true_eq]
      omega
    case isFalse =>
      split
      · exact slow
      case h_2 b1 rest =>
        split
        case isTrue pair =>
          obtain ⟨goes, last⟩ := (and_not_top_bit b0 b1).mp pair.2
          have byte_lt := b0.toNat_lt
          rw [plainTag, fallbackTag_pair input some_bytes goes last]
          refine ⟨_, rfl, fun _ => ?_⟩
          rw [Bool.or_eq_decide, decide_eq_decide]
          simp only [decide_eq_true_eq]
          omega
        case isFalse => exact slow

/-- The tag that `ExpectTag` has found is the one that would be read. -/
theorem ExpectTag_eq {expected : Nat} {behind : CodedInputStream}
    (found : input.ExpectTag expected = some behind) : input.fallbackTag = (behind, expected) := by
  rw [ExpectTag] at found
  split at found
  case isTrue small =>
    split at found
    case h_1 b rest bytes =>
      split at found
      case isTrue same =>
        cases found
        subst same
        exact fallbackTag_single input bytes small
      case isFalse => cases found
    case h_2 => cases found
  case isFalse large =>
    split at found
    case isTrue middle =>
      split at found
      case h_1 b0 b1 rest bytes =>
        split at found
        case isTrue same =>
          cases found
          have low : b0.toNat = expected % 128 + 128 := by
            have byte := congrArg UInt8.toNat (or_toUInt8 expected)
            rw [toNat_toUInt8 (show expected % 128 + 128 < 256 by omega)] at byte
            exact same.1.trans byte
          have high : b1.toNat = expected / 128 := by
            rw [same.2, Nat.shiftRight_eq_div_pow]
            simp only [Nat.shiftLeft_eq] at middle
            omega
          simp only [Nat.shiftLeft_eq] at middle
          rw [fallbackTag_pair input bytes (by omega) (by omega), low, high]
          refine Prod.ext rfl ?_
          dsimp only
          omega
        case isFalse => cases found
      case h_2 => cases found
    case isFalse => cases found

theorem ExpectAtEnd_eq {behind : CodedInputStream} (found : input.ExpectAtEnd = some behind)
    (small : input.total_bytes_read ≤ kDefaultTotalBytesLimit) :
    input.plainTag = (behind, 0) := by
  rw [ExpectAtEnd] at found
  split at found
  case isTrue ends =>
    cases found
    rw [plainTag, fallbackTag, if_pos ends, decide_eq_true small]
  case isFalse => cases found

theorem plainTag_withTag (tag : Nat) : { input with last_tag := tag }.plainTag = input.plainTag := by
  rw [plainTag, plainTag, fallbackTag, fallbackTag]
  dsimp only
  split
  · rfl
  · cases readDigits (2 ^ 32) input.buffer <;> rfl

end CodedInputStream

/-! ## Writing -/

/-- The last byte of a number, whose top bit is set first and then taken away. -/
theorem or_and_toUInt8 {value : Nat} (small : value < 128) :
    (value ||| 0x80).toUInt8 &&& 0x7F = value.toUInt8 := by
  refine UInt8.toNat_inj.mp ?_
  rw [or_toUInt8, UInt8.toNat_and, toNat_toUInt8 (by omega), toNat_toUInt8 (by omega)]
  exact (Nat.and_two_pow_sub_one_eq_mod _ 7).trans (by omega)

theorem WriteVarint32FallbackToArray_eq {value : Nat} (fits : value < 2 ^ 32) :
    WriteVarint32FallbackToArray value = encode kMaxVarint32Bytes value := by
  have size (digits : Nat) (few : digits < kMaxVarint32Bytes)
      (low : digits = 0 ∨ 128 ^ digits ≤ value) (high : value < 128 ^ (digits + 1)) :=
    encode_digits few low high
  simp only [WriteVarint32FallbackToArray, Nat.shiftLeft_eq]
  split
  · split
    · split
      · split
        · rw [size 4 (by decide) (by omega) (by omega)]
          simp only [or_toUInt8, Nat.shiftRight_eq_div_pow]
          simp [List.range_succ]
        · have last : value >>> 21 < 128 := by omega
          rw [size 3 (by decide) (by omega) (by omega), or_and_toUInt8 last]
          simp only [or_toUInt8, Nat.shiftRight_eq_div_pow]
          simp [List.range_succ]
      · have last : value >>> 14 < 128 := by omega
        rw [size 2 (by decide) (by omega) (by omega), or_and_toUInt8 last]
        simp only [or_toUInt8, Nat.shiftRight_eq_div_pow]
        simp [List.range_succ]
    · have last : value >>> 7 < 128 := by omega
      rw [size 1 (by decide) (by omega) (by omega), or_and_toUInt8 last]
      simp only [or_toUInt8, Nat.shiftRight_eq_div_pow]
      simp [List.range_succ]
  · rw [size 0 (by decide) (by omega) (by omega), Nat.shiftRight_zero,
      or_and_toUInt8 (by omega)]
    simp

theorem WriteVarint32ToArray_eq {value : Nat} (fits : value < 2 ^ 32) :
    WriteVarint32ToArray value = encode kMaxVarint32Bytes value := by
  rw [WriteVarint32ToArray]
  split
  case isTrue small => rw [kMaxVarint32Bytes, encode, if_pos small]
  case isFalse => exact WriteVarint32FallbackToArray_eq fits

theorem and_toUInt8 (value : Nat) : value.toUInt8 &&& 0x7F = (value % 128).toUInt8 := by
  have kept : value % 256 &&& 0x7F = value % 128 :=
    (Nat.and_two_pow_sub_one_eq_mod _ 7).trans (Nat.mod_mod_of_dvd value (by decide))
  exact UInt8.toNat_inj.mp (kept.trans (toNat_toUInt8 (by omega)).symm)

theorem composeBytes_eq (left value : Nat) : composeBytes left value = encode left value := by
  induction left generalizing value with
  | zero => rfl
  | succ left ih =>
      rw [composeBytes, encode, and_toUInt8]
      split
      case isTrue large =>
        have byte : (value % 128).toUInt8 ||| 0x80 = (value % 128 + 128).toUInt8 := by
          refine UInt8.toNat_inj.mp ?_
          rw [UInt8.toNat_or, toNat_toUInt8 (by omega), toNat_toUInt8 (by omega)]
          exact (or_top_bit ⟨value % 128, by omega⟩).trans
            (congrArg (· + 128) (Nat.mod_mod value 128))
        rw [if_neg (by omega), byte, ih, Nat.shiftRight_eq_div_pow]
      case isFalse small => rw [if_pos (by omega), Nat.mod_eq_of_lt (by omega)]

theorem WriteVarint32_eq (buffer_size : Nat) {value : Nat} (fits : value < 2 ^ 32) :
    WriteVarint32 buffer_size value = encode kMaxVarint32Bytes value := by
  rw [WriteVarint32, WriteVarint32FallbackToArray_eq fits, composeBytes_eq, ite_self]

theorem WriteTagToArray_eq {value : Nat} (fits : value < 2 ^ 32) :
    WriteTagToArray value = encode kMaxVarint32Bytes value := by
  rw [WriteTagToArray]
  split
  case isTrue small => rw [kMaxVarint32Bytes, encode, if_pos (show value < 128 from small)]
  case isFalse large =>
    split
    case isTrue middle =>
      rw [encode_digits (by decide : 1 < kMaxVarint32Bytes) (.inr (by simpa using large))
        (by simpa using middle), or_toUInt8, Nat.shiftRight_eq_div_pow]
      simp
    case isFalse => exact WriteVarint32FallbackToArray_eq fits

theorem VarintSize32_eq {value : Nat} (fits : value < 2 ^ 32) :
    VarintSize32 value = (encode kMaxVarint32Bytes value).length := by
  have size (digits : Nat) (few : digits < kMaxVarint32Bytes)
      (low : digits = 0 ∨ 128 ^ digits ≤ value) (high : value < 128 ^ (digits + 1)) :=
    encode_length few low high
  simp only [VarintSize32, Nat.shiftLeft_eq]
  split
  · rw [size 0 (by decide) (by omega) (by omega)]
  · split
    · rw [size 1 (by decide) (by omega) (by omega)]
    · split
      · rw [size 2 (by decide) (by omega) (by omega)]
      · split
        · rw [size 3 (by decide) (by omega) (by omega)]
        · rw [size 4 (by decide) (by omega) (by omega)]

/-- The digits of a number in pieces of four, as `WriteVarint64ToArray` takes them. -/
theorem piece_toUInt8 (value piece digit : Nat) (small : digit ≤ 3) :
    (((value >>> (28 * piece)) % 2 ^ 32) >>> (7 * digit) ||| 0x80).toUInt8 =
      (value / 128 ^ (4 * piece + digit) % 128 + 128).toUInt8 := by
  have place : value / 128 ^ (4 * piece + digit) = value / 2 ^ (28 * piece) / 2 ^ (7 * digit) := by
    rw [Nat.div_div_eq_div_mul, ← Nat.pow_add, Nat.mul_assoc 7 4 piece, ← Nat.mul_add,
      Nat.pow_mul 2 7]
  rw [or_toUInt8, place, Nat.shiftRight_eq_div_pow, Nat.shiftRight_eq_div_pow]
  refine congrArg (fun byte => (byte + 128).toUInt8) ?_
  obtain rfl | rfl | rfl | rfl : digit = 0 ∨ digit = 1 ∨ digit = 2 ∨ digit = 3 := by omega
  all_goals omega

/-- Setting the top bit of every byte and clearing it in the last one. -/
theorem take_modify_digits {value count size : Nat} (fits : size < count)
    (high : value < 128 ^ (size + 1)) :
    (((List.range count).map fun digit => (value / 128 ^ digit % 128 + 128).toUInt8).take
      (size + 1)).modify size (· &&& 0x7F) =
      (List.range size).map (fun digit => (value / 128 ^ digit % 128 + 128).toUInt8) ++
        [(value / 128 ^ size).toUInt8] := by
  have last : value / 128 ^ size < 128 := by
    rw [Nat.div_lt_iff_lt_mul (Nat.pow_pos (by decide)), ← Nat.pow_succ']
    exact high
  rw [← List.map_take, List.take_range, Nat.min_eq_left fits, List.range_succ, List.map_append,
    List.modify_eq_take_drop, List.take_left' (by simp), List.drop_left' (by simp),
    ← or_and_toUInt8 last, or_toUInt8]
  rfl

theorem WriteVarint64ToArray_eq {value : Nat} (fits : value < 2 ^ 64) :
    WriteVarint64ToArray value = encode kMaxVarintBytes value := by
  have digit := piece_toUInt8 value
  unfold WriteVarint64ToArray
  extract_lets part0 part1 part2 size target
  have target_eq : target =
      (List.range kMaxVarintBytes).map fun digit => (value / 128 ^ digit % 128 + 128).toUInt8 := by
    have places : List.range kMaxVarintBytes = [0, 1, 2, 3, 4, 5, 6, 7, 8, 9] := rfl
    simp only [target, places, List.map_cons, List.map_nil, List.cons.injEq, and_true]
    exact ⟨digit 0 0 (by decide), digit 0 1 (by decide), digit 0 2 (by decide),
      digit 0 3 (by decide), digit 1 0 (by decide), digit 1 1 (by decide), digit 1 2 (by decide),
      digit 1 3 (by decide), digit 2 0 (by decide), digit 2 1 (by decide)⟩
  have size_eq : ∃ count, size = count + 1 ∧ count < kMaxVarintBytes ∧
      (count = 0 ∨ 128 ^ count ≤ value) ∧
      value < 128 ^ (count + 1) := by
    simp only [size, part0, part1, part2, Nat.shiftRight_eq_div_pow, Nat.shiftLeft_eq]
    split
    · split
      · split
        · split
          · exact ⟨0, rfl, by decide, by omega, by omega⟩
          · exact ⟨1, rfl, by decide, by omega, by omega⟩
        · split
          · exact ⟨2, rfl, by decide, by omega, by omega⟩
          · exact ⟨3, rfl, by decide, by omega, by omega⟩
      · split
        · split
          · exact ⟨4, rfl, by decide, by omega, by omega⟩
          · exact ⟨5, rfl, by decide, by omega, by omega⟩
        · split
          · exact ⟨6, rfl, by decide, by omega, by omega⟩
          · exact ⟨7, rfl, by decide, by omega, by omega⟩
    · split
      · exact ⟨8, rfl, by decide, by omega, by omega⟩
      · exact ⟨9, rfl, by decide, by omega, by omega⟩
  obtain ⟨count, size_eq, few, low, high⟩ := size_eq
  rw [target_eq, size_eq, Nat.add_sub_cancel, take_modify_digits few high,
    encode_digits few low high]

theorem WriteVarint64_eq (buffer_size : Nat) {value : Nat} (fits : value < 2 ^ 64) :
    WriteVarint64 buffer_size value = encode kMaxVarintBytes value := by
  rw [WriteVarint64, WriteVarint64ToArray_eq fits, composeBytes_eq, ite_self]

theorem VarintSize64_eq {value : Nat} (fits : value < 2 ^ 64) :
    VarintSize64 value = (encode kMaxVarintBytes value).length := by
  have size (digits : Nat) (few : digits < kMaxVarintBytes)
      (low : digits = 0 ∨ 128 ^ digits ≤ value) (high : value < 128 ^ (digits + 1)) :=
    encode_length few low high
  simp only [VarintSize64, Nat.shiftLeft_eq]
  split
  · split
    · rw [size 0 (by decide) (by omega) (by omega)]
    · split
      · rw [size 1 (by decide) (by omega) (by omega)]
      · split
        · rw [size 2 (by decide) (by omega) (by omega)]
        · split
          · rw [size 3 (by decide) (by omega) (by omega)]
          · rw [size 4 (by decide) (by omega) (by omega)]
  · split
    · rw [size 5 (by decide) (by omega) (by omega)]
    · split
      · rw [size 6 (by decide) (by omega) (by omega)]
      · split
        · rw [size 7 (by decide) (by omega) (by omega)]
        · split
          · rw [size 8 (by decide) (by omega) (by omega)]
          · rw [size 9 (by decide) (by omega) (by omega)]

/-! ## Numbers and tags -/

/-- Every writer writes the shortest bytes of a number, as many as counted, and every reader reads
the number back, whatever follows. -/
theorem varint_round_trip {value : Nat} (fits : value < 2 ^ 64) (room : Nat) (rest : Bytes) :
    (WriteVarint64 room value = WriteVarint64ToArray value ∧
      (WriteVarint64ToArray value).length = VarintSize64 value ∧
      ReadVarint64 (WriteVarint64ToArray value ++ rest) = some (value, rest) ∧
      ∀ buffer, ReadVarint64 buffer = some (value, rest) →
        VarintSize64 value + rest.length ≤ buffer.length) ∧
    (value < 2 ^ 32 →
      WriteVarint32 room value = WriteVarint32ToArray value ∧
      WriteTagToArray value = WriteVarint32ToArray value ∧
      (WriteVarint32ToArray value).length = VarintSize32 value ∧
      ReadVarint32 (WriteVarint32ToArray value ++ rest) = some (value, rest) ∧
      ∀ buffer, ReadVarint32 buffer = some (value, rest) →
        VarintSize32 value + rest.length ≤ buffer.length) := by
  have shortest {modulus : Nat} (width : Nat) {buffer : Bytes}
      (read : readDigits modulus buffer = some (value, rest)) :
      (encode width value).length + rest.length ≤ buffer.length := by
    obtain ⟨⟨digits, left⟩, found, same⟩ := Option.map_eq_some_iff.mp read
    cases same
    exact encode_shortest found (Nat.mod_le _ _)
  refine ⟨⟨?_, ?_, ?_, fun buffer read => ?_⟩, fun narrow => ⟨?_, ?_, ?_, ?_, fun buffer read => ?_⟩⟩
  · rw [WriteVarint64_eq room fits, WriteVarint64ToArray_eq fits]
  · rw [WriteVarint64ToArray_eq fits, VarintSize64_eq fits]
  · rw [WriteVarint64ToArray_eq fits, ReadVarint64_eq, readDigits, kMaxVarintBytes,
      decode_encode (Nat.lt_trans fits (by decide)) (Nat.le_refl 9), Option.map_some,
      Nat.mod_eq_of_lt fits]
  · rw [VarintSize64_eq fits]
    rw [ReadVarint64_eq] at read
    exact shortest _ read
  · rw [WriteVarint32_eq room narrow, WriteVarint32ToArray_eq narrow]
  · rw [WriteTagToArray_eq narrow, WriteVarint32ToArray_eq narrow]
  · rw [WriteVarint32ToArray_eq narrow, VarintSize32_eq narrow]
  · rw [WriteVarint32ToArray_eq narrow, ReadVarint32_eq, readDigits, kMaxVarintBytes,
      kMaxVarint32Bytes, decode_encode (Nat.lt_trans narrow (by decide)) (by decide),
      Option.map_some, Nat.mod_eq_of_lt narrow]
  · rw [VarintSize32_eq narrow]
    rw [ReadVarint32_eq] at read
    exact shortest _ read

theorem varint_round_trip_300 :
    ReadVarint64 (WriteVarint64ToArray 300 ++ [7]) = some (300, [7]) ∧
      ReadVarint32 (WriteVarint32ToArray 300 ++ [7]) = some (300, [7]) :=
  have both := @varint_round_trip 300 (by decide) 0 [7]
  ⟨both.1.2.2.1, (both.2 (by decide)).2.2.2.1⟩

end TalkSystem.Protocol
