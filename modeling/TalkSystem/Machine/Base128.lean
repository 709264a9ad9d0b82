import Mathlib.Algebra.GroupWithZero.Nat
import Mathlib.Algebra.Group.Int.Defs
import Mathlib.Data.List.Basic

/-!
# Numbers in base 128

The digits of a number, the lowest first, one in a byte; every byte but the last
has its top bit set. A bound on the number of bytes is part of writing and of
reading.
-/

set_option autoImplicit false

namespace TalkSystem.Base128

/-- The bytes of a number, at most `limit` of them. -/
def encode : Nat → Nat → List UInt8
  | 0, _ => []
  | limit + 1, value =>
      if value < 128 then [value.toUInt8]
      else (value % 128 + 128).toUInt8 :: encode limit (value / 128)

/-- The number at the start of the bytes, and what follows it. There is no result when it does
not end within `limit` bytes. -/
def decode : Nat → List UInt8 → Option (Nat × List UInt8)
  | 0, _ => none
  | _ + 1, [] => none
  | limit + 1, byte :: bytes =>
      if byte.toNat < 128 then some (byte.toNat, bytes)
      else (decode limit bytes).map fun found => (byte.toNat - 128 + 128 * found.1, found.2)

variable {limit value : Nat} {bytes rest : List UInt8}

theorem toNat_toUInt8 {value : Nat} (small : value < 256) : value.toUInt8.toNat = value :=
  Nat.mod_eq_of_lt small

theorem quotient_lt {width : Nat} (fits : value < 128 ^ (width + 1)) : value / 128 < 128 ^ width := by
  rw [Nat.div_lt_iff_lt_mul (by decide), ← Nat.pow_succ]
  exact fits

/-- A number with enough bytes is read back, whatever follows it. -/
theorem decode_encode {width : Nat} (fits : value < 128 ^ (width + 1)) (bound : width ≤ limit)
    (rest : List UInt8) :
    decode (limit + 1) (encode (width + 1) value ++ rest) = some (value, rest) := by
  induction width generalizing limit value with
  | zero =>
      have small : value < 128 := by simpa using fits
      rw [encode, if_pos small, List.singleton_append, decode, toNat_toUInt8 (by omega),
        if_pos small]
  | succ width ih =>
      rw [encode]
      split
      case isTrue small =>
        rw [List.singleton_append, decode, toNat_toUInt8 (by omega), if_pos small]
      case isFalse large =>
        cases limit with
        | zero => cases bound
        | succ limit =>
            rw [List.cons_append, decode, toNat_toUInt8 (by omega), if_neg (by omega),
              ih (quotient_lt fits) (Nat.le_of_succ_le_succ bound), Option.map_some,
              Nat.add_sub_cancel, Nat.mod_add_div]

/-- What is read does not depend on what follows. -/
theorem decode_append (found : decode limit bytes = some (value, rest)) (behind : List UInt8) :
    decode limit (bytes ++ behind) = some (value, rest ++ behind) := by
  induction limit generalizing bytes value with
  | zero => cases found
  | succ limit ih =>
      cases bytes with
      | nil => cases found
      | cons byte bytes =>
          rw [decode] at found
          rw [List.cons_append, decode]
          split at found
          case isTrue last =>
            cases found
            rw [if_pos last]
          case isFalse more =>
            obtain ⟨⟨digits, left⟩, inner, same⟩ := Option.map_eq_some_iff.mp found
            cases same
            rw [if_neg more, ih inner]
            rfl

/-- The bytes of a number are what is gone when it has been read. -/
theorem decode_split (found : decode limit bytes = some (value, rest)) :
    ∃ before, bytes = before ++ rest ∧ decode limit before = some (value, []) := by
  induction limit generalizing bytes value with
  | zero => cases found
  | succ limit ih =>
      cases bytes with
      | nil => cases found
      | cons byte bytes =>
          rw [decode] at found
          split at found
          case isTrue last =>
            cases found
            exact ⟨[byte], rfl, by rw [decode, if_pos last]⟩
          case isFalse goes =>
            obtain ⟨⟨digits, left⟩, inner, same⟩ := Option.map_eq_some_iff.mp found
            cases same
            obtain ⟨before, rfl, alone⟩ := ih inner
            refine ⟨byte :: before, rfl, ?_⟩
            rw [decode, if_neg goes, alone]
            rfl

/-- A number takes at least one byte. -/
theorem decode_shorter (found : decode limit bytes = some (value, rest)) :
    rest.length < bytes.length := by
  induction limit generalizing bytes value with
  | zero => cases found
  | succ limit ih =>
      cases bytes with
      | nil => cases found
      | cons byte bytes =>
          rw [decode] at found
          split at found
          case isTrue =>
            cases found
            exact Nat.lt_succ_self _
          case isFalse =>
            obtain ⟨⟨digits, left⟩, inner, same⟩ := Option.map_eq_some_iff.mp found
            cases same
            exact Nat.lt_succ_of_lt (ih inner)

theorem encode_ne_nil (width : Nat) : encode (width + 1) value ≠ [] := by
  rw [encode]
  split <;> simp

/-- A number below `128 ^ width` has no more than `width` bytes. -/
theorem encode_length_le (width : Nat) : (encode width value).length ≤ width := by
  induction width generalizing value with
  | zero => exact Nat.le_refl 0
  | succ width ih =>
      rw [encode]
      split
      · exact Nat.succ_le_succ (Nat.zero_le _)
      · exact Nat.succ_le_succ ih

/-- The bytes of a number with `size + 1` digits. -/
theorem encode_digits {size width : Nat} (fits : size < width) (low : size = 0 ∨ 128 ^ size ≤ value)
    (high : value < 128 ^ (size + 1)) :
    encode width value =
      (List.range size).map (fun digit => (value / 128 ^ digit % 128 + 128).toUInt8) ++
        [(value / 128 ^ size).toUInt8] := by
  induction size generalizing width value with
  | zero =>
      obtain ⟨width, rfl⟩ := Nat.exists_eq_succ_of_ne_zero (Nat.ne_of_gt fits)
      rw [encode, if_pos (by simpa using high)]
      simp
  | succ size ih =>
      obtain ⟨width, rfl⟩ := Nat.exists_eq_succ_of_ne_zero (Nat.ne_of_gt (Nat.zero_lt_of_lt fits))
      have reached : 128 ^ (size + 1) ≤ value := low.resolve_left (Nat.succ_ne_zero size)
      have large : 128 ≤ value := Nat.le_trans (Nat.le_self_pow (Nat.succ_ne_zero size) 128) reached
      have quotient_low : 128 ^ size ≤ value / 128 := by
        rw [Nat.le_div_iff_mul_le (by decide), ← Nat.pow_succ]
        exact reached
      rw [encode, if_neg (Nat.not_lt.mpr large),
        ih (Nat.lt_of_succ_lt_succ fits) (.inr quotient_low) (quotient_lt high),
        List.range_succ_eq_map, List.map_cons, List.map_map, List.cons_append, Nat.pow_zero,
        Nat.div_one, Nat.div_div_eq_div_mul, ← Nat.pow_succ']
      refine congrArg _ (congrArg (· ++ _) (List.map_congr_left fun digit _ => ?_))
      rw [Function.comp_apply, Nat.div_div_eq_div_mul, ← Nat.pow_succ']

theorem encode_length {size width : Nat} (fits : size < width)
    (low : size = 0 ∨ 128 ^ size ≤ value) (high : value < 128 ^ (size + 1)) :
    (encode width value).length = size + 1 := by
  rw [encode_digits fits low high, List.length_append, List.length_map, List.length_range]
  rfl

/-- No bytes of a number are fewer than those that are written for it. -/
theorem encode_shortest {least width : Nat} (found : decode limit bytes = some (value, rest))
    (below : least ≤ value) : (encode width least).length + rest.length ≤ bytes.length := by
  induction limit generalizing bytes value least width with
  | zero => cases found
  | succ limit ih =>
      have shorter := decode_shorter found
      cases bytes with
      | nil => cases found
      | cons byte bytes =>
          cases width with
          | zero =>
              rw [encode, List.length_nil, Nat.zero_add]
              exact Nat.le_of_lt shorter
          | succ width =>
              have single (small : least < 128) :
                  (encode (width + 1) least).length + rest.length ≤ (byte :: bytes).length := by
                rw [encode, if_pos small, List.length_singleton, Nat.add_comm]
                exact shorter
              rw [decode] at found
              split at found
              case isTrue last =>
                cases found
                exact single (Nat.lt_of_le_of_lt below last)
              case isFalse goes =>
                obtain ⟨⟨digits, left⟩, inner, same⟩ := Option.map_eq_some_iff.mp found
                obtain ⟨rfl, rfl⟩ := Prod.ext_iff.mp same
                dsimp only at below shorter single ⊢
                by_cases small : least < 128
                · exact single small
                · have byte_lt := byte.toNat_lt
                  have fewer : (encode width (least / 128)).length + left.length ≤ bytes.length :=
                    ih inner (by omega)
                  rw [encode, if_neg small, List.length_cons, List.length_cons]
                  omega

/-! ## The first bytes of a number -/

/-- The digits in the next `count` bytes, none of which is the last of its number. -/
def front : Nat → List UInt8 → Option (Nat × List UInt8)
  | 0, bytes => some (0, bytes)
  | _ + 1, [] => none
  | count + 1, byte :: bytes =>
      if byte.toNat < 128 then none
      else (front count bytes).map fun found => (byte.toNat - 128 + 128 * found.1, found.2)

theorem decode_front {count low : Nat} (found : front count bytes = some (low, rest))
    (limit : Nat) :
    decode (count + limit) bytes =
      (decode limit rest).map fun high => (low + 128 ^ count * high.1, high.2) := by
  induction count generalizing bytes low with
  | zero =>
      cases found
      simp
  | succ count ih =>
      cases bytes with
      | nil => cases found
      | cons byte bytes =>
          rw [front] at found
          split at found
          case isTrue => cases found
          case isFalse more =>
            obtain ⟨⟨digits, left⟩, inner, same⟩ := Option.map_eq_some_iff.mp found
            cases same
            rw [Nat.add_right_comm, decode, if_neg more, ih inner, Option.map_map]
            refine congrArg (Option.map · _) (funext fun high => Prod.ext ?_ rfl)
            simp only [Function.comp_apply, Nat.mul_add, Nat.pow_succ, Nat.add_assoc, Nat.mul_assoc,
              Nat.mul_left_comm 128]

theorem front_lt {count low : Nat} (found : front count bytes = some (low, rest)) :
    low < 128 ^ count := by
  induction count generalizing bytes low with
  | zero =>
      cases found
      exact Nat.one_pos
  | succ count ih =>
      cases bytes with
      | nil => cases found
      | cons byte bytes =>
          rw [front] at found
          split at found
          case isTrue => cases found
          case isFalse =>
            obtain ⟨⟨digits, left⟩, inner, same⟩ := Option.map_eq_some_iff.mp found
            cases same
            have below := ih inner
            have byte_lt := byte.toNat_lt
            rw [Nat.pow_succ]
            omega

theorem decode_lt (found : decode limit bytes = some (value, rest)) : value < 128 ^ limit := by
  induction limit generalizing bytes value with
  | zero => cases found
  | succ limit ih =>
      cases bytes with
      | nil => cases found
      | cons byte bytes =>
          have byte_lt := byte.toNat_lt
          have positive : 0 < 128 ^ limit := Nat.pow_pos (by decide)
          rw [decode] at found
          rw [Nat.pow_succ]
          split at found
          case isTrue =>
            cases found
            omega
          case isFalse =>
            obtain ⟨⟨digits, left⟩, inner, same⟩ := Option.map_eq_some_iff.mp found
            cases same
            have below := ih inner
            omega

/-- Bytes that all go on hold no number. -/
theorem decode_unfinished (unfinished : ∀ byte ∈ bytes, 128 ≤ byte.toNat) :
    decode limit bytes = none := by
  induction limit generalizing bytes with
  | zero => rfl
  | succ limit ih =>
      cases bytes with
      | nil => rfl
      | cons byte bytes =>
          have ⟨goes, tail⟩ := List.forall_mem_cons.mp unfinished
          rw [decode, if_neg (Nat.not_lt.mpr goes), ih tail]
          rfl

theorem unfinished_of_decode (missing : decode limit bytes = none) (short : bytes.length < limit) :
    ∀ byte ∈ bytes, 128 ≤ byte.toNat := by
  induction limit generalizing bytes with
  | zero => cases short
  | succ limit ih =>
      cases bytes with
      | nil => simp
      | cons byte bytes =>
          rw [decode] at missing
          split at missing
          case isTrue => cases missing
          case isFalse goes =>
            exact List.forall_mem_cons.mpr ⟨Nat.not_lt.mp goes,
              ih (Option.map_eq_none_iff.mp missing) (Nat.lt_of_succ_lt_succ short)⟩

theorem front_split {count low : Nat} (found : front count bytes = some (low, rest)) :
    ∃ before, bytes = before ++ rest ∧ before.length = count ∧
      ∀ byte ∈ before, 128 ≤ byte.toNat := by
  induction count generalizing bytes low with
  | zero =>
      cases found
      exact ⟨[], rfl, rfl, by simp⟩
  | succ count ih =>
      cases bytes with
      | nil => cases found
      | cons byte bytes =>
          rw [front] at found
          split at found
          case isTrue => cases found
          case isFalse goes =>
            obtain ⟨⟨digits, left⟩, inner, same⟩ := Option.map_eq_some_iff.mp found
            cases same
            obtain ⟨before, rfl, length, unfinished⟩ := ih inner
            exact ⟨byte :: before, rfl, congrArg Nat.succ length,
              List.forall_mem_cons.mpr ⟨Nat.not_lt.mp goes, unfinished⟩⟩

theorem decode_mono {more : Nat} (found : decode limit bytes = some (value, rest))
    (bound : limit ≤ more) : decode more bytes = some (value, rest) := by
  induction limit generalizing bytes value more with
  | zero => cases found
  | succ limit ih =>
      obtain ⟨more, rfl⟩ := Nat.exists_eq_succ_of_ne_zero (Nat.ne_of_gt (Nat.zero_lt_of_lt bound))
      cases bytes with
      | nil => cases found
      | cons byte bytes =>
          rw [decode] at found ⊢
          split at found
          case isTrue last => rw [if_pos last, found]
          case isFalse goes =>
            obtain ⟨⟨digits, left⟩, inner, same⟩ := Option.map_eq_some_iff.mp found
            cases same
            rw [if_neg goes, ih inner (Nat.le_of_succ_le_succ bound)]
            rfl

end TalkSystem.Base128
