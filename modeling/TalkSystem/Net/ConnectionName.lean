import Mathlib.Data.List.Basic
import Mathlib.Algebra.Group.Int.Defs
import Mathlib.Algebra.GroupWithZero.Nat
import Mathlib.Data.Int.Order.Basic

/-!
# Names of connections

`TcpServer` names a connection after itself, its listening address and a
counter. The last two are printed into a buffer of 64 bytes; they always fit,
so connections have different names until the counter wraps.
-/

set_option autoImplicit false

namespace TalkSystem.Net

structure InetAddress where
  octets : UInt8 × UInt8 × UInt8 × UInt8
  port : UInt16
  deriving DecidableEq

namespace InetAddress

/-- What `inet_ntop` prints. -/
def toIp (address : InetAddress) : String :=
  toString address.octets.1.toNat ++ "." ++ toString address.octets.2.1.toNat ++ "." ++
    toString address.octets.2.2.1.toNat ++ "." ++ toString address.octets.2.2.2.toNat

def toIpPort (address : InetAddress) : String :=
  address.toIp ++ ":" ++ toString address.port.toNat

end InetAddress

/-- What `snprintf(buf, size, …)` leaves in `buf` of a text. -/
def snprintf (size : Nat) (text : String) : String :=
  String.ofList (text.toList.take (size - 1))

def connName (name ipPort : String) (nextConnId : Int) : String :=
  name ++ snprintf 64 ("-" ++ ipPort ++ "#" ++ toString nextConnId)

/-- `++nextConnId_` of an `int`. -/
def nextId (connId : Int) : Int := (connId + 1).bmod (2 ^ 32)

theorem nextId_of_lt {count : Nat} (bounded : count + 1 < 2 ^ 31) :
    nextId count = (count + 1 : Nat) := by
  unfold nextId
  rw [Int.bmod_eq_of_le (by omega) (by omega)]
  rfl

theorem toDigits_length_le {value digits : Nat} (positive : 0 < digits)
    (bounded : value < 10 ^ digits) : (Nat.toDigits 10 value).length ≤ digits :=
  (Nat.length_toDigits_le_iff (by decide) positive).mpr bounded

theorem toIpPort_length (address : InetAddress) : address.toIpPort.toList.length ≤ 21 := by
  have octet (byte : UInt8) : (Nat.toDigits 10 byte.toNat).length ≤ 3 :=
    toDigits_length_le (by decide) (Nat.lt_trans byte.toNat_lt (by decide))
  have port : (Nat.toDigits 10 address.port.toNat).length ≤ 5 :=
    toDigits_length_le (by decide) (Nat.lt_trans address.port.toNat_lt (by decide))
  have first := octet address.octets.1
  have second := octet address.octets.2.1
  have third := octet address.octets.2.2.1
  have fourth := octet address.octets.2.2.2
  simp only [InetAddress.toIpPort, InetAddress.toIp, String.toList_append, List.length_append,
    Nat.toString_eq_repr, Nat.toList_repr]
  have dot : ".".toList.length = 1 := rfl
  have colon : ":".toList.length = 1 := rfl
  omega

theorem snprintf_of_short {size : Nat} {text : String} (short : text.toList.length < size) :
    snprintf size text = text := by
  rw [snprintf, List.take_of_length_le (by omega), String.ofList_toList]

theorem connName_ne_empty (name ipPort : String) (nextConnId : Int) :
    connName name ipPort nextConnId ≠ "" := by
  intro empty
  have chars := congrArg String.toList empty
  simp [connName, snprintf] at chars

theorem connName_injective {name : String} {address : InetAddress} {first second : Nat}
    (first_bounded : first < 2 ^ 31) (second_bounded : second < 2 ^ 31)
    (same : connName name address.toIpPort first = connName name address.toIpPort second) :
    first = second := by
  have fits {count : Nat} (bounded : count < 2 ^ 31) :
      snprintf 64 ("-" ++ address.toIpPort ++ "#" ++ toString (count : Int)) =
        "-" ++ address.toIpPort ++ "#" ++ count.repr := by
    have digits : (Nat.toDigits 10 count).length ≤ 10 :=
      toDigits_length_le (by decide) (Nat.lt_trans bounded (by decide))
    have ipPort := toIpPort_length address
    have dash : "-".toList.length = 1 := rfl
    have hash : "#".toList.length = 1 := rfl
    apply snprintf_of_short
    simp only [String.toList_append, List.length_append]
    change _ + count.repr.toList.length < 64
    rw [Nat.toList_repr]
    omega
  rw [connName, connName, fits first_bounded, fits second_bounded, ← String.toList_inj] at same
  simp only [String.toList_append, List.append_cancel_left_eq, Nat.toList_repr] at same
  have decoded := congrArg (fun chars => Nat.ofDigitChars 10 chars 0) same
  simpa [Nat.ofDigitChars_toDigits] using decoded

end TalkSystem.Net
