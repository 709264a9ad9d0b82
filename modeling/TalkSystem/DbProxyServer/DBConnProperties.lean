import TalkSystem.DbProxyServer.DBConn
import TalkSystem.Machine.SqlStatement

/-!
# Statements with escaped texts

The text of `EscapeString` put between quotes is read by MySQL as the content,
wherever in a statement it stands.
-/

set_option autoImplicit false

namespace TalkSystem.DbProxyServer

open SqlLiteral

/-! ## Escaped bytes -/

theorem EscapedByte.length_le {byte : UInt8} {part : Bytes} (escaped : EscapedByte byte part) :
    part.length ≤ 2 := by
  cases escaped with
  | copied => simp
  | escaped => exact Nat.le_refl 2

theorem EscapedByte.no_nul {byte : UInt8} {part : Bytes} (escaped : EscapedByte byte part) :
    0 ∉ part := by
  cases escaped with
  | copied plain =>
      rintro nul
      cases List.mem_singleton.mp nul
      exact plain (by decide)
  | escaped visible => simp [backslash, Ne.symm visible]

theorem EscapedByte.scan {byte : UInt8} {part input : Bytes} (escaped : EscapedByte byte part)
    (more : input ≠ []) : SqlLiteral.scan (part ++ input) = consValue [byte] (scan input) := by
  cases escaped with
  | copied plain =>
      refine scan_plain ?_ ?_ more
      · rintro rfl
        exact plain (by decide)
      · rintro rfl
        exact plain (by decide)
  | escaped _ value => rw [List.cons_append, List.singleton_append, scan_escape, value]

section Escapes

variable {content : Bytes} {parts : List Bytes}

theorem escaped_length (escaped : List.Forall₂ EscapedByte content parts) :
    parts.flatten.length ≤ 2 * content.length := by
  induction escaped with
  | nil => exact Nat.le_refl 0
  | cons first _ ih =>
      have short := first.length_le
      simp only [List.flatten_cons, List.length_append, List.length_cons]
      omega

theorem escaped_no_nul (escaped : List.Forall₂ EscapedByte content parts) : 0 ∉ parts.flatten := by
  induction escaped with
  | nil => simp
  | cons first _ ih =>
      rw [List.flatten_cons, List.mem_append, not_or]
      exact ⟨first.no_nul, ih⟩

theorem scan_escaped (escaped : List.Forall₂ EscapedByte content parts) {rest : Bytes}
    (undoubled : rest.head? ≠ some quote) :
    scan (parts.flatten ++ quote :: rest) = some (content, rest) := by
  induction escaped with
  | nil => exact scan_verbatim (show Verbatim [] from trivial) undoubled
  | cons first _ ih =>
      rw [List.flatten_cons, List.append_assoc, first.scan (by simp), ih]
      rfl

end Escapes

/-! ## `EscapeString` -/

/-- The content that a call can hold; a longer one is dropped. -/
def heldContent (content : Bytes) (content_len : Nat) : Bytes :=
  if MAX_ESCAPE_STRING_LEN / 2 < content_len then [] else content.take content_len

variable {mysql_real_escape_string : Bytes → Bytes} {conn : CDBConn} {content : Bytes}
  {content_len : Nat}

/-- The call stays in the buffer, and its text is an escaped form of the content. -/
theorem EscapeString_text (escapes : EscapesBytes mysql_real_escape_string)
    (reads : content_len ≤ content.length) :
    ∃ buffer parts, conn.EscapeString mysql_real_escape_string content content_len = some buffer ∧
      buffer.length = MAX_ESCAPE_STRING_LEN + 1 ∧ cStr buffer = parts.flatten ∧
      List.Forall₂ EscapedByte (heldContent content content_len) parts := by
  have stored {text : Bytes} (visible : 0 ∉ text) (fits : text.length ≤ MAX_ESCAPE_STRING_LEN) :
      ∃ buffer, CheckedMemory.store conn.m_escape_string 0 (text ++ [0]) = some buffer ∧
        buffer.length = MAX_ESCAPE_STRING_LEN + 1 ∧ cStr buffer = text := by
    have size := conn.size
    refine ⟨_, CheckedMemory.store_inside (by simp; omega), by simp; omega, ?_⟩
    rw [List.take_zero, List.nil_append, List.append_assoc, cStr_append visible]
    simp [cStr]
  unfold CDBConn.EscapeString heldContent
  split
  case isTrue =>
    obtain ⟨buffer, kept, size, text⟩ := @stored [] (by simp) (Nat.zero_le _)
    exact ⟨buffer, [], kept, size, text, .nil⟩
  case isFalse short =>
    obtain ⟨parts, written, escaped⟩ := escapes (content.take content_len)
    have length := escaped_length escaped
    have half : content_len ≤ MAX_ESCAPE_STRING_LEN / 2 := Nat.not_lt.mp short
    rw [List.length_take, Nat.min_eq_left reads] at length
    obtain ⟨buffer, kept, size, text⟩ := stored (escaped_no_nul escaped)
      (by have even : MAX_ESCAPE_STRING_LEN = 10240 := rfl; omega)
    refine ⟨buffer, parts, ?_, size, text, escaped⟩
    rw [CheckedMemory.load_inside (by omega), Option.bind_some, List.drop_zero, written]
    exact kept

/-! ## Statements -/

/-- A literal of a statement: the code in front of it, the connection as the call for it finds it,
and what the call is given. -/
structure EscapedLiteral where
  code : Bytes
  conn : CDBConn
  content : Bytes
  content_len : Nat

namespace EscapedLiteral

/-- The text that the call returns, copied before the buffer is used again. -/
def text (mysql_real_escape_string : Bytes → Bytes) (literal : EscapedLiteral) : Bytes :=
  cStr ((literal.conn.EscapeString mysql_real_escape_string literal.content
    literal.content_len).getD [])

def value (literal : EscapedLiteral) : Bytes := heldContent literal.content literal.content_len

theorem reads (escapes : EscapesBytes mysql_real_escape_string) {literal : EscapedLiteral}
    (inside : literal.content_len ≤ literal.content.length) :
    SqlStatement.Reads (literal.text mysql_real_escape_string) literal.value := by
  intro rest undoubled
  obtain ⟨buffer, parts, result, _, text, escaped⟩ :=
    @EscapeString_text _ literal.conn _ _ escapes inside
  rw [EscapedLiteral.text, result, Option.getD_some, text]
  exact scan_escaped escaped undoubled

end EscapedLiteral

/-- The escapes of MySQL for a byte. -/
def mysqlEscape (byte : UInt8) : Bytes :=
  if byte = 0 then [backslash, 48]
  else if byte = 10 then [backslash, 110]
  else if byte = 13 then [backslash, 114]
  else if byte = 26 then [backslash, 90]
  else if byte = 92 ∨ byte = 39 ∨ byte = 34 then [backslash, byte]
  else [byte]

theorem mysqlEscape_escaped (byte : UInt8) : EscapedByte byte (mysqlEscape byte) := by
  by_cases special : byte ∈ mustEscape
  · simp only [mustEscape, List.mem_cons, List.not_mem_nil, or_false] at special
    rcases special with rfl | rfl | rfl | rfl | rfl | rfl | rfl
    all_goals exact .escaped (by decide) (by decide)
  · have copied : mysqlEscape byte = [byte] := by
      simp only [mustEscape, List.mem_cons, List.not_mem_nil, or_false, not_or] at special
      simp [mysqlEscape, special]
    rw [copied]
    exact .copied special

theorem mysqlEscape_escapes : EscapesBytes fun content => content.flatMap mysqlEscape := by
  intro content
  refine ⟨content.map mysqlEscape, List.flatMap_def, ?_⟩
  rw [List.forall₂_map_right_iff, List.forall₂_same]
  exact fun byte _ => mysqlEscape_escaped byte

/-- A connection whose buffer is still zeroed. -/
def freshConn : CDBConn := ⟨List.replicate (MAX_ESCAPE_STRING_LEN + 1) 0, List.length_replicate⟩

end TalkSystem.DbProxyServer
