import TalkSystem.Base.CString
import TalkSystem.Machine.CheckedMemory
import TalkSystem.Machine.SqlLiteral

/-!
# Escaped texts of a `CDBConn`

`EscapeString` writes into a buffer of the connection, which the next call writes
again. `mysql_real_escape_string` is outside: it is given by the text that it
writes.
-/

set_option autoImplicit false

namespace TalkSystem.DbProxyServer

def MAX_ESCAPE_STRING_LEN : Nat := 10240

structure CDBConn where
  m_escape_string : List UInt8
  size : m_escape_string.length = MAX_ESCAPE_STRING_LEN + 1

/-- The bytes that `mysql_real_escape_string` has to escape. -/
def mustEscape : Bytes := [0, 10, 13, 92, 39, 34, 26]

/-- What a byte of the content may become: itself, or an escape sequence for it. -/
inductive EscapedByte (byte : UInt8) : Bytes → Prop where
  | copied : byte ∉ mustEscape → EscapedByte byte [byte]
  | escaped {next : UInt8} : next ≠ 0 → SqlLiteral.unescape next = [byte] →
      EscapedByte byte [SqlLiteral.backslash, next]

/-- What is relied on: the content is escaped byte by byte. -/
def EscapesBytes (mysql_real_escape_string : Bytes → Bytes) : Prop :=
  ∀ content, ∃ parts : List Bytes, mysql_real_escape_string content = parts.flatten ∧
    List.Forall₂ EscapedByte content parts

namespace CDBConn

/-- The buffer after `EscapeString`; there is no result when the content or the buffer is
left. -/
def EscapeString (mysql_real_escape_string : Bytes → Bytes) (conn : CDBConn) (content : Bytes)
    (content_len : Nat) : Option Bytes :=
  if MAX_ESCAPE_STRING_LEN / 2 < content_len then
    CheckedMemory.store conn.m_escape_string 0 [0]
  else
    (CheckedMemory.load content 0 content_len).bind fun content =>
      CheckedMemory.store conn.m_escape_string 0 (mysql_real_escape_string content ++ [0])

end CDBConn

end TalkSystem.DbProxyServer
