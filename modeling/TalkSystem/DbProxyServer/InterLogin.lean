import Mathlib.Algebra.Group.Int.Defs
import Mathlib.Algebra.GroupWithZero.Nat
import TalkSystem.Base.CString
import TalkSystem.DbProxyServer.ConnPool

/-!
# `CInterLoginStrategy::doLogin`

The login check against the table `IMUser`, with the result set it walks and
the manager it borrows its connection from. MySQL is outside: it answers each
query with a table or with an error.
-/

set_option autoImplicit false

namespace TalkSystem.DbProxyServer

/-! ## `CResultSet` -/

/-- A fetched row; `none` is the null pointer that stands for SQL NULL. -/
abbrev Row := List (Option Bytes)

structure ResultTable where
  fields : List Bytes
  rows : List Row
  width : ∀ row ∈ rows, row.length = fields.length

/-- `strtol` on the digits that a text starts with. -/
def digits : Nat → Bytes → Nat
  | value, [] => value
  | value, byte :: text =>
      if 48 ≤ byte ∧ byte ≤ 57 then digits (value * 10 + (byte.toNat - 48)) text else value

/-- `atoi` of a C string: blanks, a sign, digits. The value is that of `strtol`
cut to an `int`. -/
def atoi (text : Bytes) : Int :=
  let value : Int :=
    match text.dropWhile fun byte => byte == 32 || (9 ≤ byte && byte ≤ 13) with
    | 45 :: text => -digits 0 text
    | 43 :: text => digits 0 text
    | text => digits 0 text
  (max (-2 ^ 63) (min (2 ^ 63 - 1) value)).bmod (2 ^ 32)

def toUInt32 (value : Int) : Nat := (value % 2 ^ 32).toNat

namespace CResultSet

/-- `_GetIndex`: the first field of a name is the one in the map. -/
def GetIndex (fields : List Bytes) (key : Bytes) : Option Nat := fields.idxOf? key

/-- `GetInt`; there is no result when `atoi` is given a null pointer. -/
def GetInt (fields : List Bytes) (row : Row) (key : Bytes) : Option Int :=
  match GetIndex fields key with
  | none => some 0
  | some idx => (row[idx]?.join).map fun text => atoi (cStr text)

/-- `GetString`; `none` is a null pointer. -/
def GetString (fields : List Bytes) (row : Row) (key : Bytes) : Option Bytes :=
  match GetIndex fields key with
  | none => none
  | some idx => row[idx]?.join

end CResultSet

/-! ## The manager -/

/-- The pools by name. -/
abbrev CDBManager (Conn : Type) := Bytes → Option (ConnPool Conn)

namespace CDBManager

variable {Conn : Type}

def GetDBConn (manager : CDBManager Conn) (dbpool_name : Bytes) (creation : Creation Conn) :
    CDBManager Conn × Borrowing Conn :=
  match manager dbpool_name with
  | none => (manager, .returns none)
  | some pool =>
      let (pool, borrowing) := CDBPool.GetDBConn pool creation
      (Function.update manager dbpool_name (some pool), borrowing)

/-- `poolName` is `GetPoolName`, the name of the pool that made the connection. -/
def RelDBConn [DecidableEq Conn] (manager : CDBManager Conn) (poolName : Conn → Bytes)
    (conn : Conn) : CDBManager Conn :=
  match manager (poolName conn) with
  | none => manager
  | some pool => Function.update manager (poolName conn) (some (CDBPool.RelDBConn pool conn))

end CDBManager

/-! ## The login -/

structure UserInfo where
  user_id : Nat
  user_gender : Nat
  user_nick_name : Bytes
  avatar_url : Bytes
  department_id : Nat
  email : Bytes
  user_real_name : Bytes
  user_tel : Bytes
  user_domain : Bytes
  status : Nat
  sign_info : Bytes
  deriving DecidableEq, Repr

/-- The local variables that the loop over the rows fills. -/
structure LoginRow where
  strResult : Bytes
  strSalt : Bytes
  nId : Nat
  nGender : Nat
  nDeptId : Nat
  nStatus : Nat
  strNick : Bytes
  strAvatar : Bytes
  strEmail : Bytes
  strRealName : Bytes
  strTel : Bytes
  strDomain : Bytes
  strSignInfo : Bytes
  deriving DecidableEq, Repr

/-- What is in the four integers before the loop, which nothing initialises. -/
structure Uninitialised where
  nId : Nat
  nGender : Nat
  nDeptId : Nat
  nStatus : Nat

def LoginRow.start (garbage : Uninitialised) : LoginRow where
  strResult := []
  strSalt := []
  nId := garbage.nId
  nGender := garbage.nGender
  nDeptId := garbage.nDeptId
  nStatus := garbage.nStatus
  strNick := []
  strAvatar := []
  strEmail := []
  strRealName := []
  strTel := []
  strDomain := []
  strSignInfo := []

/-- The setters called on `user` after a successful check. -/
def LoginRow.setUser (locals : LoginRow) : UserInfo where
  user_id := locals.nId
  user_nick_name := locals.strNick
  user_gender := locals.nGender
  user_real_name := locals.strRealName
  user_domain := locals.strDomain
  user_tel := locals.strTel
  email := locals.strEmail
  avatar_url := locals.strAvatar
  department_id := locals.nDeptId
  status := locals.nStatus
  sign_info := locals.strSignInfo

namespace CInterLoginStrategy

def sqlHead : Bytes := ascii "select * from IMUser where name='"
def sqlTail : Bytes := ascii " and status=0"

def strSql (strName : Bytes) : Bytes := sqlHead ++ strName ++ ascii "'" ++ sqlTail

/-- The text that `ExecuteQuery` passes to MySQL, which ends at the first NUL. -/
def queryText (strName : Bytes) : Bytes := cStr (strSql strName)

section Row

variable (fields : List Bytes) (row : Row)

/-- A column assigned to an integer. -/
def intColumn (key : String) : Option Nat :=
  (CResultSet.GetInt fields row (ascii key)).map toUInt32

/-- A column assigned to a `std::string`; there is no result for a null pointer. -/
def stringColumn (key : String) : Option Bytes :=
  (CResultSet.GetString fields row (ascii key)).map cStr

/-- One turn of the loop. There is no result when a null pointer is read. -/
def readRow : Option LoginRow := do
  let nId ← intColumn fields row "id"
  let strResult ← stringColumn fields row "password"
  let strSalt ← stringColumn fields row "salt"
  let strNick ← stringColumn fields row "nick"
  let nGender ← intColumn fields row "sex"
  let strRealName ← stringColumn fields row "name"
  let strDomain ← stringColumn fields row "domain"
  let strTel ← stringColumn fields row "phone"
  let strEmail ← stringColumn fields row "email"
  let strAvatar ← stringColumn fields row "avatar"
  let nDeptId ← intColumn fields row "departId"
  let nStatus ← intColumn fields row "status"
  let strSignInfo ← stringColumn fields row "sign_info"
  some { strResult, strSalt, nId, nGender, nDeptId, nStatus, strNick, strAvatar, strEmail,
         strRealName, strTel, strDomain, strSignInfo }

end Row

def readRows (fields : List Bytes) : List Row → LoginRow → Option LoginRow
  | [], locals => some locals
  | row :: rows, _ => do
      let locals ← readRow fields row
      readRows fields rows locals

/-- How a call ends: it is still blocked in `GetDBConn`, it has read a null
pointer, or it returns. `released` lists the connections it has given back. -/
inductive Outcome (Conn : Type) where
  | waits
  | nullPointer
  | returns (bRet : Bool) (user : UserInfo) (manager : CDBManager Conn) (released : List Conn)

/-- What a call meets: `creation` is used if the pool grows, `query` answers
`mysql_real_query` and `mysql_store_result`, and `meanwhile` is what other
threads do with the pools before the connection is given back. -/
structure Surroundings (Conn : Type) where
  poolName : Conn → Bytes
  creation : Creation Conn
  query : Conn → Bytes → Option ResultTable
  meanwhile : CDBManager Conn → CDBManager Conn
  garbage : Uninitialised

section Login

variable {Conn : Type} [DecidableEq Conn]

def poolKey : Bytes := ascii "teamtalk_slave"

/-- The check with a connection in hand, up to `RelDBConn`. -/
def check (around : Surroundings Conn) (conn : Conn) (manager : CDBManager Conn)
    (strName strPass : Bytes) (user : UserInfo) : Outcome Conn :=
  let release (bRet : Bool) (user : UserInfo) : Outcome Conn :=
    .returns bRet user ((around.meanwhile manager).RelDBConn around.poolName conn) [conn]
  match around.query conn (queryText strName) with
  | none => release false user
  | some table =>
      match readRows table.fields table.rows (.start around.garbage) with
      | none => .nullPointer
      | some locals =>
          if strPass ++ locals.strSalt = locals.strResult then
            release true locals.setUser
          else
            release false user

def doLogin (around : Surroundings Conn) (manager : CDBManager Conn) (strName strPass : Bytes)
    (user : UserInfo) : Outcome Conn :=
  match manager.GetDBConn poolKey around.creation with
  | (_, .waits) => .waits
  | (manager, .returns none) => .returns false user manager []
  | (manager, .returns (some conn)) => check around conn manager strName strPass user

end Login

end CInterLoginStrategy

end TalkSystem.DbProxyServer
