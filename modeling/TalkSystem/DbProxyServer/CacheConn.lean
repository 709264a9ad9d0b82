import TalkSystem.Base.CString
import TalkSystem.Machine.Runs

/-!
# `CacheConn`

A connection to Redis with its operations. hiredis is outside: what it answers
is given with each call, and a history records what it is asked. Its contexts are
numbered in the order in which they are handed out, so that a freed context is
never taken for a later one.
-/

set_option autoImplicit false

namespace TalkSystem.DbProxyServer

/-! ## hiredis -/

inductive FormatArg where
  | str (text : Bytes)
  | int (value : Int)
  | long (value : Int)
  deriving DecidableEq, Repr

/-- What `redisCommand` or `redisCommandArgv` is given after the context. -/
inductive RedisCommand where
  | format (format : Bytes) (args : List FormatArg)
  | argv (argv : List Bytes)
  deriving DecidableEq, Repr

inductive RedisReply where
  | status (str : Bytes)
  | error (str : Bytes)
  | string (str : Bytes)
  | integer (value : Int)
  | nil
  | array (elements : List RedisReply)
  deriving Repr

namespace RedisReply

/-- `reply->str` with its length; a reply that has none is zeroed. -/
def str : RedisReply → Bytes
  | .status str | .error str | .string str => str
  | .integer _ | .nil | .array _ => []

/-- `reply->integer`; a reply that has none is zeroed. -/
def toInteger : RedisReply → Int
  | .integer value => value
  | .status _ | .error _ | .string _ | .nil | .array _ => 0

/-- The value of a string reply. -/
def toText : RedisReply → Bytes
  | .string str => str
  | .status _ | .error _ | .integer _ | .nil | .array _ => []

def isOk : RedisReply → Bool
  | .status str => (ascii "OK").isPrefixOf str
  | .error _ | .string _ | .integer _ | .nil | .array _ => false

end RedisReply

inductive RedisCall where
  | connect (ip : String) (port : Int) (context : Option Nat)
  | select (context : Option Nat) (dbNum : Int) (reply : Option RedisReply)
  | command (context : Option Nat) (command : RedisCommand) (reply : Option RedisReply)
  | free (context : Option Nat)

/-- The context that a call is applied to. -/
def RedisCall.context? : RedisCall → Option Nat
  | .connect _ _ _ => none
  | .select context _ _ | .command context _ _ | .free context => context

/-- What the clock and hiredis answer during one operation. `connect` is `none`
for a NULL context, and otherwise says whether `err` is set in it. -/
structure RedisAnswers where
  curTime : UInt64
  connect : Option Bool
  select : Option RedisReply
  command : RedisCommand → Option RedisReply

/-- What a `CacheConn` asks its `CachePool`. -/
structure CacheServer where
  serverIP : String
  serverPort : Int
  dbNum : Int
  deriving DecidableEq, Repr

/-! ## The connection -/

/-- `contexts` counts the contexts that hiredis has handed out. -/
structure CacheConn where
  pContext : Option Nat
  lastConnectTime : UInt64
  contexts : Nat
  calls : List RedisCall
  destroyed : Bool

namespace CacheConn

def new : CacheConn where
  pContext := none
  lastConnectTime := 0
  contexts := 0
  calls := []
  destroyed := false

def record (conn : CacheConn) (call : RedisCall) : CacheConn :=
  { conn with calls := conn.calls ++ [call] }

def redisConnectWithTimeout (conn : CacheConn) (server : CacheServer) : CacheConn :=
  { conn.record (.connect server.serverIP server.serverPort (some conn.contexts)) with
    pContext := some conn.contexts
    contexts := conn.contexts + 1 }

def redisFree (conn : CacheConn) : CacheConn := conn.record (.free conn.pContext)

/-- `redisFree(m_pContext); m_pContext = NULL;` -/
def discard (conn : CacheConn) : CacheConn := { conn.redisFree with pContext := none }

def redisCommand (conn : CacheConn) (answers : RedisAnswers) (command : RedisCommand) :
    CacheConn × Option RedisReply :=
  (conn.record (.command conn.pContext command (answers.command command)),
    answers.command command)

def selectDB (conn : CacheConn) (server : CacheServer) (answers : RedisAnswers) : CacheConn × Int :=
  (conn.record (.select conn.pContext server.dbNum answers.select),
    if answers.select.any RedisReply.isOk then 0 else 2)

def Init (conn : CacheConn) (server : CacheServer) (answers : RedisAnswers) : CacheConn × Int :=
  if conn.pContext.isSome then
    (conn, 0)
  else if answers.curTime < conn.lastConnectTime + 4 then
    (conn, 1)
  else
    let conn := { conn with lastConnectTime := answers.curTime }
    match answers.connect with
    | none => (conn.record (.connect server.serverIP server.serverPort none), 1)
    | some true => ((conn.redisConnectWithTimeout server).discard, 1)
    | some false => (conn.redisConnectWithTimeout server).selectDB server answers

/-- The command of an operation and what follows it. -/
def issue {Result : Type} (conn : CacheConn) (answers : RedisAnswers) (command : RedisCommand)
    (failure : Result) (decode : RedisReply → Result) : CacheConn × Result :=
  match conn.redisCommand answers command with
  | (conn, none) => (conn.discard, failure)
  | (conn, some reply) => (conn, decode reply)

/-- The body that the operations share. -/
def perform {Result : Type} (conn : CacheConn) (server : CacheServer) (answers : RedisAnswers)
    (command : RedisCommand) (failure : Result) (decode : RedisReply → Result) :
    CacheConn × Result :=
  let (conn, ret) := conn.Init server answers
  if ret ≠ 0 then (conn, failure) else conn.issue answers command failure decode

/-! ## The operations -/

section Operations

variable (conn : CacheConn) (server : CacheServer) (answers : RedisAnswers)

def get (key : Bytes) : CacheConn × Bytes :=
  conn.perform server answers (.format (ascii "GET %s") [.str (cStr key)]) [] RedisReply.toText

def setex (key : Bytes) (timeout : Int) (value : Bytes) : CacheConn × Bytes :=
  conn.perform server answers
    (.format (ascii "SETEX %s %d %s") [.str (cStr key), .int timeout, .str (cStr value)])
    [] RedisReply.str

def set (key value : Bytes) : CacheConn × Bytes :=
  conn.perform server answers (.format (ascii "SET %s %s") [.str (cStr key), .str (cStr value)])
    [] RedisReply.str

/-- The loop over the elements of a reply to `MGET`; `none` is an index past the
end of `keys`. -/
def mgetElements (keys : List Bytes) :
    Nat → List RedisReply → StringMap → Option StringMap
  | _, [], ret_value => some ret_value
  | i, .string str :: elements, ret_value =>
      match keys[i]? with
      | none => none
      | some key => mgetElements keys (i + 1) elements (ret_value.insert key (cStr str))
  | i, _ :: elements, ret_value => mgetElements keys (i + 1) elements ret_value

def mgetDecode (keys : List Bytes) (ret_value : StringMap) : RedisReply → Option (Bool × StringMap)
  | .array elements =>
      (mgetElements keys 0 elements ret_value).map fun ret_value => (true, ret_value)
  | .status _ | .error _ | .string _ | .integer _ | .nil => some (true, ret_value)

/-- The format string of `mget`, unless its keys make an empty text. -/
def mgetCommand (keys : List Bytes) : Option RedisCommand :=
  let strKey := (ascii " ").intercalate keys
  if strKey = [] then none else some (.format (cStr (ascii "MGET " ++ strKey)) [])

def mget (keys : List Bytes) (ret_value : StringMap) : CacheConn × Option (Bool × StringMap) :=
  let (conn, ret) := conn.Init server answers
  if ret ≠ 0 then
    (conn, some (false, ret_value))
  else
    match mgetCommand keys with
    | none => (conn, some (false, ret_value))
    | some command =>
        conn.issue answers command (some (false, ret_value)) (mgetDecode keys ret_value)

def isExistsCommand (key : Bytes) : RedisCommand := .format (ascii "EXISTS %s") [.str (cStr key)]

/-- Unlike the others it does not set `m_pContext` to NULL when the reply is NULL. -/
def isExists (key : Bytes) : CacheConn × Bool :=
  let (conn, ret) := conn.Init server answers
  if ret ≠ 0 then
    (conn, false)
  else
    match conn.redisCommand answers (isExistsCommand key) with
    | (conn, none) => (conn.redisFree, false)
    | (conn, some reply) => (conn, reply.toInteger ≠ 0)

def hdel (key field : Bytes) : CacheConn × Int :=
  conn.perform server answers (.format (ascii "HDEL %s %s") [.str (cStr key), .str (cStr field)])
    0 RedisReply.toInteger

def hget (key field : Bytes) : CacheConn × Bytes :=
  conn.perform server answers (.format (ascii "HGET %s %s") [.str (cStr key), .str (cStr field)])
    [] RedisReply.toText

def insertPairs : List RedisReply → StringMap → StringMap
  | field :: value :: elements, ret_value =>
      insertPairs elements (ret_value.insertIfNew field.str value.str)
  | _, ret_value => ret_value

def hgetAllDecode (ret_value : StringMap) : RedisReply → Bool × StringMap
  | .array elements =>
      (true, if elements.length % 2 = 0 then insertPairs elements ret_value else ret_value)
  | .status _ | .error _ | .string _ | .integer _ | .nil => (true, ret_value)

def hgetAll (key : Bytes) (ret_value : StringMap) : CacheConn × Bool × StringMap :=
  conn.perform server answers (.format (ascii "HGETALL %s") [.str (cStr key)])
    (false, ret_value) (hgetAllDecode ret_value)

def hset (key field value : Bytes) : CacheConn × Int :=
  conn.perform server answers
    (.format (ascii "HSET %s %s %s") [.str (cStr key), .str (cStr field), .str (cStr value)])
    (-1) RedisReply.toInteger

def hincrBy (key field : Bytes) (value : Int) : CacheConn × Int :=
  conn.perform server answers
    (.format (ascii "HINCRBY %s %s %ld") [.str (cStr key), .str (cStr field), .long value])
    (-1) RedisReply.toInteger

def incrBy (key : Bytes) (value : Int) : CacheConn × Int :=
  conn.perform server answers (.format (ascii "INCRBY %s %ld") [.str (cStr key), .long value])
    (-1) RedisReply.toInteger

def hmset (key : Bytes) (hash : StringMap) : CacheConn × Bytes :=
  conn.perform server answers
    (.argv (ascii "HMSET" :: cStr key ::
      hash.toList.flatMap fun entry => [cStr entry.1, cStr entry.2]))
    [] RedisReply.str

/-- `hmget` and `lrange` append the elements of an array. -/
def appendElements (ret_value : List Bytes) : RedisReply → Bool × List Bytes
  | .array elements => (true, ret_value ++ elements.map RedisReply.str)
  | .status _ | .error _ | .string _ | .integer _ | .nil => (true, ret_value)

def hmget (key : Bytes) (fields ret_value : List Bytes) : CacheConn × Bool × List Bytes :=
  conn.perform server answers (.argv (ascii "HMGET" :: cStr key :: fields.map cStr))
    (false, ret_value) (appendElements ret_value)

def incr (key : Bytes) : CacheConn × Int :=
  conn.perform server answers (.format (ascii "INCR %s") [.str (cStr key)])
    (-1) RedisReply.toInteger

def decr (key : Bytes) : CacheConn × Int :=
  conn.perform server answers (.format (ascii "DECR %s") [.str (cStr key)])
    (-1) RedisReply.toInteger

def lpush (key value : Bytes) : CacheConn × Int :=
  conn.perform server answers (.format (ascii "LPUSH %s %s") [.str (cStr key), .str (cStr value)])
    (-1) RedisReply.toInteger

def rpush (key value : Bytes) : CacheConn × Int :=
  conn.perform server answers (.format (ascii "RPUSH %s %s") [.str (cStr key), .str (cStr value)])
    (-1) RedisReply.toInteger

def llen (key : Bytes) : CacheConn × Int :=
  conn.perform server answers (.format (ascii "LLEN %s") [.str (cStr key)])
    (-1) RedisReply.toInteger

def lrange (key : Bytes) (start stop : Int) (ret_value : List Bytes) :
    CacheConn × Bool × List Bytes :=
  conn.perform server answers
    (.format (ascii "LRANGE %s %d %d") [.str (cStr key), .long start, .long stop])
    (false, ret_value) (appendElements ret_value)

end Operations

/-- `~CacheConn`. -/
def destroy (conn : CacheConn) : CacheConn :=
  { (if conn.pContext.isSome then conn.discard else conn) with destroyed := true }

end CacheConn

/-! ## Runs of operations -/

inductive CacheOp where
  | Init
  | get (key : Bytes)
  | setex (key : Bytes) (timeout : Int) (value : Bytes)
  | set (key value : Bytes)
  | mget (keys : List Bytes) (ret_value : StringMap)
  | isExists (key : Bytes)
  | hdel (key field : Bytes)
  | hget (key field : Bytes)
  | hgetAll (key : Bytes) (ret_value : StringMap)
  | hset (key field value : Bytes)
  | hincrBy (key field : Bytes) (value : Int)
  | incrBy (key : Bytes) (value : Int)
  | hmset (key : Bytes) (hash : StringMap)
  | hmget (key : Bytes) (fields ret_value : List Bytes)
  | incr (key : Bytes)
  | decr (key : Bytes)
  | lpush (key value : Bytes)
  | rpush (key value : Bytes)
  | llen (key : Bytes)
  | lrange (key : Bytes) (start stop : Int) (ret_value : List Bytes)

/-- The connection after an operation. -/
def CacheOp.apply (conn : CacheConn) (server : CacheServer) (answers : RedisAnswers) :
    CacheOp → CacheConn
  | .Init => (conn.Init server answers).1
  | .get key => (conn.get server answers key).1
  | .setex key timeout value => (conn.setex server answers key timeout value).1
  | .set key value => (conn.set server answers key value).1
  | .mget keys ret_value => (conn.mget server answers keys ret_value).1
  | .isExists key => (conn.isExists server answers key).1
  | .hdel key field => (conn.hdel server answers key field).1
  | .hget key field => (conn.hget server answers key field).1
  | .hgetAll key ret_value => (conn.hgetAll server answers key ret_value).1
  | .hset key field value => (conn.hset server answers key field value).1
  | .hincrBy key field value => (conn.hincrBy server answers key field value).1
  | .incrBy key value => (conn.incrBy server answers key value).1
  | .hmset key hash => (conn.hmset server answers key hash).1
  | .hmget key fields ret_value => (conn.hmget server answers key fields ret_value).1
  | .incr key => (conn.incr server answers key).1
  | .decr key => (conn.decr server answers key).1
  | .lpush key value => (conn.lpush server answers key value).1
  | .rpush key value => (conn.rpush server answers key value).1
  | .llen key => (conn.llen server answers key).1
  | .lrange key start stop ret_value => (conn.lrange server answers key start stop ret_value).1

inductive CacheLabel where
  | call (op : CacheOp) (answers : RedisAnswers)
  | destroy

namespace CacheConn

def step (server : CacheServer) (conn : CacheConn) (label : CacheLabel) : Option CacheConn :=
  if conn.destroyed then
    none
  else
    match label with
    | .call op answers => some (op.apply conn server answers)
    | .destroy => some conn.destroy

def machine (server : CacheServer) : Machine CacheConn CacheLabel where
  step := step server

end CacheConn

end TalkSystem.DbProxyServer
