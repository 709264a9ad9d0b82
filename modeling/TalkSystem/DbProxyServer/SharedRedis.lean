import TalkSystem.DbProxyServer.CacheErrorProperties
import TalkSystem.DbProxyServer.Redis

/-!
# Connections that share a database

Any number of `CacheConn`s, those of this process and of others, on one database.
A command is one step of the database; its reply may be lost, and so may the
command.
-/

set_option autoImplicit false

namespace TalkSystem.DbProxyServer

/-- The command of an operation that gets as far. `Init` has none, nor has `mget`
for keys that make an empty text. -/
def CacheOp.command : CacheOp → Option RedisCommand
  | .Init => none
  | .get key => some (.format (ascii "GET %s") [.str (cStr key)])
  | .setex key timeout value =>
      some (.format (ascii "SETEX %s %d %s") [.str (cStr key), .int timeout, .str (cStr value)])
  | .set key value => some (.format (ascii "SET %s %s") [.str (cStr key), .str (cStr value)])
  | .mget keys _ => CacheConn.mgetCommand keys
  | .isExists key => some (CacheConn.isExistsCommand key)
  | .hdel key field => some (.format (ascii "HDEL %s %s") [.str (cStr key), .str (cStr field)])
  | .hget key field => some (.format (ascii "HGET %s %s") [.str (cStr key), .str (cStr field)])
  | .hgetAll key _ => some (.format (ascii "HGETALL %s") [.str (cStr key)])
  | .hset key field value =>
      some (.format (ascii "HSET %s %s %s")
        [.str (cStr key), .str (cStr field), .str (cStr value)])
  | .hincrBy key field value =>
      some (.format (ascii "HINCRBY %s %s %ld")
        [.str (cStr key), .str (cStr field), .long value])
  | .incrBy key value => some (.format (ascii "INCRBY %s %ld") [.str (cStr key), .long value])
  | .hmset key hash =>
      some (.argv (ascii "HMSET" :: cStr key ::
        hash.toList.flatMap fun entry => [cStr entry.1, cStr entry.2]))
  | .hmget key fields _ => some (.argv (ascii "HMGET" :: cStr key :: fields.map cStr))
  | .incr key => some (.format (ascii "INCR %s") [.str (cStr key)])
  | .decr key => some (.format (ascii "DECR %s") [.str (cStr key)])
  | .lpush key value => some (.format (ascii "LPUSH %s %s") [.str (cStr key), .str (cStr value)])
  | .rpush key value => some (.format (ascii "RPUSH %s %s") [.str (cStr key), .str (cStr value)])
  | .llen key => some (.format (ascii "LLEN %s") [.str (cStr key)])
  | .lrange key start stop _ =>
      some (.format (ascii "LRANGE %s %d %d") [.str (cStr key), .long start, .long stop])

/-- The key whose value an operation may change. -/
def CacheOp.target : CacheOp → Option Bytes
  | .setex key _ _ | .set key _ | .hdel key _ | .hset key _ _ | .hincrBy key _ _ | .incrBy key _
  | .hmset key _ | .incr key | .decr key | .lpush key _ | .rpush key _ => some (cStr key)
  | .Init | .get _ | .mget _ _ | .isExists _ | .hget _ _ | .hgetAll _ _ | .hmget _ _ _ | .llen _
  | .lrange _ _ _ _ => none

/-- The amount that an operation adds to a counter. -/
def CacheOp.increment (key : Bytes) : CacheOp → Option Int
  | .incr counter => if cStr counter = key then some 1 else none
  | .incrBy counter value => if cStr counter = key then some value else none
  | _ => none

/-- What becomes of the command of an operation: the database does not get it, it
executes it and the reply is lost, or the reply arrives. -/
inductive Delivery where
  | unsent
  | unanswered
  | answered
  deriving DecidableEq, Repr

/-- `results` lists what the operations have returned, in order. -/
structure SharedRedis (Store : Type) where
  store : Store
  conns : Nat → CacheConn
  results : List (CacheOp × Option CacheResult)

/-- `around` is what the operation meets besides the reply to its command. -/
structure SharedCall where
  conn : Nat
  op : CacheOp
  around : RedisAnswers
  delivery : Delivery

namespace SharedRedis

variable {Store : Type}

def answers (redis : Redis Store) (store : Store) (call : SharedCall) : RedisAnswers :=
  { call.around with
    command := fun command =>
      if call.delivery = .answered then redis.answer store command else none }

/-- The database after the calls of hiredis that an operation has made. -/
def served (redis : Redis Store) (store : Store) (delivery : Delivery) (calls : List RedisCall) :
    Store :=
  if delivery = .unsent then store else calls.foldl redis.after store

def call (redis : Redis Store) (server : CacheServer) (shared : SharedRedis Store)
    (call : SharedCall) : SharedRedis Store :=
  let conn := shared.conns call.conn
  let answers := answers redis shared.store call
  let next := call.op.apply conn server answers
  { store := served redis shared.store call.delivery (next.calls.drop conn.calls.length)
    conns := Function.update shared.conns call.conn next
    results := shared.results ++ [(call.op, call.op.result conn server answers)] }

/-- The connections that nobody has used yet. -/
def start (store : Store) : SharedRedis Store := ⟨store, fun _ => .new, []⟩

def machine (redis : Redis Store) (server : CacheServer) :
    Machine (SharedRedis Store) SharedCall where
  step shared sharedCall := some (shared.call redis server sharedCall)

end SharedRedis

end TalkSystem.DbProxyServer
