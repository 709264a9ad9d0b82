import Mathlib.Algebra.Group.Int.Defs
import Mathlib.Algebra.GroupWithZero.Nat
import TalkSystem.DbProxyServer.CacheConn
import TalkSystem.Machine.PairTable

/-!
# hiredis and Redis

Both are outside: an encoder of commands, the database behind it, and what the
database holds are parameters. `Documented` is what a `CacheConn` relies on: how
the formats in use are split into arguments, and the meaning of the commands on
strings and hashes.
-/

set_option autoImplicit false

namespace TalkSystem.DbProxyServer

/-! ## Formats -/

inductive FormatToken where
  | byte (byte : UInt8)
  | space
  | str
  | int
  | long
  deriving DecidableEq, Repr

/-- The tokens of a format that has no other conversions than `%s`, `%d` and `%ld`. -/
def formatTokens : Bytes → Option (List FormatToken)
  | [] => some []
  | 32 :: format => (formatTokens format).map (FormatToken.space :: ·)
  | 37 :: 115 :: format => (formatTokens format).map (FormatToken.str :: ·)
  | 37 :: 100 :: format => (formatTokens format).map (FormatToken.int :: ·)
  | 37 :: 108 :: 100 :: format => (formatTokens format).map (FormatToken.long :: ·)
  | byte :: format =>
      if byte = 37 ∨ byte = 0 then
        none
      else
        (formatTokens format).map (FormatToken.byte byte :: ·)

def decimal (value : Int) : Bytes := ascii (toString value)

/-- A space ends the argument that has been begun, if any; a conversion begins
one even when it inserts nothing. -/
def fillTokens : List FormatToken → List FormatArg → Option Bytes → Option (List Bytes)
  | [], _, current => some current.toList
  | .space :: tokens, args, current =>
      (fillTokens tokens args none).map (current.toList ++ ·)
  | .byte byte :: tokens, args, current =>
      fillTokens tokens args (some (current.getD [] ++ [byte]))
  | .str :: tokens, .str text :: args, current =>
      fillTokens tokens args (some (current.getD [] ++ cStr text))
  | .int :: tokens, .int value :: args, current =>
      fillTokens tokens args (some (current.getD [] ++ decimal value))
  | .long :: tokens, .long value :: args, current =>
      fillTokens tokens args (some (current.getD [] ++ decimal value))
  | .str :: _, _, _ | .int :: _, _, _ | .long :: _, _, _ => none

def formatArguments (format : Bytes) (args : List FormatArg) : Option (List Bytes) :=
  (formatTokens format).bind fun tokens => fillTokens tokens args none

/-! ## The database -/

/-- What a key holds. -/
inductive RedisValue where
  | text (text : Bytes)
  | hash (fields : Bytes → Option Bytes)
  | other

/-- `encode` gives the arguments that hiredis sends, `execute` is a command of
the database with its reply, and `value` is what is held under a key. -/
structure Redis (Store : Type) where
  encode : RedisCommand → Option (List Bytes)
  execute : Store → List Bytes → Store × RedisReply
  value : Store → Bytes → Option RedisValue

namespace Redis

variable {Store : Type} (redis : Redis Store)

/-- The fields of a key that the hash commands accept; without a value it is an
empty hash. -/
def fields (store : Store) (key : Bytes) : Option (Bytes → Option Bytes) :=
  match redis.value store key with
  | none => some fun _ => none
  | some (.hash fields) => some fields
  | some (.text _) | some .other => none

/-- The text of a key; a value of another type has none. -/
def text (store : Store) (key : Bytes) : Bytes :=
  match redis.value store key with
  | some (.text text) => text
  | some (.hash _) | some .other | none => []

structure Documented : Prop where
  format : ∀ {format args argv}, formatArguments format args = some argv →
    redis.encode (.format format args) = some argv
  argv : ∀ argv, redis.encode (.argv argv) = some (argv.map cStr)
  set : ∀ store key text,
    redis.value (redis.execute store [ascii "SET", key, text]).1 =
      Function.update (redis.value store) key (some (.text text))
  setex : ∀ store key timeout text, 0 < timeout → timeout < 2 ^ 31 →
    redis.value (redis.execute store [ascii "SETEX", key, decimal timeout, text]).1 =
      Function.update (redis.value store) key (some (.text text))
  setex_invalid : ∀ store key timeout text, timeout ≤ 0 → -2 ^ 31 ≤ timeout →
    redis.value (redis.execute store [ascii "SETEX", key, decimal timeout, text]).1 =
      redis.value store
  get : ∀ store key text, redis.value store key = some (.text text) →
    (redis.execute store [ascii "GET", key]).2 = .string text
  get_no_text : ∀ store key, (∀ text, redis.value store key ≠ some (.text text)) →
    ∀ str, (redis.execute store [ascii "GET", key]).2 ≠ .string str
  hset : ∀ store key field text fields, redis.fields store key = some fields →
    redis.value (redis.execute store [ascii "HSET", key, field, text]).1 =
      Function.update (redis.value store) key
        (some (.hash (Function.update fields field (some text))))
  hset_no_hash : ∀ store key field text, redis.fields store key = none →
    redis.value (redis.execute store [ascii "HSET", key, field, text]).1 = redis.value store
  hget : ∀ store key field fields text, redis.fields store key = some fields →
    fields field = some text →
    (redis.execute store [ascii "HGET", key, field]).2 = .string text
  hget_no_hash : ∀ store key field, redis.fields store key = none →
    ∀ str, (redis.execute store [ascii "HGET", key, field]).2 ≠ .string str
  hmset : ∀ store key (pairs : List (Bytes × Bytes)) fields, pairs ≠ [] →
    redis.fields store key = some fields →
    redis.value (redis.execute store
        (ascii "HMSET" :: key :: pairs.flatMap fun pair => [pair.1, pair.2])).1 =
      Function.update (redis.value store) key (some (.hash (PairTable.storeAll fields pairs)))
  hmset_no_hash : ∀ store key (pairs : List (Bytes × Bytes)), pairs ≠ [] →
    redis.fields store key = none →
    redis.value (redis.execute store
        (ascii "HMSET" :: key :: pairs.flatMap fun pair => [pair.1, pair.2])).1 =
      redis.value store
  hgetall : ∀ store key fields, redis.fields store key = some fields →
    ∃ pairs, PairTable.Lists pairs fields ∧
      (redis.execute store [ascii "HGETALL", key]).2 =
        .array (pairs.flatMap fun pair => [.string pair.1, .string pair.2])
  hgetall_no_hash : ∀ store key, redis.fields store key = none →
    ∀ elements, (redis.execute store [ascii "HGETALL", key]).2 ≠ .array elements

/-! ## Operations on a healthy connection -/

/-- A command that cannot be encoded is answered with NULL. -/
def answer (store : Store) (command : RedisCommand) : Option RedisReply :=
  (redis.encode command).map fun argv => (redis.execute store argv).2

/-- The database after a call of hiredis. -/
def after (store : Store) : RedisCall → Store
  | .command _ command _ =>
      match redis.encode command with
      | some argv => (redis.execute store argv).1
      | none => store
  | .connect _ _ _ | .select _ _ _ | .free _ => store

/-- An operation whose commands the database answers. -/
def serve {Result : Type} (store : Store) (answers : RedisAnswers) (conn : CacheConn)
    (op : CacheConn → RedisAnswers → CacheConn × Result) : Store × CacheConn × Result :=
  let (next, result) := op conn { answers with command := redis.answer store }
  ((next.calls.drop conn.calls.length).foldl redis.after store, next, result)

/-- What `read` returns after `write`. -/
def roundTrip {Written Result : Type} (store : Store) (conn : CacheConn)
    (first second : RedisAnswers) (write : CacheConn → RedisAnswers → CacheConn × Written)
    (read : CacheConn → RedisAnswers → CacheConn × Result) : Result :=
  let (store, conn, _) := redis.serve store first conn write
  (redis.serve store second conn read).2.2

end Redis

end TalkSystem.DbProxyServer
