import TalkSystem.DbProxyServer.CacheConnProperties

/-!
# Error replies

Most operations of a `CacheConn` read the part of the reply that they expect and
do not look at its type. In an error reply the integer is 0, there are no
elements and the string is the text of the error.
-/

set_option autoImplicit false

namespace TalkSystem.DbProxyServer

/-- What an operation returns, with its output container if it has one. -/
inductive CacheResult where
  | flag (value : Bool)
  | integer (value : Int)
  | text (value : Bytes)
  | map (done : Bool) (ret_value : StringMap)
  | list (done : Bool) (ret_value : List Bytes)

/-- The result of an operation; `none` if it indexes its arguments out of range. -/
def CacheOp.result (conn : CacheConn) (server : CacheServer) (answers : RedisAnswers) :
    CacheOp → Option CacheResult
  | .Init => some (.integer (conn.Init server answers).2)
  | .get key => some (.text (conn.get server answers key).2)
  | .setex key timeout value => some (.text (conn.setex server answers key timeout value).2)
  | .set key value => some (.text (conn.set server answers key value).2)
  | .mget keys ret_value =>
      (conn.mget server answers keys ret_value).2.map fun result => .map result.1 result.2
  | .isExists key => some (.flag (conn.isExists server answers key).2)
  | .hdel key field => some (.integer (conn.hdel server answers key field).2)
  | .hget key field => some (.text (conn.hget server answers key field).2)
  | .hgetAll key ret_value =>
      let result := (conn.hgetAll server answers key ret_value).2
      some (.map result.1 result.2)
  | .hset key field value => some (.integer (conn.hset server answers key field value).2)
  | .hincrBy key field value => some (.integer (conn.hincrBy server answers key field value).2)
  | .incrBy key value => some (.integer (conn.incrBy server answers key value).2)
  | .hmset key hash => some (.text (conn.hmset server answers key hash).2)
  | .hmget key fields ret_value =>
      let result := (conn.hmget server answers key fields ret_value).2
      some (.list result.1 result.2)
  | .incr key => some (.integer (conn.incr server answers key).2)
  | .decr key => some (.integer (conn.decr server answers key).2)
  | .lpush key value => some (.integer (conn.lpush server answers key value).2)
  | .rpush key value => some (.integer (conn.rpush server answers key value).2)
  | .llen key => some (.integer (conn.llen server answers key).2)
  | .lrange key start stop ret_value =>
      let result := (conn.lrange server answers key start stop ret_value).2
      some (.list result.1 result.2)

/-- The value that an operation keeps for a failed transport. Those that return
a text, a count or a flag which Redis also gives as an answer have none. -/
def CacheOp.failure : CacheOp → Option CacheResult
  | .hset _ _ _ | .hincrBy _ _ _ | .incrBy _ _ | .incr _ | .decr _ | .lpush _ _ | .rpush _ _
  | .llen _ => some (.integer (-1))
  | .mget _ ret_value | .hgetAll _ ret_value => some (.map false ret_value)
  | .hmget _ _ ret_value | .lrange _ _ _ ret_value => some (.list false ret_value)
  | .set _ _ | .setex _ _ _ | .hmset _ _ => some (.text [])
  | .Init | .get _ | .isExists _ | .hdel _ _ | .hget _ _ => none

/-- After `Init` the operation issues one command, and this is the reply. -/
def CacheOp.AnsweredBy (op : CacheOp) (conn : CacheConn) (server : CacheServer)
    (answers : RedisAnswers) (reply : RedisReply) : Prop :=
  ∃ context command, (op.apply conn server answers).calls =
    (conn.Init server answers).1.calls ++ [.command context command (some reply)]

namespace CacheConn

variable {server : CacheServer} {answers : RedisAnswers} {conn : CacheConn}
  {context : Option Nat} {command asked : RedisCommand} {reply : RedisReply}

/-- An operation that has got a reply has decoded it. -/
theorem issue_answered {Result : Type} {failure : Result} {decode : RedisReply → Result}
    (answered : (conn.issue answers command failure decode).1.calls =
      conn.calls ++ [.command context asked (some reply)]) :
    (conn.issue answers command failure decode).2 = decode reply := by
  cases given : answers.command command with
  | none =>
      have sizes := congrArg List.length answered
      simp [issue, redisCommand, given, discard, redisFree, record] at sizes
  | some other =>
      simp only [issue, redisCommand, given, record, List.append_cancel_left_eq, List.cons.injEq,
        RedisCall.command.injEq, Option.some.injEq, and_true] at answered ⊢
      rw [answered.2.2]

theorem perform_answered {Result : Type} {failure : Result} {decode : RedisReply → Result}
    (answered : (conn.perform server answers command failure decode).1.calls =
      (conn.Init server answers).1.calls ++ [.command context asked (some reply)]) :
    (conn.perform server answers command failure decode).2 = decode reply := by
  by_cases healthy : (conn.Init server answers).2 = 0
  · simp only [perform, healthy, ne_eq, not_true_eq_false, if_false] at answered ⊢
    exact issue_answered answered
  · simp [perform, healthy] at answered

theorem mget_answered {keys : List Bytes} {ret_value : StringMap}
    (answered : (conn.mget server answers keys ret_value).1.calls =
      (conn.Init server answers).1.calls ++ [.command context asked (some reply)]) :
    (conn.mget server answers keys ret_value).2 = mgetDecode keys ret_value reply := by
  by_cases healthy : (conn.Init server answers).2 = 0
  · cases joined : mgetCommand keys with
    | none => simp [mget, healthy, joined] at answered
    | some command =>
        simp only [mget, healthy, ne_eq, not_true_eq_false, if_false, joined] at answered ⊢
        exact issue_answered answered
  · simp [mget, healthy] at answered

end CacheConn

variable {conn : CacheConn} {server : CacheServer} {answers : RedisAnswers} {op : CacheOp}
  {failure : CacheResult} {text : Bytes}

theorem error_reply_reported_iff (fails : op.failure = some failure)
    (answered : op.AnsweredBy conn server answers (.error text)) :
    op.result conn server answers = some failure ↔ failure = .text [] ∧ text = [] := by
  obtain ⟨context, command, calls⟩ := answered
  have integer {value : Int} (zero : value = 0) :
      some (CacheResult.integer value) = some (.integer (-1)) ↔
        CacheResult.integer (-1) = .text [] ∧ text = [] := by simp [zero]
  have returned {value : Bytes} (error : value = text) :
      some (CacheResult.text value) = some (.text []) ↔
        CacheResult.text [] = .text [] ∧ text = [] := by simp [error]
  have mapped {result : Bool × StringMap} {ret_value : StringMap}
      (done : result = (true, ret_value)) :
      some (CacheResult.map result.1 result.2) = some (.map false ret_value) ↔
        CacheResult.map false ret_value = .text [] ∧ text = [] := by simp [done]
  have listed {result : Bool × List Bytes} {ret_value : List Bytes}
      (done : result = (true, ret_value)) :
      some (CacheResult.list result.1 result.2) = some (.list false ret_value) ↔
        CacheResult.list false ret_value = .text [] ∧ text = [] := by simp [done]
  cases op with
  | Init | get | isExists | hdel | hget => cases fails
  | hset | hincrBy | incrBy | incr | decr | lpush | rpush | llen =>
      cases fails
      exact integer (CacheConn.perform_answered calls)
  | set | setex | hmset =>
      cases fails
      exact returned (CacheConn.perform_answered calls)
  | mget keys ret_value =>
      cases fails
      have decoded := CacheConn.mget_answered calls
      simp [CacheOp.result, decoded, CacheConn.mgetDecode]
  | hgetAll =>
      cases fails
      exact mapped (CacheConn.perform_answered calls)
  | hmget | lrange =>
      cases fails
      exact listed (CacheConn.perform_answered calls)

/-- A connected `CacheConn`. -/
def connected : CacheConn := { CacheConn.new with pContext := some 0, contexts := 1 }

def answering (reply : RedisReply) : RedisAnswers where
  curTime := 0
  connect := none
  select := none
  command := fun _ => some reply

theorem error_reply_reported_iff_readonly :
    (CacheOp.set (ascii "key") (ascii "value")).result connected ⟨"127.0.0.1", 6379, 0⟩
        (answering (.error (ascii "READONLY"))) = some (.text []) ↔
      CacheResult.text [] = .text [] ∧ ascii "READONLY" = [] :=
  error_reply_reported_iff rfl ⟨_, _, rfl⟩

/-- A counter that cannot be incremented reads as 0. -/
theorem error_reply_reported_counter :
    ¬ ∀ (op : CacheOp) (conn : CacheConn) (server : CacheServer) (answers : RedisAnswers)
      (failure : CacheResult) (text : Bytes), op.failure = some failure →
      op.AnsweredBy conn server answers (.error text) →
      op.result conn server answers = some failure := by
  intro holds
  have reported := holds (.incr (ascii "key")) connected ⟨"127.0.0.1", 6379, 0⟩
    (answering (.error (ascii "ERR value is not an integer or out of range"))) (.integer (-1))
    (ascii "ERR value is not an integer or out of range") rfl ⟨_, _, rfl⟩
  cases reported

end TalkSystem.DbProxyServer
