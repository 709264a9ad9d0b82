import TalkSystem.DbProxyServer.CacheRoundTripProperties
import TalkSystem.DbProxyServer.CacheSelectProperties
import TalkSystem.DbProxyServer.FormatProperties
import TalkSystem.DbProxyServer.SharedRedis

/-!
# Counters that many connections increment

`INCR` is how a server numbers its messages. A reply may be lost after the command
has been executed, so a number can be skipped; it is never given twice.
-/

set_option autoImplicit false

namespace TalkSystem.DbProxyServer

/-! ## The commands of an operation -/

namespace CacheConn

variable {server : CacheServer} {answers : RedisAnswers} {conn : CacheConn}
  {command : RedisCommand} {op : CacheOp}

/-- The calls of hiredis behind those of `Init`: none, or one command. -/
inductive Sends (answers : RedisAnswers) (ready : Prop) (command : Option RedisCommand) :
    List RedisCall → Prop where
  | nothing : ¬ ready ∨ command = none → Sends answers ready command []
  | replied {context : Option Nat} {asked : RedisCommand} {reply : RedisReply} : ready →
      command = some asked → answers.command asked = some reply →
      Sends answers ready command [.command context asked (some reply)]
  | lost {context : Option Nat} {asked : RedisCommand} : ready → command = some asked →
      answers.command asked = none →
      Sends answers ready command [.command context asked none, .free context]

theorem issue_sends {Result : Type} {failure : Result} {decode : RedisReply → Result} :
    ∃ added, (conn.issue answers command failure decode).1.calls = conn.calls ++ added ∧
      Sends answers True (some command) added := by
  rw [issue_fst]
  cases reply : answers.command command with
  | none =>
      exact ⟨[.command conn.pContext command none, .free conn.pContext], List.append_assoc _ _ _,
        .lost trivial rfl reply⟩
  | some given => exact ⟨_, rfl, .replied trivial rfl reply⟩

theorem Sends.when {ready : Prop} {asked : Option RedisCommand} {added : List RedisCall}
    (sends : Sends answers True asked added) (holds : ready) :
    Sends answers ready asked added := by
  cases sends with
  | nothing idle => exact .nothing (.inr (idle.resolve_left (not_not_intro trivial)))
  | replied _ same reply => exact .replied holds same reply
  | lost _ same reply => exact .lost holds same reply

theorem perform_sends {Result : Type} {failure : Result} {decode : RedisReply → Result} :
    ∃ added, (conn.perform server answers command failure decode).1.calls =
        (conn.Init server answers).1.calls ++ added ∧
      Sends answers ((conn.Init server answers).2 = 0) (some command) added := by
  simp only [perform]
  split
  case isTrue failed => exact ⟨[], by simp, .nothing (.inl failed)⟩
  case isFalse ready =>
    obtain ⟨added, calls, sends⟩ := @issue_sends answers (conn.Init server answers).1 command
      Result failure decode
    exact ⟨added, calls, sends.when (not_not.mp ready)⟩

theorem mget_sends {keys : List Bytes} {ret_value : StringMap} :
    ∃ added, (conn.mget server answers keys ret_value).1.calls =
        (conn.Init server answers).1.calls ++ added ∧
      Sends answers ((conn.Init server answers).2 = 0) (mgetCommand keys) added := by
  simp only [mget]
  split
  case isTrue failed => exact ⟨[], by simp, .nothing (.inl failed)⟩
  case isFalse ready =>
    cases mgetCommand keys with
    | none => exact ⟨[], by simp, .nothing (.inr rfl)⟩
    | some asked =>
        obtain ⟨added, calls, sends⟩ := @issue_sends answers (conn.Init server answers).1 asked
          _ (some (false, ret_value)) (mgetDecode keys ret_value)
        exact ⟨added, calls, sends.when (not_not.mp ready)⟩

theorem isExists_sends {key : Bytes} :
    ∃ added, (conn.isExists server answers key).1.calls =
        (conn.Init server answers).1.calls ++ added ∧
      Sends answers ((conn.Init server answers).2 = 0) (some (isExistsCommand key)) added := by
  by_cases ready : (conn.Init server answers).2 = 0
  · cases reply : answers.command (isExistsCommand key) with
    | none =>
        rw [isExists_lost ready reply]
        exact ⟨_, List.append_assoc _ _ _, .lost ready rfl reply⟩
    | some given =>
        simp only [isExists, redisCommand, ready, reply, ne_eq, not_true_eq_false, if_false]
        exact ⟨_, rfl, .replied trivial rfl reply⟩
  · simp only [isExists, if_pos ready]
    exact ⟨[], by simp, .nothing (.inl ready)⟩

theorem apply_sends (op : CacheOp) :
    ∃ added, (op.apply conn server answers).calls = (conn.Init server answers).1.calls ++ added ∧
      Sends answers ((conn.Init server answers).2 = 0) op.command added := by
  cases op with
  | Init => exact ⟨[], by simp [CacheOp.apply], .nothing (.inr rfl)⟩
  | mget => exact mget_sends
  | isExists => exact isExists_sends
  | get | setex | set | hdel | hget | hgetAll | hset | hincrBy | incrBy | hmset | hmget | incr
  | decr | lpush | rpush | llen | lrange => exact perform_sends

end CacheConn

namespace Redis

variable {Store : Type} (redis : Redis Store)

/-! ## Counters -/

/-- The key holds the number as a text, or it is missing and the number is 0. -/
def Counts (store : Store) (key : Bytes) (value : Int) : Prop :=
  redis.value store key = some (.text (decimal value)) ∨
    (redis.value store key = none ∧ value = 0)

def readVerbs : List Bytes :=
  [ascii "GET", ascii "MGET", ascii "EXISTS", ascii "HGET", ascii "HGETALL", ascii "HMGET",
    ascii "LLEN"]

def writeVerbs : List Bytes :=
  [ascii "SETEX", ascii "SET", ascii "HDEL", ascii "HSET", ascii "HINCRBY", ascii "INCRBY",
    ascii "HMSET", ascii "INCR", ascii "DECR", ascii "LPUSH", ascii "RPUSH"]

/-- What is relied on for counters: how commands are encoded, what the increments do to a number
that does not overflow, and that the other commands leave the keys which they do not write. -/
structure CountersDocumented : Prop where
  format : ∀ {format args argv}, formatArguments format args = some argv →
    redis.encode (.format format args) = some argv
  argv : ∀ argv, redis.encode (.argv argv) = some (argv.map cStr)
  incr : ∀ store key value, redis.Counts store key value → value + 1 < 2 ^ 63 →
    redis.Counts (redis.execute store [ascii "INCR", key]).1 key (value + 1) ∧
      (redis.execute store [ascii "INCR", key]).2 = .integer (value + 1)
  incrby : ∀ store key value amount, redis.Counts store key value → 0 < amount →
    value + amount < 2 ^ 63 →
    redis.Counts (redis.execute store [ascii "INCRBY", key, decimal amount]).1 key
        (value + amount) ∧
      (redis.execute store [ascii "INCRBY", key, decimal amount]).2 = .integer (value + amount)
  read : ∀ store verb args, verb ∈ readVerbs →
    redis.value (redis.execute store (verb :: args)).1 = redis.value store
  write : ∀ store verb key args other, verb ∈ writeVerbs → other ≠ key →
    redis.value (redis.execute store (verb :: key :: args)).1 other = redis.value store other

end Redis

namespace SharedRedis

variable {Store : Type} {redis : Redis Store} {server : CacheServer} {shared next : SharedRedis Store}
  {sharedCall : SharedCall} {key : Bytes}

/-! ## One call -/

/-- `Init` of the connection that makes the call. -/
def Ready (redis : Redis Store) (server : CacheServer) (shared : SharedRedis Store)
    (sharedCall : SharedCall) : Prop :=
  ((shared.conns sharedCall.conn).Init server (answers redis shared.store sharedCall)).2 = 0

theorem after_command (context : Option Nat) (asked : RedisCommand) (reply : Option RedisReply) :
    redis.after shared.store (.command context asked reply) =
      (redis.encode asked).elim shared.store fun argv => (redis.execute shared.store argv).1 := by
  cases encoded : redis.encode asked <;> simp [Redis.after, encoded]

/-- What a call does to the database is its one command, if that is sent. -/
theorem call_store (sent : sharedCall.delivery ≠ .unsent)
    (ready : shared.Ready redis server sharedCall) :
    (shared.call redis server sharedCall).store =
      (sharedCall.op.command.bind redis.encode).elim shared.store fun argv =>
        (redis.execute shared.store argv).1 := by
  obtain ⟨first, connects, kept⟩ := Redis.after_Init redis (shared.conns sharedCall.conn) server
    (answers redis shared.store sharedCall) shared.store
  obtain ⟨added, calls, sends⟩ := @CacheConn.apply_sends server
    (answers redis shared.store sharedCall) (shared.conns sharedCall.conn) sharedCall.op
  have store : (shared.call redis server sharedCall).store =
      added.foldl redis.after shared.store := by
    simp only [call, served, if_neg sent, calls, connects, List.append_assoc, List.drop_left,
      List.foldl_append, kept]
  rw [store]
  cases sends with
  | nothing idle =>
      rw [idle.resolve_left (not_not_intro ready)]
      rfl
  | @replied context _ reply _ same =>
      rw [same]
      exact after_command context _ (some reply)
  | @lost context _ _ same =>
      rw [same]
      exact after_command context _ none

theorem call_store_unsent (unsent : sharedCall.delivery = .unsent) :
    (shared.call redis server sharedCall).store = shared.store := by
  simp [call, served, unsent]

theorem call_store_unready (unready : ¬ shared.Ready redis server sharedCall) :
    (shared.call redis server sharedCall).store = shared.store := by
  obtain ⟨first, connects, kept⟩ := Redis.after_Init redis (shared.conns sharedCall.conn) server
    (answers redis shared.store sharedCall) shared.store
  obtain ⟨added, calls, sends⟩ := @CacheConn.apply_sends server
    (answers redis shared.store sharedCall) (shared.conns sharedCall.conn) sharedCall.op
  have nothing : added = [] := by
    cases sends with
    | nothing => rfl
    | replied ready => exact absurd ready unready
    | lost ready => exact absurd ready unready
  simp only [call, served, calls, connects, nothing, List.append_nil, List.drop_left, kept,
    ite_self]

/-! ## The command of an operation -/

/-- What an operation sends: it only reads, or it writes its target. -/
inductive Sent (op : CacheOp) : List Bytes → Prop where
  | reads {verb : Bytes} {args : List Bytes} : verb ∈ Redis.readVerbs → op.target = none →
      Sent op (verb :: args)
  | writes {verb key : Bytes} {args : List Bytes} : verb ∈ Redis.writeVerbs →
      op.target = some key → Sent op (verb :: key :: args)

/-- The format string of an operation says what is sent. -/
def Formatted (op : CacheOp) : Prop :=
  ∀ format args, op.command = some (.format format args) → (formatArguments format args).isSome

theorem mget_arguments {keys : Bytes} {argv : List Bytes}
    (formatted : formatArguments (cStr (ascii "MGET " ++ keys)) [] = some argv) :
    ∃ args, argv = ascii "MGET" :: args := by
  have cut : cStr (ascii "MGET " ++ keys) = 77 :: 71 :: 69 :: 84 :: 32 :: cStr keys := by
    simp [cStr, ascii]
  have split : formatTokens (77 :: 71 :: 69 :: 84 :: 32 :: cStr keys) =
      (formatTokens (cStr keys)).map fun tokens =>
        .byte 77 :: .byte 71 :: .byte 69 :: .byte 84 :: .space :: tokens := by
    rw [formatTokens_cons (by decide) (by decide), formatTokens_cons (by decide) (by decide),
      formatTokens_cons (by decide) (by decide), formatTokens_cons (by decide) (by decide)]
    cases tokens : formatTokens (cStr keys) <;> simp [formatTokens, tokens, plainToken]
  rw [cut, formatArguments, split] at formatted
  obtain ⟨tokens, found, filled⟩ := Option.bind_eq_some_iff.mp formatted
  obtain ⟨rest, _, rfl⟩ := Option.map_eq_some_iff.mp found
  obtain ⟨args, _, rfl⟩ := Option.map_eq_some_iff.mp filled
  exact ⟨args, rfl⟩

theorem sent_of_command (documented : redis.CountersDocumented) {op : CacheOp}
    {command : RedisCommand} {argv : List Bytes} (formatted : Formatted op)
    (asked : op.command = some command) (encoded : redis.encode command = some argv) :
    Sent op argv := by
  have formats {format : Bytes} {args : List FormatArg} {sent : List Bytes}
      (same : op.command = some (.format format args))
      (filled : formatArguments format args = some sent) : argv = sent := by
    cases asked.symm.trans same
    exact Option.some.inj (encoded.symm.trans (documented.format filled))
  have listed {sent : List Bytes} (same : op.command = some (.argv sent)) :
      argv = sent.map cStr := by
    cases asked.symm.trans same
    exact Option.some.inj (encoded.symm.trans (documented.argv sent))
  cases op with
  | Init => cases asked
  | get | isExists | hget | hgetAll | llen =>
      rw [formats rfl rfl]
      exact .reads (by decide) rfl
  | hmget =>
      rw [listed rfl]
      exact .reads (by decide) rfl
  | mget keys ret_value =>
      simp only [CacheOp.command, CacheConn.mgetCommand] at asked
      split at asked
      · cases asked
      · cases asked
        obtain ⟨sent, filled⟩ := Option.isSome_iff_exists.mp (formatted _ _ (if_neg ‹_›))
        obtain ⟨args, rfl⟩ := mget_arguments filled
        rw [formats (if_neg ‹_›) filled]
        exact .reads (by decide) rfl
  | setex | set | hdel | hset | hincrBy | incrBy | incr | decr | lpush | rpush =>
      rw [formats rfl rfl, cStr_cStr]
      exact .writes (by decide) rfl
  | hmset =>
      rw [listed rfl, List.map_cons, List.map_cons, cStr_cStr]
      exact .writes (by decide) rfl
  | lrange key start stop ret_value =>
      cases formatted _ _ rfl

/-! ## Increments -/

/-- An operation that returns an integer: it fails, or it returns the reply to its command. -/
theorem call_integer (shared : SharedRedis Store) {asked : RedisCommand} {argv : List Bytes}
    (encoded : redis.encode asked = some argv) (command : sharedCall.op.command = some asked)
    (returns : ∀ conn answers, sharedCall.op.result conn server answers =
      some (.integer (conn.perform server answers asked (-1) RedisReply.toInteger).2)) :
    ((shared.call redis server sharedCall).store = shared.store ∧
        (shared.call redis server sharedCall).results =
          shared.results ++ [(sharedCall.op, some (.integer (-1)))]) ∨
      ((shared.call redis server sharedCall).store = (redis.execute shared.store argv).1 ∧
        ∃ result, (shared.call redis server sharedCall).results =
          shared.results ++ [(sharedCall.op, some (.integer result))] ∧
          (result = -1 ∨ result = (redis.execute shared.store argv).2.toInteger)) := by
  let conn := shared.conns sharedCall.conn
  let given := answers redis shared.store sharedCall
  have results {value : Int}
      (result : (conn.perform server given asked (-1) RedisReply.toInteger).2 = value) :
      (shared.call redis server sharedCall).results =
        shared.results ++ [(sharedCall.op, some (.integer value))] := by
    rw [← result]
    exact congrArg (fun result => shared.results ++ [(sharedCall.op, result)]) (returns _ _)
  by_cases ready : shared.Ready redis server sharedCall
  case neg =>
    have failed : (conn.Init server given).2 ≠ 0 := ready
    exact .inl ⟨call_store_unready ready, results (by simp [CacheConn.perform, failed])⟩
  have connected : (conn.Init server given).2 = 0 := ready
  have decoded : (conn.perform server given asked (-1) RedisReply.toInteger).2 =
      (given.command asked).elim (-1) RedisReply.toInteger := by
    cases replied : given.command asked <;>
      simp [CacheConn.perform, connected, CacheConn.issue, CacheConn.redisCommand, replied]
  have executed (sent : sharedCall.delivery ≠ .unsent) :
      (shared.call redis server sharedCall).store = (redis.execute shared.store argv).1 := by
    rw [call_store sent ready, command, Option.bind_some, encoded]
    rfl
  cases delivery : sharedCall.delivery with
  | unsent =>
      have silent : given.command asked = none := by simp [given, answers, delivery]
      exact .inl ⟨call_store_unsent delivery, results (by rw [decoded, silent]; rfl)⟩
  | unanswered =>
      have silent : given.command asked = none := by simp [given, answers, delivery]
      exact .inr ⟨executed (by simp [delivery]), -1, results (by rw [decoded, silent]; rfl),
        .inl rfl⟩
  | answered =>
      have replied : given.command asked = some (redis.execute shared.store argv).2 := by
        simp [given, answers, delivery, Redis.answer, encoded]
      exact .inr ⟨executed (by simp [delivery]), _, results (by rw [decoded, replied]; rfl),
        .inr rfl⟩

/-- How an increment of a counter ends: without effect, or it is executed and returns the new
number if the reply arrives. -/
inductive Increments (redis : Redis Store) (shared : SharedRedis Store) (key : Bytes)
    (op : CacheOp) (value amount : Int) (next : SharedRedis Store) : Prop where
  | failed : redis.Counts next.store key value →
      next.results = shared.results ++ [(op, some (.integer (-1)))] →
      Increments redis shared key op value amount next
  | executed {result : Int} : redis.Counts next.store key (value + amount) →
      next.results = shared.results ++ [(op, some (.integer result))] →
      result = -1 ∨ result = value + amount →
      Increments redis shared key op value amount next

theorem call_increment (documented : redis.CountersDocumented) {value amount : Int}
    (counts : redis.Counts shared.store key value)
    (increments : sharedCall.op.increment key = some amount) (positive : 0 < amount)
    (fits : value + amount < 2 ^ 63) :
    Increments redis shared key sharedCall.op value amount
      (shared.call redis server sharedCall) := by
  have ends {asked : RedisCommand} {argv : List Bytes}
      (encoded : redis.encode asked = some argv) (command : sharedCall.op.command = some asked)
      (returns : ∀ conn answers, sharedCall.op.result conn server answers =
        some (.integer (conn.perform server answers asked (-1) RedisReply.toInteger).2))
      (effect : redis.Counts (redis.execute shared.store argv).1 key (value + amount) ∧
        (redis.execute shared.store argv).2 = .integer (value + amount)) :
      Increments redis shared key sharedCall.op value amount
        (shared.call redis server sharedCall) := by
    obtain ⟨same, failed⟩ | ⟨executed, result, ends, is⟩ :=
      call_integer shared encoded command returns
    · exact .failed (same ▸ counts) failed
    · refine .executed (executed ▸ effect.1) ends (is.imp id fun replied => ?_)
      rw [replied, effect.2]
      rfl
  cases op : sharedCall.op with
  | incr counter =>
      simp only [op, CacheOp.increment, Option.ite_none_right_eq_some, Option.some.injEq]
        at increments
      obtain ⟨rfl, rfl⟩ := increments
      rw [← op]
      refine ends (documented.format rfl) (by rw [op]; rfl) (fun _ _ => by rw [op]; rfl) ?_
      rw [cStr_cStr]
      exact documented.incr _ _ _ counts fits
  | incrBy counter added =>
      simp only [op, CacheOp.increment, Option.ite_none_right_eq_some, Option.some.injEq]
        at increments
      obtain ⟨rfl, rfl⟩ := increments
      rw [← op]
      refine ends (documented.format rfl) (by rw [op]; rfl) (fun _ _ => by rw [op]; rfl) ?_
      rw [cStr_cStr]
      exact documented.incrby _ _ _ _ counts positive fits
  | _ => simp [op, CacheOp.increment] at increments

/-- An operation that does not write a key leaves it. -/
theorem call_leaves (documented : redis.CountersDocumented) (formatted : Formatted sharedCall.op)
    (other : sharedCall.op.target ≠ some key) :
    redis.value (shared.call redis server sharedCall).store key =
      redis.value shared.store key := by
  by_cases unsent : sharedCall.delivery = .unsent
  · rw [call_store_unsent unsent]
  by_cases ready : shared.Ready redis server sharedCall
  case neg => rw [call_store_unready ready]
  rw [call_store unsent ready]
  cases found : sharedCall.op.command.bind redis.encode with
  | none => rfl
  | some argv =>
      obtain ⟨asked, command, encoded⟩ := Option.bind_eq_some_iff.mp found
      cases sent_of_command documented formatted command encoded with
      | reads verb => exact congrFun (documented.read _ _ _ verb) key
      | writes verb target =>
          exact documented.write _ _ _ _ _ verb fun same => other (same ▸ target)

/-! ## Runs -/

/-- The numbers that a call has got: those behind the first up to the second. -/
def ranges (key : Bytes) (results : List (CacheOp × Option CacheResult)) : List (Int × Int) :=
  results.filterMap fun entry =>
    match entry.1.increment key, entry.2 with
    | some amount, some (.integer value) =>
        if value = -1 then none else some (value - amount, value)
    | _, _ => none

/-- The sum of all increments that have been asked for. -/
def requested (key : Bytes) (results : List (CacheOp × Option CacheResult)) : Int :=
  results.foldr (fun entry sum => (entry.1.increment key).getD 0 + sum) 0

/-- The format of the operation says what it sends, the two ways to lose a context are not met, and
nothing writes the counter but increments that fit. -/
def CountsUp (redis : Redis Store) (server : CacheServer) (key : Bytes)
    (shared : SharedRedis Store) (sharedCall : SharedCall) : Prop :=
  let label : CacheLabel := .call sharedCall.op (answers redis shared.store sharedCall)
  Formatted sharedCall.op ∧
    CacheConn.SelectAnswered server (shared.conns sharedCall.conn) label ∧
    CacheConn.ExistsAnswered server (shared.conns sharedCall.conn) label ∧
    (sharedCall.op.target = some key → ∃ amount, sharedCall.op.increment key = some amount ∧
      0 < amount ∧ ∀ value, redis.Counts shared.store key value → value + amount < 2 ^ 63)

theorem ranges_append (results : List (CacheOp × Option CacheResult)) (op : CacheOp)
    (result : Option CacheResult) :
    ranges key (results ++ [(op, result)]) = ranges key results ++ ranges key [(op, result)] :=
  List.filterMap_append

theorem requested_append (results : List (CacheOp × Option CacheResult)) (op : CacheOp)
    (result : Option CacheResult) :
    requested key (results ++ [(op, result)]) =
      requested key results + (op.increment key).getD 0 := by
  induction results with
  | nil => exact Int.add_comm ..
  | cons entry results ih =>
      rw [requested] at ih ⊢
      rw [List.cons_append, List.foldr_cons, ih, ← Int.add_assoc]
      rfl

theorem ranges_failed (results : List (CacheOp × Option CacheResult)) (op : CacheOp) :
    ranges key (results ++ [(op, some (.integer (-1)))]) = ranges key results := by
  rw [ranges_append]
  cases increments : op.increment key <;> simp [ranges, increments]

theorem ranges_idle (results : List (CacheOp × Option CacheResult)) {op : CacheOp}
    (idle : op.increment key = none) (result : Option CacheResult) :
    ranges key (results ++ [(op, result)]) = ranges key results := by
  rw [ranges_append]
  simp [ranges, idle]

theorem ranges_granted (results : List (CacheOp × Option CacheResult)) {op : CacheOp}
    {amount value : Int} (increments : op.increment key = some amount) (granted : value ≠ -1) :
    ranges key (results ++ [(op, some (.integer value))]) =
      ranges key results ++ [(value - amount, value)] := by
  rw [ranges_append]
  simp [ranges, increments, granted]

theorem increment_of_target {op : CacheOp} (other : op.target ≠ some key) :
    op.increment key = none := by
  cases op <;> simp_all [CacheOp.target, CacheOp.increment]

structure CounterInv (redis : Redis Store) (key : Bytes) (first : Int)
    (shared : SharedRedis Store) (value : Int) : Prop where
  counts : redis.Counts shared.store key value
  least : first ≤ value
  most : value ≤ first + requested key shared.results
  apart : (ranges key shared.results).Pairwise fun earlier later => earlier.2 ≤ later.1
  within : ∀ range ∈ ranges key shared.results,
    first ≤ range.1 ∧ range.1 < range.2 ∧ range.2 ≤ value

theorem CounterInv.step (documented : redis.CountersDocumented) {first value : Int}
    (positive : 0 ≤ first) (guard : CountsUp redis server key shared sharedCall)
    (inv : CounterInv redis key first shared value) :
    ∃ later, CounterInv redis key first (shared.call redis server sharedCall) later := by
  obtain ⟨formatted, -, -, only⟩ := guard
  by_cases target : sharedCall.op.target = some key
  · obtain ⟨amount, increments, grows, fits⟩ := only target
    have done : Increments redis shared key sharedCall.op value amount
        (shared.call redis server sharedCall) :=
      call_increment documented inv.counts increments grows (fits value inv.counts)
    cases done with
    | failed counts results =>
        refine ⟨value, counts, inv.least, ?_, ?_, ?_⟩
        · have more := inv.most
          rw [results, requested_append, increments]
          simp only [Option.getD_some]
          omega
        · rw [results, ranges_failed]
          exact inv.apart
        · rw [results, ranges_failed]
          exact inv.within
    | @executed result counts results is =>
        have least := inv.least
        have most := inv.most
        have bound : value + amount ≤ first +
            requested key (shared.call redis server sharedCall).results := by
          rw [results, requested_append, increments]
          simp only [Option.getD_some]
          omega
        have room : ∀ range ∈ ranges key shared.results,
            first ≤ range.1 ∧ range.1 < range.2 ∧ range.2 ≤ value + amount := by
          intro range member
          obtain ⟨above, proper, below⟩ := inv.within range member
          exact ⟨above, proper, by omega⟩
        rcases is with lost | rfl
        · subst lost
          refine ⟨value + amount, counts, by omega, bound, ?_, ?_⟩
          · rw [results, ranges_failed]
            exact inv.apart
          · rw [results, ranges_failed]
            exact room
        · have fresh : ranges key (shared.call redis server sharedCall).results =
              ranges key shared.results ++ [(value, value + amount)] := by
            rw [results, ranges_granted _ increments (by omega), Int.add_sub_cancel]
          refine ⟨value + amount, counts, by omega, bound, ?_, ?_⟩
          · rw [fresh, List.pairwise_append]
            refine ⟨inv.apart, List.pairwise_singleton _ _, fun range member last is => ?_⟩
            obtain rfl := List.mem_singleton.mp is
            exact (inv.within range member).2.2
          · rw [fresh]
            intro range member
            rcases List.mem_append.mp member with old | last
            · exact room range old
            · obtain rfl := List.mem_singleton.mp last
              exact ⟨least, by omega, Int.le_refl _⟩
  · have idle := increment_of_target target
    have results : (shared.call redis server sharedCall).results =
        shared.results ++ [(sharedCall.op, sharedCall.op.result (shared.conns sharedCall.conn) server
          (answers redis shared.store sharedCall))] := rfl
    have kept : redis.value (shared.call redis server sharedCall).store key =
        redis.value shared.store key := call_leaves documented formatted target
    refine ⟨value, ?_, inv.least, ?_, ?_, ?_⟩
    · rw [Redis.Counts, kept]
      exact inv.counts
    · rw [results, requested_append, idle]
      simpa using inv.most
    · rw [results, ranges_idle _ idle]
      exact inv.apart
    · rw [results, ranges_idle _ idle]
      exact inv.within

def increase (store : Bytes → Option Int) (key : Bytes) (amount : Int) :
    (Bytes → Option Int) × RedisReply :=
  let value := (store key).getD 0 + amount
  if value < 2 ^ 63 then
    (Function.update store key (some value), .integer value)
  else
    (store, .error (ascii "ERR increment or decrement would overflow"))

/-- The commands on keys that hold numbers. -/
def counterExecute (store : Bytes → Option Int) : List Bytes → (Bytes → Option Int) × RedisReply
  | [verb, key] =>
      if verb = ascii "INCR" then increase store key 1
      else if verb = ascii "GET" then
        (store, (store key).elim .nil fun value => .string (decimal value))
      else (store, MemoryStore.wrongType)
  | [verb, key, amount] =>
      if verb = ascii "INCRBY" then increase store key (decimalValue amount)
      else (store, MemoryStore.wrongType)
  | _ => (store, MemoryStore.wrongType)

def counterRedis : Redis (Bytes → Option Int) where
  encode
    | .format format args => formatArguments format args
    | .argv argv => some (argv.map cStr)
  execute := counterExecute
  value store key := (store key).map fun value => .text (decimal value)

theorem counts_counterRedis {store : Bytes → Option Int} {value : Int} :
    counterRedis.Counts store key value ↔ (store key).getD 0 = value := by
  cases held : store key with
  | none => simp [Redis.Counts, counterRedis, held, eq_comm]
  | some number =>
      have injective : decimal number = decimal value ↔ number = value := by
        refine ⟨fun same => ?_, congrArg decimal⟩
        rw [← decimalValue_decimal number, same, decimalValue_decimal]
      simp [Redis.Counts, counterRedis, held, injective]

theorem counts_increase {store : Bytes → Option Int} {value amount : Int}
    (counts : counterRedis.Counts store key value) (fits : value + amount < 2 ^ 63) :
    counterRedis.Counts (increase store key amount).1 key (value + amount) ∧
      (increase store key amount).2 = .integer (value + amount) := by
  obtain rfl := counts_counterRedis.mp counts
  simp only [increase, if_pos fits]
  exact ⟨counts_counterRedis.mpr (by simp), trivial⟩

theorem increase_other {store : Bytes → Option Int} {other : Bytes} {amount : Int}
    (different : other ≠ key) : (increase store key amount).1 other = store other := by
  simp only [increase]
  split
  · exact Function.update_of_ne different _ _
  · rfl

/-- What is neither an increment nor a read of a number changes nothing. -/
theorem counterExecute_idle {store : Bytes → Option Int} {verb : Bytes} (args : List Bytes)
    (no_incr : verb ≠ ascii "INCR") (no_incrby : verb ≠ ascii "INCRBY") :
    (counterExecute store (verb :: args)).1 = store := by
  unfold counterExecute
  split
  · next verb' key same =>
      cases same
      rw [if_neg no_incr]
      split <;> rfl
  · next verb' key amount same =>
      cases same
      rw [if_neg no_incrby]
  · rfl

theorem counterRedis_documented : counterRedis.CountersDocumented where
  format encoded := encoded
  argv _ := rfl
  incr _ _ _ counts fits := counts_increase counts fits
  incrby store key value amount counts _ fits := by
    have executed : counterRedis.execute store [ascii "INCRBY", key, decimal amount] =
        increase store key (decimalValue (decimal amount)) := rfl
    rw [executed, decimalValue_decimal]
    exact counts_increase counts fits
  read store verb args member := by
    have idle : (counterExecute store (verb :: args)).1 = store := by
      refine counterExecute_idle args ?_ ?_ <;> rintro rfl <;> revert member <;> decide
    exact congrArg counterRedis.value idle
  write store verb key args other _ different := by
    have kept : (counterExecute store (verb :: key :: args)).1 other = store other := by
      unfold counterExecute
      split
      · next same =>
          cases same
          split
          · exact increase_other different
          · split <;> rfl
      · next same =>
          cases same
          split
          · exact increase_other different
          · rfl
      · rfl
    exact congrArg (Option.map fun value => RedisValue.text (decimal value)) kept

/-- What three connections meet on their first use. -/
def firstUse : RedisAnswers where
  curTime := 100
  connect := some false
  select := some (.status (ascii "OK"))
  command := fun _ => none

theorem countsUp_first {shared : SharedRedis (Bytes → Option Int)} {amount : Int}
    (formatted : Formatted sharedCall.op)
    (unused : (shared.conns sharedCall.conn).pContext = none)
    (integer : ∀ asked, sharedCall.op ≠ .isExists asked)
    (increments : sharedCall.op.increment key = some amount) (positive : 0 < amount)
    (fits : (shared.store key).getD 0 + amount < 2 ^ 63) :
    CountsUp counterRedis server key shared sharedCall := by
  refine ⟨formatted, fun _ context reply current => ?_, ?_, fun _ => ⟨amount, increments, positive,
    fun value counts => ?_⟩⟩
  · cases unused.symm.trans current
  · cases op : sharedCall.op with
    | isExists asked => exact absurd op (integer asked)
    | _ => trivial
  · rwa [← counts_counterRedis.mp counts]

/-- The second of three calls is executed and loses its reply. -/
def threeCalls : List SharedCall :=
  [⟨0, .incr (ascii "id"), firstUse, .answered⟩, ⟨1, .incr (ascii "id"), firstUse, .unanswered⟩,
    ⟨2, .incrBy (ascii "id") 5, firstUse, .answered⟩]

end SharedRedis

end TalkSystem.DbProxyServer
