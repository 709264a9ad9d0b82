import TalkSystem.DbProxyServer.CacheConn
import TalkSystem.Machine.History

/-!
# The context of a `CacheConn`

What the operations do to the context, and its life cycle: an operation takes a
context that is not NULL to be live, and one of them leaves a freed one behind.
-/

set_option autoImplicit false

namespace TalkSystem.DbProxyServer

/-- Whether the operation has a data command to issue. -/
def CacheOp.issues : CacheOp → Bool
  | .Init => false
  | .mget keys _ => (CacheConn.mgetCommand keys).isSome
  | .get _ | .setex _ _ _ | .set _ _ | .isExists _ | .hdel _ _ | .hget _ _ | .hgetAll _ _
  | .hset _ _ _ | .hincrBy _ _ _ | .incrBy _ _ | .hmset _ _ | .hmget _ _ _ | .incr _ | .decr _
  | .lpush _ _ | .rpush _ _ | .llen _ | .lrange _ _ _ _ => true

def RedisCall.isFree : RedisCall → Bool
  | .free _ => true
  | .connect _ _ _ | .select _ _ _ | .command _ _ _ => false

namespace CacheConn

variable {server : CacheServer} {answers : RedisAnswers} {conn next : CacheConn}
  {command : RedisCommand} {op : CacheOp} {label : CacheLabel} {labels : List CacheLabel}

/-! ## Steps -/

/-- How `Init` can end. -/
inductive Initialises (server : CacheServer) (answers : RedisAnswers) (conn : CacheConn) :
    CacheConn × Int → Prop where
  | ready {context : Nat} : conn.pContext = some context → Initialises server answers conn (conn, 0)
  | early : conn.pContext = none → Initialises server answers conn (conn, 1)
  | refused : conn.pContext = none →
      Initialises server answers conn
        ({ conn with lastConnectTime := answers.curTime }.record
          (.connect server.serverIP server.serverPort none), 1)
  | broken : conn.pContext = none →
      Initialises server answers conn
        (({ conn with lastConnectTime := answers.curTime }.redisConnectWithTimeout server).discard,
          1)
  | connected : conn.pContext = none →
      Initialises server answers conn
        (({ conn with lastConnectTime := answers.curTime }.redisConnectWithTimeout server).selectDB
          server answers)

theorem initialises : Initialises server answers conn (conn.Init server answers) := by
  rw [Init]
  split
  case isTrue present =>
    obtain ⟨context, current⟩ := Option.isSome_iff_exists.mp present
    exact .ready current
  case isFalse absent =>
  have current : conn.pContext = none := by simpa using absent
  split
  · exact .early current
  cases answers.connect with
  | none => exact .refused current
  | some err =>
      cases err with
      | true => exact .broken current
      | false => exact .connected current

/-- `Init` succeeds only with a context. -/
theorem context_of_Init (succeeds : (conn.Init server answers).2 = 0) :
    ∃ context, (conn.Init server answers).1.pContext = some context := by
  have outcome : Initialises server answers conn (conn.Init server answers) := initialises
  generalize conn.Init server answers = result at succeeds outcome
  cases outcome with
  | ready context => exact ⟨_, context⟩
  | early => cases succeeds
  | refused => cases succeeds
  | broken => cases succeeds
  | connected => exact ⟨_, rfl⟩

/-- What a data command does to the connection: its result plays no part. -/
theorem issue_fst {Result : Type} {failure : Result} {decode : RedisReply → Result} :
    (conn.issue answers command failure decode).1 =
      if (answers.command command).isSome then
        conn.record (.command conn.pContext command (answers.command command))
      else
        (conn.record (.command conn.pContext command none)).discard := by
  simp only [issue, redisCommand]
  cases answers.command command <;> rfl

inductive Transition (server : CacheServer) (conn : CacheConn) :
    CacheLabel → CacheConn → Prop where
  | initialised {op : CacheOp} {answers : RedisAnswers} :
      op.issues = false ∨ (conn.Init server answers).2 ≠ 0 →
      Transition server conn (.call op answers) (conn.Init server answers).1
  | answered {op : CacheOp} {answers : RedisAnswers} {command : RedisCommand}
      {reply : Option RedisReply} :
      op.issues = true → (conn.Init server answers).2 = 0 → reply.isSome →
      Transition server conn (.call op answers)
        ((conn.Init server answers).1.record
          (.command (conn.Init server answers).1.pContext command reply))
  | lost {op : CacheOp} {answers : RedisAnswers} {command : RedisCommand} :
      op.issues = true → (conn.Init server answers).2 = 0 →
      Transition server conn (.call op answers)
        ((conn.Init server answers).1.record
          (.command (conn.Init server answers).1.pContext command none)).discard
  | existsLost {key : Bytes} {answers : RedisAnswers} :
      (conn.Init server answers).2 = 0 → answers.command (isExistsCommand key) = none →
      Transition server conn (.call (.isExists key) answers)
        ((conn.Init server answers).1.record
          (.command (conn.Init server answers).1.pContext (isExistsCommand key) none)).redisFree
  | destroy : Transition server conn .destroy conn.destroy

theorem Transition.of_issue (issues : op.issues = true)
    (ready : (conn.Init server answers).2 = 0) {Result : Type} {failure : Result}
    {decode : RedisReply → Result} :
    Transition server conn (.call op answers)
      ((conn.Init server answers).1.issue answers command failure decode).1 := by
  rw [issue_fst]
  split
  case isTrue replied => exact .answered issues ready replied
  case isFalse => exact .lost issues ready

theorem Transition.of_perform (issues : op.issues = true) {Result : Type} {failure : Result}
    {decode : RedisReply → Result} :
    Transition server conn (.call op answers)
      (conn.perform server answers command failure decode).1 := by
  simp only [perform]
  split
  case isTrue failed => exact .initialised (.inr failed)
  case isFalse ready => exact .of_issue issues (by simpa using ready)

theorem Transition.of_mget {keys : List Bytes} {ret_value : StringMap} :
    Transition server conn (.call (.mget keys ret_value) answers)
      (conn.mget server answers keys ret_value).1 := by
  simp only [mget]
  split
  case isTrue failed => exact .initialised (.inr failed)
  case isFalse ready =>
  cases text : mgetCommand keys with
  | none => exact .initialised (.inl (by simp [CacheOp.issues, text]))
  | some command => exact .of_issue (by simp [CacheOp.issues, text]) (by simpa using ready)

theorem isExists_lost {key : Bytes} (ready : (conn.Init server answers).2 = 0)
    (lost : answers.command (isExistsCommand key) = none) :
    (conn.isExists server answers key).1 =
      ((conn.Init server answers).1.record
        (.command (conn.Init server answers).1.pContext (isExistsCommand key) none)).redisFree := by
  simp [isExists, redisCommand, ready, lost]

theorem Transition.of_isExists {key : Bytes} :
    Transition server conn (.call (.isExists key) answers)
      (conn.isExists server answers key).1 := by
  by_cases ready : (conn.Init server answers).2 = 0
  · cases answer : answers.command (isExistsCommand key) with
    | none =>
        rw [isExists_lost ready answer]
        exact .existsLost ready answer
    | some reply =>
        simp only [isExists, redisCommand, ready, answer, ne_eq, not_true_eq_false, if_false]
        exact .answered rfl ready rfl
  · simp only [isExists, if_pos ready]
    exact .initialised (.inr ready)

theorem apply_of_step (taken : (machine server).step conn (.call op answers) = some next) :
    op.apply conn server answers = next := by
  simp only [machine, step] at taken
  split at taken
  · cases taken
  · exact Option.some.inj taken

theorem Transition.of_step (taken : (machine server).step conn label = some next) :
    Transition server conn label next := by
  cases label with
  | destroy =>
      simp only [machine, step] at taken
      split at taken
      · cases taken
      · cases taken
        exact .destroy
  | call op answers =>
      obtain rfl := apply_of_step taken
      cases op with
      | Init => exact .initialised (.inl rfl)
      | mget => exact .of_mget
      | isExists => exact .of_isExists
      | get | setex | set | hdel | hget | hgetAll | hset | hincrBy | incrBy | hmset | hmget | incr
      | decr | lpush | rpush | llen | lrange => exact .of_perform rfl

/-! ## Freed contexts -/

/-- A call that does not touch a freed context. -/
def Untouched (before : List RedisCall) (call : RedisCall) : Prop :=
  ∀ context, call.context? = some context → .free (some context) ∉ before

structure ContextSafe (conn : CacheConn) : Prop where
  live : ∀ context, conn.pContext = some context → .free (some context) ∉ conn.calls
  untouched : Historic Untouched conn.calls

structure ContextInv (conn : CacheConn) : Prop where
  safe : ContextSafe conn
  current : ∀ context, conn.pContext = some context → context < conn.contexts
  freed : ∀ context, .free (some context) ∈ conn.calls → context < conn.contexts

theorem ContextInv.new : ContextInv new where
  safe := ⟨by simp [CacheConn.new], .nil⟩
  current := by simp [CacheConn.new]
  freed := by simp [CacheConn.new]

/-- A call on the current context that does not free it. -/
theorem ContextInv.record {call : RedisCall} (inv : ContextInv conn)
    (on : ∀ context, call.context? = some context → conn.pContext = some context)
    (keeps : call.isFree = false) : ContextInv (conn.record call) := by
  have same : ∀ context, .free (some context) ∈ (conn.record call).calls ↔
      .free (some context) ∈ conn.calls := by
    intro context
    have other : .free (some context) ≠ call := by
      rintro rfl
      cases keeps
    simp [CacheConn.record, other]
  refine ⟨⟨fun context current => ?_, ?_⟩, inv.current, fun context freed => ?_⟩
  · exact (same context).not.mpr (inv.safe.live context current)
  · refine historic_append_singleton.mpr ⟨inv.safe.untouched, fun context used => ?_⟩
    exact inv.safe.live context (on context used)
  · exact inv.freed context ((same context).mp freed)

theorem ContextInv.discard (inv : ContextInv conn) : ContextInv conn.discard where
  safe.live := by simp [CacheConn.discard]
  safe.untouched := by
    refine historic_append_singleton.mpr ⟨inv.safe.untouched, fun context used => ?_⟩
    exact inv.safe.live context used
  current := by simp [CacheConn.discard]
  freed := by
    intro context freed
    rcases List.mem_append.mp freed with before | last
    · exact inv.freed context before
    · exact inv.current context (by simpa [eq_comm] using last)

theorem ContextInv.connect (inv : ContextInv conn) :
    ContextInv (conn.redisConnectWithTimeout server) := by
  have same : ∀ context,
      .free (some context) ∈ (conn.redisConnectWithTimeout server).calls →
      .free (some context) ∈ conn.calls := by
    intro context freed
    simpa [redisConnectWithTimeout, CacheConn.record] using freed
  refine ⟨⟨fun context current freed => ?_, ?_⟩, fun context current => ?_, fun context freed => ?_⟩
  · obtain rfl := Option.some.inj current
    exact absurd (inv.freed _ (same _ freed)) (Nat.lt_irrefl _)
  · refine historic_append_singleton.mpr ⟨inv.safe.untouched, fun context used => ?_⟩
    cases used
  · obtain rfl := Option.some.inj current
    exact Nat.lt_succ_self _
  · exact Nat.lt_succ_of_lt (inv.freed context (same context freed))

theorem ContextInv.Init (inv : ContextInv conn) : ContextInv (conn.Init server answers).1 := by
  have outcome : Initialises server answers conn (conn.Init server answers) := initialises
  generalize conn.Init server answers = result at outcome ⊢
  have timed : ContextInv { conn with lastConnectTime := answers.curTime } := ⟨
    ⟨inv.safe.live, inv.safe.untouched⟩, inv.current, inv.freed⟩
  cases outcome with
  | ready => exact inv
  | early => exact inv
  | refused => exact timed.record (by simp [RedisCall.context?]) rfl
  | broken => exact timed.connect.discard
  | connected => exact timed.connect.record (fun _ used => used) rfl

/-- `isExists` is not left without an answer. -/
def ExistsAnswered (server : CacheServer) (conn : CacheConn) : CacheLabel → Prop
  | .call (.isExists key) answers =>
      (conn.Init server answers).2 = 0 → answers.command (isExistsCommand key) ≠ none
  | _ => True

theorem ContextInv.step (inv : ContextInv conn) (answered : ExistsAnswered server conn label)
    (taken : (machine server).step conn label = some next) : ContextInv next := by
  cases Transition.of_step taken with
  | initialised => exact inv.Init
  | answered => exact inv.Init.record (fun _ used => used) rfl
  | lost =>
      apply ContextInv.discard
      exact inv.Init.record (fun _ used => used) rfl
  | existsLost ready lost => exact absurd lost (answered ready)
  | destroy =>
      have kept : ∀ {conn : CacheConn}, ContextInv conn →
          ContextInv { conn with destroyed := true } := fun inv =>
        ⟨⟨inv.safe.live, inv.safe.untouched⟩, inv.current, inv.freed⟩
      simp only [CacheConn.destroy]
      split
      · exact kept inv.discard
      · exact kept inv

/-- The step leaves no freed context behind and touches none. -/
def StaysSafe (server : CacheServer) (conn : CacheConn) (label : CacheLabel) : Prop :=
  ∀ next, (machine server).step conn label = some next → ContextSafe next

theorem isExists_lost_unsafe {key : Bytes} (ready : (conn.Init server answers).2 = 0)
    (lost : answers.command (isExistsCommand key) = none) :
    ¬ ContextSafe (conn.isExists server answers key).1 := by
  rw [isExists_lost ready lost]
  intro safe
  obtain ⟨context, current⟩ := context_of_Init ready
  refine safe.live context current ?_
  simp [redisFree, CacheConn.record, current]

theorem StaysSafe.answered (taken : (machine server).step conn label = some next)
    (safe : StaysSafe server conn label) : ExistsAnswered server conn label := by
  cases label with
  | destroy => trivial
  | call op answers =>
      cases op with
      | isExists key =>
          intro ready lost
          have outcome := safe next taken
          rw [← apply_of_step taken] at outcome
          exact isExists_lost_unsafe ready lost outcome
      | Init | get | setex | set | mget | hdel | hget | hgetAll | hset | hincrBy | incrBy | hmset
      | hmget | incr | decr | lpush | rpush | llen | lrange => trivial

/-- A run leaves no freed context in `m_pContext`, and applies nothing to one, in any of its
states, if and only if each `EXISTS` that `isExists` issues is answered. -/
theorem context_life_cycle (server : CacheServer) (labels : List CacheLabel) (conn : CacheConn) :
    (machine server).Runs (StaysSafe server) new labels conn ↔
      (machine server).Runs (ExistsAnswered server) new labels conn := by
  constructor
  · intro run
    refine run.strengthen (fun _ => True) (fun conn label next safe taken _ => ?_) trivial
    exact ⟨safe.answered taken, trivial⟩
  · intro run
    refine run.strengthen ContextInv (fun conn label next answered taken inv => ?_) .new
    have after := inv.step answered taken
    refine ⟨fun other moved => ?_, after⟩
    obtain rfl : next = other := Option.some.inj (taken.symm.trans moved)
    exact after.safe

/-- The server goes away after it has selected the database. -/
def lostAfterSelect : RedisAnswers where
  curTime := 100
  connect := some false
  select := some (.status (ascii "OK"))
  command := fun _ => none

/-- An `EXISTS` without an answer: the destructor frees the context again. -/
theorem isExists_freed_twice :
    ¬ ∀ (server : CacheServer) (labels : List CacheLabel) (conn : CacheConn),
      (machine server).Runs Machine.anyStep new labels conn → ContextSafe conn := by
  intro safe
  have run : (machine ⟨"127.0.0.1", 6379, 1⟩).Runs Machine.anyStep new
      [.call (.isExists (ascii "key")) lostAfterSelect, .destroy] _ :=
    .cons trivial rfl <| .cons trivial rfl .nil
  have freed := (safe _ _ _ run).untouched
    [.connect "127.0.0.1" 6379 (some 0), .select (some 0) 1 (some (.status (ascii "OK"))),
      .command (some 0) (isExistsCommand (ascii "key")) none, .free (some 0)]
    (.free (some 0)) [] rfl
  exact freed 0 rfl (by simp)

end CacheConn

end TalkSystem.DbProxyServer
