import TalkSystem.DbProxyServer.CacheConnProperties

/-!
# The database of a `CacheConn`

An operation takes a context that is not NULL to have its database selected, but
`Init` keeps the context when `SELECT` fails.
-/

set_option autoImplicit false

namespace TalkSystem.DbProxyServer

def RedisCall.isCommand : RedisCall → Bool
  | .command _ _ _ => true
  | .connect _ _ _ | .select _ _ _ | .free _ => false

namespace CacheConn

variable {server : CacheServer} {answers : RedisAnswers} {conn next : CacheConn}
  {op : CacheOp} {label : CacheLabel}

/-- `SELECT` has succeeded on the context. -/
def Selected (dbNum : Int) (before : List RedisCall) (context : Nat) : Prop :=
  ∃ reply : RedisReply, .select (some context) dbNum (some reply) ∈ before ∧ reply.isOk = true

/-- A data command goes to a context with the right database. -/
def GoesToSelected (dbNum : Int) (before : List RedisCall) (call : RedisCall) : Prop :=
  ∀ context? command reply, call = .command context? command reply →
    ∃ context, context? = some context ∧ Selected dbNum before context

/-- Each context is asked once for its database, before it is used. -/
structure SelectInv (dbNum : Int) (conn : CacheConn) : Prop where
  asked : ∀ context, conn.pContext = some context →
    ∃ reply, .select (some context) dbNum reply ∈ conn.calls
  once : ∀ context first second, .select (some context) dbNum first ∈ conn.calls →
    .select (some context) dbNum second ∈ conn.calls → first = second
  bounded : ∀ context reply, .select (some context) dbNum reply ∈ conn.calls →
    context < conn.contexts

theorem SelectInv.new {dbNum : Int} : SelectInv dbNum new where
  asked := by simp [CacheConn.new]
  once := by simp [CacheConn.new]
  bounded := by simp [CacheConn.new]

theorem SelectInv.frame {dbNum : Int} (inv : SelectInv dbNum conn)
    (current : ∀ context, next.pContext = some context → conn.pContext = some context)
    (same : ∀ context reply, .select (some context) dbNum reply ∈ next.calls ↔
      .select (some context) dbNum reply ∈ conn.calls)
    (contexts : conn.contexts ≤ next.contexts) : SelectInv dbNum next where
  asked := by
    intro context found
    obtain ⟨reply, asked⟩ := inv.asked context (current context found)
    exact ⟨reply, (same context reply).mpr asked⟩
  once := by
    intro context first second left right
    exact inv.once context first second ((same _ _).mp left) ((same _ _).mp right)
  bounded := by
    intro context reply asked
    exact Nat.lt_of_lt_of_le (inv.bounded context reply ((same _ _).mp asked)) contexts

theorem SelectInv.Init (inv : SelectInv server.dbNum conn) :
    SelectInv server.dbNum (conn.Init server answers).1 := by
  have outcome : Initialises server answers conn (conn.Init server answers) := initialises
  generalize conn.Init server answers = result at outcome ⊢
  cases outcome with
  | ready => exact inv
  | early => exact inv
  | refused => exact inv.frame (fun _ found => found) (by simp [CacheConn.record]) (Nat.le_refl _)
  | broken =>
      exact inv.frame (by simp [discard])
        (by simp [redisConnectWithTimeout, CacheConn.record, discard, redisFree])
        (Nat.le_succ _)
  | connected =>
      have fresh : ∀ reply, .select (some conn.contexts) server.dbNum reply ∉ conn.calls :=
        fun reply asked => Nat.lt_irrefl _ (inv.bounded _ reply asked)
      have calls : ∀ context reply,
          .select (some context) server.dbNum reply ∈
            (({ conn with lastConnectTime := answers.curTime }.redisConnectWithTimeout
              server).selectDB server answers).1.calls ↔
          .select (some context) server.dbNum reply ∈ conn.calls ∨
            (context = conn.contexts ∧ reply = answers.select) := by
        simp [redisConnectWithTimeout, CacheConn.record, selectDB]
      refine ⟨fun context found => ?_, fun context first second left right => ?_,
        fun context reply asked => ?_⟩
      · obtain rfl := Option.some.inj found
        exact ⟨answers.select, (calls _ _).mpr (.inr ⟨rfl, rfl⟩)⟩
      · rcases (calls _ _).mp left with earlier | ⟨rfl, rfl⟩
        · rcases (calls _ _).mp right with also | ⟨rfl, rfl⟩
          · exact inv.once context first second earlier also
          · exact absurd earlier (fresh first)
        · rcases (calls _ _).mp right with earlier | ⟨-, rfl⟩
          · exact absurd earlier (fresh second)
          · rfl
      · rcases (calls _ _).mp asked with earlier | ⟨rfl, -⟩
        · exact Nat.lt_succ_of_lt (inv.bounded context reply earlier)
        · exact Nat.lt_succ_self _

theorem SelectInv.step (inv : SelectInv server.dbNum conn)
    (taken : (machine server).step conn label = some next) : SelectInv server.dbNum next := by
  cases Transition.of_step taken with
  | initialised => exact inv.Init
  | answered =>
      exact inv.Init.frame (fun _ found => found) (by simp [CacheConn.record]) (Nat.le_refl _)
  | lost =>
      exact inv.Init.frame (by simp [discard]) (by simp [CacheConn.record, discard, redisFree])
        (Nat.le_refl _)
  | existsLost =>
      exact inv.Init.frame (fun _ found => found) (by simp [CacheConn.record, redisFree])
        (Nat.le_refl _)
  | destroy =>
      simp only [CacheConn.destroy]
      split
      · exact inv.frame (by simp [discard]) (by simp [CacheConn.record, discard, redisFree])
          (Nat.le_refl _)
      · exact inv.frame (fun _ found => found) (by simp) (Nat.le_refl _)

/-- The operation is not called on a context whose `SELECT` has failed. -/
def SelectAnswered (server : CacheServer) (conn : CacheConn) : CacheLabel → Prop
  | .call op _ => op.issues = true → ∀ context reply, conn.pContext = some context →
      .select (some context) server.dbNum reply ∈ conn.calls → reply.any RedisReply.isOk = true
  | .destroy => True

theorem selected_of_Init (inv : SelectInv server.dbNum conn)
    (answered : ∀ context reply, conn.pContext = some context →
      .select (some context) server.dbNum reply ∈ conn.calls → reply.any RedisReply.isOk = true)
    (ready : (conn.Init server answers).2 = 0) :
    ∃ context, (conn.Init server answers).1.pContext = some context ∧
      Selected server.dbNum (conn.Init server answers).1.calls context := by
  have outcome : Initialises server answers conn (conn.Init server answers) := initialises
  generalize conn.Init server answers = result at ready outcome ⊢
  cases outcome with
  | @ready context current =>
      obtain ⟨reply, asked⟩ := inv.asked context current
      obtain ⟨reply, rfl, ok⟩ := Option.any_eq_true _ _ |>.mp (answered context reply current asked)
      exact ⟨context, current, reply, asked, ok⟩
  | early => cases ready
  | refused => cases ready
  | broken => cases ready
  | connected =>
      have accepted : answers.select.any RedisReply.isOk = true := by
        by_contra refused
        simp [selectDB, refused] at ready
      obtain ⟨reply, answer, ok⟩ := Option.any_eq_true _ _ |>.mp accepted
      refine ⟨conn.contexts, rfl, reply, ?_, ok⟩
      simp [selectDB, CacheConn.record, redisConnectWithTimeout, answer]

theorem historic_record {dbNum : Int} {calls : List RedisCall} {call : RedisCall}
    (holds : Historic (GoesToSelected dbNum) calls)
    (other : call.isCommand = false) : Historic (GoesToSelected dbNum) (calls ++ [call]) := by
  refine historic_append_singleton.mpr ⟨holds, fun context? command reply same => ?_⟩
  rw [same] at other
  cases other

theorem historic_Init (holds : Historic (GoesToSelected server.dbNum) conn.calls) :
    Historic (GoesToSelected server.dbNum) (conn.Init server answers).1.calls := by
  have outcome : Initialises server answers conn (conn.Init server answers) := initialises
  generalize conn.Init server answers = result at outcome ⊢
  cases outcome with
  | ready => exact holds
  | early => exact holds
  | refused => exact historic_record holds rfl
  | broken => exact historic_record (historic_record holds rfl) rfl
  | connected => exact historic_record (historic_record holds rfl) rfl

theorem historic_step (inv : SelectInv server.dbNum conn)
    (holds : Historic (GoesToSelected server.dbNum) conn.calls)
    (answered : SelectAnswered server conn label)
    (taken : (machine server).step conn label = some next) :
    Historic (GoesToSelected server.dbNum) next.calls := by
  have issued : ∀ {op : CacheOp} {answers : RedisAnswers} {command : RedisCommand}
      {reply : Option RedisReply}, SelectAnswered server conn (.call op answers) →
      op.issues = true → (conn.Init server answers).2 = 0 →
      Historic (GoesToSelected server.dbNum) ((conn.Init server answers).1.calls ++
        [.command (conn.Init server answers).1.pContext command reply]) := by
    intro op answers command reply answered issues ready
    refine historic_append_singleton.mpr ⟨historic_Init holds, fun context? _ _ same => ?_⟩
    cases same
    exact selected_of_Init inv (answered issues) ready
  cases Transition.of_step taken with
  | initialised => exact historic_Init holds
  | answered issues ready => exact issued answered issues ready
  | lost issues ready => exact historic_record (issued answered issues ready) rfl
  | existsLost ready => exact historic_record (issued answered rfl ready) rfl
  | destroy =>
      simp only [CacheConn.destroy]
      split
      · exact historic_record holds rfl
      · exact holds

/-- The step issues no data command on a context without the right database. -/
def StaysSelected (server : CacheServer) (conn : CacheConn) (label : CacheLabel) : Prop :=
  ∀ next, (machine server).step conn label = some next →
    Historic (GoesToSelected server.dbNum) next.calls

theorem command_issued {context : Nat} (current : conn.pContext = some context)
    (issues : op.issues = true)
    (taken : (machine server).step conn (.call op answers) = some next) :
    ∃ command reply after,
      next.calls = conn.calls ++ .command (some context) command reply :: after := by
  have ready : conn.Init server answers = (conn, 0) := by simp [CacheConn.Init, current]
  cases Transition.of_step taken with
  | initialised idle => simp [issues, ready] at idle
  | @answered _ _ command reply =>
      exact ⟨command, reply, [], by simp [CacheConn.record, ready, current]⟩
  | @lost _ _ command =>
      refine ⟨command, none, [.free (some context)], ?_⟩
      simp [CacheConn.record, discard, redisFree, ready, current]
  | @existsLost key =>
      refine ⟨isExistsCommand key, none, [.free (some context)], ?_⟩
      simp [CacheConn.record, redisFree, ready, current]

theorem StaysSelected.answered (inv : SelectInv server.dbNum conn)
    (taken : (machine server).step conn label = some next)
    (stays : StaysSelected server conn label) : SelectAnswered server conn label := by
  cases label with
  | destroy => trivial
  | call op answers =>
      intro issues context reply current asked
      obtain ⟨command, answer, after, calls⟩ := command_issued current issues taken
      obtain ⟨_, same, accepted, selected, ok⟩ := stays next taken _ _ _ calls _ _ _ rfl
      obtain rfl := Option.some.inj same
      rw [inv.once context reply (some accepted) asked selected]
      exact ok

/-- A run issues every data command on a context on which the `SELECT` of the pool's database has
succeeded if and only if it calls no operation with a data command on a context whose `SELECT` has
failed. -/
theorem commands_on_selected (server : CacheServer) (labels : List CacheLabel)
    (conn : CacheConn) :
    (machine server).Runs (StaysSelected server) new labels conn ↔
      (machine server).Runs (SelectAnswered server) new labels conn := by
  constructor
  · intro run
    refine run.strengthen (SelectInv server.dbNum) (fun conn label next stays taken inv => ?_) .new
    exact ⟨stays.answered inv taken, inv.step taken⟩
  · intro run
    refine run.strengthen
      (fun conn => SelectInv server.dbNum conn ∧ Historic (GoesToSelected server.dbNum) conn.calls)
      (fun conn label next answered taken holds => ?_) ⟨.new, .nil⟩
    obtain ⟨inv, holds⟩ := holds
    have after := historic_step inv holds answered taken
    refine ⟨fun other moved => ?_, inv.step taken, after⟩
    obtain rfl : next = other := Option.some.inj (taken.symm.trans moved)
    exact after

/-- The server is still loading its data when `SELECT` comes. -/
def loadingAtSelect : RedisAnswers where
  curTime := 100
  connect := some false
  select := some (.error (ascii "LOADING"))
  command := fun _ => some (.status (ascii "OK"))

/-- The first `get` fails because its `SELECT` does; the second finds a context and writes. -/
theorem command_on_unselected :
    ¬ ∀ (server : CacheServer) (labels : List CacheLabel) (conn : CacheConn),
      (machine server).Runs Machine.anyStep new labels conn →
      Historic (GoesToSelected server.dbNum) conn.calls := by
  intro holds
  have run : (machine ⟨"127.0.0.1", 6379, 1⟩).Runs Machine.anyStep new
      [.call (.get (ascii "key")) loadingAtSelect,
        .call (.set (ascii "key") (ascii "value")) loadingAtSelect] _ :=
    .cons trivial rfl <| .cons trivial rfl .nil
  obtain ⟨context, same, accepted, selected, ok⟩ := holds _ _ _ run
    [.connect "127.0.0.1" 6379 (some 0), .select (some 0) 1 (some (.error (ascii "LOADING")))]
    (.command (some 0)
      (.format (ascii "SET %s %s") [.str (cStr (ascii "key")), .str (cStr (ascii "value"))])
      (some (.status (ascii "OK")))) [] rfl _ _ _ rfl
  have refused : accepted = .error (ascii "LOADING") := by
    simp only [List.mem_cons, reduceCtorEq, RedisCall.select.injEq, Option.some.injEq, true_and,
      List.not_mem_nil, or_false, false_or] at selected
    exact selected.2
  rw [refused] at ok
  cases ok

end CacheConn

end TalkSystem.DbProxyServer
