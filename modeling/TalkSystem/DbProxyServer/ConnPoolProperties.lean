import Mathlib.Data.List.Nodup
import Mathlib.Data.List.Perm.Basic
import TalkSystem.DbProxyServer.ConnPool

/-!
# Borrowing from a connection pool

Every connection is free or lent to one thread, the counter counts them all, and
nobody sleeps over a free connection. The limit is tested where `GetDBConn`
creates, and not where `Init` does.
-/

set_option autoImplicit false

namespace TalkSystem.DbProxyServer

/-! ## `Init` -/

section Init

variable {Conn : Type}

theorem PoolClass.Get_eq (poolClass : PoolClass) :
    (poolClass.Get : ConnPool Conn → _) = ConnPool.getConn := by
  cases poolClass <;> rfl

/-- What a pool is after an `Init` that returns zero. -/
structure ConnPool.Ready (pool : ConnPool Conn) (max_conn_cnt : Int) : Prop where
  distinct : pool.freeList.Nodup
  full : pool.freeList.length = 2
  counter : pool.curConnCnt = 2
  limit : pool.maxConnCnt = max_conn_cnt

variable [DecidableEq Conn]

theorem PoolClass.Rel_eq (poolClass : PoolClass) :
    (poolClass.Rel : ConnPool Conn → _) = ConnPool.relConn := by
  cases poolClass <;> rfl

@[simp] theorem ConnPool.relConn_curConnCnt (pool : ConnPool Conn) (conn : Conn) :
    (pool.relConn conn).curConnCnt = pool.curConnCnt := by
  rw [relConn]
  split <;> rfl

@[simp] theorem ConnPool.relConn_maxConnCnt (pool : ConnPool Conn) (conn : Conn) :
    (pool.relConn conn).maxConnCnt = pool.maxConnCnt := by
  rw [relConn]
  split <;> rfl

theorem ConnPool.initLoop_succeeds {code : Int → Int} (fails : ∀ ret, ret ≠ 0 → code ret ≠ 0)
    {remaining : Nat} {creations : List (Creation Conn)} {before pool : ConnPool Conn}
    (succeeds : initLoop code remaining creations before = some (pool, 0))
    (distinct : before.freeList.Nodup) :
    pool.freeList.Nodup ∧ pool.freeList.length = before.freeList.length + remaining ∧
      pool.curConnCnt = before.curConnCnt ∧ pool.maxConnCnt = before.maxConnCnt := by
  induction remaining generalizing creations before with
  | zero =>
      simp only [initLoop, Option.some.injEq, Prod.mk.injEq, and_true] at succeeds
      subst succeeds
      exact ⟨distinct, rfl, rfl, rfl⟩
  | succ remaining ih =>
      cases creations with
      | nil => simp [initLoop] at succeeds
      | cons creation creations =>
          simp only [initLoop] at succeeds
          split at succeeds
          case isTrue => cases succeeds
          case isFalse fresh =>
          split at succeeds
          case isTrue failed =>
            simp only [Option.some.injEq, Prod.mk.injEq] at succeeds
            exact absurd succeeds.2 (fails _ failed)
          case isFalse =>
            have unique : (before.pushBack creation.conn).freeList.Nodup :=
              List.nodup_append_comm.mp (List.nodup_cons.mpr ⟨fresh, distinct⟩)
            obtain ⟨unique, length, counter, limit⟩ := ih succeeds unique
            refine ⟨unique, ?_, counter, limit⟩
            simp only [pushBack, List.length_append, List.length_singleton] at length
            omega

theorem PoolClass.ready_of_Init {poolClass : PoolClass} {max_conn_cnt : Int}
    {creations : List (Creation Conn)} {pool : ConnPool Conn}
    (initialised : poolClass.Init (poolClass.new max_conn_cnt) creations = some (pool, 0)) :
    pool.Ready max_conn_cnt := by
  obtain ⟨code, fails, looped⟩ : ∃ code : Int → Int, (∀ ret, ret ≠ 0 → code ret ≠ 0) ∧
      ConnPool.initLoop code 2 creations (.new 2 max_conn_cnt) = some (pool, 0) := by
    cases poolClass with
    | CDBPool => exact ⟨fun ret => ret, fun _ failed => failed, initialised⟩
    | CachePool => exact ⟨fun _ => 1, fun _ _ => Int.one_ne_zero, initialised⟩
  obtain ⟨distinct, full, counter, limit⟩ :=
    ConnPool.initLoop_succeeds fails looped List.nodup_nil
  exact ⟨distinct, full, counter, limit⟩

end Init

/-! ## Exclusive ownership -/

namespace BorrowState

variable {Conn Thread : Type} {state next : BorrowState Conn Thread}
  {label : BorrowLabel Conn Thread} {labels : List (BorrowLabel Conn Thread)}
  {thread : Thread} {conn : Conn} {creation : Creation Conn}

structure PoolInv (state : BorrowState Conn Thread) : Prop where
  distinct : state.existing.Nodup
  counter : state.pool.curConnCnt = state.existing.length
  awake : ∀ thread, state.borrowers thread = .waiting false → state.pool.freeList = []

theorem PoolInv.start {pool : ConnPool Conn} {max_conn_cnt : Int}
    (ready : pool.Ready max_conn_cnt) : PoolInv (start pool : BorrowState Conn Thread) where
  distinct := by simpa [existing, BorrowState.start] using ready.distinct
  counter := by simp [existing, BorrowState.start, ready.counter, ready.full]
  awake := by simp [BorrowState.start]

theorem ReleasesOwn.existing (own : state.ReleasesOwn label) : state.ReleasesExisting label := by
  cases label with
  | get => trivial
  | wake => trivial
  | rel thread conn =>
      rcases own with lent | free
      · exact List.mem_append_right _ (List.mem_map_of_mem lent)
      · exact List.mem_append_left _ free

theorem notifyAll_awake (thread : Thread) :
    state.notifyAll.borrowers thread ≠ .waiting false := by
  simp only [notifyAll]
  cases state.borrowers thread <;> simp [BorrowerPhase.notify]

/-- The thread sleeps over an empty list or not at all, and nothing becomes free for the
others. -/
theorem awake_update [DecidableEq Thread] {borrowers : Thread → BorrowerPhase}
    {phase : BorrowerPhase} {before after : List Conn}
    (awake : ∀ thread, borrowers thread = .waiting false → before = [])
    (kept : before = [] → after = []) (phased : phase = .waiting false → after = [])
    (other : Thread)
    (waits : Function.update borrowers thread phase other = .waiting false) : after = [] := by
  by_cases same : other = thread
  · subst same
    exact phased (by simpa using waits)
  · exact kept (awake other (by simpa [Function.update_of_ne same] using waits))

/-- A connection that comes back changes hands; one that was free stays free. -/
theorem existing_release [DecidableEq Conn] (distinct : state.existing.Nodup)
    (member : conn ∈ state.existing) :
    ((state.pool.relConn conn).freeList ++
      (state.lent.eraseP fun loan => loan.2 = conn).map Prod.snd).Perm state.existing := by
  have erased : (state.lent.eraseP fun loan => loan.2 = conn).map Prod.snd =
      (state.lent.map Prod.snd).erase conn := by
    rw [List.erase_eq_eraseP', List.eraseP_map]
    rfl
  rw [erased]
  obtain ⟨_, _, disjoint⟩ := List.nodup_append.mp distinct
  rcases List.mem_append.mp member with free | lent
  · have kept : conn ∉ state.lent.map Prod.snd := fun lent => disjoint conn free conn lent rfl
    rw [ConnPool.relConn, if_pos free, List.erase_of_not_mem kept, existing]
  · have absent : conn ∉ state.pool.freeList := fun free => disjoint conn free conn lent rfl
    rw [ConnPool.relConn, if_neg absent, ConnPool.pushBack, List.append_assoc]
    exact (List.perm_cons_erase lent).symm.append_left _

/-! ## Steps -/

variable [DecidableEq Thread]

/-- What a turn of the loop of `GetDBConn` can do. -/
inductive Seeks (state : BorrowState Conn Thread) (thread : Thread) (creation : Creation Conn) :
    BorrowState Conn Thread → Prop where
  | lends {conn : Conn} {rest : List Conn} : state.pool.freeList = conn :: rest →
      Seeks state thread creation
        ({ state with
          pool := { state.pool with freeList := rest }
          lent := (thread, conn) :: state.lent
          returned := state.returned ++ [(thread, some conn)] }.setPhase thread .outside)
  | blocks : state.pool.freeList = [] → state.pool.maxConnCnt ≤ state.pool.curConnCnt →
      Seeks state thread creation (state.setPhase thread (.waiting false))
  | fails : state.pool.grows = true → creation.ret ≠ 0 →
      Seeks state thread creation
        ({ state with returned := state.returned ++ [(thread, none)] }.setPhase thread .outside)
  | creates : state.pool.freeList = [] → state.pool.curConnCnt < state.pool.maxConnCnt →
      creation.ret = 0 → creation.conn ∉ state.existing →
      Seeks state thread creation
        ({ state with
          pool := { state.pool with curConnCnt := state.pool.curConnCnt + 1 }
          lent := (thread, creation.conn) :: state.lent
          returned := state.returned ++ [(thread, some creation.conn)] }.setPhase thread .outside)

theorem PoolInv.seeks (inv : PoolInv state) (sought : Seeks state thread creation next) :
    PoolInv next := by
  obtain ⟨distinct, counter, awake⟩ := inv
  cases sought with
  | @lends conn rest free =>
      have moved : (rest ++ conn :: state.lent.map Prod.snd).Perm state.existing := by
        rw [existing, free]
        exact List.perm_middle
      refine ⟨moved.nodup_iff.mpr distinct, ?_, ?_⟩
      · exact counter.trans (congrArg Nat.cast moved.length_eq.symm)
      · exact awake_update awake (by simp [free]) (by simp)
  | blocks free full =>
      exact ⟨distinct, counter, awake_update awake id fun _ => free⟩
  | fails =>
      exact ⟨distinct, counter, awake_update awake id (by simp)⟩
  | creates free grows created fresh =>
      have added : existing { state with
          lent := (thread, creation.conn) :: state.lent } = creation.conn :: state.existing := by
        simp [existing, free]
      refine ⟨?_, ?_, awake_update awake id (by simp)⟩
      · exact added ▸ List.nodup_cons.mpr ⟨fresh, distinct⟩
      · change state.pool.curConnCnt + 1 = (existing { state with
          lent := (thread, creation.conn) :: state.lent }).length
        simp [added, counter]

theorem Seeks.of_failed (grows : state.pool.grows = true) (failed : creation.ret ≠ 0)
    (sought : Seeks state thread creation next) :
    next.pool = state.pool ∧ next.lent = state.lent ∧
      next.returned = state.returned ++ [(thread, none)] := by
  simp only [ConnPool.grows, Bool.and_eq_true, List.isEmpty_iff, decide_eq_true_eq] at grows
  cases sought with
  | lends free => simp [grows.1] at free
  | blocks _ full => exact absurd grows.2 (by omega)
  | fails => exact ⟨rfl, rfl, rfl⟩
  | creates _ _ created => exact absurd created failed

/-- The counter starts at two, and `GetDBConn` raises it only below the limit. -/
structure LimitInv (max_conn_cnt : Int) (state : BorrowState Conn Thread) : Prop where
  limit : state.pool.maxConnCnt = max_conn_cnt
  least : 2 ≤ state.pool.curConnCnt
  most : state.pool.curConnCnt = 2 ∨ state.pool.curConnCnt ≤ max_conn_cnt

theorem LimitInv.seeks {max_conn_cnt : Int} (inv : LimitInv max_conn_cnt state)
    (sought : Seeks state thread creation next) : LimitInv max_conn_cnt next := by
  obtain ⟨limit, least, most⟩ := inv
  cases sought with
  | lends => exact ⟨limit, least, most⟩
  | blocks => exact ⟨limit, least, most⟩
  | fails => exact ⟨limit, least, most⟩
  | creates _ grows =>
      refine ⟨limit, ?_, .inr ?_⟩
      · change 2 ≤ state.pool.curConnCnt + 1
        omega
      · change state.pool.curConnCnt + 1 ≤ max_conn_cnt
        omega

variable [DecidableEq Conn] {poolClass : PoolClass}

theorem Seeks.of_seek (sought : state.seek poolClass thread creation = some next) :
    Seeks state thread creation next := by
  obtain ⟨⟨freeList, curConnCnt, maxConnCnt⟩, lent, borrowers, returned⟩ := state
  simp only [seek, PoolClass.Get_eq] at sought
  split at sought
  case isTrue => cases sought
  case isFalse allocated =>
  cases freeList with
  | cons conn rest =>
      cases sought
      exact .lends rfl
  | nil =>
      simp only [ConnPool.getConn] at sought
      split at sought
      case isTrue full =>
        cases sought
        exact .blocks rfl full
      case isFalse free =>
        have grows : curConnCnt < maxConnCnt := by omega
        split at sought
        case isTrue failed =>
          cases sought
          exact .fails (by simpa [ConnPool.grows] using grows) failed
        case isFalse created =>
          cases sought
          refine .creates rfl grows (by simpa using created) fun live => allocated ⟨?_, live⟩
          simpa [ConnPool.grows] using grows

inductive Transition (poolClass : PoolClass) (state : BorrowState Conn Thread) :
    BorrowLabel Conn Thread → BorrowState Conn Thread → Prop where
  | get {next : BorrowState Conn Thread} {thread : Thread} {creation : Creation Conn} :
      Seeks state thread creation next → Transition poolClass state (.get thread creation) next
  | wake {next : BorrowState Conn Thread} {thread : Thread} {creation : Creation Conn} :
      Seeks state thread creation next → Transition poolClass state (.wake thread creation) next
  | rel {thread : Thread} {conn : Conn} :
      Transition poolClass state (.rel thread conn)
        { state with
          pool := state.pool.relConn conn
          lent := state.lent.eraseP fun loan => loan.2 = conn }.notifyAll

theorem Transition.of_step (taken : (machine poolClass).step state label = some next) :
    Transition poolClass state label next := by
  cases label with
  | get thread creation =>
      simp only [machine, step] at taken
      split at taken
      · exact .get (.of_seek taken)
      · cases taken
  | wake thread creation =>
      simp only [machine, step] at taken
      split at taken
      · cases taken
      · exact .wake (.of_seek taken)
  | rel thread conn =>
      simp only [machine, step, PoolClass.Rel_eq] at taken
      split at taken
      · cases taken
        exact .rel
      · cases taken

theorem PoolInv.step (inv : PoolInv state) (own : state.ReleasesExisting label)
    (taken : (machine poolClass).step state label = some next) : PoolInv next := by
  cases Transition.of_step taken with
  | get sought => exact inv.seeks sought
  | wake sought => exact inv.seeks sought
  | @rel thread conn =>
      have moved := existing_release inv.distinct own
      refine ⟨moved.nodup_iff.mpr inv.distinct, ?_, ?_⟩
      · have counted := state.pool.relConn_curConnCnt conn
        exact (counted.trans inv.counter).trans (congrArg Nat.cast moved.length_eq.symm)
      · intro thread waits
        exact absurd waits (notifyAll_awake thread)

/-- After a successful `Init`, whatever the threads do in whatever order: no connection is free
twice, free and lent, or lent twice; the counter is right; a creation that fails gives `NULL` and
changes nothing; and nobody waits un-notified while a connection is free. -/
theorem connections_exclusive {max_conn_cnt : Int} {creations : List (Creation Conn)}
    {pool : ConnPool Conn}
    (initialised : poolClass.Init (poolClass.new max_conn_cnt) creations = some (pool, 0))
    (run : (machine poolClass).Runs ReleasesOwn (start pool) labels state) :
    state.pool.freeList.Nodup ∧
      (∀ conn ∈ state.pool.freeList, ∀ thread, (thread, conn) ∉ state.lent) ∧
      (state.lent.map Prod.snd).Nodup ∧
      state.pool.curConnCnt = state.pool.freeList.length + state.lent.length ∧
      (∀ thread creation label next,
        label = .get thread creation ∨ label = .wake thread creation →
        state.pool.grows = true → creation.ret ≠ 0 →
        (machine poolClass).step state label = some next →
        next.pool.freeList = state.pool.freeList ∧
          next.pool.curConnCnt = state.pool.curConnCnt ∧ next.lent = state.lent ∧
          next.returned = state.returned ++ [(thread, none)]) ∧
      ∀ thread, state.borrowers thread = .waiting false → state.pool.freeList = [] := by
  have inv : PoolInv state := run.invariant PoolInv
    (fun _ _ _ own taken inv => inv.step own.existing taken)
    (.start (PoolClass.ready_of_Init initialised))
  obtain ⟨free, lent, disjoint⟩ := List.nodup_append.mp inv.distinct
  refine ⟨free, ?_, lent, ?_, ?_, inv.awake⟩
  · intro conn member thread loan
    exact disjoint conn member conn (List.mem_map_of_mem loan) rfl
  · simpa [existing] using inv.counter
  · intro thread creation label next turn grows failed taken
    have sought : Seeks state thread creation next := by
      rcases turn with rfl | rfl
      · cases Transition.of_step taken with
        | get sought => exact sought
      · cases Transition.of_step taken with
        | wake sought => exact sought
    obtain ⟨pool, lent, returned⟩ := sought.of_failed grows failed
    exact ⟨congrArg ConnPool.freeList pool, congrArg ConnPool.curConnCnt pool, lent, returned⟩

/-- Three connections for four threads: one creation fails, one thread waits for a release. -/
theorem connections_exclusive_growing :
    ∃ pool state,
      PoolClass.CDBPool.Init (PoolClass.CDBPool.new 3) [⟨10, 0⟩, ⟨11, 0⟩] = some (pool, 0) ∧
      (machine .CDBPool).Runs ReleasesOwn (start pool)
        [.get 0 ⟨12, 0⟩, .get 1 ⟨12, 0⟩, .get 2 ⟨12, 2⟩, .get 2 ⟨12, 0⟩, .get 3 ⟨13, 0⟩,
          .rel 0 10, .wake 3 ⟨13, 0⟩] state ∧
      state.lent = [(3, 10), (2, 12), (1, 11)] ∧
      state.returned = [(0, some 10), (1, some 11), (2, none), (2, some 12), (3, some 10)] ∧
      state.pool.freeList.Nodup ∧ (state.lent.map Prod.snd).Nodup := by
  let pool : ConnPool Nat := ⟨[10, 11], 2, 3⟩
  have initialised :
      PoolClass.CDBPool.Init (PoolClass.CDBPool.new 3) [⟨10, 0⟩, ⟨11, 0⟩] = some (pool, 0) := rfl
  obtain ⟨state, run, lent, returned⟩ : ∃ state : BorrowState Nat Nat,
      (machine .CDBPool).Runs ReleasesOwn (start pool)
        [.get 0 ⟨12, 0⟩, .get 1 ⟨12, 0⟩, .get 2 ⟨12, 2⟩, .get 2 ⟨12, 0⟩, .get 3 ⟨13, 0⟩,
          .rel 0 10, .wake 3 ⟨13, 0⟩] state ∧
      state.lent = [(3, 10), (2, 12), (1, 11)] ∧
      state.returned = [(0, some 10), (1, some 11), (2, none), (2, some 12), (3, some 10)] :=
    ⟨_, .cons trivial rfl <| .cons trivial rfl <| .cons trivial rfl <| .cons trivial rfl <|
      .cons trivial rfl <| .cons (.inl (by decide)) rfl <| .cons trivial rfl .nil, rfl, rfl⟩
  obtain ⟨free, _, loans, _⟩ := connections_exclusive initialised run
  exact ⟨pool, state, initialised, run, lent, returned, free, loans⟩

/-! ## The limit -/

theorem LimitInv.step {max_conn_cnt : Int} (inv : LimitInv max_conn_cnt state)
    (taken : (machine poolClass).step state label = some next) : LimitInv max_conn_cnt next := by
  cases Transition.of_step taken with
  | get sought => exact inv.seeks sought
  | wake sought => exact inv.seeks sought
  | rel =>
      obtain ⟨limit, least, most⟩ := inv
      refine ⟨?_, ?_, ?_⟩
      · simpa [notifyAll] using limit
      · simpa [notifyAll] using least
      · simpa [notifyAll] using most

/-- The pool keeps to its limit exactly when the limit allows the connections of `Init`. -/
theorem connection_limit_kept_iff {max_conn_cnt : Int} {creations : List (Creation Conn)}
    {pool : ConnPool Conn}
    (initialised : poolClass.Init (poolClass.new max_conn_cnt) creations = some (pool, 0))
    (run : (machine poolClass).Runs ReleasesExisting (start pool) labels state) :
    (state.pool.freeList.length + state.lent.length : Int) ≤ max_conn_cnt ↔ 2 ≤ max_conn_cnt := by
  have ready := PoolClass.ready_of_Init initialised
  have inv : PoolInv state := run.invariant PoolInv
    (fun _ _ _ own taken inv => inv.step own taken) (.start ready)
  have limit : LimitInv max_conn_cnt state := run.invariant (LimitInv max_conn_cnt)
    (fun _ _ _ _ taken limit => limit.step taken)
    ⟨ready.limit, Int.le_of_eq ready.counter.symm, .inl ready.counter⟩
  have counter : (state.pool.freeList.length + state.lent.length : Int) =
      state.pool.curConnCnt := by
    simpa [existing] using inv.counter.symm
  obtain ⟨_, least, most⟩ := limit
  omega

theorem connection_limit_kept_sixteen :
    ∃ pool state,
      PoolClass.CDBPool.Init (PoolClass.CDBPool.new 16) [⟨0, 0⟩, ⟨1, 0⟩] = some (pool, 0) ∧
      (machine .CDBPool).Runs ReleasesExisting (start pool)
        [.get 0 ⟨2, 0⟩, .get 1 ⟨2, 0⟩, .get 2 ⟨2, 0⟩] (state : BorrowState Nat Nat) ∧
      (state.pool.freeList.length + state.lent.length : Int) ≤ 16 := by
  let pool : ConnPool Nat := ⟨[0, 1], 2, 16⟩
  have initialised :
      PoolClass.CDBPool.Init (PoolClass.CDBPool.new 16) [⟨0, 0⟩, ⟨1, 0⟩] = some (pool, 0) := rfl
  have run : (machine .CDBPool).Runs ReleasesExisting (start pool : BorrowState Nat Nat)
      [.get 0 ⟨2, 0⟩, .get 1 ⟨2, 0⟩, .get 2 ⟨2, 0⟩] _ :=
    .cons trivial rfl <| .cons trivial rfl <| .cons trivial rfl .nil
  exact ⟨pool, _, initialised, run,
    (connection_limit_kept_iff initialised run).mpr (by decide)⟩

/-- The `sync` pool, with `sync_maxconncnt=1`: its `Init` makes two connections. -/
theorem connection_limit_exceeded :
    ¬ ∀ (poolClass : PoolClass) (max_conn_cnt : Int) (creations : List (Creation Nat))
      (pool : ConnPool Nat) (labels : List (BorrowLabel Nat Nat)) (state : BorrowState Nat Nat),
      1 ≤ max_conn_cnt →
      poolClass.Init (poolClass.new max_conn_cnt) creations = some (pool, 0) →
      (machine poolClass).Runs ReleasesOwn (start pool) labels state →
      (state.pool.freeList.length + state.lent.length : Int) ≤ max_conn_cnt := by
  intro kept
  have bound := kept .CachePool 1 [⟨0, 0⟩, ⟨1, 0⟩] ⟨[0, 1], 2, 1⟩ [] (start ⟨[0, 1], 2, 1⟩)
    (by decide) rfl .nil
  exact absurd bound (by decide)

end BorrowState

end TalkSystem.DbProxyServer
