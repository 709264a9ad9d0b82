import TalkSystem.DbProxyServer.ManagerRuns
import TalkSystem.DbProxyServer.ManagersProperties

/-!
# Connections of a manager

What happens at one pool of a manager is a run of that pool alone. With the
exclusivity of each pool and the name that every connection carries, no
connection gets from one pool into another.
-/

set_option autoImplicit false

namespace TalkSystem.DbProxyServer

/-! ## A turn of the loop -/

namespace ConnPool

variable {Conn : Type}

/-- What `GetDBConn` does with the lock, with the pool behind it. -/
inductive Takes (pool : ConnPool Conn) (creation : Creation Conn) :
    ConnPool Conn → Borrowing Conn → Prop where
  | lends {conn : Conn} {rest : List Conn} : pool.freeList = conn :: rest →
      Takes pool creation { pool with freeList := rest } (.returns (some conn))
  | blocks : pool.grows = false → pool.freeList = [] → Takes pool creation pool .waits
  | fails : pool.grows = true → creation.ret ≠ 0 → Takes pool creation pool (.returns none)
  | creates : pool.grows = true → creation.ret = 0 →
      Takes pool creation { pool with curConnCnt := pool.curConnCnt + 1 }
        (.returns (some creation.conn))

theorem getConn_takes (pool : ConnPool Conn) (creation : Creation Conn) :
    Takes pool creation (pool.getConn creation).1 (pool.getConn creation).2 := by
  obtain ⟨freeList, curConnCnt, maxConnCnt⟩ := pool
  cases freeList with
  | cons conn rest => exact .lends rfl
  | nil =>
      simp only [getConn]
      by_cases full : curConnCnt ≥ maxConnCnt
      · rw [if_pos full]
        exact .blocks (by simpa [grows] using full) rfl
      · rw [if_neg full]
        by_cases failed : creation.ret ≠ 0
        · rw [if_pos failed]
          exact .fails (by simpa [grows] using full) failed
        · rw [if_neg failed]
          exact .creates (by simpa [grows] using full) (not_not.mp failed)

theorem Takes.freeList_subset {pool after : ConnPool Conn} {creation : Creation Conn}
    {borrowing : Borrowing Conn} (takes : Takes pool creation after borrowing) :
    after.freeList ⊆ pool.freeList := by
  cases takes with
  | @lends conn rest free => exact free ▸ List.subset_cons_self conn rest
  | blocks | fails | creates => exact List.Subset.refl _

/-- What is returned was free or is new. -/
theorem Takes.returned {pool after : ConnPool Conn} {creation : Creation Conn} {conn : Conn}
    (takes : Takes pool creation after (.returns (some conn))) :
    conn ∈ pool.freeList ∨ (pool.grows = true ∧ creation.ret = 0 ∧ conn = creation.conn) := by
  cases takes with
  | lends free => exact .inl (free ▸ List.mem_cons_self)
  | creates grows created => exact .inr ⟨grows, created, rfl⟩

end ConnPool

namespace ManagerState

variable {Settings Conn Thread : Type} {state next : ManagerState Settings Conn Thread}
  {pool_name name : Bytes} {instancePool : InstancePool Settings Conn}

/-! ## The names of connections -/

/-- Every connection that a manager has or has lent exists, and carries the name of its pool. -/
structure NamesInv (state : ManagerState Settings Conn Thread) : Prop where
  free : ∀ pool_name instancePool, state.pools pool_name = some instancePool →
    ∀ conn ∈ instancePool.pool.freeList,
      conn ∈ state.allocated ∧ state.poolName conn = pool_name
  lent : ∀ loan ∈ state.lent,
    loan.2 ∈ state.allocated ∧ (state.pools (state.poolName loan.2)).isSome
  returned : ∀ call ∈ state.returned, ∀ conn, call.2.2 = some conn →
    conn ∈ state.allocated ∧ state.poolName conn = call.2.1 ∧ (state.pools call.2.1).isSome

section Steps

variable {thread : Thread} {creation : Creation Conn}

@[simp] theorem putPool_pools_same :
    (state.putPool pool_name instancePool).pools pool_name = some instancePool :=
  Function.update_self _ _ _

theorem putPool_pools_other (other : name ≠ pool_name) :
    (state.putPool pool_name instancePool).pools name = state.pools name :=
  Function.update_of_ne other _ _

theorem putPool_isSome (known : (state.pools name).isSome) :
    ((state.putPool pool_name instancePool).pools name).isSome := by
  by_cases same : name = pool_name
  · simp [same]
  · rwa [putPool_pools_other same]

theorem NamesInv.putPool (inv : NamesInv state)
    (named : ∀ conn ∈ instancePool.pool.freeList,
      conn ∈ state.allocated ∧ state.poolName conn = pool_name) :
    NamesInv (state.putPool pool_name instancePool) where
  free name other held conn free := by
    by_cases same : name = pool_name
    · subst same
      rw [putPool_pools_same, Option.some.injEq] at held
      exact named conn (held ▸ free)
    · rw [putPool_pools_other same] at held
      exact inv.free name other held conn free
  lent loan member := by
    obtain ⟨before, known⟩ := inv.lent loan member
    exact ⟨before, putPool_isSome known⟩
  returned call member conn found := by
    obtain ⟨before, named, known⟩ := inv.returned call member conn found
    exact ⟨before, named, putPool_isSome known⟩

/-- A connection that a thread may release exists. -/
theorem NamesInv.allocated_of_own (inv : NamesInv state) {conn : Conn}
    (own : state.ReleasesOwn (.rel thread (some conn))) : conn ∈ state.allocated := by
  rcases own with lent | ⟨pool_name, instancePool, held, free⟩
  · exact (inv.lent _ lent).1
  · exact (inv.free _ _ held conn free).1

section Allocation

variable [DecidableEq Conn]

@[simp] theorem allocate_pools (pool : ConnPool Conn) :
    (state.allocate pool pool_name creation).pools = state.pools := by
  rw [allocate]
  split <;> rfl

@[simp] theorem allocate_lent (pool : ConnPool Conn) :
    (state.allocate pool pool_name creation).lent = state.lent := by
  rw [allocate]
  split <;> rfl

@[simp] theorem allocate_borrowers (pool : ConnPool Conn) :
    (state.allocate pool pool_name creation).borrowers = state.borrowers := by
  rw [allocate]
  split <;> rfl

@[simp] theorem allocate_returned (pool : ConnPool Conn) :
    (state.allocate pool pool_name creation).returned = state.returned := by
  rw [allocate]
  split <;> rfl

theorem allocate_allocated {pool : ConnPool Conn} {conn : Conn}
    (exists_before : conn ∈ state.allocated) :
    conn ∈ (state.allocate pool pool_name creation).allocated := by
  rw [allocate]
  split
  · exact List.mem_cons_of_mem _ exists_before
  · exact exists_before

/-- The name of a connection never changes while it exists. -/
theorem allocate_poolName {pool : ConnPool Conn} {conn : Conn}
    (fresh : ¬ (pool.grows = true ∧ creation.conn ∈ state.allocated))
    (exists_before : conn ∈ state.allocated) :
    (state.allocate pool pool_name creation).poolName conn = state.poolName conn := by
  rw [allocate]
  split
  · rename_i made
    refine Function.update_of_ne (fun same => fresh ⟨made.1, ?_⟩) _ _
    exact same ▸ exists_before
  · rfl

theorem allocate_creates {pool : ConnPool Conn} (grows : pool.grows = true)
    (created : creation.ret = 0) :
    creation.conn ∈ (state.allocate pool pool_name creation).allocated ∧
      (state.allocate pool pool_name creation).poolName creation.conn = pool_name := by
  rw [allocate, if_pos ⟨grows, created⟩]
  exact ⟨List.mem_cons_self, Function.update_self _ _ _⟩

theorem NamesInv.allocate (inv : NamesInv state) {pool : ConnPool Conn}
    (fresh : ¬ (pool.grows = true ∧ creation.conn ∈ state.allocated)) :
    NamesInv (state.allocate pool pool_name creation) where
  free name instancePool held conn free := by
    rw [allocate_pools] at held
    obtain ⟨before, named⟩ := inv.free name instancePool held conn free
    exact ⟨allocate_allocated before, (allocate_poolName fresh before).trans named⟩
  lent loan member := by
    rw [allocate_lent] at member
    obtain ⟨before, known⟩ := inv.lent loan member
    rw [allocate_poolName fresh before, allocate_pools]
    exact ⟨allocate_allocated before, known⟩
  returned call member conn found := by
    rw [allocate_returned] at member
    obtain ⟨before, named, known⟩ := inv.returned call member conn found
    rw [allocate_poolName fresh before, allocate_pools]
    exact ⟨allocate_allocated before, named, known⟩

/-- The state of the manager when the loop has dealt with its pool: nothing is returned yet. -/
theorem NamesInv.takes (inv : NamesInv state) {pool : ConnPool Conn}
    {borrowing : Borrowing Conn} (known : state.pools pool_name = some instancePool)
    (fresh : ¬ (instancePool.pool.grows = true ∧ creation.conn ∈ state.allocated))
    (takes : instancePool.pool.Takes creation pool borrowing) :
    NamesInv ((state.allocate instancePool.pool pool_name creation).putPool pool_name
      { instancePool with pool := pool }) ∧
    ∀ conn, borrowing = .returns (some conn) →
      conn ∈ (state.allocate instancePool.pool pool_name creation).allocated ∧
        (state.allocate instancePool.pool pool_name creation).poolName conn = pool_name := by
  have allocated : NamesInv (state.allocate instancePool.pool pool_name creation) :=
    inv.allocate fresh
  have named : ∀ conn ∈ instancePool.pool.freeList,
      conn ∈ (state.allocate instancePool.pool pool_name creation).allocated ∧
        (state.allocate instancePool.pool pool_name creation).poolName conn = pool_name :=
    allocated.free pool_name instancePool (by rw [allocate_pools, known])
  refine ⟨allocated.putPool fun conn free => named conn (takes.freeList_subset free), ?_⟩
  rintro conn rfl
  rcases takes.returned with free | ⟨grows, created, rfl⟩
  · exact named conn free
  · exact allocate_creates grows created

theorem NamesInv.release {poolClass : PoolClass} (inv : NamesInv state) {conn : Conn}
    (before : conn ∈ state.allocated) : NamesInv (state.release poolClass conn) := by
  rw [ManagerState.release]
  split
  case h_1 => exact inv
  case h_2 instancePool known =>
    have named : ∀ other ∈ (poolClass.Rel instancePool.pool conn).freeList,
        other ∈ state.allocated ∧ state.poolName other = state.poolName conn := by
      intro other free
      rw [PoolClass.Rel_eq, ConnPool.relConn] at free
      split at free
      · exact inv.free _ _ known other free
      · rcases List.mem_append.mp free with old | new
        · exact inv.free _ _ known other old
        · cases List.mem_singleton.mp new
          exact ⟨before, rfl⟩
    have kept : NamesInv (state.putPool (state.poolName conn)
        { instancePool with pool := poolClass.Rel instancePool.pool conn }) := inv.putPool named
    exact ⟨kept.free, fun loan member => kept.lent loan (List.mem_of_mem_eraseP member),
      kept.returned⟩

end Allocation

section Calls

variable [DecidableEq Thread]

theorem NamesInv.answer (inv : NamesInv state) {conn : Option Conn}
    (named : ∀ some_conn, conn = some some_conn → some_conn ∈ state.allocated ∧
      state.poolName some_conn = pool_name ∧ (state.pools pool_name).isSome) :
    NamesInv (state.answer thread pool_name conn) where
  free := inv.free
  lent loan member := by
    rcases List.mem_append.mp member with new | old
    · obtain ⟨some_conn, found, rfl⟩ : ∃ some_conn, conn = some some_conn ∧
          loan = (thread, some_conn) := by
        cases conn with
        | none => cases new
        | some some_conn => exact ⟨some_conn, rfl, List.mem_singleton.mp new⟩
      obtain ⟨before, name, known⟩ := named some_conn found
      refine ⟨before, ?_⟩
      change (state.pools (state.poolName some_conn)).isSome
      rwa [name]
    · exact inv.lent loan old
  returned call member some_conn found := by
    rcases List.mem_append.mp member with old | new
    · exact inv.returned call old some_conn found
    · rw [List.mem_singleton] at new
      subst new
      exact named some_conn found

end Calls

variable [DecidableEq Conn] [DecidableEq Thread]

/-- What a turn of the loop does to a manager. -/
inductive Seeks (poolClass : PoolClass) (state : ManagerState Settings Conn Thread)
    (thread : Thread) (pool_name : Bytes) (creation : Creation Conn) :
    ManagerState Settings Conn Thread → Prop where
  | unknown : state.pools pool_name = none →
      Seeks poolClass state thread pool_name creation (state.answer thread pool_name none)
  | known {instancePool : InstancePool Settings Conn} {pool : ConnPool Conn}
      {borrowing : Borrowing Conn} : state.pools pool_name = some instancePool →
      ¬ (instancePool.pool.grows = true ∧ creation.conn ∈ state.allocated) →
      instancePool.pool.getConn creation = (pool, borrowing) →
      Seeks poolClass state thread pool_name creation
        (((state.allocate instancePool.pool pool_name creation).putPool pool_name
          { instancePool with pool := pool }).conclude thread pool_name borrowing)

theorem Seeks.of_seek {poolClass : PoolClass}
    (sought : state.seek poolClass thread pool_name creation = some next) :
    Seeks poolClass state thread pool_name creation next := by
  simp only [seek, PoolClass.Get_eq] at sought
  split at sought
  case h_1 unknown =>
    cases sought
    exact .unknown unknown
  case h_2 instancePool known =>
    split at sought
    case isTrue => cases sought
    case isFalse fresh =>
      cases sought
      exact .known known fresh rfl

theorem NamesInv.seeks {poolClass : PoolClass} (inv : NamesInv state)
    (sought : Seeks poolClass state thread pool_name creation next) : NamesInv next := by
  cases sought with
  | unknown => exact inv.answer (by simp)
  | @known instancePool pool borrowing known fresh got =>
      have takes := instancePool.pool.getConn_takes creation
      rw [got] at takes
      obtain ⟨kept, named⟩ := inv.takes known fresh takes
      cases borrowing with
      | waits => exact ⟨kept.free, kept.lent, kept.returned⟩
      | returns conn =>
          refine kept.answer ?_
          rintro some_conn rfl
          obtain ⟨before, name⟩ := named some_conn rfl
          exact ⟨before, name, by rw [putPool_pools_same]; rfl⟩

/-- What a step of a manager does. -/
inductive Transition (poolClass : PoolClass) (state : ManagerState Settings Conn Thread) :
    ManagerLabel Conn Thread → ManagerState Settings Conn Thread → Prop where
  | get {thread : Thread} {pool_name : Bytes} {creation : Creation Conn}
      {next : ManagerState Settings Conn Thread} : state.borrowers thread = .outside →
      Seeks poolClass state thread pool_name creation next →
      Transition poolClass state (.get thread pool_name creation) next
  | wake {thread : Thread} {pool_name : Bytes} {notified : Bool} {creation : Creation Conn}
      {next : ManagerState Settings Conn Thread} :
      state.borrowers thread = .waiting pool_name notified →
      Seeks poolClass state thread pool_name creation next →
      Transition poolClass state (.wake thread creation) next
  | relNull {thread : Thread} : Transition poolClass state (.rel thread none) state
  | rel {thread : Thread} {conn : Conn} : state.borrowers thread = .outside →
      Transition poolClass state (.rel thread (some conn)) (state.release poolClass conn)

variable {poolClass : PoolClass} {label : ManagerLabel Conn Thread}

theorem Transition.of_step (taken : (machine poolClass).step state label = some next) :
    Transition poolClass state label next := by
  cases label with
  | get thread pool_name creation =>
      simp only [machine, step] at taken
      split at taken
      · exact .get ‹_› (.of_seek taken)
      · cases taken
  | wake thread creation =>
      simp only [machine, step] at taken
      split at taken
      · cases taken
      · exact .wake ‹_› (.of_seek taken)
  | rel thread conn =>
      simp only [machine, step] at taken
      split at taken
      · cases taken
      · cases conn with
        | none =>
            cases taken
            exact .relNull
        | some conn =>
            cases taken
            exact .rel ‹_›

theorem NamesInv.step (inv : NamesInv state) (own : state.ReleasesOwn label)
    (taken : (machine poolClass).step state label = some next) : NamesInv next := by
  cases Transition.of_step taken with
  | get _ sought => exact inv.seeks sought
  | wake _ sought => exact inv.seeks sought
  | relNull => exact inv
  | rel => exact inv.release (inv.allocated_of_own own)

end Steps

/-! ## The view of a pool -/

section Views

variable {thread : Thread} {creation : Creation Conn}

theorem view_allocate [DecidableEq Conn] (inv : NamesInv state) {pool : ConnPool Conn}
    (fresh : ¬ (pool.grows = true ∧ creation.conn ∈ state.allocated)) :
    (state.allocate pool pool_name creation).view name instancePool =
      state.view name instancePool := by
  have loans : (state.lent.filter fun loan =>
      (state.allocate pool pool_name creation).poolName loan.2 = name) =
        state.lent.filter fun loan => state.poolName loan.2 = name :=
    List.filter_congr fun loan member => by
      rw [allocate_poolName fresh (inv.lent loan member).1]
  simp only [view, allocate_lent, allocate_borrowers, allocate_returned, loans]

variable [DecidableEq Thread]

theorem view_setPhase (phase : ManagerPhase) :
    (state.setPhase thread phase).view name instancePool =
      (state.view name instancePool).setPhase thread (phase.at name) := by
  have phases : (fun other => (Function.update state.borrowers thread phase other).at name) =
      Function.update (fun other => (state.borrowers other).at name) thread (phase.at name) := by
    funext other
    by_cases same : other = thread
    · subst same
      simp
    · simp [Function.update_of_ne same]
  simp only [view, setPhase, BorrowState.setPhase, phases]
  rfl

/-- The pool of the name sees the call return. -/
theorem view_answer {conn : Option Conn}
    (named : ∀ some_conn, conn = some some_conn → state.poolName some_conn = pool_name) :
    (state.answer thread pool_name conn).view pool_name instancePool =
      (state.view pool_name instancePool).conclude thread instancePool.pool (.returns conn) := by
  rw [answer, view_setPhase]
  cases conn with
  | none => simp [view, BorrowState.conclude, ManagerPhase.at]
  | some conn => simp [view, BorrowState.conclude, ManagerPhase.at, named conn rfl]

/-- The other pools do not see it. -/
theorem view_answer_other {conn : Option Conn} (other : name ≠ pool_name)
    (named : ∀ some_conn, conn = some some_conn → state.poolName some_conn = pool_name)
    (outside : (state.borrowers thread).at name = .outside) :
    (state.answer thread pool_name conn).view name instancePool =
      state.view name instancePool := by
  have unseen : pool_name ≠ name := other.symm
  have phase : (state.view name instancePool).borrowers thread = .outside := outside
  have kept : Function.update (state.view name instancePool).borrowers thread .outside =
      (state.view name instancePool).borrowers := by
    rw [← phase, Function.update_eq_self]
  rw [answer, view_setPhase]
  cases conn with
  | none => simpa [view, BorrowState.setPhase, ManagerPhase.at, unseen] using kept
  | some conn =>
      simpa [view, BorrowState.setPhase, ManagerPhase.at, named conn rfl, unseen] using kept

end Views

theorem notify_at_same (phase : ManagerPhase) :
    (phase.notify name).at name = (phase.at name).notify := by
  cases phase with
  | outside => rfl
  | waiting pool_name notified =>
      by_cases same : pool_name = name <;>
        simp [ManagerPhase.notify, ManagerPhase.at, BorrowerPhase.notify, same]

theorem notify_at_other {pool_name : Bytes} (other : pool_name ≠ name) (phase : ManagerPhase) :
    (phase.notify pool_name).at name = phase.at name := by
  cases phase with
  | outside => rfl
  | waiting waited notified =>
      by_cases same : waited = name
      · subst same
        simp [ManagerPhase.notify, ManagerPhase.at, other.symm]
      · simp [ManagerPhase.notify, ManagerPhase.at, same]

section Release

variable [DecidableEq Conn] {poolClass : PoolClass}

/-- The connections of one name are together, so a doubled one is doubled there. -/
theorem nodup_of_parts {Item Name : Type} [DecidableEq Name] (nameOf : Item → Name)
    {items : List Item} (parts : ∀ item ∈ items,
      (items.filter fun other => nameOf other = nameOf item).Nodup) : items.Nodup := by
  induction items with
  | nil => exact List.nodup_nil
  | cons item items ih =>
      have first := parts item List.mem_cons_self
      rw [List.filter_cons_of_pos (by simp), List.nodup_cons] at first
      refine List.nodup_cons.mpr ⟨fun again => first.1 (by simp [again]), ih fun other member => ?_⟩
      exact (parts other (List.mem_cons_of_mem _ member)).sublist
        ((List.sublist_cons_self item items).filter _)

/-- The connection of a release is in the pool of its name only. -/
theorem filter_eraseP_of_not {Item : Type} {keeps erases : Item → Bool} {items : List Item}
    (disjoint : ∀ item, erases item = true → keeps item = false) :
    (items.eraseP erases).filter keeps = items.filter keeps := by
  induction items with
  | nil => rfl
  | cons item items ih =>
      by_cases erased : erases item = true
      · rw [List.eraseP_cons_of_pos erased,
          List.filter_cons_of_neg (by simp [disjoint item erased])]
      · rw [List.eraseP_cons_of_neg erased, List.filter_cons, List.filter_cons, ih]

/-- A release is one of the pool whose name the connection carries; the others do not see it. -/
theorem view_release (poolClass : PoolClass) {conn : Conn}
    (held : state.pools name = some instancePool) :
    ∃ after, (state.release poolClass conn).pools name = some after ∧
      after.settings = instancePool.settings ∧
      (state.release poolClass conn).view name after =
        if state.poolName conn = name then
          { state.view name instancePool with
            pool := poolClass.Rel instancePool.pool conn
            lent := (state.view name instancePool).lent.eraseP fun loan => loan.2 = conn }.notifyAll
        else
          state.view name instancePool := by
  by_cases same : state.poolName conn = name
  · subst same
    have loans : (state.lent.eraseP fun loan => loan.2 = conn).filter
        (fun loan => state.poolName loan.2 = state.poolName conn) =
          (state.lent.filter fun loan => state.poolName loan.2 = state.poolName conn).eraseP
            fun loan => loan.2 = conn := by
      rw [List.eraseP_filter]
      congr 2
      funext loan
      by_cases found : loan.2 = conn <;> simp [found]
    have phases : (fun thread => ((state.borrowers thread).notify (state.poolName conn)).at
        (state.poolName conn)) =
          fun thread => ((state.borrowers thread).at (state.poolName conn)).notify :=
      funext fun thread => notify_at_same _
    refine ⟨{ instancePool with pool := poolClass.Rel instancePool.pool conn }, ?_, rfl, ?_⟩
    · rw [release, held]
      exact putPool_pools_same
    · rw [if_pos rfl, release, held]
      exact congrArg₂ (fun lent borrowers => BorrowState.mk (poolClass.Rel instancePool.pool conn)
        lent borrowers _) loans phases
  · refine ⟨instancePool, ?_, rfl, ?_⟩
    · rw [release]
      split
      · exact held
      · exact (putPool_pools_other (Ne.symm same)).trans held
    · rw [if_neg same, release]
      split
      · rfl
      · have loans : (state.lent.eraseP fun loan => loan.2 = conn).filter
            (fun loan => state.poolName loan.2 = name) =
              state.lent.filter fun loan => state.poolName loan.2 = name :=
          filter_eraseP_of_not (by simp +contextual [same])
        have phases : (fun thread => ((state.borrowers thread).notify (state.poolName conn)).at
            name) = fun thread => (state.borrowers thread).at name :=
          funext fun thread => notify_at_other same _
        exact congrArg₂ (fun lent borrowers => BorrowState.mk instancePool.pool lent borrowers _)
          loans phases

end Release

/-! ## The start of a manager -/

section Start

variable [DecidableEq Conn] {kind : ManagerKind Settings} {reading : Reading}
  {creations : Nat → List (Creation Conn)} {made : Entries Settings Conn}

theorem poolNameIn_of_mem (apart : made.connections.Nodup)
    (member : (pool_name, instancePool) ∈ made) {conn : Conn}
    (free : conn ∈ instancePool.pool.freeList) : poolNameIn made conn = pool_name := by
  induction made with
  | nil => cases member
  | cons entry made ih =>
      rw [Entries.connections, List.flatMap_cons, List.nodup_append'] at apart
      obtain ⟨_, later, disjoint⟩ := apart
      rw [poolNameIn, List.find?_cons]
      rcases List.mem_cons.mp member with rfl | behind
      · simp [free]
      · have elsewhere : conn ∉ entry.2.pool.freeList := fun here =>
          disjoint here (List.mem_flatMap.mpr ⟨_, behind, free⟩)
        simpa [poolNameIn, elsewhere] using ih later behind

theorem NamesInv.start (apart : made.connections.Nodup) :
    NamesInv (start made : ManagerState Settings Conn Thread) where
  free pool_name instancePool held conn free := by
    have member := Entries.mem_of_pools held
    exact ⟨List.mem_flatMap.mpr ⟨_, member, free⟩, poolNameIn_of_mem apart member free⟩
  lent loan member := by cases member
  returned call member := by cases member

theorem sets_of_pools (starts : kind.Starts reading creations made)
    (first : made.pools pool_name = some instancePool) :
    ∃ i, kind.Sets reading.config_file (creations i) (pool_name, instancePool) := by
  obtain ⟨i, here⟩ := List.mem_iff_getElem?.mp (Entries.mem_of_pools first)
  exact ⟨i, starts.makes i _ here⟩

theorem ready_of_pools (starts : kind.Starts reading creations made)
    (first : made.pools pool_name = some instancePool) :
    ∃ maxConnCnt, kind.settings reading.config_file pool_name =
        some (instancePool.settings, maxConnCnt) ∧ instancePool.pool.Ready maxConnCnt := by
  obtain ⟨i, maxConnCnt, configured, initialised⟩ := sets_of_pools starts first
  exact ⟨maxConnCnt, configured, PoolClass.ready_of_Init initialised⟩

end Start

/-! ## Two pools and three threads -/

def twoPoolsLabels : List (ManagerLabel Nat Nat) :=
  [.get 0 [97] ⟨4, 0⟩, .get 1 [98] ⟨4, 0⟩, .get 2 [99] ⟨4, 0⟩, .rel 0 (some 0)]

/-- Two threads use two pools, and a third asks for a name that no pool has. -/
theorem two_pools :
    ∃ (reading : Reading) (creations : Nat → List (Creation Nat))
      (made : Entries CachePoolSettings Nat) (state : ManagerState CachePoolSettings Nat Nat),
      CacheManager.kind.Starts reading creations made ∧
      made.pools [98] = some ⟨⟨[98], [104], 1, 2⟩, ⟨[2, 3], 2, 3⟩⟩ ∧
      (machine .CachePool).Runs ReleasesOwn (.start made) twoPoolsLabels state ∧
      state.returned = [(0, [97], some 0), (1, [98], some 2), (2, [99], none)] := by
  let reading : Reading := ⟨true, fun _ => some (ascii <|
    "CacheInstances=a,b\na_host=h\na_port=1\na_db=1\na_maxconncnt=3\n" ++
    "b_host=h\nb_port=1\nb_db=2\nb_maxconncnt=3")⟩
  let creations : Nat → List (Creation Nat) := fun i => [⟨2 * i, 0⟩, ⟨2 * i + 1, 0⟩]
  let made : Entries CachePoolSettings Nat :=
    [([97], ⟨⟨[97], [104], 1, 1⟩, ⟨[0, 1], 2, 3⟩⟩), ([98], ⟨⟨[98], [104], 1, 2⟩, ⟨[2, 3], 2, 3⟩⟩)]
  have first : CacheManager.kind.Sets reading.config_file (creations 0) made[0] :=
    ⟨3, by decide +kernel, rfl⟩
  have second : CacheManager.kind.Sets reading.config_file (creations 1) made[1] :=
    ⟨3, by decide +kernel, rfl⟩
  have starts : CacheManager.kind.Starts reading creations made := by
    refine ⟨⟨ascii "a,b", by decide +kernel, by decide +kernel⟩, fun i entry found => ?_,
      by decide⟩
    rcases i with _ | _ | i
    · exact Option.some.inj found ▸ first
    · exact Option.some.inj found ▸ second
    · cases found
  exact ⟨reading, creations, made, _, starts, rfl, .cons trivial rfl <| .cons trivial rfl <|
    .cons trivial rfl <| .cons (.inl (by decide)) rfl .nil, rfl⟩

/-! ## A manager simulates each of its pools -/

section Simulation

variable [DecidableEq Conn] [DecidableEq Thread] {poolClass : PoolClass} {thread : Thread}
  {creation : Creation Conn} {label : ManagerLabel Conn Thread}

/-- A turn of the loop at the pool of the name is a turn of that pool. -/
theorem view_seeks (inv : NamesInv state) (held : state.pools name = some instancePool)
    (sought : Seeks poolClass state thread name creation next) :
    ∃ after, next.pools name = some after ∧ after.settings = instancePool.settings ∧
      (state.view name instancePool).seek poolClass thread creation =
        some (next.view name after) := by
  cases sought with
  | unknown unknown => cases unknown.symm.trans held
  | @known _ pool borrowing known fresh got =>
      cases known.symm.trans held
      have takes := instancePool.pool.getConn_takes creation
      rw [got] at takes
      obtain ⟨-, named⟩ := inv.takes known fresh takes
      have unseen : ¬ ((state.view name instancePool).pool.grows = true ∧
          creation.conn ∈ (state.view name instancePool).existing) := by
        rintro ⟨grows, live⟩
        refine fresh ⟨grows, ?_⟩
        rcases List.mem_append.mp live with free | lent
        · exact (inv.free name instancePool held _ free).1
        · obtain ⟨loan, member, same⟩ := List.mem_map.mp lent
          exact same ▸ (inv.lent loan (List.mem_filter.mp member).1).1
      have turned : (state.view name instancePool).seek poolClass thread creation =
          some ((state.view name instancePool).conclude thread pool borrowing) := by
        rw [BorrowState.seek, if_neg unseen, PoolClass.Get_eq]
        change some ((state.view name instancePool).conclude thread
          (instancePool.pool.getConn creation).1 (instancePool.pool.getConn creation).2) = _
        rw [got]
      have taken : ((state.allocate instancePool.pool name creation).putPool name
          { instancePool with pool := pool }).view name { instancePool with pool := pool } =
            state.view name { instancePool with pool := pool } := view_allocate inv fresh
      refine ⟨{ instancePool with pool := pool }, ?_, rfl, turned.trans (congrArg some ?_)⟩
      · cases borrowing <;> exact putPool_pools_same
      · cases borrowing with
        | waits =>
            rw [conclude, view_setPhase, taken, ManagerPhase.at, if_pos rfl]
            rfl
        | returns conn =>
            have returned : ∀ some_conn, conn = some some_conn →
                (state.allocate instancePool.pool name creation).poolName some_conn = name := by
              rintro some_conn rfl
              exact (named some_conn rfl).2
            exact ((view_answer returned).trans
              (congrArg (BorrowState.conclude · thread pool (.returns conn)) taken)).symm

/-- The other pools do not see a turn of the loop. -/
theorem view_seeks_other {pool_name : Bytes} (inv : NamesInv state) (other : name ≠ pool_name)
    (held : state.pools name = some instancePool)
    (outside : (state.borrowers thread).at name = .outside)
    (sought : Seeks poolClass state thread pool_name creation next) :
    next.pools name = some instancePool ∧
      next.view name instancePool = state.view name instancePool := by
  cases sought with
  | unknown => exact ⟨held, view_answer_other other (by simp) outside⟩
  | @known pool_of pool borrowing known fresh got =>
      have takes := pool_of.pool.getConn_takes creation
      rw [got] at takes
      obtain ⟨-, named⟩ := inv.takes known fresh takes
      have taken : ((state.allocate pool_of.pool pool_name creation).putPool pool_name
          { pool_of with pool := pool }).view name instancePool = state.view name instancePool :=
        view_allocate inv fresh
      have there : ((state.allocate pool_of.pool pool_name creation).putPool pool_name
          { pool_of with pool := pool }).pools name = some instancePool := by
        rw [putPool_pools_other other, allocate_pools, held]
      have phase : (((state.allocate pool_of.pool pool_name creation).putPool pool_name
          { pool_of with pool := pool }).borrowers thread).at name = .outside := by
        change ((state.allocate pool_of.pool pool_name creation).borrowers thread).at name = _
        rwa [allocate_borrowers]
      cases borrowing with
      | waits =>
          refine ⟨there, ?_⟩
          rw [conclude, view_setPhase, taken, ManagerPhase.at, if_neg other.symm]
          have kept : (state.view name instancePool).borrowers thread = .outside := outside
          rw [BorrowState.setPhase, ← kept, Function.update_eq_self]
      | returns conn =>
          refine ⟨there, (view_answer_other other ?_ phase).trans taken⟩
          rintro some_conn rfl
          exact (named some_conn rfl).2

/-- What a step of the manager is for the pool of a name. -/
theorem view_step (inv : NamesInv state) (own : state.ReleasesOwn label)
    (taken : (machine poolClass).step state label = some next)
    (held : state.pools name = some instancePool) :
    ∃ after, next.pools name = some after ∧ after.settings = instancePool.settings ∧
      (next.view name after = state.view name instancePool ∨
        ∃ label, (state.view name instancePool).ReleasesOwn label ∧
          (BorrowState.machine poolClass).step (state.view name instancePool) label =
            some (next.view name after)) := by
  cases Transition.of_step taken with
  | @get thread pool_name creation _ outside sought =>
      have phase : (state.borrowers thread).at name = .outside := by rw [outside]; rfl
      by_cases same : name = pool_name
      · subst same
        obtain ⟨after, there, settings, sought⟩ := view_seeks inv held sought
        refine ⟨after, there, settings, .inr ⟨.get thread creation, trivial, ?_⟩⟩
        have seen : (state.view name instancePool).borrowers thread = .outside := phase
        simp only [BorrowState.machine, BorrowState.step, seen, sought]
      · obtain ⟨there, unseen⟩ := view_seeks_other inv same held phase sought
        exact ⟨instancePool, there, rfl, .inl unseen⟩
  | @wake thread pool_name notified creation _ waiting sought =>
      by_cases same : name = pool_name
      · subst same
        obtain ⟨after, there, settings, sought⟩ := view_seeks inv held sought
        refine ⟨after, there, settings, .inr ⟨.wake thread creation, trivial, ?_⟩⟩
        have seen : (state.view name instancePool).borrowers thread = .waiting notified := by
          simp [view, waiting, ManagerPhase.at]
        simp only [BorrowState.machine, BorrowState.step, seen, sought]
      · have phase : (state.borrowers thread).at name = .outside := by
          simp [waiting, ManagerPhase.at, Ne.symm same]
        obtain ⟨there, unseen⟩ := view_seeks_other inv same held phase sought
        exact ⟨instancePool, there, rfl, .inl unseen⟩
  | relNull => exact ⟨instancePool, held, rfl, .inl rfl⟩
  | @rel thread conn outside =>
      obtain ⟨after, there, settings, seen⟩ := view_release poolClass held
      refine ⟨after, there, settings, ?_⟩
      by_cases same : state.poolName conn = name
      · rw [if_pos same] at seen
        refine .inr ⟨.rel thread conn, ?_, ?_⟩
        · rcases own with lent | ⟨pool_name, other, known, free⟩
          · exact .inl (List.mem_filter.mpr ⟨lent, by simpa using same⟩)
          · have named := (inv.free pool_name other known conn free).2
            cases named.symm.trans same
            cases known.symm.trans held
            exact .inr free
        · have phase : (state.view name instancePool).borrowers thread = .outside := by
            simp [view, outside, ManagerPhase.at]
          simp only [BorrowState.machine, BorrowState.step, phase, seen]
          rfl
      · rw [if_neg same] at seen
        exact .inl seen

/-! ## Runs -/

variable {kind : ManagerKind Settings} {reading : Reading}
  {creations : Nat → List (Creation Conn)} {made : Entries Settings Conn}
  {labels : List (ManagerLabel Conn Thread)}

theorem NamesInv.run (apart : made.connections.Nodup)
    (run : (machine kind.poolClass).Runs ReleasesOwn (.start made) labels state) :
    NamesInv state :=
  run.invariant NamesInv (fun _ _ _ own taken inv => inv.step own taken) (.start apart)

/-- A run of the manager, seen by the pool of one name. -/
theorem view_run (apart : made.connections.Nodup)
    (run : (machine kind.poolClass).Runs ReleasesOwn (.start made) labels state)
    (first : made.pools pool_name = some instancePool) :
    ∃ after poolLabels, state.pools pool_name = some after ∧
      after.settings = instancePool.settings ∧
      (BorrowState.machine kind.poolClass).Runs BorrowState.ReleasesOwn
        (.start instancePool.pool) poolLabels (state.view pool_name after) := by
  have start_view : (start made : ManagerState Settings Conn Thread).view pool_name instancePool =
      .start instancePool.pool := rfl
  obtain ⟨poolLabels, final, poolRun, after, _, there, settings, rfl⟩ := run.simulates
    (fun state view => ∃ after, NamesInv state ∧ state.pools pool_name = some after ∧
      after.settings = instancePool.settings ∧ view = state.view pool_name after)
    (fun state label next view own taken related => by
      obtain ⟨before, inv, held, settings, rfl⟩ := related
      obtain ⟨after, there, same, followed⟩ := view_step inv own taken held
      have kept := inv.step own taken
      rcases followed with unseen | ⟨poolLabel, permitted, moved⟩
      · exact .inl ⟨after, kept, there, same.trans settings, unseen.symm⟩
      · exact .inr ⟨poolLabel, _, permitted, moved, after, kept, there, same.trans settings, rfl⟩)
    ⟨instancePool, .start apart, first, rfl, start_view.symm⟩
  exact ⟨after, poolLabels, there, settings, poolRun⟩

theorem Seeks.absent {pool_name : Bytes} (absent : state.pools name = none)
    (sought : Seeks poolClass state thread pool_name creation next) : next.pools name = none := by
  cases sought with
  | unknown => exact absent
  | @known instancePool pool borrowing known =>
      have other : name ≠ pool_name := by
        rintro rfl
        cases absent.symm.trans known
      have kept : ((state.allocate instancePool.pool pool_name creation).putPool pool_name
          { instancePool with pool := pool }).pools name = none := by
        rw [putPool_pools_other other, allocate_pools, absent]
      cases borrowing <;> exact kept

theorem Transition.absent (absent : state.pools name = none)
    (moved : Transition poolClass state label next) : next.pools name = none := by
  cases moved with
  | get _ sought => exact sought.absent absent
  | wake _ sought => exact sought.absent absent
  | relNull => exact absent
  | @rel thread conn =>
      rw [release]
      split
      case h_1 => exact absent
      case h_2 instancePool known =>
        have other : name ≠ state.poolName conn := by
          rintro rfl
          cases absent.symm.trans known
        exact (putPool_pools_other other).trans absent

/-- No name gets or loses a pool. -/
theorem pools_isSome_of_run (apart : made.connections.Nodup)
    (run : (machine kind.poolClass).Runs ReleasesOwn (.start made) labels state) :
    (state.pools pool_name).isSome ↔ (made.pools pool_name).isSome := by
  constructor
  · intro there
    by_contra missing
    have absent : state.pools pool_name = none := run.invariant
      (fun state => state.pools pool_name = none)
      (fun _ _ _ _ taken absent => (Transition.of_step taken).absent absent)
      (Option.not_isSome_iff_eq_none.mp missing)
    simp [absent] at there
  · intro first
    obtain ⟨instancePool, first⟩ := Option.isSome_iff_exists.mp first
    obtain ⟨after, _, there, _⟩ := view_run apart run first
    exact Option.isSome_iff_exists.mpr ⟨after, there⟩

theorem poolInv_of_run (starts : kind.Starts reading creations made)
    (run : (machine kind.poolClass).Runs ReleasesOwn (.start made) labels state)
    (there : state.pools pool_name = some instancePool) :
    BorrowState.PoolInv (state.view pool_name instancePool) := by
  obtain ⟨first, found⟩ := Option.isSome_iff_exists.mp
    ((pools_isSome_of_run starts.apart run).mp (Option.isSome_iff_exists.mpr ⟨_, there⟩))
  obtain ⟨after, poolLabels, held, _, poolRun⟩ := view_run starts.apart run found
  cases held.symm.trans there
  obtain ⟨maxConnCnt, _, ready⟩ := ready_of_pools starts found
  exact poolRun.invariant BorrowState.PoolInv
    (fun _ _ _ own taken inv => inv.step own.existing taken) (.start ready)

end Simulation

end ManagerState

end TalkSystem.DbProxyServer
