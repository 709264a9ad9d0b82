import TalkSystem.DbProxyServer.Managers

/-!
# A manager and its borrowers

`GetDBConn` and `RelDBConn` of `CDBManager` with any number of threads, and those
of `CacheManager`. The map does not change after `Init`, so the steps are those
of its pools, each under its own lock.
-/

set_option autoImplicit false

namespace TalkSystem.DbProxyServer

inductive ManagerPhase where
  | outside
  | waiting (pool_name : Bytes) (notified : Bool)
  deriving DecidableEq, Repr

/-- The phase as the pool of a name sees it. -/
def ManagerPhase.at (pool_name : Bytes) : ManagerPhase → BorrowerPhase
  | .outside => .outside
  | .waiting name notified => if name = pool_name then .waiting notified else .outside

/-- `notify_all` on the condition of one pool. -/
def ManagerPhase.notify (pool_name : Bytes) : ManagerPhase → ManagerPhase
  | .outside => .outside
  | .waiting name notified => .waiting name (if name = pool_name then true else notified)

/-- `allocated` are the connections that exist, and `poolName` is `GetPoolName`.
`returned` is what the calls of `GetDBConn` have returned, with their argument. -/
structure ManagerState (Settings Conn Thread : Type) where
  pools : PoolMap Settings Conn
  allocated : List Conn
  poolName : Conn → Bytes
  lent : List (Thread × Conn)
  borrowers : Thread → ManagerPhase
  returned : List (Thread × Bytes × Option Conn)

inductive ManagerLabel (Conn Thread : Type) where
  | get (thread : Thread) (pool_name : Bytes) (creation : Creation Conn)
  | wake (thread : Thread) (creation : Creation Conn)
  | rel (thread : Thread) (conn : Option Conn)

namespace ManagerState

variable {Settings Conn Thread : Type}

/-- The name of the pool that has made a connection. -/
def poolNameIn [DecidableEq Conn] (made : Entries Settings Conn) (conn : Conn) : Bytes :=
  ((made.find? fun entry => conn ∈ entry.2.pool.freeList).map Prod.fst).getD []

/-- A manager that no thread has used yet. -/
def start [DecidableEq Conn] (made : Entries Settings Conn) :
    ManagerState Settings Conn Thread where
  pools := made.pools
  allocated := made.connections
  poolName := poolNameIn made
  lent := []
  borrowers := fun _ => .outside
  returned := []

/-- A turn of the loop of `GetDBConn` has made a connection that is kept. -/
def allocate [DecidableEq Conn] (state : ManagerState Settings Conn Thread) (pool : ConnPool Conn)
    (pool_name : Bytes) (creation : Creation Conn) : ManagerState Settings Conn Thread :=
  if pool.grows = true ∧ creation.ret = 0 then
    { state with
      allocated := creation.conn :: state.allocated
      poolName := Function.update state.poolName creation.conn pool_name }
  else
    state

def putPool (state : ManagerState Settings Conn Thread) (pool_name : Bytes)
    (instancePool : InstancePool Settings Conn) : ManagerState Settings Conn Thread :=
  { state with pools := Function.update state.pools pool_name (some instancePool) }

def setPhase [DecidableEq Thread] (state : ManagerState Settings Conn Thread) (thread : Thread)
    (phase : ManagerPhase) : ManagerState Settings Conn Thread :=
  { state with borrowers := Function.update state.borrowers thread phase }

/-- The call returns. -/
def answer [DecidableEq Thread] (state : ManagerState Settings Conn Thread) (thread : Thread)
    (pool_name : Bytes) (conn : Option Conn) : ManagerState Settings Conn Thread :=
  { state with
    lent := (conn.map fun conn => (thread, conn)).toList ++ state.lent
    returned := state.returned ++ [(thread, pool_name, conn)] }.setPhase thread .outside

def conclude [DecidableEq Thread] (state : ManagerState Settings Conn Thread) (thread : Thread)
    (pool_name : Bytes) : Borrowing Conn → ManagerState Settings Conn Thread
  | .waits => state.setPhase thread (.waiting pool_name false)
  | .returns conn => state.answer thread pool_name conn

section Steps

variable [DecidableEq Conn] [DecidableEq Thread] (poolClass : PoolClass)
  (state : ManagerState Settings Conn Thread)

/-- The pool of a name, and a turn of its loop. -/
def seek (thread : Thread) (pool_name : Bytes) (creation : Creation Conn) :
    Option (ManagerState Settings Conn Thread) :=
  match state.pools pool_name with
  | none => some (state.answer thread pool_name none)
  | some instancePool =>
      if instancePool.pool.grows = true ∧ creation.conn ∈ state.allocated then
        none
      else
        let (pool, borrowing) := poolClass.Get instancePool.pool creation
        some (((state.allocate instancePool.pool pool_name creation).putPool pool_name
          { instancePool with pool := pool }).conclude thread pool_name borrowing)

/-- The release of a connection that is not `NULL`. -/
def release (conn : Conn) : ManagerState Settings Conn Thread :=
  match state.pools (state.poolName conn) with
  | none => state
  | some instancePool =>
      { state.putPool (state.poolName conn)
          { instancePool with pool := poolClass.Rel instancePool.pool conn } with
        lent := state.lent.eraseP fun loan => loan.2 = conn
        borrowers := fun thread => (state.borrowers thread).notify (state.poolName conn) }

def step : ManagerLabel Conn Thread → Option (ManagerState Settings Conn Thread)
  | .get thread pool_name creation =>
      match state.borrowers thread with
      | .outside => state.seek poolClass thread pool_name creation
      | .waiting _ _ => none
  | .wake thread creation =>
      match state.borrowers thread with
      | .outside => none
      | .waiting pool_name _ => state.seek poolClass thread pool_name creation
  | .rel thread conn =>
      match state.borrowers thread with
      | .waiting _ _ => none
      | .outside =>
          match conn with
          | none => some state
          | some conn => some (state.release poolClass conn)

end Steps

def machine [DecidableEq Conn] [DecidableEq Thread] (poolClass : PoolClass) :
    Machine (ManagerState Settings Conn Thread) (ManagerLabel Conn Thread) where
  step := step poolClass

/-- A thread releases a connection that it has, one that is free already, or `NULL`. -/
def ReleasesOwn (state : ManagerState Settings Conn Thread) : ManagerLabel Conn Thread → Prop
  | .rel thread (some conn) => (thread, conn) ∈ state.lent ∨
      ∃ pool_name instancePool, state.pools pool_name = some instancePool ∧
        conn ∈ instancePool.pool.freeList
  | .rel _ none | .get _ _ _ | .wake _ _ => True

/-- What the pool of a name has to do with. -/
def view (state : ManagerState Settings Conn Thread) (pool_name : Bytes)
    (instancePool : InstancePool Settings Conn) : BorrowState Conn Thread where
  pool := instancePool.pool
  lent := state.lent.filter fun loan => state.poolName loan.2 = pool_name
  borrowers := fun thread => (state.borrowers thread).at pool_name
  returned := (state.returned.filter fun call => call.2.1 = pool_name).map fun call =>
    (call.1, call.2.2)

end ManagerState

end TalkSystem.DbProxyServer
