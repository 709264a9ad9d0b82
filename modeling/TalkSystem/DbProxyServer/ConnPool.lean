import Mathlib.Logic.Function.Basic
import Mathlib.Data.Nat.Basic
import TalkSystem.Machine.Runs

/-!
# `CDBPool` and `CachePool`

The two connection pools of the database proxy. They borrow and return in the
same way, so one definition serves both; each keeps its own constants and the
code with which its `Init` fails.

A critical section of `mutex_` is one step: from the acquisition of the lock, or
the return of `wait`, to the next `wait` or the release. A blocked thread may
wake at any time; whether it has been notified is recorded.
-/

set_option autoImplicit false

namespace TalkSystem.DbProxyServer

/-- A `new` connection and what its `Init` returns; zero is success. -/
structure Creation (Conn : Type) where
  conn : Conn
  ret : Int
  deriving DecidableEq, Repr

structure ConnPool (Conn : Type) where
  freeList : List Conn
  curConnCnt : Int
  maxConnCnt : Int
  deriving DecidableEq, Repr

/-- What a thread does next that has run the loop of `GetDBConn`: it blocks on
`cond_`, or it returns a connection or `NULL`. -/
inductive Borrowing (Conn : Type) where
  | waits
  | returns (conn : Option Conn)
  deriving DecidableEq, Repr

namespace ConnPool

variable {Conn : Type}

def new (minConnCnt maxConnCnt : Int) : ConnPool Conn where
  freeList := []
  curConnCnt := minConnCnt
  maxConnCnt := maxConnCnt

def pushBack (pool : ConnPool Conn) (conn : Conn) : ConnPool Conn :=
  { pool with freeList := pool.freeList ++ [conn] }

/-- The loop of `Init` with its remaining turns; `code` is what it returns for a
connection that fails. The allocator never hands out a live connection. -/
def initLoop [DecidableEq Conn] (code : Int → Int) :
    Nat → List (Creation Conn) → ConnPool Conn → Option (ConnPool Conn × Int)
  | 0, _, pool => some (pool, 0)
  | _ + 1, [], _ => none
  | remaining + 1, creation :: creations, pool =>
      if creation.conn ∈ pool.freeList then
        none
      else if creation.ret ≠ 0 then
        some (pool, code creation.ret)
      else
        initLoop code remaining creations (pool.pushBack creation.conn)

def init [DecidableEq Conn] (code : Int → Int) (pool : ConnPool Conn)
    (creations : List (Creation Conn)) : Option (ConnPool Conn × Int) :=
  initLoop code pool.curConnCnt.toNat creations pool

/-- The loop of `GetDBConn` comes to `new`. -/
def grows (pool : ConnPool Conn) : Bool :=
  pool.freeList.isEmpty && decide (pool.curConnCnt < pool.maxConnCnt)

def takeFront (pool : ConnPool Conn) : ConnPool Conn × Borrowing Conn :=
  ({ pool with freeList := pool.freeList.tail }, .returns pool.freeList.head?)

/-- `GetDBConn` with the lock; `creation` is used if the loop comes to `new`. -/
def getConn (pool : ConnPool Conn) (creation : Creation Conn) :
    ConnPool Conn × Borrowing Conn :=
  match pool.freeList with
  | _ :: _ => pool.takeFront
  | [] =>
      if pool.curConnCnt ≥ pool.maxConnCnt then
        (pool, .waits)
      else if creation.ret ≠ 0 then
        (pool, .returns none)
      else
        -- the list is not empty any more, which ends the loop
        { pool.pushBack creation.conn with curConnCnt := pool.curConnCnt + 1 }.takeFront

def relConn [DecidableEq Conn] (pool : ConnPool Conn) (conn : Conn) : ConnPool Conn :=
  if conn ∈ pool.freeList then pool else pool.pushBack conn

end ConnPool

/-! ## The two pools -/

def MIN_DB_CONN_CNT : Int := 2
def MIN_CACHE_CONN_CNT : Int := 2

section Members

variable {Conn : Type}

def CDBPool.new (max_conn_cnt : Int) : ConnPool Conn := .new MIN_DB_CONN_CNT max_conn_cnt

def CDBPool.Init [DecidableEq Conn] :
    ConnPool Conn → List (Creation Conn) → Option (ConnPool Conn × Int) :=
  ConnPool.init fun ret => ret

def CDBPool.GetDBConn : ConnPool Conn → Creation Conn → ConnPool Conn × Borrowing Conn :=
  ConnPool.getConn

def CDBPool.RelDBConn [DecidableEq Conn] : ConnPool Conn → Conn → ConnPool Conn :=
  ConnPool.relConn

def CachePool.new (max_conn_cnt : Int) : ConnPool Conn := .new MIN_CACHE_CONN_CNT max_conn_cnt

def CachePool.Init [DecidableEq Conn] :
    ConnPool Conn → List (Creation Conn) → Option (ConnPool Conn × Int) :=
  ConnPool.init fun _ => 1

def CachePool.GetCacheConn : ConnPool Conn → Creation Conn → ConnPool Conn × Borrowing Conn :=
  ConnPool.getConn

def CachePool.RelCacheConn [DecidableEq Conn] : ConnPool Conn → Conn → ConnPool Conn :=
  ConnPool.relConn

end Members

inductive PoolClass where
  | CDBPool
  | CachePool
  deriving DecidableEq, Repr

namespace PoolClass

variable {Conn : Type}

def new : PoolClass → Int → ConnPool Conn
  | .CDBPool => CDBPool.new
  | .CachePool => CachePool.new

def Init [DecidableEq Conn] :
    PoolClass → ConnPool Conn → List (Creation Conn) → Option (ConnPool Conn × Int)
  | .CDBPool => CDBPool.Init
  | .CachePool => CachePool.Init

def Get : PoolClass → ConnPool Conn → Creation Conn → ConnPool Conn × Borrowing Conn
  | .CDBPool => CDBPool.GetDBConn
  | .CachePool => CachePool.GetCacheConn

def Rel [DecidableEq Conn] : PoolClass → ConnPool Conn → Conn → ConnPool Conn
  | .CDBPool => CDBPool.RelDBConn
  | .CachePool => CachePool.RelCacheConn

end PoolClass

/-! ## A pool and its borrowers -/

inductive BorrowerPhase where
  | outside
  | waiting (notified : Bool)
  deriving DecidableEq, Repr

def BorrowerPhase.notify : BorrowerPhase → BorrowerPhase
  | .waiting _ => .waiting true
  | .outside => .outside

/-- `lent` says who has which connection; `returned` is what the calls of
`GetDBConn` have returned, in order. -/
structure BorrowState (Conn Thread : Type) where
  pool : ConnPool Conn
  lent : List (Thread × Conn)
  borrowers : Thread → BorrowerPhase
  returned : List (Thread × Option Conn)

inductive BorrowLabel (Conn Thread : Type) where
  | get (thread : Thread) (creation : Creation Conn)
  | wake (thread : Thread) (creation : Creation Conn)
  | rel (thread : Thread) (conn : Conn)

namespace BorrowState

variable {Conn Thread : Type}

/-- A pool that no thread has used yet. -/
def start (pool : ConnPool Conn) : BorrowState Conn Thread where
  pool := pool
  lent := []
  borrowers := fun _ => .outside
  returned := []

/-- The connections that exist: those in the free list and those lent. -/
def existing (state : BorrowState Conn Thread) : List Conn :=
  state.pool.freeList ++ state.lent.map Prod.snd

def setPhase [DecidableEq Thread] (state : BorrowState Conn Thread) (thread : Thread)
    (phase : BorrowerPhase) : BorrowState Conn Thread :=
  { state with borrowers := Function.update state.borrowers thread phase }

def notifyAll (state : BorrowState Conn Thread) : BorrowState Conn Thread :=
  { state with borrowers := fun thread => (state.borrowers thread).notify }

/-- The thread blocks, or its call returns. -/
def conclude [DecidableEq Thread] (state : BorrowState Conn Thread) (thread : Thread)
    (pool : ConnPool Conn) : Borrowing Conn → BorrowState Conn Thread
  | .waits => { state with pool := pool }.setPhase thread (.waiting false)
  | .returns conn =>
      { state with
        pool := pool
        lent := (conn.map fun conn => (thread, conn)).toList ++ state.lent
        returned := state.returned ++ [(thread, conn)] }.setPhase thread .outside

/-- A turn of the loop of `GetDBConn`. -/
def seek [DecidableEq Conn] [DecidableEq Thread] (poolClass : PoolClass)
    (state : BorrowState Conn Thread) (thread : Thread) (creation : Creation Conn) :
    Option (BorrowState Conn Thread) :=
  if state.pool.grows = true ∧ creation.conn ∈ state.existing then
    none
  else
    let (pool, borrowing) := poolClass.Get state.pool creation
    some (state.conclude thread pool borrowing)

def step [DecidableEq Conn] [DecidableEq Thread] (poolClass : PoolClass)
    (state : BorrowState Conn Thread) (label : BorrowLabel Conn Thread) :
    Option (BorrowState Conn Thread) :=
  match label with
  | .get thread creation =>
      match state.borrowers thread with
      | .outside => state.seek poolClass thread creation
      | .waiting _ => none
  | .wake thread creation =>
      match state.borrowers thread with
      | .outside => none
      | .waiting _ => state.seek poolClass thread creation
  | .rel thread conn =>
      match state.borrowers thread with
      | .outside =>
          some { state with
            pool := poolClass.Rel state.pool conn
            lent := state.lent.eraseP fun loan => loan.2 = conn }.notifyAll
      | .waiting _ => none

def machine [DecidableEq Conn] [DecidableEq Thread] (poolClass : PoolClass) :
    Machine (BorrowState Conn Thread) (BorrowLabel Conn Thread) where
  step := step poolClass

/-- A thread releases a connection that it has, or one that is free already. -/
def ReleasesOwn (state : BorrowState Conn Thread) : BorrowLabel Conn Thread → Prop
  | .rel thread conn => (thread, conn) ∈ state.lent ∨ conn ∈ state.pool.freeList
  | .get _ _ | .wake _ _ => True

/-- A thread releases a connection of this pool. -/
def ReleasesExisting (state : BorrowState Conn Thread) : BorrowLabel Conn Thread → Prop
  | .rel _ conn => conn ∈ state.existing
  | .get _ _ | .wake _ _ => True

end BorrowState

end TalkSystem.DbProxyServer
