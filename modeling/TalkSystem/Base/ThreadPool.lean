import Mathlib.Algebra.GroupWithZero.Nat
import Mathlib.Algebra.Group.Int.Defs
import TalkSystem.Machine.Runs

/-!
# `ThreadPool`

The pool with its workers, the calls of `submitTask` that are under way, and the
destructor. A critical section of `taskQueMtx_` is one step, from the return of
`wait` or the acquisition of the lock to the next `wait` or the release; so is an
access to an atomic outside the lock. A thread blocked on a condition variable
may wake at any time; whether it has been notified is recorded, and whether a
timed wait reports a timeout is the choice of the run.

A task is named by the call of `submitTask` that brings it, so all tasks are
different. The counters are unbounded integers: a pool never holds `2 ^ 31`
tasks or threads.
-/

set_option autoImplicit false

namespace TalkSystem.Base

inductive PoolMode where
  | MODE_FIXED
  | MODE_CACHED
  deriving DecidableEq, Repr

def TASK_MAX_THRESHHOLD : Int := 2 ^ 31 - 1
def THREAD_MAX_THRESHHOLD : Int := 1024

/-- `threads` are the keys of `threads_`. -/
structure ThreadPool where
  threads : List Nat
  initThreadSize : Int
  threadSizeThreshHold : Int
  curThreadSize : Int
  idleThreadSize : Int
  taskQue : List Nat
  taskSize : Int
  taskQueMaxThreshHold : Int
  poolMode : PoolMode
  isPoolRunning : Bool
  deriving DecidableEq

/-- The conversion of an `int` to `size_t`. -/
def toSizeT (value : Int) : Int := value % 2 ^ 64

namespace ThreadPool

def new : ThreadPool where
  threads := []
  initThreadSize := 0
  threadSizeThreshHold := THREAD_MAX_THRESHHOLD
  curThreadSize := 0
  idleThreadSize := 0
  taskQue := []
  taskSize := 0
  taskQueMaxThreshHold := TASK_MAX_THRESHHOLD
  poolMode := .MODE_FIXED
  isPoolRunning := false

def setMode (pool : ThreadPool) (mode : PoolMode) : ThreadPool :=
  if pool.isPoolRunning then pool else { pool with poolMode := mode }

def setTaskQueMaxThreshHold (pool : ThreadPool) (threshhold : Int) : ThreadPool :=
  if pool.isPoolRunning then pool else { pool with taskQueMaxThreshHold := threshhold }

def setThreadSizeThreshHold (pool : ThreadPool) (threshhold : Int) : ThreadPool :=
  if pool.isPoolRunning then
    pool
  else if pool.poolMode = .MODE_CACHED then
    { pool with threadSizeThreshHold := threshhold }
  else
    pool

/-- A pool that has been set up and not started. -/
def configured (mode : PoolMode) (taskQueMaxThreshHold threadSizeThreshHold : Int) : ThreadPool :=
  { new with
    poolMode := mode
    taskQueMaxThreshHold := taskQueMaxThreshHold
    threadSizeThreshHold := threadSizeThreshHold }

/-- `start` up to its second loop; `numCreated` threads exist already. -/
def create (pool : ThreadPool) (initThreadSize : Int) (numCreated : Nat) : ThreadPool :=
  { pool with
    isPoolRunning := true
    initThreadSize := initThreadSize
    curThreadSize := initThreadSize
    threads := (List.range initThreadSize.toNat).map (numCreated + ·) }

/-- The predicate of the wait in `submitTask`. -/
def notFull (pool : ThreadPool) : Bool :=
  (pool.taskQue.length : Int) < toSizeT pool.taskQueMaxThreshHold

/-- When `submitTask` creates a thread, once it has queued its task. -/
def grows (pool : ThreadPool) : Bool :=
  pool.poolMode = .MODE_CACHED && pool.idleThreadSize < pool.taskSize &&
    pool.curThreadSize < pool.threadSizeThreshHold

def emplace (pool : ThreadPool) (task : Nat) : ThreadPool :=
  { pool with taskQue := pool.taskQue ++ [task], taskSize := pool.taskSize + 1 }

def addThread (pool : ThreadPool) (threadId : Nat) : ThreadPool :=
  { pool with
    threads := pool.threads ++ [threadId]
    curThreadSize := pool.curThreadSize + 1
    idleThreadSize := pool.idleThreadSize + 1 }

/-- What a worker does to the pool when it takes a task. -/
def pop (pool : ThreadPool) : ThreadPool :=
  { pool with
    taskQue := pool.taskQue.tail
    taskSize := pool.taskSize - 1
    idleThreadSize := pool.idleThreadSize - 1 }

/-- The way out of `threadFunc` when the pool is being destroyed. -/
def leave (pool : ThreadPool) (threadid : Nat) : ThreadPool :=
  { pool with threads := pool.threads.erase threadid }

/-- The way out of `threadFunc` of a thread that has been idle for too long. -/
def reap (pool : ThreadPool) (threadid : Nat) : ThreadPool :=
  { pool with
    threads := pool.threads.erase threadid
    curThreadSize := pool.curThreadSize - 1
    idleThreadSize := pool.idleThreadSize - 1 }

/-- Whether a worker leaves whose timed wait has reported a timeout. -/
def reaps (pool : ThreadPool) (timedOut longIdle : Bool) : Bool :=
  pool.poolMode = .MODE_CACHED && timedOut && longIdle &&
    pool.initThreadSize < pool.curThreadSize

end ThreadPool

/-- A worker is in `executed` between the end of its task and the increment of
`idleThreadSize_`. -/
inductive WorkerPhase where
  | unstarted
  | locking
  | waiting (notified : Bool)
  | executing (task : Nat)
  | executed
  | exited
  deriving DecidableEq, Repr

/-- A worker is busy from taking a task to counting itself idle again. -/
def WorkerPhase.busy : WorkerPhase → Bool
  | .executing _ | .executed => true
  | _ => false

def WorkerPhase.notify : WorkerPhase → WorkerPhase
  | .waiting _ => .waiting true
  | phase => phase

inductive SubmitPhase where
  | locking
  | waiting (notified : Bool)
  | enqueued
  | rejected
  deriving DecidableEq, Repr

def SubmitPhase.notify : SubmitPhase → SubmitPhase
  | .waiting _ => .waiting true
  | phase => phase

def SubmitPhase.returned : SubmitPhase → Bool
  | .enqueued | .rejected => true
  | .locking | .waiting _ => false

inductive DestructorPhase where
  | uncalled
  | stored
  | waiting (notified : Bool)
  | returned
  deriving DecidableEq, Repr

def DestructorPhase.notify : DestructorPhase → DestructorPhase
  | .waiting _ => .waiting true
  | phase => phase

/-- `launched` and `counted` say how far the second loop of `start` is, and
`calls` are the calls of `submitTask` so far. `enqueued`, `dequeued` and
`finished` are history. -/
structure PoolState where
  pool : ThreadPool
  numCreated : Nat
  launched : Nat
  counted : Nat
  workers : Nat → WorkerPhase
  calls : List SubmitPhase
  destructor : DestructorPhase
  enqueued : List Nat
  dequeued : List Nat
  finished : List Nat

inductive PoolLabel where
  | launch
  | count
  | submit
  | lockSubmit (call : Nat)
  | wakeSubmit (call : Nat) (timedOut : Bool)
  | lockWorker (threadid : Nat)
  | wakeWorker (threadid : Nat) (timedOut longIdle : Bool)
  | finishTask (threadid : Nat)
  | countIdle (threadid : Nat)
  | destroy
  | lockDestructor
  | wakeDestructor
  deriving DecidableEq, Repr

namespace PoolState

/-- A fresh pool in `start`, at its second loop. -/
def start (pool : ThreadPool) (initThreadSize : Int) (numCreated : Nat) : PoolState where
  pool := pool.create initThreadSize numCreated
  numCreated := numCreated + initThreadSize.toNat
  launched := 0
  counted := 0
  workers := fun _ => .unstarted
  calls := []
  destructor := .uncalled
  enqueued := []
  dequeued := []
  finished := []

def startReturned (state : PoolState) : Bool := state.pool.initThreadSize ≤ state.counted

def setWorker (state : PoolState) (threadid : Nat) (phase : WorkerPhase) : PoolState :=
  { state with workers := Function.update state.workers threadid phase }

def notifyNotEmpty (state : PoolState) : PoolState :=
  { state with workers := fun threadid => (state.workers threadid).notify }

def notifyNotFull (state : PoolState) : PoolState :=
  { state with calls := state.calls.map SubmitPhase.notify }

def notifyExit (state : PoolState) : PoolState :=
  { state with destructor := state.destructor.notify }

/-! ## `submitTask` -/

def createThread (state : PoolState) : PoolState :=
  { state with
    pool := state.pool.addThread state.numCreated
    numCreated := state.numCreated + 1 }.setWorker state.numCreated .locking

def queueTask (state : PoolState) (call : Nat) : PoolState :=
  { state with
    pool := state.pool.emplace call
    calls := state.calls.set call .enqueued
    enqueued := state.enqueued ++ [call] }.notifyNotEmpty

def enqueue (state : PoolState) (call : Nat) : PoolState :=
  let queued := state.queueTask call
  if queued.pool.grows then queued.createThread else queued

/-- `submitTask` with the lock: queue the task, or wait, or give up after a
timeout. -/
def trySubmit (state : PoolState) (call : Nat) (timedOut : Bool) : PoolState :=
  if state.pool.notFull then
    state.enqueue call
  else
    { state with
      calls := state.calls.set call (if timedOut then .rejected else .waiting false) }

/-! ## `threadFunc` -/

def popTask (state : PoolState) (threadid task : Nat) : PoolState :=
  { state with
    pool := state.pool.pop
    dequeued := state.dequeued ++ [task] }.setWorker threadid (.executing task)

def takeTask (state : PoolState) (threadid task : Nat) : PoolState :=
  let taken := state.popTask threadid task
  (if taken.pool.taskQue.isEmpty then taken else taken.notifyNotEmpty).notifyNotFull

def leave (state : PoolState) (threadid : Nat) : PoolState :=
  ({ state with pool := state.pool.leave threadid }.setWorker threadid .exited).notifyExit

def reap (state : PoolState) (threadid : Nat) : PoolState :=
  { state with pool := state.pool.reap threadid }.setWorker threadid .exited

/-- The `while` of `threadFunc` with the lock, and what follows it. -/
def seekTask (state : PoolState) (threadid : Nat) : PoolState :=
  match state.pool.taskQue with
  | [] =>
      if state.pool.isPoolRunning then
        state.setWorker threadid (.waiting false)
      else
        state.leave threadid
  | task :: _ => state.takeTask threadid task

/-! ## `~ThreadPool` -/

/-- The predicate of the wait on `exitCond_`. -/
def awaitThreads (state : PoolState) : PoolState :=
  { state with destructor := if state.pool.threads = [] then .returned else .waiting false }

/-- Every call of `submitTask` has returned. -/
def allReturned (state : PoolState) : Bool := state.calls.all SubmitPhase.returned

def step (state : PoolState) (label : PoolLabel) : Option PoolState :=
  match label with
  | .launch =>
      if state.launched = state.counted ∧ state.startReturned = false ∧
          state.launched ∈ state.pool.threads then
        some { state.setWorker state.launched .locking with launched := state.launched + 1 }
      else
        none
  | .count =>
      if state.counted < state.launched then
        some { state with
          pool := { state.pool with idleThreadSize := state.pool.idleThreadSize + 1 }
          counted := state.counted + 1 }
      else
        none
  | .submit =>
      if state.startReturned = true ∧ state.destructor = .uncalled then
        some { state with calls := state.calls ++ [.locking] }
      else
        none
  | .lockSubmit call =>
      if state.calls[call]? = some .locking then some (state.trySubmit call false) else none
  | .wakeSubmit call timedOut =>
      match state.calls[call]? with
      | some (.waiting _) => some (state.trySubmit call timedOut)
      | _ => none
  | .lockWorker threadid =>
      if state.workers threadid = .locking then some (state.seekTask threadid) else none
  | .wakeWorker threadid timedOut longIdle =>
      match state.workers threadid with
      | .waiting _ =>
          if state.pool.reaps timedOut longIdle then
            some (state.reap threadid)
          else
            some (state.seekTask threadid)
      | _ => none
  | .finishTask threadid =>
      match state.workers threadid with
      | .executing task =>
          some { state.setWorker threadid .executed with finished := state.finished ++ [task] }
      | _ => none
  | .countIdle threadid =>
      if state.workers threadid = .executed then
        some { state.setWorker threadid .locking with
          pool := { state.pool with idleThreadSize := state.pool.idleThreadSize + 1 } }
      else
        none
  | .destroy =>
      if state.startReturned = true ∧ state.destructor = .uncalled ∧
          state.allReturned = true then
        some { state with
          pool := { state.pool with isPoolRunning := false }
          destructor := .stored }
      else
        none
  | .lockDestructor =>
      if state.destructor = .stored then some state.notifyNotEmpty.awaitThreads else none
  | .wakeDestructor =>
      match state.destructor with
      | .waiting _ => some state.awaitThreads
      | _ => none

def machine : Machine PoolState PoolLabel where
  step := step

end PoolState

end TalkSystem.Base
