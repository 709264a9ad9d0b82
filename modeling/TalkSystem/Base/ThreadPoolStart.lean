import TalkSystem.Base.ThreadPool

/-!
# `ThreadPool::start` and the `Thread` objects

The two loops of `start`: the first constructs the threads and stores them under
the process-wide counter of `Thread`, the second looks them up under its own
index. `operator[]` of `threads_` stores a null pointer under a missing key, and
a call through it ends the model's run.
-/

set_option autoImplicit false

namespace TalkSystem.Base

/-- A store to an `int`. -/
def wrapInt (value : Int) : Int := (value + 2 ^ 31) % 2 ^ 32 - 2 ^ 31

structure Thread where
  threadId : Int
  name : String
  started : Bool
  deriving DecidableEq, Repr

namespace Thread

/-- With the value that it leaves in `numCreated_`. -/
def setDefaultName (thread : Thread) (numCreated : Int) : Thread × Int :=
  let num := wrapInt (numCreated + 1)
  ({ thread with
    threadId := num
    name := if thread.name.isEmpty then "Thread" ++ toString num else thread.name }, num)

def new (numCreated : Int) (name : String) : Thread × Int :=
  setDefaultName { threadId := 0, name := name, started := false } numCreated

def start (thread : Thread) : Thread := { thread with started := true }

/-- `numCreated_` in a process that has constructed `count` objects. -/
def numCreatedAfter : Nat → Int
  | 0 => -1
  | count + 1 => (new (numCreatedAfter count) "").2

end Thread

/-- `threads_`, with `none` for a null pointer. -/
abbrev ThreadMap := List (Int × Option Thread)

namespace ThreadMap

def keys (threads : ThreadMap) : List Int := threads.map Prod.fst

def emplace (threads : ThreadMap) (threadId : Int) (thread : Option Thread) : ThreadMap :=
  if threadId ∈ threads.keys then threads else threads ++ [(threadId, thread)]

def find (threads : ThreadMap) (threadId : Int) : Option Thread :=
  (threads.lookup threadId).join

def startThread (threads : ThreadMap) (threadId : Int) : ThreadMap :=
  threads.map fun entry =>
    if entry.1 = threadId then (entry.1, entry.2.map Thread.start) else entry

end ThreadMap

/-- What `start` reads and writes. `begun` is history: the `threadId_` of each
thread object that was started. -/
structure StartState where
  numCreated : Int
  threads : ThreadMap
  isPoolRunning : Bool
  initThreadSize : Int
  curThreadSize : Int
  idleThreadSize : Int
  begun : List Int
  deriving DecidableEq

namespace StartState

/-- A pool that is not running yet. -/
def fresh (numCreated : Int) : StartState where
  numCreated := numCreated
  threads := []
  isPoolRunning := false
  initThreadSize := 0
  curThreadSize := 0
  idleThreadSize := 0
  begun := []

/-- The body of the first loop. -/
def create (state : StartState) : StartState :=
  let (thread, numCreated) := Thread.new state.numCreated ""
  { state with
    numCreated := numCreated
    threads := state.threads.emplace numCreated (some thread) }

/-- The body of the second loop. -/
def launch (state : StartState) (i : Nat) : Option StartState :=
  let threads := state.threads.emplace i none
  match threads.find i with
  | some thread =>
      some { state with
        threads := threads.startThread i
        idleThreadSize := state.idleThreadSize + 1
        begun := state.begun ++ [thread.threadId] }
  | none => none

def createAll (state : StartState) (count : Nat) : StartState :=
  (List.range count).foldl (fun state _ => state.create) state

def launchAll (state : StartState) (count : Nat) : Option StartState :=
  (List.range count).foldlM launch state

def setRunning (state : StartState) (initThreadSize : Int) : StartState :=
  { state with
    isPoolRunning := true
    initThreadSize := initThreadSize
    curThreadSize := initThreadSize }

def start (state : StartState) (initThreadSize : Int) : Option StartState :=
  ((state.setRunning initThreadSize).createAll initThreadSize.toNat).launchAll
    initThreadSize.toNat

end StartState

end TalkSystem.Base
