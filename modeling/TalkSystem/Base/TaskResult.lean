import Mathlib.Logic.Function.Basic
import TalkSystem.Machine.Runs

/-!
# `Task` and `Result`

A task with its result, the calls of `Result::get` and those of `Task::exec`. A
critical section of the semaphore is one step, from the acquisition of its lock or the
return of `wait` to the next `wait` or the release. A thread that waits may wake at any
time; whether it has been notified is recorded. An `Any` is the value that it holds.
-/

set_option autoImplicit false

namespace TalkSystem.Base

/-- `acquired` is between the return of `Semaphore::wait` and the move of `any_`; `invalid` is the
return of the empty text. -/
inductive GetPhase (Value : Type) where
  | uncalled
  | waiting (notified : Bool)
  | acquired
  | returned (any : Option Value)
  | invalid
  deriving DecidableEq, Repr

namespace GetPhase

variable {Value : Type}

def notify : GetPhase Value → GetPhase Value
  | .waiting _ => .waiting true
  | phase => phase

/-- The call has taken the resource of the semaphore. -/
def took : GetPhase Value → Bool
  | .acquired | .returned _ => true
  | .uncalled | .waiting _ | .invalid => false

end GetPhase

/-- `ran` is between the return of `run` and the store of `any_`, `stored` between this and `post`.
The value is what `run` has returned. A task without a result is `skipped`. -/
inductive ExecPhase (Value : Type) where
  | uncalled
  | skipped
  | running
  | ran (value : Value)
  | stored (value : Value)
  | finished (value : Value)
  deriving DecidableEq, Repr

/-- `result` tells whether the constructor of the result has called `setResult`, and `values` are
what `run` has returned so far. -/
structure TaskResult (Value : Type) where
  result : Bool
  isValid : Bool
  any : Option Value
  resLimit : Int
  gets : Nat → GetPhase Value
  execs : Nat → ExecPhase Value
  values : List Value

inductive ResultLabel (Value : Type) where
  | setResult
  | get (user : Nat)
  | wake (user : Nat)
  | move (user : Nat)
  | exec (worker : Nat)
  | run (worker : Nat) (value : Value)
  | setVal (worker : Nat)
  | post (worker : Nat)

namespace TaskResult

variable {Value : Type}

/-- A task and the result that will be made for it. -/
def start (isValid : Bool) : TaskResult Value where
  result := false
  isValid := isValid
  any := none
  resLimit := 0
  gets := fun _ => .uncalled
  execs := fun _ => .uncalled
  values := []

def setGet (state : TaskResult Value) (user : Nat) (phase : GetPhase Value) : TaskResult Value :=
  { state with gets := Function.update state.gets user phase }

def setExec (state : TaskResult Value) (worker : Nat) (phase : ExecPhase Value) :
    TaskResult Value :=
  { state with execs := Function.update state.execs worker phase }

/-- `Semaphore::wait` with the lock. -/
def wait (state : TaskResult Value) (user : Nat) : TaskResult Value :=
  if 0 < state.resLimit then
    { state with resLimit := state.resLimit - 1 }.setGet user .acquired
  else
    state.setGet user (.waiting false)

/-- `Semaphore::post`. -/
def post (state : TaskResult Value) : TaskResult Value :=
  { state with
    resLimit := state.resLimit + 1
    gets := fun user => (state.gets user).notify }

def step (state : TaskResult Value) : ResultLabel Value → Option (TaskResult Value)
  | .setResult => if state.result then none else some { state with result := true }
  | .get user =>
      match state.gets user with
      | .uncalled =>
          if state.result then
            some (if state.isValid then state.wait user else state.setGet user .invalid)
          else
            none
      | _ => none
  | .wake user =>
      match state.gets user with
      | .waiting _ => some (state.wait user)
      | _ => none
  | .move user =>
      match state.gets user with
      | .acquired => some { state.setGet user (.returned state.any) with any := none }
      | _ => none
  | .exec worker =>
      match state.execs worker with
      | .uncalled => some (state.setExec worker (if state.result then .running else .skipped))
      | _ => none
  | .run worker value =>
      match state.execs worker with
      | .running =>
          some { state.setExec worker (.ran value) with values := state.values ++ [value] }
      | _ => none
  | .setVal worker =>
      match state.execs worker with
      | .ran value => some { state.setExec worker (.stored value) with any := some value }
      | _ => none
  | .post worker =>
      match state.execs worker with
      | .stored value => some (state.post.setExec worker (.finished value))
      | _ => none

/-- A single thread executes the task. -/
def OneExec (worker : Nat) : TaskResult Value → ResultLabel Value → Prop
  | _, .exec other => other = worker
  | _, _ => True

end TaskResult

def resultMachine (Value : Type) : Machine (TaskResult Value) (ResultLabel Value) where
  step := TaskResult.step

end TalkSystem.Base
