import TalkSystem.Net.DisconnectedProperties

/-!
# `send` and then `shutdown` from another thread

`shutdown` stores `kDisconnecting` at once, while the string of the `send`
before it and the half-close travel through the functor queue. A run is in one
of three modes. While it is *open* nothing has been half-closed and the string
is somewhere on its way. It is *done* once the string is out and the only thing
left to happen to the write side is the half-close. It is *dead* when the
connection went down before `shutdown` was called, so that no half-close comes.
-/

set_option autoImplicit false

namespace TalkSystem.Net

open Endpoint

/-- What the running `sendInLoop` has neither written nor buffered yet. -/
def LoopInstr.inFlight {Thread : Type} : LoopInstr Thread → List UInt8
  | .write source => source.held
  | .append source progress => source.held.drop progress.nwrote
  | _ => []

theorem LoopInstr.inFlight_of_source {Thread : Type} {instr : LoopInstr Thread}
    (none_runs : instr.source? = none) : instr.inFlight = [] := by
  cases instr <;> simp_all [LoopInstr.source?, LoopInstr.inFlight]

def LoopInstr.whileOpen {Thread : Type} : LoopInstr Thread → Bool
  | .ready | .sendInLoop _ | .write _ | .append _ _ | .shutdownInLoop | .handleWriteTail
  | .handleCloseStore => true
  | _ => false

def Caller.hasSent (caller : Caller) : Bool :=
  caller == ⟨.idle, [.shutdown]⟩ || caller.todo == []

namespace SharedConnection

variable {Ptr : Type} {shared next start final : SharedConnection Ptr Unit}
  {label : SharedLabel Ptr Unit} {labels : List (SharedLabel Ptr Unit)}

/-! ## The setting and the condition -/

/-- An established connection with any pending output, and one other thread
that is about to call `send` and then `shutdown`. -/
structure AboutToSend (start : SharedConnection Ptr Unit) (cell : Nat) : Prop where
  live : start.site.Live
  up : start.site.conn.state = .kConnected
  open_end : ¬ HalfClosed start.site.effects
  not_closed : .closeCallback ∉ start.site.effects
  ready : start.instr = .ready
  batch : start.callingPendingFunctors = false → start.queue.running = []
  callbacks : ∀ functor ∈ start.queue.waiting, functor = .callback
  caller : start.callers () = ⟨.idle, [.send cell, .shutdown]⟩
  entered : start.entered = []

/-- Only the other thread calls `shutdown`, the connection is destroyed only
after it has closed, and no write of `sendInLoop` fails for good before the
half-close. -/
def OneShutdown (shared : SharedConnection Ptr Unit) : SharedLabel Ptr Unit → Prop
  | .shutdown => False
  | .queueDestroyed => .closeCallback ∈ shared.site.effects
  | .proceed answer _ => ¬ HalfClosed shared.site.effects →
      (∃ source, shared.instr = .write source) → answer.isFault = false
  | _ => True

def SendWaits (shared : SharedConnection Ptr Unit) : Prop :=
  ∃ source, .sendInLoop source ∈ shared.queue.waiting

/-- `shutdown` has loaded `kConnected`, and its `shutdownInLoop` has not been
taken from the queue. -/
def ShutdownUnderWay (shared : SharedConnection Ptr Unit) : Prop :=
  (shared.callers ()).pc = .shutdownLoaded ∨ (shared.callers ()).pc = .shutdownStored ∨
    .shutdownInLoop ∈ shared.queue.waiting

/-- `handleWrite` finds `kDisconnecting` behind a drained buffer, or a close
meets a `shutdown` that is under way, only when the string is out of the queue
and, for the close, out of the buffer too. -/
def HalfCloseAwaitsSend (shared : SharedConnection Ptr Unit) : SharedLabel Ptr Unit → Prop
  | .proceed _ _ =>
      (shared.instr = .handleWriteTail → shared.site.conn.state = .kDisconnecting →
        ¬ shared.SendWaits) ∧
      (shared.instr = .handleCloseStore → shared.ShutdownUnderWay →
        ¬ shared.SendWaits ∧ shared.site.conn.outputBuffer.readable = [])
  | _ => True

def OrderedStep (shared : SharedConnection Ptr Unit) (label : SharedLabel Ptr Unit) : Prop :=
  shared.OneShutdown label ∧ shared.HalfCloseAwaitsSend label

/-- Every half-close came behind everything that was pending at the start or
entered since, the string `source` included, and nothing was written after it. -/
def HalfClosesLast (stream : List UInt8) (source : Source Unit)
    (shared : SharedConnection Ptr Unit) : Prop :=
  ∀ before unsent after, shared.site.effects = before ++ .shutdownWrite unsent :: after →
    source ∈ shared.entered ∧
      streamed before = stream ++ shared.entered.flatMap Source.held ∧
      ∀ effect ∈ after, effect.isWrite = false

/-! ## The three modes -/

/-- Where the other thread is, with the state that goes with it as long as
nothing has closed. -/
inductive Stage (cell : Nat) : StateE → Caller → Prop where
  | start : Stage cell .kConnected ⟨.idle, [.send cell, .shutdown]⟩
  | sendLoaded : Stage cell .kConnected ⟨.sendLoaded cell, [.shutdown]⟩
  | sent : Stage cell .kConnected ⟨.idle, [.shutdown]⟩
  | shutdownLoaded : Stage cell .kConnected ⟨.shutdownLoaded, []⟩
  | shutdownStored : Stage cell .kDisconnecting ⟨.shutdownStored, []⟩
  | finished : Stage cell .kDisconnecting ⟨.idle, []⟩

structure Open (stream : List UInt8) (cell : Nat) (sent : List UInt8)
    (shared : SharedConnection Ptr Unit) : Prop where
  live : shared.site.Live
  open_end : ¬ HalfClosed shared.site.effects
  not_closed : .closeCallback ∉ shared.site.effects
  not_destroyed : .connectDestroyed ∉ shared.queue.waiting
  instr : shared.instr.whileOpen = true
  batch : shared.callingPendingFunctors = false → shared.queue.running = []
  memory : shared.memory () cell = sent
  stage : Stage cell shared.site.conn.state (shared.callers ())
  queued : ∀ source, .sendInLoop source ∈ shared.queue.waiting →
    source = .block () cell sent.length sent
  carried : ∀ source, shared.instr.source? = some source →
    source = .block () cell sent.length sent ∨ ∃ bytes, source = .own bytes
  counted : ∀ source progress, shared.instr = .append source progress →
    progress.remaining = source.held.length - progress.nwrote ∧ progress.faultError = false
  accounted : streamed shared.site.effects ++ shared.site.conn.outputBuffer.readable ++
    shared.instr.inFlight = stream ++ shared.entered.flatMap Source.held
  underway : (shared.callers ()).hasSent = true →
    .sendInLoop (.block () cell sent.length sent) ∈ shared.queue.waiting ∨
      shared.instr = .sendInLoop (.block () cell sent.length sent) ∨
      .block () cell sent.length sent ∈ shared.entered
  early : shared.callers () ≠ ⟨.idle, []⟩ →
    .shutdownInLoop ∉ shared.queue.waiting ∧ shared.instr ≠ .shutdownInLoop
  ordered : shared.queue.waiting.Pairwise fun first second =>
    first = .shutdownInLoop → ∀ source, second ≠ .sendInLoop source
  last : shared.instr = .shutdownInLoop → ¬ shared.SendWaits

structure Done (stream : List UInt8) (source : Source Unit)
    (shared : SharedConnection Ptr Unit) : Prop where
  entered : source ∈ shared.entered
  accounted : streamed shared.site.effects = stream ++ shared.entered.flatMap Source.held
  closes : HalfClosesLast stream source shared
  empty : shared.site.conn.outputBuffer.readable = []
  stopped : shared.site.conn.channel.isWriting = false
  not_up : shared.site.conn.state ≠ .kConnected
  caller : (shared.callers ()).todo = [] ∧ ∀ cell, (shared.callers ()).pc ≠ .sendLoaded cell
  nothing_waits : ¬ shared.SendWaits
  nothing_carried : shared.instr.source? = none

structure Dead (shared : SharedConnection Ptr Unit) : Prop where
  down : DownForGood shared
  open_end : ¬ HalfClosed shared.site.effects
  not_stored : (shared.callers ()).pc ≠ .shutdownStored
  not_queued : .shutdownInLoop ∉ shared.queue.waiting
  not_running : shared.instr ≠ .shutdownInLoop

/-! ## Dead -/

theorem Dead.goto (dead : Dead shared) {site : Endpoint Ptr} {instr : LoopInstr Unit}
    (down : DownForGood (shared.goto site instr)) {added : List Effect}
    (effects : site.effects = shared.site.effects ++ added)
    (open_end : ∀ effect ∈ added, effect.isShutdownWrite = false)
    (not_running : instr ≠ .shutdownInLoop) : Dead (shared.goto site instr) where
  down := down
  open_end := by rw [goto_site, effects, halfClosed_append open_end]; exact dead.open_end
  not_stored := dead.not_stored
  not_queued := by rw [goto_mem_waiting _ _ (by simp)]; exact dead.not_queued
  not_running := not_running

theorem Dead.caller (dead : Dead shared) (taken : CallerTransition shared () next) :
    Dead next := by
  have down := dead.down.caller taken
  have not_up : shared.site.conn.state ≠ .kConnected := by simp [dead.down.state]
  cases taken with
  | loadSend _ up | loadShutdown _ up => exact absurd up not_up
  | storeShutdown pc => exact absurd (congrArg Caller.pc pc) (dead.down.callers ())
  | queueShutdown pc => exact absurd (congrArg Caller.pc pc) dead.not_stored
  | notConnected | changeCell =>
      exact ⟨down, dead.open_end, by simp [setCaller], dead.not_queued, dead.not_running⟩
  | queueSend pc =>
      refine ⟨down, dead.open_end, by simp [setCaller], ?_, dead.not_running⟩
      simpa [setCaller, push, sendFunctor] using dead.not_queued

theorem Dead.step (dead : Dead shared) (taken : Transition shared label next) : Dead next := by
  have down := dead.down.step taken
  cases taken with
  | caller taken => exact dead.caller taken
  | queueDestroyed =>
      refine ⟨down, dead.open_end, dead.not_stored, ?_, dead.not_running⟩
      simpa [push] using dead.not_queued
  | swap =>
      refine ⟨down, dead.open_end, dead.not_stored, ?_, dead.not_running⟩
      intro member
      exact dead.not_queued (by simp_all [BatchQueue.swap, BatchQueue.waiting])
  | @runFunctor functor rest ready item =>
      have waiting := BatchQueue.next?_waiting item
      have not_queued := dead.not_queued
      rw [waiting, List.mem_cons, not_or] at not_queued
      refine ⟨down, dead.open_end, dead.not_stored, not_queued.2, ?_⟩
      cases functor with
      | shutdownInLoop => exact absurd rfl not_queued.1
      | sendInLoop source => simp [enter]
      | connectDestroyed => simp [enter, dead.down.state]
      | callback => simp [enter]
  | finish => exact ⟨down, dead.open_end, dead.not_stored, dead.not_queued, dead.not_running⟩
  | idle ready entered =>
      obtain ⟨added, entry⟩ := entered.entry
      refine dead.goto down entry.effects entry.open_end ?_
      cases entered with
      | handleWrite => split <;> simp
      | _ => simp
  | giveUp => exact dead.goto down (List.append_nil _).symm (by simp) (by simp)
  | sendInLoop _ up => exact absurd dead.down.state up
  | write shape => exact absurd shape (dead.down.not_writing _)
  | append shape => exact absurd shape (dead.down.not_appending _ _)
  | shutdownStore shape => exact absurd shape dead.down.storing
  | shutdownInLoop shape => exact absurd shape dead.not_running
  | handleWriteTail =>
      have same : shared.site.handleWriteTail shared.site.conn.state = shared.site := by
        simp [handleWriteTail, dead.down.state]
      rw [same] at down ⊢
      exact dead.goto down (List.append_nil _).symm (by simp) (by simp)
  | closeStore shape =>
      rcases shape with ⟨_, rfl⟩ | ⟨_, rfl⟩ <;>
        exact dead.goto down (List.append_nil _).symm (by simp) (by simp)
  | handleCloseRest =>
      exact dead.goto down handleCloseRest_effects (by simp [Effect.isShutdownWrite]) (by simp)
  | destroyDown =>
      exact dead.goto down notifyDown_effects (by simp [Effect.isShutdownWrite]) (by simp)
  | remove => exact dead.goto down (List.append_nil _).symm (by simp) (by simp)

/-! ## Done -/

variable {stream sent : List UInt8} {source : Source Unit} {cell : Nat}

theorem halfClosesLast_of_open (open_end : ¬ HalfClosed shared.site.effects) :
    HalfClosesLast stream source shared := by
  intro before unsent after shape
  exact absurd ⟨.shutdownWrite unsent, by simp [shape], rfl⟩ open_end

theorem HalfClosesLast.append (closes : HalfClosesLast stream source shared)
    (entered : source ∈ shared.entered)
    (accounted : streamed shared.site.effects = stream ++ shared.entered.flatMap Source.held)
    {added : List Effect} (effects : next.site.effects = shared.site.effects ++ added)
    (no_write : ∀ effect ∈ added, effect.isWrite = false)
    (same : next.entered = shared.entered) : HalfClosesLast stream source next := by
  intro before unsent after shape
  rw [effects] at shape
  rw [same]
  rcases List.append_eq_append_iff.mp shape with
    ⟨early, rfl, later⟩ | ⟨behind, earlier, later⟩
  · -- The half-close is one of the new effects.
    subst later
    refine ⟨entered, ?_, fun effect member => no_write effect (by simp [member])⟩
    have silent : streamed early = [] :=
      streamed_eq_nil fun effect member => no_write effect (by simp [member])
    rw [streamed_append, silent, List.append_nil, accounted]
  · cases behind with
    | nil =>
        rw [List.append_nil] at earlier
        rw [List.nil_append] at later
        subst later
        rw [← earlier]
        exact ⟨entered, accounted, fun effect member => no_write effect (by simp [member])⟩
    | cons head rest =>
        obtain ⟨rfl, rfl⟩ := List.cons_eq_cons.mp later
        obtain ⟨_, complete, quiet⟩ := closes before unsent rest earlier
        refine ⟨entered, complete, fun effect member => ?_⟩
        rcases List.mem_append.mp member with old | new
        · exact quiet effect old
        · exact no_write effect new

theorem Done.goto (done : Done stream source shared) {site : Endpoint Ptr}
    {instr : LoopInstr Unit} {added : List Effect}
    (effects : site.effects = shared.site.effects ++ added)
    (no_write : ∀ effect ∈ added, effect.isWrite = false)
    (empty : site.conn.outputBuffer.readable = [])
    (stopped : site.conn.channel.isWriting = false)
    (not_up : site.conn.state ≠ .kConnected) (nothing_carried : instr.source? = none) :
    Done stream source (shared.goto site instr) where
  entered := done.entered
  accounted := by
    rw [goto_site, effects, streamed_append, streamed_eq_nil no_write, List.append_nil]
    exact done.accounted
  closes := done.closes.append done.entered done.accounted effects no_write rfl
  empty := empty
  stopped := stopped
  not_up := not_up
  caller := done.caller
  nothing_waits := fun ⟨other, member⟩ =>
    done.nothing_waits ⟨other, (goto_mem_waiting _ _ (by simp)).mp member⟩
  nothing_carried := nothing_carried

theorem Done.caller_step (done : Done stream source shared)
    (taken : CallerTransition shared () next) : Done stream source next := by
  obtain ⟨finished, not_loaded⟩ := done.caller
  cases taken with
  | loadSend pc | loadShutdown pc | notConnected pc | changeCell pc =>
      rw [pc] at finished
      cases finished
  | queueSend pc => exact absurd (congrArg Caller.pc pc) (not_loaded _)
  | storeShutdown pc =>
      rw [pc] at finished
      exact { done with
        closes := done.closes
        not_up := by simp [setCaller]
        caller := by simpa [setCaller] using finished
        nothing_waits := done.nothing_waits }
  | queueShutdown pc =>
      rw [pc] at finished
      exact { done with
        closes := done.closes
        caller := by simpa [setCaller] using finished
        nothing_waits := by simpa [SendWaits, setCaller, push] using done.nothing_waits }

theorem Done.step (done : Done stream source shared) (taken : Transition shared label next) :
    Done stream source next := by
  have empty_handed {other : Source Unit} (carried : shared.instr.source? = some other) :
      False := by
    rw [done.nothing_carried] at carried
    cases carried
  cases taken with
  | caller taken => exact done.caller_step taken
  | queueDestroyed =>
      exact { done with
        closes := done.closes
        nothing_waits := by simpa [SendWaits, push] using done.nothing_waits }
  | swap =>
      refine { done with closes := done.closes, nothing_waits := ?_ }
      intro given
      obtain ⟨other, member⟩ := given
      exact done.nothing_waits ⟨other, by simp_all [BatchQueue.swap, BatchQueue.waiting]⟩
  | @runFunctor functor rest ready item =>
      have waiting := BatchQueue.next?_waiting item
      refine { done with closes := done.closes, nothing_waits := ?_, nothing_carried := ?_ }
      · intro given
        obtain ⟨other, member⟩ := given
        exact done.nothing_waits ⟨other, by rw [waiting]; exact List.mem_cons_of_mem _ member⟩
      · cases functor with
        | sendInLoop other =>
            exact absurd ⟨other, by rw [waiting]; exact List.mem_cons_self⟩ done.nothing_waits
        | connectDestroyed => simp [enter, done.not_up, LoopInstr.source?]
        | shutdownInLoop | callback => rfl
  | finish =>
      exact { done with closes := done.closes, nothing_waits := done.nothing_waits }
  | idle ready entered =>
      obtain ⟨added, entry⟩ := entered.entry
      obtain ⟨channel, output, quiet⟩ := entry.idle done.stopped
      refine done.goto entry.effects quiet (by rw [output]; exact done.empty)
        (by rw [channel]; exact done.stopped) (by rw [entry.state]; exact done.not_up) ?_
      cases entered with
      | send up => exact absurd up done.not_up
      | handleWrite => split <;> rfl
      | _ => rfl
  | giveUp shape | sendInLoop shape | write shape | append shape =>
      exact (empty_handed (by rw [shape]; rfl)).elim
  | shutdownStore =>
      exact done.goto (List.append_nil _).symm (by simp) done.empty done.stopped (by simp) rfl
  | shutdownInLoop =>
      rw [shutdownInLoop_idle done.stopped]
      exact done.goto rfl (by simp [Effect.isWrite]) done.empty done.stopped done.not_up rfl
  | handleWriteTail =>
      unfold handleWriteTail
      split
      · rw [shutdownInLoop_idle done.stopped]
        exact done.goto rfl (by simp [Effect.isWrite]) done.empty done.stopped done.not_up rfl
      · exact done.goto (List.append_nil _).symm (by simp) done.empty done.stopped done.not_up rfl
  | closeStore shape =>
      rcases shape with ⟨_, rfl⟩ | ⟨_, rfl⟩ <;>
        exact done.goto (List.append_nil _).symm (by simp) done.empty done.stopped (by simp) rfl
  | handleCloseRest =>
      exact done.goto handleCloseRest_effects (by simp [Effect.isWrite]) done.empty
        notifyDown_stopped done.not_up rfl
  | destroyDown =>
      exact done.goto notifyDown_effects (by simp [Effect.isWrite]) done.empty
        notifyDown_stopped done.not_up rfl
  | remove =>
      refine done.goto (List.append_nil _).symm (by simp) done.empty ?_ done.not_up rfl
      rw [isWriting_eq_epollout, onChannel_events]
      exact (isWriting_eq_epollout _).symm.trans done.stopped

end SharedConnection

end TalkSystem.Net
