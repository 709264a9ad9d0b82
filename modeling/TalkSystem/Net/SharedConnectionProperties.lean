import TalkSystem.Net.SharedConnection
import TalkSystem.Net.OutputStreamProperties

/-!
# Races between a connection's loop and its callers

`Transition` lists what a step can do, with the facts the step has tested.
-/

set_option autoImplicit false

namespace TalkSystem.Net

open Endpoint

def LoopInstr.source? {Thread : Type} : LoopInstr Thread → Option (Source Thread)
  | .sendInLoop source | .write source | .append source _ => some source
  | _ => none

namespace SharedConnection

variable {Ptr Thread : Type} {shared next start middle final : SharedConnection Ptr Thread}
  {label : SharedLabel Ptr Thread} {labels : List (SharedLabel Ptr Thread)}

/-! ## What a step can do -/

inductive CallerTransition [DecidableEq Thread] (shared : SharedConnection Ptr Thread)
    (thread : Thread) : SharedConnection Ptr Thread → Prop where
  | loadSend {cell : Nat} {rest : List Call} :
      shared.callers thread = ⟨.idle, .send cell :: rest⟩ →
      shared.site.conn.state = .kConnected →
      CallerTransition shared thread (shared.setCaller thread (.sendLoaded cell) rest)
  | loadShutdown {rest : List Call} :
      shared.callers thread = ⟨.idle, .shutdown :: rest⟩ →
      shared.site.conn.state = .kConnected →
      CallerTransition shared thread (shared.setCaller thread .shutdownLoaded rest)
  | notConnected {call : Call} {rest : List Call} :
      shared.callers thread = ⟨.idle, call :: rest⟩ →
      shared.site.conn.state ≠ .kConnected →
      CallerTransition shared thread (shared.setCaller thread .idle rest)
  | changeCell {call : Call} {cell : Nat} {bytes : List UInt8} {rest : List Call} :
      shared.callers thread = ⟨.idle, call :: rest⟩ →
      call = .assign cell bytes ∨ (call = .destroy cell ∧ bytes = []) →
      CallerTransition shared thread
        ((shared.setCell thread cell bytes).setCaller thread .idle rest)
  | queueSend {cell : Nat} {todo : List Call} :
      shared.callers thread = ⟨.sendLoaded cell, todo⟩ →
      CallerTransition shared thread
        ((shared.push (shared.sendFunctor thread cell)).setCaller thread .idle todo)
  | storeShutdown {todo : List Call} :
      shared.callers thread = ⟨.shutdownLoaded, todo⟩ →
      CallerTransition shared thread
        ({ shared with site := shared.site.setState .kDisconnecting }.setCaller thread
          .shutdownStored todo)
  | queueShutdown {todo : List Call} :
      shared.callers thread = ⟨.shutdownStored, todo⟩ →
      CallerTransition shared thread ((shared.push .shutdownInLoop).setCaller thread .idle todo)

/-- The loop thread between two methods of the connection: it enters one, or
runs one that has no step of its own. -/
inductive IdleTransition (shared : SharedConnection Ptr Thread) :
    SharedLabel Ptr Thread → Endpoint Ptr → LoopInstr Thread → Prop where
  | endOfStream :
      IdleTransition shared (.handleRead (.yields []))
        { shared.site with
          conn := { shared.site.conn with
            inputBuffer := (shared.site.conn.inputBuffer.readFd (.yields [])).2 } }
        .handleCloseStore
  | handleRead {answer : ReadAnswer} : answer ≠ .yields [] →
      IdleTransition shared (.handleRead answer) (shared.site.handleRead answer) .ready
  | handleWrite {answer : WriteAnswer} :
      IdleTransition shared (.handleWrite answer) (shared.site.handleWriteBody answer).2
        (if (shared.site.handleWriteBody answer).1 then .handleWriteTail else .ready)
  | handleClose : IdleTransition shared .handleClose shared.site .handleCloseStore
  | handleError : IdleTransition shared .handleError shared.site .ready
  | send {bytes : List UInt8} : shared.site.conn.state = .kConnected →
      IdleTransition shared (.send bytes) shared.site (.sendInLoop (.own bytes))
  | shutdown : shared.site.conn.state = .kConnected →
      IdleTransition shared .shutdown shared.site .shutdownStore
  | notConnected {label : SharedLabel Ptr Thread} : shared.site.conn.state ≠ .kConnected →
      IdleTransition shared label shared.site .ready
  | retrieveInput {len : Nat} :
      IdleTransition shared (.retrieveInput len) (shared.site.retrieveInput len) .ready
  | otherChannel {other : Ptr} {channel : Channel} {operation : ChannelOp} :
      channel.fd ≠ shared.site.conn.channel.fd →
      IdleTransition shared (.otherChannel other channel operation)
        (shared.site.otherChannel other channel operation) .ready

inductive Transition [DecidableEq Thread] (shared : SharedConnection Ptr Thread) :
    SharedLabel Ptr Thread → SharedConnection Ptr Thread → Prop where
  | caller {thread : Thread} {next : SharedConnection Ptr Thread} :
      CallerTransition shared thread next → Transition shared (.caller thread) next
  | queueDestroyed : Transition shared .queueDestroyed (shared.push .connectDestroyed)
  | swap : shared.instr = .ready → shared.callingPendingFunctors = false →
      Transition shared .doPendingFunctors
        { shared with queue := shared.queue.swap, callingPendingFunctors := true }
  | runFunctor {functor : ConnFunctor Thread} {rest : BatchQueue (ConnFunctor Thread)} :
      shared.instr = .ready → shared.queue.next? = some (functor, rest) →
      Transition shared .runFunctor
        { shared with queue := rest, instr := shared.enter functor }
  | finish : shared.instr = .ready → shared.queue.running = [] →
      Transition shared .finish
        { shared with queue := shared.queue.release, callingPendingFunctors := false }
  | idle {label : SharedLabel Ptr Thread} {site : Endpoint Ptr} {instr : LoopInstr Thread} :
      shared.instr = .ready → IdleTransition shared label site instr →
      Transition shared label (shared.goto site instr)
  | giveUp {source : Source Thread} {answer : WriteAnswer} {garbage : List UInt8} :
      shared.instr = .sendInLoop source → shared.site.conn.state = .kDisconnected →
      Transition shared (.proceed answer garbage) (shared.goto shared.site .ready)
  | sendInLoop {source : Source Thread} {answer : WriteAnswer} {garbage : List UInt8} :
      shared.instr = .sendInLoop source → shared.site.conn.state ≠ .kDisconnected →
      Transition shared (.proceed answer garbage)
        { shared.goto shared.site (.write source) with entered := shared.entered ++ [source] }
  | write {source : Source Thread} {answer : WriteAnswer} {garbage data : List UInt8} :
      shared.instr = .write source → data = shared.deref source garbage →
      Transition shared (.proceed answer garbage)
        { shared.goto (shared.site.sendInLoopWrite data answer).2
            (.append source (shared.site.sendInLoopWrite data answer).1) with
          uses := shared.uses ++
            (readByWrite shared.site data).map fun read => (source.held, read) }
  | append {source : Source Thread} {progress : Endpoint.SendProgress} {answer : WriteAnswer}
      {garbage data : List UInt8} :
      shared.instr = .append source progress → data = shared.deref source garbage →
      Transition shared (.proceed answer garbage)
        { shared.goto (shared.site.sendInLoopAppend data progress) .ready with
          uses := shared.uses ++
            (readByAppend progress data).map fun read =>
              (source.held.drop progress.nwrote, read) }
  | shutdownStore {answer : WriteAnswer} {garbage : List UInt8} :
      shared.instr = .shutdownStore →
      Transition shared (.proceed answer garbage)
        (shared.goto (shared.site.setState .kDisconnecting) .shutdownInLoop)
  | shutdownInLoop {answer : WriteAnswer} {garbage : List UInt8} :
      shared.instr = .shutdownInLoop →
      Transition shared (.proceed answer garbage)
        (shared.goto shared.site.shutdownInLoop .ready)
  | handleWriteTail {answer : WriteAnswer} {garbage : List UInt8} :
      shared.instr = .handleWriteTail →
      Transition shared (.proceed answer garbage)
        (shared.goto (shared.site.handleWriteTail shared.site.conn.state) .ready)
  | closeStore {answer : WriteAnswer} {garbage : List UInt8} {rest : LoopInstr Thread} :
      (shared.instr = .handleCloseStore ∧ rest = .handleCloseRest) ∨
        (shared.instr = .destroyStore ∧ rest = .destroyDown) →
      Transition shared (.proceed answer garbage)
        (shared.goto (shared.site.setState .kDisconnected) rest)
  | handleCloseRest {answer : WriteAnswer} {garbage : List UInt8} :
      shared.instr = .handleCloseRest →
      Transition shared (.proceed answer garbage)
        (shared.goto shared.site.handleCloseRest .ready)
  | destroyDown {answer : WriteAnswer} {garbage : List UInt8} :
      shared.instr = .destroyDown →
      Transition shared (.proceed answer garbage) (shared.goto shared.site.notifyDown .remove)
  | remove {answer : WriteAnswer} {garbage : List UInt8} :
      shared.instr = .remove →
      Transition shared (.proceed answer garbage)
        (shared.goto (shared.site.onChannel .remove) .ready)

theorem callerStep_transition [DecidableEq Thread] {thread : Thread}
    (taken : shared.callerStep thread = some next) : CallerTransition shared thread next := by
  unfold callerStep at taken
  split at taken
  · cases taken
  · next shape =>
      by_cases up : shared.site.conn.state = .kConnected
      · rw [if_pos up] at taken; cases taken; exact .loadSend shape up
      · rw [if_neg up] at taken; cases taken; exact .notConnected shape up
  · next shape =>
      by_cases up : shared.site.conn.state = .kConnected
      · rw [if_pos up] at taken; cases taken; exact .loadShutdown shape up
      · rw [if_neg up] at taken; cases taken; exact .notConnected shape up
  · next shape => cases taken; exact .changeCell shape (.inl rfl)
  · next shape => cases taken; exact .changeCell shape (.inr ⟨rfl, rfl⟩)
  · next shape => cases taken; exact .queueSend shape
  · next shape => cases taken; exact .storeShutdown shape
  · next shape => cases taken; exact .queueShutdown shape

theorem dispatch_transition (taken : shared.dispatch label = some next) :
    ∃ site instr, IdleTransition shared label site instr ∧ next = shared.goto site instr := by
  unfold dispatch at taken
  split at taken
  · cases taken; exact ⟨_, _, .endOfStream, rfl⟩
  · next answer more =>
      cases taken
      exact ⟨_, _, .handleRead fun eof => more eof, rfl⟩
  · cases taken; exact ⟨_, _, .handleWrite, rfl⟩
  · cases taken; exact ⟨_, _, .handleClose, rfl⟩
  · cases taken; exact ⟨_, _, .handleError, rfl⟩
  · cases taken

theorem userCode_transition (taken : shared.userCode label = some next) :
    ∃ site instr, IdleTransition shared label site instr ∧ next = shared.goto site instr := by
  unfold userCode at taken
  split at taken
  · by_cases up : shared.site.conn.state = .kConnected
    · rw [if_pos up] at taken; cases taken; exact ⟨_, _, .send up, rfl⟩
    · rw [if_neg up] at taken; cases taken; exact ⟨_, _, .notConnected up, rfl⟩
  · by_cases up : shared.site.conn.state = .kConnected
    · rw [if_pos up] at taken; cases taken; exact ⟨_, _, .shutdown up, rfl⟩
    · rw [if_neg up] at taken; cases taken; exact ⟨_, _, .notConnected up, rfl⟩
  · cases taken; exact ⟨_, _, .retrieveInput, rfl⟩
  · split at taken
    · next different => cases taken; exact ⟨_, _, .otherChannel different, rfl⟩
    · cases taken
  · cases taken

theorem proceed_transition [DecidableEq Thread] {answer : WriteAnswer} {garbage : List UInt8}
    (taken : shared.proceed answer garbage = some next) :
    Transition shared (.proceed answer garbage) next := by
  unfold proceed at taken
  dsimp only at taken
  split at taken
  · cases taken
  · next shape =>
      split at taken
      · next down => cases taken; exact .giveUp shape down
      · next up => cases taken; exact .sendInLoop shape up
  · next shape => cases taken; exact .write shape rfl
  · next shape => cases taken; exact .append shape rfl
  · next shape => cases taken; exact .shutdownStore shape
  · next shape => cases taken; exact .shutdownInLoop shape
  · next shape => cases taken; exact .handleWriteTail shape
  · next shape => cases taken; exact .closeStore (.inl ⟨shape, rfl⟩)
  · next shape => cases taken; exact .handleCloseRest shape
  · next shape => cases taken; exact .closeStore (.inr ⟨shape, rfl⟩)
  · next shape => cases taken; exact .destroyDown shape
  · next shape => cases taken; exact .remove shape

theorem step_transition [DecidableEq Thread]
    (taken : (machine Ptr Thread).step shared label = some next) :
    Transition shared label next := by
  have entering {condition : Prop} [Decidable condition]
      {action : Option (SharedConnection Ptr Thread)} (ready : condition → shared.instr = .ready)
      (entered : action = some next →
        ∃ site instr, IdleTransition shared label site instr ∧ next = shared.goto site instr)
      (taken : (if condition then action else none) = some next) :
      Transition shared label next := by
    split at taken
    · next holds =>
        obtain ⟨site, instr, idle, rfl⟩ := entered taken
        exact .idle (ready holds) idle
    · cases taken
  change step shared label = some next at taken
  cases label with
  | caller thread => exact .caller (callerStep_transition taken)
  | queueDestroyed => cases taken; exact .queueDestroyed
  | proceed answer garbage => exact proceed_transition taken
  | doPendingFunctors =>
      simp only [step] at taken
      split at taken
      · next idle => cases taken; exact .swap idle.1 idle.2
      · cases taken
  | runFunctor =>
      simp only [step] at taken
      split at taken
      · next ready item => cases taken; exact .runFunctor ready item
      · cases taken
  | finish =>
      simp only [step] at taken
      split at taken
      · next done => cases taken; exact .finish done.1 done.2.2
      · cases taken
  | send | shutdown | retrieveInput | otherChannel =>
      exact entering id userCode_transition taken
  | handleRead | handleWrite | handleClose | handleError =>
      exact entering And.left dispatch_transition taken

/-! ## Field laws -/

@[simp] theorem goto_site (site : Endpoint Ptr) (instr : LoopInstr Thread) :
    (shared.goto site instr).site = site := rfl
@[simp] theorem goto_instr (site : Endpoint Ptr) (instr : LoopInstr Thread) :
    (shared.goto site instr).instr = instr := rfl
@[simp] theorem goto_callers (site : Endpoint Ptr) (instr : LoopInstr Thread) :
    (shared.goto site instr).callers = shared.callers := rfl
@[simp] theorem goto_memory (site : Endpoint Ptr) (instr : LoopInstr Thread) :
    (shared.goto site instr).memory = shared.memory := rfl
@[simp] theorem goto_entered (site : Endpoint Ptr) (instr : LoopInstr Thread) :
    (shared.goto site instr).entered = shared.entered := rfl
@[simp] theorem goto_uses (site : Endpoint Ptr) (instr : LoopInstr Thread) :
    (shared.goto site instr).uses = shared.uses := rfl

theorem goto_waiting (shared : SharedConnection Ptr Thread) (site : Endpoint Ptr)
    (instr : LoopInstr Thread) :
    ∃ callbacks, (shared.goto site instr).queue.waiting = shared.queue.waiting ++ callbacks ∧
      ∀ functor ∈ callbacks, functor = .callback := by
  refine ⟨(site.effects.drop shared.site.effects.length).flatMap queuedBy, ?_, ?_⟩
  · simp [goto, BatchQueue.waiting]
  · intro functor member
    obtain ⟨effect, _, queued⟩ := List.mem_flatMap.mp member
    cases effect <;> simp_all [queuedBy]

theorem goto_mem_waiting (site : Endpoint Ptr) (instr : LoopInstr Thread)
    {functor : ConnFunctor Thread} (named : functor ≠ .callback) :
    functor ∈ (shared.goto site instr).queue.waiting ↔ functor ∈ shared.queue.waiting := by
  obtain ⟨callbacks, waiting, only⟩ := goto_waiting shared site instr
  rw [waiting, List.mem_append]
  exact ⟨fun member => member.resolve_right fun new => named (only _ new), .inl⟩

/-- What entering a method does to the connection: it may write what is
pending, but it neither stores a state nor half-closes. -/
structure Entry (site next : Endpoint Ptr) (added : List Effect) : Prop where
  state : next.conn.state = site.conn.state
  effects : next.effects = site.effects ++ added
  only_local : ∀ effect ∈ added, effect.isLocal = true
  open_end : ∀ effect ∈ added, effect.isShutdownWrite = false
  stream : streamed added ++ next.conn.outputBuffer.readable = site.conn.outputBuffer.readable
  live : site.Live → next.Live
  idle : site.conn.channel.isWriting = false →
    next.conn.channel = site.conn.channel ∧
      next.conn.outputBuffer = site.conn.outputBuffer ∧
      ∀ effect ∈ added, effect.isWrite = false

theorem Entry.refl (site : Endpoint Ptr) : Entry site site [] where
  state := rfl
  effects := (List.append_nil _).symm
  only_local := by simp
  open_end := by simp
  stream := rfl
  live := id
  idle _ := ⟨rfl, rfl, by simp⟩

theorem IdleTransition.source_own {site : Endpoint Ptr} {instr : LoopInstr Thread}
    {source : Source Thread} (entered : IdleTransition shared label site instr)
    (carried : instr.source? = some source) : ∃ bytes, source = .own bytes := by
  cases entered with
  | send => cases carried; exact ⟨_, rfl⟩
  | handleWrite => split at carried <;> cases carried
  | _ => cases carried

theorem IdleTransition.not_append {site : Endpoint Ptr} {instr : LoopInstr Thread}
    (entered : IdleTransition shared label site instr) (source : Source Thread)
    (progress : SendProgress) : instr ≠ .append source progress := by
  intro shape
  cases entered with
  | handleWrite => split at shape <;> cases shape
  | _ => cases shape

theorem IdleTransition.entry {site : Endpoint Ptr} {instr : LoopInstr Thread}
    (entered : IdleTransition shared label site instr) :
    ∃ added, Entry shared.site site added := by
  cases entered with
  | endOfStream =>
      have same := Entry.refl shared.site
      exact ⟨[], { same with
        effects := same.effects
        live := fun live => ⟨live.watched, live.reading, live.writing_iff⟩ }⟩
  | @handleRead answer more =>
      obtain ⟨added, steady, silent, filled, quiet⟩ := handleRead_open more
      exact ⟨added,
        { state := steady.state
          effects := steady.effects
          only_local := steady.only_local
          open_end := fun effect member => (quiet effect member).2
          stream := by rw [silent, filled, List.nil_append]
          live := steady.live
          idle := fun _ => ⟨by rw [filled], by rw [filled],
            fun effect member => (quiet effect member).1⟩ }⟩
  | @handleWrite answer =>
      obtain ⟨added, flushed⟩ := handleWriteBody_spec shared.site answer
      refine ⟨added,
        { state := flushed.steady.state
          effects := flushed.steady.effects
          only_local := flushed.steady.only_local
          open_end := flushed.open_end
          stream := flushed.stream
          live := flushed.steady.live
          idle := ?_ }⟩
      intro stopped
      obtain ⟨_, same, none⟩ := flushed.idle stopped
      exact ⟨by rw [same], by rw [same], by simp [none]⟩
  | retrieveInput =>
      have same := Entry.refl shared.site
      exact ⟨[], { same with
        effects := same.effects
        live := fun live => ⟨live.watched, live.reading, live.writing_iff⟩ }⟩
  | otherChannel different =>
      have same := Entry.refl shared.site
      exact ⟨[], { same with
        effects := same.effects
        live := fun live => live.otherChannel different }⟩
  | handleClose | handleError | send | shutdown | notConnected =>
      exact ⟨[], Entry.refl shared.site⟩

/-- A connection that has just been established, and one other thread that is
going to make `calls`; its string 0 is the single byte 7. -/
def established (calls : List Call) : SharedConnection Nat Unit where
  site := freshSite.connectEstablished
  queue := .empty
  callingPendingFunctors := false
  instr := .ready
  memory := fun _ _ => [7]
  callers := fun _ => ⟨.idle, calls⟩
  uses := []
  entered := []

end SharedConnection

end TalkSystem.Net
