import TalkSystem.Net.HalfCloseModes
import TalkSystem.Net.SentBytesProperties

/-!
# The half-close waits for what was sent before

What a step does in the open mode, and from the three modes what every run does.
-/

set_option autoImplicit false

namespace TalkSystem.Net

open Endpoint

namespace SharedConnection

variable {Ptr : Type} {shared next start final : SharedConnection Ptr Unit}
  {label : SharedLabel Ptr Unit} {labels : List (SharedLabel Ptr Unit)}
  {stream sent : List UInt8} {source : Source Unit} {cell : Nat}

theorem Open.move (inv : Open stream cell sent shared) {site : Endpoint Ptr}
    {instr : LoopInstr Unit} {added : List Effect} {entered : List (Source Unit)}
    {uses : List (List UInt8 × List UInt8)}
    (live : site.Live) (state : site.conn.state = shared.site.conn.state)
    (effects : site.effects = shared.site.effects ++ added)
    (only_local : ∀ effect ∈ added, effect.isLocal = true)
    (open_end : ∀ effect ∈ added, effect.isShutdownWrite = false)
    (whileOpen : instr.whileOpen = true) (not_shutdown : instr ≠ .shutdownInLoop)
    (carried : ∀ source, instr.source? = some source →
      source = .block () cell sent.length sent ∨ ∃ bytes, source = .own bytes)
    (counted : ∀ source progress, instr = .append source progress →
      progress.remaining = source.held.length - progress.nwrote ∧ progress.faultError = false)
    (accounted : streamed site.effects ++ site.conn.outputBuffer.readable ++ instr.inFlight =
      stream ++ entered.flatMap Source.held)
    (underway : shared.instr = .sendInLoop (.block () cell sent.length sent) ∨
        .block () cell sent.length sent ∈ shared.entered →
      .block () cell sent.length sent ∈ entered) :
    Open stream cell sent
      { shared.goto site instr with entered := entered, uses := uses } where
  live := live
  open_end := by
    rw [show ({ shared.goto site instr with entered := entered, uses := uses } :
      SharedConnection Ptr Unit).site.effects = shared.site.effects ++ added from effects,
      halfClosed_append open_end]
    exact inv.open_end
  not_closed := by
    change .closeCallback ∉ site.effects
    rw [effects, List.mem_append, not_or]
    refine ⟨inv.not_closed, fun member => ?_⟩
    cases only_local _ member
  not_destroyed := by
    change .connectDestroyed ∉ (shared.goto site instr).queue.waiting
    rw [goto_mem_waiting _ _ (by simp)]
    exact inv.not_destroyed
  instr := whileOpen
  batch := inv.batch
  memory := inv.memory
  stage := by
    change Stage cell site.conn.state (shared.callers ())
    rw [state]
    exact inv.stage
  queued source member := inv.queued source ((goto_mem_waiting site instr (by simp)).mp member)
  carried := carried
  counted := counted
  accounted := accounted
  underway has_sent := by
    rcases inv.underway has_sent with waits | running
    · exact .inl ((goto_mem_waiting site instr (by simp)).mpr waits)
    · exact .inr (.inr (underway running))
  early unfinished :=
    ⟨fun member => (inv.early unfinished).1 ((goto_mem_waiting site instr (by simp)).mp member),
      not_shutdown⟩
  ordered := by
    obtain ⟨callbacks, waiting, only⟩ := goto_waiting shared site instr
    change (shared.goto site instr).queue.waiting.Pairwise _
    rw [waiting]
    refine List.pairwise_append.mpr ⟨inv.ordered, ?_, ?_⟩
    · exact List.pairwise_of_forall_mem_list fun first member _ _ shutdown =>
        by rw [only first member] at shutdown; cases shutdown
    · intro first _ second member _ source send
      rw [only second member] at send
      cases send
  last shutdown := absurd shutdown not_shutdown

theorem Open.queueSend (inv : Open stream cell sent shared)
    (pc : shared.callers () = ⟨.sendLoaded cell, [.shutdown]⟩)
    (up : shared.site.conn.state = .kConnected) :
    Open stream cell sent
      ((shared.push (shared.sendFunctor () cell)).setCaller () .idle [.shutdown]) := by
  obtain ⟨not_queued, not_running⟩ := inv.early (by rw [pc]; simp)
  have waiting : ((shared.push (shared.sendFunctor () cell)).setCaller () .idle
      [.shutdown]).queue.waiting =
      shared.queue.waiting ++ [.sendInLoop (.block () cell sent.length sent)] := by
    simp [setCaller, push, sendFunctor, inv.memory]
  exact { inv with
    open_end := inv.open_end
    not_destroyed := by rw [waiting]; simpa using inv.not_destroyed
    stage := by simpa [setCaller, push, up] using Stage.sent
    queued := fun source member => by
      rw [waiting] at member
      rcases List.mem_append.mp member with old | new
      · exact inv.queued source old
      · cases List.mem_singleton.mp new
        rfl
    underway := fun _ => .inl (by rw [waiting]; simp)
    early := fun _ => by
      rw [waiting]
      exact ⟨by simpa using not_queued, not_running⟩
    ordered := by
      rw [waiting]
      refine List.pairwise_append.mpr ⟨inv.ordered, List.pairwise_singleton _ _, ?_⟩
      rintro first member second _ rfl
      exact absurd member not_queued
    last := fun shutdown => absurd shutdown not_running }

theorem Open.queueShutdown (inv : Open stream cell sent shared)
    (pc : shared.callers () = ⟨.shutdownStored, []⟩)
    (closing : shared.site.conn.state = .kDisconnecting) :
    Open stream cell sent ((shared.push .shutdownInLoop).setCaller () .idle []) := by
  obtain ⟨_, not_running⟩ := inv.early (by rw [pc]; simp)
  have waiting : ((shared.push .shutdownInLoop).setCaller () .idle []).queue.waiting =
      shared.queue.waiting ++ [.shutdownInLoop] := by
    simp [setCaller, push]
  exact { inv with
    open_end := inv.open_end
    not_destroyed := by rw [waiting]; simpa using inv.not_destroyed
    stage := by simpa [setCaller, push, closing] using Stage.finished
    queued := fun source member => by
      rw [waiting] at member
      exact inv.queued source (by simpa using member)
    underway := fun _ => by
      rw [waiting]
      exact (inv.underway (by rw [pc]; rfl)).imp (List.mem_append_left _) id
    early := fun unfinished => by simp [setCaller] at unfinished
    ordered := by
      rw [waiting]
      refine List.pairwise_append.mpr ⟨inv.ordered, List.pairwise_singleton _ _, ?_⟩
      intro first _ second member _ source send
      rw [List.mem_singleton.mp member] at send
      cases send
    last := fun shutdown => absurd shutdown not_running }

theorem Open.caller_step (inv : Open stream cell sent shared)
    (taken : CallerTransition shared () next) : Open stream cell sent next := by
  have stage := inv.stage
  cases taken with
  | @loadSend other rest pc up =>
      rw [pc, up] at stage
      cases stage
      exact { inv with
        open_end := inv.open_end
        stage := by simpa [setCaller, up] using Stage.sendLoaded
        underway := by simp [setCaller, Caller.hasSent]
        early := fun _ => inv.early (by rw [pc]; simp)
        last := inv.last }
  | @loadShutdown rest pc up =>
      rw [pc, up] at stage
      cases stage
      exact { inv with
        open_end := inv.open_end
        stage := by simpa [setCaller, up] using Stage.shutdownLoaded
        underway := fun _ => inv.underway (by rw [pc]; rfl)
        early := fun _ => inv.early (by rw [pc]; simp)
        last := inv.last }
  | @notConnected call rest pc not_up =>
      rw [pc] at stage
      generalize shared.site.conn.state = state at stage not_up
      cases stage <;> exact absurd rfl not_up
  | @changeCell call other bytes rest pc changes =>
      rw [pc] at stage
      generalize shared.site.conn.state = state at stage
      cases stage <;> simp at changes
  | @queueSend other todo pc =>
      rw [pc] at stage
      generalize up : shared.site.conn.state = state at stage
      cases stage
      exact inv.queueSend pc up
  | @storeShutdown todo pc =>
      rw [pc] at stage
      generalize up : shared.site.conn.state = state at stage
      cases stage
      exact { inv with
        live := inv.live.setState _
        open_end := inv.open_end
        stage := by simpa [setCaller] using Stage.shutdownStored
        underway := fun _ => inv.underway (by rw [pc]; rfl)
        early := fun _ => inv.early (by rw [pc]; simp)
        last := inv.last }
  | @queueShutdown todo pc =>
      rw [pc] at stage
      generalize closing : shared.site.conn.state = state at stage
      cases stage
      exact inv.queueShutdown pc closing

theorem Open.not_down (inv : Open stream cell sent shared) :
    shared.site.conn.state ≠ .kDisconnected := by
  have stage := inv.stage
  intro down
  rw [down] at stage
  cases stage

theorem Open.hasSent_of_closing (inv : Open stream cell sent shared)
    (closing : shared.site.conn.state = .kDisconnecting) : (shared.callers ()).hasSent = true := by
  have stage := inv.stage
  rw [closing] at stage
  generalize shared.callers () = caller at stage
  cases stage <;> rfl

/-- With the string out of the queue, no `sendInLoop` running and an empty
buffer, the connection may be half-closed from now on. -/
theorem Open.settle (inv : Open stream cell sent shared)
    (has_sent : (shared.callers ()).hasSent = true) (todo : (shared.callers ()).todo = [])
    (none_waits : ¬ shared.SendWaits) (none_runs : shared.instr.source? = none)
    (empty : shared.site.conn.outputBuffer.readable = []) {site : Endpoint Ptr}
    {instr : LoopInstr Unit} {added : List Effect}
    (effects : site.effects = shared.site.effects ++ added)
    (no_write : ∀ effect ∈ added, effect.isWrite = false)
    (same : site.conn.outputBuffer = shared.site.conn.outputBuffer)
    (channel : site.conn.channel = shared.site.conn.channel)
    (not_up : site.conn.state ≠ .kConnected) (nothing_carried : instr.source? = none) :
    Done stream (.block () cell sent.length sent) (shared.goto site instr) := by
  have entered : .block () cell sent.length sent ∈ shared.entered := by
    rcases inv.underway has_sent with waits | running | entered
    · exact absurd ⟨_, waits⟩ none_waits
    · rw [running] at none_runs
      cases none_runs
    · exact entered
  have accounted : streamed shared.site.effects =
      stream ++ shared.entered.flatMap Source.held := by
    simpa [empty, LoopInstr.inFlight_of_source none_runs] using inv.accounted
  have not_loaded (other : Nat) : (shared.callers ()).pc ≠ .sendLoaded other := by
    have stage := inv.stage
    generalize shared.callers () = caller at stage todo
    generalize shared.site.conn.state = state at stage
    cases stage <;> simp_all
  exact
    { entered := entered
      accounted := by
        rw [goto_site, effects, streamed_append, streamed_eq_nil no_write, List.append_nil]
        exact accounted
      closes := (halfClosesLast_of_open inv.open_end).append entered accounted effects no_write
        rfl
      empty := by rw [goto_site, same]; exact empty
      stopped := by rw [goto_site, channel]; exact inv.live.not_writing_iff.mpr empty
      not_up := not_up
      caller := ⟨todo, not_loaded⟩
      nothing_waits := fun ⟨other, member⟩ =>
        none_waits ⟨other, (goto_mem_waiting _ _ (by simp)).mp member⟩
      nothing_carried := nothing_carried }

def Mode (stream : List UInt8) (cell : Nat) (sent : List UInt8)
    (shared : SharedConnection Ptr Unit) : Prop :=
  Open stream cell sent shared ∨ Done stream (.block () cell sent.length sent) shared ∨
    Dead shared

theorem Open.shutdownInLoop (inv : Open stream cell sent shared)
    (closing : shared.site.conn.state = .kDisconnecting) (none_waits : ¬ shared.SendWaits)
    (none_runs : shared.instr.source? = none) :
    Mode stream cell sent (shared.goto shared.site.shutdownInLoop .ready) := by
  have todo : (shared.callers ()).todo = [] := by
    have stage := inv.stage
    rw [closing] at stage
    generalize shared.callers () = caller at stage
    cases stage <;> rfl
  cases writing : shared.site.conn.channel.isWriting with
  | true =>
      rw [shutdownInLoop_writing writing]
      refine .inl (inv.move inv.live rfl (List.append_nil _).symm (by simp) (by simp) rfl
        (by simp) (by simp [LoopInstr.source?]) (by simp) ?_ ?_)
      · have accounted := inv.accounted
        rwa [LoopInstr.inFlight_of_source none_runs] at accounted
      · rintro (running | entered)
        · rw [running] at none_runs
          cases none_runs
        · exact entered
  | false =>
      rw [shutdownInLoop_idle writing]
      exact .inr (.inl (inv.settle (inv.hasSent_of_closing closing) todo none_waits none_runs
        (inv.live.not_writing_iff.mp writing) rfl (by simp [Effect.isWrite]) rfl rfl
        (by simp [closing]) rfl))

theorem Open.closeStore (inv : Open stream cell sent shared)
    (shape : shared.instr = .handleCloseStore)
    (awaits : shared.ShutdownUnderWay →
      ¬ shared.SendWaits ∧ shared.site.conn.outputBuffer.readable = []) :
    Mode stream cell sent
      (shared.goto (shared.site.setState .kDisconnected) .handleCloseRest) := by
  by_cases underway : shared.ShutdownUnderWay
  · obtain ⟨none_waits, empty⟩ := awaits underway
    have finishing : (shared.callers ()).hasSent = true ∧ (shared.callers ()).todo = [] := by
      have stage := inv.stage
      have early := inv.early
      unfold ShutdownUnderWay at underway
      generalize shared.callers () = caller at stage early underway
      generalize shared.site.conn.state = state at stage
      cases stage <;> simp_all [Caller.hasSent]
    exact .inr (.inl (inv.settle finishing.1 finishing.2 none_waits (by rw [shape]; rfl) empty
      (List.append_nil _).symm (by simp) rfl rfl (by simp) rfl))
  · simp only [ShutdownUnderWay, not_or] at underway
    obtain ⟨not_loaded, not_stored, not_queued⟩ := underway
    exact .inr (.inr
      { down := ⟨rfl, fun _ => not_loaded, by simp, by simp [LoopInstr.source?]⟩
        open_end := inv.open_end
        not_stored := not_stored
        not_queued := by rw [goto_mem_waiting _ _ (by simp)]; exact not_queued
        not_running := by simp })

theorem Open.run (inv : Open stream cell sent shared) {functor : ConnFunctor Unit}
    {rest : BatchQueue (ConnFunctor Unit)} (ready : shared.instr = .ready)
    (item : shared.queue.next? = some (functor, rest)) :
    Open stream cell sent { shared with queue := rest, instr := shared.enter functor } := by
  have waiting := BatchQueue.next?_waiting item
  have tail {other : ConnFunctor Unit} (member : other ∈ rest.waiting) :
      other ∈ shared.queue.waiting := by
    rw [waiting]
    exact List.mem_cons_of_mem _ member
  have head : functor ∈ shared.queue.waiting := by rw [waiting]; exact List.mem_cons_self
  have ordered := inv.ordered
  rw [waiting, List.pairwise_cons] at ordered
  have accounted := inv.accounted
  rw [ready] at accounted
  have taken_from : shared.callingPendingFunctors ≠ false := by
    intro not_calling
    rw [BatchQueue.next?_eq_none.mpr (inv.batch not_calling)] at item
    cases item
  refine
    { inv with
      open_end := inv.open_end
      not_destroyed := fun member => inv.not_destroyed (tail member)
      instr := ?_
      batch := fun not_calling => absurd not_calling taken_from
      queued := fun source member => inv.queued source (tail member)
      carried := ?_
      counted := ?_
      accounted := ?_
      underway := ?_
      early := ?_
      ordered := ordered.2
      last := ?_ }
  · cases functor with
    | connectDestroyed => exact absurd head inv.not_destroyed
    | sendInLoop | shutdownInLoop | callback => rfl
  · cases functor with
    | connectDestroyed => exact absurd head inv.not_destroyed
    | sendInLoop source =>
        intro other carried
        cases carried
        exact .inl (inv.queued source head)
    | shutdownInLoop | callback => simp [enter, LoopInstr.source?]
  · cases functor with
    | connectDestroyed => exact absurd head inv.not_destroyed
    | sendInLoop | shutdownInLoop | callback => simp [enter]
  · cases functor with
    | connectDestroyed => exact absurd head inv.not_destroyed
    | sendInLoop | shutdownInLoop | callback => exact accounted
  · intro has_sent
    rcases inv.underway has_sent with waits | running | entered
    · rw [waiting] at waits
      rcases List.mem_cons.mp waits with first | later
      · exact .inr (.inl (by rw [← first]; rfl))
      · exact .inl later
    · rw [ready] at running
      cases running
    · exact .inr (.inr entered)
  · intro unfinished
    have not_queued := (inv.early unfinished).1
    refine ⟨fun member => not_queued (tail member), ?_⟩
    cases functor with
    | connectDestroyed => exact absurd head inv.not_destroyed
    | shutdownInLoop => exact absurd head not_queued
    | sendInLoop | callback => simp [enter]
  · intro shutdown given
    obtain ⟨source, member⟩ := given
    cases functor with
    | connectDestroyed => exact absurd head inv.not_destroyed
    | shutdownInLoop => exact ordered.1 _ member rfl source rfl
    | sendInLoop | callback => cases shutdown

theorem Open.idle (inv : Open stream cell sent shared) (allowed : shared.OneShutdown label)
    (ready : shared.instr = .ready) {site : Endpoint Ptr} {instr : LoopInstr Unit}
    (entered : IdleTransition shared label site instr) :
    Open stream cell sent (shared.goto site instr) := by
  obtain ⟨added, entry⟩ := entered.entry
  have before := inv.accounted
  rw [LoopInstr.inFlight_of_source (by rw [ready]; rfl), List.append_nil] at before
  refine inv.move (entry.live inv.live) entry.state entry.effects entry.only_local entry.open_end
    ?_ ?_ ?_ ?_ ?_ ?_
  · cases entered with
    | shutdown => exact allowed.elim
    | handleWrite => split <;> rfl
    | _ => rfl
  · cases entered with
    | handleWrite => split <;> simp
    | _ => simp
  · exact fun source carried => .inr (entered.source_own carried)
  · exact fun source progress shape => absurd shape (entered.not_append source progress)
  · have nothing_in_flight : instr.inFlight = [] := by
      cases entered with
      | handleWrite => split <;> rfl
      | _ => rfl
    rw [nothing_in_flight, entry.effects, streamed_append, List.append_nil, List.append_assoc,
      entry.stream]
    exact before
  · exact fun underway => underway.resolve_left (by simp [ready])

theorem Open.write (inv : Open stream cell sent shared) {source : Source Unit}
    (shape : shared.instr = .write source) {answer : WriteAnswer}
    (no_fault : answer.isFault = false) {uses : List (List UInt8 × List UInt8)} :
    Open stream cell sent
      { shared.goto (shared.site.sendInLoopWrite source.held answer).2
          (.append source (shared.site.sendInLoopWrite source.held answer).1) with
        uses := uses } := by
  obtain ⟨added, direct⟩ := sendInLoopWrite_spec shared.site source.held answer
  have before := inv.accounted
  rw [shape, LoopInstr.inFlight] at before
  refine inv.move (direct.steady.live inv.live) direct.steady.state direct.steady.effects
    direct.steady.only_local direct.open_end rfl (by simp) ?_ ?_ ?_ ?_
  · intro other carried
    exact inv.carried other (by rw [shape]; exact carried)
  · intro other progress same
    cases same
    refine ⟨direct.remaining, ?_⟩
    rw [← Bool.not_eq_true]
    exact fun faulted => by simp [direct.fault faulted] at no_fault
  · rw [LoopInstr.inFlight, direct.steady.effects, streamed_append, direct.conn, goto_entered,
      ← before, List.append_assoc, List.append_assoc, ← List.append_assoc (streamed added),
      direct.stream, List.append_assoc]
  · exact fun underway => underway.resolve_left (by simp [shape])

theorem Open.append (inv : Open stream cell sent shared) {source : Source Unit}
    {progress : SendProgress} (shape : shared.instr = .append source progress)
    {uses : List (List UInt8 × List UInt8)} :
    Open stream cell sent
      { shared.goto (shared.site.sendInLoopAppend source.held progress) .ready with
        uses := uses } := by
  obtain ⟨counted, kept⟩ := inv.counted source progress shape
  obtain ⟨added, rest⟩ := sendInLoopAppend_spec shared.site source.held progress counted
  have before := inv.accounted
  rw [shape, LoopInstr.inFlight] at before
  refine inv.move (rest.steady.live inv.live) rest.steady.state rest.steady.effects
    rest.steady.only_local (fun effect member => (rest.quiet effect member).2) rfl (by simp)
    (by simp [LoopInstr.source?]) (by simp) ?_ ?_
  · have silent : streamed added = [] :=
      streamed_eq_nil fun effect member => (rest.quiet effect member).1
    rw [LoopInstr.inFlight_of_source rfl, rest.steady.effects, streamed_append, silent,
      rest.buffered kept, List.append_nil, List.append_nil, ← List.append_assoc]
    exact before
  · exact fun underway => underway.resolve_left (by simp [shape])

theorem Open.enter (inv : Open stream cell sent shared) {source : Source Unit}
    (shape : shared.instr = .sendInLoop source) :
    Open stream cell sent
      { shared.goto shared.site (.write source) with entered := shared.entered ++ [source] } := by
  have before := inv.accounted
  have nothing_in_flight : shared.instr.inFlight = [] := by rw [shape]; rfl
  rw [nothing_in_flight, List.append_nil] at before
  refine inv.move inv.live rfl (List.append_nil _).symm (by simp) (by simp) rfl (by simp) ?_
    (by simp) ?_ ?_
  · intro other carried
    exact inv.carried other (by rw [shape]; exact carried)
  · rw [LoopInstr.inFlight, before, List.flatMap_append, List.append_assoc]
    simp
  · rintro (running | already)
    · rw [shape] at running
      cases running
      simp
    · exact List.mem_append_left _ already

theorem Open.deref (inv : Open stream cell sent shared) {source : Source Unit}
    (carried : shared.instr.source? = some source) (garbage : List UInt8) :
    shared.deref source garbage = source.held := by
  have intact : shared.Intact source := by
    rcases inv.carried source carried with rfl | ⟨bytes, rfl⟩
    · exact ⟨rfl, inv.memory⟩
    · trivial
  exact intact.deref garbage

theorem Open.step (inv : Open stream cell sent shared) (allowed : shared.OrderedStep label)
    (taken : Transition shared label next) : Mode stream cell sent next := by
  have is_open := inv.instr
  cases taken with
  | caller taken => exact .inl (inv.caller_step taken)
  | queueDestroyed => exact absurd allowed.1 inv.not_closed
  | swap ready not_calling =>
      have waiting := BatchQueue.swap_waiting (inv.batch not_calling)
      refine .inl { inv with
        open_end := inv.open_end
        not_destroyed := by rw [waiting]; exact inv.not_destroyed
        batch := by simp
        queued := by rw [waiting]; exact inv.queued
        underway := by rw [waiting]; exact inv.underway
        early := by rw [waiting]; exact inv.early
        ordered := by rw [waiting]; exact inv.ordered
        last := by simp [ready] }
  | runFunctor ready item => exact .inl (inv.run ready item)
  | finish ready done =>
      exact .inl { inv with
        open_end := inv.open_end
        batch := fun _ => done
        last := inv.last }
  | idle ready entered => exact .inl (inv.idle allowed.1 ready entered)
  | giveUp _ down => exact absurd down inv.not_down
  | sendInLoop shape => exact .inl (inv.enter shape)
  | @write source answer garbage data shape read =>
      rw [inv.deref (by rw [shape]; rfl)] at read
      subst read
      exact .inl (inv.write shape (allowed.1 inv.open_end ⟨source, shape⟩))
  | @append source progress answer garbage data shape read =>
      rw [inv.deref (by rw [shape]; rfl)] at read
      subst read
      exact .inl (inv.append shape)
  | shutdownInLoop shape =>
      have closing : shared.site.conn.state = .kDisconnecting := by
        have stage := inv.stage
        have early := inv.early
        generalize shared.site.conn.state = state at stage
        generalize shared.callers () = caller at stage early
        cases stage <;> simp_all
      exact inv.shutdownInLoop closing (inv.last shape) (by rw [shape]; rfl)
  | handleWriteTail shape =>
      by_cases closing : shared.site.conn.state = .kDisconnecting
      · rw [handleWriteTail, if_pos closing]
        exact inv.shutdownInLoop closing (allowed.2.1 shape closing) (by rw [shape]; rfl)
      · rw [handleWriteTail, if_neg closing]
        refine .inl (inv.move inv.live rfl (List.append_nil _).symm (by simp) (by simp) rfl
          (by simp) (by simp [LoopInstr.source?]) (by simp) ?_ ?_)
        · have accounted := inv.accounted
          rwa [LoopInstr.inFlight_of_source (by rw [shape]; rfl)] at accounted
        · exact fun underway => underway.resolve_left (by simp [shape])
  | closeStore shape =>
      rcases shape with ⟨closing, rfl⟩ | ⟨destroying, _⟩
      · exact inv.closeStore closing (allowed.2.2 closing)
      · rw [destroying] at is_open
        cases is_open
  | shutdownStore shape | handleCloseRest shape | destroyDown shape | remove shape =>
      rw [shape] at is_open
      cases is_open

theorem Mode.halfClosesLast (mode : Mode stream cell sent shared) :
    HalfClosesLast stream (.block () cell sent.length sent) shared := by
  rcases mode with inv | done | dead
  · exact halfClosesLast_of_open inv.open_end
  · exact done.closes
  · exact halfClosesLast_of_open dead.open_end

theorem Mode.run
    (run : (machine Ptr Unit).Runs OrderedStep start labels final)
    (initial : Mode stream cell sent start) : Mode stream cell sent final := by
  refine run.invariant _ ?_ initial
  rintro shared label next allowed taken (inv | done | dead)
  · exact inv.step allowed (step_transition taken)
  · exact .inr (.inl (done.step (step_transition taken)))
  · exact .inr (.inr (dead.step (step_transition taken)))

theorem AboutToSend.open (ready : AboutToSend start cell) :
    Open (streamed start.site.effects ++ start.site.conn.outputBuffer.readable) cell
      (start.memory () cell) start where
  live := ready.live
  open_end := ready.open_end
  not_closed := ready.not_closed
  not_destroyed member := by cases ready.callbacks _ member
  instr := by rw [ready.ready]; rfl
  batch := ready.batch
  memory := rfl
  stage := by rw [ready.up, ready.caller]; exact .start
  queued source member := by cases ready.callbacks _ member
  carried source carried := by rw [ready.ready] at carried; cases carried
  counted source progress shape := by rw [ready.ready] at shape; cases shape
  accounted := by simp [ready.ready, ready.entered, LoopInstr.inFlight]
  underway has_sent := by simp [ready.caller, Caller.hasSent] at has_sent
  early _ := by
    refine ⟨fun member => ?_, by simp [ready.ready]⟩
    cases ready.callbacks _ member
  ordered := List.pairwise_of_forall_mem_list fun first member _ _ shutdown => by
    rw [ready.callbacks first member] at shutdown
    cases shutdown
  last shutdown := by simp [ready.ready] at shutdown

/-- A thread calls `send` and then `shutdown` on an established connection,
whatever its buffer holds. In every run in which the half-close waits for the
string, each `shutdownWrite` comes when the kernel has accepted everything that
was pending or sent before, the string included, and no write follows it. -/
theorem send_before_shutdown (start final : SharedConnection Ptr Unit) (cell : Nat)
    (labels : List (SharedLabel Ptr Unit)) (ready : AboutToSend start cell)
    (run : (machine Ptr Unit).Runs OrderedStep start labels final) :
    HalfClosesLast (streamed start.site.effects ++ start.site.conn.outputBuffer.readable)
      (.block () cell (start.memory () cell).length (start.memory () cell)) final :=
  (Mode.run run (.inl ready.open)).halfClosesLast

def smallSite : Endpoint Nat :=
  { freshSite with conn := { freshSite.conn with outputBuffer := Buffer.new 4 } }

/-- An established connection on which one byte is pending, and a thread that
is about to send the byte 7. -/
def withPending : SharedConnection Nat Unit :=
  { established [.send 0, .shutdown] with
    site := smallSite.connectEstablished.send [9] (.accepts 0) }

theorem withPending_aboutToSend : AboutToSend withPending 0 where
  live := by
    obtain ⟨added, steady⟩ := send_steady smallSite.connectEstablished [9] (.accepts 0)
    exact steady.live (connectEstablished_live ⟨rfl, rfl⟩ rfl (Buffer.new_readable 4))
  up := rfl
  open_end := by
    intro given
    obtain ⟨effect, member, closes⟩ := given
    have effects : withPending.site.effects =
        [.connectionCallback true, .write [9] (.accepts 0)] := rfl
    rw [effects, List.mem_cons, List.mem_singleton] at member
    rcases member with rfl | rfl <;> cases closes
  not_closed := by decide
  ready := rfl
  batch _ := rfl
  callbacks := by simp [withPending, established, BatchQueue.empty, BatchQueue.waiting]
  caller := rfl
  entered := rfl

theorem send_before_shutdown_drained : ∃ final,
    (machine Nat Unit).Runs OrderedStep withPending
      [.caller (), .caller (), .caller (), .doPendingFunctors, .runFunctor,
        .proceed (.accepts 0) [], .proceed (.accepts 0) [], .proceed (.accepts 0) [], .finish,
        .caller (), .handleWrite (.accepts 2), .proceed (.accepts 0) []] final ∧
      final.site.effects = withPending.site.effects ++
        [.write [9, 7] (.accepts 2), .shutdownWrite []] ∧
      HalfClosesLast (streamed withPending.site.effects ++
          withPending.site.conn.outputBuffer.readable)
        (.block () 0 (withPending.memory () 0).length (withPending.memory () 0)) final := by
  have run : ∃ final, (machine Nat Unit).Runs OrderedStep withPending
      [.caller (), .caller (), .caller (), .doPendingFunctors, .runFunctor,
        .proceed (.accepts 0) [], .proceed (.accepts 0) [], .proceed (.accepts 0) [], .finish,
        .caller (), .handleWrite (.accepts 2), .proceed (.accepts 0) []] final ∧
      final.site.effects = withPending.site.effects ++
        [.write [9, 7] (.accepts 2), .shutdownWrite []] := by
    refine ⟨_, .cons ⟨trivial, trivial⟩ rfl (.cons ⟨trivial, trivial⟩ rfl
      (.cons ⟨trivial, trivial⟩ rfl (.cons ⟨trivial, trivial⟩ rfl (.cons ⟨trivial, trivial⟩ rfl
      (.cons ⟨fun _ _ => rfl, ?_⟩ rfl (.cons ⟨fun _ _ => rfl, ?_⟩ rfl
      (.cons ⟨fun _ _ => rfl, ?_⟩ rfl (.cons ⟨trivial, trivial⟩ rfl
      (.cons ⟨trivial, trivial⟩ rfl (.cons ⟨trivial, trivial⟩ rfl
      (.cons ⟨fun _ _ => rfl, ?_⟩ rfl .nil))))))))))), rfl⟩
    · constructor <;> (intro shape; cases shape)
    · constructor <;> (intro shape; cases shape)
    · constructor <;> (intro shape; cases shape)
    · constructor
      · rintro _ _ ⟨source, member⟩
        cases member
      · intro shape
        cases shape
  obtain ⟨final, run, effects⟩ := run
  exact ⟨final, run, effects, send_before_shutdown _ final 0 _ withPending_aboutToSend run⟩

/-- The buffer drains while the string is still queued: `handleWrite` finds
`kDisconnecting` and half-closes, and the string is written behind that. -/
theorem written_after_half_close : ∃ final,
    (machine Nat Unit).Runs OneShutdown withPending
      [.caller (), .caller (), .caller (), .caller (), .handleWrite (.accepts 1),
        .proceed (.accepts 0) [], .caller (), .doPendingFunctors, .runFunctor,
        .proceed (.accepts 0) [], .proceed (.accepts 1) []] final ∧
      final.site.effects = withPending.site.effects ++
        [.write [9] (.accepts 1), .shutdownWrite [], .write [7] (.accepts 1)] ∧
      ¬ HalfClosesLast (streamed withPending.site.effects ++
          withPending.site.conn.outputBuffer.readable)
        (.block () 0 (withPending.memory () 0).length (withPending.memory () 0)) final := by
  refine ⟨_, .cons trivial rfl (.cons trivial rfl (.cons trivial rfl (.cons trivial rfl
    (.cons trivial rfl (.cons (fun _ _ => rfl) rfl (.cons trivial rfl (.cons trivial rfl
    (.cons trivial rfl (.cons (fun _ _ => rfl) rfl (.cons (fun _ _ => rfl) rfl
    .nil)))))))))), rfl, ?_⟩
  intro closes
  have quiet := (closes (withPending.site.effects ++ [.write [9] (.accepts 1)]) []
    [.write [7] (.accepts 1)] rfl).2.2 (.write [7] (.accepts 1)) List.mem_cons_self
  cases quiet

end SharedConnection

end TalkSystem.Net
