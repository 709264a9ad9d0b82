import TalkSystem.Net.EventLoopProperties
import TalkSystem.Net.EventLoopThread

/-!
# Quit requests

`loop()` stores `false` in `quit_` when it is entered, and the loop is published
before that. A request made in between is erased; a request made afterwards
stays until `loop()` has returned.
-/

set_option autoImplicit false

namespace TalkSystem.Net

namespace EventLoop

variable {Functor Thread : Type} {body : Functor → List (LoopCall Functor)}
  {loop next : EventLoop Functor Thread} {label : LoopLabel Functor Thread}

@[simp] theorem wakeup_quit : loop.wakeup.quit = loop.quit := by
  unfold wakeup; split <;> rfl

theorem CallTransition.phase (taken : CallTransition body loop next) :
    next.phase = loop.phase := by
  cases taken <;> simp [emplaceBack]

theorem CallTransition.quit_kept (taken : CallTransition body loop next)
    (requested : loop.quit = true) : next.quit = true := by
  cases taken <;> simp [emplaceBack, requested]

theorem CallTransition.quit_stored (taken : CallTransition body loop next) :
    next.quit = loop.quit ∨ ∃ rest, loop.calls = .quit :: rest := by
  cases taken with
  | quit shape => exact .inr ⟨_, shape⟩
  | queueInLoop | runInLoop | wakeup | noWakeup => exact .inl (by simp [emplaceBack])

variable [DecidableEq Thread]

theorem Transition.quit_stored (taken : Transition body loop label next)
    (requested : next.quit = true) :
    loop.quit = true ∨ (∃ thread, label = .quit thread) ∨
      (label = .call ∧ ∃ rest, loop.calls = .quit :: rest) := by
  cases taken with
  | enter => cases requested
  | call _ moved =>
      obtain same | stored := moved.quit_stored
      · exact .inl (same ▸ requested)
      · exact .inr (.inr ⟨rfl, stored⟩)
  | test | pollReturns | handleRead | handleEvent | doPendingFunctors | swap | runFunctor
  | finish | emplace => exact .inl requested
  | quit => exact .inr (.inl ⟨_, rfl⟩)
  | wakeup => exact .inl (by simpa [setCaller] using requested)

/-- Only the store at the entry of `loop()` takes a request back. -/
theorem Transition.quit_kept (taken : Transition body loop label next)
    (entered : loop.phase ≠ .starting) (requested : loop.quit = true) : next.quit = true := by
  cases taken with
  | enter phase => exact absurd phase entered
  | call _ moved => exact moved.quit_kept requested
  | test | pollReturns | handleRead | handleEvent | doPendingFunctors | swap | runFunctor
  | finish | emplace => exact requested
  | quit => rfl
  | wakeup => simpa [setCaller] using requested

theorem Transition.starting (taken : Transition body loop label next)
    (outside : next.phase = .starting) : loop.phase = .starting := by
  cases taken with
  | enter | pollReturns | handleRead | doPendingFunctors | swap | finish => simp at outside
  | test =>
      dsimp only at outside
      split at outside <;> simp at outside
  | call _ moved => exact moved.phase ▸ outside
  | handleEvent | runFunctor | emplace | quit => exact outside
  | wakeup => simpa [setCaller] using outside

theorem Transition.stopped (taken : Transition body loop label next)
    (returned : loop.phase = .stopped) : next.phase = .stopped := by
  cases taken with
  | enter phase | test phase | pollReturns phase | handleRead phase | handleEvent phase
  | doPendingFunctors phase | swap phase | runFunctor phase | finish phase =>
      simp [returned] at phase
  | call phase => simp [returned] at phase
  | emplace | quit => exact returned
  | wakeup => simpa [setCaller] using returned

end EventLoop

namespace EventLoopThread

variable {Functor Thread : Type}
  {body : Functor → List (LoopCall Functor)} {callback : List (LoopCall Functor)}
  {owner : Thread} {state next final : EventLoopThread Functor Thread}
  {label : EventLoopThreadLabel Functor Thread}
  {labels : List (EventLoopThreadLabel Functor Thread)}

/-! ## Who can use the loop -/

/-- Nobody but the new thread uses the loop before it is published, and the
owner reaches its destructor only with a loop that has been published. -/
structure Published (state : EventLoopThread Functor Thread) : Prop where
  looping : state.published = true ↔ state.thread = .looping
  fresh : state.thread = .notStarted ∨ state.thread = .constructing →
    state.loop = EventLoop.init
  callback : state.thread = .inCallback → state.loop.phase = .starting
  unstarted : state.owner = .constructed → state.thread = .notStarted
  served : state.owner ∈ [.running, .quitting, .waking, .joining] →
    state.thread = .looping ∨ state.thread = .ended
  ended : state.thread = .ended → state.loop.phase = .stopped

theorem published_init : Published (init : EventLoopThread Functor Thread) := by
  constructor <;> simp [init]

theorem Published.started (inv : Published state) (begun : state.thread ≠ .notStarted) :
    state.owner ≠ .constructed :=
  fun unstarted => begun (inv.unstarted unstarted)

theorem Published.unpublished (inv : Published state) (outside : state.thread ≠ .looping) :
    state.published = false := by
  cases published : state.published with
  | false => rfl
  | true => exact absurd (inv.looping.mp published) outside

/-- While the new thread has not published its loop, the owner cannot be past
`startLoop`. -/
theorem Published.unserved (inv : Published state) (outside : state.thread ≠ .looping)
    (before : state.thread ≠ .ended) :
    state.owner ∉ [.running, .quitting, .waking, .joining] := by
  intro member
  rcases inv.served member with looping | ended
  · exact outside looping
  · exact before ended

/-- A step that leaves the flag and both program counters alone and that keeps
a stopped loop stopped. -/
theorem Published.withLoop (inv : Published state) {loop : EventLoop Functor Thread}
    (live : state.thread = .looping ∨ state.thread = .ended)
    (stopped : state.loop.phase = .stopped → loop.phase = .stopped) :
    Published { state with loop := loop } where
  looping := inv.looping
  fresh early := by rcases live with live | live <;> simp [live] at early
  callback early := by rcases live with live | live <;> simp [live] at early
  unstarted := inv.unstarted
  served := inv.served
  ended finished := stopped (inv.ended finished)

theorem Published.withOwner (inv : Published state) {phase : OwnerPhase}
    (started : phase ≠ .constructed)
    (served : phase ∈ [.running, .quitting, .waking, .joining] →
      state.thread = .looping ∨ state.thread = .ended) :
    Published { state with owner := phase } :=
  ⟨inv.looping, inv.fresh, inv.callback, fun same => absurd same started, served, inv.ended⟩

theorem Published.testLoop (inv : Published state) : Published state.testLoop := by
  refine inv.withOwner ?_ ?_
  · split <;> simp
  · intro member
    cases published : state.published with
    | true => exact .inl (inv.looping.mp published)
    | false => simp [published] at member

variable [DecidableEq Thread]

inductive Transition (body : Functor → List (LoopCall Functor))
    (callback : List (LoopCall Functor)) (owner : Thread) :
    EventLoopThread Functor Thread → EventLoopThreadLabel Functor Thread →
      EventLoopThread Functor Thread → Prop where
  | start {state : EventLoopThread Functor Thread} : state.owner = .constructed →
      Transition body callback owner state .start
        { state with owner := .started, thread := .constructing }
  | lock {state : EventLoopThread Functor Thread} : state.owner = .started →
      Transition body callback owner state .lock state.testLoop
  | wake {state : EventLoopThread Functor Thread} : state.owner = .waiting →
      Transition body callback owner state .wake state.testLoop
  | construct {state : EventLoopThread Functor Thread} : state.thread = .constructing →
      Transition body callback owner state .construct
        { state with loop := { EventLoop.init with calls := callback }, thread := .inCallback }
  | callback {state : EventLoopThread Functor Thread} {loop : EventLoop Functor Thread} :
      state.thread = .inCallback → EventLoop.CallTransition body state.loop loop →
      Transition body callback owner state .callback { state with loop := loop }
  | publish {state : EventLoopThread Functor Thread} : state.thread = .inCallback →
      state.loop.calls = [] →
      Transition body callback owner state .publish
        { state with published := true, thread := .looping }
  | loop {state : EventLoopThread Functor Thread} {label : LoopLabel Functor Thread}
      {loop : EventLoop Functor Thread} : state.allows owner label = true →
      EventLoop.Transition body state.loop label loop →
      Transition body callback owner state (.loop label) { state with loop := loop }
  | clear {state : EventLoopThread Functor Thread} : state.thread = .looping →
      state.loop.phase = .stopped →
      Transition body callback owner state .clear
        { state with published := false, thread := .ended }
  | destroy {state : EventLoopThread Functor Thread} : state.owner = .running →
      state.loop.callers owner = .idle →
      Transition body callback owner state .destroy
        { state with owner := if state.published then .quitting else .destroyed }
  | quit {state : EventLoopThread Functor Thread} {loop : EventLoop Functor Thread} :
      state.owner = .quitting → EventLoop.Transition body state.loop (.quit owner) loop →
      Transition body callback owner state .quit { state with loop := loop, owner := .waking }
  | wakeup {state : EventLoopThread Functor Thread} {loop : EventLoop Functor Thread} :
      state.owner = .waking → EventLoop.Transition body state.loop (.wakeup owner) loop →
      Transition body callback owner state .wakeup
        { state with loop := loop, owner := .joining }
  | join {state : EventLoopThread Functor Thread} : state.owner = .joining →
      state.thread = .ended →
      Transition body callback owner state .join { state with owner := .destroyed }

theorem step_transition (taken : (machine body callback owner).step state label = some next) :
    Transition body callback owner state label next := by
  simp only [machine, step] at taken
  split at taken
  case h_1 phase => cases taken; exact .start phase
  case h_2 phase => cases taken; exact .lock phase
  case h_3 phase => cases taken; exact .wake phase
  case h_4 _ phase => cases taken; exact .construct phase
  case h_5 _ phase =>
    obtain ⟨loop, called, same⟩ := Option.map_eq_some_iff.mp taken
    cases same
    exact .callback phase (EventLoop.callStep_transition called)
  case h_6 _ phase =>
    split at taken
    · next done => cases taken; exact .publish phase done
    · cases taken
  case h_7 =>
    split at taken
    · next allowed =>
        obtain ⟨loop, moved, same⟩ := Option.map_eq_some_iff.mp taken
        cases same
        exact .loop allowed (EventLoop.step_transition moved)
    · cases taken
  case h_8 _ phase =>
    split at taken
    · next returned => cases taken; exact .clear phase returned
    · cases taken
  case h_9 phase =>
    split at taken
    · next idle => cases taken; exact .destroy phase idle
    · cases taken
  case h_10 phase =>
    obtain ⟨loop, moved, same⟩ := Option.map_eq_some_iff.mp taken
    cases same
    exact .quit phase (EventLoop.step_transition moved)
  case h_11 phase =>
    obtain ⟨loop, moved, same⟩ := Option.map_eq_some_iff.mp taken
    cases same
    exact .wakeup phase (EventLoop.step_transition moved)
  case h_12 owner_phase thread_phase => cases taken; exact .join owner_phase thread_phase
  case h_13 => cases taken

theorem Published.live (inv : Published state) {label : LoopLabel Functor Thread}
    (allowed : state.allows owner label = true) : state.thread = .looping := by
  unfold allows at allowed
  split at allowed
  · simpa using allowed
  · simp only [Bool.and_eq_true] at allowed
    exact inv.looping.mp allowed.1

theorem Published.step (inv : Published state)
    (taken : Transition body callback owner state label next) : Published next := by
  cases taken with
  | start phase =>
      have unstarted := inv.unstarted phase
      have unpublished := inv.unpublished (by simp [unstarted])
      exact ⟨by simp [unpublished], fun _ => inv.fresh (.inl unstarted), by simp, by simp,
        by simp, by simp⟩
  | lock | wake => exact inv.testLoop
  | construct phase =>
      have unpublished := inv.unpublished (by simp [phase])
      have unserved := inv.unserved (by simp [phase]) (by simp [phase])
      have started := inv.started (by simp [phase])
      exact ⟨by simp [unpublished], by simp, fun _ => rfl,
        fun unstarted => absurd unstarted started, fun member => absurd member unserved, by simp⟩
  | callback phase moved =>
      have unpublished := inv.unpublished (by simp [phase])
      have unserved := inv.unserved (by simp [phase]) (by simp [phase])
      exact ⟨by simp [unpublished, phase], by simp [phase],
        fun _ => moved.phase.trans (inv.callback phase), inv.unstarted,
        fun member => absurd member unserved, by simp [phase]⟩
  | publish phase done =>
      have started := inv.started (by simp [phase])
      exact ⟨by simp, by simp, by simp, fun unstarted => absurd unstarted started,
        fun _ => .inl rfl, by simp⟩
  | loop allowed moved => exact inv.withLoop (.inl (inv.live allowed)) moved.stopped
  | clear phase returned =>
      have started := inv.started (by simp [phase])
      exact ⟨by simp, by simp, by simp, fun unstarted => absurd unstarted started,
        fun _ => .inr rfl, fun _ => returned⟩
  | destroy phase idle =>
      refine inv.withOwner (by split <;> simp) fun _ => inv.served (by simp [phase])
  | quit phase moved | wakeup phase moved =>
      have live := inv.served (by simp [phase])
      exact (inv.withLoop live moved.stopped).withOwner (by simp) fun _ => live
  | join phase finished => exact inv.withOwner (by simp) (by simp)

theorem published_run {guard : EventLoopThread Functor Thread →
      EventLoopThreadLabel Functor Thread → Prop}
    (run : (machine body callback owner).Runs guard init labels final) : Published final :=
  run.invariant Published (fun _ _ _ _ taken inv => inv.step (step_transition taken))
    published_init

/-! ## Requests to quit -/

/-- The steps that store `true` in `quit_`. -/
def StoresQuit (state : EventLoopThread Functor Thread) :
    EventLoopThreadLabel Functor Thread → Prop
  | .quit | .loop (.quit _) => True
  | .callback | .loop .call => ∃ rest, state.loop.calls = .quit :: rest
  | _ => False

/-- No request is made before `loop()` has stored `false` in `quit_`. -/
def QuitAfterEntry (state : EventLoopThread Functor Thread)
    (label : EventLoopThreadLabel Functor Thread) : Prop :=
  StoresQuit state label → state.loop.phase ≠ .starting

structure RequestInv (state : EventLoopThread Functor Thread) : Prop where
  published : Published state
  entered : state.loop.quit = true → state.loop.phase ≠ .starting
  requested : state.owner = .waking ∨ state.owner = .joining → state.loop.quit = true

theorem RequestInv.keeps_request (inv : RequestInv state)
    (taken : Transition body callback owner state label next)
    (requested : state.loop.quit = true) : next.loop.quit = true := by
  cases taken with
  | construct phase =>
      rw [inv.published.fresh (.inr phase)] at requested
      cases requested
  | callback _ moved => exact moved.quit_kept requested
  | loop _ moved | quit _ moved | wakeup _ moved =>
      exact moved.quit_kept (inv.entered requested) requested
  | start | lock | wake | publish | clear | destroy | join => exact requested

/-- Under the guard a request that a step leaves behind finds `loop()` entered. -/
theorem RequestInv.enters (inv : RequestInv state) (allowed : QuitAfterEntry state label)
    (taken : Transition body callback owner state label next)
    (requested : next.loop.quit = true) : next.loop.phase ≠ .starting := by
  intro outside
  cases taken with
  | construct => cases requested
  | callback _ moved =>
      have before : state.loop.phase = .starting := moved.phase ▸ outside
      obtain same | stored := moved.quit_stored
      · exact inv.entered (same ▸ requested) before
      · exact allowed stored before
  | loop _ moved =>
      have before := moved.starting outside
      obtain old | ⟨thread, rfl⟩ | ⟨rfl, stored⟩ := moved.quit_stored requested
      · exact inv.entered old before
      · exact allowed trivial before
      · exact allowed stored before
  | quit _ moved => exact allowed trivial (moved.starting outside)
  | wakeup phase moved =>
      exact inv.entered (inv.requested (.inl phase)) (moved.starting outside)
  | start | lock | wake | publish | clear | destroy | join => exact inv.entered requested outside

theorem RequestInv.step (inv : RequestInv state) (allowed : QuitAfterEntry state label)
    (taken : Transition body callback owner state label next) : RequestInv next := by
  refine ⟨inv.published.step taken, inv.enters allowed taken, fun phase => ?_⟩
  cases taken with
  | quit _ moved => cases moved; rfl
  | wakeup before moved =>
      have requested := inv.requested (.inl before)
      exact moved.quit_kept (inv.entered requested) requested
  | construct before =>
      have unserved := inv.published.unserved (by simp [before]) (by simp [before])
      rcases phase with waking | joining
      · simp [show state.owner = .waking from waking] at unserved
      · simp [show state.owner = .joining from joining] at unserved
  | callback _ moved => exact moved.quit_kept (inv.requested phase)
  | loop _ moved =>
      have requested := inv.requested phase
      exact moved.quit_kept (inv.entered requested) requested
  | publish | clear => exact inv.requested phase
  | lock before | wake before | destroy before =>
      revert phase
      simp only [testLoop]
      split <;> simp
  | start | join => simp at phase

theorem requestInv_run (run : (machine body callback owner).Runs QuitAfterEntry init labels final) :
    RequestInv final :=
  run.invariant RequestInv (fun _ _ _ allowed taken inv => inv.step allowed (step_transition taken))
    ⟨published_init, by simp [init, EventLoop.init], by simp [init]⟩

/-- A quit request is not erased: if every request is made after `loop()` has
stored `false` in `quit_`, then `quit_` stays true from the first request on,
and a join waits only for a loop whose `quit_` is true. -/
theorem quit_request_survives (body : Functor → List (LoopCall Functor))
    (callback : List (LoopCall Functor)) (owner : Thread)
    (labels : List (EventLoopThreadLabel Functor Thread))
    (state : EventLoopThread Functor Thread)
    (run : (machine body callback owner).Runs QuitAfterEntry init labels state) :
    (state.loop.quit = true → ∀ rest later,
        (machine body callback owner).Runs QuitAfterEntry state rest later →
        later.loop.quit = true) ∧
      (state.owner = .joining → state.loop.quit = true) := by
  have inv := requestInv_run run
  refine ⟨fun requested rest later continued => ?_, fun joining => inv.requested (.inr joining)⟩
  obtain ⟨_, kept⟩ := continued.invariant
    (fun state => RequestInv state ∧ state.loop.quit = true)
    (fun _ _ _ allowed taken holds =>
      ⟨holds.1.step allowed (step_transition taken),
        holds.1.keeps_request (step_transition taken) holds.2⟩)
    ⟨inv, requested⟩
  exact kept

theorem quit_request_survives_poll : ∃ state later : EventLoopThread Nat Nat,
    (machine (fun _ => []) [] 0).Runs QuitAfterEntry init
      [.start, .lock, .construct, .publish, .wake, .loop .enter, .destroy, .quit] state ∧
      (machine (fun _ => []) [] 0).Runs QuitAfterEntry state [.loop .test, .wakeup] later ∧
      later.owner = .joining ∧ later.loop.quit = true := by
  have run : (machine (fun _ => []) [] 0).Runs QuitAfterEntry
      (init : EventLoopThread Nat Nat)
      [.start, .lock, .construct, .publish, .wake, .loop .enter, .destroy, .quit] _ :=
    .cons nofun rfl <| .cons nofun rfl <| .cons nofun rfl <| .cons nofun rfl <|
      .cons nofun rfl <| .cons nofun rfl <| .cons nofun rfl <| .cons (fun _ => by decide) rfl .nil
  have survives := (quit_request_survives _ _ _ _ _ run).1 rfl [.loop .test, .wakeup]
  exact ⟨_, _, run, .cons nofun rfl <| .cons nofun rfl .nil, rfl,
    survives _ (.cons nofun rfl <| .cons nofun rfl .nil)⟩

/-- The destructor's request falls between the publication of the loop and the
store at the entry of `loop()`: the loop polls on and the owner joins it. -/
theorem quit_request_erased : ∃ requested joined : EventLoopThread Nat Nat,
    (machine (fun _ => []) [] 0).Runs Machine.anyStep init
      [.start, .construct, .publish, .lock, .destroy, .quit] requested ∧
      requested.loop.quit = true ∧
      (machine (fun _ => []) [] 0).Runs Machine.anyStep requested
        [.wakeup, .loop .enter, .loop .test] joined ∧
      joined.owner = .joining ∧ joined.loop.phase = .polling ∧ joined.loop.quit = false := by
  have run : (machine (fun _ => []) [] 0).Runs Machine.anyStep
      (init : EventLoopThread Nat Nat)
      [.start, .construct, .publish, .lock, .destroy, .quit] _ :=
    .cons trivial rfl <| .cons trivial rfl <| .cons trivial rfl <| .cons trivial rfl <|
      .cons trivial rfl <| .cons trivial rfl .nil
  exact ⟨_, _, run, rfl, .cons trivial rfl <| .cons trivial rfl <| .cons trivial rfl .nil,
    rfl, rfl, rfl⟩

end EventLoopThread

end TalkSystem.Net
