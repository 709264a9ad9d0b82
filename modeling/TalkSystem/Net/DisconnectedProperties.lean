import TalkSystem.Net.SharedConnectionProperties

/-!
# The store of `kDisconnected`

`state_` stays `kDisconnected` as long as no thread is caught inside `shutdown`
by a close.
-/

set_option autoImplicit false

namespace TalkSystem.Net

open Endpoint

namespace SharedConnection

variable {Ptr Thread : Type} {shared next start middle final : SharedConnection Ptr Thread}
  {label : SharedLabel Ptr Thread} {labels : List (SharedLabel Ptr Thread)}

def InSendInLoop (shared : SharedConnection Ptr Thread) : Prop :=
  shared.instr.source?.isSome = true

/-- `kDisconnected` is stored, by `handleClose` or `connectDestroyed`, only
while no other thread is between the load and the store of `shutdown`. -/
def ClosesOutsideShutdown (shared : SharedConnection Ptr Thread) : SharedLabel Ptr Thread → Prop
  | .proceed _ _ => shared.instr = .handleCloseStore ∨ shared.instr = .destroyStore →
      ∀ thread, (shared.callers thread).pc ≠ .shutdownLoaded
  | _ => True

/-- Disconnected, and nobody has loaded an earlier state that lets it go on. -/
structure DownForGood (shared : SharedConnection Ptr Thread) : Prop where
  state : shared.site.conn.state = .kDisconnected
  callers : ∀ thread, (shared.callers thread).pc ≠ .shutdownLoaded
  storing : shared.instr ≠ .shutdownStore
  sending : ∀ source, shared.instr.source? = some source → shared.instr = .sendInLoop source

theorem DownForGood.not_writing (down : DownForGood shared) (source : Source Thread) :
    shared.instr ≠ .write source := by
  intro shape
  have sending := down.sending source (by rw [shape]; rfl)
  rw [shape] at sending
  cases sending

theorem DownForGood.not_appending (down : DownForGood shared) (source : Source Thread)
    (progress : SendProgress) : shared.instr ≠ .append source progress := by
  intro shape
  have sending := down.sending source (by rw [shape]; rfl)
  rw [shape] at sending
  cases sending

theorem DownForGood.caller [DecidableEq Thread] (down : DownForGood shared) {thread : Thread}
    (taken : CallerTransition shared thread next) : DownForGood next := by
  have not_up : shared.site.conn.state ≠ .kConnected := by simp [down.state]
  have settled {pc : CallerPc} {todo : List Call} (elsewhere : pc ≠ .shutdownLoaded) (other) :
      (Function.update shared.callers thread ⟨pc, todo⟩ other).pc ≠ .shutdownLoaded := by
    by_cases same : other = thread
    · subst same; simpa using elsewhere
    · rw [Function.update_of_ne same]; exact down.callers other
  cases taken with
  | loadSend _ up | loadShutdown _ up => exact absurd up not_up
  | storeShutdown pc => exact absurd (congrArg Caller.pc pc) (down.callers thread)
  | notConnected | changeCell | queueSend | queueShutdown =>
      exact ⟨down.state, settled (by simp), down.storing, down.sending⟩

theorem DownForGood.goto (down : DownForGood shared) {site : Endpoint Ptr}
    {instr : LoopInstr Thread} (state : site.conn.state = shared.site.conn.state)
    (storing : instr ≠ .shutdownStore)
    (sending : ∀ source, instr.source? = some source → instr = .sendInLoop source) :
    DownForGood (shared.goto site instr) :=
  ⟨state.trans down.state, down.callers, storing, sending⟩

theorem DownForGood.idle (down : DownForGood shared) {site : Endpoint Ptr}
    {instr : LoopInstr Thread} (entered : IdleTransition shared label site instr) :
    DownForGood (shared.goto site instr) := by
  have not_up : shared.site.conn.state ≠ .kConnected := by simp [down.state]
  obtain ⟨added, entry⟩ := entered.entry
  refine down.goto entry.state ?_ ?_
  · cases entered with
    | shutdown up => exact absurd up not_up
    | handleWrite => split <;> simp
    | _ => simp
  · intro source carried
    cases entered with
    | send up => exact absurd up not_up
    | handleWrite => split at carried <;> cases carried
    | _ => cases carried

theorem DownForGood.run (down : DownForGood shared) {functor : ConnFunctor Thread}
    {rest : BatchQueue (ConnFunctor Thread)} :
    DownForGood { shared with queue := rest, instr := shared.enter functor } := by
  have not_up : shared.site.conn.state ≠ .kConnected := by simp [down.state]
  refine ⟨down.state, down.callers, ?_, ?_⟩
  · cases functor <;> simp [enter, not_up]
  · intro source carried
    cases functor <;> simp_all [enter, LoopInstr.source?]

theorem DownForGood.step [DecidableEq Thread] (down : DownForGood shared)
    (taken : Transition shared label next) : DownForGood next := by
  cases taken with
  | caller taken => exact down.caller taken
  | queueDestroyed | swap | finish =>
      exact ⟨down.state, down.callers, down.storing, down.sending⟩
  | runFunctor => exact down.run
  | idle ready entered => exact down.idle entered
  | giveUp => exact down.goto rfl (by simp) (by simp [LoopInstr.source?])
  | sendInLoop _ up => exact absurd down.state up
  | write shape => exact absurd shape (down.not_writing _)
  | append shape => exact absurd shape (down.not_appending _ _)
  | shutdownStore shape => exact absurd shape down.storing
  | shutdownInLoop =>
      exact down.goto (by rw [shutdownInLoop_conn]) (by simp)
        (by simp [LoopInstr.source?])
  | handleWriteTail =>
      obtain ⟨added, steady⟩ :=
        handleWriteTail_steady shared.site shared.site.conn.state
      exact down.goto steady.state (by simp) (by simp [LoopInstr.source?])
  | closeStore shape =>
      have same : (shared.site.setState .kDisconnected).conn.state = shared.site.conn.state :=
        down.state.symm
      rcases shape with ⟨_, rfl⟩ | ⟨_, rfl⟩ <;>
        exact down.goto same (by simp) (by simp [LoopInstr.source?])
  | handleCloseRest | destroyDown | remove =>
      exact down.goto rfl (by simp) (by simp [LoopInstr.source?])

theorem DownForGood.proceed (down : DownForGood shared) (inside : shared.InSendInLoop)
    {answer : WriteAnswer} {garbage : List UInt8}
    (taken : shared.proceed answer garbage = some next) : next.site = shared.site := by
  obtain ⟨source, carried⟩ := Option.isSome_iff_exists.mp inside
  have shape := down.sending source carried
  simp only [SharedConnection.proceed, shape, down.state, if_true, Option.some.injEq] at taken
  rw [← taken, goto_site]

/-- The first store of `kDisconnected` is for good, if it happens outside of
every `shutdown`. -/
theorem down_for_good [DecidableEq Thread] (open_start : start.site.conn.state ≠ .kDisconnected)
    (run : (machine Ptr Thread).Runs ClosesOutsideShutdown start labels final) :
    final.site.conn.state = .kDisconnected → DownForGood final := by
  refine run.invariant
    (fun shared => shared.site.conn.state = .kDisconnected → DownForGood shared) ?_
    fun down => absurd down open_start
  intro shared label next allowed taken inv down
  by_cases before : shared.site.conn.state = .kDisconnected
  · exact (inv before).step (step_transition taken)
  · -- Only the two stores lead into the state.
    cases step_transition taken with
    | @closeStore _ _ rest shape =>
        have outside := allowed (shape.imp And.left And.left)
        rcases shape with ⟨_, rfl⟩ | ⟨_, rfl⟩ <;>
          exact ⟨rfl, outside, by simp, by simp [LoopInstr.source?]⟩
    | caller taken =>
        cases taken with
        | storeShutdown => cases down
        | _ => exact absurd down before
    | idle ready entered =>
        obtain ⟨added, entry⟩ := entered.entry
        exact absurd (entry.state.symm.trans down) before
    | write =>
        rename_i source answer garbage data shape read
        obtain ⟨added, direct⟩ := sendInLoopWrite_spec shared.site data answer
        exact absurd (direct.steady.state.symm.trans down) before
    | append =>
        rw [goto_site, sendInLoopAppend_state] at down
        exact absurd down before
    | shutdownStore => cases down
    | shutdownInLoop =>
        rw [goto_site, shutdownInLoop_conn] at down
        exact absurd down before
    | handleWriteTail =>
        obtain ⟨added, steady⟩ :=
          handleWriteTail_steady shared.site shared.site.conn.state
        exact absurd (steady.state.symm.trans down) before
    | _ => exact absurd down before

/-- In every run in which `kDisconnected` is stored only outside of every
`shutdown`, the state stays `kDisconnected` from the first such store on, and
no `sendInLoop` writes, buffers or touches the poller any more. -/
theorem disconnected_is_final [DecidableEq Thread]
    (start middle final : SharedConnection Ptr Thread)
    (before after : List (SharedLabel Ptr Thread))
    (open_start : start.site.conn.state ≠ .kDisconnected)
    (first : (machine Ptr Thread).Runs ClosesOutsideShutdown start before middle)
    (down : middle.site.conn.state = .kDisconnected)
    (second : (machine Ptr Thread).Runs ClosesOutsideShutdown middle after final) :
    final.site.conn.state = .kDisconnected ∧
      ∀ answer garbage next, final.InSendInLoop →
        (machine Ptr Thread).step final (.proceed answer garbage) = some next →
        next.site = final.site := by
  have settled : DownForGood final :=
    second.invariant DownForGood
      (fun _ _ _ _ taken inv => inv.step (step_transition taken))
      (down_for_good open_start first down)
  exact ⟨settled.state, fun answer garbage next inside taken => settled.proceed inside taken⟩

theorem disconnected_is_final_after_shutdown : ∃ middle final,
    (machine Nat Unit).Runs ClosesOutsideShutdown (established [.send 0, .shutdown])
      [.caller (), .caller (), .caller (), .caller (), .handleClose, .proceed (.accepts 0) []]
      middle ∧
      middle.site.conn.state = .kDisconnected ∧
      (machine Nat Unit).Runs ClosesOutsideShutdown middle
        [.proceed (.accepts 0) [], .caller (), .doPendingFunctors, .runFunctor] final ∧
      final.InSendInLoop ∧ final.site.conn.state = .kDisconnected ∧
      ∀ answer garbage next, final.InSendInLoop →
        (machine Nat Unit).step final (.proceed answer garbage) = some next →
        next.site = final.site := by
  have runs : ∃ middle final,
      (machine Nat Unit).Runs ClosesOutsideShutdown (established [.send 0, .shutdown])
        [.caller (), .caller (), .caller (), .caller (), .handleClose,
          .proceed (.accepts 0) []] middle ∧
        middle.site.conn.state = .kDisconnected ∧
        (machine Nat Unit).Runs ClosesOutsideShutdown middle
          [.proceed (.accepts 0) [], .caller (), .doPendingFunctors, .runFunctor] final ∧
        final.InSendInLoop := by
    refine ⟨_, _, .cons trivial rfl (.cons trivial rfl (.cons trivial rfl (.cons trivial rfl
      (.cons trivial rfl (.cons ?_ rfl .nil))))), rfl,
      .cons ?_ rfl (.cons trivial rfl (.cons trivial rfl (.cons trivial rfl .nil))), rfl⟩
    · intro _ thread
      exact CallerPc.noConfusion
    · rintro (closing | destroying)
      · cases closing
      · cases destroying
  obtain ⟨middle, final, first, down, second, inside⟩ := runs
  exact ⟨middle, final, first, down, second, inside,
    disconnected_is_final _ middle final _ _ (by decide) first down second⟩

/-- `handleClose` catches another thread behind the load of `shutdown`: the
state goes back to `kDisconnecting`, and the queued `sendInLoop` writes to the
socket and registers the closed channel for `EPOLLOUT`. -/
theorem disconnected_is_left : ∃ middle final,
    (machine Nat Unit).Runs Machine.anyStep (established [.send 0, .shutdown])
      [.caller (), .caller (), .caller (), .handleClose, .proceed (.accepts 0) [],
        .proceed (.accepts 0) []] middle ∧
      middle.site.conn.state = .kDisconnected ∧ middle.site.poller.interest 5 = none ∧
      (machine Nat Unit).Runs Machine.anyStep middle
        [.caller (), .doPendingFunctors, .runFunctor, .proceed (.accepts 0) [],
          .proceed (.accepts 0) [], .proceed (.accepts 0) []] final ∧
      final.site.conn.state = .kDisconnecting ∧
      final.site.effects = middle.site.effects ++ [.write [7] (.accepts 0)] ∧
      final.site.poller.interest 5 = some (kWriteEvent, 0) :=
  ⟨_, _, .cons trivial rfl (.cons trivial rfl (.cons trivial rfl (.cons trivial rfl
    (.cons trivial rfl (.cons trivial rfl .nil))))), rfl, rfl,
    .cons trivial rfl (.cons trivial rfl (.cons trivial rfl (.cons trivial rfl
      (.cons trivial rfl (.cons trivial rfl .nil))))), rfl, rfl, rfl⟩

end SharedConnection

end TalkSystem.Net
