import TalkSystem.Net.OutputStreamProperties

/-!
# Up and down notifications

The connection callback is invoked from three places: `connectEstablished`,
`handleClose`, and `connectDestroyed` for a connection that is still
`kConnected`. What user code sees of a run is summarised by `Phase`; the runs
that deliver one up and one down notification are characterised exactly.
-/

set_option autoImplicit false

namespace TalkSystem.Net

open Endpoint

variable {Ptr : Type}

/-- What `connected()` answered at each invocation of the connection callback. -/
def notifications (effects : List Effect) : List Bool := effects.filterMap Effect.connectionUp?

def ConnectionOp.closes : ConnectionOp Ptr → Bool
  | .handleClose => true
  | .handleRead (.yields []) => true
  | _ => false

def ConnectionOp.isShutdown : ConnectionOp Ptr → Bool
  | .shutdown => true
  | _ => false

/-- The operations between `connectEstablished` and the final `connectDestroyed`. -/
def ConnectionOp.MiddleStep (_ : Endpoint Ptr) : ConnectionOp Ptr → Prop
  | .connectEstablished | .connectDestroyed => False
  | _ => True

structure Phase where
  state : StateE
  notified : List Bool
  deriving DecidableEq

def Endpoint.phase (site : Endpoint Ptr) : Phase := ⟨site.conn.state, notifications site.effects⟩

def Phase.next (phase : Phase) (operation : ConnectionOp Ptr) : Phase :=
  if operation.closes then
    ⟨.kDisconnected, phase.notified ++ [false]⟩
  else if operation.isShutdown && phase.state == .kConnected then
    { phase with state := .kDisconnecting }
  else
    phase

theorem Endpoint.Steady.phase {site next : Endpoint Ptr} {added : List Effect}
    (steady : Steady site next added) : next.phase = site.phase := by
  have silent : notifications added = [] := by
    simp only [notifications, List.filterMap_eq_nil_iff]
    intro effect member
    have isLocal := steady.only_local effect member
    cases effect <;> simp_all [Effect.isLocal, Effect.connectionUp?]
  have split : notifications next.effects = notifications site.effects := by
    rw [steady.effects, notifications, List.filterMap_append]
    change notifications site.effects ++ notifications added = _
    rw [silent, List.append_nil]
  rw [Endpoint.phase, steady.state, split]
  rfl

theorem handleClose_phase (site : Endpoint Ptr) :
    site.handleClose.phase = ⟨.kDisconnected, site.phase.notified ++ [false]⟩ := by
  simp [Endpoint.phase, notifications, Effect.connectionUp?]

theorem phase_step (site : Endpoint Ptr) (operation : ConnectionOp Ptr)
    (allowed : operation.MiddleStep site) :
    (operation.apply site).phase = site.phase.next operation := by
  cases operation with
  | connectEstablished | connectDestroyed => exact allowed.elim
  | send data answer =>
      obtain ⟨added, steady⟩ := send_steady site data answer
      exact steady.phase
  | shutdown =>
      by_cases up : site.conn.state = .kConnected
      · obtain ⟨added, steady, _⟩ := shutdownInLoop_steady (site.setState .kDisconnecting)
        simp only [ConnectionOp.apply, Endpoint.shutdown, if_pos up]
        rw [steady.phase]
        simp [Endpoint.phase, Phase.next, ConnectionOp.closes, ConnectionOp.isShutdown, up]
      · have unchanged : site.shutdown = site := if_neg up
        rw [ConnectionOp.apply, unchanged]
        simp [Endpoint.phase, Phase.next, ConnectionOp.closes, ConnectionOp.isShutdown, up]
  | handleRead answer =>
      by_cases eof : answer = .yields []
      · subst eof
        rw [ConnectionOp.apply, handleRead_eof, handleClose_phase]
        rfl
      · obtain ⟨added, steady, _⟩ := handleRead_open eof
        have stays : (ConnectionOp.handleRead answer : ConnectionOp Ptr).closes = false := by
          unfold ConnectionOp.closes
          split
          · next impossible => simp at impossible
          · next same => simp_all
          · rfl
        rw [ConnectionOp.apply, steady.phase]
        simp [Phase.next, stays, ConnectionOp.isShutdown]
  | handleWrite answer =>
      obtain ⟨added, steady⟩ := handleWrite_steady site answer
      exact steady.phase
  | handleClose => exact handleClose_phase site
  | handleError => rfl
  | retrieveInput len => exact (retrieveInput_steady len).phase
  | otherChannel other channel operation => rfl

theorem phase_run {site final : Endpoint Ptr} {operations : List (ConnectionOp Ptr)}
    (run : (loopThread Ptr).Runs ConnectionOp.MiddleStep site operations final) :
    final.phase = operations.foldl Phase.next site.phase :=
  run.accumulates Phase.next Endpoint.phase fun site operation next allowed taken => by
    cases taken
    exact phase_step site operation allowed

theorem phase_fold_open (operations : List (ConnectionOp Ptr)) (phase : Phase)
    (open_run : ∀ operation ∈ operations, operation.closes = false) :
    operations.foldl Phase.next phase =
      if operations.any ConnectionOp.isShutdown && phase.state == .kConnected then
        { phase with state := .kDisconnecting }
      else
        phase := by
  induction operations generalizing phase with
  | nil => simp
  | cons operation rest ih =>
      have stays := open_run operation List.mem_cons_self
      rw [List.foldl_cons, ih _ fun later member => open_run later (List.mem_cons_of_mem _ member)]
      cases asks : operation.isShutdown <;> cases up : phase.state <;>
        simp [Phase.next, stays, asks, up]

theorem split_at_close {operations : List (ConnectionOp Ptr)}
    (once : operations.countP ConnectionOp.closes ≤ 1)
    (closed : operations.any ConnectionOp.closes = true) :
    ∃ before close after, operations = before ++ close :: after ∧ close.closes = true ∧
      (∀ operation ∈ before, operation.closes = false) ∧
      (∀ operation ∈ after, operation.closes = false) := by
  obtain ⟨close, member, closes⟩ := List.any_eq_true.mp closed
  obtain ⟨before, after, rfl⟩ := List.append_of_mem member
  rw [List.countP_append, List.countP_cons_of_pos closes] at once
  have none_before : before.countP ConnectionOp.closes = 0 := by omega
  have none_after : after.countP ConnectionOp.closes = 0 := by omega
  rw [List.countP_eq_zero] at none_before none_after
  exact ⟨before, close, after, rfl, closes, by simpa using none_before, by simpa using none_after⟩

theorem connectDestroyed_phase (site : Endpoint Ptr) :
    site.connectDestroyed.phase =
      if site.conn.state = .kConnected then
        ⟨.kDisconnected, site.phase.notified ++ [false]⟩
      else
        site.phase := by
  by_cases up : site.conn.state = .kConnected
  · simp [Endpoint.connectDestroyed, up, Endpoint.notifyDown, Endpoint.phase,
      notifications, Effect.connectionUp?, TcpConnection.connected]
  · simp [Endpoint.connectDestroyed, up, Endpoint.phase]

/-- A connection that is established, worked on, closed at most once and then
destroyed delivers exactly one up and one down notification, and ends
disconnected, if and only if `handleClose` has run or `shutdown` was never
called. -/
theorem notifications_paired_iff (site last : Endpoint Ptr) (fresh : site.Fresh)
    (operations : List (ConnectionOp Ptr))
    (run : (loopThread Ptr).Runs ConnectionOp.MiddleStep site.connectEstablished operations last)
    (once : operations.countP ConnectionOp.closes ≤ 1) :
    (notifications last.connectDestroyed.effects = [true, false] ∧
        last.connectDestroyed.conn.state = .kDisconnected) ↔
      (operations.any ConnectionOp.closes = true ∨
        operations.any ConnectionOp.isShutdown = false) := by
  have start : site.connectEstablished.phase = ⟨.kConnected, [true]⟩ := by
    simp [Endpoint.phase, notifications, fresh.effects, Effect.connectionUp?]
  have summary := phase_run run
  rw [start] at summary
  have both : (notifications last.connectDestroyed.effects = [true, false] ∧
      last.connectDestroyed.conn.state = .kDisconnected) ↔
      last.connectDestroyed.phase = ⟨.kDisconnected, [true, false]⟩ := by
    simp [Endpoint.phase, and_comm]
  rw [both, connectDestroyed_phase]
  cases closed : operations.any ConnectionOp.closes with
  | true =>
      obtain ⟨before, close, after, rfl, closes, open_before, open_after⟩ :=
        split_at_close once closed
      rw [List.foldl_append, List.foldl_cons, phase_fold_open before _ open_before,
        phase_fold_open after _ open_after] at summary
      have phase : last.phase = ⟨.kDisconnected, [true, false]⟩ := by
        rw [summary]
        cases before.any ConnectionOp.isShutdown <;> simp [Phase.next, closes]
      have down : last.conn.state ≠ .kConnected := by
        rw [show last.conn.state = last.phase.state from rfl, phase]
        simp
      simp [down, phase]
  | false =>
      have open_run : ∀ operation ∈ operations, operation.closes = false := by
        simpa using closed
      rw [phase_fold_open operations _ open_run] at summary
      have state : last.conn.state = last.phase.state := rfl
      cases asked : operations.any ConnectionOp.isShutdown <;>
        simp [state, summary, asked]

theorem notifications_paired_shutdown_close : ∃ last,
    (loopThread Nat).Runs ConnectionOp.MiddleStep freshSite.connectEstablished
      [.shutdown, .handleRead (.yields [])] last ∧
      ((notifications last.connectDestroyed.effects = [true, false] ∧
          last.connectDestroyed.conn.state = .kDisconnected) ↔
        (([.shutdown, .handleRead (.yields [])] : List (ConnectionOp Nat)).any
            ConnectionOp.closes = true ∨
          ([.shutdown, .handleRead (.yields [])] : List (ConnectionOp Nat)).any
            ConnectionOp.isShutdown = false)) := by
  have run : (loopThread Nat).Runs ConnectionOp.MiddleStep freshSite.connectEstablished
      [.shutdown, .handleRead (.yields [])] _ := .cons trivial rfl (.cons trivial rfl .nil)
  exact ⟨_, run, notifications_paired_iff freshSite _ freshSite_fresh _ run (by decide)⟩

/-- A connection that is destroyed while it is half-closed, as by `~TcpServer`,
gets no down notification and stays `kDisconnecting`. -/
theorem no_down_after_shutdown : ∃ last,
    (loopThread Nat).Runs ConnectionOp.MiddleStep freshSite.connectEstablished [.shutdown] last ∧
      ([.shutdown] : List (ConnectionOp Nat)).countP ConnectionOp.closes ≤ 1 ∧
      notifications last.connectDestroyed.effects = [true] ∧
      last.connectDestroyed.conn.state = .kDisconnecting ∧
      ¬ (notifications last.connectDestroyed.effects = [true, false] ∧
        last.connectDestroyed.conn.state = .kDisconnected) :=
  ⟨_, .cons trivial rfl .nil, by decide, rfl, rfl, by decide⟩

end TalkSystem.Net
