import TalkSystem.Net.TcpConnectionProperties

/-!
# The output stream of a connection

While a connection is up, its two write paths together behave as one pipe: the
bytes the kernel has accepted, followed by the bytes still buffered, are the
strings sent so far. The half-close waits for the buffer to drain and is the
last thing that happens to the write side.
-/

set_option autoImplicit false

namespace TalkSystem.Net

open Endpoint

variable {Ptr : Type}

/-- A connection as `newConnection` hands it to its loop: its descriptor is
not in the interest set and nothing has been sent. -/
structure Endpoint.Fresh (site : Endpoint Ptr) : Prop where
  state : site.conn.state = .kConnecting
  channel : site.conn.channel = Channel.new site.conn.channel.fd
  output : site.conn.outputBuffer = Buffer.new kInitialSize
  unused : site.poller.interest site.conn.channel.fd = none
  effects : site.effects = []

theorem Endpoint.Fresh.established {site : Endpoint Ptr} (fresh : site.Fresh) :
    site.connectEstablished.Live := by
  apply connectEstablished_live
  · exact ⟨by rw [fresh.channel]; rfl, fresh.unused⟩
  · rw [fresh.channel]; rfl
  · rw [fresh.output, Buffer.new_readable]

/-- The operations between `connectEstablished` and the first `handleClose` or
`connectDestroyed`, with write answers other than `EPIPE` and `ECONNRESET`. -/
def ConnectionOp.OpenStep (site : Endpoint Ptr) : ConnectionOp Ptr → Prop
  | .connectEstablished | .handleClose | .connectDestroyed => False
  | .send _ answer | .handleWrite answer => answer.isFault = false
  | .handleRead answer => answer ≠ .yields []
  | .shutdown | .handleError | .retrieveInput _ => True
  | .otherChannel _ channel _ => channel.fd ≠ site.conn.channel.fd

def ConnectionOp.sentBy (site : Endpoint Ptr) : ConnectionOp Ptr → List UInt8
  | .send data _ => if site.conn.state = .kConnected then data else []
  | _ => []

/-- The concatenation, in call order, of all strings sent while the connection
was up. -/
def sentWhileConnected (site : Endpoint Ptr) : List (ConnectionOp Ptr) → List UInt8
  | [] => []
  | operation :: rest => operation.sentBy site ++ sentWhileConnected (operation.apply site) rest

def HalfClosed (effects : List Effect) : Prop :=
  ∃ effect ∈ effects, effect.isShutdownWrite = true

theorem halfClosed_append {before added : List Effect}
    (open_end : ∀ effect ∈ added, effect.isShutdownWrite = false) :
    HalfClosed (before ++ added) ↔ HalfClosed before := by
  constructor
  · intro given
    obtain ⟨effect, member, closes⟩ := given
    rcases List.mem_append.mp member with old | new
    · exact ⟨effect, old, closes⟩
    · simp [open_end effect new] at closes
  · intro given
    obtain ⟨effect, member, closes⟩ := given
    exact ⟨effect, List.mem_append_left _ member, closes⟩

def WritesBeforeHalfClose (effects : List Effect) : Prop :=
  effects.Pairwise fun earlier later =>
    ¬ (earlier.isShutdownWrite = true ∧ later.isWrite = true)

theorem WritesBeforeHalfClose.append {before added : List Effect}
    (ordered : WritesBeforeHalfClose before)
    (open_end : ∀ effect ∈ added, effect.isShutdownWrite = false)
    (no_write : HalfClosed before → ∀ effect ∈ added, effect.isWrite = false) :
    WritesBeforeHalfClose (before ++ added) := by
  refine List.pairwise_append.mpr ⟨ordered, ?_, ?_⟩
  · apply List.Pairwise.imp_of_mem (R := fun _ _ => True)
    · intro earlier later member _ _ both
      simp [open_end earlier member] at both
    · exact List.pairwise_of_forall fun _ _ => trivial
  · intro earlier old later new both
    simp [no_write ⟨earlier, old, both.1⟩ later new] at both

/-- The record of a live connection's write side: it was half-closed with an
empty buffer or not at all, and nothing has been written since. -/
structure OutputLog (site : Endpoint Ptr) : Prop where
  live : site.Live
  only_empty : ∀ unsent, .shutdownWrite unsent ∈ site.effects → unsent = []
  emptied : HalfClosed site.effects → site.conn.outputBuffer.readable = []
  ordered : WritesBeforeHalfClose site.effects

theorem OutputLog.steady {site next : Endpoint Ptr} {added : List Effect}
    (log : OutputLog site) (steady : Steady site next added)
    (open_end : ∀ effect ∈ added, effect.isShutdownWrite = false)
    (no_write : HalfClosed site.effects → ∀ effect ∈ added, effect.isWrite = false)
    (still_empty : HalfClosed site.effects → next.conn.outputBuffer.readable = []) :
    OutputLog next where
  live := steady.live log.live
  only_empty unsent member := by
    rw [steady.effects] at member
    rcases List.mem_append.mp member with old | new
    · exact log.only_empty unsent old
    · have := open_end _ new
      simp [Effect.isShutdownWrite] at this
  emptied closed := by
    rw [steady.effects, halfClosed_append open_end] at closed
    exact still_empty closed
  ordered := by
    rw [steady.effects]
    exact log.ordered.append open_end no_write

/-- `shutdownInLoop` half-closes exactly when the buffer is empty. -/
theorem OutputLog.shutdownInLoop {site : Endpoint Ptr} (log : OutputLog site) :
    OutputLog site.shutdownInLoop ∧
      (site.shutdownInLoop.conn.outputBuffer.readable = [] →
        HalfClosed site.shutdownInLoop.effects) := by
  cases writing : site.conn.channel.isWriting with
  | true =>
      rw [shutdownInLoop_writing writing]
      exact ⟨log, fun empty => absurd empty (log.live.writing_iff.mp writing)⟩
  | false =>
      have empty := log.live.not_writing_iff.mp writing
      rw [shutdownInLoop_idle writing, empty]
      refine ⟨⟨⟨log.live.watched, log.live.reading, log.live.writing_iff⟩, ?_, fun _ => empty, ?_⟩,
        fun _ => ⟨.shutdownWrite [], by simp, rfl⟩⟩
      · intro unsent member
        rcases List.mem_append.mp member with old | new
        · exact log.only_empty unsent old
        · simpa using new
      · refine List.pairwise_append.mpr ⟨log.ordered, List.pairwise_singleton _ _, ?_⟩
        intro earlier _ later new both
        simp only [List.mem_singleton] at new
        simp [new, Effect.isWrite] at both

/-- The write side of a connection that is up or closing: the half-close is
executed as soon as it has been asked for and the buffer is empty. -/
structure OutputOpen (site : Endpoint Ptr) : Prop extends OutputLog site where
  up : site.conn.state = .kConnected ∨ site.conn.state = .kDisconnecting
  not_yet : site.conn.state = .kConnected → ¬ HalfClosed site.effects
  done : site.conn.state = .kDisconnecting → site.conn.outputBuffer.readable = [] →
    HalfClosed site.effects

private theorem OutputOpen.untouched {site next : Endpoint Ptr} {added : List Effect}
    (inv : OutputOpen site) (steady : Steady site next added)
    (quiet : ∀ effect ∈ added, effect.isWrite = false ∧ effect.isShutdownWrite = false)
    (same : next.conn.outputBuffer = site.conn.outputBuffer) : OutputOpen next := by
  have open_end := fun effect member => (quiet effect member).2
  refine ⟨inv.toOutputLog.steady steady open_end (fun _ effect member => (quiet effect member).1)
    (fun closed => by rw [same]; exact inv.emptied closed), ?_, ?_, ?_⟩
  · rw [steady.state]; exact inv.up
  · rw [steady.state, steady.effects, halfClosed_append open_end]; exact inv.not_yet
  · rw [steady.state, steady.effects, halfClosed_append open_end, same]; exact inv.done

theorem OutputOpen.send {site : Endpoint Ptr} (inv : OutputOpen site) (data : List UInt8)
    {answer : WriteAnswer} (no_fault : answer.isFault = false) :
    OutputOpen (site.send data answer) ∧
      streamed (site.send data answer).effects ++
          (site.send data answer).conn.outputBuffer.readable =
        streamed site.effects ++ site.conn.outputBuffer.readable ++
          ConnectionOp.sentBy site (.send data answer) := by
  by_cases up : site.conn.state = .kConnected
  · obtain ⟨added, sent⟩ := send_connected up data answer
    have not_yet := inv.not_yet up
    have still_open : ¬ HalfClosed (site.send data answer).effects := by
      rwa [sent.steady.effects, halfClosed_append sent.open_end]
    refine ⟨⟨inv.toOutputLog.steady sent.steady sent.open_end (fun closed => absurd closed not_yet)
      (fun closed => absurd closed not_yet), ?_, fun _ => still_open, ?_⟩, ?_⟩
    · rw [sent.steady.state]; exact inv.up
    · rw [sent.steady.state, up]; simp
    · rw [sent.steady.effects, streamed_append, List.append_assoc, sent.stream no_fault]
      simp [ConnectionOp.sentBy, up]
  · rw [send_not_connected up]
    exact ⟨inv, by simp [ConnectionOp.sentBy, up]⟩

theorem OutputOpen.shutdown {site : Endpoint Ptr} (inv : OutputOpen site) :
    OutputOpen site.shutdown ∧ site.shutdown.conn.state = .kDisconnecting ∧
      streamed site.shutdown.effects ++ site.shutdown.conn.outputBuffer.readable =
        streamed site.effects ++ site.conn.outputBuffer.readable := by
  by_cases up : site.conn.state = .kConnected
  · simp only [Endpoint.shutdown, if_pos up]
    have log : OutputLog (site.setState .kDisconnecting) :=
      ⟨inv.live.setState _, inv.only_empty, inv.emptied, inv.ordered⟩
    obtain ⟨added, steady, silent⟩ := shutdownInLoop_steady (site.setState .kDisconnecting)
    have state : (site.setState .kDisconnecting).shutdownInLoop.conn.state = .kDisconnecting :=
      steady.state
    refine ⟨⟨log.shutdownInLoop.1, .inr state, ?_, fun _ => log.shutdownInLoop.2⟩, state, ?_⟩
    · rw [state]; simp
    · rw [steady.effects, streamed_append, silent, shutdownInLoop_conn, List.append_nil]
      rfl
  · have closing : site.conn.state = .kDisconnecting := inv.up.resolve_left up
    have unchanged : site.shutdown = site := if_neg up
    rw [unchanged]
    exact ⟨inv, closing, rfl⟩

theorem OutputOpen.handleWrite {site : Endpoint Ptr} (inv : OutputOpen site)
    (answer : WriteAnswer) :
    OutputOpen (site.handleWrite answer) ∧
      (site.handleWrite answer).conn.state = site.conn.state ∧
      streamed (site.handleWrite answer).effects ++
          (site.handleWrite answer).conn.outputBuffer.readable =
        streamed site.effects ++ site.conn.outputBuffer.readable := by
  obtain ⟨added, flushed⟩ := handleWriteBody_spec site answer
  -- After a half-close the buffer is empty, so the channel is not writing.
  have idle : HalfClosed site.effects → site.conn.channel.isWriting = false := fun closed =>
    inv.live.not_writing_iff.mpr (inv.emptied closed)
  have log : OutputLog (site.handleWriteBody answer).2 := by
    apply inv.toOutputLog.steady flushed.steady flushed.open_end
    · intro closed effect member
      simp [(flushed.idle (idle closed)).2.2] at member
    · intro closed
      rw [(flushed.idle (idle closed)).2.1]
      exact inv.emptied closed
  have same_state := flushed.steady.state
  have stream : streamed (site.handleWriteBody answer).2.effects ++
      (site.handleWriteBody answer).2.conn.outputBuffer.readable =
        streamed site.effects ++ site.conn.outputBuffer.readable := by
    rw [flushed.steady.effects, streamed_append, List.append_assoc, flushed.stream]
  have not_yet : site.conn.state = .kConnected →
      ¬ HalfClosed (site.handleWriteBody answer).2.effects := by
    rw [flushed.steady.effects, halfClosed_append flushed.open_end]
    exact inv.not_yet
  simp only [Endpoint.handleWrite]
  split
  · next drained =>
      unfold handleWriteTail
      split
      · next closing =>
          obtain ⟨more, steady, silent⟩ :=
            shutdownInLoop_steady (site.handleWriteBody answer).2
          have state := steady.state.trans same_state
          refine ⟨⟨log.shutdownInLoop.1, .inr (steady.state.trans closing), ?_,
            fun _ => log.shutdownInLoop.2⟩, state, ?_⟩
          · rw [steady.state, closing]; simp
          · rw [steady.effects, streamed_append, silent, shutdownInLoop_conn, List.append_nil,
              stream]
      · next open_state =>
          have up : site.conn.state = .kConnected :=
            inv.up.resolve_right (same_state ▸ open_state)
          refine ⟨⟨log, .inl (same_state.trans up), fun _ => not_yet up, ?_⟩, same_state, stream⟩
          rw [same_state, up]; simp
  · next pending =>
      have left := flushed.pending (by simpa using pending)
      refine ⟨⟨log, ?_, ?_, ?_⟩, same_state, stream⟩
      · rw [same_state]; exact inv.up
      · rw [same_state]; exact not_yet
      · rw [same_state, flushed.steady.effects, halfClosed_append flushed.open_end]
        exact fun closing empty => inv.done closing (left empty)

/-- One operation keeps the write side in order, adds to the stream exactly
what it sends, and `shutdown` leaves the connection closing for good. -/
theorem OutputOpen.step {site : Endpoint Ptr} (inv : OutputOpen site)
    (operation : ConnectionOp Ptr) (allowed : operation.OpenStep site) :
    OutputOpen (operation.apply site) ∧
      streamed (operation.apply site).effects ++
          (operation.apply site).conn.outputBuffer.readable =
        streamed site.effects ++ site.conn.outputBuffer.readable ++ operation.sentBy site ∧
      (site.conn.state = .kDisconnecting →
        (operation.apply site).conn.state = .kDisconnecting) ∧
      (operation = .shutdown → (operation.apply site).conn.state = .kDisconnecting) := by
  cases operation with
  | connectEstablished | handleClose | connectDestroyed => exact allowed.elim
  | send data answer =>
      obtain ⟨next, stream⟩ := inv.send data allowed
      refine ⟨next, stream, fun closing => ?_, by simp⟩
      simp only [ConnectionOp.apply, send_not_connected (by simp [closing] :
        site.conn.state ≠ .kConnected), closing]
  | shutdown =>
      obtain ⟨next, closing, stream⟩ := inv.shutdown
      exact ⟨next, by simpa [ConnectionOp.sentBy, ConnectionOp.apply] using stream,
        fun _ => closing, fun _ => closing⟩
  | handleWrite answer =>
      obtain ⟨next, state, stream⟩ := inv.handleWrite answer
      exact ⟨next, by simpa [ConnectionOp.sentBy, ConnectionOp.apply] using stream,
        fun closing => state.trans closing, by simp⟩
  | handleRead answer =>
      obtain ⟨added, steady, silent, filled, quiet⟩ := handleRead_open allowed
      have output : (site.handleRead answer).conn.outputBuffer = site.conn.outputBuffer := by
        rw [filled]
      refine ⟨inv.untouched steady quiet output, ?_, fun closing => steady.state.trans closing,
        by simp⟩
      simp only [ConnectionOp.apply, ConnectionOp.sentBy, List.append_nil]
      rw [steady.effects, streamed_append, silent, output, List.append_nil]
  | handleError =>
      exact ⟨inv, by simp [ConnectionOp.apply, handleError, ConnectionOp.sentBy], id, by simp⟩
  | retrieveInput len =>
      exact ⟨inv.untouched (retrieveInput_steady len) (by simp) rfl,
        by simp [ConnectionOp.apply, Endpoint.retrieveInput, ConnectionOp.sentBy], id, by simp⟩
  | otherChannel other channel operation =>
      refine ⟨⟨⟨inv.live.otherChannel allowed, inv.only_empty, inv.emptied, inv.ordered⟩,
        inv.up, inv.not_yet, inv.done⟩, ?_, id, by simp⟩
      simp [ConnectionOp.apply, Endpoint.otherChannel, ConnectionOp.sentBy]

theorem OutputOpen.run {site final : Endpoint Ptr} {operations : List (ConnectionOp Ptr)}
    (run : (loopThread Ptr).Runs ConnectionOp.OpenStep site operations final)
    (inv : OutputOpen site) :
    OutputOpen final ∧
      streamed final.effects ++ final.conn.outputBuffer.readable =
        streamed site.effects ++ site.conn.outputBuffer.readable ++
          sentWhileConnected site operations ∧
      (site.conn.state = .kDisconnecting ∨ .shutdown ∈ operations →
        final.conn.state = .kDisconnecting) := by
  induction run with
  | nil => exact ⟨inv, by simp [sentWhileConnected], by simp⟩
  | @cons state next final operation rest allowed taken _ ih =>
      cases taken
      obtain ⟨inv_next, stream, closing, asked⟩ := inv.step operation allowed
      obtain ⟨inv_final, stream_rest, closed⟩ := ih inv_next
      refine ⟨inv_final, ?_, ?_⟩
      · rw [stream_rest, stream, sentWhileConnected, List.append_assoc]
      · intro called
        apply closed
        rcases called with before | member
        · exact .inl (closing before)
        · rcases List.mem_cons.mp member with now | later
          · exact .inl (asked now.symm)
          · exact .inr later

theorem Endpoint.Fresh.outputOpen {site : Endpoint Ptr} (fresh : site.Fresh) :
    OutputOpen site.connectEstablished where
  live := fresh.established
  only_empty := by simp [fresh.effects]
  emptied := by simp [HalfClosed, fresh.effects, Effect.isShutdownWrite]
  ordered := by
    rw [connectEstablished_effects, fresh.effects]
    exact List.pairwise_singleton _ _
  up := .inl rfl
  not_yet := by simp [HalfClosed, fresh.effects, Effect.isShutdownWrite]
  done := by simp

/-- The output stream of a connection between `connectEstablished` and its
first close, over runs of any length and every sequence of kernel answers. -/
theorem output_stream (site final : Endpoint Ptr) (fresh : site.Fresh)
    (operations : List (ConnectionOp Ptr))
    (run : (loopThread Ptr).Runs ConnectionOp.OpenStep site.connectEstablished operations final) :
    streamed final.effects ++ final.conn.outputBuffer.readable =
        sentWhileConnected site.connectEstablished operations ∧
      (∀ unsent, .shutdownWrite unsent ∈ final.effects → unsent = []) ∧
      (.shutdown ∈ operations → final.conn.outputBuffer.readable = [] →
        HalfClosed final.effects) ∧
      WritesBeforeHalfClose final.effects := by
  obtain ⟨inv, stream, closing⟩ := fresh.outputOpen.run run
  refine ⟨?_, inv.only_empty, fun called => inv.done (closing (.inr called)), inv.ordered⟩
  simpa [fresh.effects, fresh.output, Effect.accepted] using stream

def freshSite : Endpoint Nat := ⟨0, TcpConnection.new "c" 5, .empty, []⟩

theorem freshSite_fresh : freshSite.Fresh := ⟨rfl, rfl, rfl, rfl, rfl⟩

theorem output_stream_two_strings : ∃ final,
    (loopThread Nat).Runs ConnectionOp.OpenStep freshSite.connectEstablished
      [.send [1, 2, 3] (.accepts 1), .send [4] (.accepts 1), .shutdown,
        .handleWrite (.fails .EWOULDBLOCK), .handleWrite (.accepts 3)] final ∧
      streamed final.effects ++ final.conn.outputBuffer.readable =
        sentWhileConnected freshSite.connectEstablished
          [.send [1, 2, 3] (.accepts 1), .send [4] (.accepts 1), .shutdown,
            .handleWrite (.fails .EWOULDBLOCK), .handleWrite (.accepts 3)] := by
  have run : ∃ final, (loopThread Nat).Runs ConnectionOp.OpenStep freshSite.connectEstablished
      [.send [1, 2, 3] (.accepts 1), .send [4] (.accepts 1), .shutdown,
        .handleWrite (.fails .EWOULDBLOCK), .handleWrite (.accepts 3)] final :=
    ⟨_, .cons rfl rfl (.cons rfl rfl (.cons trivial rfl (.cons rfl rfl (.cons rfl rfl .nil))))⟩
  obtain ⟨final, run⟩ := run
  exact ⟨final, run, (output_stream freshSite final freshSite_fresh _ run).1⟩

end TalkSystem.Net
