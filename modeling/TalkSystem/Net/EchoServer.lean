import TalkSystem.Net.OutputStreamProperties

/-!
# `EchoServer`

The server of the tests, which sends back what it reads and shuts its side down.
Its message callback runs at the end of `handleRead`, on the connection's loop.
-/

set_option autoImplicit false

namespace TalkSystem.Net

open Endpoint

variable {Ptr : Type}

namespace EchoServer

/-- `onMessage`; `answer` is for the direct write of `send`. -/
def onMessage (site : Endpoint Ptr) (answer : WriteAnswer) : Endpoint Ptr :=
  let (msg, buffer) := site.conn.inputBuffer.retrieveAllAsString
  (({ site with conn := { site.conn with inputBuffer := buffer } }).send msg answer).shutdown

/-- `received` are the results of the reads that got data, in order. -/
structure State (Ptr : Type) where
  site : Endpoint Ptr
  received : List (List UInt8)

/-- What the loop dispatches to a connection, with the kernel's answers; `echo` is
for the write that the message callback makes. -/
inductive Event (Ptr : Type) where
  | handleRead (answer : ReadAnswer) (echo : WriteAnswer)
  | handleWrite (answer : WriteAnswer)
  | handleClose
  | handleError
  | otherChannel (other : Ptr) (channel : Channel) (operation : ChannelOp)

/-- A read that gets data ends with the message callback. -/
def handleRead (state : State Ptr) (answer : ReadAnswer) (echo : WriteAnswer) : State Ptr :=
  match (state.site.conn.inputBuffer.readFd answer).1 with
  | some (byte :: bytes) =>
      { site := onMessage (state.site.handleRead answer) echo
        received := state.received ++ [byte :: bytes] }
  | some [] | none => { state with site := state.site.handleRead answer }

def dispatch (state : State Ptr) : Event Ptr → State Ptr
  | .handleRead answer echo => handleRead state answer echo
  | .handleWrite answer => { state with site := state.site.handleWrite answer }
  | .handleClose => { state with site := state.site.handleClose }
  | .handleError => { state with site := state.site.handleError }
  | .otherChannel other channel operation =>
      { state with site := state.site.otherChannel other channel operation }

def machine (Ptr : Type) : Machine (State Ptr) (Event Ptr) where
  step state event := some (dispatch state event)

/-- No write meets `EPIPE` or `ECONNRESET`, and the other channels of the loop have
descriptors of their own. -/
def Healthy (state : State Ptr) : Event Ptr → Prop
  | .handleRead _ echo => echo.isFault = false
  | .handleWrite _ | .handleClose | .handleError => True
  | .otherChannel _ channel _ => channel.fd ≠ state.site.conn.channel.fd

/-- What the client gets back: the first result of a read. -/
def State.echo (state : State Ptr) : List UInt8 := state.received.head?.getD []

/-- Up to the first read the connection is up and has sent nothing; from then on it
is closing, and the first result is what it sends. -/
structure EchoOpen (state : State Ptr) : Prop where
  output : OutputOpen state.site
  stream : streamed state.site.effects ++ state.site.conn.outputBuffer.readable = state.echo
  input : state.site.conn.inputBuffer.readable = []
  closing : state.site.conn.state = .kDisconnecting ↔ state.received ≠ []

/-- A connection that is down sends nothing any more. -/
structure EchoDown (state : State Ptr) : Prop where
  down : state.site.conn.state = .kDisconnected
  idle : state.site.conn.channel.isWriting = false
  stream : streamed state.site.effects <+: state.echo
  whole : HalfClosed state.site.effects →
    state.received ≠ [] ∧ streamed state.site.effects = state.echo

/-! ## The input buffer -/

section Input

variable {site : Endpoint Ptr}

theorem sendInLoopWrite_input (data : List UInt8) (answer : WriteAnswer) :
    (site.sendInLoopWrite data answer).2.conn.inputBuffer = site.conn.inputBuffer := by
  simp only [sendInLoopWrite]
  split
  · cases answer with
    | accepts count =>
        dsimp only
        split <;> rfl
    | fails errno => rfl
  · rfl

theorem sendInLoopAppend_input (data : List UInt8) (progress : SendProgress) :
    (site.sendInLoopAppend data progress).conn.inputBuffer = site.conn.inputBuffer := by
  simp only [sendInLoopAppend]
  split
  · split <;> split <;> rfl
  · rfl

theorem send_input (data : List UInt8) (answer : WriteAnswer) :
    (site.send data answer).conn.inputBuffer = site.conn.inputBuffer := by
  simp only [send, sendInLoop, sendInLoopFrom]
  split
  · split
    · rfl
    · exact (sendInLoopAppend_input _ _).trans (sendInLoopWrite_input _ _)
  · rfl

theorem shutdownInLoop_input : site.shutdownInLoop.conn.inputBuffer = site.conn.inputBuffer := by
  unfold shutdownInLoop
  split <;> rfl

theorem shutdown_input : site.shutdown.conn.inputBuffer = site.conn.inputBuffer := by
  unfold shutdown
  split
  · exact shutdownInLoop_input
  · rfl

theorem handleWriteBody_input (answer : WriteAnswer) :
    (site.handleWriteBody answer).2.conn.inputBuffer = site.conn.inputBuffer := by
  simp only [handleWriteBody]
  split
  · split
    · split
      · dsimp only
        split <;> rfl
      · rfl
    · rfl
  · rfl

theorem handleWrite_input (answer : WriteAnswer) :
    (site.handleWrite answer).conn.inputBuffer = site.conn.inputBuffer := by
  have body := @handleWriteBody_input _ site answer
  simp only [handleWrite, handleWriteTail]
  split
  · split
    · exact shutdownInLoop_input.trans body
    · exact body
  · exact body

end Input

/-! ## One event -/

variable {state : State Ptr}

/-- The callback empties the input buffer; the first time it sends what was there, and the
connection is closing afterwards. -/
theorem onMessage_open {site : Endpoint Ptr} {echo : WriteAnswer} (healthy : echo.isFault = false)
    (output : OutputOpen site) :
    OutputOpen (onMessage site echo) ∧
      streamed (onMessage site echo).effects ++ (onMessage site echo).conn.outputBuffer.readable =
        streamed site.effects ++ site.conn.outputBuffer.readable ++
          (if site.conn.state = .kConnected then site.conn.inputBuffer.readable else []) ∧
      (onMessage site echo).conn.inputBuffer.readable = [] ∧
      (onMessage site echo).conn.state = .kDisconnecting := by
  let len := site.conn.inputBuffer.readableBytes
  let msg := site.conn.inputBuffer.readable
  have message : onMessage site echo = ((site.retrieveInput len).send msg echo).shutdown := rfl
  have emptied : (site.retrieveInput len).conn.inputBuffer.readable = [] :=
    (site.conn.inputBuffer.retrieve_readable len).trans
      (List.drop_eq_nil_of_le (Nat.le_of_eq site.conn.inputBuffer.readable_length))
  have taken : OutputOpen (site.retrieveInput len) :=
    (output.step (.retrieveInput len) trivial).1
  obtain ⟨sent, stream⟩ := taken.send msg healthy
  obtain ⟨shut, closing, kept⟩ := sent.shutdown
  rw [message]
  refine ⟨shut, ?_, ?_, closing⟩
  · rw [kept, stream]
    rfl
  · rw [shutdown_input, send_input]
    exact emptied

/-- On a connection that is down the callback takes the input and does nothing else. -/
theorem onMessage_down {site : Endpoint Ptr} (echo : WriteAnswer)
    (down : site.conn.state = .kDisconnected) :
    onMessage site echo = site.retrieveInput site.conn.inputBuffer.readableBytes := by
  let taken := site.retrieveInput site.conn.inputBuffer.readableBytes
  have message : onMessage site echo =
      (taken.send site.conn.inputBuffer.readable echo).shutdown := rfl
  have closed : taken.conn.state ≠ .kConnected := by
    change site.conn.state ≠ .kConnected
    simp [down]
  rw [message, send_not_connected closed, Endpoint.shutdown, if_neg closed]

theorem readCapacity_pos (buffer : Buffer) : 0 < buffer.readCapacity := by
  have extra : 0 < Buffer.extrabufSize := by decide
  unfold Buffer.readCapacity
  split <;> omega

/-- What a read comes to: the end of the stream, an error, or data for the callback. -/
inductive Reads (state : State Ptr) (answer : ReadAnswer) (echo : WriteAnswer) :
    State Ptr → Prop where
  | eof : answer = .yields [] →
      Reads state answer echo { state with site := state.site.handleRead answer }
  | fails : Reads state answer echo state
  | data {bytes : List UInt8} : bytes ≠ [] → answer ≠ .yields [] →
      (state.site.handleRead answer).conn.inputBuffer.readable =
        state.site.conn.inputBuffer.readable ++ bytes →
      Reads state answer echo
        { site := onMessage (state.site.handleRead answer) echo
          received := state.received ++ [bytes] }

theorem handleRead_reads (state : State Ptr) (answer : ReadAnswer) (echo : WriteAnswer) :
    Reads state answer echo (handleRead state answer echo) := by
  cases answer with
  | fails errno => exact .fails
  | yields available =>
      obtain ⟨count, filled⟩ := state.site.conn.inputBuffer.readFd_yields available
      by_cases ended : available = []
      · subst ended
        rw [List.take_nil] at count
        simp only [handleRead, count]
        exact .eof rfl
      · have more : available.take state.site.conn.inputBuffer.readCapacity ≠ [] := by
          rw [ne_eq, List.take_eq_nil_iff, not_or]
          exact ⟨Nat.ne_of_gt (readCapacity_pos _), ended⟩
        have open_end : ReadAnswer.yields available ≠ .yields [] := by simpa using ended
        obtain ⟨_, _, _, conn, _⟩ := @handleRead_open _ state.site _ open_end
        obtain ⟨byte, bytes, shape⟩ := List.exists_cons_of_ne_nil more
        rw [shape] at count filled
        simp only [handleRead, count]
        exact .data (by simp) open_end (by rw [conn]; exact filled)

theorem echo_concat {received : List (List UInt8)} (site : Endpoint Ptr) {next : Endpoint Ptr}
    {bytes : List UInt8} : State.echo ⟨next, received ++ [bytes]⟩ =
      if received = [] then bytes else State.echo ⟨site, received⟩ := by
  cases received <;> rfl

theorem EchoOpen.connected_iff (inv : EchoOpen state) :
    state.site.conn.state = .kConnected ↔ state.received = [] := by
  rw [← not_iff_not, ← ne_eq, ← ne_eq, ← inv.closing]
  rcases inv.output.up with up | closing
  · simp [up]
  · simp [closing]

theorem EchoOpen.reads {answer : ReadAnswer} {echo : WriteAnswer} {bytes : List UInt8}
    (inv : EchoOpen state) (healthy : echo.isFault = false) (more : answer ≠ .yields [])
    (filled : (state.site.handleRead answer).conn.inputBuffer.readable =
      state.site.conn.inputBuffer.readable ++ bytes) :
    EchoOpen { site := onMessage (state.site.handleRead answer) echo
               received := state.received ++ [bytes] } := by
  have stepped := inv.output.step (.handleRead answer) more
  have output : OutputOpen (state.site.handleRead answer) := stepped.1
  have stream : streamed (state.site.handleRead answer).effects ++
      (state.site.handleRead answer).conn.outputBuffer.readable =
        streamed state.site.effects ++ state.site.conn.outputBuffer.readable ++ [] := stepped.2.1
  obtain ⟨_, steady, _⟩ := @handleRead_open _ state.site _ more
  obtain ⟨answered, echoed, emptied, closing⟩ := onMessage_open healthy output
  rw [inv.input, List.nil_append] at filled
  refine ⟨answered, ?_, emptied, iff_of_true closing (by simp)⟩
  rw [echoed, stream, List.append_nil, inv.stream, echo_concat state.site, steady.state,
    filled]
  by_cases first : state.received = []
  · rw [if_pos (inv.connected_iff.mpr first), if_pos first]
    simp [State.echo, first]
  · rw [if_neg (mt inv.connected_iff.mp first), if_neg first, List.append_nil]

theorem EchoOpen.down (inv : EchoOpen state) {site : Endpoint Ptr}
    (closed : site.conn.state = .kDisconnected) (idle : site.conn.channel.isWriting = false)
    {added : List Effect} (effects : site.effects = state.site.effects ++ added)
    (silent : streamed added = [])
    (open_end : ∀ effect ∈ added, effect.isShutdownWrite = false) :
    EchoDown { state with site := site } := by
  have same : streamed site.effects = streamed state.site.effects := by
    rw [effects, streamed_append, silent, List.append_nil]
  refine ⟨closed, idle, ?_, fun half => ?_⟩
  · exact ⟨state.site.conn.outputBuffer.readable, by rw [same]; exact inv.stream⟩
  · rw [effects, halfClosed_append open_end] at half
    refine ⟨fun unread => inv.output.not_yet (inv.connected_iff.mpr unread) half, ?_⟩
    have whole := inv.stream
    rw [inv.output.emptied half, List.append_nil] at whole
    exact same.trans whole

/-- A closed connection whose effects grow by some that send nothing. -/
theorem EchoDown.quiet (inv : EchoDown state) {next : State Ptr}
    (down : next.site.conn.state = .kDisconnected)
    (idle : next.site.conn.channel.isWriting = false) {added : List Effect}
    (effects : next.site.effects = state.site.effects ++ added) (silent : streamed added = [])
    (open_end : ∀ effect ∈ added, effect.isShutdownWrite = false)
    (received : next.received = state.received ∨
      ∃ bytes, next.received = state.received ++ [bytes]) : EchoDown next := by
  have same : streamed next.site.effects = streamed state.site.effects := by
    rw [effects, streamed_append, silent, List.append_nil]
  have half : HalfClosed next.site.effects ↔ HalfClosed state.site.effects := by
    rw [effects, halfClosed_append open_end]
  have echo : state.received ≠ [] → next.echo = state.echo := by
    intro read
    rcases received with kept | ⟨bytes, grown⟩
    · rw [State.echo, kept, State.echo]
    · obtain ⟨first, rest, shape⟩ := List.exists_cons_of_ne_nil read
      simp [State.echo, grown, shape]
  have still : state.received ≠ [] → next.received ≠ [] := by
    intro read
    rcases received with kept | ⟨bytes, grown⟩
    · rwa [kept]
    · simp [grown]
  refine ⟨down, idle, ?_, fun closed => ?_⟩
  · rw [same]
    by_cases read : state.received = []
    · have nothing : streamed state.site.effects = [] := by
        have bound := inv.stream
        rw [State.echo, read] at bound
        exact List.prefix_nil.mp bound
      rw [nothing]
      exact List.nil_prefix
    · rw [echo read]
      exact inv.stream
  · obtain ⟨read, whole⟩ := inv.whole (half.mp closed)
    exact ⟨still read, by rw [same, echo read, whole]⟩

theorem handleClose_idle {site : Endpoint Ptr} :
    site.handleClose.conn.channel.isWriting = false := notifyDown_stopped

/-! ## Events -/

theorem EchoOpen.event (inv : EchoOpen state) (event : Event Ptr)
    (healthy : Healthy state event) :
    EchoOpen (dispatch state event) ∨ EchoDown (dispatch state event) := by
  cases event with
  | handleRead answer echo =>
      have reads := handleRead_reads state answer echo
      rw [dispatch]
      generalize handleRead state answer echo = after at reads ⊢
      cases reads with
      | eof ended =>
          subst ended
          rw [handleRead_eof]
          refine .inr (inv.down rfl handleClose_idle handleClose_effects ?_ ?_)
          · simp [Effect.accepted]
          · simp [Effect.isShutdownWrite]
      | fails => exact .inl inv
      | data _ more filled => exact .inl (inv.reads healthy more filled)
  | handleWrite answer =>
      obtain ⟨output, same_state, stream⟩ := inv.output.handleWrite answer
      refine .inl ⟨output, stream.trans inv.stream, ?_, ?_⟩
      · exact (congrArg Buffer.readable (handleWrite_input answer)).trans inv.input
      · exact same_state ▸ inv.closing
  | handleClose =>
      refine .inr (inv.down rfl handleClose_idle handleClose_effects ?_ ?_)
      · simp [Effect.accepted]
      · simp [Effect.isShutdownWrite]
  | handleError => exact .inl inv
  | otherChannel other channel operation =>
      exact .inl ⟨(inv.output.step (.otherChannel other channel operation) healthy).1, inv.stream,
        inv.input, inv.closing⟩

theorem EchoDown.event (inv : EchoDown state) (event : Event Ptr) :
    EchoDown (dispatch state event) := by
  cases event with
  | handleRead answer echo =>
      have reads := handleRead_reads state answer echo
      rw [dispatch]
      generalize handleRead state answer echo = after at reads ⊢
      cases reads with
      | eof ended =>
          subst ended
          rw [handleRead_eof]
          refine inv.quiet rfl handleClose_idle handleClose_effects ?_ ?_ (.inl rfl)
          · simp [Effect.accepted]
          · simp [Effect.isShutdownWrite]
      | fails => exact inv
      | @data bytes _ more _ =>
          obtain ⟨added, steady, silent, conn, quiet⟩ := @handleRead_open _ state.site _ more
          have down := steady.state.trans inv.down
          refine inv.quiet ?_ ?_ (?_ : _ = _ ++ added) silent (fun effect member =>
            (quiet effect member).2) (.inr ⟨bytes, rfl⟩)
          all_goals rw [onMessage_down echo down]
          · exact down
          · change (state.site.handleRead answer).conn.channel.isWriting = false
            rw [conn]
            exact inv.idle
          · exact steady.effects
  | handleWrite answer =>
      have unchanged : state.site.handleWrite answer = state.site := by
        simp [Endpoint.handleWrite, handleWriteBody, inv.idle]
      rw [dispatch, unchanged]
      exact inv
  | handleClose =>
      refine inv.quiet rfl handleClose_idle handleClose_effects ?_ ?_ (.inl rfl)
      · simp [Effect.accepted]
      · simp [Effect.isShutdownWrite]
  | handleError => exact inv
  | otherChannel => exact ⟨inv.down, inv.idle, inv.stream, inv.whole⟩

/-- An echo server's connection, over every run: what it has sent is the front of the first
result of a read, whatever is read later. While the connection is up or closing, the rest of
that result is in the output buffer and no input is left; it is closing from the first read on.
The half-close comes only behind the whole of that result. -/
theorem echoes_first_read (site : Endpoint Ptr) (fresh : site.Fresh)
    (input : site.conn.inputBuffer.readable = []) (events : List (Event Ptr)) (final : State Ptr)
    (run : (machine Ptr).Runs Healthy ⟨site.connectEstablished, []⟩ events final) :
    streamed final.site.effects <+: final.echo ∧
      (HalfClosed final.site.effects →
        final.received ≠ [] ∧ streamed final.site.effects = final.echo) ∧
      (final.site.conn.state = .kDisconnected ∨
        (streamed final.site.effects ++ final.site.conn.outputBuffer.readable = final.echo ∧
          final.site.conn.inputBuffer.readable = [] ∧
          (final.site.conn.state = .kConnected ↔ final.received = []) ∧
          (final.received ≠ [] → final.site.conn.outputBuffer.readable = [] →
            HalfClosed final.site.effects))) := by
  have start : EchoOpen (⟨site.connectEstablished, []⟩ : State Ptr) := by
    refine ⟨fresh.outputOpen, ?_, input, by simp⟩
    simp [fresh.effects, fresh.output, Effect.accepted, State.echo]
  have kept : EchoOpen final ∨ EchoDown final := run.invariant
    (fun state => EchoOpen state ∨ EchoDown state)
    (fun state event next healthy taken inv => by
      cases taken
      rcases inv with up | down
      · exact up.event event healthy
      · exact .inr (down.event event)) (.inl start)
  rcases kept with up | down
  · refine ⟨⟨_, up.stream⟩, fun half => ?_, .inr ⟨up.stream, up.input, up.connected_iff, ?_⟩⟩
    · refine ⟨fun unread => up.output.not_yet (up.connected_iff.mpr unread) half, ?_⟩
      rw [← up.stream, up.output.emptied half, List.append_nil]
    · exact fun read empty => up.output.done (up.closing.mpr read) empty
  · exact ⟨down.stream, down.whole, .inl down.down⟩

theorem echoes_first_read_partial_write : ∃ final,
    (machine Nat).Runs Healthy ⟨freshSite.connectEstablished, []⟩
      [.handleRead (.yields [1, 2]) (.accepts 1), .handleWrite (.accepts 1)] final ∧
    streamed final.site.effects <+: final.echo := by
  have run : ∃ final, (machine Nat).Runs Healthy ⟨freshSite.connectEstablished, []⟩
      [.handleRead (.yields [1, 2]) (.accepts 1), .handleWrite (.accepts 1)] final :=
    ⟨_, .cons rfl rfl (.cons trivial rfl .nil)⟩
  obtain ⟨final, run⟩ := run
  exact ⟨final, run, (echoes_first_read freshSite freshSite_fresh rfl _ final run).1⟩

end EchoServer

end TalkSystem.Net
