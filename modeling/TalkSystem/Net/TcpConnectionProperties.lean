import TalkSystem.Net.BufferProperties
import TalkSystem.Net.PollerProperties
import TalkSystem.Net.TcpConnection

/-!
# One law per method of `TcpConnection`

Every later argument about connections goes through the laws of this module.
A method that keeps the connection up is `Steady`: it leaves the state, the
identity and the other descriptors alone and keeps the registration in step
with the output buffer. Its effect on the output stream is stated beside it.
-/

set_option autoImplicit false

namespace TalkSystem.Net

/-- The answers after which `sendInLoop` drops its data. -/
def WriteAnswer.isFault : WriteAnswer → Bool
  | .fails .EPIPE | .fails .ECONNRESET => true
  | _ => false

def Effect.isLocal : Effect → Bool
  | .connectionCallback _ | .closeCallback => false
  | _ => true

def streamed (effects : List Effect) : List UInt8 := effects.flatMap Effect.accepted

@[simp] theorem streamed_nil : streamed [] = [] := rfl

@[simp] theorem streamed_append (left right : List Effect) :
    streamed (left ++ right) = streamed left ++ streamed right := by
  simp [streamed]

@[simp] theorem streamed_cons (effect : Effect) (rest : List Effect) :
    streamed (effect :: rest) = effect.accepted ++ streamed rest := by
  simp [streamed]

theorem streamed_eq_nil {effects : List Effect}
    (no_write : ∀ effect ∈ effects, effect.isWrite = false) : streamed effects = [] := by
  simp only [streamed, List.flatMap_eq_nil_iff]
  intro effect member
  have quiet := no_write effect member
  cases effect with
  | write data answer => simp [Effect.isWrite] at quiet
  | _ => rfl

namespace Endpoint

variable {Ptr : Type} {site next last : Endpoint Ptr}

/-! ## Field laws of the primitive updates -/

@[simp] theorem emit_self (effect : Effect) : (site.emit effect).self = site.self := rfl
@[simp] theorem emit_conn (effect : Effect) : (site.emit effect).conn = site.conn := rfl
@[simp] theorem emit_poller (effect : Effect) : (site.emit effect).poller = site.poller := rfl
@[simp] theorem emit_effects (effect : Effect) :
    (site.emit effect).effects = site.effects ++ [effect] := rfl

@[simp] theorem setOutput_self (buffer : Buffer) : (site.setOutput buffer).self = site.self := rfl
@[simp] theorem setOutput_poller (buffer : Buffer) :
    (site.setOutput buffer).poller = site.poller := rfl
@[simp] theorem setOutput_effects (buffer : Buffer) :
    (site.setOutput buffer).effects = site.effects := rfl
@[simp] theorem setOutput_state (buffer : Buffer) :
    (site.setOutput buffer).conn.state = site.conn.state := rfl
@[simp] theorem setOutput_name (buffer : Buffer) :
    (site.setOutput buffer).conn.name = site.conn.name := rfl
@[simp] theorem setOutput_channel (buffer : Buffer) :
    (site.setOutput buffer).conn.channel = site.conn.channel := rfl
@[simp] theorem setOutput_output (buffer : Buffer) :
    (site.setOutput buffer).conn.outputBuffer = buffer := rfl

@[simp] theorem setState_self (state : StateE) : (site.setState state).self = site.self := rfl
@[simp] theorem setState_poller (state : StateE) :
    (site.setState state).poller = site.poller := rfl
@[simp] theorem setState_effects (state : StateE) :
    (site.setState state).effects = site.effects := rfl
@[simp] theorem setState_state (state : StateE) : (site.setState state).conn.state = state := rfl
@[simp] theorem setState_name (state : StateE) :
    (site.setState state).conn.name = site.conn.name := rfl
@[simp] theorem setState_channel (state : StateE) :
    (site.setState state).conn.channel = site.conn.channel := rfl
@[simp] theorem setState_output (state : StateE) :
    (site.setState state).conn.outputBuffer = site.conn.outputBuffer := rfl

@[simp] theorem onChannel_self (operation : ChannelOp) :
    (site.onChannel operation).self = site.self := rfl
@[simp] theorem onChannel_effects (operation : ChannelOp) :
    (site.onChannel operation).effects = site.effects := rfl
@[simp] theorem onChannel_state (operation : ChannelOp) :
    (site.onChannel operation).conn.state = site.conn.state := rfl
@[simp] theorem onChannel_name (operation : ChannelOp) :
    (site.onChannel operation).conn.name = site.conn.name := rfl
@[simp] theorem onChannel_output (operation : ChannelOp) :
    (site.onChannel operation).conn.outputBuffer = site.conn.outputBuffer := rfl
@[simp] theorem onChannel_fd (operation : ChannelOp) :
    (site.onChannel operation).conn.channel.fd = site.conn.channel.fd := by
  simp [onChannel]
@[simp] theorem onChannel_tied (operation : ChannelOp) :
    (site.onChannel operation).conn.channel.tied = site.conn.channel.tied := by
  simp [onChannel]
@[simp] theorem onChannel_events (operation : ChannelOp) :
    (site.onChannel operation).conn.channel.events =
      operation.mask site.conn.channel.events := by
  simp [onChannel]

theorem onChannel_agree (operation : ChannelOp) :
    AgreeExcept site.conn.channel.fd site.poller (site.onChannel operation).poller :=
  perform_agreeExcept operation

/-! ## Registration in step with the output buffer -/

/-- An established connection: the kernel watches its descriptor under the
channel's mask, always for reading, and for writing exactly while output is
pending. -/
structure Live (site : Endpoint Ptr) : Prop where
  watched : Watched site.self site.conn.channel site.poller
  reading : site.conn.channel.events.epollin = true
  writing_iff : site.conn.channel.isWriting = true ↔ site.conn.outputBuffer.readable ≠ []

theorem isWriting_eq_epollout (channel : Channel) :
    channel.isWriting = channel.events.epollout := by
  simp [Channel.isWriting, Events.meets, kWriteEvent]

theorem Live.not_writing_iff (live : site.Live) :
    site.conn.channel.isWriting = false ↔ site.conn.outputBuffer.readable = [] := by
  rw [← Bool.not_eq_true, live.writing_iff, not_not]

/-- A step of a connection that stays as it is, with the effects it adds. -/
structure Steady (site next : Endpoint Ptr) (added : List Effect) : Prop where
  self : next.self = site.self
  state : next.conn.state = site.conn.state
  name : next.conn.name = site.conn.name
  fd : next.conn.channel.fd = site.conn.channel.fd
  tied : next.conn.channel.tied = site.conn.channel.tied
  effects : next.effects = site.effects ++ added
  only_local : ∀ effect ∈ added, effect.isLocal = true
  agree : AgreeExcept site.conn.channel.fd site.poller next.poller
  live : site.Live → next.Live

theorem Steady.refl (site : Endpoint Ptr) : Steady site site [] where
  self := rfl
  state := rfl
  name := rfl
  fd := rfl
  tied := rfl
  effects := (List.append_nil _).symm
  only_local := by simp
  agree := .refl _ _
  live := id

theorem Steady.trans {first second : List Effect} (left : Steady site next first)
    (right : Steady next last second) : Steady site last (first ++ second) where
  self := right.self.trans left.self
  state := right.state.trans left.state
  name := right.name.trans left.name
  fd := right.fd.trans left.fd
  tied := right.tied.trans left.tied
  effects := by rw [right.effects, left.effects, List.append_assoc]
  only_local := by
    intro effect member
    rcases List.mem_append.mp member with early | late
    · exact left.only_local effect early
    · exact right.only_local effect late
  agree := left.agree.trans (left.fd ▸ right.agree)
  live := right.live ∘ left.live

theorem Steady.emit {effect : Effect} (isLocal : effect.isLocal = true) :
    Steady site (site.emit effect) [effect] where
  self := rfl
  state := rfl
  name := rfl
  fd := rfl
  tied := rfl
  effects := rfl
  only_local := by simpa using isLocal
  agree := .refl _ _
  live live := ⟨live.watched, live.reading, live.writing_iff⟩

/-- A change to the members that neither the channel nor the output depends on. -/
theorem Steady.ofConn {conn : TcpConnection} (state : conn.state = site.conn.state)
    (name : conn.name = site.conn.name) (channel : conn.channel = site.conn.channel)
    (output : conn.outputBuffer = site.conn.outputBuffer) :
    Steady site { site with conn := conn } [] where
  self := rfl
  state := state
  name := name
  fd := congrArg Channel.fd channel
  tied := congrArg Channel.tied channel
  effects := (List.append_nil _).symm
  only_local := by simp
  agree := .refl _ _
  live live := by
    refine ⟨?_, ?_, ?_⟩
    · dsimp only
      rw [channel]
      exact live.watched
    · dsimp only
      rw [channel]
      exact live.reading
    · dsimp only
      rw [channel, output]
      exact live.writing_iff

theorem Steady.no_close {added : List Effect} (steady : Steady site next added)
    (fresh : site.effects = []) : .closeCallback ∉ next.effects := by
  rw [steady.effects, fresh, List.nil_append]
  intro member
  cases steady.only_local _ member

theorem Live.appendEnabling (live : site.Live) {data : List UInt8} (some_data : data ≠ []) :
    ((site.setOutput (site.conn.outputBuffer.append data)).onChannel .enableWriting).Live := by
  have mask : ChannelOp.mask .enableWriting site.conn.channel.events ≠ kNoneEvent := by
    intro none
    have := congrArg Events.epollin none
    simp [ChannelOp.mask, Events.or, kNoneEvent, live.reading] at this
  have watched := live.watched.perform .enableWriting (by simp) mask
  refine ⟨watched, ?_, ?_⟩
  · simp [ChannelOp.mask, Events.or, live.reading]
  · rw [isWriting_eq_epollout]
    simp [ChannelOp.mask, Events.or, kWriteEvent, some_data]

theorem Live.drained (live : site.Live) {buffer : Buffer} (empty : buffer.readable = []) :
    ((site.setOutput buffer).onChannel .disableWriting).Live := by
  have mask : ChannelOp.mask .disableWriting site.conn.channel.events ≠ kNoneEvent := by
    intro none
    have := congrArg Events.epollin none
    simp [ChannelOp.mask, Events.andNot, kNoneEvent, kWriteEvent, live.reading] at this
  have watched := live.watched.perform .disableWriting (by simp) mask
  refine ⟨watched, ?_, ?_⟩
  · simp [ChannelOp.mask, Events.andNot, kWriteEvent, live.reading]
  · rw [isWriting_eq_epollout]
    simp [ChannelOp.mask, Events.andNot, kWriteEvent, empty]

theorem Live.stillPending (live : site.Live) {buffer : Buffer} (pending : buffer.readable ≠ [])
    (writing : site.conn.channel.isWriting = true) : (site.setOutput buffer).Live :=
  ⟨live.watched, live.reading, by simp [writing, pending]⟩

/-! ## `sendInLoop` -/

/-- The direct write: what the kernel took is the front of the data, and the
kernel was asked only when nothing was pending. -/
structure DirectWrite (site : Endpoint Ptr) (data : List UInt8) (answer : WriteAnswer)
    (progress : SendProgress) (next : Endpoint Ptr) (added : List Effect) : Prop where
  steady : Steady site next added
  conn : next.conn = site.conn
  taken : streamed added = data.take progress.nwrote
  remaining : progress.remaining = data.length - progress.nwrote
  fault : progress.faultError = true → answer.isFault = true
  idle : added ≠ [] → site.conn.outputBuffer.readable = []
  open_end : ∀ effect ∈ added, effect.isShutdownWrite = false

theorem nothing_pending_readable
    (nothing_pending : (!site.conn.channel.isWriting &&
      site.conn.outputBuffer.readableBytes == 0) = true) :
    site.conn.outputBuffer.readable = [] := by
  rw [← Buffer.readableBytes_eq_zero_iff]
  simpa using (Bool.and_eq_true_iff.mp nothing_pending).2

theorem sendInLoopWrite_spec (site : Endpoint Ptr) (data : List UInt8) (answer : WriteAnswer) :
    ∃ added, DirectWrite site data answer (site.sendInLoopWrite data answer).1
      (site.sendInLoopWrite data answer).2 added := by
  unfold sendInLoopWrite
  split
  · next nothing_pending =>
      have idle := nothing_pending_readable nothing_pending
      have wrote : Steady site (site.emit (.write data answer)) [.write data answer] :=
        .emit rfl
      cases answer with
      | accepts count =>
          dsimp only
          split
          · exact ⟨[.write data (.accepts count), .queueWriteComplete],
              { steady := wrote.trans (.emit rfl)
                conn := rfl
                taken := by simp [Effect.accepted, WriteAnswer.accepted]
                remaining := rfl
                fault := by simp
                idle := fun _ => idle
                open_end := by simp [Effect.isShutdownWrite] }⟩
          · exact ⟨[.write data (.accepts count)],
              { steady := wrote
                conn := rfl
                taken := by simp [Effect.accepted, WriteAnswer.accepted]
                remaining := rfl
                fault := by simp
                idle := fun _ => idle
                open_end := by simp [Effect.isShutdownWrite] }⟩
      | fails errno =>
          exact ⟨[.write data (.fails errno)],
            { steady := wrote
              conn := rfl
              taken := by simp [Effect.accepted, WriteAnswer.accepted]
              remaining := by simp
              fault := by cases errno <;> simp [WriteAnswer.isFault]
              idle := fun _ => idle
              open_end := by simp [Effect.isShutdownWrite] }⟩
  · exact ⟨[],
      { steady := .refl site
        conn := rfl
        taken := by simp
        remaining := by simp
        fault := by simp
        idle := by simp
        open_end := by simp }⟩

theorem DirectWrite.stream {data : List UInt8} {answer : WriteAnswer} {progress : SendProgress}
    {added : List Effect} (direct : DirectWrite site data answer progress next added) :
    streamed added ++ site.conn.outputBuffer.readable ++ data.drop progress.nwrote =
      site.conn.outputBuffer.readable ++ data := by
  by_cases nothing : added = []
  · have none_taken : data.take progress.nwrote = [] := by
      rw [← direct.taken, nothing, streamed_nil]
    conv_rhs => rw [← List.take_append_drop progress.nwrote data]
    rw [none_taken, nothing, streamed_nil, List.nil_append, List.nil_append]
  · rw [direct.idle nothing, direct.taken, List.append_nil, List.nil_append,
      List.take_append_drop]

/-- Buffering the rest: no system call on the socket, and unless the write
failed for good the rest of the data is behind the pending output. -/
structure BufferedRest (site : Endpoint Ptr) (data : List UInt8) (progress : SendProgress)
    (next : Endpoint Ptr) (added : List Effect) : Prop where
  steady : Steady site next added
  quiet : ∀ effect ∈ added, effect.isWrite = false ∧ effect.isShutdownWrite = false
  buffered : progress.faultError = false →
    next.conn.outputBuffer.readable =
      site.conn.outputBuffer.readable ++ data.drop progress.nwrote

private theorem append_steady (site : Endpoint Ptr) {rest : List UInt8} (some_rest : rest ≠ []) :
    Steady site
      (if !site.conn.channel.isWriting then
        (site.setOutput (site.conn.outputBuffer.append rest)).onChannel .enableWriting
      else
        site.setOutput (site.conn.outputBuffer.append rest)) [] := by
  by_cases writing : site.conn.channel.isWriting = true
  · simp only [writing, Bool.not_true, Bool.false_eq_true, if_false]
    exact
      { self := rfl, state := rfl, name := rfl, fd := rfl, tied := rfl
        effects := by simp
        only_local := by simp
        agree := .refl _ _
        live := fun live => live.stillPending (by simp [some_rest]) writing }
  · simp only [writing, Bool.not_false, if_true]
    exact
      { self := rfl, state := rfl, name := rfl, fd := by simp, tied := by simp
        effects := by simp
        only_local := by simp
        agree := onChannel_agree .enableWriting
        live := fun live => live.appendEnabling some_rest }

theorem sendInLoopAppend_spec (site : Endpoint Ptr) (data : List UInt8)
    (progress : SendProgress) (counted : progress.remaining = data.length - progress.nwrote) :
    ∃ added, BufferedRest site data progress (site.sendInLoopAppend data progress) added := by
  have rest : (data.drop progress.nwrote).take progress.remaining =
      data.drop progress.nwrote := by
    rw [counted, ← List.length_drop, List.take_length]
  unfold sendInLoopAppend
  split
  · next keeps =>
      have some_rest : data.drop progress.nwrote ≠ [] := by
        have positive : 0 < progress.remaining := by simpa using (Bool.and_eq_true_iff.mp keeps).2
        rw [← List.length_pos_iff, List.length_drop]
        omega
      dsimp only
      rw [rest]
      split
      · refine ⟨[.queueHighWaterMark (site.conn.outputBuffer.readableBytes + progress.remaining)],
          ⟨(Steady.emit rfl).trans (append_steady _ some_rest), ?_, ?_⟩⟩
        · simp [Effect.isWrite, Effect.isShutdownWrite]
        · intro _
          split <;> simp
      · refine ⟨[], ⟨append_steady _ some_rest, by simp, ?_⟩⟩
        intro _
        split <;> simp
  · next drops =>
      refine ⟨[], ⟨.refl site, by simp, ?_⟩⟩
      intro no_fault
      have nothing : progress.remaining = 0 := by simpa [no_fault] using drops
      rw [← rest, nothing, List.take_zero, List.append_nil]

@[simp] theorem sendInLoopAppend_state (data : List UInt8) (progress : SendProgress) :
    (site.sendInLoopAppend data progress).conn.state = site.conn.state := by
  unfold sendInLoopAppend
  split
  · dsimp only
    split <;> split <;> rfl
  · rfl

/-- `sendInLoop` of a connection that is not down: it never half-closes, it
writes only when nothing is pending, and unless the write failed for good the
data is behind everything accepted and pending before. -/
structure Sent (site : Endpoint Ptr) (data : List UInt8) (answer : WriteAnswer)
    (next : Endpoint Ptr) (added : List Effect) : Prop where
  steady : Steady site next added
  open_end : ∀ effect ∈ added, effect.isShutdownWrite = false
  stream : answer.isFault = false →
    streamed added ++ next.conn.outputBuffer.readable =
      site.conn.outputBuffer.readable ++ data

theorem sendInLoopFrom_spec (site : Endpoint Ptr) (data : List UInt8) (answer : WriteAnswer)
    {loaded : StateE} (up : loaded ≠ .kDisconnected) :
    ∃ added, Sent site data answer (sendInLoopFrom loaded site data answer) added := by
  obtain ⟨first, direct⟩ := sendInLoopWrite_spec site data answer
  obtain ⟨second, rest⟩ := sendInLoopAppend_spec (site.sendInLoopWrite data answer).2 data
    (site.sendInLoopWrite data answer).1 direct.remaining
  refine ⟨first ++ second, ?_⟩
  simp only [sendInLoopFrom, if_neg up]
  refine ⟨direct.steady.trans rest.steady, ?_, ?_⟩
  · intro effect member
    rcases List.mem_append.mp member with early | late
    · exact direct.open_end effect early
    · exact (rest.quiet effect late).2
  · intro no_fault
    have kept : (site.sendInLoopWrite data answer).1.faultError = false := by
      rw [← Bool.not_eq_true]
      exact fun faulted => by simp [direct.fault faulted] at no_fault
    have silent : streamed second = [] :=
      streamed_eq_nil fun effect member => (rest.quiet effect member).1
    rw [streamed_append, silent, List.append_nil, rest.buffered kept, direct.conn,
      ← List.append_assoc, direct.stream]

theorem send_connected (up : site.conn.state = .kConnected) (data : List UInt8)
    (answer : WriteAnswer) : ∃ added, Sent site data answer (site.send data answer) added := by
  simp only [send, if_pos up, sendInLoop]
  exact sendInLoopFrom_spec site data answer (by simp [up])

theorem send_not_connected (not_up : site.conn.state ≠ .kConnected) (data : List UInt8)
    (answer : WriteAnswer) : site.send data answer = site := if_neg not_up

theorem sendInLoop_steady (site : Endpoint Ptr) (data : List UInt8) (answer : WriteAnswer) :
    ∃ added, Steady site (site.sendInLoop data answer) added := by
  by_cases down : site.conn.state = .kDisconnected
  · refine ⟨[], ?_⟩
    rw [sendInLoop, sendInLoopFrom, if_pos down]
    exact .refl site
  · obtain ⟨added, sent⟩ := sendInLoopFrom_spec site data answer down
    exact ⟨added, sent.steady⟩

theorem send_steady (site : Endpoint Ptr) (data : List UInt8) (answer : WriteAnswer) :
    ∃ added, Steady site (site.send data answer) added := by
  unfold send
  split
  · exact sendInLoop_steady site data answer
  · exact ⟨[], .refl site⟩

/-! ## `shutdown` -/

theorem shutdownInLoop_writing (writing : site.conn.channel.isWriting = true) :
    site.shutdownInLoop = site := by
  simp [shutdownInLoop, writing]

theorem shutdownInLoop_idle (idle : site.conn.channel.isWriting = false) :
    site.shutdownInLoop = site.emit (.shutdownWrite site.conn.outputBuffer.readable) := by
  simp [shutdownInLoop, idle]

theorem shutdownInLoop_steady (site : Endpoint Ptr) :
    ∃ added, Steady site site.shutdownInLoop added ∧ streamed added = [] := by
  cases writing : site.conn.channel.isWriting with
  | true => exact ⟨[], by rw [shutdownInLoop_writing writing]; exact .refl site, rfl⟩
  | false =>
      exact ⟨[_], by rw [shutdownInLoop_idle writing]; exact .emit rfl,
        by simp [Effect.accepted]⟩

@[simp] theorem shutdownInLoop_conn (site : Endpoint Ptr) :
    site.shutdownInLoop.conn = site.conn := by
  unfold shutdownInLoop
  split <;> rfl

theorem Live.setState (live : site.Live) (state : StateE) : (site.setState state).Live :=
  ⟨live.watched, live.reading, live.writing_iff⟩

/-! ## `handleWrite` -/

/-- `handleWrite` up to its load of `state_`. It writes only for a channel
that asked for `EPOLLOUT`, moves a front part of the pending output to the
kernel, and reports whether that was all of it. -/
structure Flushed (site : Endpoint Ptr) (drained : Bool) (next : Endpoint Ptr)
    (added : List Effect) : Prop where
  steady : Steady site next added
  open_end : ∀ effect ∈ added, effect.isShutdownWrite = false
  stream : streamed added ++ next.conn.outputBuffer.readable = site.conn.outputBuffer.readable
  emptied : drained = true →
    next.conn.outputBuffer.readable = [] ∧ next.conn.channel.isWriting = false
  pending : drained = false → next.conn.outputBuffer.readable = [] →
    site.conn.outputBuffer.readable = []
  idle : site.conn.channel.isWriting = false → drained = false ∧ next = site ∧ added = []

private theorem flush_all (site : Endpoint Ptr) (answer : WriteAnswer) {buffer : Buffer}
    (writing : site.conn.channel.isWriting = true)
    (all : answer.accepted site.conn.outputBuffer.readable = site.conn.outputBuffer.readable)
    (empty : buffer.readable = []) :
    Flushed site true
      (((site.emit (.write site.conn.outputBuffer.writeFd answer)).setOutput buffer).onChannel
        .disableWriting)
      [.write site.conn.outputBuffer.readable answer] where
  steady :=
    { self := rfl, state := rfl, name := rfl, fd := by simp, tied := by simp
      effects := rfl
      only_local := by simp [Effect.isLocal]
      agree := onChannel_agree .disableWriting
      live := fun live =>
        have emitted : (site.emit (.write site.conn.outputBuffer.writeFd answer)).Live :=
          ⟨live.watched, live.reading, live.writing_iff⟩
        emitted.drained empty }
  open_end := by simp [Effect.isShutdownWrite]
  stream := by simp [Effect.accepted, all, empty]
  emptied _ := by
    refine ⟨by simp [empty], ?_⟩
    rw [isWriting_eq_epollout]
    simp [ChannelOp.mask, Events.andNot, kWriteEvent]
  pending := by simp
  idle stopped := by simp [writing] at stopped

theorem accepted_append_drop (answer : WriteAnswer) (request : List UInt8) :
    answer.accepted request ++ request.drop (answer.accepted request).length = request := by
  cases answer with
  | accepts count =>
      simp only [WriteAnswer.accepted, List.length_take]
      rcases Nat.le_total count request.length with few | many
      · rw [Nat.min_eq_left few, List.take_append_drop]
      · rw [Nat.min_eq_right many, List.drop_length, List.append_nil,
          List.take_of_length_le many]
  | fails errno => simp [WriteAnswer.accepted]

theorem handleWriteBody_spec (site : Endpoint Ptr) (answer : WriteAnswer) :
    ∃ added, Flushed site (site.handleWriteBody answer).1 (site.handleWriteBody answer).2
      added := by
  unfold handleWriteBody
  split
  · next writing =>
      have splits := accepted_append_drop answer site.conn.outputBuffer.readable
      have wrote : Steady site (site.emit (.write site.conn.outputBuffer.readable answer))
          [.write site.conn.outputBuffer.readable answer] := .emit rfl
      dsimp only
      split
      · split
        · next empty =>
            have nothing_left : (site.conn.outputBuffer.retrieve
                (answer.accepted site.conn.outputBuffer.readable).length).readable = [] := by
              rw [← Buffer.readableBytes_eq_zero_iff]
              simpa using empty
            have all : answer.accepted site.conn.outputBuffer.readable =
                site.conn.outputBuffer.readable := by
              rw [Buffer.retrieve_readable] at nothing_left
              rwa [nothing_left, List.append_nil] at splits
            have flushed := flush_all site answer writing all nothing_left
            split
            · have queued : Effect.isLocal .queueWriteComplete = true := rfl
              exact ⟨_,
                { steady := flushed.steady.trans (.emit queued)
                  open_end := by simp [Effect.isShutdownWrite]
                  stream := by simpa [Effect.accepted] using flushed.stream
                  emptied := flushed.emptied
                  pending := flushed.pending
                  idle := fun stopped => by simp [writing] at stopped }⟩
            · exact ⟨_, flushed⟩
        · next left =>
            have some_left : (site.conn.outputBuffer.retrieve
                (answer.accepted site.conn.outputBuffer.readable).length).readable ≠ [] := by
              rw [ne_eq, ← Buffer.readableBytes_eq_zero_iff]
              simpa using left
            exact ⟨[.write site.conn.outputBuffer.readable answer],
              { steady :=
                  { self := rfl, state := rfl, name := rfl, fd := rfl, tied := rfl
                    effects := rfl
                    only_local := by simp [Effect.isLocal]
                    agree := .refl _ _
                    live := fun live => (wrote.live live).stillPending some_left writing }
                open_end := by simp [Effect.isShutdownWrite]
                stream := by simpa [Effect.accepted] using splits
                emptied := by simp
                pending := fun _ empty => absurd empty some_left
                idle := fun stopped => by simp [writing] at stopped }⟩
      · next none_taken =>
          have nothing : answer.accepted site.conn.outputBuffer.readable = [] := by
            simpa using none_taken
          exact ⟨[.write site.conn.outputBuffer.readable answer],
            { steady := wrote
              open_end := by simp [Effect.isShutdownWrite]
              stream := by simp [Effect.accepted, nothing]
              emptied := by simp
              pending := fun _ empty => empty
              idle := fun stopped => by simp [writing] at stopped }⟩
  · next stopped =>
      exact ⟨[],
        { steady := .refl site
          open_end := by simp
          stream := by simp
          emptied := by simp
          pending := fun _ empty => empty
          idle := fun _ => ⟨rfl, rfl, rfl⟩ }⟩

theorem handleWriteTail_steady (site : Endpoint Ptr) (loaded : StateE) :
    ∃ added, Steady site (handleWriteTail loaded site) added := by
  unfold handleWriteTail
  split
  · obtain ⟨added, steady, _⟩ := shutdownInLoop_steady site
    exact ⟨added, steady⟩
  · exact ⟨[], .refl site⟩

theorem handleWrite_steady (site : Endpoint Ptr) (answer : WriteAnswer) :
    ∃ added, Steady site (site.handleWrite answer) added := by
  obtain ⟨first, flushed⟩ := handleWriteBody_spec site answer
  simp only [handleWrite]
  split
  · obtain ⟨second, tail⟩ := handleWriteTail_steady (site.handleWriteBody answer).2
      (site.handleWriteBody answer).2.conn.state
    exact ⟨first ++ second, flushed.steady.trans tail⟩
  · exact ⟨first, flushed.steady⟩

/-! ## Opening and closing -/

theorem connectEstablished_live (unknown : Unknown site.conn.channel site.poller)
    (no_events : site.conn.channel.events = kNoneEvent)
    (empty : site.conn.outputBuffer.readable = []) : site.connectEstablished.Live := by
  have tied : Unknown site.conn.channel.tie site.poller := ⟨unknown.index, unknown.stored⟩
  refine ⟨tied.perform .enableReading (by simp), ?_, ?_⟩
  · simp [connectEstablished, Channel.tie, ChannelOp.mask, Events.or, kReadEvent]
  · rw [isWriting_eq_epollout]
    simp [connectEstablished, Channel.tie, ChannelOp.mask, Events.or, kReadEvent, kNoneEvent,
      no_events, empty]

@[simp] theorem connectEstablished_state : site.connectEstablished.conn.state = .kConnected := rfl

@[simp] theorem connectEstablished_effects :
    site.connectEstablished.effects = site.effects ++ [.connectionCallback true] := rfl

@[simp] theorem connectEstablished_output :
    site.connectEstablished.conn.outputBuffer = site.conn.outputBuffer := rfl

@[simp] theorem connectEstablished_fd :
    site.connectEstablished.conn.channel.fd = site.conn.channel.fd := by
  simp [connectEstablished, Channel.tie]

theorem connectEstablished_agree :
    AgreeExcept site.conn.channel.fd site.poller site.connectEstablished.poller :=
  @perform_agreeExcept Ptr site.self site.conn.channel.tie site.poller .enableReading

@[simp] theorem notifyDown_effects :
    site.notifyDown.effects = site.effects ++ [.connectionCallback site.conn.connected] := rfl

theorem notifyDown_stopped : site.notifyDown.conn.channel.isWriting = false := by
  rw [isWriting_eq_epollout]
  simp [notifyDown, ChannelOp.mask, kNoneEvent]

@[simp] theorem handleCloseRest_effects :
    site.handleCloseRest.effects =
      site.effects ++ [.connectionCallback site.conn.connected, .closeCallback] := by
  simp [handleCloseRest]

@[simp] theorem handleClose_state : site.handleClose.conn.state = .kDisconnected := rfl

@[simp] theorem handleClose_effects :
    site.handleClose.effects =
      site.effects ++ [.connectionCallback false, .closeCallback] := by
  simp [handleClose, handleCloseRest, notifyDown, TcpConnection.connected]

@[simp] theorem handleClose_fd :
    site.handleClose.conn.channel.fd = site.conn.channel.fd := by
  simp [handleClose, handleCloseRest, notifyDown]

theorem Live.handleClose (live : site.Live) :
    Unwatched site.self site.handleClose.conn.channel site.handleClose.poller := by
  have unwatched := live.watched.unwatch .disableAll (by simp) rfl
  exact ⟨unwatched.index, unwatched.stored, unwatched.known⟩

theorem handleClose_agree :
    AgreeExcept site.conn.channel.fd site.poller site.handleClose.poller :=
  perform_agreeExcept .disableAll

/-- `handleRead` closes at the end of the stream and otherwise only fills the
input buffer. -/
theorem handleRead_open {answer : ReadAnswer} (more : answer ≠ .yields []) :
    ∃ added, Steady site (site.handleRead answer) added ∧ streamed added = [] ∧
      (site.handleRead answer).conn =
        { site.conn with inputBuffer := (site.conn.inputBuffer.readFd answer).2 } ∧
      ∀ effect ∈ added, effect.isWrite = false ∧ effect.isShutdownWrite = false := by
  have filled (buffer : Buffer) :
      Steady site { site with conn := { site.conn with inputBuffer := buffer } } [] :=
    .ofConn rfl rfl rfl rfl
  cases answer with
  | fails errno => exact ⟨[], filled _, rfl, rfl, by simp⟩
  | yields available =>
      have count := (site.conn.inputBuffer.readFd_yields available).1
      have some_bytes : available.take site.conn.inputBuffer.readCapacity ≠ [] := by
        have capacity : 0 < site.conn.inputBuffer.readCapacity := by
          have extra : 0 < Buffer.extrabufSize := by decide
          unfold Buffer.readCapacity
          split <;> omega
        simp only [ne_eq, List.take_eq_nil_iff, not_or]
        exact ⟨by omega, fun none => more (by rw [none])⟩
      obtain ⟨byte, bytes, shape⟩ := List.exists_cons_of_ne_nil some_bytes
      rw [shape] at count
      refine ⟨[.messageCallback], ?_, by simp [Effect.accepted], ?_, by
        simp [Effect.isWrite, Effect.isShutdownWrite]⟩
      · simp only [Endpoint.handleRead, count]
        exact (filled _).trans (.emit rfl)
      · simp only [Endpoint.handleRead, count]
        rfl

theorem handleRead_eof : site.handleRead (.yields []) =
    ({ site with
      conn := { site.conn with
        inputBuffer := (site.conn.inputBuffer.readFd (.yields [])).2 } }).handleClose := by
  have count := (site.conn.inputBuffer.readFd_yields []).1
  simp only [List.take_nil] at count
  simp only [Endpoint.handleRead, count]

theorem setHighWaterMarkCallback_steady (highWaterMark : Nat) :
    Steady site (site.setHighWaterMarkCallback highWaterMark) [] :=
  .ofConn rfl rfl rfl rfl

theorem retrieveInput_steady (len : Nat) : Steady site (site.retrieveInput len) [] :=
  .ofConn rfl rfl rfl rfl

theorem Live.otherChannel (live : site.Live) {other : Ptr} {channel : Channel}
    {operation : ChannelOp} (different : channel.fd ≠ site.conn.channel.fd) :
    (site.otherChannel other channel operation).Live := by
  have agree : AgreeExcept channel.fd site.poller
      (site.otherChannel other channel operation).poller := perform_agreeExcept operation
  refine ⟨⟨live.watched.index, ?_, ?_⟩, live.reading, live.writing_iff⟩
  · exact (agree.interest _ different.symm).trans live.watched.stored
  · exact (agree.channels _ different.symm).trans live.watched.known

end Endpoint

end TalkSystem.Net
