import TalkSystem.Net.OutputStreamProperties

/-!
# Write-complete and high-water notifications

User code steers its sending by two callbacks that are queued from three
places, each of which sees only the lengths of its own call. Over a whole run
they say what the totals say: everything sent has been accepted, or the output
buffer has just risen to the mark.
-/

set_option autoImplicit false

namespace TalkSystem.Net

open Endpoint

namespace Effect

def isSuccessfulWrite : Effect → Bool
  | .write _ (.accepts _) => true
  | _ => false

def highWaterMark? : Effect → Option Nat
  | .queueHighWaterMark size => some size
  | _ => none

/-- Effects that neither write to the socket nor queue a notification. -/
def isSilent : Effect → Bool
  | .write _ _ | .queueWriteComplete | .queueHighWaterMark _ => false
  | _ => true

end Effect

theorem streamed_silent {added : List Effect}
    (silent : ∀ effect ∈ added, effect.isSilent = true) : streamed added = [] := by
  apply streamed_eq_nil
  intro effect member
  have quiet := silent effect member
  cases effect with
  | write data answer => simp [Effect.isSilent] at quiet
  | _ => rfl

namespace ConnectionOp

variable {Ptr : Type}

/-- The operations behind `connectEstablished`, under write answers with which
`sendInLoop` drops nothing. -/
def NotifiedStep (_ : Endpoint Ptr) : ConnectionOp Ptr → Prop
  | .connectEstablished => False
  | .send _ answer => answer.isFault = false
  | _ => True

def isSend : ConnectionOp Ptr → Bool
  | .send _ _ => true
  | _ => false

def isHandleWrite : ConnectionOp Ptr → Bool
  | .handleWrite _ => true
  | _ => false

/-- The effects that the operation has on the connection in this state. -/
def adds (site : Endpoint Ptr) (operation : ConnectionOp Ptr) : List Effect :=
  (operation.apply site).effects.drop site.effects.length

theorem adds_eq {site : Endpoint Ptr} {operation : ConnectionOp Ptr} {added : List Effect}
    (effects : (operation.apply site).effects = site.effects ++ added) :
    operation.adds site = added := by
  rw [adds, effects, List.drop_left]

end ConnectionOp

/-- The callbacks of the connection and its high-water mark. -/
def TcpConnection.notifications (conn : TcpConnection) : Bool × Bool × Nat :=
  (conn.writeCompleteCallback, conn.highWaterMarkCallback, conn.highWaterMark)

namespace Endpoint

variable {Ptr : Type} {site next last : Endpoint Ptr} {added : List Effect}

/-- What one operation adds to the notifications, in terms of what it finds
and leaves in the output buffer. -/
structure Notifies (site next : Endpoint Ptr) (added : List Effect) : Prop where
  effects : next.effects = site.effects ++ added
  kept : next.conn.notifications = site.conn.notifications
  complete : added.count .queueWriteComplete =
    if (∃ effect ∈ added, effect.isSuccessfulWrite = true) ∧
        next.conn.outputBuffer.readable = [] then 1 else 0
  rising : added.filterMap Effect.highWaterMark? =
    if site.conn.outputBuffer.readableBytes < site.conn.highWaterMark ∧
        site.conn.highWaterMark ≤ next.conn.outputBuffer.readableBytes then
      [next.conn.outputBuffer.readableBytes]
    else
      []

/-- A step that leaves the output of the connection alone. -/
structure Silent (site next : Endpoint Ptr) (added : List Effect) : Prop where
  effects : next.effects = site.effects ++ added
  silent : ∀ effect ∈ added, effect.isSilent = true
  kept : next.conn.notifications = site.conn.notifications
  output : next.conn.outputBuffer = site.conn.outputBuffer

theorem Silent.refl (site : Endpoint Ptr) : Silent site site [] :=
  ⟨(List.append_nil _).symm, by simp, rfl, rfl⟩

theorem Silent.trans {first second : List Effect} (left : Silent site next first)
    (right : Silent next last second) : Silent site last (first ++ second) where
  effects := by rw [right.effects, left.effects, List.append_assoc]
  silent effect member := by
    rcases List.mem_append.mp member with early | late
    · exact left.silent effect early
    · exact right.silent effect late
  kept := right.kept.trans left.kept
  output := right.output.trans left.output

theorem Silent.emit {effect : Effect} (silent : effect.isSilent = true) :
    Silent site (site.emit effect) [effect] :=
  ⟨rfl, by simpa using silent, rfl, rfl⟩

theorem Silent.setState (state : StateE) : Silent site (site.setState state) [] :=
  ⟨(List.append_nil _).symm, by simp, rfl, rfl⟩

theorem Silent.onChannel (operation : ChannelOp) : Silent site (site.onChannel operation) [] :=
  ⟨(List.append_nil _).symm, by simp, rfl, rfl⟩

theorem Silent.no_success (step : Silent site next added) :
    ¬ ∃ effect ∈ added, effect.isSuccessfulWrite = true := by
  intro given
  obtain ⟨effect, member, wrote⟩ := given
  have quiet := step.silent effect member
  cases effect <;> simp_all [Effect.isSilent, Effect.isSuccessfulWrite]

theorem Silent.no_complete (step : Silent site next added) :
    added.count .queueWriteComplete = 0 := by
  rw [List.count_eq_zero]
  intro member
  cases step.silent _ member

theorem Silent.no_mark (step : Silent site next added) :
    added.filterMap Effect.highWaterMark? = [] := by
  rw [List.filterMap_eq_nil_iff]
  intro effect member
  have quiet := step.silent effect member
  cases effect <;> simp_all [Effect.isSilent, Effect.highWaterMark?]

theorem Silent.stream (step : Silent site next added) :
    streamed next.effects ++ next.conn.outputBuffer.readable =
      streamed site.effects ++ site.conn.outputBuffer.readable := by
  rw [step.effects, streamed_append, streamed_silent step.silent, List.append_nil, step.output]

theorem Silent.notifies (step : Silent site next added) : Notifies site next added where
  effects := step.effects
  kept := step.kept
  complete := by rw [if_neg (fun both => step.no_success both.1), step.no_complete]
  rising := by
    have level : ¬ (site.conn.outputBuffer.readableBytes < site.conn.highWaterMark ∧
        site.conn.highWaterMark ≤ next.conn.outputBuffer.readableBytes) := by
      rw [step.output]
      omega
    rw [if_neg level, step.no_mark]

theorem Notifies.silent {more : List Effect} (step : Notifies site next added)
    (quiet : Silent next last more) : Notifies site last (added ++ more) where
  effects := by rw [quiet.effects, step.effects, List.append_assoc]
  kept := quiet.kept.trans step.kept
  complete := by
    have later := quiet.no_success
    rw [List.count_append, quiet.no_complete, Nat.add_zero, step.complete, quiet.output]
    refine if_congr (and_congr_left' ?_) rfl rfl
    simp only [List.mem_append, or_and_right, exists_or, or_iff_left later]
  rising := by
    rw [List.filterMap_append, quiet.no_mark, List.append_nil, step.rising, quiet.output]

/-- `EPOLLOUT` is asked for exactly while output is pending on a connection
that is not down. -/
def WriteInterest (site : Endpoint Ptr) : Prop :=
  site.conn.channel.isWriting = true ↔
    site.conn.state ≠ .kDisconnected ∧ site.conn.outputBuffer.readable ≠ []

theorem WriteInterest.pending_iff (interest : site.WriteInterest)
    (up : site.conn.state ≠ .kDisconnected) :
    site.conn.channel.isWriting = true ↔ site.conn.outputBuffer.readable ≠ [] :=
  interest.trans (and_iff_right up)

theorem writeInterest_down (down : site.conn.state = .kDisconnected)
    (stopped : site.conn.channel.isWriting = false) : site.WriteInterest := by
  simp [WriteInterest, down, stopped]

/-! ## The operations that send nothing -/

theorem shutdownInLoop_silent (site : Endpoint Ptr) :
    ∃ added, Silent site site.shutdownInLoop added := by
  unfold shutdownInLoop
  split
  · exact ⟨_, .emit rfl⟩
  · exact ⟨[], .refl site⟩

theorem shutdown_silent (site : Endpoint Ptr) (interest : site.WriteInterest) :
    (∃ added, Silent site site.shutdown added) ∧ site.shutdown.WriteInterest := by
  unfold Endpoint.shutdown
  split
  · next up =>
      obtain ⟨added, step⟩ := shutdownInLoop_silent (site.setState .kDisconnecting)
      refine ⟨⟨_, (Silent.setState _).trans step⟩, ?_⟩
      rw [WriteInterest, shutdownInLoop_conn, setState_channel, setState_output,
        interest.pending_iff (by simp [up])]
      simp
  · exact ⟨⟨[], .refl site⟩, interest⟩

theorem notifyDown_silent (site : Endpoint Ptr) : ∃ added, Silent site site.notifyDown added :=
  ⟨_, (Silent.onChannel .disableAll).trans (.emit rfl)⟩

theorem handleClose_silent (site : Endpoint Ptr) :
    (∃ added, Silent site site.handleClose added) ∧ site.handleClose.WriteInterest := by
  obtain ⟨added, down⟩ := notifyDown_silent (site.setState .kDisconnected)
  have stopped : (site.setState .kDisconnected).notifyDown.WriteInterest :=
    writeInterest_down rfl notifyDown_stopped
  exact ⟨⟨_, ((Silent.setState _).trans down).trans (.emit rfl)⟩, stopped⟩

theorem remove_isWriting (site : Endpoint Ptr) :
    (site.onChannel .remove).conn.channel.isWriting = site.conn.channel.isWriting := by
  rw [isWriting_eq_epollout, isWriting_eq_epollout, onChannel_events]
  rfl

theorem WriteInterest.remove (interest : site.WriteInterest) :
    (site.onChannel .remove).WriteInterest := by
  rwa [WriteInterest, remove_isWriting]

theorem connectDestroyed_silent (site : Endpoint Ptr) (interest : site.WriteInterest) :
    (∃ added, Silent site site.connectDestroyed added) ∧
      site.connectDestroyed.WriteInterest := by
  unfold connectDestroyed
  split
  · obtain ⟨added, down⟩ := notifyDown_silent (site.setState .kDisconnected)
    have stopped : (site.setState .kDisconnected).notifyDown.WriteInterest :=
      writeInterest_down rfl notifyDown_stopped
    exact ⟨⟨_, ((Silent.setState _).trans down).trans (.onChannel .remove)⟩, stopped.remove⟩
  · exact ⟨⟨_, Silent.onChannel .remove⟩, interest.remove⟩

theorem handleRead_silent (site : Endpoint Ptr) (interest : site.WriteInterest)
    (answer : ReadAnswer) :
    (∃ added, Silent site (site.handleRead answer) added) ∧
      (site.handleRead answer).WriteInterest := by
  have filled : Silent site
      { site with
        conn := { site.conn with inputBuffer := (site.conn.inputBuffer.readFd answer).2 } } [] :=
    ⟨(List.append_nil _).symm, by simp, rfl, rfl⟩
  unfold Endpoint.handleRead
  dsimp only
  split
  · exact ⟨⟨[], filled⟩, interest⟩
  · obtain ⟨⟨added, closed⟩, down⟩ := handleClose_silent
      { site with
        conn := { site.conn with inputBuffer := (site.conn.inputBuffer.readFd answer).2 } }
    exact ⟨⟨_, filled.trans closed⟩, down⟩
  · exact ⟨⟨_, filled.trans (.emit rfl)⟩, interest⟩

/-! ## `sendInLoop` -/

/-- The direct write queues the notification when it leaves nothing over, and
is made only when nothing was pending. -/
structure DirectNotice (site : Endpoint Ptr) (progress : SendProgress) (next : Endpoint Ptr)
    (added : List Effect) : Prop where
  effects : next.effects = site.effects ++ added
  complete : added.count .queueWriteComplete =
    if (∃ effect ∈ added, effect.isSuccessfulWrite = true) ∧ progress.remaining = 0 then 1 else 0
  no_mark : added.filterMap Effect.highWaterMark? = []
  idle : (∃ effect ∈ added, effect.isSuccessfulWrite = true) →
    site.conn.outputBuffer.readable = []

theorem sendInLoopWrite_notice (write_complete : site.conn.writeCompleteCallback = true)
    (data : List UInt8) (answer : WriteAnswer) :
    ∃ added, DirectNotice site (site.sendInLoopWrite data answer).1
      (site.sendInLoopWrite data answer).2 added := by
  unfold sendInLoopWrite
  split
  · next nothing_pending =>
      have idle := nothing_pending_readable nothing_pending
      cases answer with
      | accepts count =>
          dsimp only
          split
          · next all =>
              have nothing_left : data.length - min count data.length = 0 := by
                simpa using (Bool.and_eq_true_iff.mp all).1
              exact ⟨[.write data (.accepts count), .queueWriteComplete],
                { effects := by simp
                  complete := by simp [nothing_left, Effect.isSuccessfulWrite]
                  no_mark := rfl
                  idle := fun _ => idle }⟩
          · next some_left =>
              have left : data.length - min count data.length ≠ 0 := by
                simpa [write_complete] using some_left
              exact ⟨[.write data (.accepts count)],
                { effects := by simp
                  complete := by simp [left]
                  no_mark := rfl
                  idle := fun _ => idle }⟩
      | fails errno =>
          exact ⟨[.write data (.fails errno)],
            { effects := by simp
              complete := by simp [Effect.isSuccessfulWrite]
              no_mark := rfl
              idle := fun _ => idle }⟩
  · exact ⟨[],
      { effects := by simp
        complete := by simp
        no_mark := rfl
        idle := by simp }⟩

/-- Buffering the rest queues nothing but the rise to the mark, and asks for
`EPOLLOUT` if there is a rest. -/
structure RestNotice (site : Endpoint Ptr) (progress : SendProgress) (next : Endpoint Ptr)
    (added : List Effect) : Prop where
  effects : next.effects = site.effects ++ added
  kept : next.conn.notifications = site.conn.notifications
  mark_only : ∀ effect ∈ added, effect.highWaterMark?.isSome = true
  rising : added.filterMap Effect.highWaterMark? =
    if site.conn.outputBuffer.readableBytes < site.conn.highWaterMark ∧ site.conn.highWaterMark ≤
        site.conn.outputBuffer.readableBytes + progress.remaining then
      [site.conn.outputBuffer.readableBytes + progress.remaining]
    else
      []
  writing : next.conn.channel.isWriting = true ↔
    site.conn.channel.isWriting = true ∨ progress.remaining ≠ 0

theorem enableWriting_isWriting (site : Endpoint Ptr) :
    (site.onChannel .enableWriting).conn.channel.isWriting = true := by
  rw [isWriting_eq_epollout]
  simp [ChannelOp.mask, Events.or, kWriteEvent]

theorem disableWriting_isWriting (site : Endpoint Ptr) :
    (site.onChannel .disableWriting).conn.channel.isWriting = false := by
  rw [isWriting_eq_epollout]
  simp [ChannelOp.mask, Events.andNot, kWriteEvent]

/-- The last two statements of `sendInLoop`. -/
private theorem append_quiet (site : Endpoint Ptr) (buffer : Buffer) :
    let enabled := if !site.conn.channel.isWriting then
      (site.setOutput buffer).onChannel .enableWriting else site.setOutput buffer
    enabled.effects = site.effects ∧ enabled.conn.notifications = site.conn.notifications ∧
      enabled.conn.channel.isWriting = true := by
  cases writing : site.conn.channel.isWriting with
  | true => exact ⟨rfl, rfl, writing⟩
  | false => exact ⟨rfl, rfl, enableWriting_isWriting _⟩

theorem sendInLoopAppend_notice (high_water : site.conn.highWaterMarkCallback = true)
    (data : List UInt8) {progress : SendProgress} (no_fault : progress.faultError = false) :
    ∃ added, RestNotice site progress (site.sendInLoopAppend data progress) added := by
  by_cases nothing : progress.remaining = 0
  · have unchanged : site.sendInLoopAppend data progress = site := by
      simp [sendInLoopAppend, nothing]
    rw [unchanged]
    refine ⟨[], (List.append_nil _).symm, rfl, by simp, ?_, by simp [nothing]⟩
    rw [if_neg (by omega)]
    rfl
  · have keeps : (!progress.faultError && decide (0 < progress.remaining)) = true := by
      simp [no_fault, Nat.pos_iff_ne_zero, nothing]
    simp only [sendInLoopAppend, if_pos keeps]
    by_cases crosses : site.conn.outputBuffer.readableBytes < site.conn.highWaterMark ∧
        site.conn.highWaterMark ≤ site.conn.outputBuffer.readableBytes + progress.remaining
    · have rises : (decide (site.conn.highWaterMark ≤
          site.conn.outputBuffer.readableBytes + progress.remaining) &&
            decide (site.conn.outputBuffer.readableBytes < site.conn.highWaterMark) &&
            site.conn.highWaterMarkCallback) = true := by
        simp [crosses.1, crosses.2, high_water]
      rw [if_pos rises]
      obtain ⟨effects, kept, writing⟩ := append_quiet
        (site.emit (.queueHighWaterMark
          (site.conn.outputBuffer.readableBytes + progress.remaining)))
        (site.conn.outputBuffer.append ((data.drop progress.nwrote).take progress.remaining))
      refine ⟨[.queueHighWaterMark (site.conn.outputBuffer.readableBytes + progress.remaining)],
        effects, kept, by simp [Effect.highWaterMark?], ?_, ?_⟩
      · rw [if_pos crosses]
        rfl
      · exact iff_of_true writing (.inr nothing)
    · have stays : ¬ (decide (site.conn.highWaterMark ≤
          site.conn.outputBuffer.readableBytes + progress.remaining) &&
            decide (site.conn.outputBuffer.readableBytes < site.conn.highWaterMark) &&
            site.conn.highWaterMarkCallback) = true := by
        simp only [high_water, Bool.and_true, Bool.and_eq_true, decide_eq_true_eq]
        exact fun both => crosses ⟨both.2, both.1⟩
      rw [if_neg stays]
      obtain ⟨effects, kept, writing⟩ := append_quiet site
        (site.conn.outputBuffer.append ((data.drop progress.nwrote).take progress.remaining))
      refine ⟨[], effects.trans (List.append_nil _).symm, kept, by simp, ?_, ?_⟩
      · rw [if_neg crosses]
        rfl
      · exact iff_of_true writing (.inr nothing)

/-- The two halves together: the direct write found nothing pending if it
succeeded, so it leaves nothing over exactly if the buffer is empty at the end. -/
theorem DirectNotice.append {progress : SendProgress} {first second : List Effect}
    {rest : List UInt8} (direct : DirectNotice site progress next first)
    (same : next.conn = site.conn) (appended : RestNotice next progress last second)
    (buffered : last.conn.outputBuffer.readable = site.conn.outputBuffer.readable ++ rest)
    (counted : rest.length = progress.remaining) : Notifies site last (first ++ second) where
  effects := by rw [appended.effects, direct.effects, List.append_assoc]
  kept := by rw [appended.kept, same]
  complete := by
    have no_complete : second.count .queueWriteComplete = 0 := by
      rw [List.count_eq_zero]
      intro member
      cases appended.mark_only _ member
    have no_write : ∀ effect ∈ second, effect.isSuccessfulWrite = false := by
      intro effect member
      have mark := appended.mark_only effect member
      cases effect <;> simp_all [Effect.isSuccessfulWrite, Effect.highWaterMark?]
    have same_writes : (∃ effect ∈ first ++ second, effect.isSuccessfulWrite = true) ↔
        ∃ effect ∈ first, effect.isSuccessfulWrite = true := by
      constructor
      · intro given
        obtain ⟨effect, member, wrote⟩ := given
        rcases List.mem_append.mp member with early | late
        · exact ⟨effect, early, wrote⟩
        · simp [no_write effect late] at wrote
      · intro given
        obtain ⟨effect, member, wrote⟩ := given
        exact ⟨effect, List.mem_append_left _ member, wrote⟩
    have nothing_left : (∃ effect ∈ first, effect.isSuccessfulWrite = true) →
        (progress.remaining = 0 ↔ last.conn.outputBuffer.readable = []) := by
      intro wrote
      rw [buffered, direct.idle wrote, List.nil_append, ← counted, List.length_eq_zero_iff]
    rw [List.count_append, no_complete, Nat.add_zero, direct.complete]
    exact if_congr (by rw [same_writes]; exact and_congr_right nothing_left) rfl rfl
  rising := by
    have level : last.conn.outputBuffer.readableBytes =
        next.conn.outputBuffer.readableBytes + progress.remaining := by
      rw [← Buffer.readable_length, ← Buffer.readable_length, buffered, List.length_append,
        counted, same]
    rw [List.filterMap_append, direct.no_mark, List.nil_append, appended.rising, level, same]

theorem send_notifies (write_complete : site.conn.writeCompleteCallback = true)
    (high_water : site.conn.highWaterMarkCallback = true)
    (up : site.conn.state = .kConnected) (interest : site.WriteInterest) (data : List UInt8)
    {answer : WriteAnswer} (no_fault : answer.isFault = false) :
    (∃ added, Notifies site (site.send data answer) added) ∧
      (site.send data answer).WriteInterest ∧
      site.conn.outputBuffer.readableBytes ≤
        (site.send data answer).conn.outputBuffer.readableBytes := by
  obtain ⟨written, direct⟩ := sendInLoopWrite_spec site data answer
  have kept : (site.sendInLoopWrite data answer).1.faultError = false := by
    rw [← Bool.not_eq_true]
    exact fun faulted => by simp [direct.fault faulted] at no_fault
  obtain ⟨buffered, rest⟩ := sendInLoopAppend_spec (site.sendInLoopWrite data answer).2 data
    (site.sendInLoopWrite data answer).1 direct.remaining
  obtain ⟨first, wrote⟩ := sendInLoopWrite_notice write_complete data answer
  have high_water_written :
      (site.sendInLoopWrite data answer).2.conn.highWaterMarkCallback = true := by
    rw [direct.conn, high_water]
  obtain ⟨second, appended⟩ := sendInLoopAppend_notice high_water_written data kept
  have sent : site.send data answer = (site.sendInLoopWrite data answer).2.sendInLoopAppend data
      (site.sendInLoopWrite data answer).1 := by
    simp [Endpoint.send, sendInLoop, sendInLoopFrom, up]
  have output := rest.buffered kept
  rw [direct.conn] at output
  have counted : (data.drop (site.sendInLoopWrite data answer).1.nwrote).length =
      (site.sendInLoopWrite data answer).1.remaining := by
    rw [List.length_drop, direct.remaining]
  rw [sent]
  refine ⟨⟨_, wrote.append direct.conn appended output counted⟩, ?_, ?_⟩
  swap
  · rw [← Buffer.readable_length, ← Buffer.readable_length, output, List.length_append]
    exact Nat.le_add_right _ _
  have still_up : ((site.sendInLoopWrite data answer).2.sendInLoopAppend data
      (site.sendInLoopWrite data answer).1).conn.state = .kConnected := by
    rw [sendInLoopAppend_state, direct.conn, up]
  have pending := interest.pending_iff (by simp [up])
  rw [WriteInterest, appended.writing, direct.conn, pending, still_up, output, ← counted]
  simp only [ne_eq, List.length_eq_zero_iff, List.append_eq_nil_iff, not_and_or, reduceCtorEq,
    not_false_eq_true, true_and]

/-! ## `handleWrite` -/

/-- `handleWrite` up to its load of `state_` queues the notification when it
has drained the buffer, and stops asking for `EPOLLOUT` with it. -/
structure FlushNotice (site : Endpoint Ptr) (drained : Bool) (next : Endpoint Ptr)
    (added : List Effect) : Prop where
  effects : next.effects = site.effects ++ added
  kept : next.conn.notifications = site.conn.notifications
  complete : added.count .queueWriteComplete = if drained = true then 1 else 0
  wrote : drained = true → ∃ effect ∈ added, effect.isSuccessfulWrite = true
  no_mark : added.filterMap Effect.highWaterMark? = []
  writing : next.conn.channel.isWriting = true ↔
    site.conn.channel.isWriting = true ∧ drained = false

theorem handleWriteBody_notice (write_complete : site.conn.writeCompleteCallback = true)
    (answer : WriteAnswer) :
    ∃ added, FlushNotice site (site.handleWriteBody answer).1 (site.handleWriteBody answer).2
      added := by
  have untouched : FlushNotice site false (site.emit (.write site.conn.outputBuffer.writeFd answer))
      [.write site.conn.outputBuffer.writeFd answer] :=
    { effects := rfl
      kept := rfl
      complete := rfl
      wrote := by simp
      no_mark := rfl
      writing := by simp }
  unfold handleWriteBody
  split
  · next writing =>
      dsimp only
      split
      · next taken =>
          have success : (Effect.write site.conn.outputBuffer.writeFd answer).isSuccessfulWrite =
              true := by
            cases answer with
            | accepts count => rfl
            | fails errno => simp [WriteAnswer.accepted] at taken
          split
          · split
            · exact ⟨[.write site.conn.outputBuffer.writeFd answer, .queueWriteComplete],
                { effects := by simp
                  kept := rfl
                  complete := rfl
                  wrote := fun _ => ⟨_, List.mem_cons_self, success⟩
                  no_mark := rfl
                  writing := by simp [disableWriting_isWriting] }⟩
            · next unset => exact absurd write_complete unset
          · exact ⟨_, ⟨untouched.effects, untouched.kept, untouched.complete, untouched.wrote,
              untouched.no_mark, untouched.writing⟩⟩
      · exact ⟨_, untouched⟩
  · exact ⟨[],
      { effects := (List.append_nil _).symm
        kept := rfl
        complete := rfl
        wrote := by simp
        no_mark := rfl
        writing := by simp }⟩

theorem handleWriteTail_silent (loaded : StateE) (site : Endpoint Ptr) :
    ∃ added, Silent site (handleWriteTail loaded site) added ∧
      (handleWriteTail loaded site).conn = site.conn := by
  unfold handleWriteTail
  split
  · obtain ⟨added, step⟩ := shutdownInLoop_silent site
    exact ⟨added, step, shutdownInLoop_conn site⟩
  · exact ⟨[], .refl site, rfl⟩

/-- A flush of a channel that asks for `EPOLLOUT` only with output pending. -/
theorem FlushNotice.notifies {drained : Bool} {flushed : List Effect}
    (notice : FlushNotice site drained next added) (flush : Flushed site drained next flushed)
    (interest : site.WriteInterest) : Notifies site next added where
  effects := notice.effects
  kept := notice.kept
  complete := by
    have same : flushed = added :=
      List.append_cancel_left (flush.steady.effects.symm.trans notice.effects)
    rw [notice.complete]
    refine if_congr ⟨fun all => ⟨notice.wrote all, (flush.emptied all).1⟩, ?_⟩ rfl rfl
    intro given
    obtain ⟨⟨effect, member, _⟩, empty⟩ := given
    by_contra short
    -- A write without a drain left output that was pending before.
    have asked : site.conn.channel.isWriting = true := by
      by_contra stopped
      rw [← same, (flush.idle (by simpa using stopped)).2.2] at member
      cases member
    exact (interest.mp asked).2 (flush.pending (by simpa using short) empty)
  rising := by
    have falls : next.conn.outputBuffer.readableBytes ≤ site.conn.outputBuffer.readableBytes := by
      rw [← Buffer.readable_length, ← Buffer.readable_length, ← flush.stream, List.length_append]
      exact Nat.le_add_left _ _
    rw [notice.no_mark, if_neg (by omega)]

theorem FlushNotice.writeInterest {drained : Bool} {flushed : List Effect}
    (notice : FlushNotice site drained next added) (flush : Flushed site drained next flushed)
    (interest : site.WriteInterest) : next.WriteInterest := by
  rw [WriteInterest, notice.writing, flush.steady.state]
  constructor
  · intro given
    obtain ⟨asked, short⟩ := given
    obtain ⟨up, pending⟩ := interest.mp asked
    exact ⟨up, fun empty => pending (flush.pending short empty)⟩
  · intro given
    obtain ⟨up, left⟩ := given
    have pending : site.conn.outputBuffer.readable ≠ [] := by
      rw [← flush.stream]
      simp [left]
    refine ⟨interest.mpr ⟨up, pending⟩, ?_⟩
    rw [← Bool.not_eq_true]
    exact fun all => left (flush.emptied all).1

theorem handleWrite_notifies (write_complete : site.conn.writeCompleteCallback = true)
    (interest : site.WriteInterest) (answer : WriteAnswer) :
    (∃ added, Notifies site (site.handleWrite answer) added) ∧
      (site.handleWrite answer).WriteInterest ∧
      streamed (site.handleWrite answer).effects ++
          (site.handleWrite answer).conn.outputBuffer.readable =
        streamed site.effects ++ site.conn.outputBuffer.readable := by
  obtain ⟨flushed, flush⟩ := handleWriteBody_spec site answer
  obtain ⟨added, notice⟩ := handleWriteBody_notice write_complete answer
  have notifies := notice.notifies flush interest
  have still := notice.writeInterest flush interest
  have stream : streamed (site.handleWriteBody answer).2.effects ++
      (site.handleWriteBody answer).2.conn.outputBuffer.readable =
        streamed site.effects ++ site.conn.outputBuffer.readable := by
    rw [flush.steady.effects, streamed_append, List.append_assoc, flush.stream]
  simp only [Endpoint.handleWrite]
  split
  · obtain ⟨more, quiet, same⟩ := handleWriteTail_silent
      (site.handleWriteBody answer).2.conn.state (site.handleWriteBody answer).2
    refine ⟨⟨_, notifies.silent quiet⟩, ?_, quiet.stream.trans stream⟩
    rwa [WriteInterest, same]
  · exact ⟨⟨added, notifies⟩, still, stream⟩

end Endpoint

/-! ## Runs -/

variable {Ptr : Type}

structure Notifying (site : Endpoint Ptr) : Prop where
  write_complete : site.conn.writeCompleteCallback = true
  high_water : site.conn.highWaterMarkCallback = true
  interest : site.WriteInterest

/-- The law of one operation: its notifications, what it adds to the stream,
and that only `handleWrite` shrinks the output buffer. -/
structure NotifyingStep (site : Endpoint Ptr) (operation : ConnectionOp Ptr)
    (next : Endpoint Ptr) (added : List Effect) : Prop where
  notifies : Notifies site next added
  interest : next.WriteInterest
  stream : streamed next.effects ++ next.conn.outputBuffer.readable =
    streamed site.effects ++ site.conn.outputBuffer.readable ++ operation.sentBy site
  keeps : operation.isHandleWrite = false →
    site.conn.outputBuffer.readableBytes ≤ next.conn.outputBuffer.readableBytes
  writer : (∃ effect ∈ added, effect.isSuccessfulWrite = true) →
    operation.isSend = true ∨ operation.isHandleWrite = true

theorem NotifyingStep.silent {site next : Endpoint Ptr} {operation : ConnectionOp Ptr}
    (quiet : (∃ added, Silent site next added) ∧ next.WriteInterest)
    (nothing : operation.sentBy site = []) :
    ∃ added, NotifyingStep site operation next added := by
  obtain ⟨⟨added, step⟩, interest⟩ := quiet
  exact ⟨added,
    { notifies := step.notifies
      interest := interest
      stream := by rw [nothing, List.append_nil, step.stream]
      keeps := fun _ => Nat.le_of_eq (congrArg Buffer.readableBytes step.output).symm
      writer := fun wrote => absurd wrote step.no_success }⟩

theorem Notifying.step {site : Endpoint Ptr} (inv : Notifying site)
    (operation : ConnectionOp Ptr) (allowed : operation.NotifiedStep site) :
    ∃ added, NotifyingStep site operation (operation.apply site) added := by
  cases operation with
  | connectEstablished => exact allowed.elim
  | send data answer =>
      by_cases up : site.conn.state = .kConnected
      · obtain ⟨⟨added, notifies⟩, interest, grows⟩ :=
          send_notifies inv.write_complete inv.high_water up inv.interest data allowed
        obtain ⟨written, sent⟩ := send_connected up data answer
        refine ⟨added, notifies, interest, ?_, fun _ => grows, fun _ => .inl rfl⟩
        rw [ConnectionOp.apply, sent.steady.effects, streamed_append, List.append_assoc,
          sent.stream allowed, ConnectionOp.sentBy, if_pos up, List.append_assoc]
      · refine NotifyingStep.silent ?_ (if_neg up)
        rw [ConnectionOp.apply, send_not_connected up]
        exact ⟨⟨[], .refl site⟩, inv.interest⟩
  | handleWrite answer =>
      obtain ⟨⟨added, notifies⟩, interest, stream⟩ :=
        handleWrite_notifies inv.write_complete inv.interest answer
      exact ⟨added, notifies, interest, stream.trans (List.append_nil _).symm,
        by simp [ConnectionOp.isHandleWrite], fun _ => .inr rfl⟩
  | shutdown => exact NotifyingStep.silent (shutdown_silent site inv.interest) rfl
  | handleRead answer => exact NotifyingStep.silent (handleRead_silent site inv.interest answer) rfl
  | handleClose => exact NotifyingStep.silent (handleClose_silent site) rfl
  | connectDestroyed => exact NotifyingStep.silent (connectDestroyed_silent site inv.interest) rfl
  | handleError => exact NotifyingStep.silent ⟨⟨[], .refl site⟩, inv.interest⟩ rfl
  | retrieveInput len =>
      exact NotifyingStep.silent
        ⟨⟨[], ⟨(List.append_nil _).symm, by simp, rfl, rfl⟩⟩, inv.interest⟩ rfl
  | otherChannel other channel operation =>
      exact NotifyingStep.silent
        ⟨⟨[], ⟨(List.append_nil _).symm, by simp, rfl, rfl⟩⟩, inv.interest⟩ rfl

theorem NotifyingStep.notifying {site next : Endpoint Ptr} {operation : ConnectionOp Ptr}
    {added : List Effect} (step : NotifyingStep site operation next added)
    (inv : Notifying site) : Notifying next := by
  have kept := step.notifies.kept
  simp only [TcpConnection.notifications, Prod.mk.injEq] at kept
  exact ⟨kept.1.trans inv.write_complete, kept.2.1.trans inv.high_water, step.interest⟩

/-- A step that sends nothing does not fill the buffer. -/
theorem NotifyingStep.shrinks {site next : Endpoint Ptr} {operation : ConnectionOp Ptr}
    {added : List Effect} (step : NotifyingStep site operation next added)
    (no_send : operation.isSend = false) :
    next.conn.outputBuffer.readableBytes ≤ site.conn.outputBuffer.readableBytes := by
  have nothing : operation.sentBy site = [] := by
    cases operation with
    | send data answer => simp [ConnectionOp.isSend] at no_send
    | _ => rfl
  have lengths := congrArg List.length step.stream
  rw [step.notifies.effects, streamed_append, nothing] at lengths
  simp only [List.length_append, List.length_nil, Buffer.readable_length] at lengths
  omega

/-- A run keeps the callbacks and the mark, and every byte sent has been
accepted or is still in the output buffer. -/
theorem Notifying.run {site final : Endpoint Ptr} {operations : List (ConnectionOp Ptr)}
    (run : (loopThread Ptr).Runs ConnectionOp.NotifiedStep site operations final)
    (inv : Notifying site) :
    Notifying final ∧ final.conn.highWaterMark = site.conn.highWaterMark ∧
      streamed final.effects ++ final.conn.outputBuffer.readable =
        streamed site.effects ++ site.conn.outputBuffer.readable ++
          sentWhileConnected site operations := by
  induction run with
  | nil => exact ⟨inv, rfl, by simp [sentWhileConnected]⟩
  | @cons state next final operation rest allowed taken _ ih =>
      cases taken
      obtain ⟨added, step⟩ := inv.step operation allowed
      obtain ⟨inv_final, mark, stream⟩ := ih (step.notifying inv)
      have kept := step.notifies.kept
      simp only [TcpConnection.notifications, Prod.mk.injEq] at kept
      refine ⟨inv_final, mark.trans kept.2.2, ?_⟩
      rw [stream, step.stream, sentWhileConnected, List.append_assoc]

theorem Endpoint.Fresh.notifying {site : Endpoint Ptr} (fresh : site.Fresh)
    (write_complete : site.conn.writeCompleteCallback = true)
    (high_water : site.conn.highWaterMarkCallback = true) :
    Notifying site.connectEstablished where
  write_complete := write_complete
  high_water := high_water
  interest := by
    rw [WriteInterest, fresh.established.writing_iff]
    simp

/-- The notifications of one operation by what the connection has done in all
since `start`, where `operations` have led it to `site`. -/
structure NotifiesByTotals (start : Endpoint Ptr) (operations : List (ConnectionOp Ptr))
    (site : Endpoint Ptr) (operation : ConnectionOp Ptr) : Prop where
  effects : (operation.apply site).effects = site.effects ++ operation.adds site
  write_complete : (operation.adds site).count .queueWriteComplete =
    if (operation.isSend = true ∨ operation.isHandleWrite = true) ∧
        (∃ effect ∈ operation.adds site, effect.isSuccessfulWrite = true) ∧
        streamed (operation.apply site).effects =
          sentWhileConnected start (operations ++ [operation]) then
      1
    else
      0
  high_water : (operation.adds site).filterMap Effect.highWaterMark? =
    if operation.isSend = true ∧
        site.conn.outputBuffer.readableBytes < start.conn.highWaterMark ∧
        start.conn.highWaterMark ≤
          (operation.apply site).conn.outputBuffer.readableBytes then
      [(operation.apply site).conn.outputBuffer.readableBytes]
    else
      []

theorem Notifying.by_totals {start site : Endpoint Ptr} {operation : ConnectionOp Ptr}
    {operations : List (ConnectionOp Ptr)} (inv : Notifying start)
    (unsent : streamed start.effects = []) (empty : start.conn.outputBuffer.readable = [])
    (run : (loopThread Ptr).Runs ConnectionOp.NotifiedStep start operations site)
    (allowed : operation.NotifiedStep site) :
    NotifiesByTotals start operations site operation := by
  obtain ⟨inv_site, mark, _⟩ := inv.run run
  obtain ⟨_, _, stream⟩ := inv.run (run.concat allowed rfl)
  obtain ⟨added, step⟩ := inv_site.step operation allowed
  rw [unsent, empty, List.nil_append, List.nil_append] at stream
  have adds := ConnectionOp.adds_eq step.notifies.effects
  refine ⟨by rw [adds, step.notifies.effects], ?_, ?_⟩
  · rw [adds, step.notifies.complete]
    refine if_congr ?_ rfl rfl
    rw [← stream, List.self_eq_append_right]
    constructor
    · intro given
      obtain ⟨wrote, drained⟩ := given
      exact ⟨step.writer wrote, wrote, drained⟩
    · exact And.right
  · rw [adds, step.notifies.rising, mark]
    refine if_congr ?_ rfl rfl
    rw [iff_and_self]
    intro crosses
    by_contra no_send
    have shrinks := step.shrinks (by simpa using no_send)
    omega

def ConnectionOp.QueuesHighWaterMark (site : Endpoint Ptr) (operation : ConnectionOp Ptr) :
    Prop :=
  ∃ size, .queueHighWaterMark size ∈ operation.adds site

/-- Some `handleWrite` among the operations brings the output buffer below the
mark. -/
def FallsBelow (mark : Nat) (site : Endpoint Ptr) (operations : List (ConnectionOp Ptr)) :
    Prop :=
  ∃ early answer rest full, operations = early ++ .handleWrite answer :: rest ∧
    (loopThread Ptr).Runs ConnectionOp.NotifiedStep site early full ∧
    mark ≤ full.conn.outputBuffer.readableBytes ∧
    (full.handleWrite answer).conn.outputBuffer.readableBytes < mark

theorem Notifying.queues_rising {site : Endpoint Ptr} (inv : Notifying site)
    {operation : ConnectionOp Ptr} (allowed : operation.NotifiedStep site)
    (queues : operation.QueuesHighWaterMark site) :
    site.conn.outputBuffer.readableBytes < site.conn.highWaterMark ∧
      site.conn.highWaterMark ≤ (operation.apply site).conn.outputBuffer.readableBytes := by
  obtain ⟨added, step⟩ := inv.step operation allowed
  obtain ⟨size, member⟩ := queues
  rw [ConnectionOp.adds_eq step.notifies.effects] at member
  have sizes : size ∈ added.filterMap Effect.highWaterMark? :=
    List.mem_filterMap.mpr ⟨_, member, rfl⟩
  rw [step.notifies.rising] at sizes
  by_contra stays
  rw [if_neg stays] at sizes
  cases sizes

theorem Notifying.falls_below {start final : Endpoint Ptr} {operations : List (ConnectionOp Ptr)}
    {mark : Nat} (inv : Notifying start)
    (run : (loopThread Ptr).Runs ConnectionOp.NotifiedStep start operations final)
    (high : mark ≤ start.conn.outputBuffer.readableBytes)
    (low : final.conn.outputBuffer.readableBytes < mark) : FallsBelow mark start operations := by
  obtain ⟨early, operation, rest, full, next, split, run_early, allowed, taken, above, below⟩ :=
    run.exists_losing_step (fun state => mark ≤ state.conn.outputBuffer.readableBytes) high
      (Nat.not_le.mpr low)
  cases taken
  obtain ⟨added, step⟩ := (inv.run run_early).1.step operation allowed
  cases operation with
  | handleWrite answer =>
      exact ⟨early, answer, rest, full, split, run_early, above, Nat.not_le.mp below⟩
  | _ => exact absurd (Nat.le_trans above (step.keeps rfl)) below

/-- The notifications of a connection from `connectEstablished` on, over runs
of any length that may end in a close, and for every high-water mark. -/
theorem notifications_exact (site : Endpoint Ptr) (fresh : site.Fresh)
    (write_complete : site.conn.writeCompleteCallback = true)
    (high_water : site.conn.highWaterMarkCallback = true) :
    (∀ (operations : List (ConnectionOp Ptr)) (before : Endpoint Ptr)
        (operation : ConnectionOp Ptr),
      (loopThread Ptr).Runs ConnectionOp.NotifiedStep site.connectEstablished operations before →
      operation.NotifiedStep before →
      NotifiesByTotals site.connectEstablished operations before operation) ∧
    (∀ (operations middle : List (ConnectionOp Ptr)) (before between : Endpoint Ptr)
        (first second : ConnectionOp Ptr),
      (loopThread Ptr).Runs ConnectionOp.NotifiedStep site.connectEstablished operations before →
      first.NotifiedStep before → first.QueuesHighWaterMark before →
      (loopThread Ptr).Runs ConnectionOp.NotifiedStep (first.apply before) middle between →
      second.NotifiedStep between → second.QueuesHighWaterMark between →
      FallsBelow site.conn.highWaterMark (first.apply before) middle) := by
  have inv := fresh.notifying write_complete high_water
  constructor
  · intro operations before operation run allowed
    have unsent : streamed site.connectEstablished.effects = [] := by
      simp [fresh.effects, Effect.accepted]
    have empty : site.connectEstablished.conn.outputBuffer.readable = [] := by
      rw [connectEstablished_output, fresh.output, Buffer.new_readable]
    exact inv.by_totals unsent empty run allowed
  · intro operations middle before between first second run first_allowed first_queues run_between
      second_allowed second_queues
    obtain ⟨inv_before, mark, _⟩ := inv.run run
    obtain ⟨inv_after, mark_after, _⟩ := inv.run (run.concat first_allowed rfl)
    obtain ⟨inv_between, mark_between, _⟩ := inv_after.run run_between
    have high := (inv_before.queues_rising first_allowed first_queues).2
    have low := (inv_between.queues_rising second_allowed second_queues).1
    rw [mark] at high
    rw [mark_between, mark_after] at low
    exact inv_after.falls_below run_between high low

/-- A fresh connection with both callbacks and a high-water mark of 2 bytes. -/
def noticedSite : Endpoint Nat :=
  { freshSite with
    conn := { freshSite.conn with
      writeCompleteCallback := true, highWaterMarkCallback := true, highWaterMark := 2 } }

theorem noticedSite_fresh : noticedSite.Fresh := ⟨rfl, rfl, rfl, rfl, rfl⟩

/-- It has sent three bytes of which one went out at once. -/
def filledSite : Endpoint Nat := noticedSite.connectEstablished.send [1, 2, 3] (.accepts 1)

theorem notifications_exact_refilled :
    ((ConnectionOp.send [1, 2, 3] (.accepts 1)).adds noticedSite.connectEstablished).filterMap
        Effect.highWaterMark? = [2] ∧
      ((ConnectionOp.handleWrite (.accepts 2)).adds filledSite).count .queueWriteComplete = 1 ∧
      FallsBelow 2 filledSite [.handleWrite (.accepts 2)] := by
  obtain ⟨each, alternate⟩ := notifications_exact noticedSite noticedSite_fresh rfl rfl
  refine ⟨?_, ?_, ?_⟩
  · exact (each [] noticedSite.connectEstablished (.send [1, 2, 3] (.accepts 1)) .nil
      rfl).high_water.trans (by decide +kernel)
  · exact (each [.send [1, 2, 3] (.accepts 1)] filledSite (.handleWrite (.accepts 2))
      (.cons rfl rfl .nil) trivial).write_complete.trans (by decide +kernel)
  · exact alternate [] [.handleWrite (.accepts 2)] noticedSite.connectEstablished
      (filledSite.handleWrite (.accepts 2)) (.send [1, 2, 3] (.accepts 1))
      (.send [4, 5, 6] (.accepts 0)) .nil rfl ⟨2, by decide +kernel⟩ (.cons trivial rfl .nil) rfl
      ⟨3, by decide +kernel⟩

end TalkSystem.Net
