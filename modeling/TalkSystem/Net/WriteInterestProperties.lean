import TalkSystem.Net.OutputStreamProperties

/-! Write interest matches pending output: in every state of an established
connection the kernel watches its descriptor for `EPOLLOUT` exactly while the
output buffer holds bytes, under any kernel answers and whatever the other
channels of the loop do. -/

set_option autoImplicit false

namespace TalkSystem.Net

open Endpoint

variable {Ptr : Type}

/-- The operations between `connectEstablished` and `connectDestroyed`; the
descriptor is used by no other channel. -/
def ConnectionOp.EstablishedStep (site : Endpoint Ptr) : ConnectionOp Ptr → Prop
  | .connectEstablished | .connectDestroyed => False
  | .otherChannel _ channel _ => channel.fd ≠ site.conn.channel.fd
  | _ => True

def LiveUnlessDown (site : Endpoint Ptr) : Prop :=
  site.conn.state = .kDisconnected ∨ site.Live

theorem LiveUnlessDown.steady {site next : Endpoint Ptr} {added : List Effect}
    (inv : LiveUnlessDown site) (steady : Steady site next added) : LiveUnlessDown next :=
  inv.imp (fun down => steady.state.trans down) steady.live

theorem LiveUnlessDown.step {site : Endpoint Ptr} (inv : LiveUnlessDown site)
    (operation : ConnectionOp Ptr) (allowed : operation.EstablishedStep site) :
    LiveUnlessDown (operation.apply site) := by
  cases operation with
  | connectEstablished | connectDestroyed => exact allowed.elim
  | send data answer =>
      obtain ⟨added, steady⟩ := send_steady site data answer
      exact inv.steady steady
  | shutdown =>
      by_cases up : site.conn.state = .kConnected
      · have live : site.Live := inv.resolve_left (by simp [up])
        obtain ⟨added, steady, _⟩ := shutdownInLoop_steady (site.setState .kDisconnecting)
        simp only [ConnectionOp.apply, Endpoint.shutdown, if_pos up]
        exact .inr (steady.live (live.setState _))
      · have unchanged : site.shutdown = site := if_neg up
        rw [ConnectionOp.apply, unchanged]
        exact inv
  | handleRead answer =>
      by_cases eof : answer = .yields []
      · subst eof
        rw [ConnectionOp.apply, handleRead_eof]
        exact .inl handleClose_state
      · obtain ⟨added, steady, _⟩ := handleRead_open eof
        exact inv.steady steady
  | handleWrite answer =>
      obtain ⟨added, steady⟩ := handleWrite_steady site answer
      exact inv.steady steady
  | handleClose => exact .inl handleClose_state
  | handleError => exact inv
  | retrieveInput len => exact inv.steady (retrieveInput_steady len)
  | otherChannel other channel operation =>
      exact inv.imp id fun live => live.otherChannel allowed

/-- No stalled output and no busy loop: while the connection is up or closing,
its descriptor is watched for `EPOLLOUT` if and only if output is pending. -/
theorem write_interest_iff_pending (site final : Endpoint Ptr) (fresh : site.Fresh)
    (operations : List (ConnectionOp Ptr))
    (run : (loopThread Ptr).Runs ConnectionOp.EstablishedStep site.connectEstablished
      operations final)
    (up : final.conn.state = .kConnected ∨ final.conn.state = .kDisconnecting) :
    (∃ mask pointer, final.poller.interest final.conn.channel.fd = some (mask, pointer) ∧
        mask.epollout = true) ↔
      0 < final.conn.outputBuffer.readableBytes := by
  have inv : LiveUnlessDown final :=
    run.invariant LiveUnlessDown
      (fun site operation next allowed taken inv => by
        cases taken
        exact inv.step operation allowed)
      (.inr fresh.established)
  have live : final.Live := inv.resolve_left (by rcases up with up | up <;> simp [up])
  have pending : 0 < final.conn.outputBuffer.readableBytes ↔
      final.conn.outputBuffer.readable ≠ [] := by
    rw [Nat.pos_iff_ne_zero, ne_eq, Buffer.readableBytes_eq_zero_iff]
  rw [pending, ← live.writing_iff, isWriting_eq_epollout, live.watched.stored]
  constructor
  · intro given
    obtain ⟨mask, pointer, stored, out⟩ := given
    cases stored
    exact out
  · intro out
    exact ⟨_, _, rfl, out⟩

theorem write_interest_after_short_write : ∃ final,
    (loopThread Nat).Runs ConnectionOp.EstablishedStep freshSite.connectEstablished
      [.send [1, 2, 3] (.accepts 1), .handleWrite (.fails .ECONNRESET),
        .otherChannel 1 (Channel.new 9) .enableReading] final ∧
      ((∃ mask pointer, final.poller.interest final.conn.channel.fd = some (mask, pointer) ∧
        mask.epollout = true) ↔ 0 < final.conn.outputBuffer.readableBytes) := by
  have run : (loopThread Nat).Runs ConnectionOp.EstablishedStep freshSite.connectEstablished
      [.send [1, 2, 3] (.accepts 1), .handleWrite (.fails .ECONNRESET),
        .otherChannel 1 (Channel.new 9) .enableReading] _ :=
    .cons trivial rfl (.cons trivial rfl (.cons (show 9 ≠ 5 by decide) rfl .nil))
  exact ⟨_, run, write_interest_iff_pending freshSite _ freshSite_fresh _ run (.inl rfl)⟩

end TalkSystem.Net
