import TalkSystem.Net.Poller

/-! What one channel operation does to the channel, to its own descriptor in
the poller, and to every other descriptor. -/

set_option autoImplicit false

namespace TalkSystem.Net

variable {Ptr : Type} {self : Ptr} {channel : Channel} {poller : EPollPoller Ptr}

/-- The channel is in the kernel's interest set under its current mask. -/
structure Watched (pointer : Ptr) (channel : Channel) (poller : EPollPoller Ptr) : Prop where
  index : channel.index = .kAdded
  stored : poller.interest channel.fd = some (channel.events, pointer)
  known : poller.channels channel.fd = some pointer

/-- The poller knows the channel, the kernel does not. -/
structure Unwatched (pointer : Ptr) (channel : Channel) (poller : EPollPoller Ptr) : Prop where
  index : channel.index = .kDeleted
  stored : poller.interest channel.fd = none
  known : poller.channels channel.fd = some pointer

/-- Neither the poller nor the kernel holds an entry for the descriptor. -/
structure Unknown (channel : Channel) (poller : EPollPoller Ptr) : Prop where
  index : channel.index = .kNew
  stored : poller.interest channel.fd = none

/-- Both maps agree on every descriptor but `fd`. -/
structure AgreeExcept (fd : Nat) (before after : EPollPoller Ptr) : Prop where
  interest : ∀ other, other ≠ fd → after.interest other = before.interest other
  channels : ∀ other, other ≠ fd → after.channels other = before.channels other

theorem AgreeExcept.refl (fd : Nat) (poller : EPollPoller Ptr) : AgreeExcept fd poller poller :=
  ⟨fun _ _ => rfl, fun _ _ => rfl⟩

theorem AgreeExcept.trans {fd : Nat} {first second third : EPollPoller Ptr}
    (left : AgreeExcept fd first second) (right : AgreeExcept fd second third) :
    AgreeExcept fd first third :=
  ⟨fun other different => (right.interest other different).trans (left.interest other different),
    fun other different => (right.channels other different).trans (left.channels other different)⟩

@[simp] theorem perform_fd (operation : ChannelOp) :
    (channel.perform operation self poller).1.fd = channel.fd := by
  cases operation <;> simp only [Channel.perform, EPollPoller.removeChannel] <;>
    unfold EPollPoller.updateChannel <;> split <;> first | rfl | (split <;> rfl)

@[simp] theorem perform_tied (operation : ChannelOp) :
    (channel.perform operation self poller).1.tied = channel.tied := by
  cases operation <;> simp only [Channel.perform, EPollPoller.removeChannel] <;>
    unfold EPollPoller.updateChannel <;> split <;> first | rfl | (split <;> rfl)

@[simp] theorem perform_events (operation : ChannelOp) :
    (channel.perform operation self poller).1.events = operation.mask channel.events := by
  cases operation <;> simp only [Channel.perform, EPollPoller.removeChannel, ChannelOp.mask] <;>
    unfold EPollPoller.updateChannel <;> split <;> first | rfl | (split <;> rfl)

theorem update_agreeExcept (operation : CtlOp) :
    AgreeExcept channel.fd poller (poller.update operation self channel) := by
  unfold EPollPoller.update
  split
  all_goals
    constructor
    all_goals
      intro other different
      simp [Function.update_of_ne different]

theorem perform_agreeExcept (operation : ChannelOp) :
    AgreeExcept channel.fd poller (channel.perform operation self poller).2 := by
  have mapEntry (value : Option Ptr) : AgreeExcept channel.fd poller
      { poller with channels := Function.update poller.channels channel.fd value } :=
    ⟨fun _ _ => rfl, fun other different => by simp [Function.update_of_ne different]⟩
  have updated (changed : Channel) (same : changed.fd = channel.fd) :
      AgreeExcept channel.fd poller (poller.updateChannel self changed).2 := by
    unfold EPollPoller.updateChannel
    split
    · exact same ▸ (same ▸ mapEntry (some self)).trans (update_agreeExcept _)
    · exact same ▸ update_agreeExcept _
    · split <;> exact same ▸ update_agreeExcept _
  cases operation with
  | remove =>
      simp only [Channel.perform, EPollPoller.removeChannel]
      split
      · exact (mapEntry none).trans (update_agreeExcept _)
      · exact mapEntry none
  | enableReading | disableReading | enableWriting | disableWriting | disableAll =>
      exact updated _ rfl

/-- Every operation but `remove` changes the mask and updates the poller. -/
theorem perform_eq_updateChannel {operation : ChannelOp} (stays : operation ≠ .remove) :
    channel.perform operation self poller =
      poller.updateChannel self { channel with events := operation.mask channel.events } := by
  cases operation with
  | remove => exact absurd rfl stays
  | enableReading | disableReading | enableWriting | disableWriting | disableAll => rfl

theorem Watched.perform (watched : Watched self channel poller) (operation : ChannelOp)
    (stays : operation ≠ .remove) (some_event : operation.mask channel.events ≠ kNoneEvent) :
    Watched self (channel.perform operation self poller).1
      (channel.perform operation self poller).2 := by
  obtain ⟨index, stored, known⟩ := watched
  have modified : channel.perform operation self poller =
      ({ channel with events := operation.mask channel.events },
        { poller with
          interest := Function.update poller.interest channel.fd
            (some (operation.mask channel.events, self)) }) := by
    simp [perform_eq_updateChannel stays, EPollPoller.updateChannel, EPollPoller.update,
      Channel.isNoneEvent, index, stored, some_event]
  rw [modified]
  exact ⟨index, by simp, known⟩

theorem Watched.unwatch (watched : Watched self channel poller) (operation : ChannelOp)
    (stays : operation ≠ .remove) (no_event : operation.mask channel.events = kNoneEvent) :
    Unwatched self (channel.perform operation self poller).1
      (channel.perform operation self poller).2 := by
  obtain ⟨index, stored, known⟩ := watched
  have deleted : channel.perform operation self poller =
      ({ channel with events := kNoneEvent, index := .kDeleted },
        { poller with interest := Function.update poller.interest channel.fd none }) := by
    simp [perform_eq_updateChannel stays, EPollPoller.updateChannel, EPollPoller.update,
      Channel.isNoneEvent, index, stored, no_event]
  rw [deleted]
  exact ⟨rfl, by simp, known⟩

theorem Unknown.perform (unknown : Unknown channel poller) (operation : ChannelOp)
    (stays : operation ≠ .remove) :
    Watched self (channel.perform operation self poller).1
      (channel.perform operation self poller).2 := by
  obtain ⟨index, stored⟩ := unknown
  have added : channel.perform operation self poller =
      ({ channel with events := operation.mask channel.events, index := .kAdded },
        { poller with
          channels := Function.update poller.channels channel.fd (some self)
          interest := Function.update poller.interest channel.fd
            (some (operation.mask channel.events, self)) }) := by
    simp [perform_eq_updateChannel stays, EPollPoller.updateChannel, EPollPoller.update, index,
      stored]
  rw [added]
  exact ⟨rfl, by simp, by simp⟩

theorem Unwatched.perform (unwatched : Unwatched self channel poller) (operation : ChannelOp)
    (stays : operation ≠ .remove) :
    Watched self (channel.perform operation self poller).1
      (channel.perform operation self poller).2 := by
  obtain ⟨index, stored, known⟩ := unwatched
  have added : channel.perform operation self poller =
      ({ channel with events := operation.mask channel.events, index := .kAdded },
        { poller with
          interest := Function.update poller.interest channel.fd
            (some (operation.mask channel.events, self)) }) := by
    simp [perform_eq_updateChannel stays, EPollPoller.updateChannel, EPollPoller.update, index,
      stored]
  rw [added]
  exact ⟨rfl, by simp, known⟩

theorem Unwatched.remove (unwatched : Unwatched self channel poller) :
    Unknown (channel.perform .remove self poller).1 (channel.perform .remove self poller).2 ∧
      (channel.perform .remove self poller).2.channels channel.fd = none := by
  obtain ⟨index, stored, known⟩ := unwatched
  refine ⟨⟨rfl, ?_⟩, ?_⟩ <;> simp [Channel.perform, EPollPoller.removeChannel, index, stored]

end TalkSystem.Net
