import Mathlib.Data.Set.Function
import TalkSystem.Machine.Runs
import TalkSystem.Net.PollerProperties

/-!
# Many channels of one poller

Channels with distinct descriptors share a poller, and their operations come in
any order. Each channel's `index_`, the poller's map and the kernel's interest
set tell the same story about it, so no `epoll_ctl` fails. What the index does
not tell is whether the channel asks for any event.
-/

set_option autoImplicit false

namespace TalkSystem.Net

variable {Ptr : Type} {self : Ptr} {channel : Channel} {poller : EPollPoller Ptr}

/-- Whether `epoll_ctl` succeeds. -/
def EPollPoller.accepts (poller : EPollPoller Ptr) (operation : CtlOp) (fd : Nat) : Bool :=
  match operation with
  | .add => (poller.interest fd).isNone
  | .mod | .del => (poller.interest fd).isSome

theorem update_fatal {operation : CtlOp} (accepted : poller.accepts operation channel.fd) :
    (poller.update operation self channel).fatal = poller.fatal := by
  cases entry : poller.interest channel.fd <;> cases operation <;>
    simp_all [EPollPoller.accepts, EPollPoller.update]

/-- The `epoll_ctl` that an operation on the channel issues, if it issues one. -/
def Channel.issues (channel : Channel) (operation : ChannelOp) : Option CtlOp :=
  match operation, channel.index with
  | .remove, .kAdded => some .del
  | .remove, _ => none
  | _, .kNew => some .add
  | _, .kDeleted => some .add
  | _, .kAdded => if operation.mask channel.events = kNoneEvent then some .del else some .mod

/-- An operation changes the poller's map and then issues what `issues` says. -/
theorem perform_issues (operation : ChannelOp) :
    ∃ known, (channel.perform operation self poller).2 =
      match channel.issues operation with
      | none => { poller with channels := known }
      | some ctl =>
          EPollPoller.update { poller with channels := known } ctl self
            { channel with events := operation.mask channel.events } := by
  obtain ⟨fd, events, index, tied⟩ := channel
  cases operation with
  | remove =>
      refine ⟨Function.update poller.channels fd none, ?_⟩
      cases index <;> rfl
  | enableReading | disableReading | enableWriting | disableWriting | disableAll =>
      cases index with
      | kNew => exact ⟨Function.update poller.channels fd (some self), rfl⟩
      | kDeleted => exact ⟨poller.channels, rfl⟩
      | kAdded =>
          refine ⟨poller.channels, ?_⟩
          simp only [Channel.perform, EPollPoller.updateChannel, Channel.issues,
            Channel.isNoneEvent, beq_iff_eq]
          split <;> rfl

/-- The poller and the kernel agree with the channel's index. -/
inductive Tracked (pointer : Ptr) (channel : Channel) (poller : EPollPoller Ptr) : Prop where
  | watched (holds : Watched pointer channel poller)
  | unwatched (holds : Unwatched pointer channel poller)
  | unknown (holds : Unknown channel poller) (free : poller.channels channel.fd = none)

namespace Tracked

theorem accepts (tracked : Tracked self channel poller) {operation : ChannelOp} {ctl : CtlOp}
    (issued : channel.issues operation = some ctl) : poller.accepts ctl channel.fd := by
  cases tracked with
  | watched holds =>
      cases operation <;> simp only [Channel.issues, holds.index] at issued
      case remove => cases issued; simp [EPollPoller.accepts, holds.stored]
      all_goals
        split at issued
        all_goals
          cases issued
          simp [EPollPoller.accepts, holds.stored]
  | unwatched holds =>
      cases operation <;> simp only [Channel.issues, holds.index] at issued <;> cases issued <;>
        simp [EPollPoller.accepts, holds.stored]
  | unknown holds free =>
      cases operation <;> simp only [Channel.issues, holds.index] at issued <;> cases issued <;>
        simp [EPollPoller.accepts, holds.stored]

theorem not_fatal (tracked : Tracked self channel poller) (operation : ChannelOp)
    (alive : poller.fatal = false) :
    (channel.perform operation self poller).2.fatal = false := by
  obtain ⟨known, performed⟩ : ∃ known, (channel.perform operation self poller).2 = _ :=
    perform_issues operation
  rw [performed]
  cases issued : channel.issues operation with
  | none => exact alive
  | some ctl =>
      have accepted : EPollPoller.accepts { poller with channels := known } ctl
          ({ channel with events := operation.mask channel.events } : Channel).fd :=
        tracked.accepts issued
      exact (update_fatal accepted).trans alive

theorem remove (tracked : Tracked self channel poller) :
    Unknown (channel.perform .remove self poller).1 (channel.perform .remove self poller).2 ∧
      (channel.perform .remove self poller).2.channels channel.fd = none := by
  cases tracked with
  | watched holds =>
      constructor
      · refine ⟨rfl, ?_⟩
        simp [Channel.perform, EPollPoller.removeChannel, EPollPoller.update, holds.index,
          holds.stored]
      · simp [Channel.perform, EPollPoller.removeChannel, EPollPoller.update, holds.index,
          holds.stored]
  | unwatched holds => exact holds.remove
  | unknown holds free =>
      constructor
      · refine ⟨rfl, ?_⟩
        simp [Channel.perform, EPollPoller.removeChannel, holds.index, holds.stored]
      · simp [Channel.perform, EPollPoller.removeChannel, holds.index]

/-- Whatever the index says, an operation leaves the three in agreement. -/
theorem perform (tracked : Tracked self channel poller) (operation : ChannelOp) :
    Tracked self (channel.perform operation self poller).1
      (channel.perform operation self poller).2 := by
  by_cases stays : operation = .remove
  · subst stays
    obtain ⟨unknown, free⟩ := tracked.remove
    exact .unknown unknown free
  · cases tracked with
    | watched holds =>
        by_cases no_event : operation.mask channel.events = kNoneEvent
        · exact .unwatched (holds.unwatch operation stays no_event)
        · exact .watched (holds.perform operation stays no_event)
    | unwatched holds => exact .watched (holds.perform operation stays)
    | unknown holds free => exact .watched (holds.perform operation stays)

theorem agreeExcept {fd : Nat} {after : EPollPoller Ptr} (tracked : Tracked self channel poller)
    (agree : AgreeExcept fd poller after) (different : channel.fd ≠ fd) :
    Tracked self channel after := by
  have interest := agree.interest channel.fd different
  have channels := agree.channels channel.fd different
  cases tracked with
  | watched holds =>
      exact .watched ⟨holds.index, interest.trans holds.stored, channels.trans holds.known⟩
  | unwatched holds =>
      exact .unwatched ⟨holds.index, interest.trans holds.stored, channels.trans holds.known⟩
  | unknown holds free =>
      exact .unknown ⟨holds.index, interest.trans holds.stored⟩ (channels.trans free)

theorem index_eq_kAdded_iff (tracked : Tracked self channel poller) :
    channel.index = .kAdded ↔ (poller.interest channel.fd).isSome := by
  cases tracked with
  | watched holds => simp [holds.index, holds.stored]
  | unwatched holds => simp [holds.index, holds.stored]
  | unknown holds free => simp [holds.index, holds.stored]

theorem stored (tracked : Tracked self channel poller) {mask : Events} {data : Ptr}
    (present : poller.interest channel.fd = some (mask, data)) :
    mask = channel.events ∧ data = self := by
  cases tracked with
  | watched holds => simpa [holds.stored, eq_comm] using present
  | unwatched holds => simp [holds.stored] at present
  | unknown holds free => simp [holds.stored] at present

theorem hasChannel_iff [DecidableEq Ptr] (tracked : Tracked self channel poller) :
    poller.hasChannel self channel ↔ channel.index = .kAdded ∨ channel.index = .kDeleted := by
  cases tracked with
  | watched holds => simp [EPollPoller.hasChannel, holds.index, holds.known]
  | unwatched holds => simp [EPollPoller.hasChannel, holds.index, holds.known]
  | unknown holds free => simp [EPollPoller.hasChannel, holds.index, free]

end Tracked

/-- The channels by pointer, and the poller they share. -/
structure ChannelTable (Ptr : Type) where
  channels : Ptr → Channel
  poller : EPollPoller Ptr

/-- New channels on the given descriptors and a new poller. -/
def ChannelTable.start (fd : Ptr → Nat) : ChannelTable Ptr := ⟨fun self => .new (fd self), .empty⟩

def ChannelTable.perform [DecidableEq Ptr] (table : ChannelTable Ptr) (self : Ptr)
    (operation : ChannelOp) : ChannelTable Ptr :=
  let after := (table.channels self).perform operation self table.poller
  ⟨Function.update table.channels self after.1, after.2⟩

def channelMachine [DecidableEq Ptr] : Machine (ChannelTable Ptr) (Ptr × ChannelOp) where
  step table label := some (table.perform label.1 label.2)

/-- The operations are on members of the set. -/
def OnMembers (members : Set Ptr) : ChannelTable Ptr → Ptr × ChannelOp → Prop :=
  fun _ label => label.1 ∈ members

/-- Every member is tracked under its own descriptor and the process is alive. -/
structure ChannelTable.Agrees (table : ChannelTable Ptr) (fd : Ptr → Nat) (members : Set Ptr) :
    Prop where
  fd_eq : ∀ self, (table.channels self).fd = fd self
  tracked : ∀ self ∈ members, Tracked self (table.channels self) table.poller
  alive : table.poller.fatal = false

theorem ChannelTable.Agrees.start (fd : Ptr → Nat) (members : Set Ptr) :
    (ChannelTable.start fd).Agrees fd members :=
  ⟨fun _ => rfl, fun _ _ => .unknown ⟨rfl, rfl⟩ rfl, rfl⟩

/-- The operation leaves its channel outside the kernel's interest set unless
the channel asks for an event. -/
def LeavesUnwatched [DecidableEq Ptr] (members : Set Ptr) (table : ChannelTable Ptr)
    (label : Ptr × ChannelOp) : Prop :=
  label.1 ∈ members ∧
    (((table.perform label.1 label.2).channels label.1).isNoneEvent →
      (table.perform label.1 label.2).poller.interest (table.channels label.1).fd = none)

/-- An operation that leaves no event is a `remove`, or the channel is in the
interest set when it comes. -/
def EmptiesAdded (members : Set Ptr) (table : ChannelTable Ptr) (label : Ptr × ChannelOp) :
    Prop :=
  label.1 ∈ members ∧
    (label.2 = .remove ∨ label.2.mask (table.channels label.1).events ≠ kNoneEvent ∨
      (table.channels label.1).index = .kAdded)

section Members

variable [DecidableEq Ptr] {fd : Ptr → Nat} {members : Set Ptr} {table : ChannelTable Ptr}

theorem ChannelTable.Agrees.perform (agrees : table.Agrees fd members)
    (distinct : Set.InjOn fd members) (member : self ∈ members) (operation : ChannelOp) :
    (table.perform self operation).Agrees fd members := by
  constructor
  · intro other
    by_cases same : other = self
    · subst same
      simp [ChannelTable.perform, agrees.fd_eq]
    · simp [ChannelTable.perform, Function.update_of_ne same, agrees.fd_eq]
  · intro other other_member
    by_cases same : other = self
    · subst same
      simpa [ChannelTable.perform] using (agrees.tracked other other_member).perform operation
    · have apart : (table.channels other).fd ≠ (table.channels self).fd := by
        rw [agrees.fd_eq, agrees.fd_eq]
        exact fun equal => same (distinct other_member member equal)
      simpa [ChannelTable.perform, Function.update_of_ne same] using
        (agrees.tracked other other_member).agreeExcept (perform_agreeExcept operation) apart
  · exact (agrees.tracked self member).not_fatal operation agrees.alive

theorem ChannelTable.Agrees.run {final : ChannelTable Ptr} {labels : List (Ptr × ChannelOp)}
    (distinct : Set.InjOn fd members)
    (run : channelMachine.Runs (OnMembers members) (.start fd) labels final) :
    final.Agrees fd members := by
  refine run.invariant (fun table => table.Agrees fd members) ?_ (.start fd members)
  intro table label next member taken agrees
  obtain rfl := Option.some.inj taken
  exact agrees.perform distinct member label.2

/-- After every sequence of operations the index, the map and the kernel agree
on every member, and each `epoll_ctl` that any operation would issue next
succeeds; no `LOG_FATAL` has been reached. -/
theorem poller_agrees_with_kernel {final : ChannelTable Ptr} {labels : List (Ptr × ChannelOp)}
    (distinct : Set.InjOn fd members)
    (run : channelMachine.Runs (OnMembers members) (.start fd) labels final) :
    (∀ self ∈ members, (final.channels self).fd = fd self ∧
      ((final.channels self).index = .kAdded ↔ (final.poller.interest (fd self)).isSome) ∧
      (∀ mask data, final.poller.interest (fd self) = some (mask, data) →
        mask = (final.channels self).events ∧ data = self) ∧
      (final.poller.hasChannel self (final.channels self) ↔
        (final.channels self).index = .kAdded ∨ (final.channels self).index = .kDeleted) ∧
      ∀ operation ctl, (final.channels self).issues operation = some ctl →
        final.poller.accepts ctl (fd self)) ∧
      final.poller.fatal = false := by
  have agrees := ChannelTable.Agrees.run distinct run
  refine ⟨fun self member => ?_, agrees.alive⟩
  have tracked := agrees.tracked self member
  have same := agrees.fd_eq self
  rw [← same]
  refine ⟨rfl, tracked.index_eq_kAdded_iff, ?_, tracked.hasChannel_iff, ?_⟩
  · intro mask data present
    exact tracked.stored present
  · intro operation ctl issued
    exact tracked.accepts issued

theorem poller_agrees_with_kernel_two :
    ∃ final, channelMachine.Runs (OnMembers Set.univ) (.start Bool.toNat)
        [(true, .enableReading), (true, .disableAll), (false, .enableWriting)] final ∧
      final.poller.fatal = false := by
  have distinct : Set.InjOn Bool.toNat Set.univ := by
    intro left _ right _ same
    cases left <;> cases right <;> simp_all
  obtain ⟨final, run⟩ : ∃ final, channelMachine.Runs (OnMembers Set.univ) (.start Bool.toNat)
      [(true, .enableReading), (true, .disableAll), (false, .enableWriting)] final :=
    ⟨_, .cons trivial rfl <| .cons trivial rfl <| .cons trivial rfl .nil⟩
  exact ⟨final, run, (poller_agrees_with_kernel distinct run).2⟩

/-- `updateChannel` looks at the mask only under `kAdded`: under any other index
it adds the descriptor, whatever the mask. -/
theorem leavesUnwatched_iff {label : Ptr × ChannelOp}
    (tracked : Tracked label.1 (table.channels label.1) table.poller) :
    LeavesUnwatched members table label ↔ EmptiesAdded members table label := by
  obtain ⟨self, operation⟩ := label
  refine and_congr_right fun _ => ?_
  simp only [ChannelTable.perform, Function.update_self, Channel.isNoneEvent, beq_iff_eq,
    perform_events]
  by_cases stays : operation = .remove
  · subst stays
    have gone := tracked.remove.1.stored
    rw [perform_fd] at gone
    simp [gone]
  · by_cases no_event : operation.mask (table.channels self).events = kNoneEvent
    · have added (watched : Watched self ((table.channels self).perform operation self
          table.poller).1 ((table.channels self).perform operation self table.poller).2) :
          ((table.channels self).perform operation self table.poller).2.interest
            (table.channels self).fd ≠ none := by
        have present := watched.stored
        rw [perform_fd] at present
        simp [present]
      cases tracked with
      | watched holds =>
          have gone := (holds.unwatch operation stays no_event).stored
          rw [perform_fd] at gone
          simp [gone, holds.index]
      | unwatched holds =>
          simp [added (holds.perform operation stays), stays, no_event, holds.index]
      | unknown holds free =>
          simp [added (holds.perform operation stays), stays, no_event, holds.index]
    · simp [no_event]

theorem mask_idempotent (operation : ChannelOp) (events : Events) :
    operation.mask (operation.mask events) = operation.mask events := by
  obtain ⟨epollin, epollpri, epollout, epollerr, epollhup⟩ := events
  cases operation <;> simp [ChannelOp.mask, Events.or, Events.andNot]

omit [DecidableEq Ptr] in
/-- `EPOLL_CTL_MOD` with the mask that is already stored. -/
theorem Watched.perform_interest (watched : Watched self channel poller) {operation : ChannelOp}
    (stays : operation ≠ .remove) (same : operation.mask channel.events = channel.events)
    (some_event : channel.events ≠ kNoneEvent) :
    (channel.perform operation self poller).2.interest = poller.interest := by
  have after := (watched.perform operation stays (by rwa [same])).stored
  rw [perform_fd, perform_events, same, ← watched.stored] at after
  funext other
  by_cases own : other = channel.fd
  · rw [own, after]
  · exact (perform_agreeExcept operation).interest other own

/-- Performed again, an operation other than `remove` leaves the interest set
alone exactly when it leaves some event to ask for. -/
theorem Tracked.perform_again_iff {operation : ChannelOp} (stays : operation ≠ .remove)
    (tracked : Tracked self (table.channels self) table.poller) :
    ((table.perform self operation).perform self operation).poller.interest =
        (table.perform self operation).poller.interest ↔
      operation.mask (table.channels self).events ≠ kNoneEvent := by
  simp only [ChannelTable.perform, Function.update_self]
  have events : ((table.channels self).perform operation self table.poller).1.events =
      operation.mask (table.channels self).events := perform_events operation
  have once := tracked.perform operation
  have unwatched (holds : Watched self (table.channels self) table.poller)
      (no_event : operation.mask (table.channels self).events = kNoneEvent) :=
    holds.unwatch operation stays no_event
  have watched (other : ¬ Watched self (table.channels self) table.poller ∨
      operation.mask (table.channels self).events ≠ kNoneEvent) :
      Watched self ((table.channels self).perform operation self table.poller).1
        ((table.channels self).perform operation self table.poller).2 := by
    cases tracked with
    | watched holds =>
        rcases other with different | some_event
        · exact absurd holds different
        · exact holds.perform operation stays some_event
    | unwatched holds => exact holds.perform operation stays
    | unknown holds free => exact holds.perform operation stays
  generalize (table.channels self).perform operation self table.poller = after at *
  obtain ⟨channel, poller⟩ := after
  have mask : operation.mask channel.events = channel.events := by
    rw [events, mask_idempotent]
  rw [← events]
  constructor
  · intro unchanged no_event
    have differs := congrFun unchanged channel.fd
    by_cases holds : Watched self (table.channels self) table.poller
    · have gone := unwatched holds (events.symm.trans no_event)
      have back := (gone.perform operation stays).stored
      rw [perform_fd, differs, gone.stored] at back
      cases back
    · have present := watched (.inl holds)
      have gone := (present.unwatch operation stays (mask.trans no_event)).stored
      rw [perform_fd, differs, present.stored] at gone
      cases gone
  · intro some_event
    exact (watched (.inr (events ▸ some_event))).perform_interest stays mask some_event

/-- Exactly when every operation that empties a mask meets a channel of the
interest set, no channel without events is ever watched; and a repeated
operation is harmless exactly when it leaves an event. -/
theorem channel_without_events_unwatched (distinct : Set.InjOn fd members) :
    (∀ labels final, channelMachine.Runs (LeavesUnwatched members) (.start fd) labels final ↔
      channelMachine.Runs (EmptiesAdded members) (.start fd) labels final) ∧
    ∀ labels final, channelMachine.Runs (OnMembers members) (.start fd) labels final →
      ∀ self ∈ members, ∀ operation, operation ≠ .remove →
        (((final.perform self operation).perform self operation).poller.interest =
            (final.perform self operation).poller.interest ↔
          operation.mask (final.channels self).events ≠ kNoneEvent) := by
  constructor
  · intro labels final
    constructor
    · intro run
      refine run.strengthen (fun table => table.Agrees fd members) ?_ (.start fd members)
      intro table label next unwatched taken agrees
      obtain rfl := Option.some.inj taken
      have member := unwatched.1
      exact ⟨(leavesUnwatched_iff (agrees.tracked _ member)).mp unwatched,
        agrees.perform distinct member label.2⟩
    · intro run
      refine run.strengthen (fun table => table.Agrees fd members) ?_ (.start fd members)
      intro table label next empties taken agrees
      obtain rfl := Option.some.inj taken
      have member := empties.1
      exact ⟨(leavesUnwatched_iff (agrees.tracked _ member)).mpr empties,
        agrees.perform distinct member label.2⟩
  · intro labels final run self member operation stays
    exact ((ChannelTable.Agrees.run distinct run).tracked self member).perform_again_iff stays

end Members

theorem channel_without_events_unwatched_one :
    ∃ final, channelMachine.Runs (LeavesUnwatched Set.univ) (.start fun _ : Unit => 7)
      [((), .enableReading), ((), .disableAll)] final := by
  have distinct : Set.InjOn (fun _ : Unit => 7) Set.univ :=
    Function.Injective.injOn (Function.injective_of_subsingleton _)
  exact ⟨_, ((channel_without_events_unwatched distinct).1 _ _).mpr <|
    .cons ⟨trivial, .inr (.inl (by decide))⟩ rfl <|
      .cons ⟨trivial, .inr (.inr (by decide))⟩ rfl .nil⟩

/-- An `Acceptor` that never listened calls `disableAll` on its new channel: the
descriptor enters the interest set with an empty mask. -/
theorem channel_without_events_watched :
    ¬ ∀ (labels : List (Unit × ChannelOp)) (final : ChannelTable Unit),
      channelMachine.Runs (OnMembers Set.univ) (.start fun _ => 7) labels final →
        ((final.channels ()).isNoneEvent → final.poller.interest 7 = none) := by
  intro holds
  have unwatched := holds [((), .disableAll)] _ (.cons trivial rfl .nil) (by decide)
  revert unwatched
  decide

end TalkSystem.Net
