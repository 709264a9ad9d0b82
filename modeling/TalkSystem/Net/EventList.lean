import Mathlib.Algebra.GroupWithZero.Nat
import Mathlib.Data.Set.Function
import TalkSystem.Machine.Runs
import TalkSystem.Net.ChannelTableProperties

/-!
# `EPollPoller::poll`

The list `events_` that the kernel writes to and the active channels that are read from
it. What has happened on the descriptors, and the order in which the kernel finds them
ready, are choices of the run. The list never has `2 ^ 31` entries.
-/

set_option autoImplicit false

namespace TalkSystem.Net

variable {Ptr : Type}

/-- An `epoll_event`; `data` is the null pointer in an entry that the kernel has never written. -/
structure EpollEvent (Ptr : Type) where
  events : Events
  data : Option Ptr
  deriving DecidableEq, Repr

namespace EPollPoller

def kInitEventListSize : Nat := 16

def emptyEvents (size : Nat) : List (EpollEvent Ptr) := List.replicate size ⟨kNoneEvent, none⟩

/-- The channels with their `revents_`. There is no result when a null pointer is read. -/
def fillActiveChannels (events : List (EpollEvent Ptr)) (numEvents : Nat) :
    Option (List (Ptr × Events)) :=
  (events.take numEvents).mapM fun event => event.data.map fun self => (self, event.events)

/-- `poll` with what `epoll_wait` has reported; without a report it has failed. -/
def poll (events : List (EpollEvent Ptr)) (reported : Option (List (EpollEvent Ptr))) :
    List (EpollEvent Ptr) × Option (List (Ptr × Events)) :=
  match reported with
  | none => (events, some [])
  | some entries =>
      let numEvents := entries.length
      let events := entries ++ events.drop numEvents
      if 0 < numEvents then
        (if numEvents = events.length then events ++ emptyEvents events.length else events,
          fillActiveChannels events numEvents)
      else
        (events, some [])

/-! ## The kernel -/

/-- What the kernel reports of what has happened: what was asked for, errors and hang-ups. -/
def reportable (happened mask : Events) : Events where
  epollin := happened.epollin && mask.epollin
  epollpri := happened.epollpri && mask.epollpri
  epollout := happened.epollout && mask.epollout
  epollerr := happened.epollerr
  epollhup := happened.epollhup

def isReady (poller : EPollPoller Ptr) (happened : Nat → Events) (fd : Nat) : Bool :=
  (poller.interest fd).any fun entry => reportable (happened fd) entry.1 != kNoneEvent

/-- The entries for the first `maxevents` descriptors that are ready. -/
def epoll_wait (poller : EPollPoller Ptr) (happened : Nat → Events) (ready : List Nat)
    (maxevents : Nat) : List (EpollEvent Ptr) :=
  (ready.take maxevents).filterMap fun fd =>
    (poller.interest fd).map fun entry => ⟨reportable (happened fd) entry.1, some entry.2⟩

end EPollPoller

/-! ## Runs -/

/-- The size of `events_` at a poll and the number of descriptors that were ready. -/
structure PollRecord where
  size : Nat
  ready : Nat
  deriving DecidableEq, Repr

def PollRecord.full (record : PollRecord) : Bool := record.size ≤ record.ready

def PollRecord.leavesOut (record : PollRecord) : Bool := record.size < record.ready

/-- The channels of a loop with their poller; `active` is `activeChannels_`, and `records` tells of
the polls so far. -/
structure PolledTable (Ptr : Type) where
  table : ChannelTable Ptr
  events : List (EpollEvent Ptr)
  active : List (Ptr × Events)
  records : List PollRecord

def PolledTable.start (fd : Ptr → Nat) : PolledTable Ptr :=
  ⟨.start fd, EPollPoller.emptyEvents EPollPoller.kInitEventListSize, [], []⟩

inductive PollLabel (Ptr : Type) where
  | perform (self : Ptr) (operation : ChannelOp)
  | poll (happened : Nat → Events) (ready : List Nat)
  | pollFails

namespace PolledTable

def poll (polled : PolledTable Ptr) (reported : Option (List (EpollEvent Ptr)))
    (records : List PollRecord) : Option (PolledTable Ptr) :=
  let (events, active) := EPollPoller.poll polled.events reported
  active.map fun active =>
    { polled with events := events, active := active, records := polled.records ++ records }

/-- A step is not possible when it reads a null pointer. -/
def step [DecidableEq Ptr] (polled : PolledTable Ptr) : PollLabel Ptr → Option (PolledTable Ptr)
  | .perform self operation => some { polled with table := polled.table.perform self operation }
  | .poll happened ready =>
      let size := polled.events.length
      polled.poll (some (polled.table.poller.epoll_wait happened ready size)) [⟨size, ready.length⟩]
  | .pollFails => polled.poll none []

/-- The operations are on members of the set, and the descriptors that are found ready are those
that are. -/
def Polls (members : Set Ptr) (polled : PolledTable Ptr) : PollLabel Ptr → Prop
  | .perform self _ => self ∈ members
  | .poll happened ready =>
      ready.Nodup ∧ ∀ fd, fd ∈ ready ↔ polled.table.poller.isReady happened fd = true
  | .pollFails => True

end PolledTable

def pollMachine [DecidableEq Ptr] : Machine (PolledTable Ptr) (PollLabel Ptr) where
  step := PolledTable.step

end TalkSystem.Net
