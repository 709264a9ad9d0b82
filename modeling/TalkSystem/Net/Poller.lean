import Mathlib.Logic.Function.Basic

/-!
# `Channel` and `EPollPoller`

A channel is a file descriptor with the events it asks for; the poller keeps
its map of channels and the kernel's interest set. Channels refer to each
other by pointer, so the pointer type is a parameter.
-/

set_option autoImplicit false

namespace TalkSystem.Net

structure Events where
  epollin : Bool
  epollpri : Bool
  epollout : Bool
  epollerr : Bool
  epollhup : Bool
  deriving DecidableEq, Repr

namespace Events

def or (left right : Events) : Events where
  epollin := left.epollin || right.epollin
  epollpri := left.epollpri || right.epollpri
  epollout := left.epollout || right.epollout
  epollerr := left.epollerr || right.epollerr
  epollhup := left.epollhup || right.epollhup

def andNot (left right : Events) : Events where
  epollin := left.epollin && !right.epollin
  epollpri := left.epollpri && !right.epollpri
  epollout := left.epollout && !right.epollout
  epollerr := left.epollerr && !right.epollerr
  epollhup := left.epollhup && !right.epollhup

def meets (left right : Events) : Bool :=
  (left.epollin && right.epollin) || (left.epollpri && right.epollpri) ||
    (left.epollout && right.epollout) || (left.epollerr && right.epollerr) ||
    (left.epollhup && right.epollhup)

end Events

def kNoneEvent : Events := ⟨false, false, false, false, false⟩
def kReadEvent : Events := ⟨true, true, false, false, false⟩
def kWriteEvent : Events := ⟨false, false, true, false, false⟩

/-- The values of `Channel::index_`: unknown to the poller, in the interest
set, or known to the poller but taken out of the interest set. -/
inductive ChannelIndex where
  | kNew
  | kAdded
  | kDeleted
  deriving DecidableEq, Repr

/-- `revents_` is not stored here: the poller writes it right before it puts
the channel on the list of active channels, so the entries of that list carry
it. -/
structure Channel where
  fd : Nat
  events : Events
  index : ChannelIndex
  tied : Bool
  deriving DecidableEq, Repr

def Channel.new (fd : Nat) : Channel := ⟨fd, kNoneEvent, .kNew, false⟩

def Channel.isNoneEvent (channel : Channel) : Bool := channel.events == kNoneEvent
def Channel.isWriting (channel : Channel) : Bool := channel.events.meets kWriteEvent
def Channel.isReading (channel : Channel) : Bool := channel.events.meets kReadEvent

def Channel.tie (channel : Channel) : Channel := { channel with tied := true }

inductive CtlOp where
  | add
  | mod
  | del
  deriving DecidableEq, Repr

/-- `channels` is the poller's own map from descriptors to channels,
`interest` the kernel's interest set with the mask and the data pointer stored
there. `fatal` says that a `LOG_FATAL` has ended the process. -/
structure EPollPoller (Ptr : Type) where
  channels : Nat → Option Ptr
  interest : Nat → Option (Events × Ptr)
  fatal : Bool

namespace EPollPoller

variable {Ptr : Type}

def empty : EPollPoller Ptr := ⟨fun _ => none, fun _ => none, false⟩

/-- `Poller::hasChannel`. -/
def hasChannel [DecidableEq Ptr] (poller : EPollPoller Ptr) (self : Ptr) (channel : Channel) :
    Bool :=
  poller.channels channel.fd == some self

/-- `EPollPoller::update`. `epoll_ctl` fails when it adds a descriptor that is
present or changes one that is absent; a failed deletion is only logged. -/
def update (poller : EPollPoller Ptr) (operation : CtlOp) (self : Ptr) (channel : Channel) :
    EPollPoller Ptr :=
  match operation, poller.interest channel.fd with
  | .add, none | .mod, some _ =>
      { poller with
        interest := Function.update poller.interest channel.fd (some (channel.events, self)) }
  | .del, some _ =>
      { poller with interest := Function.update poller.interest channel.fd none }
  | .del, none => poller
  | .add, some _ | .mod, none => { poller with fatal := true }

def updateChannel (poller : EPollPoller Ptr) (self : Ptr) (channel : Channel) :
    Channel × EPollPoller Ptr :=
  match channel.index with
  | .kNew =>
      let known := { poller with
        channels := Function.update poller.channels channel.fd (some self) }
      ({ channel with index := .kAdded }, known.update .add self channel)
  | .kDeleted => ({ channel with index := .kAdded }, poller.update .add self channel)
  | .kAdded =>
      if channel.isNoneEvent then
        ({ channel with index := .kDeleted }, poller.update .del self channel)
      else
        (channel, poller.update .mod self channel)

def removeChannel (poller : EPollPoller Ptr) (self : Ptr) (channel : Channel) :
    Channel × EPollPoller Ptr :=
  let forgotten := { poller with channels := Function.update poller.channels channel.fd none }
  ({ channel with index := .kNew },
    if channel.index = .kAdded then forgotten.update .del self channel else forgotten)

end EPollPoller

inductive ChannelOp where
  | enableReading
  | disableReading
  | enableWriting
  | disableWriting
  | disableAll
  | remove
  deriving DecidableEq, Repr

def ChannelOp.mask : ChannelOp → Events → Events
  | .enableReading, events => events.or kReadEvent
  | .disableReading, events => events.andNot kReadEvent
  | .enableWriting, events => events.or kWriteEvent
  | .disableWriting, events => events.andNot kWriteEvent
  | .disableAll, _ => kNoneEvent
  | .remove, events => events

/-- `Channel::enableReading` and its siblings: change the mask, then `update`;
`Channel::remove` goes to `removeChannel`. -/
def Channel.perform {Ptr : Type} (operation : ChannelOp) (self : Ptr) (channel : Channel)
    (poller : EPollPoller Ptr) : Channel × EPollPoller Ptr :=
  let changed := { channel with events := operation.mask channel.events }
  match operation with
  | .remove => poller.removeChannel self channel
  | _ => poller.updateChannel self changed

end TalkSystem.Net
