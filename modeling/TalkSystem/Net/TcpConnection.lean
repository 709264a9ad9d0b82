import TalkSystem.Machine.Runs
import TalkSystem.Net.Buffer
import TalkSystem.Net.Poller

/-!
# `TcpConnection` on its loop thread

A connection is modelled together with the poller of its loop and the record
of what it has asked of the outside: system calls on its socket, callbacks it
has invoked, functors it has queued. Each method is a function on that triple;
kernel answers are arguments.

User callbacks are not run inside the method that invokes them. `handleRead`
and `connectEstablished` invoke one as their last action, and the two callbacks
of `handleClose` find the connection disconnected, where `send` and `shutdown`
do nothing, so what user code calls back is a later operation of the run.
-/

set_option autoImplicit false

namespace TalkSystem.Net

inductive StateE where
  | kDisconnected
  | kConnecting
  | kConnected
  | kDisconnecting
  deriving DecidableEq, Repr

/-- The two callbacks that the code tests before it queues them are present or
not; the others are invoked unconditionally. -/
structure TcpConnection where
  name : String
  state : StateE
  channel : Channel
  inputBuffer : Buffer
  outputBuffer : Buffer
  highWaterMark : Nat
  writeCompleteCallback : Bool
  highWaterMarkCallback : Bool
  deriving DecidableEq

def defaultHighWaterMark : Nat := 64 * 1024 * 1024

def TcpConnection.new (name : String) (sockfd : Nat) : TcpConnection where
  name := name
  state := .kConnecting
  channel := Channel.new sockfd
  inputBuffer := Buffer.new kInitialSize
  outputBuffer := Buffer.new kInitialSize
  highWaterMark := defaultHighWaterMark
  writeCompleteCallback := false
  highWaterMarkCallback := false

def TcpConnection.connected (conn : TcpConnection) : Bool := conn.state == .kConnected

/-- What a connection does to the outside. `shutdownWrite` is annotated with
the contents of `outputBuffer_` at the call. -/
inductive Effect where
  | write (data : List UInt8) (answer : WriteAnswer)
  | shutdownWrite (unsent : List UInt8)
  | queueWriteComplete
  | queueHighWaterMark (size : Nat)
  | connectionCallback (connected : Bool)
  | messageCallback
  | closeCallback
  deriving DecidableEq

namespace Effect

def accepted : Effect → List UInt8
  | .write data answer => answer.accepted data
  | _ => []

def isWrite : Effect → Bool
  | .write _ _ => true
  | _ => false

def isShutdownWrite : Effect → Bool
  | .shutdownWrite _ => true
  | _ => false

def connectionUp? : Effect → Option Bool
  | .connectionCallback connected => some connected
  | _ => none

end Effect

/-- A connection, the poller of its loop, and everything it has done. -/
structure Endpoint (Ptr : Type) where
  self : Ptr
  conn : TcpConnection
  poller : EPollPoller Ptr
  effects : List Effect

namespace Endpoint

variable {Ptr : Type}

def emit (site : Endpoint Ptr) (effect : Effect) : Endpoint Ptr :=
  { site with effects := site.effects ++ [effect] }

def setState (site : Endpoint Ptr) (state : StateE) : Endpoint Ptr :=
  { site with conn := { site.conn with state := state } }

def onChannel (site : Endpoint Ptr) (operation : ChannelOp) : Endpoint Ptr :=
  let result := site.conn.channel.perform operation site.self site.poller
  { site with conn := { site.conn with channel := result.1 }, poller := result.2 }

def setOutput (site : Endpoint Ptr) (buffer : Buffer) : Endpoint Ptr :=
  { site with conn := { site.conn with outputBuffer := buffer } }

structure SendProgress where
  nwrote : Nat
  remaining : Nat
  faultError : Bool
  deriving DecidableEq

/-- The first half of `sendInLoop`: write directly when nothing is pending. -/
def sendInLoopWrite (site : Endpoint Ptr) (data : List UInt8) (answer : WriteAnswer) :
    SendProgress × Endpoint Ptr :=
  if !site.conn.channel.isWriting && site.conn.outputBuffer.readableBytes == 0 then
    let wrote := site.emit (.write data answer)
    match answer with
    | .accepts count =>
        let nwrote := min count data.length
        let remaining := data.length - nwrote
        (⟨nwrote, remaining, false⟩,
          if remaining == 0 && site.conn.writeCompleteCallback then
            wrote.emit .queueWriteComplete
          else
            wrote)
    | .fails errno =>
        (⟨0, data.length, errno == .EPIPE || errno == .ECONNRESET⟩, wrote)
  else
    (⟨0, data.length, false⟩, site)

/-- The second half of `sendInLoop`: buffer the rest and ask for `EPOLLOUT`. -/
def sendInLoopAppend (site : Endpoint Ptr) (data : List UInt8) (progress : SendProgress) :
    Endpoint Ptr :=
  if !progress.faultError && 0 < progress.remaining then
    let oldLen := site.conn.outputBuffer.readableBytes
    let marked :=
      if site.conn.highWaterMark ≤ oldLen + progress.remaining &&
          oldLen < site.conn.highWaterMark && site.conn.highWaterMarkCallback then
        site.emit (.queueHighWaterMark (oldLen + progress.remaining))
      else
        site
    let rest := (data.drop progress.nwrote).take progress.remaining
    let buffered := marked.setOutput (marked.conn.outputBuffer.append rest)
    if !buffered.conn.channel.isWriting then buffered.onChannel .enableWriting else buffered
  else
    site

/-- `sendInLoop` once it has loaded `state_`. -/
def sendInLoopFrom (loaded : StateE) (site : Endpoint Ptr) (data : List UInt8)
    (answer : WriteAnswer) : Endpoint Ptr :=
  if loaded = .kDisconnected then
    site
  else
    let written := site.sendInLoopWrite data answer
    written.2.sendInLoopAppend data written.1

def sendInLoop (site : Endpoint Ptr) (data : List UInt8) (answer : WriteAnswer) : Endpoint Ptr :=
  sendInLoopFrom site.conn.state site data answer

def send (site : Endpoint Ptr) (data : List UInt8) (answer : WriteAnswer) : Endpoint Ptr :=
  if site.conn.state = .kConnected then site.sendInLoop data answer else site

def shutdownInLoop (site : Endpoint Ptr) : Endpoint Ptr :=
  if !site.conn.channel.isWriting then
    site.emit (.shutdownWrite site.conn.outputBuffer.readable)
  else
    site

def shutdown (site : Endpoint Ptr) : Endpoint Ptr :=
  if site.conn.state = .kConnected then
    (site.setState .kDisconnecting).shutdownInLoop
  else
    site

def connectEstablished (site : Endpoint Ptr) : Endpoint Ptr :=
  let up := site.setState .kConnected
  let tied := { up with conn := { up.conn with channel := up.conn.channel.tie } }
  let reading := tied.onChannel .enableReading
  reading.emit (.connectionCallback reading.conn.connected)

/-- Leave the poller and tell the user, as both ways down do behind their store
of `kDisconnected`. -/
def notifyDown (site : Endpoint Ptr) : Endpoint Ptr :=
  let down := site.onChannel .disableAll
  down.emit (.connectionCallback down.conn.connected)

def connectDestroyed (site : Endpoint Ptr) : Endpoint Ptr :=
  let down :=
    if site.conn.state = .kConnected then (site.setState .kDisconnected).notifyDown else site
  down.onChannel .remove

/-- `handleClose` behind its store of `kDisconnected`. -/
def handleCloseRest (site : Endpoint Ptr) : Endpoint Ptr := site.notifyDown.emit .closeCallback

def handleClose (site : Endpoint Ptr) : Endpoint Ptr :=
  (site.setState .kDisconnected).handleCloseRest

/-- `handleError` asks for `SO_ERROR` and logs it. -/
def handleError (site : Endpoint Ptr) : Endpoint Ptr := site

def handleRead (site : Endpoint Ptr) (answer : ReadAnswer) : Endpoint Ptr :=
  let result := site.conn.inputBuffer.readFd answer
  let filled := { site with conn := { site.conn with inputBuffer := result.2 } }
  match result.1 with
  | none => filled.handleError
  | some [] => filled.handleClose
  | some (_ :: _) => filled.emit .messageCallback

/-- `handleWrite` up to the point where it has emptied `outputBuffer_` and is
about to load `state_`; the flag says whether it gets there. -/
def handleWriteBody (site : Endpoint Ptr) (answer : WriteAnswer) : Bool × Endpoint Ptr :=
  if site.conn.channel.isWriting then
    let wrote := site.emit (.write site.conn.outputBuffer.writeFd answer)
    let n := (answer.accepted site.conn.outputBuffer.writeFd).length
    if 0 < n then
      let taken := wrote.setOutput (wrote.conn.outputBuffer.retrieve n)
      if taken.conn.outputBuffer.readableBytes == 0 then
        let quiet := taken.onChannel .disableWriting
        (true,
          if quiet.conn.writeCompleteCallback then quiet.emit .queueWriteComplete else quiet)
      else
        (false, taken)
    else
      (false, wrote)
  else
    (false, site)

/-- `handleWrite` behind its load of `state_`. -/
def handleWriteTail (loaded : StateE) (site : Endpoint Ptr) : Endpoint Ptr :=
  if loaded = .kDisconnecting then site.shutdownInLoop else site

def handleWrite (site : Endpoint Ptr) (answer : WriteAnswer) : Endpoint Ptr :=
  let body := site.handleWriteBody answer
  if body.1 then handleWriteTail body.2.conn.state body.2 else body.2

def setHighWaterMarkCallback (site : Endpoint Ptr) (highWaterMark : Nat) : Endpoint Ptr :=
  { site with
    conn := { site.conn with highWaterMarkCallback := true, highWaterMark := highWaterMark } }

/-- What user code takes out of the buffer that `messageCallback_` hands it. -/
def retrieveInput (site : Endpoint Ptr) (len : Nat) : Endpoint Ptr :=
  { site with conn := { site.conn with inputBuffer := site.conn.inputBuffer.retrieve len } }

def otherChannel (site : Endpoint Ptr) (other : Ptr) (channel : Channel)
    (operation : ChannelOp) : Endpoint Ptr :=
  { site with poller := (channel.perform operation other site.poller).2 }

end Endpoint

/-- The operations that the loop thread performs on a connection, with the
kernel's answers, and what the other channels of the loop do meanwhile. -/
inductive ConnectionOp (Ptr : Type) where
  | connectEstablished
  | send (data : List UInt8) (answer : WriteAnswer)
  | shutdown
  | handleRead (answer : ReadAnswer)
  | handleWrite (answer : WriteAnswer)
  | handleClose
  | handleError
  | connectDestroyed
  | retrieveInput (len : Nat)
  | otherChannel (other : Ptr) (channel : Channel) (operation : ChannelOp)

namespace ConnectionOp

variable {Ptr : Type}

def apply (site : Endpoint Ptr) : ConnectionOp Ptr → Endpoint Ptr
  | .connectEstablished => site.connectEstablished
  | .send data answer => site.send data answer
  | .shutdown => site.shutdown
  | .handleRead answer => site.handleRead answer
  | .handleWrite answer => site.handleWrite answer
  | .handleClose => site.handleClose
  | .handleError => site.handleError
  | .connectDestroyed => site.connectDestroyed
  | .retrieveInput len => site.retrieveInput len
  | .otherChannel other channel operation => site.otherChannel other channel operation

end ConnectionOp

def loopThread (Ptr : Type) : Machine (Endpoint Ptr) (ConnectionOp Ptr) where
  step site operation := some (operation.apply site)

end TalkSystem.Net
