import TalkSystem.Net.TcpServer

/-!
# The `std::function` members of the server, its connections and their channels

A callback passes through three layers. `newConnection` copies the members of
the server into the connection, the constructor of the connection sets the four
of its channel, and the code of all three calls them, some behind a test and
some without. This module adds to `TcpServer` which members are set, and says
what each step calls.
-/

set_option autoImplicit false

namespace TalkSystem.Net

inductive Callback where
  | channel (handler : Handler)
  | connection
  | message
  | close
  | writeComplete
  | highWaterMark
  deriving DecidableEq

/-- Which members of a `TcpServer` are not empty. -/
structure ServerCallbacks where
  connection : Bool
  message : Bool
  writeComplete : Bool
  deriving DecidableEq

/-- The constructor sets none of them. -/
def ServerCallbacks.constructed : ServerCallbacks := ⟨false, false, false⟩

/-- Which members of a `TcpConnection` and of its channel are not empty. -/
structure ConnectionCallbacks where
  channel : Handler → Bool
  connection : Bool
  message : Bool
  close : Bool
  writeComplete : Bool
  highWaterMark : Bool

namespace ConnectionCallbacks

def empty : ConnectionCallbacks := ⟨fun _ => false, false, false, false, false, false⟩

/-- The constructor sets the callbacks of the channel. -/
def constructed : ConnectionCallbacks := { empty with channel := fun _ => true }

/-- The calls of `newConnection` behind the constructor. -/
def copied (callbacks : ServerCallbacks) : ConnectionCallbacks :=
  { constructed with
    connection := callbacks.connection
    message := callbacks.message
    writeComplete := callbacks.writeComplete
    close := true }

def has (callbacks : ConnectionCallbacks) : Callback → Bool
  | .channel handler => callbacks.channel handler
  | .connection => callbacks.connection
  | .message => callbacks.message
  | .close => callbacks.close
  | .writeComplete => callbacks.writeComplete
  | .highWaterMark => callbacks.highWaterMark

end ConnectionCallbacks

/-- What an effect calls, or binds into a functor that will call it. -/
def Effect.callback? : Effect → Option Callback
  | .connectionCallback _ => some .connection
  | .messageCallback => some .message
  | .closeCallback => some .close
  | .queueWriteComplete => some .writeComplete
  | .queueHighWaterMark _ => some .highWaterMark
  | .write _ _ | .shutdownWrite _ => none

namespace Handler

def method (readAnswer : ReadAnswer) (writeAnswer : WriteAnswer) (site : Endpoint Nat) :
    Handler → Endpoint Nat
  | .close => site.handleClose
  | .error => site.handleError
  | .read => site.handleRead readAnswer
  | .write => site.handleWrite writeAnswer

end Handler

namespace ServerFunctor

/-- The method of its connection that a functor runs. A bound callback has been
counted where it was bound, and `removeConnectionInLoop` calls none. -/
def method (answer : WriteAnswer) (site : Endpoint Nat) : ServerFunctor → Endpoint Nat
  | .connectEstablished _ => site.connectEstablished
  | .connectDestroyed _ => site.connectDestroyed
  | .sendInLoop _ data => site.sendInLoop data answer
  | .shutdownInLoop _ => site.shutdownInLoop
  | .removeConnectionInLoop _ | .callback _ => site

end ServerFunctor

namespace TcpServer

/-- The connection whose method a step runs, and where the method leads. -/
def performs (server : TcpServer) : ServerLabel → Option (Nat × Endpoint Nat)
  | .accept sockfd =>
      if server.getNextLoop.1 = 0 then
        some (server.accepted,
          ((server.createConnection sockfd).site server.accepted).connectEstablished)
      else
        none
  | .handler loop readAnswer writeAnswer =>
      match (server.loops loop).handling with
      | some (conn, handler :: _) =>
          some (conn, handler.method readAnswer writeAnswer (server.site conn))
      | _ => none
  | .runFunctor loop answer =>
      (server.loops loop).queue.next?.map fun item =>
        (item.1.conn, item.1.method answer (server.site item.1.conn))
  | .send conn data answer => some (conn, (server.site conn).send data answer)
  | .shutdown conn => some (conn, (server.site conn).shutdown)
  | .destroyNext conn =>
      if server.connLoop conn = 0 then
        some (conn, (server.site conn).connectDestroyed)
      else
        none
  | _ => none

/-- The callbacks that a step calls, with the connection that they belong to:
the one that `handleEventWithGuard` has chosen, and those of the method. -/
def calledBy (server : TcpServer) (label : ServerLabel) : List (Nat × Callback) :=
  (match label with
    | .handler loop _ _ =>
        match (server.loops loop).handling with
        | some (conn, handler :: _) => [(conn, .channel handler)]
        | _ => []
    | _ => []) ++
  match server.performs label with
    | some (conn, after) => (after.effects.filterMap Effect.callback?).map fun called =>
        (conn, called)
    | none => []

end TcpServer

structure CallbackServer where
  server : TcpServer
  callbacks : ServerCallbacks
  conns : Nat → ConnectionCallbacks

namespace CallbackServer

def init (name : String) (address : InetAddress) (numThreads : Nat)
    (callbacks : ServerCallbacks) : CallbackServer where
  server := .init name address numThreads callbacks.writeComplete
  callbacks := callbacks
  conns := fun _ => .empty

/-- The callbacks of the connections when the step makes its calls. -/
def table (state : CallbackServer) : ServerLabel → Nat → ConnectionCallbacks
  | .accept _ => Function.update state.conns state.server.accepted (.copied state.callbacks)
  | .setHighWaterMarkCallback conn _ =>
      Function.update state.conns conn { state.conns conn with highWaterMark := true }
  | _ => state.conns

def step (state : CallbackServer) (label : ServerLabel) : Option CallbackServer :=
  (state.server.step label).map fun server =>
    { state with server := server, conns := state.table label }

def machine : Machine CallbackServer ServerLabel where
  step := step

/-- Every callback that the step calls is set. -/
def CallsPresent (state : CallbackServer) (label : ServerLabel) : Prop :=
  ∀ call ∈ state.server.calledBy label, (state.table label call.1).has call.2 = true

end CallbackServer

end TalkSystem.Net
