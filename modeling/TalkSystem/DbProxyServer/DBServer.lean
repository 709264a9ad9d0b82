import TalkSystem.Net.ServerCallbacks

/-!
# `CDBServer`

The server of the database proxy: a `TcpServer` with 48 I/O loops, started with
the callbacks that its constructor leaves.
-/

set_option autoImplicit false

namespace TalkSystem.DbProxyServer

open Net

def CDBServer.threadNum : Nat := 48

/-- A `CDBServer` after its constructor and `start`. -/
def CDBServer.start (nameArg : String) (listenAddr : InetAddress) : CallbackServer :=
  .init nameArg listenAddr CDBServer.threadNum .constructed

end TalkSystem.DbProxyServer
