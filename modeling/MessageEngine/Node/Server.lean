import MessageEngine.Node.Connection

/-!
# The server

A server starts a run with a pool of its own and ends it by disconnecting
every connection it keeps track of.  A connection is entered into the book
when it is tracked and struck off when it is disconnected; one that is
tracked while no run is on is disconnected at once.
-/

namespace MessageEngine.Node

/-- Begin a run. -/
def beginServer (s : Node) : Node × Except NetworkError Unit :=
  if s.server.isRunning then (s, .error .alreadyRunning)
  else
    let (s, p) := s.newPool s.server.name s.server.perQueue
    ({ s with server := { s.server with isRunning := true, pool := some p } }, .ok ())

/-- Take the beginning of a run back. -/
def abortServer (s : Node) : Node :=
  { s with server := { s.server with isRunning := false, pool := none } }

/-- The server listens at an address. -/
def serverStarted (s : Node) (address : SocketAddress) : Node :=
  { s with server := { s.server with address := some address } }

/-- Disconnect endpoints, one after the other. -/
def disconnectAll (s : Node) (es : List EndpointRef) (reason : DisconnectReason) : Node :=
  es.foldl (fun s e ↦ (s.disconnect e reason).1) s

/-- The server takes no more connections in. -/
def closeServer (s : Node) : Node := { s with server := { s.server with isRunning := false } }

/-- End a run. -/
def finishServer (s : Node) (reason : DisconnectReason) : Node × Except NetworkError Unit :=
  if s.server.isRunning then
    let s := s.closeServer
    let s := s.disconnectAll (s.server.connections.map (·.2)) reason
    let s := match s.server.pool with
      | none => s
      | some p => s.modifyPool p Pool.dispose
    let closed := { s.server with pool := none, address := none, connections := [] }
    ({ s with server := closed }, .ok ())
  else (s, .error .notRunning)

/-- A slot on the queues of the current run. -/
def acquireSlot (s : Node) : Option (Node × Handle) :=
  match s.server.pool with
  | none => none
  | some p => s.acquire p

/-- The number of a new connection. -/
def nextConnectionId (s : Node) : Node × UInt64 :=
  ({ s with server := { s.server with nextId := s.server.nextId + 1 } }, s.server.nextId)

/-- Accept a connection on a slot of the current run.  If a handshake is to follow, it is not
connected yet. -/
def accept (s : Node) (type : EndpointType) (remote : Option SocketAddress) (handshake : Bool) :
    Option (Node × EndpointRef × Handle) :=
  match s.acquireSlot with
  | none => none
  | some (s, h) =>
    let (s, id) := s.nextConnectionId
    let (s, e) := s.newEndpoint { type := type, id := id, remote := remote }
    let s := s.attach e h
    some (if handshake then s.setState e .connecting else (s.markConnected e).1, e, h)

/-- Keep track of a connection until it is disconnected. -/
def track (s : Node) (e : EndpointRef) : Node :=
  match s.endpoint? e with
  | none => s
  | some x =>
    let s := { s with server := s.server.enter x.id e }
    let s := s.onDisconnect e (.untrack x.id .done)
    if s.server.isRunning then s else (s.disconnect e .serverStopped).1

end MessageEngine.Node
