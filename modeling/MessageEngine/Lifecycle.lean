/-!
# The life of an endpoint

An endpoint is one side of a connection: a client, or what a server holds
for a connection it accepted.  It is connected once and disconnected once,
and the reason of the disconnect stays with it.
-/

namespace MessageEngine

/-- Where an endpoint stands between its making and its end. -/
inductive Lifecycle
  | uninitialized
  | connecting
  | connected
  | disconnecting
  | disconnected
  deriving DecidableEq, Repr

namespace Lifecycle

def all : List Lifecycle := [uninitialized, connecting, connected, disconnecting, disconnected]

def name : Lifecycle → String
  | uninitialized => "Uninitialized"
  | connecting => "Connecting"
  | connected => "Connected"
  | disconnecting => "Disconnecting"
  | disconnected => "Disconnected"

/-- Messages can be sent and received. -/
def isConnected (s : Lifecycle) : Bool := s == connected

/-- The end has not begun. -/
def isActive (s : Lifecycle) : Bool := s != disconnecting && s != disconnected

end Lifecycle

/-- Why an endpoint was disconnected. -/
inductive DisconnectReason
  | requested
  | connectionLost
  | invalidDataReceived
  | invalidMessageSent
  | sslAuthenticationFailed
  | spam
  | serverStopped
  deriving DecidableEq, Repr

namespace DisconnectReason

def all : List DisconnectReason :=
  [requested, connectionLost, invalidDataReceived, invalidMessageSent, sslAuthenticationFailed,
    spam, serverStopped]

def name : DisconnectReason → String
  | requested => "Requested"
  | connectionLost => "ConnectionLost"
  | invalidDataReceived => "InvalidDataReceived"
  | invalidMessageSent => "InvalidMessageSent"
  | sslAuthenticationFailed => "SslAuthenticationFailed"
  | spam => "Spam"
  | serverStopped => "ServerStopped"

def code : DisconnectReason → UInt8
  | requested => 0
  | connectionLost => 1
  | invalidDataReceived => 2
  | invalidMessageSent => 3
  | sslAuthenticationFailed => 4
  | spam => 5
  | serverStopped => 6

/-- Messages that wait to be handled are dropped: the sender is not to be trusted. -/
def discardsPending (r : DisconnectReason) : Bool := r == invalidDataReceived || r == spam

def ofName? (name : String) : Option DisconnectReason := all.find? (·.name = name)

end DisconnectReason

/-- What sort of endpoint a handler is registered for. -/
inductive EndpointKind
  | tcpClient
  | tcpConnection
  | udpClient
  | udpConnection
  | webSocketClient
  | webSocketConnection
  deriving DecidableEq, Repr

namespace EndpointKind

def all : List EndpointKind :=
  [tcpClient, tcpConnection, udpClient, udpConnection, webSocketClient, webSocketConnection]

def name : EndpointKind → String
  | tcpClient => "TcpClient"
  | tcpConnection => "TcpConnection"
  | udpClient => "UdpClient"
  | udpConnection => "UdpConnection"
  | webSocketClient => "WebSocketClient"
  | webSocketConnection => "WebSocketConnection"

def ofName? (name : String) : Option EndpointKind := all.find? (·.name = name)

end EndpointKind

def Lifecycle.ofName? (name : String) : Option Lifecycle := Lifecycle.all.find? (·.name = name)

end MessageEngine
