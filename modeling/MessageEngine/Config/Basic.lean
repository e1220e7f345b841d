import MessageEngine.Address
import MessageEngine.Bytes

/-!
# Configuration

The settings of a program that serves clients, and the rules they have to
keep.  `Config.violation?` names the first rule that is broken.
-/

namespace MessageEngine

structure ProtocolConfig where
  /-- How many octets are asked of the transport in one read. -/
  bufferLength : Nat := 8192
  /-- How many messages a second an endpoint may receive; 0 for any number. -/
  maxRate : UInt32 := 1000
  maxPayload : Nat := 1048576
  strictVersions : Bool := true
  compression : Bool := false
  deriving DecidableEq, Repr

structure QueueConfig where
  /-- How many connections of a server share a queue. -/
  connectionsPerQueue : Nat := 64
  deriving DecidableEq, Repr

structure TlsConfig where
  certificatePath : String
  certificatePassword : String := ""
  deriving DecidableEq, Repr

/-- Where the configuration is looked for unless something else is said. -/
def defaultConfigPath : String := "config/netframe.toml"

structure Config where
  /-- The file that the configuration was looked for in. -/
  path : String := defaultConfigPath
  bindAddress : IpAddress := .v4 0 0 0 0
  tcpPort : UInt16 := 7000
  udpPort : UInt16 := 7001
  webSocketPort : UInt16 := 7002
  protocol : ProtocolConfig := {}
  queue : QueueConfig := {}
  tls : Option TlsConfig := none
  debug : Bool := false
  deriving DecidableEq, Repr

/-- Why there is no configuration. -/
inductive ConfigError
  | unreadable (path : String)
  | malformed (path : String)
  | portClash
  | bufferTooShort
  | payloadOutOfRange
  | emptyQueues
  | noCertificatePath
  deriving DecidableEq, Repr

/-- The greatest payload that can be configured. -/
def payloadCeiling : Nat := UInt32.size - 1

def ConfigError.message : ConfigError → String
  | unreadable path => "Failed to read config file: " ++ path
  | malformed path => "Failed to parse config file: " ++ path
  | portClash => "TCP, UDP and WebSocket ports must be different"
  | bufferTooShort => "Network buffer length must be at least 64 bytes"
  | payloadOutOfRange => "Max payload length must be between 1 and " ++ toString payloadCeiling
  | emptyQueues => "Connections per queue must be at least 1"
  | noCertificatePath => "TLS certificate path must not be empty"

namespace Config

def tcpAddress (c : Config) : SocketAddress := { ip := c.bindAddress, port := c.tcpPort }

def udpAddress (c : Config) : SocketAddress := { ip := c.bindAddress, port := c.udpPort }

def webSocketAddress (c : Config) : SocketAddress :=
  { ip := c.bindAddress, port := c.webSocketPort }

/-- Two ports are the same; any number of them may be 0, which leaves the choice open. -/
def clash (a b : UInt16) : Bool := a != 0 && a == b

/-- The first rule that the configuration breaks. -/
def violation? (c : Config) : Option ConfigError :=
  if clash c.tcpPort c.udpPort || clash c.tcpPort c.webSocketPort ||
      clash c.udpPort c.webSocketPort then some .portClash
  else if c.protocol.bufferLength < 64 then some .bufferTooShort
  else if c.protocol.maxPayload = 0 ∨ payloadCeiling < c.protocol.maxPayload then
    some .payloadOutOfRange
  else if c.queue.connectionsPerQueue = 0 then some .emptyQueues
  else
    match c.tls with
    | some t => if t.certificatePath = "" then some .noCertificatePath else none
    | none => none

/-- The configuration, if it keeps the rules. -/
def validate (c : Config) : Except ConfigError Config :=
  match c.violation? with
  | some e => .error e
  | none => .ok c

end Config

end MessageEngine
