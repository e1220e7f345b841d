/-!
# Causes of failure

A `ProtocolError` says why octets or messages were refused, a `NetworkError`
why a connection or server would not do what it was asked.  `EngineError`
joins the two with what comes from the operating system and from securing a
connection.  Each type has one `message` that puts the cause into words.
-/

namespace MessageEngine

/-- Why a message could not be written, or octets not be read as one. -/
inductive ProtocolError
  | unknownMessageId (id : UInt16)
  | duplicateMessageId (id : UInt16)
  | unregisteredMessageType
  | payloadTooLarge (size max : Nat)
  | malformedFrame (detail : String)
  | unexpectedEof (needed remaining : Nat)
  | versionMismatch (id : UInt16) (expected actual : UInt8)
  | invalidStringEncoding
  | transform (detail : String)
  deriving DecidableEq, Repr

namespace ProtocolError

/-- The kind of the failure, in a word. -/
def name : ProtocolError → String
  | unknownMessageId _ => "UnknownMessageId"
  | duplicateMessageId _ => "DuplicateMessageId"
  | unregisteredMessageType => "UnregisteredMessageType"
  | payloadTooLarge _ _ => "PayloadTooLarge"
  | malformedFrame _ => "MalformedFrame"
  | unexpectedEof _ _ => "UnexpectedEof"
  | versionMismatch _ _ _ => "VersionMismatch"
  | invalidStringEncoding => "InvalidStringEncoding"
  | transform _ => "Transform"

def message : ProtocolError → String
  | unknownMessageId id => s!"Unknown message id: {id}"
  | duplicateMessageId id => s!"Message id {id} is already registered"
  | unregisteredMessageType => "Message type is not registered"
  | payloadTooLarge size max => s!"Payload too large: {size} bytes (max: {max})"
  | malformedFrame detail => s!"Malformed frame: {detail}"
  | unexpectedEof needed remaining =>
    s!"Unexpected end of payload: needed {needed} bytes, {remaining} remaining"
  | versionMismatch id expected actual =>
    s!"Version mismatch for message {id}: expected {expected}, got {actual}"
  | invalidStringEncoding => "Invalid string encoding"
  | transform detail => s!"Payload transform failed: {detail}"

/-- A boolean or an option tag is neither 0 nor 1. -/
def invalidBoolean (octet : UInt8) : ProtocolError :=
  malformedFrame s!"invalid boolean byte {octet}"

/-- A frame leaves no room for its version octet. -/
def emptyPayload (id : UInt16) : ProtocolError :=
  malformedFrame s!"message {id} has an empty payload"

/-- Octets are left over behind the last field of a message. -/
def unreadPayload (id : UInt16) (count : Nat) : ProtocolError :=
  malformedFrame s!"{count} unread payload bytes for message {id}"

end ProtocolError

/-- How decoding ends without a result: what was given is refused, or a count does not fit in
its 64 bits and the decoder panics. -/
inductive DecodeFailure
  | refused (cause : ProtocolError)
  | panicked
  deriving DecidableEq, Repr

/-- Why a connection or a server refused. -/
inductive NetworkError
  | alreadyConnected
  | notConnected
  | terminated
  | alreadyRunning
  | notRunning
  | connectionClosed
  | connectFailed (address reason : String)
  deriving DecidableEq, Repr

/-- The kind of the failure, in a word. -/
def NetworkError.name : NetworkError → String
  | alreadyConnected => "AlreadyConnected"
  | notConnected => "NotConnected"
  | terminated => "Terminated"
  | alreadyRunning => "AlreadyRunning"
  | notRunning => "NotRunning"
  | connectionClosed => "ConnectionClosed"
  | connectFailed _ _ => "ConnectFailed"

def NetworkError.message : NetworkError → String
  | alreadyConnected => "Already connected"
  | notConnected => "Not connected"
  | terminated => "Entity has already been disconnected"
  | alreadyRunning => "Server is already running"
  | notRunning => "Server is not running"
  | connectionClosed => "Connection closed"
  | connectFailed address reason => s!"Connect to {address} failed: {reason}"

/-- Any failure of the engine. -/
inductive EngineError
  | network (cause : NetworkError)
  | protocol (cause : ProtocolError)
  | io (detail : String)
  | tls (detail : String)
  deriving DecidableEq, Repr

namespace EngineError

/-- The kind of the failure, in a word: that of the cause, if it wraps one. -/
def name : EngineError → String
  | network cause => cause.name
  | protocol cause => cause.name
  | io _ => "Io"
  | tls _ => "Tls"

def message : EngineError → String
  | network cause => "Network error: " ++ cause.message
  | protocol cause => "Protocol error: " ++ cause.message
  | io detail => "I/O error: " ++ detail
  | tls detail => "TLS error: " ++ detail

/-- The messages of the failure and of the cause it wraps, outermost first. -/
def chain : EngineError → List String
  | e@(network cause) => [e.message, cause.message]
  | e@(protocol cause) => [e.message, cause.message]
  | e@(io detail) => [e.message, detail]
  | e@(tls _) => [e.message]

end EngineError

end MessageEngine
