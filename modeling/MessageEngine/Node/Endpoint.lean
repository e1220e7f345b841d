import MessageEngine.Address
import MessageEngine.Pool
import MessageEngine.Rate
import MessageEngine.Registry

/-!
# Endpoints

What an endpoint knows of itself.  It has a reason from the moment it begins
to be disconnected, and never loses it; everything that a disconnect stops
asks for that reason.  It has ended when its hooks are run, which is the
same moment unless the disconnect panics half way.
-/

namespace MessageEngine

/-- An endpoint of a node, by the order in which they were made. -/
abbrev EndpointRef := Nat

/-- What the subscribers of an endpoint are told. -/
inductive EndpointEvent
  | connected
  | disconnected (reason : DisconnectReason)
  deriving DecidableEq, Repr

/-- The frames that wait to be taken by a transport. -/
structure Outbox where
  frames : List Bytes := []
  /-- The endpoint still puts frames in. -/
  filling : Bool := false
  /-- A transport still takes frames out. -/
  draining : Bool := false
  deriving DecidableEq, Repr

namespace Outbox

/-- An outbox that is in use at both ends. -/
def fresh : Outbox := ⟨[], true, true⟩

def put (o : Outbox) (frame : Bytes) : Except NetworkError Outbox :=
  if !o.filling then .error .notConnected
  else if !o.draining then .error .connectionClosed
  else .ok { o with frames := o.frames ++ [frame] }

/-- No more frames are put in; those that wait are kept. -/
def finish (o : Outbox) : Outbox := { o with filling := false }

/-- No more frames are taken out, and those that wait are lost. -/
def close (o : Outbox) : Outbox := { o with frames := [], draining := false }

end Outbox

structure Endpoint where
  type : EndpointType
  /-- The number a server gave to the connection; 0 for a client. -/
  id : UInt64 := 0
  remote : Option SocketAddress := none
  state : Lifecycle := .uninitialized
  /-- Why it is disconnected, if it is. -/
  reason : Option DisconnectReason := none
  /-- Its hooks have been run, or are being run. -/
  ended : Bool := false
  /-- What was received and is not parsed yet. -/
  buffer : Bytes := []
  rate : Rate := {}
  handle : Option Handle := none
  outbox : Outbox := {}
  /-- What is to be done on a disconnect, in order. -/
  hooks : List Hook := []
  events : List EndpointEvent := []
  /-- How many frames were made of messages for it. -/
  frames : UInt64 := 0
  deriving DecidableEq, Repr

namespace Endpoint

/-- Messages that wait are not to be handled any more. -/
def discarding (x : Endpoint) : Bool :=
  match x.reason with
  | some r => r.discardsPending
  | none => false

/-- Begin an attempt to connect, which only an unused endpoint may. -/
def beginConnect (x : Endpoint) : Except NetworkError Endpoint :=
  match x.state with
  | .uninitialized => .ok { x with state := .connecting }
  | .connecting | .connected => .error .alreadyConnected
  | .disconnecting | .disconnected => .error .terminated

/-- Take an attempt to connect back. -/
def abortConnect (x : Endpoint) : Endpoint :=
  if x.state = .connecting then { x with state := .uninitialized } else x

/-- The connection stands, unless its end began before. -/
def markConnected (x : Endpoint) : Endpoint × Bool :=
  if x.state.isActive then
    ({ x with state := .connected, events := x.events ++ [.connected] }, true)
  else (x, false)

/-- Put a frame in the outbox. -/
def put (x : Endpoint) (frame : Bytes) : Except NetworkError Endpoint :=
  if x.state.isConnected then
    match x.outbox.put frame with
    | .ok o => .ok { x with outbox := o }
    | .error e => .error e
  else .error .notConnected

/-- The end begins: the endpoint has a reason now, lets go of its queue and puts no more frames
in its outbox. -/
def beginEnd (x : Endpoint) (reason : DisconnectReason) : Endpoint :=
  { x with
    state := .disconnecting, reason := some reason, handle := none, outbox := x.outbox.finish }

/-- The end: its hooks are taken to be run. -/
def finish (x : Endpoint) : Endpoint :=
  { x with state := .disconnected, ended := true, hooks := [] }

def describe (x : Endpoint) : String :=
  Text.record "EntityCore"
    [("kind", x.type.kind.name), ("id", toString x.id),
      ("remote", Text.option (x.remote.map (·.toText))), ("state", x.state.name),
      ("reason", Text.option (x.reason.map (·.name)))]

end Endpoint

end MessageEngine
