import MessageEngine.Node.Basic

/-!
# The life of a connection

There is one way to the end of a connection, `disconnect`, and only the
first call takes it.  It hands the reset of the receive buffer to the queue,
behind everything that is to be parsed before it, gives up the queue, and
runs the hooks.  By then the endpoint has its reason, so a hook that
disconnects again changes nothing and a hook that is registered now runs at
once.  If the queue cannot take the reset without a panic, the way ends
there: the endpoint has its reason, but no hook is ever run.
-/

namespace MessageEngine.Node

/-! ## The beginning -/

def beginConnect (s : Node) (e : EndpointRef) : Node × Except NetworkError Unit :=
  match s.endpoint? e with
  | none => (s, .error .notConnected)
  | some x =>
    match x.beginConnect with
    | .ok x => (s.setEndpoint e x, .ok ())
    | .error cause => (s, .error cause)

def abortConnect (s : Node) (e : EndpointRef) : Node := s.modifyEndpoint e Endpoint.abortConnect

/-- Say where an endpoint stands, as a transport does that has to shake hands first. -/
def setState (s : Node) (e : EndpointRef) (state : Lifecycle) : Node :=
  s.modifyEndpoint e fun x ↦ { x with state := state }

def setRemote (s : Node) (e : EndpointRef) (address : SocketAddress) : Node :=
  s.modifyEndpoint e fun x ↦ { x with remote := some address }

/-- Give an endpoint a queue and a fresh outbox, in place of those it had. -/
def attach (s : Node) (e : EndpointRef) (h : Handle) : Node :=
  match s.endpoint? e with
  | none => s
  | some x =>
    let s := s.setEndpoint e { x with handle := some h, outbox := .fresh }
    match x.handle with
    | some old => s.drop old
    | none => s

def markConnected (s : Node) (e : EndpointRef) : Node × Bool :=
  match s.endpoint? e with
  | none => (s, false)
  | some x => (s.setEndpoint e x.markConnected.1, x.markConnected.2)

/-! ## The end -/

/-- Have a hook run when the endpoint is disconnected, or at once, by `run`, if it was. -/
def onDisconnectBy (run : DisconnectReason → Node → Node) (s : Node) (e : EndpointRef)
    (hook : Hook) : Node :=
  match s.endpoint? e with
  | none => s
  | some x =>
    match x.ended, x.reason with
    | true, some reason => run reason s
    | _, _ => s.setEndpoint e { x with hooks := x.hooks ++ [hook] }

/-- Let go of a queue: what was received is forgotten when all that is queued has been
done, or at once if the queue takes nothing any more. -/
def detach (s : Node) (e : EndpointRef) : Option Handle → Node
  | none => s.clearBuffer e
  | some h =>
    match s.enqueue h.queue (.reset e) with
    | (s, true) => (s.release h).1
    | (s, false) => if s.panic.isSome then s.drop h else ((s.clearBuffer e).release h).1

/-- Disconnect an endpoint, and have its hooks run by `run`; false if it was disconnected before,
or if that panics. -/
def disconnectBy (run : DisconnectReason → Hook → Node → Node) (s : Node) (e : EndpointRef)
    (reason : DisconnectReason) : Node × Bool :=
  match s.endpoint? e with
  | none => (s, false)
  | some x =>
    if x.reason.isSome then (s, false)
    else
      let s := (s.setEndpoint e (x.beginEnd reason)).detach e x.handle
      if s.panic.isSome then (s, false)
      else
        let s := x.hooks.foldl (fun s hook ↦ run reason hook s) (s.modifyEndpoint e Endpoint.finish)
        (s.modifyEndpoint e fun x ↦ { x with events := x.events ++ [.disconnected reason] }, true)

/-- Run a hook of an endpoint, which calls on the endpoint for what it wants of it. -/
def callHook (e : EndpointRef) : DisconnectReason → Hook → Node → Node
  | _, .done, s => s
  | reason, .note label next, s => callHook e reason next (s.record (.hook label reason))
  | reason, .untrack id next, s =>
    callHook e reason next { s with server := s.server.strike id reason }
  -- no hook is left for this disconnect: the one that runs the hook has taken them all
  | reason, .disconnect again next, s =>
    callHook e reason next (s.disconnectBy (fun _ _ s ↦ s) e again).1
  | reason, .register hook next, s =>
    callHook e reason next (s.onDisconnectBy (fun reason ↦ callHook e reason hook) e hook)

/-- Have a hook run when the endpoint is disconnected, or at once if it was. -/
def onDisconnect (s : Node) (e : EndpointRef) (hook : Hook) : Node :=
  s.onDisconnectBy (fun reason ↦ callHook e reason hook) e hook

/-- Disconnect an endpoint; false if it was disconnected before, or if that panics. -/
def disconnect (s : Node) (e : EndpointRef) (reason : DisconnectReason) : Node × Bool :=
  s.disconnectBy (callHook e) e reason

/-! ## Sending and receiving -/

/-- Take all frames out of an endpoint's outbox. -/
def takeFrames (s : Node) (e : EndpointRef) : Node × List Bytes :=
  match s.endpoint? e with
  | none => (s, [])
  | some x =>
    (s.setEndpoint e { x with outbox := { x.outbox with frames := [] } }, x.outbox.frames)

/-- Nobody takes frames out of the outbox any more. -/
def closeOutbox (s : Node) (e : EndpointRef) : Node :=
  s.modifyEndpoint e fun x ↦ { x with outbox := x.outbox.close }

/-- Put octets in an endpoint's outbox as they are. -/
def sendBytes (s : Node) (e : EndpointRef) (data : Bytes) : Node × Except EngineError Unit :=
  match s.endpoint? e with
  | none => (s, .error (.network .notConnected))
  | some x =>
    match x.put data with
    | .ok x => (s.setEndpoint e x, .ok ())
    | .error cause => (s, .error (.network cause))

/-- Make a frame of a message; each attempt has a number of its own. -/
def serializeFor (s : Node) (e : EndpointRef) (m : Message) : Node × Except EngineError Bytes :=
  match s.endpoint? e with
  | none => (s, .error (.network .notConnected))
  | some x =>
    (s.setEndpoint e { x with frames := x.frames + 1 },
      (s.engine e).serialize (.ofNat e) x.frames m)

/-- Send a message. -/
def send (s : Node) (e : EndpointRef) (m : Message) : Node × Except EngineError Unit :=
  if s.isConnected e then
    match s.serializeFor e m with
    | (s, .ok data) => s.sendBytes e data
    | (s, .error cause) => (s, .error cause)
  else (s, .error (.network .notConnected))

/-- Octets arrive at an endpoint. -/
def receive (s : Node) (e : EndpointRef) (data : Bytes) : Node :=
  match s.endpoint? e with
  | none => s
  | some x =>
    if x.state.isConnected then
      let s := s.setEndpoint e { x with buffer := x.buffer ++ data }
      match x.handle with
      | some h => (s.enqueue h.queue (.parse e)).1
      | none => s
    else s

end MessageEngine.Node
