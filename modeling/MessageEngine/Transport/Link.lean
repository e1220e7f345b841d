import MessageEngine.Node.Worker
import MessageEngine.Wire.Encode

/-!
# Links

A link joins an endpoint to what carries its frames, a byte stream or a
WebSocket.

Its writer offers the frames of the outbox to the carrier, one at a time and
in order.  It stops when the carrier refuses a frame, and when the outbox is
empty and nothing more will be put in; its last act is to shut the carrier
down.

Its reader hands to the endpoint what comes from the peer: from a stream a
bounded number of octets at a time, from a WebSocket whole messages, texts
as their octets in UTF-8.  It stops with the endpoint and when the peer is
gone, and a stream that yields no octets has been closed.
-/

namespace MessageEngine

inductive Carrier
  | stream
  | webSocket
  deriving DecidableEq, Repr

/-- What a carrier takes to the peer. -/
inductive Packet
  /-- Octets of a stream. -/
  | octets (b : Bytes)
  /-- A binary message of a WebSocket. -/
  | binary (b : Bytes)
  deriving DecidableEq, Repr

/-- What becomes of a frame on its way.  To write nothing to a stream is no write. -/
def Carrier.packet? : Carrier → Bytes → Option Packet
  | .stream, frame => if frame.isEmpty then none else some (.octets frame)
  | .webSocket, frame => some (.binary frame)

/-- What is traced when the carrier refuses a frame. -/
def Carrier.writeFailed : Carrier → String → Trace
  | .stream => .streamWriteFailed
  | .webSocket => .socketWriteFailed

/-- What a carrier was offered by the writer, and how it took it. -/
inductive Offer
  | written (frame : Bytes)
  | refused (frame : Bytes)
  | shutdown
  deriving DecidableEq, Repr

/-- What comes from the peer. -/
inductive Arrival
  /-- Octets of a stream, or a binary message. -/
  | octets (b : Bytes)
  | text (t : String)
  /-- A ping or a pong, which the carrier answers by itself. -/
  | control (b : Bytes)
  | ended
  | failed (text : String)
  deriving DecidableEq, Repr

structure Link where
  endpoint : EndpointRef
  carrier : Carrier
  /-- What has come and has not been read. -/
  arrivals : List Arrival := []
  /-- How many octets each read of a stream gave. -/
  reads : List Nat := []
  reading : Bool := true
  writing : Bool := true
  /-- What the carrier answers to every write, if it takes none. -/
  fault : Option String := none
  offers : List Offer := []
  deriving DecidableEq, Repr

namespace Link

def arrive (l : Link) (x : Arrival) : Link := { l with arrivals := l.arrivals ++ [x] }

/-- Why the carrier refuses a frame, if it does.  To write nothing to a stream is no write. -/
def refusal (l : Link) (frame : Bytes) : Option String :=
  if l.carrier = .stream ∧ frame = [] then none else l.fault

/-- The writer stops. -/
def stopWriting (l : Link) : Link := { l with writing := false, offers := l.offers ++ [.shutdown] }

def stopReading (l : Link) : Link := { l with reading := false }

def offer (l : Link) (o : Offer) : Link := { l with offers := l.offers ++ [o] }

def isShutDown (l : Link) : Bool := l.offers.contains .shutdown

/-- The frames that the carrier took. -/
def written (l : Link) : List Bytes :=
  l.offers.filterMap fun
    | .written frame => some frame
    | _ => none

/-- What the carrier took to the peer. -/
def packets (l : Link) : List Packet := l.written.filterMap l.carrier.packet?

end Link

namespace Node

def isFinished (s : Node) (e : EndpointRef) : Bool :=
  match s.endpoint? e with
  | some x => x.reason.isSome
  | none => true

/-- Take the first frame out of an outbox. -/
def takeFrame? (s : Node) (e : EndpointRef) : Option (Node × Bytes) :=
  match s.endpoint? e with
  | none => none
  | some x =>
    match x.outbox.frames with
    | [] => none
    | frame :: rest =>
      some (s.setEndpoint e { x with outbox := { x.outbox with frames := rest } }, frame)

/-- More frames may still be put in the outbox. -/
def mayWrite (s : Node) (e : EndpointRef) : Bool :=
  match s.endpoint? e with
  | some x => x.outbox.filling && x.reason.isNone
  | none => false

end Node

namespace Link

/-- A step of the writer, unless it waits or has stopped. -/
def writeStep? (s : Node) (l : Link) : Option (Node × Link) :=
  if !l.writing then none
  else
    match s.takeFrame? l.endpoint with
    | some (s, frame) =>
      match l.refusal frame with
      | none => some (s, l.offer (.written frame))
      | some text =>
        let s := s.trace (l.carrier.writeFailed text)
        let s := (s.disconnect l.endpoint .invalidMessageSent).1
        some (s.closeOutbox l.endpoint, (l.offer (.refused frame)).stopWriting)
    | none =>
      if s.mayWrite l.endpoint then none else some (s.closeOutbox l.endpoint, l.stopWriting)

def writeWithin : Nat → Node → Link → Node × Link
  | 0, s, l => (s, l)
  | fuel + 1, s, l =>
    match l.writeStep? s with
    | none => (s, l)
    | some (s, l) => writeWithin fuel s l

/-- Let the writer run until it waits or stops: a step for each frame, and one to stop. -/
def write (s : Node) (l : Link) : Node × Link :=
  match s.endpoint? l.endpoint with
  | none => (s, l)
  | some x => l.writeWithin (x.outbox.frames.length + 1) s

/-- The peer is gone. -/
def lose (s : Node) (l : Link) : Node × Link :=
  ((s.disconnect l.endpoint .connectionLost).1, l.stopReading)

/-- What is left of octets after some of them were read. -/
def leftover (b : Bytes) (rest : List Arrival) : List Arrival :=
  if b.isEmpty then rest else .octets b :: rest

/-- Read what has come first; `rest` came behind it. -/
def take (s : Node) (l : Link) (rest : List Arrival) : Arrival → Node × Link
  | .octets b =>
    match l.carrier with
    | .webSocket => (s.receive l.endpoint b, { l with arrivals := rest })
    | .stream =>
      let size := (s.engine l.endpoint).protocol.bufferLength
      let chunk := b.take size
      let l := { l with reads := l.reads ++ [chunk.length] }
      if chunk.isEmpty then { l with arrivals := rest }.lose s
      else (s.receive l.endpoint chunk, { l with arrivals := leftover (b.drop size) rest })
  | .text t => (s.receive l.endpoint (utf8 t), { l with arrivals := rest })
  | .control _ => (s, { l with arrivals := rest })
  | .ended | .failed _ => { l with arrivals := rest }.lose s

/-- A step of the reader, unless it waits or has stopped. -/
def readStep? (s : Node) (l : Link) : Option (Node × Link) :=
  if !l.reading then none
  else if s.isFinished l.endpoint then some (s, l.stopReading)
  else
    match l.arrivals with
    | [] => none
    | x :: rest => some (l.take s rest x)

def readWithin : Nat → Node → Link → Node × Link
  | 0, s, l => (s, l)
  | fuel + 1, s, l =>
    match l.readStep? s with
    | none => (s, l)
    | some (s, l) => readWithin fuel s l

/-- No fewer steps than an arrival takes to be read. -/
def arrivalSteps : Arrival → Nat
  | .octets b => b.length + 1
  | _ => 1

/-- Let the reader run until it waits or stops. -/
def read (s : Node) (l : Link) : Node × Link :=
  l.readWithin (Node.inAll arrivalSteps l.arrivals + 1) s

/-- Writer, reader and workers run until each waits or stops. -/
def round (s : Node) (l : Link) : Node × Link :=
  let (s, l) := l.write s
  let (s, l) := l.read s
  (s.settle, l)

/-- Let all run until nothing is left to do.  All that has come is read and worked on in the
first round, what that has put in the outbox is written in the second, and what follows from
a write that failed is done in the third. -/
def settle (s : Node) (l : Link) : Node × Link :=
  let (s, l) := l.round s
  let (s, l) := l.round s
  l.round s

end Link

end MessageEngine
