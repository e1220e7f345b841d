import MessageEngine.Transport.Link
import MessageEngine.Proofs.Bystander
import MessageEngine.Proofs.StreamRoundTrip

/-!
# Pipes

Two endpoints are joined by a stream: what the writer of the one puts into it
comes, cut at will, to the reader of the other.  Each move of a pipe is a
step of one of its parts, and a run is any row of moves.
-/

namespace MessageEngine

/-- Two endpoints that are joined by a stream, and what is in it. -/
structure Pipe where
  source : Node
  writer : Link
  /-- How many octets of what was written have come out of the stream. -/
  carried : Nat := 0
  /-- The end of the stream has come out of it. -/
  closed : Bool := false
  sink : Node
  reader : Link
  /-- The queue of the endpoint that receives. -/
  queue : QueueRef
  /-- The messages of the sends that succeeded, in order. -/
  accepted : List Message := []

/-- What can happen to a pipe. -/
inductive Move
  /-- A message is sent. -/
  | send (m : Message)
  /-- The endpoint that sends is disconnected. -/
  | disconnect (reason : DisconnectReason)
  /-- The writer takes a step. -/
  | write
  /-- So many octets come out of the stream, or all that there are. -/
  | carry (count : Nat)
  /-- The end of the stream comes out of it. -/
  | close
  /-- The reader takes a step. -/
  | read
  /-- The worker of the queue takes a step. -/
  | work
  /-- A new window of time begins for the rate. -/
  | renew
  /-- Another endpoint at the far end receives octets. -/
  | hear (e : EndpointRef) (data : Bytes)
  /-- Another endpoint at the far end is disconnected. -/
  | drop (e : EndpointRef) (reason : DisconnectReason)
  deriving DecidableEq

namespace Pipe

/-- The engine of the endpoint that receives. -/
def engine (p : Pipe) : Engine := p.sink.engine p.reader.endpoint

/-- What was written and has not come out of the stream. -/
def inFlight (p : Pipe) : Bytes := p.writer.written.flatten.drop p.carried

/-- What a move leads to, if it can be made.  A panic at the far end ends with what came to it. -/
def step? (p : Pipe) : Move → Option Pipe
  | .send m =>
    match p.source.send p.writer.endpoint m with
    | (s, .ok ()) => some { p with source := s, accepted := p.accepted ++ [m] }
    | (s, .error _) => some { p with source := s }
  | .disconnect reason =>
    some { p with source := (p.source.disconnect p.writer.endpoint reason).1 }
  | .write => (p.writer.writeStep? p.source).map fun (s, l) ↦ { p with source := s, writer := l }
  | .carry count =>
    let octets := p.inFlight.take count
    if octets = [] then none
    else
      some { p with
        carried := p.carried + octets.length, reader := p.reader.arrive (.octets octets) }
  | .close =>
    if p.writer.isShutDown ∧ p.inFlight = [] ∧ p.closed = false then
      some { p with closed := true, reader := p.reader.arrive .ended }
    else none
  | .read => (p.reader.readStep? p.sink).map fun (s, l) ↦ { p with sink := s, reader := l }
  | .work => (p.sink.work? p.queue).map fun s ↦ { p with sink := s }
  | .renew =>
    some { p with
      sink := p.sink.modifyEndpoint p.reader.endpoint fun x ↦ { x with rate := x.rate.renew } }
  | .hear e data =>
    if e = p.reader.endpoint then none
    else some { p with sink := { p.sink.receive e data with panic := none } }
  | .drop e reason =>
    if e = p.reader.endpoint then none
    else some { p with sink := { (p.sink.disconnect e reason).1 with panic := none } }

/-- What some moves lead to, one after the other. -/
def run? (p : Pipe) : List Move → Option Pipe
  | [] => some p
  | move :: moves =>
    match p.step? move with
    | none => none
    | some q => q.run? moves

/-- The next that the worker does is to have a message handled for the endpoint that receives. -/
def handles (p : Pipe) : Bool :=
  match p.sink.queue? p.queue with
  | some q =>
    match q.backlog with
    | .handle e _ :: _ => e == p.reader.endpoint
    | _ => false
  | none => false

/-- The worker takes a step in which no handler disconnects the endpoint that receives, and its
rate stays below the ceiling. -/
def Calm (p q : Pipe) : Prop :=
  (p.handles = true → q.sink.reason? p.reader.endpoint = p.sink.reason? p.reader.endpoint) ∧
    ∀ x ∈ q.sink.endpoint? p.reader.endpoint,
      x.rate.above p.engine.protocol.maxRate = false

/-- Every step that the worker takes on the way is calm. -/
def Undisturbed : Pipe → List Move → Prop
  | _, [] => True
  | p, move :: moves =>
    ∀ q ∈ p.step? move, (move = .work → p.Calm q) ∧ q.Undisturbed moves

instance (p q : Pipe) : Decidable (p.Calm q) := inferInstanceAs (Decidable (_ ∧ _))

instance decidableUndisturbed : (moves : List Move) → (p : Pipe) → Decidable (p.Undisturbed moves)
  | [], _ => inferInstanceAs (Decidable True)
  | move :: moves, p =>
    have : DecidablePred fun q ↦ (move = .work → p.Calm q) ∧ q.Undisturbed moves := fun q ↦
      have := decidableUndisturbed moves q
      inferInstanceAs (Decidable (_ ∧ _))
    inferInstanceAs (Decidable (∀ q ∈ p.step? move, _))

/-- No step of the writer, the stream, the reader or the worker is left to be taken. -/
def Drained (p : Pipe) : Prop :=
  p.step? .write = none ∧ (∀ count, p.step? (.carry count) = none) ∧ p.step? .close = none ∧
    p.step? .read = none ∧ p.step? .work = none

/-- Some octets come out of the stream as long as there are any in it. -/
theorem forall_carry_iff {p : Pipe} :
    (∀ count, p.step? (.carry count) = none) ↔ p.inFlight = [] := by
  constructor
  · intro hcarry
    have hall := hcarry p.inFlight.length
    rw [step?, List.take_length] at hall
    by_contra hsome
    rw [if_neg hsome] at hall
    cases hall
  · intro hempty count
    rw [step?, hempty, List.take_nil, if_pos rfl]

instance (p : Pipe) : Decidable p.Drained :=
  decidable_of_iff (p.step? .write = none ∧ p.inFlight = [] ∧ p.step? .close = none ∧
    p.step? .read = none ∧ p.step? .work = none) (by rw [Drained, forall_carry_iff])

/-- A pipe that was just laid: nothing has been sent through it, and the endpoint that receives is
connected, with a queue that is not disposed. -/
structure Fresh (p : Pipe) : Prop where
  /-- Both sides use one protocol, whose lengths a header can hold. -/
  protocol : (p.source.engine p.writer.endpoint).protocol = p.engine.protocol
  maxPayload : p.engine.protocol.maxPayload < UInt32.size
  room : 0 < p.engine.protocol.bufferLength
  accepted : p.accepted = []
  carried : p.carried = 0
  closed : p.closed = false
  writer : p.writer = { endpoint := p.writer.endpoint, carrier := .stream }
  reader : p.reader = { endpoint := p.reader.endpoint, carrier := .stream }
  source : ∃ x, p.source.endpoint? p.writer.endpoint = some x ∧ x.outbox.frames = []
  panic : p.sink.panic = none
  dispatched : p.sink.dispatched p.reader.endpoint = []
  sink : ∃ x, p.sink.endpoint? p.reader.endpoint = some x ∧ x.state = .connected ∧
    x.reason = none ∧ x.buffer = [] ∧ ∃ h, x.handle = some h ∧ h.queue = p.queue
  /-- No other endpoint has the queue for its own. -/
  alone : p.sink.Alone p.reader.endpoint p.queue
  /-- The queue is open, its worker can be started, and it may do anything for others. -/
  queue : ∃ q, p.sink.queue? p.queue = some q ∧ q.disposed = false ∧
    Queue.nameRefusal? q.name = none ∧ ∀ j ∈ q.backlog, j.Foreign p.reader.endpoint

end Pipe

/-- What an engine writes of a message, an engine with the same protocol can read: the type is
registered, the lengths fit, and the transforms undo what they make of it. -/
structure Engine.Carries (g : Engine) (m : Message) : Prop where
  known : g.registry.Knows m.type
  fits : m.Fits
  undone : ∀ sender number, Transform.UndoneAlong sender number 0 g.protocol.transforms m.body

end MessageEngine
