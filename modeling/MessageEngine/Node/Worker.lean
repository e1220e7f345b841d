import MessageEngine.Node.Group

/-!
# Workers

Each queue has a worker, and a step of it is either the parsing of what an
endpoint has received or the handling of one message.  The messages of one
parse stay at the head of the queue until they are handled, so nothing that
is handed in meanwhile comes before them.

`settle` lets the workers run until none has anything to do; the queues that
were made first have precedence.
-/

namespace MessageEngine.Node

/-- Run what a handler does with its receiver.  A panic ends it. -/
def perform (e : EndpointRef) : Reaction → Node → Node × Outcome
  | .done outcome, s => (s, outcome)
  | .note note next, s => perform e next (s.record (.note note))
  | .send m next, s =>
    let (s, result) := s.send e m
    perform e (next result) s
  | .disconnect reason next, s =>
    let (s, first) := s.disconnect e reason
    match s.panic with
    | some text => ({ s with panic := none }, .panicked (some text))
    | none => perform e (next first) s
  | .onDisconnect hook next, s => perform e next (s.onDisconnect e hook)
  | .broadcast key m next, s =>
    match s.group? key with
    | none => perform e (next none) s
    | some g =>
      let (s, result) := s.broadcastMessage key g m
      perform e (next (some result)) s

/-- Trace the failure of a message that could not be handled. -/
def traceFailure (s : Node) (m : Message) : Except HandlerFailure Bool → Node
  | .ok _ => s
  | .error failure => s.trace (.ofFailure m.id failure)

/-- Have a message handled, and trace a failure.  A handler that is run puts the message on record
before anything else; if none was run, this is put on record afterwards. -/
def dispatch (s : Node) (e : EndpointRef) (receiver : EndpointType) (m : Message) : Node :=
  let run (h : Handler) (s : Node × Bool) : (Node × Bool) × Outcome :=
    let (s, outcome) := perform e (h.react m) (s.1.record (.dispatched e m true))
    ((s, true), outcome)
  let ((s, ran), result) := (s.engine e).registry.dispatch run m receiver (s, false)
  (if ran then s else s.record (.dispatched e m false)).traceFailure m result

/-- What holds with or without a trace holds when a failure has been traced. -/
theorem traceFailure_keeps {P : Node → Prop} {s : Node} (h : P s) (htrace : ∀ t, P (s.trace t))
    (m : Message) (result : Except HandlerFailure Bool) : P (s.traceFailure m result) := by
  cases result with
  | ok _ => exact h
  | error failure => exact htrace _

section Dispatch

variable {s : Node} {e : EndpointRef} {receiver : EndpointType} {m : Message}

theorem dispatch_of_unhandled (h : (s.engine e).registry.select m receiver = .unhandled) :
    s.dispatch e receiver m = s.record (.dispatched e m false) := by
  simp [dispatch, Registry.dispatch, h, traceFailure]

theorem dispatch_of_wrongReceiver (h : (s.engine e).registry.select m receiver = .wrongReceiver) :
    s.dispatch e receiver m =
      (s.record (.dispatched e m false)).trace (.ofFailure m.id .receiverMismatch) := by
  simp [dispatch, Registry.dispatch, h, traceFailure]

theorem dispatch_of_handler {handler : Handler}
    (h : (s.engine e).registry.select m receiver = .handler handler) :
    s.dispatch e receiver m =
      (perform e (handler.react m) (s.record (.dispatched e m true))).1.traceFailure m
        (perform e (handler.react m) (s.record (.dispatched e m true))).2.report := by
  simp [dispatch, Registry.dispatch, h]

end Dispatch

/-- A panic goes no further than the job that came to it. -/
def contain (s : Node) : Node :=
  match s.panic with
  | some _ => { s with panic := none }.trace .actionPanicked
  | none => s

/-- The messages in what an endpoint has received.  An endpoint that receives what is not a
sequence of frames is disconnected; a panic leaves it as it was. -/
def parseReceived (s : Node) (e : EndpointRef) : Node × List Message :=
  match s.endpoint? e with
  | none => (s, [])
  | some x =>
    if x.discarding then (s, [])
    else
      match (s.engine e).parse x.buffer with
      | .error (.refused cause) =>
        (((s.trace (.invalidData cause)).disconnect e .invalidDataReceived).1.contain, [])
      | .error .panicked => (s.trace .actionPanicked, [])
      | .ok (messages, rest) => (s.setEndpoint e { x with buffer := rest }, messages)

/-- Count a message and have it handled; false if the messages behind it are to be dropped. -/
def handleMessage (s : Node) (e : EndpointRef) (m : Message) : Node × Bool :=
  match s.endpoint? e with
  | none => (s, false)
  | some x =>
    let ceiling := (s.engine e).protocol.maxRate
    let (rate, exceeded) := x.rate.exceeds ceiling
    let s := s.setEndpoint e { x with rate := rate }
    if exceeded then (((s.trace (.rateExceeded ceiling)).disconnect e .spam).1.contain, false)
    else if x.discarding then (s, false)
    else (s.dispatch e x.type m, true)

/-- The job at the head of a queue has been done, up to some messages. -/
def proceed (s : Node) (r : QueueRef) (e : EndpointRef) : List Message → Node
  | [] => s.modifyQueue r Queue.advance
  | messages => s.modifyQueue r (·.resume (.handle e messages))

/-- A step of the job at the head of a queue. -/
def execute (s : Node) (r : QueueRef) : Job → Node
  | .hold _ => s.modifyQueue r Queue.advance
  | .mark label panics =>
    let s := s.record (.mark label)
    (if panics then s.trace .actionPanicked else s).modifyQueue r Queue.advance
  | .reset e => (s.clearBuffer e).modifyQueue r Queue.advance
  | .parse e =>
    let (s, messages) := s.parseReceived e
    s.proceed r e messages
  | .handle e [] => s.proceed r e []
  | .handle e (m :: rest) =>
    match s.handleMessage e m with
    | (s, true) => s.proceed r e rest
    | (s, false) => s.proceed r e []

/-- What a queue's worker does next, unless it is idle or held. -/
def work? (s : Node) (r : QueueRef) : Option Node :=
  match s.queue? r with
  | none => none
  | some q =>
    match q.backlog with
    | [] => none
    | .hold false :: _ => none
    | t :: _ => some (s.execute r t)

/-- Clear the way for the first job that is held. -/
def clearFirst : List Job → List Job
  | [] => []
  | .hold false :: rest => .hold true :: rest
  | t :: rest => t :: clearFirst rest

/-- Clear the way for every job that is held. -/
def clearEvery (jobs : List Job) : List Job :=
  jobs.map fun
    | .hold _ => .hold true
    | t => t

/-- Change what is held at a queue. -/
def clearHolds (s : Node) (r : QueueRef) (clear : List Job → List Job) : Node :=
  s.modifyQueue r fun q ↦ { q with backlog := clear q.backlog }

/-! ## Until nothing is left to do -/

/-- All queues, in the order of their making. -/
def queueRefs (s : Node) : List QueueRef :=
  (List.range s.queues.length).map .dedicated ++
    (s.pools.zipIdx.map fun (pool, p) ↦
      (List.range pool.queues.length).map (QueueRef.pooled p)).flatten

/-- A step of the first worker that has something to do. -/
def step? (s : Node) : Option Node := s.queueRefs.findSome? s.work?

/-- How many steps a job may take. -/
def jobSteps : Job → Nat
  | .parse _ => 2
  | .handle _ messages => messages.length + 1
  | _ => 1

/-- What the members of a list come to in all. -/
def inAll {α : Type} (count : α → Nat) (xs : List α) : Nat := xs.foldr (fun x n ↦ count x + n) 0

/-- How many steps the jobs of a queue may take. -/
def queueSteps (q : Queue Job) : Nat := inAll jobSteps q.backlog

/-- More steps than the workers can take: each message that is parsed shortens a buffer, and
an endpoint that is disconnected gives up its queue. -/
def workload (s : Node) : Nat :=
  inAll queueSteps s.queues +
    inAll (fun pool : Pool Job ↦ inAll queueSteps pool.queues) s.pools +
    inAll (fun x : Endpoint ↦ x.buffer.length + 2) s.endpoints

def settleWithin : Nat → Node → Node
  | 0, s => s
  | fuel + 1, s =>
    match s.step? with
    | none => s
    | some s => settleWithin fuel s

/-- Let the workers run until none has anything to do. -/
def settle (s : Node) : Node := settleWithin s.workload s

end MessageEngine.Node
