import MessageEngine.Engine
import MessageEngine.Node.Record

/-!
# Nodes

A node is everything that runs together: endpoints, each on its engine, the
queues that work for them, groups of endpoints and a server's book of
connections.  All of it is one value, and whatever happens is a function on
it.
-/

namespace MessageEngine

/-- What a queue's worker has to do. -/
inductive Job
  /-- Parse what an endpoint has received. -/
  | parse (e : EndpointRef)
  /-- Have messages handled that were parsed. -/
  | handle (e : EndpointRef) (messages : List Message)
  /-- Forget what an endpoint has received. -/
  | reset (e : EndpointRef)
  /-- Wait until the way is clear. -/
  | hold (clear : Bool)
  /-- Leave a mark in the log, and then perhaps panic. -/
  | mark (label : String) (panics : Bool)
  deriving DecidableEq

/-- Endpoints that are sent the same frames, in the order in which they joined. -/
structure Group where
  name : String := "group"
  members : List EndpointRef := []
  deriving DecidableEq, Repr

/-- What the subscribers of a server are told. -/
inductive ServerEvent
  | added (id : UInt64)
  | removed (id : UInt64) (reason : DisconnectReason)
  deriving DecidableEq, Repr

/-- An event as it is published, with what a subscriber finds in the book who looks at once. -/
structure Notice where
  event : ServerEvent
  book : List (UInt64 × EndpointRef)
  deriving DecidableEq, Repr

/-- The books of a server. -/
structure Server where
  name : String := ""
  /-- How many of its connections share a queue. -/
  perQueue : Nat := 64
  isRunning : Bool := false
  /-- The pool whose queues the connections get that come in. -/
  pool : Option Nat := none
  address : Option SocketAddress := none
  /-- The connections it keeps track of, in ascending order of their numbers. -/
  connections : List (UInt64 × EndpointRef) := []
  /-- The number of the next connection. -/
  nextId : UInt64 := 1
  notices : List Notice := []
  deriving DecidableEq, Repr

namespace Server

/-- What the subscribers were told. -/
def events (v : Server) : List ServerEvent := v.notices.map (·.event)

/-- How far behind the events a subscriber can be. -/
def eventCapacity : Nat := 256

/-- The events for a subscriber that has been told `told` of them: of those since then the last
ones. -/
def unread (v : Server) (told : Nat) : List ServerEvent :=
  v.events.drop (max told (v.events.length - eventCapacity))

def connection? (v : Server) (id : UInt64) : Option EndpointRef := v.connections.lookup id

/-- Enter a connection into an ordered book, in place of one with its number. -/
def insertConnection (id : UInt64) (e : EndpointRef) :
    List (UInt64 × EndpointRef) → List (UInt64 × EndpointRef)
  | [] => [(id, e)]
  | (k, x) :: rest =>
    if id < k then (id, e) :: (k, x) :: rest
    else if id = k then (id, e) :: rest
    else (k, x) :: insertConnection id e rest

def publish (v : Server) (event : ServerEvent) : Server :=
  { v with notices := v.notices ++ [⟨event, v.connections⟩] }

def enter (v : Server) (id : UInt64) (e : EndpointRef) : Server :=
  publish { v with connections := insertConnection id e v.connections } (.added id)

/-- Strike a connection off the book, if it is there; the subscribers are told in any case. -/
def strike (v : Server) (id : UInt64) (reason : DisconnectReason) : Server :=
  publish { v with connections := v.connections.filter (·.1 != id) } (.removed id reason)

end Server

structure Node where
  /-- The engines of the endpoints, also of those that are still to be made. -/
  engine : EndpointRef → Engine := fun _ ↦ {}
  endpoints : List Endpoint := []
  /-- The endpoints that the application holds. -/
  held : List EndpointRef := []
  /-- The queues that belong to one endpoint each. -/
  queues : List (Queue Job) := []
  pools : List (Pool Job) := []
  groups : List (String × Group) := []
  server : Server := {}
  log : List Record := []
  /-- The text of a panic that what was asked of the node came to. -/
  panic : Option String := none

namespace Node

def record (s : Node) (r : Record) : Node := { s with log := s.log ++ [r] }

def trace (s : Node) (t : Trace) : Node := s.record (.trace t)

/-! ## Endpoints -/

def endpoint? (s : Node) (e : EndpointRef) : Option Endpoint := s.endpoints[e]?

def modifyEndpoint (s : Node) (e : EndpointRef) (f : Endpoint → Endpoint) : Node :=
  { s with endpoints := s.endpoints.modify e f }

def setEndpoint (s : Node) (e : EndpointRef) (x : Endpoint) : Node :=
  s.modifyEndpoint e fun _ ↦ x

/-- Make an endpoint for the application, with room for what it receives in one read. -/
def newEndpoint (s : Node) (x : Endpoint) : Node × EndpointRef :=
  let e := s.endpoints.length
  let panic := if Bytes.maxRoom < (s.engine e).protocol.bufferLength then
      some "capacity overflow"
    else s.panic
  ({ s with endpoints := s.endpoints ++ [x], held := e :: s.held, panic := panic }, e)

def isConnected (s : Node) (e : EndpointRef) : Bool :=
  match s.endpoint? e with
  | some x => x.state.isConnected
  | none => false

/-- Forget what an endpoint has received. -/
def clearBuffer (s : Node) (e : EndpointRef) : Node :=
  s.modifyEndpoint e fun x ↦ { x with buffer := [] }

/-! ## Queues -/

def queue? (s : Node) : QueueRef → Option (Queue Job)
  | .dedicated i => s.queues[i]?
  | .pooled p i =>
    match s.pools[p]? with
    | some pool => pool.queues[i]?
    | none => none

def modifyPool (s : Node) (p : Nat) (f : Pool Job → Pool Job) : Node :=
  { s with pools := s.pools.modify p f }

def modifyQueue (s : Node) (r : QueueRef) (f : Queue Job → Queue Job) : Node :=
  match r with
  | .dedicated i => { s with queues := s.queues.modify i f }
  | .pooled p i => s.modifyPool p (·.modifyQueue i f)

/-- Hand in a job; false if it was refused. -/
def enqueue (s : Node) (r : QueueRef) (t : Job) : Node × Bool :=
  match s.queue? r with
  | none => (s, false)
  | some q =>
    match q.panic? with
    | some text => ({ s with panic := some text }, false)
    | none => (s.modifyQueue r fun _ ↦ (q.enqueue t).1, (q.enqueue t).2)

/-- Make a queue for one endpoint. -/
def newQueue (s : Node) (name : String) : Node × Handle :=
  ({ s with queues := s.queues ++ [{ name := name }] }, .dedicated s.queues.length)

def newPool (s : Node) (name : String) (ceiling : Nat) : Node × Nat :=
  ({ s with pools := s.pools ++ [Pool.new name ceiling] }, s.pools.length)

/-- A slot of a pool. -/
def acquire (s : Node) (p : Nat) : Option (Node × Handle) :=
  match s.pools[p]? with
  | none => none
  | some pool =>
    let (pool, slot) := pool.acquire
    some (s.modifyPool p fun _ ↦ pool, .pooled p slot)

/-- Give up a handle: a queue of one's own is disposed, a slot given back. -/
def release (s : Node) : Handle → Node × Handle
  | .dedicated i => (s.modifyQueue (.dedicated i) Queue.dispose, .dedicated i)
  | .pooled p slot =>
    match s.pools[p]? with
    | none => (s, .pooled p slot)
    | some pool =>
      let (pool, slot) := pool.release slot
      (s.modifyPool p fun _ ↦ pool, .pooled p slot)

/-- A handle goes out of use: only a slot is given back. -/
def drop (s : Node) : Handle → Node
  | .dedicated _ => s
  | .pooled p slot => (s.release (.pooled p slot)).1

end Node

end MessageEngine
