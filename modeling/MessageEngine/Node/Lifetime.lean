import MessageEngine.Node.Connection

/-!
# How long endpoints are in use

An endpoint is in use while somebody holds it: the application, a group, the
server's book, or a job that is still to be done.  When nobody does, nothing
can happen to it any more.  It is not disconnected for that, so no hook is
run and nobody is told; but it gives its place on a shared queue back.
-/

namespace MessageEngine

/-- The endpoint that a job is done for.  What is to be forgotten is held by itself. -/
def Job.endpoint? : Job → Option EndpointRef
  | parse e | handle e _ => some e
  | reset _ | hold _ | mark _ _ => none

namespace Node

/-- The application holds an endpoint no longer, and takes no frames out of its outbox. -/
def letGo (s : Node) (e : EndpointRef) : Node :=
  { s.closeOutbox e with held := s.held.filter (· != e) }

/-- All queues. -/
def allQueues (s : Node) : List (Queue Job) := s.queues ++ s.pools.flatMap Pool.queues

/-- Somebody holds the endpoint. -/
def isHeld (s : Node) (e : EndpointRef) : Bool :=
  s.held.contains e || s.groups.any (fun g ↦ g.2.members.contains e) ||
    s.server.connections.any (fun c ↦ c.2 == e) ||
    s.allQueues.any (fun q ↦ q.backlog.any fun t ↦ t.endpoint? == some e)

/-- An endpoint goes out of use. -/
def discard (s : Node) (e : EndpointRef) : Node :=
  match s.endpoint? e with
  | none => s
  | some x =>
    match x.handle with
    | none => s
    | some h => (s.setEndpoint e { x with handle := none }).drop h

/-- The endpoints that nobody holds go out of use. -/
def sweep (s : Node) : Node :=
  (List.range s.endpoints.length).foldl (fun s e ↦ if s.isHeld e then s else s.discard e) s

end Node

end MessageEngine
