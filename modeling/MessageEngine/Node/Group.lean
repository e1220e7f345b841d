import MessageEngine.Node.Connection

/-!
# Groups

A broadcast puts the same frame in the outbox of every member that is
connected, and the members that are not connected leave the group.
-/

namespace MessageEngine

namespace Group

/-- An endpoint joins; false if it was a member. -/
def add (g : Group) (e : EndpointRef) : Group × Bool :=
  if e ∈ g.members then (g, false) else ({ g with members := g.members ++ [e] }, true)

/-- An endpoint leaves; false if it was not a member. -/
def remove (g : Group) (e : EndpointRef) : Group × Bool :=
  ({ g with members := g.members.filter (· != e) }, e ∈ g.members)

def contains (g : Group) (e : EndpointRef) : Bool := e ∈ g.members

def clear (g : Group) : Group := { g with members := [] }

def describe (g : Group) : String :=
  Text.record "ConnectionGroup"
    [("name", Text.quoted g.name), ("members", toString g.members.length)]

end Group

namespace Node

def group? (s : Node) (key : String) : Option Group := s.groups.lookup key

/-- Keep a group under a key, in place of the one that was kept there. -/
def setGroup (s : Node) (key : String) (g : Group) : Node :=
  { s with groups := (key, g) :: s.groups.filter (·.1 != key) }

/-- Put octets in the outboxes of some endpoints, and count those that took them. -/
def sendToAll (s : Node) (data : Bytes) : List EndpointRef → Node × Nat
  | [] => (s, 0)
  | e :: rest =>
    let (s, sent) := s.sendBytes e data
    let (s, count) := s.sendToAll data rest
    (s, if sent.isOk then count + 1 else count)

/-- Send octets to the members that are connected; the others leave. -/
def broadcast (s : Node) (key : String) (g : Group) (data : Bytes) : Node × Nat :=
  let members := g.members.filter s.isConnected
  (s.setGroup key { g with members := members }).sendToAll data members

/-- Send one frame of a message, made on the engine of the first member, to the members that are
connected. -/
def broadcastMessage (s : Node) (key : String) (g : Group) (m : Message) :
    Node × Except EngineError Nat :=
  match g.members with
  | [] => (s, .ok 0)
  | first :: _ =>
    match s.serializeFor first m with
    | (s, .error cause) => (s, .error cause)
    | (s, .ok data) =>
      let (s, count) := s.broadcast key g data
      (s, .ok count)

end Node

end MessageEngine
