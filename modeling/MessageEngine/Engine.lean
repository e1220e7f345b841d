import MessageEngine.Frame

/-!
# The engine

What endpoints share: the registry, the protocol, and how many connections
of a server are put on one queue.
-/

namespace MessageEngine

structure Engine where
  registry : Registry := {}
  protocol : Protocol := {}
  connectionsPerQueue : Nat := 64

namespace Engine

/-- Set how many connections share a queue; 0 counts as 1. -/
def withConnectionsPerQueue (g : Engine) (count : Nat) : Engine :=
  { g with connectionsPerQueue := max count 1 }

def serialize (g : Engine) (sender frame : UInt64) (m : Message) : Except EngineError Bytes :=
  (g.protocol.serialize sender frame m).mapError .protocol

/-- The messages in front of a buffer, and what is left of it. -/
def parse (g : Engine) (buffer : Bytes) : Except DecodeFailure (List Message × Bytes) :=
  g.protocol.parse g.registry buffer

def describe (g : Engine) : String :=
  Text.record "Engine"
    [("registry", g.registry.describe), ("protocol", g.protocol.describe),
      ("connections_per_queue", toString g.connectionsPerQueue)]

end Engine

end MessageEngine
