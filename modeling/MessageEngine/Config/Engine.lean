import MessageEngine.Compression.Zlib
import MessageEngine.Config.Basic
import MessageEngine.Engine

/-!
# From a configuration to an engine

Compression, if it is switched on, inflates no payload beyond the greatest
one that is accepted.  How payloads are packed may be said; an engine packs
them with `Zlib.packer`.
-/

namespace MessageEngine

/-- The transforms that a configuration asks for. -/
def ProtocolConfig.transforms (c : ProtocolConfig)
    (z : Compression.Packer := Compression.Zlib.packer) : List Transform :=
  if c.compression then [.zlib c.maxPayload z] else []

/-- The protocol of a configuration. -/
def Protocol.ofConfig (c : ProtocolConfig)
    (z : Compression.Packer := Compression.Zlib.packer) : Protocol :=
  let p : Protocol :=
    { maxRate := c.maxRate, maxPayload := c.maxPayload, strictVersions := c.strictVersions,
      transforms := c.transforms z }
  p.withBufferLength c.bufferLength

/-- The engine of a configuration, with a registry. -/
def Engine.ofConfig (registry : Registry) (c : Config) : Engine :=
  let g : Engine := { registry := registry, protocol := Protocol.ofConfig c.protocol }
  g.withConnectionsPerQueue c.queue.connectionsPerQueue

end MessageEngine
