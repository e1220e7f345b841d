import MessageEngine.Registry
import MessageEngine.Transform

/-!
# Frames

A frame is a header, the number of a message and the length of its payload,
and the payload: a version octet and the transformed fields.  `parse` takes
the frames off the front of what has arrived.  What it makes of a buffer
depends on the buffer alone, and a buffer that is refused is left as it was.
-/

namespace MessageEngine

/-- How messages become frames and frames messages. -/
structure Protocol where
  /-- How many octets are asked of the transport in one read. -/
  bufferLength : Nat := 8192
  /-- How many messages a second an endpoint may receive; 0 for any number. -/
  maxRate : UInt32 := 1000
  maxPayload : Nat := 1048576
  /-- Refuse a frame whose version octet is not that of its message type. -/
  strictVersions : Bool := true
  transforms : List Transform := []

/-- The octets of a header: two for the number, four for the length. -/
def headerSize : Nat := 6

structure Header where
  id : UInt16
  length : Nat
  deriving DecidableEq, Repr

namespace Header

def toBytes (h : Header) : Bytes := Bytes.le 2 h.id.toNat ++ Bytes.le 4 h.length

/-- The header in front of some octets, with what follows it. -/
def split? : Bytes → Option (Header × Bytes)
  | a :: b :: c :: d :: e :: f :: rest =>
    some (⟨.ofNat (Bytes.ofLE [a, b]), Bytes.ofLE [c, d, e, f]⟩, rest)
  | _ => none

end Header

namespace Protocol

def withBufferLength (p : Protocol) (n : Nat) : Protocol := { p with bufferLength := max n 1 }

/-- A message as one frame. -/
def serialize (p : Protocol) (sender frame : UInt64) (m : Message) :
    Except ProtocolError Bytes :=
  match Transform.encodeAll sender frame 0 p.transforms m.body with
  | .error e => .error e
  | .ok fields =>
    let payload := m.type.version :: fields
    if payload.length > p.maxPayload then
      .error (.payloadTooLarge payload.length p.maxPayload)
    else .ok (Header.toBytes ⟨m.id, payload.length⟩ ++ payload)

/-- The type of the message that a header announces, unless the header alone is reason
enough to refuse it. -/
def announced (p : Protocol) (registry : Registry) (h : Header) :
    Except ProtocolError MessageType :=
  if h.length = 0 then .error (.emptyPayload h.id)
  else if h.length > p.maxPayload then .error (.payloadTooLarge h.length p.maxPayload)
  else
    match registry.typeOf? h.id with
    | some t => .ok t
    | none => .error (.unknownMessageId h.id)

/-- The message whose fields make up all of the given octets. -/
def readFields (t : MessageType) (fields : Bytes) : Except ProtocolError Message :=
  match t.read (Reader.ofBytes fields) with
  | (.error e, _) => .error e
  | (.ok m, r) =>
    if r.hasRemaining then .error (.unreadPayload t.id r.remaining) else .ok m

/-- The message in a payload whose version octet has been split off. -/
def decodePayload (p : Protocol) (t : MessageType) (version : UInt8) (fields : Bytes) :
    Except DecodeFailure Message :=
  if p.strictVersions && version != t.version then
    .error (.refused (.versionMismatch t.id t.version version))
  else
    match Transform.decodeAll p.transforms fields with
    | .error e => .error e
    | .ok fields => (readFields t fields).mapError .refused

/-- What stands at the front of a buffer. -/
inductive Front
  /-- The beginning of a frame, or nothing. -/
  | incomplete
  | failed (failure : DecodeFailure)
  | frame (m : Message) (rest : Bytes)

def front (p : Protocol) (registry : Registry) (buffer : Bytes) : Front :=
  match Header.split? buffer with
  | none => .incomplete
  | some (h, ahead) =>
    match p.announced registry h with
    | .error e => .failed (.refused e)
    | .ok t =>
      if ahead.holds h.length then
        match ahead.take h.length with
        | [] => .incomplete
        | version :: fields =>
          match p.decodePayload t version fields with
          | .error failure => .failed failure
          | .ok m => .frame m (ahead.drop h.length)
      else .incomplete

theorem Header.length_of_split? {buffer rest : Bytes} {h : Header}
    (hs : Header.split? buffer = some (h, rest)) : buffer.length = rest.length + headerSize := by
  match buffer, hs with
  | a :: b :: c :: d :: e :: f :: tail, hs =>
    simp only [Header.split?, Option.some.injEq, Prod.mk.injEq] at hs
    simp [hs.2, headerSize]

theorem length_lt_of_front {p : Protocol} {registry : Registry} {buffer rest : Bytes}
    {m : Message} (hf : p.front registry buffer = .frame m rest) :
    rest.length < buffer.length := by
  unfold front at hf
  split at hf
  · cases hf
  · next h ahead hs =>
    have hlen := Header.length_of_split? hs
    split at hf
    · cases hf
    · split at hf
      · split at hf
        · cases hf
        · split at hf
          · cases hf
          · simp only [Front.frame.injEq] at hf
            rw [← hf.2, List.length_drop, hlen, headerSize]
            omega
      · cases hf

/-- How many octets have to come at least before something is found at the front of a buffer. -/
def missing (p : Protocol) (registry : Registry) (buffer : Bytes) : Nat :=
  match Header.split? buffer with
  | none => headerSize - buffer.length
  | some (h, ahead) =>
    match p.announced registry h with
    | .error _ => 0
    | .ok _ => h.length - ahead.length

/-- Take frames off the front of a buffer; `found` holds the messages of those before, last
first. -/
def parseFrom (p : Protocol) (registry : Registry) (found : List Message) (buffer : Bytes) :
    Except DecodeFailure (List Message × Bytes) :=
  match _h : p.front registry buffer with
  | .incomplete => .ok (found.reverse, buffer)
  | .failed failure => .error failure
  | .frame m rest => parseFrom p registry (m :: found) rest
termination_by buffer.length
decreasing_by exact length_lt_of_front _h

/-- The messages of all complete frames at the front of a buffer, and what is left of it. -/
def parse (p : Protocol) (registry : Registry) (buffer : Bytes) :
    Except DecodeFailure (List Message × Bytes) :=
  p.parseFrom registry [] buffer

def describe (p : Protocol) : String :=
  Text.record "DefaultProtocol"
    [("network_buffer_length", toString p.bufferLength),
      ("max_messages_per_second", toString p.maxRate),
      ("max_payload_length", toString p.maxPayload),
      ("strict_versions", toString p.strictVersions),
      ("transforms", Text.list (p.transforms.map fun t ↦ Text.quoted t.name))]

end Protocol

end MessageEngine
