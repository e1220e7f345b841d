import MessageEngine.Wire.Reader

/-!
# Messages

A message type names its messages by a number and lists their fields; a
message is a type together with a value for every field.  Fields are written
and read in order, with nothing between them.

Every registry and every result about messages is restricted to types of this
form.  The number in the header of a message is the one under which its type
is registered, and what is read are the fields that were written, one by one.
A message that gives another number than its type, or that writes or reads
octets in a way of its own, cannot be expressed; a version that differs from
the registered one can.
-/

namespace MessageEngine

structure Field where
  name : String
  type : WireType
  deriving DecidableEq, Repr

/-- What the messages of one kind look like.  `version` is the octet that each of them
carries and that a strict reader expects; `registered` is the one the registry reports. -/
structure MessageType where
  name : String
  id : UInt16
  version : UInt8
  registered : UInt8
  fields : List Field
  deriving DecidableEq, Repr

/-- A value for each field. -/
abbrev Fields : List Field → Type
  | [] => Unit
  | f :: rest => f.type.Value × Fields rest

namespace Fields

def initial : (fs : List Field) → Fields fs
  | [] => ()
  | f :: rest => (f.type.initial, initial rest)

def encode : (fs : List Field) → Fields fs → Bytes
  | [], _ => []
  | f :: rest, (v, vs) => f.type.encode v ++ encode rest vs

def read : (fs : List Field) → Reader → Reader.Result (Fields fs)
  | [], r => (.ok (), r)
  | f :: rest, r =>
    Reader.andThen (r.value f.type) fun v r ↦
      Reader.andThen (read rest r) fun vs r ↦ (.ok (v, vs), r)

def get? (name : String) : (fs : List Field) → Fields fs → Option (Sigma WireType.Value)
  | [], _ => none
  | f :: rest, (v, vs) => if f.name = name then some ⟨f.type, v⟩ else get? name rest vs

def decEq : (fs : List Field) → DecidableEq (Fields fs)
  | [] => (inferInstance : DecidableEq Unit)
  | f :: rest =>
    have := decEq rest
    (inferInstance : DecidableEq (f.type.Value × Fields rest))

instance (fs : List Field) : DecidableEq (Fields fs) := decEq fs

end Fields

structure Message where
  type : MessageType
  fields : Fields type.fields
  deriving DecidableEq

namespace Message

/-- The message of a type before anything is read into it. -/
def initial (t : MessageType) : Message := ⟨t, Fields.initial t.fields⟩

def id (m : Message) : UInt16 := m.type.id

/-- The octets of the fields. -/
def body (m : Message) : Bytes := Fields.encode m.type.fields m.fields

/-- The value of the field with the given name. -/
def get? (m : Message) (name : String) : Option (Sigma WireType.Value) :=
  Fields.get? name m.type.fields m.fields

end Message

/-- A message of the given type, read from its fields. -/
def MessageType.read (t : MessageType) (r : Reader) : Reader.Result Message :=
  Reader.andThen (Fields.read t.fields r) fun fs r ↦ (.ok ⟨t, fs⟩, r)

end MessageEngine
