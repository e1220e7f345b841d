import MessageEngine.Wire.Type

/-!
# Writing values

`WireType.encode` lays a value out as octets.  Texts and blobs carry their
length, sequences their number of elements, both in four octets; a length
that does not fit is written modulo `2 ^ 32`.
-/

namespace MessageEngine

namespace Bytes

/-- A blob behind its length. -/
def sized (b : Bytes) : Bytes := le 4 b.length ++ b

/-- Four octets from `position` on replaced by a number; `none` if they are not all there. -/
def patch? (b : Bytes) (position : Nat) (value : UInt32) : Option Bytes :=
  if position + 4 ≤ b.length then
    some (b.take position ++ le 4 value.toNat ++ b.drop (position + 4))
  else none

end Bytes

namespace WireType

def encode : (t : WireType) → t.Value → Bytes
  | scalar kind, v => Bytes.le kind.width (kind.toNumber v)
  | bool, (v : Bool) => [if v then 1 else 0]
  | string, (v : String) => Bytes.sized (utf8 v)
  | bytes, (v : Bytes) => v.sized
  | vec element, (vs : List element.Value) => Bytes.le 4 vs.length ++ vs.flatMap element.encode
  | opt _, none => [0]
  | opt inner, some v => 1 :: inner.encode v

@[simp] theorem encode_scalar (kind : Scalar) (v : kind.Value) :
    (scalar kind).encode v = Bytes.le kind.width (kind.toNumber v) := by
  simp [encode]

@[simp] theorem encode_bool (v : Bool) : bool.encode v = [if v then 1 else 0] := by
  simp [encode]

@[simp] theorem encode_string (v : String) : string.encode v = Bytes.sized (utf8 v) := by
  simp [encode]

@[simp] theorem encode_bytes (v : Bytes) : bytes.encode v = v.sized := by
  simp [encode]

@[simp] theorem encode_vec (element : WireType) (vs : List element.Value) :
    (vec element).encode vs = Bytes.le 4 vs.length ++ vs.flatMap element.encode := by
  simp [encode]

@[simp] theorem encode_none (inner : WireType) :
    (opt inner).encode (none : Option inner.Value) = [0] := by
  simp [encode]

@[simp] theorem encode_some (inner : WireType) (v : inner.Value) :
    (opt inner).encode (some v : Option inner.Value) = 1 :: inner.encode v := by
  simp [encode]

end WireType

end MessageEngine
