import MessageEngine.Error
import MessageEngine.Bytes

/-!
# Payload transforms

A transform turns octets into others on the way out and back on the way in.
Those that need a number used once are given one: it names the sender, the
frame and the place in the line of transforms, so no two uses share it.
-/

namespace MessageEngine

/-- A number used once. -/
structure Nonce where
  sender : UInt64
  frame : UInt64
  stage : UInt64
  deriving DecidableEq, Repr

def Nonce.toBytes (n : Nonce) : Bytes :=
  Bytes.le 8 n.sender.toNat ++ Bytes.le 8 n.frame.toNat ++ Bytes.le 8 n.stage.toNat

structure Transform where
  name : String
  encode : Nonce → Bytes → Except ProtocolError Bytes
  decode : Bytes → Except DecodeFailure Bytes

namespace Transform

/-- What was encoded decodes to what it was. -/
def Undoes (t : Transform) : Prop :=
  ∀ nonce data coded, t.encode nonce data = .ok coded → t.decode coded = .ok data

/-- Encode through a line of transforms, the first of them at the given stage. -/
def encodeAll (sender frame : UInt64) : Nat → List Transform → Bytes → Except ProtocolError Bytes
  | _, [], data => .ok data
  | stage, t :: rest, data =>
    match t.encode ⟨sender, frame, .ofNat stage⟩ data with
    | .ok coded => encodeAll sender frame (stage + 1) rest coded
    | .error e => .error e

/-- Decode through a line of transforms, the last of them first. -/
def decodeAll : List Transform → Bytes → Except DecodeFailure Bytes
  | [], data => .ok data
  | t :: rest, data =>
    match decodeAll rest data with
    | .ok coded => t.decode coded
    | .error e => .error e

end Transform

end MessageEngine
