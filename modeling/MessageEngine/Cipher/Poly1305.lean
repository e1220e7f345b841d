import MessageEngine.Bytes

/-!
# The Poly1305 authenticator

A message is read as the coefficients of a polynomial, which is evaluated at
a secret point modulo `2 ^ 130 - 5`; a second secret is added to the value.
-/

namespace MessageEngine.Cipher.Poly1305

def modulus : Nat := Nat.pow 2 130 - 5

/-- The bits of the point that may be set. -/
def mask : Nat := 0x0ffffffc0ffffffc0ffffffc0fffffff

/-- The value of the polynomial, `pieces` coefficients at most. -/
def evaluate (point : Nat) : (pieces : Nat) → Nat → Bytes → Nat
  | 0, sum, _ => sum
  | pieces + 1, sum, message =>
    if message.isEmpty then sum
    else
      let piece := message.take 16
      let coefficient := Bytes.ofLE piece + Bytes.capacity piece.length
      evaluate point pieces ((sum + coefficient) * point % modulus) (message.drop 16)

/-- The tag of a message under a key of two times sixteen octets. -/
def tag (key message : Bytes) : Bytes :=
  let point := Bytes.ofLE (key.take 16) &&& mask
  let value := evaluate point (message.length / 16 + 1) 0 message
  Bytes.le 16 (value + Bytes.ofLE (key.drop 16))

end MessageEngine.Cipher.Poly1305
