import MessageEngine.Bytes

/-!
# Octets as bits

Compressed data is a string of bits, the lowest bit of each octet first.
Numbers in it have their lowest bit first as well; code words have their
highest bit first.
-/

namespace MessageEngine.Compression

abbrev Bits := List Bool

namespace Bits

/-- The `n` low bits of a number, lowest first. -/
def low : Nat → Nat → Bits
  | 0, _ => []
  | n + 1, v => (v % 2 == 1) :: low n (v / 2)

/-- The `n` low bits of a number, highest first. -/
def high (n v : Nat) : Bits := (low n v).reverse

/-- The number whose bits, lowest first, are given. -/
def value : Bits → Nat
  | [] => 0
  | b :: rest => (if b then 1 else 0) + 2 * value rest

/-- How many numbers `n` bits can tell apart. -/
def capacity (n : Nat) : Nat := Nat.pow 2 n

/-- Gather bits into octets, and leave those that fill none; `found` holds the octets before,
last first. -/
def gather (found : Bytes) : Bits → Bytes × Bits
  | a :: b :: c :: d :: e :: f :: g :: h :: rest =>
    gather (UInt8.ofNat (value [a, b, c, d, e, f, g, h]) :: found) rest
  | rest => (found.reverse, rest)

/-- The last octet of some data, filled up with zeros; nothing if there are no bits. -/
def padded (bits : Bits) : Bytes := if bits.isEmpty then [] else [.ofNat (value bits)]

end Bits

end MessageEngine.Compression
