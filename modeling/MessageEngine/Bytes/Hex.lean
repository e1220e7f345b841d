import MessageEngine.Bytes

/-!
# Hexadecimal text

Two digits for an octet, the high one first.  Octets that are too many to be
shown are told apart by a fingerprint.
-/

namespace MessageEngine.Bytes

def hexDigit? (c : Char) : Option Nat :=
  if '0' ≤ c ∧ c ≤ '9' then some (c.toNat - 48)
  else if 'a' ≤ c ∧ c ≤ 'f' then some (c.toNat - 87)
  else if 'A' ≤ c ∧ c ≤ 'F' then some (c.toNat - 55)
  else none

def toHex (b : Bytes) : String :=
  b.foldl (fun s x ↦ (s.push (Nat.digitChar (x.toNat / 16))).push (Nat.digitChar (x.toNat % 16))) ""

/-- A number in `n` octets, the most significant first. -/
def numberToHex (n v : Nat) : String := toHex (le n v).reverse

/-- A number that other octets hardly share: each octet is mixed in by an exclusive or,
which is then multiplied by a prime. -/
def fingerprint (b : Bytes) : UInt64 :=
  b.foldl (fun h x ↦ (h ^^^ x.toUInt64) * 0x100000001b3) 0xcbf29ce484222325

/-- The octets behind those that were read before. -/
def ofDigits? (read : Array UInt8) : List Char → Option Bytes
  | [] => some read.toList
  | [_] => none
  | a :: b :: rest =>
    match hexDigit? a, hexDigit? b with
    | some x, some y => ofDigits? (read.push (.ofNat (16 * x + y))) rest
    | _, _ => none

def ofHex? (s : String) : Option Bytes := ofDigits? #[] s.toList

end MessageEngine.Bytes
