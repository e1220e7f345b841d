import MessageEngine.Bytes

/-!
# Tokens

Compressed data says octets outright or points back at octets said before.
A match of `length` octets at `distance` repeats what stands that far behind
the end; it may overlap what it writes.  Before the first octet there is
nothing but zeros.
-/

namespace MessageEngine.Compression

inductive Token
  | literal (octet : UInt8)
  | copy (length distance : Nat)
  deriving DecidableEq, Repr

/-- A match length or distance is a symbol and some further bits: the first value that the
symbol stands for, and how many bits follow. -/
structure Range where
  base : Nat
  extra : Nat
  deriving DecidableEq, Repr

namespace Range

/-- Match lengths, from symbol 257 on. -/
def lengths : List Range :=
  [⟨3, 0⟩, ⟨4, 0⟩, ⟨5, 0⟩, ⟨6, 0⟩, ⟨7, 0⟩, ⟨8, 0⟩, ⟨9, 0⟩, ⟨10, 0⟩, ⟨11, 1⟩, ⟨13, 1⟩, ⟨15, 1⟩,
    ⟨17, 1⟩, ⟨19, 2⟩, ⟨23, 2⟩, ⟨27, 2⟩, ⟨31, 2⟩, ⟨35, 3⟩, ⟨43, 3⟩, ⟨51, 3⟩, ⟨59, 3⟩, ⟨67, 4⟩,
    ⟨83, 4⟩, ⟨99, 4⟩, ⟨115, 4⟩, ⟨131, 5⟩, ⟨163, 5⟩, ⟨195, 5⟩, ⟨227, 5⟩, ⟨258, 0⟩]

/-- Distances, from symbol 0 on. -/
def distances : List Range :=
  [⟨1, 0⟩, ⟨2, 0⟩, ⟨3, 0⟩, ⟨4, 0⟩, ⟨5, 1⟩, ⟨7, 1⟩, ⟨9, 2⟩, ⟨13, 2⟩, ⟨17, 3⟩, ⟨25, 3⟩, ⟨33, 4⟩,
    ⟨49, 4⟩, ⟨65, 5⟩, ⟨97, 5⟩, ⟨129, 6⟩, ⟨193, 6⟩, ⟨257, 7⟩, ⟨385, 7⟩, ⟨513, 8⟩, ⟨769, 8⟩,
    ⟨1025, 9⟩, ⟨1537, 9⟩, ⟨2049, 10⟩, ⟨3073, 10⟩, ⟨4097, 11⟩, ⟨6145, 11⟩, ⟨8193, 12⟩,
    ⟨12289, 12⟩, ⟨16385, 13⟩, ⟨24577, 13⟩]

/-- The last of the ranges that begins at or before a value, with its place; `i` is the place of
the first, and `found` what was found before. -/
def findFrom (v : Nat) : (i : Nat) → (found : Nat × Range) → List Range → Nat × Range
  | _, found, [] => found
  | i, found, r :: rest => if r.base ≤ v then findFrom v (i + 1) (i, r) rest else found

/-- The range of a value among ranges in ascending order, with its place. -/
def find (ranges : List Range) (v : Nat) : Nat × Range := findFrom v 0 (0, ⟨v, 0⟩) ranges

end Range

/-- The longest match. -/
def maxMatch : Nat := 258

/-- The shortest match. -/
def minMatch : Nat := 3

/-- How far back a match may point. -/
def windowSize : Nat := 32768

/-- The octet that stands `distance` behind the end. -/
def octetBack (output : Array UInt8) (distance : Nat) : UInt8 :=
  if distance ≤ output.size then output.getD (output.size - distance) 0 else 0

/-- Repeat `length` octets from `distance` behind the end. -/
def copyBack (output : Array UInt8) (distance : Nat) : Nat → Array UInt8
  | 0 => output
  | length + 1 => copyBack (output.push (octetBack output distance)) distance length

/-- How many octets a token says. -/
def Token.length : Token → Nat
  | literal _ => 1
  | copy length _ => length

/-- Say a token behind some octets, but no more than `room` octets of it. -/
def Token.write (room : Nat) (output : Array UInt8) : Token → Array UInt8
  | literal octet => if room = 0 then output else output.push octet
  | copy length distance => copyBack output distance (min length room)

end MessageEngine.Compression
