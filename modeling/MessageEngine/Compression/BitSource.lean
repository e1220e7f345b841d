import MessageEngine.Compression.Bits

/-!
# Sources of bits

Compressed data is read bit by bit from octets that come in pieces.  Which
piece is at hand never changes what is read; it matters only to a reader
that does not ask for further pieces.
-/

namespace MessageEngine.Compression

/-- What can be wrong with compressed data: it ends early, or it breaks the rules. -/
inductive Flaw
  | incomplete
  | corrupt
  deriving DecidableEq, Repr

structure BitSource where
  /-- What is left of the octet at hand. -/
  bits : Bits := []
  /-- What is left of the piece at hand. -/
  octets : Bytes := []
  later : List Bytes := []
  deriving DecidableEq, Repr

namespace BitSource

/-- How much a piece holds. -/
def pieceSize : Nat := 32768

/-- Data in pieces, of which only the last may be short. -/
def pieces (data : Bytes) : List Bytes :=
  if _h : data.holds (pieceSize + 1) then data.take pieceSize :: pieces (data.drop pieceSize)
  else [data]
termination_by data.length
decreasing_by
  have := (Bytes.holds_iff data _).1 _h
  simp only [pieceSize, List.length_drop] at *
  omega

theorem flatten_pieces (data : Bytes) : (pieces data).flatten = data := by
  fun_induction pieces data with
  | case1 data h ih => rw [List.flatten_cons, ih, List.take_append_drop]
  | case2 data h => exact List.flatten_singleton

def ofBytes (data : Bytes) : BitSource := { later := pieces data }

/-- No further pieces are asked for. -/
def closed (s : BitSource) : BitSource := { s with later := [] }

/-- No octet is left but the one at hand. -/
def isSpent (s : BitSource) : Bool := s.octets.isEmpty && s.later.all List.isEmpty

/-- The first octet of some pieces, with what is behind it. -/
def shift : Bytes → List Bytes → Option (UInt8 × BitSource)
  | x :: octets, later => some (x, ⟨[], octets, later⟩)
  | [], [] => none
  | [], octets :: later => shift octets later

/-- The next bit. -/
def bit? (s : BitSource) : Option (Bool × BitSource) :=
  match s with
  | ⟨b :: bits, octets, later⟩ => some (b, ⟨bits, octets, later⟩)
  | ⟨[], octets, later⟩ =>
    match shift octets later with
    | none => none
    | some (x, s) => some (x.toNat % 2 == 1, { s with bits := Bits.low 7 (x.toNat / 2) })

/-- The next `n` bits as a number. -/
def number : Nat → BitSource → Except Flaw (Nat × BitSource)
  | 0, s => .ok (0, s)
  | n + 1, s =>
    match s.bit? with
    | none => .error .incomplete
    | some (b, s) =>
      match number n s with
      | .ok (v, s) => .ok ((if b then 1 else 0) + 2 * v, s)
      | .error flaw => .error flaw

/-- Go on to the start of an octet. -/
def aligned (s : BitSource) : BitSource := { s with bits := [] }

/-- The next octet, from the start of one on. -/
def octet (s : BitSource) : Except Flaw (UInt8 × BitSource) :=
  match shift s.octets s.later with
  | some found => .ok found
  | none => .error .incomplete

/-- The next `n` octets, from the start of one on. -/
def take : Nat → BitSource → Except Flaw (Bytes × BitSource)
  | 0, s => .ok ([], s)
  | n + 1, s => do
    let (x, s) ← s.octet
    let (rest, s) ← take n s
    return (x :: rest, s)

end BitSource

end MessageEngine.Compression
