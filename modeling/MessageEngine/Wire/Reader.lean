import MessageEngine.Error
import MessageEngine.Wire.Encode

/-!
# Reading values

A `Reader` is a place in a string of octets.  Every read gives an outcome
and the reader afterwards, also when it fails: what was read in full before
the failure stays consumed, and reading can go on from there.
-/

namespace MessageEngine

/-- A place in a string of octets: how many are behind it, and those ahead. -/
structure Reader where
  position : Nat
  unread : Bytes
  deriving DecidableEq, Repr

namespace Reader

/-- The outcome of a read, with the reader it leaves behind. -/
abbrev Result (α : Type) := Except ProtocolError α × Reader

def ofBytes (b : Bytes) : Reader := ⟨0, b⟩

def remaining (r : Reader) : Nat := r.unread.length

def hasRemaining (r : Reader) : Bool := !r.unread.isEmpty

/-- Go on with what was read; a failure is passed on with the reader it left. -/
def andThen {α β : Type} (x : Result α) (next : α → Reader → Result β) : Result β :=
  match x with
  | (.ok a, r) => next a r
  | (.error e, r) => (.error e, r)

/-- The next `n` octets.  If they are not all there, nothing is consumed. -/
def take (n : Nat) (r : Reader) : Result Bytes :=
  if r.unread.holds n then
    (.ok (r.unread.take n), ⟨r.position + n, r.unread.drop n⟩)
  else (.error (.unexpectedEof n r.remaining), r)

def scalar (kind : Scalar) (r : Reader) : Result kind.Value :=
  andThen (r.take kind.width) fun b r ↦ (.ok (kind.ofNumber (Bytes.ofLE b)), r)

/-- A truth value or an option tag: one octet, 0 or 1. -/
def bool (r : Reader) : Result Bool :=
  andThen (r.take 1) fun b r ↦
    match b with
    | [0] => (.ok false, r)
    | [1] => (.ok true, r)
    | other => (.error (.invalidBoolean (other.headD 0)), r)

/-- A length or count in front of what it measures. -/
def count (r : Reader) : Result Nat :=
  andThen (r.take 4) fun b r ↦ (.ok (Bytes.ofLE b), r)

/-- A blob behind its length. -/
def blob (r : Reader) : Result Bytes :=
  andThen r.count fun n r ↦ r.take n

def text (r : Reader) : Result String :=
  andThen r.blob fun b r ↦
    match String.fromUTF8? ⟨b.toArray⟩ with
    | some s => (.ok s, r)
    | none => (.error .invalidStringEncoding, r)

/-- One read `n` times over; `found` holds what came before, last first. -/
def times {α : Type} (read : Reader → Result α) : Nat → List α → Reader → Result (List α)
  | 0, found, r => (.ok found.reverse, r)
  | n + 1, found, r =>
    match read r with
    | (.ok a, r) => times read n (a :: found) r
    | (.error e, r) => (.error e, r)

/-- A sequence.  Every element takes an octet at least, so a count beyond the octets
left cannot be met and is refused before any element is read. -/
def sequence {α : Type} (read : Reader → Result α) (r : Reader) : Result (List α) :=
  andThen r.count fun n r ↦
    if r.unread.holds n then times read n [] r
    else (.error (.unexpectedEof n r.remaining), r)

def option {α : Type} (read : Reader → Result α) (r : Reader) : Result (Option α) :=
  andThen r.bool fun present r ↦
    if present then andThen (read r) fun a r ↦ (.ok (some a), r) else (.ok none, r)

/-- A value of a wire type. -/
def value : (t : WireType) → Reader → Result t.Value
  | .scalar kind => scalar kind
  | .bool => bool
  | .string => text
  | .bytes => blob
  | .vec element => sequence (value element)
  | .opt inner => option (value inner)

end Reader

end MessageEngine
