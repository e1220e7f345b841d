import MessageEngine.Compression.Token

/-!
# Room for what is unpacked

What is unpacked is taken in rounds, each as large as the room that is free,
but no larger than a bound that doubles whenever a round reaches it.  At
first there is room for twice the octets of the data.  When that is full,
a small round tells whether there is more; then, and whenever it is full
again, the room is doubled.

How far a round reaches does not matter as long as another one follows.
`reach` is for the round that is the last one.
-/

namespace MessageEngine.Compression

structure Room where
  /-- What there was room for at first. -/
  initial : Nat
  size : Nat
  taken : Nat := 0
  /-- The largest round. -/
  bound : Nat := 8192
  deriving DecidableEq, Repr

namespace Room

/-- What a round takes at least when the room is full. -/
def probe : Nat := 32

def forData (octets : Nat) : Room := { initial := 2 * octets, size := 2 * octets }

/-- The room with space for a small round. -/
def grown (r : Room) : Room :=
  if r.taken = r.size then { r with size := max (2 * r.size) (r.taken + probe) } else r

/-- All the room that there was at first is full. -/
def isProbing (r : Room) : Bool := r.taken = r.size && r.size = r.initial

/-- How much the next round takes. -/
def round (r : Room) : Nat :=
  if r.isProbing then probe else min (r.grown.size - r.taken) r.bound

/-- The next round has been taken in full. -/
def next (r : Room) : Room :=
  { r.grown with
    taken := r.taken + r.round
    bound := if !r.isProbing && r.round = r.bound then 2 * r.bound else r.bound }

/-- The end of the first round that goes beyond `mark`.  A round in which the window behind
`mark` was begun ends there. -/
def reachFrom (mark : Nat) : (fuel : Nat) → Room → Nat
  | 0, r => r.taken + r.round
  | fuel + 1, r =>
    if r.taken + r.round ≤ mark then reachFrom mark fuel r.next
    else if r.taken + windowSize ≤ mark then reachFrom mark fuel { r.grown with taken := mark }
    else r.taken + r.round

/-- How far it is taken beyond the end of a window at `mark` when nothing of the data is left
there.  Each round takes something, so `mark` bounds their number. -/
def reach (octets mark : Nat) : Nat := reachFrom mark mark (forData octets)

end Room

end MessageEngine.Compression
