/-!
# The rate of messages

An endpoint counts the messages it received, in all and in the current
window of time.  The count of the window stays at its greatest value instead
of starting over.  The count in all is a natural number in place of a word of
64 bits, which would not overflow before 2 ^ 64 messages.
-/

namespace MessageEngine

structure Rate where
  total : Nat := 0
  window : UInt32 := 0
  deriving DecidableEq, Repr

namespace Rate

/-- One more message. -/
def record (r : Rate) : Rate where
  total := r.total + 1
  window := if r.window = 0xffffffff then r.window else r.window + 1

/-- The count of the window starts over. -/
def renew (r : Rate) : Rate := { r with window := 0 }

/-- The count stands above a ceiling; a ceiling of 0 is none. -/
def above (r : Rate) (ceiling : UInt32) : Bool := ceiling > 0 && r.window > ceiling

/-- Count a message and compare with a ceiling. -/
def exceeds (r : Rate) (ceiling : UInt32) : Rate × Bool := (r.record, r.record.above ceiling)

end Rate

end MessageEngine
