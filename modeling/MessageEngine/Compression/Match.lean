import MessageEngine.Compression.Token

/-!
# Finding matches

Data is looked at in segments of 4096 octets.  At each place the last one
with the same mark is tried, and a match with it is taken as far as it goes,
but not beyond the segment; the last three octets of a segment stand for
themselves.  A block is full when its tokens take up a certain space.
-/

namespace MessageEngine.Compression

/-- How many octets agree from two places on, `left` at most. -/
def agreement (data : Array UInt8) (i j : Nat) : (left : Nat) → Nat
  | 0 => 0
  | left + 1 =>
    match data[i]?, data[j]? with
    | some a, some b => if a = b then agreement data (i + 1) (j + 1) left + 1 else 0
    | _, _ => 0

/-- The number that three octets at a place make, the first of them lowest. -/
def trigram (data : Array UInt8) (i : Nat) : Nat :=
  (data.getD i 0).toNat + 256 * (data.getD (i + 1) 0).toNat +
    65536 * (data.getD (i + 2) 0).toNat

/-- How many marks there are. -/
def marks : Nat := 4096

/-- The mark of three octets. -/
def markOf (trigram : Nat) : Nat := (trigram ^^^ (trigram / 131072)) % marks

/-- How much is looked at in one go. -/
def segmentSize : Nat := 4096

/-- A match of the least length is not taken from this distance on. -/
def farDistance : Nat := 8192

/-- Where the search for matches stands. -/
structure Search where
  /-- For each mark the last place where it was seen; the start counts as seen. -/
  seen : Array Nat := Array.replicate marks 0
  /-- The place of the next octet. -/
  place : Nat := 0
  /-- Where the segment ends. -/
  stop : Nat := 0
  /-- How far back a match may point. -/
  reach : Nat := 0

namespace Search

/-- Begin a segment; data that is looked at takes its space from what is looked back at. -/
def nextSegment (size : Nat) (s : Search) : Search :=
  let stop := min (s.place + segmentSize) size
  { s with stop := stop, reach := min (windowSize - (stop - s.place)) s.reach }

/-- The match with an earlier place, if there is one worth pointing back.  Places are told
apart modulo 65536. -/
def match? (data : Array UInt8) (place stop reach earlier : Nat) : Option (Nat × Nat) :=
  let distance := (place - earlier) % 65536
  if distance = 0 ∨ reach < distance then none
  else if trigram data (place - distance) = trigram data place then
    let length := minMatch + agreement data (place + 3) (place - distance + 3) (maxMatch - minMatch)
    if length = minMatch ∧ farDistance ≤ distance then none
    else some (min length (stop - place), distance)
  else none

/-- The token at the next place, and the search behind it. -/
def step (data : Array UInt8) (s : Search) : Token × Search :=
  let ⟨seen, place, stop, reach⟩ := s
  let literal := Token.literal (data.getD place 0)
  if place + minMatch < stop then
    let mark := markOf (trigram data place)
    let earlier := seen.getD mark 0
    let seen := seen.setIfInBounds mark place
    match match? data place stop reach earlier with
    | some (length, distance) =>
      (.copy length distance, ⟨seen, place + length, stop, min (reach + length) windowSize⟩)
    | none => (literal, ⟨seen, place + 1, stop, min (reach + 1) windowSize⟩)
  else (literal, ⟨seen, place + 1, stop, min (reach + 1) windowSize⟩)

end Search

/-- The space that a token takes up. -/
def Token.space : Token → Nat
  | literal _ => 1
  | copy _ _ => 3

/-- The space of the tokens of a block; every eighth token takes up one more. -/
def blockSpace (space count : Nat) : Nat := 1 + space + count / 8

/-- A block is full when its tokens take up more than that. -/
def maxBlockSpace : Nat := 65528

/-- The tokens up to the end of the data, or until they fill a block, and whether they do;
`found` holds those before, last first, and each says an octet at least. -/
def Search.tokens (data : Array UInt8) :
    (fuel space count : Nat) → List Token → Search → List Token × Bool × Search
  | 0, _, _, found, s => (found.reverse, false, s)
  | fuel + 1, space, count, found, s =>
    if maxBlockSpace < blockSpace space count then (found.reverse, true, s)
    else if data.size ≤ s.place then (found.reverse, false, s)
    else
      let s := if s.place < s.stop then s else s.nextSegment data.size
      let (token, s) := s.step data
      tokens data fuel (space + token.space) (count + 1) (token :: found) s

end MessageEngine.Compression
