import MessageEngine.Compression.CodeLengths
import MessageEngine.Compression.Room

/-!
# Inflating

Compressed data is a row of blocks: stored octets, or tokens in the fixed
code or in a code of the block's own.  `inflate` reads until the last block
has ended, until a flaw, or until it would say more than it was asked for.

Octets are said into a window of 32 KiB, one window after the other.  So
reading goes on, beyond what was asked for, to the point where the window
would have to be exceeded; but once there is as much as was asked for, no
further piece of the data is looked at.

If the window is exceeded when the last octet of the data has been read, the
data cannot but end early.  Then of what its last bits say in the next
window only that counts which is taken in the same round.
-/

namespace MessageEngine.Compression

/-- What inflating came to. -/
inductive Inflated
  /-- The last block ended; the octets, and the source behind it. -/
  | complete (output : Array UInt8) (source : BitSource)
  /-- The window in which the last octet asked for lies is full, and there are more octets. -/
  | filled (output : Array UInt8)
  /-- The data ended early, when these octets had been taken. -/
  | incomplete (taken : Array UInt8)
  | corrupt

/-- The next token, or the end of the block. -/
def nextToken (literals distances : HuffmanTree) (source : BitSource) :
    Except Flaw (Option Token × BitSource) := do
  let (symbol, source) ← literals.decode source
  if symbol < 256 then return (some (.literal (.ofNat symbol)), source)
  if symbol = 256 then return (none, source)
  let some length := Range.lengths[symbol - 257]? | throw .corrupt
  let (more, source) ← source.number length.extra
  let (symbol, source) ← distances.decode source
  let some distance := Range.distances[symbol]? | throw .corrupt
  let (further, source) ← source.number distance.extra
  return (some (.copy (length.base + more) (distance.base + further)), source)

/-! ## The codes of a block -/

/-- As many numbers of three bits each. -/
def threeBitNumbers : Nat → BitSource → Except Flaw (List Nat × BitSource)
  | 0, source => .ok ([], source)
  | n + 1, source => do
    let (first, source) ← source.number 3
    let (rest, source) ← threeBitNumbers n source
    return (first :: rest, source)

/-- Code lengths until there are `wanted`; `found` holds the `count` of those before, last
first.  Each symbol gives a length at least. -/
def codeLengths (code : HuffmanTree) (wanted : Nat) :
    (fuel : Nat) → (count : Nat) → (found : List Nat) → BitSource →
      Except Flaw (List Nat × BitSource)
  | 0, _, _, _ => .error .corrupt
  | fuel + 1, count, found, source =>
    if count > wanted then .error .corrupt
    else if count = wanted then .ok (found.reverse, source)
    else do
      let (symbol, source) ← code.decode source
      if symbol < 16 then codeLengths code wanted fuel (count + 1) (symbol :: found) source
      else
        let (repeated, base, extra) ← match symbol, found with
          | 16, last :: _ => pure (last, 3, 2)
          | 16, [] => throw .corrupt
          | 17, _ => pure (0, 3, 3)
          | _, _ => pure (0, 11, 7)
        let (more, source) ← source.number extra
        let n := base + more
        codeLengths code wanted fuel (count + n) (List.replicate n repeated ++ found) source

/-- The codes for literals and distances that a block brings along. -/
def blockCodes (source : BitSource) : Except Flaw (HuffmanTree × HuffmanTree × BitSource) := do
  let (moreLiterals, source) ← source.number 5
  let (moreDistances, source) ← source.number 5
  let (moreLengths, source) ← source.number 4
  let literals := moreLiterals + 257
  let distances := moreDistances + 1
  if literals > maxLiterals || distances > maxDistances then throw .corrupt
  let (given, source) ← threeBitNumbers (moreLengths + 4) source
  let lengthOf (symbol : Nat) : Nat := ((lengthOrder.zip given).lookup symbol).getD 0
  let code ← Huffman.tree? false ((List.range 19).map lengthOf)
  let wanted := literals + distances
  let (lengths, source) ← codeLengths code wanted (wanted + 1) 0 [] source
  let distances ← Huffman.tree? true (lengths.drop literals)
  let literals ← Huffman.tree? true (lengths.take literals)
  return (literals, distances, source)

/-! ## Blocks -/

/-- What comes next. -/
inductive Stage
  /-- A block, or the end if the last block has been read. -/
  | boundary
  /-- So many octets that stand for themselves. -/
  | stored (left : Nat)
  /-- Tokens in the given codes. -/
  | tokens (literals distances : HuffmanTree)

/-- The length of a stored block: from the next full octet on it is given twice, once
inverted. -/
def storedLength (source : BitSource) : Except Flaw (Nat × BitSource) := do
  let (length, source) ← source.aligned.number 16
  let (inverted, source) ← source.number 16
  if length + inverted = 65535 then return (length, source) else throw .corrupt

/-- Begin a block: whether it is the last, and what comes next. -/
def beginBlock (source : BitSource) : Except Flaw (Bool × Stage × BitSource) := do
  let (last, source) ← source.number 1
  let (kind, source) ← source.number 2
  match kind with
  | 0 =>
    let (length, source) ← storedLength source
    return (last == 1, .stored length, source)
  | 1 => return (last == 1, .tokens Huffman.fixedLiteralTree Huffman.fixedDistanceTree, source)
  | 2 =>
    let (literals, distances, source) ← blockCodes source
    return (last == 1, .tokens literals distances, source)
  | _ => throw .corrupt

/-- How many octets the windows hold that it takes for the octets asked for. -/
def windowsFor (asked : Nat) : Nat := (asked + windowSize - 1) / windowSize * windowSize

/-- The data ended when `output` had been said; nothing beyond `reach` was taken. -/
def endsEarly (reach : Option Nat) (output : Array UInt8) : Inflated :=
  .incomplete (match reach with
    | some reach => output.take reach
    | none => output)

def stopsAt (reach : Option Nat) (output : Array UInt8) : Flaw → Inflated
  | .incomplete => endsEarly reach output
  | .corrupt => .corrupt

/-- Where the taking ends when a token exceeds the window in front of the last one and leaves no
octet; where it ended before, if no such thing happens now. -/
def reachBehind (wanted octets : Nat) (reach : Option Nat) (token : Token)
    (output : Array UInt8) (source : BitSource) : Option Nat :=
  let mark := wanted - windowSize
  if output.size ≤ mark && mark < output.size + token.length && 0 < mark && source.isSpent then
    some (Room.reach octets mark)
  else reach

/-- Go on at some stage; no more than `wanted` octets are said, and the data is of `octets`
octets.  Each step but the last takes a bit at least, that from a block to the next boundary
apart, so `fuel` may be two more than the number of bits. -/
def inflateFrom (asked wanted octets : Nat) :
    (fuel : Nat) → (last : Bool) → Stage → (reach : Option Nat) → Array UInt8 → BitSource →
      Inflated
  | 0, _, _, reach, output, _ => endsEarly reach output
  | fuel + 1, last, stage, reach, output, source =>
    let source := if asked ≤ output.size then source.closed else source
    match stage with
    | .boundary =>
      if last then
        if reach.isSome then endsEarly reach output else .complete output source
      else
        match beginBlock source with
        | .error flaw => stopsAt reach output flaw
        | .ok (last, stage, source) =>
          inflateFrom asked wanted octets fuel last stage reach output source
    | .stored 0 => inflateFrom asked wanted octets fuel last .boundary reach output source
    | .stored (left + 1) =>
      if wanted ≤ output.size then .filled output
      else
        match source.octet with
        | .error flaw => stopsAt reach output flaw
        | .ok (octet, source) =>
          inflateFrom asked wanted octets fuel last (.stored left) reach (output.push octet)
            source
    | .tokens literals distances =>
      match nextToken literals distances source with
      | .error flaw => stopsAt reach output flaw
      | .ok (none, source) =>
        inflateFrom asked wanted octets fuel last .boundary reach output source
      | .ok (some token, source) =>
        let room := wanted - output.size
        if room < token.length then .filled (token.write room output)
        else
          inflateFrom asked wanted octets fuel last (.tokens literals distances)
            (reachBehind wanted octets reach token output source) (token.write room output)
            source

/-- Inflate until there are at least `asked` octets; the source holds data of `octets` octets,
all but its header. -/
def inflate (asked octets : Nat) (source : BitSource) : Inflated :=
  inflateFrom asked (windowsFor asked) octets (8 * octets + 2) false .boundary none #[] source

end MessageEngine.Compression
