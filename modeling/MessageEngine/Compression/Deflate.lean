import MessageEngine.Compression.CodeLengths
import MessageEngine.Compression.Match

/-!
# Deflating

Data becomes blocks of tokens, a short block in the fixed code and any other
in a code made for it.  A block that would not become shorter is stored as it
is.  What is written is carried away in loads; a load that is full in the
middle of a block brings a new segment of the data with it.
-/

namespace MessageEngine.Compression

namespace Token

/-- The words of two codes by symbol. -/
structure Words where
  literals : Array Bits
  distances : Array Bits

/-- A token in two codes. -/
def bits (w : Words) : Token → Bits
  | literal octet => w.literals.getD octet.toNat []
  | copy length distance =>
    let (i, l) := Range.find Range.lengths length
    let (j, d) := Range.find Range.distances distance
    w.literals.getD (257 + i) [] ++ (Bits.low l.extra (length - l.base) ++
      (w.distances.getD j [] ++ Bits.low d.extra (distance - d.base)))

/-- Count the symbols of a token. -/
def tally (counts : Array Nat × Array Nat) : Token → Array Nat × Array Nat
  | literal octet => (counts.1.modify octet.toNat (· + 1), counts.2)
  | copy length distance =>
    (counts.1.modify (257 + (Range.find Range.lengths length).1) (· + 1),
      counts.2.modify (Range.find Range.distances distance).1 (· + 1))

end Token

/-- The symbol for the end of a block. -/
def endSymbol : Nat := 256

/-- How often each literal or match length, and each distance, is needed in a block. -/
def frequencies (tokens : List Token) : List Nat × List Nat :=
  let (literals, distances) := tokens.foldl Token.tally
    (Array.replicate maxLiterals 0, Array.replicate maxDistances 0)
  ((literals.modify endSymbol (· + 1)).toList, distances.toList)

/-- Lengths without the zeros behind the last word, but not fewer than `least`. -/
def trimmed (least : Nat) (lengths : List Nat) : List Nat :=
  lengths.take least ++
    ((lengths.drop least).reverse.dropWhile (· == 0)).reverse

/-- The lengths of the words of two codes, as a block passes them on. -/
def writtenLengths (literals distances : List Nat) : Bits :=
  let symbols := LengthSymbol.ofLengths (literals ++ distances)
  let counts := symbols.foldl (fun counts s ↦ counts.modify s.symbol (· + 1))
    (Array.replicate 19 0)
  let lengths := Huffman.lengthsFor 7 counts.toList
  let given := trimmed 4 (lengthOrder.map fun symbol ↦ lengths.getD symbol 0)
  let words := Huffman.wordTable lengths
  Bits.low 5 (literals.length - 257) ++ Bits.low 5 (distances.length - 1) ++
    Bits.low 4 (given.length - 4) ++ given.flatMap (Bits.low 3) ++
    symbols.flatMap fun s ↦ words.getD s.symbol [] ++ Bits.low s.extra s.more

/-- The tokens of a block and its end. -/
def written (w : Token.Words) (tokens : List Token) : Bits :=
  tokens.flatMap (Token.bits w) ++ w.literals.getD endSymbol []

/-- A block in the fixed code, but for the bit that says whether it is the last. -/
def fixedBlock (tokens : List Token) : Bits :=
  [true, false] ++ written ⟨Huffman.fixedLiteralWords, Huffman.fixedDistanceWords⟩ tokens

/-- A block in a code of its own, but for the bit that says whether it is the last. -/
def ownBlock (tokens : List Token) : Bits :=
  let (literals, distances) := frequencies tokens
  let literals := Huffman.lengthsFor maxWordLength literals
  let distances := Huffman.lengthsFor maxWordLength distances
  [false, true] ++ writtenLengths (trimmed 257 literals) (trimmed 1 distances) ++
    written ⟨Huffman.wordTable literals, Huffman.wordTable distances⟩ tokens

/-- A block that says fewer octets is written in the fixed code. -/
def minOwn : Nat := 48

/-- A block that says more octets may be stored. -/
def minStored : Nat := 32

/-- The octets of a block, and the bits behind them that fill none; `pending` are the bits
before it.  Only octets that can be looked back at are stored. -/
def blockOctets (pending : Bits) (last : Bool) (tokens : List Token) (data : Bytes)
    (size reach : Nat) : Bytes × Bits :=
  let flag := pending ++ [last]
  let coded := flag ++ (if size < minOwn then fixedBlock tokens else ownBlock tokens)
  let grown := coded.length / 8 - flag.length / 8
  if minStored < size ∧ size ≤ grown + 1 ∧ size ≤ reach then
    let (octets, bits) := Bits.gather [] (flag ++ [false, false])
    (octets ++ Bits.padded bits ++ Bytes.le 2 size ++ Bytes.le 2 (65535 - size) ++ data, [])
  else Bits.gather [] coded

/-- How many octets a load holds. -/
def loadSize : Nat := 32768

/-- Blocks for what is left of the data, the last of them the last of all; `room` is what is
left of the load at hand.  Each block but the last says an octet at least. -/
def blocksFrom (data : Array UInt8) :
    (fuel room : Nat) → (pending : Bits) → (found : List Bytes) → Search → Bytes
  | 0, _, pending, found, _ => (Bits.padded pending :: found).reverse.flatten
  | fuel + 1, room, pending, found, s =>
    let (tokens, full, next) := s.tokens data (data.size + 1) 0 0 []
    let size := next.place - s.place
    let said := (data.extract s.place next.place).toList
    let (octets, pending) := blockOctets pending (!full) tokens said size next.reach
    if full then
      if octets.length ≤ room then
        blocksFrom data fuel (room - octets.length) pending (octets :: found) next
      else
        blocksFrom data fuel (loadSize - (octets.length - room) % loadSize) pending
          (octets :: found) (next.nextSegment data.size)
    else (Bits.padded pending :: octets :: found).reverse.flatten

/-- Deflate data; so many octets are in the first load already. -/
def deflate (ahead : Nat) (data : Bytes) : Bytes :=
  let data := data.toArray
  blocksFrom data (data.size + 1) (loadSize - ahead) [] [] {}

end MessageEngine.Compression
