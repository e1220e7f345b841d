import MessageEngine.Compression.BitSource

/-!
# Huffman codes

A canonical code is given by the length of each symbol's code word: shorter
words come first, and words of one length follow the order of the symbols.
Words are read along a binary tree.
-/

namespace MessageEngine.Compression

/-- A tree of code words. -/
inductive HuffmanTree
  | empty
  | leaf (symbol : Nat)
  | node (zero one : HuffmanTree)
  deriving DecidableEq, Repr

namespace HuffmanTree

/-- Put a symbol at the end of a code word. -/
def insert (symbol : Nat) : Bits → HuffmanTree → HuffmanTree
  | [], _ => leaf symbol
  | false :: word, node zero one => node (insert symbol word zero) one
  | true :: word, node zero one => node zero (insert symbol word one)
  | false :: word, _ => node (insert symbol word empty) empty
  | true :: word, _ => node empty (insert symbol word empty)

/-- The symbol to which the next bits lead. -/
def follow : HuffmanTree → BitSource → Except Flaw (Nat × BitSource)
  | leaf symbol, s => .ok (symbol, s)
  | empty, _ => .error .corrupt
  | node zero one, s =>
    match s.bit? with
    | none => .error .incomplete
    | some (false, s) => zero.follow s
    | some (true, s) => one.follow s

end HuffmanTree

/-- The longest code word. -/
def maxWordLength : Nat := 15

/-- The symbol whose code word comes next.  That there is no such word is said only where there
are bits enough for the longest one. -/
def HuffmanTree.decode (t : HuffmanTree) (s : BitSource) : Except Flaw (Nat × BitSource) :=
  match t.follow s with
  | .error .corrupt => .error (if (s.number maxWordLength).isOk then .corrupt else .incomplete)
  | found => found

namespace Huffman

/-- Give the symbols with words of one length consecutive words. -/
def wordsOfLength (length : Nat) : List (Nat × Nat) → Nat → List (Bits × Nat) × Nat
  | [], code => ([], code)
  | (symbol, l) :: rest, code =>
    if l = length then
      let (words, code') := wordsOfLength length rest (code + 1)
      ((Bits.high length code, symbol) :: words, code')
    else wordsOfLength length rest code

/-- Words of all lengths from `length` on, `left` of them. -/
def wordsFrom (symbols : List (Nat × Nat)) : (length left code : Nat) → List (Bits × Nat)
  | _, 0, _ => []
  | length, left + 1, code =>
    let (words, code) := wordsOfLength length symbols code
    words ++ wordsFrom symbols (length + 1) left (2 * code)

/-- The code words of a canonical code with their symbols; length 0 stands for no word. -/
def words (lengths : List Nat) : List (Bits × Nat) :=
  wordsFrom (lengths.zipIdx.map fun (l, symbol) ↦ (symbol, l)) 1 maxWordLength 0

def tree (lengths : List Nat) : HuffmanTree :=
  (words lengths).foldl (fun t (word, symbol) ↦ t.insert symbol word) (.node .empty .empty)

/-- The share of all words of the greatest length that begin with a word of the code. -/
def weight (lengths : List Nat) : Nat :=
  lengths.foldr (fun l n ↦ (if l = 0 then 0 else Bits.capacity (maxWordLength - l)) + n) 0

/-- Every string of bits begins with exactly one word. -/
def isComplete (lengths : List Nat) : Bool := weight lengths == Bits.capacity maxWordLength

/-- There is no word, or only one, and that of a single bit. -/
def isMeagre (lengths : List Nat) : Bool :=
  match lengths.filter (· ≠ 0) with
  | [] | [1] => true
  | _ => false

/-- The tree of a code that a block brings along: it has to be complete, unless it is
allowed to be meagre. -/
def tree? (meagre : Bool) (lengths : List Nat) : Except Flaw HuffmanTree :=
  if isComplete lengths || (meagre && isMeagre lengths) then .ok (tree lengths)
  else .error .corrupt

/-- The lengths of the fixed code for literals and match lengths. -/
def fixedLiteralLengths : List Nat :=
  List.replicate 144 8 ++ List.replicate 112 9 ++ List.replicate 24 7 ++ List.replicate 8 8

/-- The lengths of the fixed code for distances. -/
def fixedDistanceLengths : List Nat := List.replicate 32 5

def fixedLiteralTree : HuffmanTree := tree fixedLiteralLengths

def fixedDistanceTree : HuffmanTree := tree fixedDistanceLengths

/-- The code words of a code by symbol. -/
def wordTable (lengths : List Nat) : Array Bits :=
  (words lengths).foldl (fun table (word, symbol) ↦ table.setIfInBounds symbol word)
    (Array.replicate lengths.length [])

def fixedLiteralWords : Array Bits := wordTable fixedLiteralLengths

def fixedDistanceWords : Array Bits := wordTable fixedDistanceLengths

end Huffman

end MessageEngine.Compression
