import MessageEngine.Compression.Huffman

/-!
# The lengths of code words

How long the words of a code should be, given how often each symbol is
needed: Huffman's lengths, with the longest words shortened to a limit.  The
lengths are passed on as a row of symbols of their own, in which runs of one
length are short.
-/

namespace MessageEngine.Compression

/-- The greatest number of literals and match lengths that a block may have words for. -/
def maxLiterals : Nat := 286

/-- The greatest number of distances that a block may have words for. -/
def maxDistances : Nat := 30

/-- In which order the lengths of the words for code lengths come. -/
def lengthOrder : List Nat := [16, 17, 18, 0, 8, 7, 9, 6, 10, 5, 11, 4, 12, 3, 13, 2, 14, 1, 15]

namespace Huffman

/-- Some symbols joined to a tree: how often they are needed in all, and how deep they lie. -/
structure Grove where
  weight : Nat
  depths : List Nat
  deriving DecidableEq, Repr

/-- Put a grove behind all that are not heavier. -/
def insertGrove (g : Grove) : List Grove → List Grove
  | [] => [g]
  | x :: rest => if g.weight < x.weight then g :: x :: rest else x :: insertGrove g rest

theorem length_insertGrove (g : Grove) (gs : List Grove) :
    (insertGrove g gs).length = gs.length + 1 := by
  induction gs with
  | nil => rfl
  | cons x rest ih =>
    unfold insertGrove
    split
    · rfl
    · simp [ih]

/-- Join the two lightest groves until there is only one, and say how deep each symbol lies. -/
def joined : List Grove → List Nat
  | [] => []
  | [g] => g.depths
  | g :: h :: rest =>
    joined (insertGrove ⟨g.weight + h.weight, (g.depths ++ h.depths).map (· + 1)⟩ rest)
termination_by gs => gs.length
decreasing_by
  rw [length_insertGrove]
  simp

/-- How many words of each length up to a limit there are, if longer ones are cut. -/
def histogram (limit : Nat) (depths : List Nat) : Array Nat :=
  depths.foldl (fun counts d ↦ counts.modify (min d limit) (· + 1)) (Array.replicate (limit + 1) 0)

/-- Give up a word of the greatest length, and split the longest shorter one. -/
def splitShorter (limit : Nat) (counts : Array Nat) : Array Nat :=
  let counts := counts.modify limit (· - 1)
  match (List.range' 1 (limit - 1)).reverse.find? fun i ↦ 0 < counts.getD i 0 with
  | none => counts
  | some i => (counts.modify i (· - 1)).modify (i + 1) (· + 2)

/-- What words of the given lengths take of all the words of the greatest length. -/
def share (limit : Nat) (counts : Array Nat) : Nat :=
  (List.range' 1 limit).foldr
    (fun i n ↦ counts.getD i 0 * Bits.capacity (limit - i) + n) 0

/-- Make room for all words, if cutting them left too little. -/
def balanced (limit : Nat) (counts : Array Nat) : Array Nat :=
  Nat.repeat (splitShorter limit) (share limit counts - Bits.capacity limit) counts

/-- The lengths of that many words, the longest first. -/
def descending (limit : Nat) (counts : Array Nat) : List Nat :=
  (List.range' 1 limit).reverse.flatMap fun i ↦ List.replicate (counts.getD i 0) i

/-- How long the words of a code should be if each symbol is needed as often as said, and no
word may be longer than a limit.  A symbol that is alone has a word of one bit. -/
def lengthsFor (limit : Nat) (frequencies : List Nat) : List Nat :=
  let needed := (frequencies.zipIdx.filter (·.1 ≠ 0)).mergeSort fun a b ↦ a.1 ≤ b.1
  let depths := joined (needed.map fun (n, _) ↦ ⟨n, [0]⟩)
  let counts := histogram limit (depths.map (max 1))
  let lengths := descending limit (if needed.length ≤ 1 then counts else balanced limit counts)
  ((needed.zip lengths).foldl (fun found ((_, symbol), length) ↦
    found.setIfInBounds symbol length) (Array.replicate frequencies.length 0)).toList

end Huffman

/-! ## Runs of lengths -/

/-- A symbol that stands for code lengths, with a number of so many bits behind it. -/
structure LengthSymbol where
  symbol : Nat
  more : Nat := 0
  extra : Nat := 0
  deriving DecidableEq, Repr

namespace LengthSymbol

/-- So many lengths of 0, which are 138 at most. -/
def shortZeros (n : Nat) : List LengthSymbol :=
  if n < 3 then List.replicate n { symbol := 0 }
  else if n ≤ 10 then [⟨17, n - 3, 3⟩]
  else [⟨18, n - 11, 7⟩]

def zeros (n : Nat) : List LengthSymbol :=
  List.replicate (n / 138) ⟨18, 127, 7⟩ ++ shortZeros (n % 138)

/-- A length is said so many times more, 6 at most. -/
def shortRepeats (length n : Nat) : List LengthSymbol :=
  if n < 3 then List.replicate n { symbol := length } else [⟨16, n - 3, 2⟩]

def repeats (length n : Nat) : List LengthSymbol :=
  List.replicate (n / 6) ⟨16, 3, 2⟩ ++ shortRepeats length (n % 6)

/-- A length that comes so many times in a row. -/
def run (length n : Nat) : List LengthSymbol :=
  if length = 0 then zeros n else { symbol := length } :: repeats length (n - 1)

/-- The symbols for lengths behind `n` times the same. -/
def ofRuns (length n : Nat) : List Nat → List LengthSymbol
  | [] => run length n
  | x :: rest => if x = length then ofRuns length (n + 1) rest else run length n ++ ofRuns x 1 rest

def ofLengths : List Nat → List LengthSymbol
  | [] => []
  | x :: rest => ofRuns x 1 rest

end LengthSymbol

end MessageEngine.Compression
