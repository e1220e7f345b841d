import MessageEngine.Bytes.Hex

/-!
# Blanks, quoted texts and keys

The parts of a TOML document that are read character by character.  Each
function takes what is left of the document and gives back what is left
behind it.  Lines end in a line feed; `foldReturns` is applied first, so
that a carriage return in front of one is not seen.
-/

namespace MessageEngine.Toml

/-- What is read, and what is left behind it. -/
abbrev Parse (α : Type) := Option (α × List Char)

/-- Line ends of two characters become one. -/
def foldReturns : List Char → List Char
  | '\r' :: '\n' :: rest => '\n' :: foldReturns rest
  | c :: rest => c :: foldReturns rest
  | [] => []

def isBlank (c : Char) : Bool := c = ' ' || c = '\t'

/-- A character that may stand in a comment: no control character but the tabulator. -/
def isText (c : Char) : Bool := c = '\t' || (' ' ≤ c && c ≠ '\x7f')

def skipBlanks (cs : List Char) : List Char := cs.dropWhile isBlank

def skipComment : List Char → List Char
  | '#' :: rest => rest.dropWhile isText
  | cs => cs

/-- What follows the end of a line, behind blanks and a comment. -/
def lineEnd? (cs : List Char) : Option (List Char) :=
  match skipComment (skipBlanks cs) with
  | [] => some []
  | '\n' :: rest => some rest
  | _ => none

/-- Skip blanks, line ends and comments. -/
def skipVoid : (comment : Bool) → List Char → List Char
  | _, [] => []
  | comment, c :: rest =>
    if c = '\n' then skipVoid false rest
    else if comment then if isText c then skipVoid true rest else c :: rest
    else if c = '#' then skipVoid true rest
    else if isBlank c then skipVoid false rest
    else c :: rest

/-! ## Quoted texts -/

/-- A way of quoting: the mark, whether a backslash is special, and whether the text may run
over several lines and ends in three marks. -/
structure Quoting where
  mark : Char
  escapes : Bool
  long : Bool

/-- Where the reader of a quoted text stands. -/
inductive QuoteState
  | plain
  /-- Behind a backslash. -/
  | escape
  /-- In the number of a character, with so many digits to come. -/
  | code (left value : Nat)
  /-- Behind so many marks in a long text. -/
  | marks (n : Nat)
  /-- In the gap that a backslash at the end of a line makes; `broken` once the line has ended. -/
  | gap (broken : Bool)

def simpleEscape? : Char → Option Char
  | 'b' => some '\x08'
  | 't' => some '\t'
  | 'n' => some '\n'
  | 'f' => some '\x0c'
  | 'r' => some '\r'
  | '"' => some '"'
  | '\\' => some '\\'
  | _ => none

/-- The character with the given number. -/
def scalar? (n : Nat) : Option Char := if n.isValidChar then some (Char.ofNat n) else none

/-- A character that is no mark, in the plain part of a text; `read` holds what was read
before, last first. -/
def Quoting.ordinary? (k : Quoting) (read : List Char) (c : Char) :
    Option (QuoteState × List Char) :=
  if c = '\\' && k.escapes then some (.escape, read)
  else if isText c || (k.long && c = '\n') then some (.plain, c :: read)
  else none

def Quoting.escaped? (k : Quoting) (read : List Char) (c : Char) :
    Option (QuoteState × List Char) :=
  if c = 'u' then some (.code 4 0, read)
  else if c = 'U' then some (.code 8 0, read)
  else if k.long && isBlank c then some (.gap false, read)
  else if k.long && c = '\n' then some (.gap true, read)
  else (simpleEscape? c).map fun x ↦ (.plain, x :: read)

/-- A digit in the number of a character. -/
def coded? (left value : Nat) (read : List Char) (c : Char) : Option (QuoteState × List Char) :=
  match Bytes.hexDigit? c with
  | none => none
  | some d =>
    if left = 1 then (scalar? (16 * value + d)).map fun x ↦ (.plain, x :: read)
    else some (.code (left - 1) (16 * value + d), read)

/-- The text that was read, with some marks that belong to it. -/
def Quoting.finish (k : Quoting) (read : List Char) (marks : Nat) : String :=
  String.ofList (read.reverse ++ List.replicate marks k.mark)

/-- The rest of a quoted text, behind its first marks.  A long text may end in up to five
marks, of which the last three close it. -/
def Quoting.body (k : Quoting) : QuoteState → List Char → List Char → Parse String
  | .marks n, read, [] => if 3 ≤ n then some (k.finish read (n - 3), []) else none
  | _, _, [] => none
  | .plain, read, c :: rest =>
    if c = k.mark then
      if k.long then k.body (.marks 1) read rest else some (k.finish read 0, rest)
    else
      match k.ordinary? read c with
      | some (state, read) => k.body state read rest
      | none => none
  | .marks n, read, c :: rest =>
    if c = k.mark then
      if n = 4 then some (k.finish read 2, rest) else k.body (.marks (n + 1)) read rest
    else if 3 ≤ n then some (k.finish read (n - 3), c :: rest)
    else
      match k.ordinary? (List.replicate n k.mark ++ read) c with
      | some (state, read) => k.body state read rest
      | none => none
  | .escape, read, c :: rest =>
    match k.escaped? read c with
    | some (state, read) => k.body state read rest
    | none => none
  | .code left value, read, c :: rest =>
    match coded? left value read c with
    | some (state, read) => k.body state read rest
    | none => none
  | .gap broken, read, c :: rest =>
    if c = '\n' then k.body (.gap true) read rest
    else if isBlank c then k.body (.gap broken) read rest
    else if !broken then none
    else if c = k.mark then k.body (.marks 1) read rest
    else
      match k.ordinary? read c with
      | some (state, read) => k.body state read rest
      | none => none

def basic (long : Bool) : Quoting := ⟨'"', true, long⟩

def literal (long : Bool) : Quoting := ⟨'\'', false, long⟩

def dropNewline : List Char → List Char
  | '\n' :: rest => rest
  | cs => cs

/-- A quoted text of any kind; a line end right behind three marks does not belong to it. -/
def quoted? : List Char → Parse String
  | '"' :: '"' :: '"' :: rest => (basic true).body .plain [] (dropNewline rest)
  | '"' :: rest => (basic false).body .plain [] rest
  | '\'' :: '\'' :: '\'' :: rest => (literal true).body .plain [] (dropNewline rest)
  | '\'' :: rest => (literal false).body .plain [] rest
  | _ => none

/-! ## Keys -/

def isBare (c : Char) : Bool := c.isAlphanum || c = '_' || c = '-'

def key? : List Char → Parse String
  | '"' :: rest => (basic false).body .plain [] rest
  | '\'' :: rest => (literal false).body .plain [] rest
  | cs =>
    match cs.takeWhile isBare with
    | [] => none
    | name => some (String.ofList name, cs.dropWhile isBare)

/-- A key of at most so many parts, joined by dots. -/
def keyPath? : Nat → List Char → Parse (List String)
  | 0, _ => none
  | parts + 1, cs =>
    match key? (skipBlanks cs) with
    | none => none
    | some (key, rest) =>
      match skipBlanks rest with
      | '.' :: rest => (keyPath? parts rest).map fun (path, rest) ↦ (key :: path, rest)
      | rest => some ([key], rest)

end MessageEngine.Toml
