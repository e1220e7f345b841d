import MessageEngine.Toml.Number

/-!
# TOML documents

Values in brackets and braces may be nested, up to a bound.  A document is
read line by line into one table; `parse?` gives its entries, or nothing if
it breaks a rule of the format.
-/

namespace MessageEngine.Toml

/-- How deep values may be nested, and of how many parts a key may be. -/
def nestingLimit : Nat := 79

/-- A value that is not made of others. -/
def scalarValue? : List Char → Parse Toml
  | 't' :: 'r' :: 'u' :: 'e' :: rest => some (.boolean true, rest)
  | 'f' :: 'a' :: 'l' :: 's' :: 'e' :: rest => some (.boolean false, rest)
  | [] => none
  | c :: rest =>
    if c = '"' || c = '\'' then (quoted? (c :: rest)).map fun (s, rest) ↦ (.string s, rest)
    else if c = 'i' || c = 'n' then special? (c :: rest)
    else if c = '+' || c = '-' || c.isDigit then numeral? (c :: rest)
    else none

mutual

/-- A value, nested at most `depth` times. -/
def value? : (fuel depth : Nat) → List Char → Parse Toml
  | 0, _, _ => none
  | fuel + 1, depth, cs =>
    match cs, depth with
    | '[' :: _, 0 => none
    | '\x7b' :: _, 0 => none
    | '[' :: rest, depth + 1 =>
      (items? fuel depth [] rest).map fun (items, rest) ↦ (.array items, rest)
    | '\x7b' :: rest, depth + 1 =>
      match skipBlanks rest with
      | '\x7d' :: rest => some (.table .inline [], rest)
      | rest => (pairs? fuel depth [] rest).map fun (entries, rest) ↦ (.table .inline entries, rest)
    | cs, _ => scalarValue? cs

/-- The rest of an array, behind the items that were read before, last first. -/
def items? : (fuel depth : Nat) → List Toml → List Char → Parse (List Toml)
  | 0, _, _, _ => none
  | fuel + 1, depth, read, cs =>
    match skipVoid false cs with
    | ']' :: rest => some (read.reverse, rest)
    | cs =>
      match value? fuel depth cs with
      | none => none
      | some (v, rest) =>
        match skipVoid false rest with
        | ',' :: rest => items? fuel depth (v :: read) rest
        | ']' :: rest => some ((v :: read).reverse, rest)
        | _ => none

/-- The rest of a table in braces, which has one more key at least. -/
def pairs? : (fuel depth : Nat) → Entries → List Char → Parse Entries
  | 0, _, _, _ => none
  | fuel + 1, depth, entries, cs =>
    match keyPath? nestingLimit cs with
    | none => none
    | some (path, '=' :: rest) =>
      match value? fuel depth (skipBlanks rest) with
      | none => none
      | some (v, rest) =>
        match insert path.dropLast (path.getLastD "") v .inline entries with
        | none => none
        | some entries =>
          match skipBlanks rest with
          | ',' :: rest => pairs? fuel depth entries rest
          | '\x7d' :: rest => some (entries, rest)
          | _ => none
    | some _ => none

end

/-- Enough steps for whatever value stands in a document. -/
def valueFuel (cs : List Char) : Nat := 2 * cs.length + 2

/-- A document that is being read: its entries, and the table that the last header named. -/
structure Draft where
  entries : Entries := []
  current : List String := []

/-- A header, behind its first bracket. -/
def Draft.header? (d : Draft) (cs : List Char) : Option (Draft × List Char) := do
  let (path, rest) ← keyPath? nestingLimit cs
  let ']' :: rest := rest | none
  let rest ← lineEnd? rest
  let entries ← alter .implied (open? (path.getLastD "")) path.dropLast .header d.entries
  return (⟨entries, path⟩, rest)

/-- A header of one of several tables, behind its first two brackets. -/
def Draft.rowHeader? (d : Draft) (cs : List Char) : Option (Draft × List Char) := do
  let (path, rest) ← keyPath? nestingLimit cs
  let ']' :: ']' :: rest := rest | none
  let rest ← lineEnd? rest
  let entries ← alter .implied (openRow? (path.getLastD "")) path.dropLast .header d.entries
  return (⟨entries, path⟩, rest)

/-- A key and its value, which is read in so many steps at most. -/
def Draft.pair? (d : Draft) (steps : Nat) (cs : List Char) : Option (Draft × List Char) := do
  let (path, rest) ← keyPath? nestingLimit cs
  let '=' :: rest := rest | none
  let (v, rest) ← value? steps nestingLimit (skipBlanks rest)
  let rest ← lineEnd? rest
  let change := insert path.dropLast (path.getLastD "") v
  let entries ← alter .implied change d.current .header d.entries
  return ({ d with entries := entries }, rest)

/-- A line of a document, which is not at its end. -/
def Draft.line? (d : Draft) (steps : Nat) (cs : List Char) : Option (Draft × List Char) :=
  match skipBlanks cs with
  | '[' :: '[' :: rest => d.rowHeader? rest
  | '[' :: rest => d.header? rest
  | rest =>
    match lineEnd? rest with
    | some rest => some (d, rest)
    | none => d.pair? steps rest

/-- All lines; each takes up a character at least. -/
def Draft.lines? (steps : Nat) : Nat → Draft → List Char → Option Entries
  | _, d, [] => some d.entries
  | 0, _, _ => none
  | fuel + 1, d, cs =>
    match d.line? steps cs with
    | some (d, rest) => d.lines? steps fuel rest
    | none => none

/-- A mark of the byte order may stand in front of a document. -/
def dropMark : List Char → List Char
  | '\ufeff' :: rest => rest
  | cs => cs

/-- The entries of a document. -/
def parse? (text : String) : Option Entries :=
  let cs := foldReturns (dropMark text.toList)
  Draft.lines? (valueFuel cs) cs.length {} cs

end MessageEngine.Toml
