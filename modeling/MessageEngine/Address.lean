import MessageEngine.Text

/-!
# Addresses

Addresses of machines in the two families, with or without a port, are read
from and shown in their usual text forms.  Four numbers under 256 without
leading zeros make an address of four octets.  Eight groups of one to four
hexadecimal digits make one of sixteen; one run of zero groups may be
written as `::`, and the last two groups as an address of four octets.
With a port, an address of sixteen octets stands in brackets and may name
its scope by a number.
-/

namespace MessageEngine

/-- The address of a machine. -/
inductive IpAddress
  | v4 (a b c d : UInt8)
  /-- Eight groups. -/
  | v6 (groups : List UInt16)
  deriving DecidableEq, Repr

namespace IpAddress

def digitOf? (base : Nat) (c : Char) : Option Nat :=
  let digit :=
    if c.isDigit then some (c.toNat - 48)
    else if 'a' ≤ c ∧ c ≤ 'f' then some (c.toNat - 87)
    else if 'A' ≤ c ∧ c ≤ 'F' then some (c.toNat - 55)
    else none
  digit.filter (· < base)

/-- The number written with all of some digits. -/
def number? (base : Nat) (cs : List Char) : Option Nat :=
  if cs.isEmpty then none
  else cs.foldl (fun n c ↦ n.bind fun n ↦ (digitOf? base c).map (base * n + ·)) (some 0)

/-- A number under 256 in at most three digits, without leading zeros. -/
def octet? (cs : List Char) : Option UInt8 :=
  if cs.length > 3 ∨ (cs.length > 1 ∧ cs.head? = some '0') then none
  else (number? 10 cs).bind fun n ↦ if n < 256 then some (.ofNat n) else none

/-- The pieces of a text between occurrences of a character, empty ones too. -/
def pieces (separator : Char) : List Char → List (List Char)
  | [] => [[]]
  | c :: rest =>
    if c = separator then [] :: pieces separator rest
    else
      match pieces separator rest with
      | [] => [[c]]
      | first :: others => (c :: first) :: others

def v4Octets? (cs : List Char) : Option (UInt8 × UInt8 × UInt8 × UInt8) :=
  match (pieces '.' cs).map octet? with
  | [some a, some b, some c, some d] => some (a, b, c, d)
  | _ => none

def group? (cs : List Char) : Option UInt16 :=
  if cs.length > 4 then none else (number? 16 cs).map UInt16.ofNat

/-- The groups written between colons; only the last piece may be an address of four octets,
which makes two groups. -/
def groups? : List (List Char) → Option (List UInt16)
  | [] => some []
  | [last] =>
    match group? last with
    | some g => some [g]
    | none => (v4Octets? last).map fun (a, b, c, d) ↦
        [256 * a.toUInt16 + b.toUInt16, 256 * c.toUInt16 + d.toUInt16]
  | first :: rest =>
    match group? first, groups? rest with
    | some g, some gs => some (g :: gs)
    | _, _ => none

/-- The groups of one side of `::`; nothing at all makes none. -/
def side? (cs : List Char) : Option (List UInt16) :=
  if cs.isEmpty then some [] else groups? (pieces ':' cs)

/-- Where the first `::` divides a text. -/
def splitAtRun : List Char → Option (List Char × List Char)
  | ':' :: ':' :: rest => some ([], rest)
  | c :: rest => (splitAtRun rest).map fun (front, back) ↦ (c :: front, back)
  | [] => none

def isGroup (cs : List Char) : Bool := (group? cs).isSome

def v6? (cs : List Char) : Option IpAddress :=
  match splitAtRun cs with
  | none => (side? cs).bind fun gs ↦ if gs.length = 8 then some (v6 gs) else none
  | some (front, back) => do
    if !(front.isEmpty || (pieces ':' front).all isGroup) then none
    let front ← side? front
    let back ← side? back
    if front.length + back.length < 8 then
      some (v6 (front ++ List.replicate (8 - front.length - back.length) 0 ++ back))
    else none

def ofText? (s : String) : Option IpAddress :=
  match v4Octets? s.toList with
  | some (a, b, c, d) => some (v4 a b c d)
  | none => v6? s.toList

/-- The longest run of zero groups, the first of several: where it begins and its length. -/
def longestRun (gs : List UInt16) : Nat × Nat :=
  (List.range gs.length).foldl (fun best i ↦
    let run := ((gs.drop i).takeWhile (· = 0)).length
    if run > best.2 then (i, run) else best) (0, 0)

def showGroups (gs : List UInt16) : String :=
  ":".intercalate (gs.map fun g ↦ Text.digits 16 g.toNat)

def toText : IpAddress → String
  | v4 a b c d => s!"{a}.{b}.{c}.{d}"
  | v6 [0, 0, 0, 0, 0, 0xffff, x, y] =>
    s!"::ffff:{x / 256}.{x % 256}.{y / 256}.{y % 256}"
  | v6 gs =>
    let (start, length) := longestRun gs
    if length > 1 then
      showGroups (gs.take start) ++ "::" ++ showGroups (gs.drop (start + length))
    else showGroups gs

end IpAddress

/-- An address of a machine and a port on it. -/
structure SocketAddress where
  ip : IpAddress
  port : UInt16
  /-- The scope in which an address of sixteen octets holds; 0 for any. -/
  scope : UInt32 := 0
  deriving DecidableEq, Repr

namespace SocketAddress

def toText (a : SocketAddress) : String :=
  match a.ip with
  | .v4 _ _ _ _ => s!"{a.ip.toText}:{a.port}"
  | .v6 _ =>
    if a.scope = 0 then s!"[{a.ip.toText}]:{a.port}" else s!"[{a.ip.toText}%{a.scope}]:{a.port}"

/-- The scope behind an address; nothing at all stands for 0. -/
def scope? : List Char → Option UInt32
  | '%' :: digits =>
    (IpAddress.number? 10 digits).bind fun n ↦ if n < UInt32.size then some (.ofNat n) else none
  | [] => some 0
  | _ => none

/-- An address and a port after the last colon; sixteen octets stand in brackets. -/
def ofText? (s : String) : Option SocketAddress := do
  let cs := s.toList
  let back := cs.reverse.takeWhile (· ≠ ':')
  let front := cs.take (cs.length - back.length - 1)
  let port ← IpAddress.number? 10 back.reverse
  if port ≥ 65536 ∨ back.length = cs.length then none
  match front with
  | '[' :: rest =>
    if rest.getLast? = some ']' then
      let inner := rest.dropLast
      let ip ← IpAddress.v6? (inner.takeWhile (· ≠ '%'))
      let scope ← scope? (inner.dropWhile (· ≠ '%'))
      some ⟨ip, .ofNat port, scope⟩
    else none
  | _ =>
    let (a, b, c, d) ← IpAddress.v4Octets? front
    some ⟨.v4 a b c d, .ofNat port, 0⟩

end SocketAddress

end MessageEngine
