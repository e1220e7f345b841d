import MessageEngine.Toml.Text
import MessageEngine.Toml.Value

/-!
# Numbers, dates and times

Whole numbers have to fit into 64 bits with a sign.  A float has to be
finite when it is rounded to 64 bits, unless it is written as an infinity or
is below zero.  Dates follow the calendar.
-/

namespace MessageEngine.Toml

/-! ## Digits -/

/-- Digits behind the first one.  An underscore may stand between two digits. -/
def moreDigits (isDigit : Char → Bool) : List Char → List Char × List Char
  | [] => ([], [])
  | '_' :: c :: rest =>
    if isDigit c then
      let (digits, rest) := moreDigits isDigit rest
      (c :: digits, rest)
    else ([], '_' :: c :: rest)
  | c :: rest =>
    if isDigit c then
      let (digits, rest) := moreDigits isDigit rest
      (c :: digits, rest)
    else ([], c :: rest)

/-- One digit or more. -/
def digits? (isDigit : Char → Bool) : List Char → Parse (List Char)
  | [] => none
  | c :: rest =>
    if isDigit c then
      let (digits, rest) := moreDigits isDigit rest
      some (c :: digits, rest)
    else none

def ofDigits (base : Nat) (digits : List Char) : Nat :=
  digits.foldl (fun n c ↦ base * n + (Bytes.hexDigit? c).getD 0) 0

def isDigitIn (base : Nat) (c : Char) : Bool :=
  match Bytes.hexDigit? c with
  | some d => d < base
  | none => false

/-- Decimal digits without a zero in front. -/
def decimal? : List Char → Parse (List Char)
  | '0' :: rest => some (['0'], rest)
  | cs => digits? Char.isDigit cs

/-- A sign, or none. -/
def sign : List Char → Bool × List Char
  | '-' :: rest => (true, rest)
  | '+' :: rest => (false, rest)
  | cs => (false, cs)

/-! ## Integers and floats -/

def withoutZeros (digits : List Char) : List Char := digits.dropWhile (· = '0')

/-- Whole numbers fit into 64 bits, so that they have no more digits than 64 to any base. -/
def integer? (negative : Bool) (base : Nat) (digits : List Char) (rest : List Char) : Parse Toml :=
  let digits := withoutZeros digits
  let n := Int.ofNat (ofDigits base (digits.take 65))
  let n := if negative then -n else n
  if digits.length ≤ 64 ∧ Int64.minValue.toInt ≤ n ∧ n ≤ Int64.maxValue.toInt then
    some (.integer n, rest)
  else none

/-- A whole number to another base, behind its mark. -/
def based? (base : Nat) (cs : List Char) : Parse Toml :=
  (digits? (isDigitIn base) cs).bind fun (digits, rest) ↦ integer? false base digits rest

/-- The first whole number that is beyond the finite floats of 64 bits; it has 309 digits. -/
def infinite : Nat := Nat.pow 2 1024 - Nat.pow 2 970

/-- A number is beyond the finite floats.  It has the given digits, and its point would stand
`scale` places behind the last of them. -/
def overflows (digits : List Char) (scale : Int) : Bool :=
  let digits := withoutZeros digits
  let size := digits.length + scale
  if digits = [] ∨ size < 309 then false
  else if 309 < size then true
  else infinite ≤ ofDigits 10 ((digits ++ List.replicate 309 '0').take 309)

/-- The number that the digits of an exponent give.  Digits are passed over once it has reached
65536. -/
def exponentOf (digits : List Char) : Nat :=
  digits.foldl (fun n c ↦ if n < 65536 then 10 * n + (Bytes.hexDigit? c).getD 0 else n) 0

/-- The exponent of a float, if there is one. -/
def exponent? : List Char → Parse Int
  | c :: cs =>
    if c = 'e' || c = 'E' then
      let (negative, cs) := sign cs
      (digits? Char.isDigit cs).map fun (digits, rest) ↦
        (if negative then -(exponentOf digits : Int) else exponentOf digits, rest)
    else some (0, c :: cs)
  | [] => some (0, [])

/-- A float with the given digits in front of its point or exponent, and behind its point. -/
def float? (negative : Bool) (whole places cs : List Char) : Parse Toml :=
  (exponent? cs).bind fun (e, rest) ↦
    if !negative && overflows (whole ++ places) (e - places.length) then none
    else some (.float, rest)

/-- A float that is no number of digits. -/
def special? : List Char → Parse Toml
  | 'i' :: 'n' :: 'f' :: rest => some (.float, rest)
  | 'n' :: 'a' :: 'n' :: rest => some (.float, rest)
  | _ => none

/-- A whole number or a float to base ten. -/
def signed? (cs : List Char) : Parse Toml :=
  let (negative, cs) := sign cs
  match decimal? cs with
  | none => special? cs
  | some (whole, rest) =>
    match rest with
    | '.' :: rest =>
      (digits? Char.isDigit rest).bind fun (places, rest) ↦ float? negative whole places rest
    | 'e' :: _ | 'E' :: _ => float? negative whole [] rest
    | _ => integer? negative 10 whole rest

def number? : List Char → Parse Toml
  | '0' :: 'x' :: rest => based? 16 rest
  | '0' :: 'o' :: rest => based? 8 rest
  | '0' :: 'b' :: rest => based? 2 rest
  | cs => signed? cs

/-! ## Dates and times -/

/-- Two decimal digits. -/
def pair? : List Char → Parse Nat
  | a :: b :: rest => if a.isDigit && b.isDigit then some (ofDigits 10 [a, b], rest) else none
  | _ => none

/-- Two digits behind the given mark. -/
def markedPair? (mark : Char) : List Char → Parse Nat
  | c :: rest => if c = mark then pair? rest else none
  | [] => none

def isLeap (year : Nat) : Bool := year % 4 = 0 && (year % 100 ≠ 0 || year % 400 = 0)

def daysIn (year month : Nat) : Nat :=
  if month = 2 then if isLeap year then 29 else 28
  else if month = 4 ∨ month = 6 ∨ month = 9 ∨ month = 11 then 30
  else 31

/-- What is left behind a date. -/
def date? (cs : List Char) : Option (List Char) := do
  let (century, cs) ← pair? cs
  let (year, cs) ← pair? cs
  let (month, cs) ← markedPair? '-' cs
  let (day, cs) ← markedPair? '-' cs
  if 1 ≤ month ∧ month ≤ 12 ∧ 1 ≤ day ∧ day ≤ daysIn (100 * century + year) month then some cs
  else none

/-- A part of a second. -/
def fraction? : List Char → Option (List Char)
  | '.' :: c :: rest => if c.isDigit then some (rest.dropWhile Char.isDigit) else none
  | '.' :: [] => none
  | cs => some cs

/-- What is left behind a time of day. -/
def time? (cs : List Char) : Option (List Char) := do
  let (hour, cs) ← pair? cs
  let (minute, cs) ← markedPair? ':' cs
  let (second, cs) ← markedPair? ':' cs
  if hour ≤ 23 ∧ minute ≤ 59 ∧ second ≤ 60 then fraction? cs else none

/-- What is left behind the distance from the first meridian, if it is given. -/
def offset? : List Char → Option (List Char)
  | [] => some []
  | c :: rest =>
    if c = 'Z' || c = 'z' then some rest
    else if c = '+' || c = '-' then
      match pair? rest with
      | none => none
      | some (hour, rest) =>
        match markedPair? ':' rest with
        | none => none
        | some (minute, rest) => if hour ≤ 23 ∧ minute ≤ 59 then some rest else none
    else some (c :: rest)

/-- What is left behind the time that may follow a date. -/
def timeOfDate? : List Char → Option (List Char)
  | [] => some []
  | c :: rest =>
    if c = 'T' || c = 't' || c = ' ' then
      match time? rest with
      | some rest => offset? rest
      | none => some (c :: rest)
    else some (c :: rest)

/-- A value begins like a date or a time of day. -/
def looksDated : List Char → Bool
  | a :: b :: c :: rest =>
    a.isDigit && b.isDigit && (c = ':' || (c.isDigit && match rest with
      | d :: e :: _ => d.isDigit && e = '-'
      | _ => false))
  | _ => false

def datetime? (cs : List Char) : Parse Toml :=
  let rest? := match date? cs with
    | some rest => timeOfDate? rest
    | none => time? cs
  rest?.map fun rest ↦ (.datetime, rest)

/-- Whatever begins with a digit or a sign. -/
def numeral? (cs : List Char) : Parse Toml := if looksDated cs then datetime? cs else number? cs

end MessageEngine.Toml
