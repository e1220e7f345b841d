import MessageEngine.Bytes

/-!
# The ChaCha20 stream cipher

A block of key stream comes from sixteen words, the constants, the key, a
counter and a nonce, stirred in twenty rounds.  With the long nonce of
XChaCha20 the first sixteen octets of the nonce make a key of their own.
-/

namespace MessageEngine.Cipher

/-- Sixteen words. -/
abbrev State := Array UInt32

namespace ChaCha20

def rotate (x : UInt32) (n : UInt32) : UInt32 := (x <<< n) ||| (x >>> (32 - n))

/-- Add one word to another and mix the sum into a third. -/
def mix (s : State) (a b c : Nat) (n : UInt32) : State :=
  let s := s.setIfInBounds a (s.getD a 0 + s.getD b 0)
  s.setIfInBounds c (rotate (s.getD c 0 ^^^ s.getD a 0) n)

def quarterRound (s : State) (a b c d : Nat) : State :=
  mix (mix (mix (mix s a b d 16) c d b 12) a b d 8) c d b 7

/-- A round over the columns and one over the diagonals. -/
def doubleRound (s : State) : State :=
  let s := quarterRound s 0 4 8 12
  let s := quarterRound s 1 5 9 13
  let s := quarterRound s 2 6 10 14
  let s := quarterRound s 3 7 11 15
  let s := quarterRound s 0 5 10 15
  let s := quarterRound s 1 6 11 12
  let s := quarterRound s 2 7 8 13
  quarterRound s 3 4 9 14

def rounds : (count : Nat) → State → State
  | 0, s => s
  | count + 1, s => rounds count (doubleRound s)

/-- The words that octets spell, `count` of them. -/
def words : (count : Nat) → Bytes → List UInt32
  | 0, _ => []
  | count + 1, b => .ofNat (Bytes.ofLE (b.take 4)) :: words count (b.drop 4)

/-- "expand 32-byte k". -/
def constants : List UInt32 := [0x61707865, 0x3320646e, 0x79622d32, 0x6b206574]

/-- The state before the rounds; `tail` spells the last four words. -/
def initial (key tail : Bytes) : State := (constants ++ words 8 key ++ words 4 tail).toArray

def spell (ws : List UInt32) : Bytes := ws.flatMap fun w ↦ Bytes.le 4 w.toNat

/-- The block of key stream for a counter and a nonce of twelve octets. -/
def block (key : Bytes) (counter : Nat) (nonce : Bytes) : Bytes :=
  let start := initial key (Bytes.le 4 counter ++ nonce)
  spell ((rounds 10 start).zipWith (· + ·) start).toList

/-- The key made from a key and sixteen octets of nonce. -/
def subkey (key nonce : Bytes) : Bytes :=
  let s := rounds 10 (initial key nonce)
  spell (s.toList.take 4 ++ s.toList.drop 12)

/-- Combine data with the key stream from a counter on, `blocks` blocks at most. -/
def crypt (key nonce : Bytes) : (blocks counter : Nat) → Bytes → List Bytes
  | 0, _, _ => []
  | blocks + 1, counter, data =>
    if data.isEmpty then []
    else
      (data.take 64).zipWith (· ^^^ ·) (block key counter nonce) ::
        crypt key nonce blocks (counter + 1) (data.drop 64)

/-- Combine data with the key stream, from block 1 on. -/
def apply (key nonce data : Bytes) : Bytes :=
  (crypt key nonce (data.length / 64 + 1) 1 data).flatten

end ChaCha20

end MessageEngine.Cipher
