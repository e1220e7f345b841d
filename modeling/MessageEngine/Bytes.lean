/-!
# Octet strings

Everything that crosses a connection is a list of octets.  Numbers are laid
out least significant octet first.  `ofLE_le` and `le_ofLE` say that the two
directions undo each other on numbers that fit; a number that does not fit
is written modulo the capacity of its octets.
-/

namespace MessageEngine

/-- A string of octets. -/
abbrev Bytes := List UInt8

/-- The octets of a text in UTF-8. -/
def utf8 (text : String) : Bytes := text.toUTF8.data.toList

namespace Bytes

/-- The `n` low octets of a number, least significant first. -/
def le : Nat → Nat → Bytes
  | 0, _ => []
  | n + 1, v => UInt8.ofNat v :: le n (v / 256)

/-- The number whose octets, least significant first, are given. -/
def ofLE : Bytes → Nat
  | [] => 0
  | b :: rest => b.toNat + 256 * ofLE rest

/-- How many numbers `n` octets can tell apart. -/
def capacity (n : Nat) : Nat := Nat.pow 256 n

/-- The greatest number of octets for which room can be set aside. -/
def maxRoom : Nat := 9223372036854775807

/-- Whether at least `n` octets are there; no more than `n` are looked at. -/
def holds : Bytes → Nat → Bool
  | _, 0 => true
  | [], _ + 1 => false
  | _ :: rest, n + 1 => holds rest n

@[simp] theorem capacity_zero : capacity 0 = 1 := rfl

theorem capacity_succ (n : Nat) : capacity (n + 1) = capacity n * 256 := rfl

@[simp] theorem length_le (n v : Nat) : (le n v).length = n := by
  induction n generalizing v with
  | zero => rfl
  | succ n ih => simp [le, ih]

theorem ofLE_le (n v : Nat) : ofLE (le n v) = v % capacity n := by
  induction n generalizing v with
  | zero => simp [le, ofLE, Nat.mod_one]
  | succ n ih =>
    have h : v % capacity (n + 1) = v % 256 + 256 * (v / 256 % capacity n) := by
      rw [capacity_succ, Nat.mul_comm, Nat.mod_mul]
    simp [le, ofLE, ih, h]

theorem le_ofLE (b : Bytes) : le b.length (ofLE b) = b := by
  induction b with
  | nil => rfl
  | cons x rest ih =>
    have hx : x.toNat < 256 := x.toNat_lt
    have hd : (x.toNat + 256 * ofLE rest) / 256 = ofLE rest := by omega
    have hm : UInt8.ofNat (x.toNat + 256 * ofLE rest) = x := by
      apply UInt8.toNat_inj.1
      simp
    simp only [List.length_cons, le, ofLE, hd, hm, ih]

theorem ofLE_lt (b : Bytes) : ofLE b < capacity b.length := by
  induction b with
  | nil => simp [ofLE]
  | cons x rest ih =>
    have hx : x.toNat < 256 := x.toNat_lt
    simp only [ofLE, List.length_cons, capacity_succ]
    omega

theorem holds_iff (b : Bytes) (n : Nat) : b.holds n = true ↔ n ≤ b.length := by
  induction b generalizing n with
  | nil => cases n <;> simp [holds]
  | cons x rest ih => cases n <;> simp [holds, ih]

theorem not_holds_iff (b : Bytes) (n : Nat) : ¬ b.holds n = true ↔ b.length < n := by
  rw [holds_iff, Nat.not_le]

end Bytes

end MessageEngine
