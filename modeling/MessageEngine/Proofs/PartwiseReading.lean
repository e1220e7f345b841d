import Mathlib
import MessageEngine.Proofs.Truncation
import MessageEngine.Proofs.UncheckedCounts

/-!
# Reading part by part

Whatever is read, it comes down to asking for the next octets, a number of
them at a time, and to asking whether a number of them are left.  A `Reading`
is such a course of questions.  What comes of it and how far it gets is told
by the octets ahead alone; a reader goes through with it, and so does a
cursor on a slice, whose position is a word and whose every sum, index and
copy is checked.
-/

namespace MessageEngine

/-- A read in parts. -/
inductive Reading (α : Type) : Type
  | done (a : α)
  | refuse (e : ProtocolError)
  /-- Take the next octets. -/
  | part (n : UInt64) (next : Bytes → Reading α)
  /-- Go on if there are as many octets left. -/
  | room (n : UInt64) (next : Reading α)

namespace Reading

variable {α β : Type}

def andThen (x : Reading α) (next : α → Reading β) : Reading β :=
  match x with
  | done a => next a
  | refuse e => refuse e
  | part n rest => part n fun b ↦ (rest b).andThen next
  | room n rest => room n (rest.andThen next)

def scalar (kind : Scalar) : Reading kind.Value :=
  part (.ofNat kind.width) fun b ↦ done (kind.ofNumber (Bytes.ofLE b))

def bool : Reading Bool :=
  part 1 fun b ↦
    match b with
    | [0] => done false
    | [1] => done true
    | other => refuse (.invalidBoolean (other.headD 0))

/-- A length or count, and what it is in front of. -/
def count (next : UInt64 → Reading α) : Reading α :=
  part 4 fun b ↦ next (.ofNat (Bytes.ofLE b))

def blob : Reading Bytes := count fun n ↦ part n done

def text : Reading String :=
  blob.andThen fun b ↦
    match String.fromUTF8? ⟨b.toArray⟩ with
    | some s => done s
    | none => refuse .invalidStringEncoding

def times (x : Reading α) : Nat → List α → Reading (List α)
  | 0, found => done found.reverse
  | n + 1, found => x.andThen fun a ↦ times x n (a :: found)

def sequence (x : Reading α) : Reading (List α) := count fun n ↦ room n (times x n.toNat [])

def option (x : Reading α) : Reading (Option α) :=
  bool.andThen fun present ↦ if present then x.andThen fun a ↦ done (some a) else done none

def value : (t : WireType) → Reading t.Value
  | .scalar kind => scalar kind
  | .bool => bool
  | .string => text
  | .bytes => blob
  | .vec element => sequence (value element)
  | .opt inner => option (value inner)

/-! ## What the octets ahead tell -/

/-- What comes of a reading where these octets are ahead, and how many of them it takes. -/
def outcome : Reading α → Bytes → Except ProtocolError α × Nat
  | done a, _ => (.ok a, 0)
  | refuse e, _ => (.error e, 0)
  | part n next, u =>
    if n.toNat ≤ u.length then
      let rest := (next (u.take n.toNat)).outcome (u.drop n.toNat)
      (rest.1, n.toNat + rest.2)
    else (.error (.unexpectedEof n.toNat u.length), 0)
  | room n next, u =>
    if n.toNat ≤ u.length then next.outcome u
    else (.error (.unexpectedEof n.toNat u.length), 0)

theorem outcome_le (x : Reading α) (u : Bytes) : (x.outcome u).2 ≤ u.length := by
  induction x generalizing u with
  | done a => exact Nat.zero_le _
  | refuse e => exact Nat.zero_le _
  | part n next ih =>
      rw [outcome]
      split
      · next hn =>
        have hrest := ih (u.take n.toNat) (u.drop n.toNat)
        rw [List.length_drop] at hrest
        show n.toNat + ((next (u.take n.toNat)).outcome (u.drop n.toNat)).2 ≤ u.length
        omega
      · exact Nat.zero_le _
  | room n next ih =>
      rw [outcome]
      split
      · exact ih u
      · exact Nat.zero_le _

theorem outcome_andThen_ok {x : Reading α} {u : Bytes} {a : α} {k : Nat}
    (h : x.outcome u = (.ok a, k)) (next : α → Reading β) :
    (x.andThen next).outcome u =
      (((next a).outcome (u.drop k)).1, k + ((next a).outcome (u.drop k)).2) := by
  induction x generalizing u k with
  | done b =>
      cases h
      simp [andThen]
  | refuse e => cases h
  | part n rest ih =>
      rw [outcome] at h
      split at h
      · next hn =>
        obtain ⟨h₁, rfl⟩ := Prod.mk.inj h
        have hrest := ih (u.take n.toNat) (Prod.ext h₁ rfl)
        rw [andThen, outcome, if_pos hn, hrest, List.drop_drop, Nat.add_assoc]
      · cases h
  | room n rest ih =>
      rw [outcome] at h
      split at h
      · next hn => rw [andThen, outcome, if_pos hn, ih h]
      · cases h

theorem outcome_andThen_error {x : Reading α} {u : Bytes} {e : ProtocolError} {k : Nat}
    (h : x.outcome u = (.error e, k)) (next : α → Reading β) :
    (x.andThen next).outcome u = (.error e, k) := by
  induction x generalizing u k with
  | done b => cases h
  | refuse e' =>
      cases h
      rfl
  | part n rest ih =>
      rw [outcome] at h
      rw [andThen, outcome]
      split at h
      · next hn =>
        obtain ⟨h₁, rfl⟩ := Prod.mk.inj h
        rw [if_pos hn, ih (u.take n.toNat) (Prod.ext h₁ rfl)]
      · next hn =>
        cases h
        rw [if_neg hn]
  | room n rest ih =>
      rw [outcome] at h
      rw [andThen, outcome]
      split at h
      · next hn => rw [if_pos hn, ih h]
      · next hn =>
        cases h
        rw [if_neg hn]

/-! ## Readers -/

/-- A reader comes to what the octets ahead of it tell. -/
def Tells (x : Reading α) (read : Reader → Reader.Result α) : Prop :=
  ∀ p u, read ⟨p, u⟩ = ((x.outcome u).1, ⟨p + (x.outcome u).2, u.drop (x.outcome u).2⟩)

theorem tells_done (a : α) : Tells (done a) fun r ↦ (.ok a, r) := fun _ _ ↦ rfl

theorem tells_refuse (e : ProtocolError) : Tells (refuse e : Reading α) fun r ↦ (.error e, r) :=
  fun _ _ ↦ rfl

theorem Tells.andThen {x : Reading α} {read : Reader → Reader.Result α} {next : α → Reading β}
    {after : α → Reader → Reader.Result β} (h : x.Tells read)
    (hnext : ∀ a, (next a).Tells (after a)) :
    (x.andThen next).Tells fun r ↦ Reader.andThen (read r) after := by
  intro p u
  have hread := h p u
  cases hout : x.outcome u with
  | mk outcome k =>
      rw [hout] at hread
      cases outcome with
      | ok a =>
          simp only [hread, Reader.andThen, hnext a (p + k), outcome_andThen_ok hout,
            List.drop_drop, Nat.add_assoc]
      | error e => simp only [hread, Reader.andThen, outcome_andThen_error hout]

/-- What comes after a part need only be told of parts of its length. -/
theorem tells_part {n : UInt64} {next : Bytes → Reading α}
    {after : Bytes → Reader → Reader.Result α}
    (hnext : ∀ b, b.length = n.toNat → (next b).Tells (after b)) :
    (part n next).Tells fun r ↦ Reader.andThen (r.take n.toNat) after := by
  intro p u
  have hholds : u.holds n.toNat = true ↔ n.toNat ≤ u.length := Bytes.holds_iff u n.toNat
  by_cases hn : n.toNat ≤ u.length
  · have hlength : (u.take n.toNat).length = n.toNat := List.length_take_of_le hn
    have hrest := hnext _ hlength (p + n.toNat) (u.drop n.toNat)
    simp only [Reader.take, hholds.2 hn, if_true, Reader.andThen, hrest, outcome, hn,
      List.drop_drop, Nat.add_assoc]
  · have hshort : ¬ u.holds n.toNat = true := mt hholds.1 hn
    simp only [Reader.take, hshort, if_false, Reader.andThen, outcome, hn, Reader.remaining]
    rfl

theorem tells_take (n : UInt64) : (part n done).Tells (Reader.take n.toNat) := by
  have htells := tells_part fun b (_ : b.length = n.toNat) ↦ tells_done b
  simpa only [Reader.andThen_ok] using htells

theorem tells_room {n : UInt64} {x : Reading α} {read : Reader → Reader.Result α}
    (h : x.Tells read) : (room n x).Tells fun r ↦
      if r.unread.holds n.toNat then read r
      else (.error (.unexpectedEof n.toNat r.remaining), r) := by
  intro p u
  simp only [Bytes.holds_iff, outcome, Reader.remaining]
  split
  · exact h p u
  · rfl

theorem tells_scalar (kind : Scalar) : (scalar kind).Tells (Reader.scalar kind) := by
  have hwidth : (UInt64.ofNat kind.width).toNat = kind.width := by cases kind <;> rfl
  have htells := tells_part (n := .ofNat kind.width) fun b _ ↦
    tells_done (kind.ofNumber (Bytes.ofLE b))
  rwa [hwidth] at htells

theorem tells_bool : bool.Tells Reader.bool := by
  apply tells_part
  intro b hb
  obtain ⟨tag, rfl⟩ := List.length_eq_one_iff.1 hb
  by_cases hfalse : tag = 0
  · subst hfalse
    exact tells_done false
  · by_cases htrue : tag = 1
    · subst htrue
      exact tells_done true
    · intro p u
      simpa [hfalse, htrue] using tells_refuse (α := Bool) (.invalidBoolean tag) p u

/-- A count is below `2 ^ 32`, so it is the same number as a word. -/
theorem tells_count {next : UInt64 → Reading α} {after : Nat → Reader → Reader.Result α}
    (hnext : ∀ n : UInt64, (next n).Tells (after n.toNat)) :
    (count next).Tells fun r ↦ Reader.andThen r.count after := by
  simp only [Reader.count, Reader.andThen_assoc]
  apply tells_part (n := 4)
  intro b hb
  have hlt : Bytes.ofLE b < 4294967296 := by
    have hlt := Bytes.ofLE_lt b
    rwa [hb] at hlt
  have hword : (UInt64.ofNat (Bytes.ofLE b)).toNat = Bytes.ofLE b := by
    apply UInt64.toNat_ofNat_of_lt
    exact Nat.lt_trans hlt (by decide)
  have htells := hnext (.ofNat (Bytes.ofLE b))
  rwa [hword] at htells

theorem tells_blob : blob.Tells Reader.blob := tells_count tells_take

theorem tells_text : text.Tells Reader.text := by
  apply tells_blob.andThen
  intro b
  cases String.fromUTF8? ⟨b.toArray⟩ with
  | some s => exact tells_done s
  | none => exact tells_refuse .invalidStringEncoding

theorem tells_times {x : Reading α} {read : Reader → Reader.Result α} (h : x.Tells read)
    (n : Nat) (found : List α) : (times x n found).Tells (Reader.times read n found) := by
  induction n generalizing found with
  | zero => exact tells_done found.reverse
  | succ n ih =>
      intro p u
      rw [Reader.times_succ]
      exact h.andThen (fun a ↦ ih (a :: found)) p u

theorem tells_sequence {x : Reading α} {read : Reader → Reader.Result α} (h : x.Tells read) :
    (sequence x).Tells (Reader.sequence read) := by
  apply tells_count
  intro n
  exact tells_room (tells_times h n.toNat [])

theorem tells_option {x : Reading α} {read : Reader → Reader.Result α} (h : x.Tells read) :
    (option x).Tells (Reader.option read) := by
  apply tells_bool.andThen
  intro present
  cases present with
  | false => exact tells_done none
  | true => exact h.andThen fun a ↦ tells_done (some a)

theorem tells_value (t : WireType) : (value t).Tells (Reader.value t) := by
  induction t with
  | scalar kind => exact tells_scalar kind
  | bool => exact tells_bool
  | string => exact tells_text
  | bytes => exact tells_blob
  | vec element ih => exact tells_sequence ih
  | opt inner ih => exact tells_option ih

end Reading

/-! ## Cursors -/

/-- Octets in memory; there is room for them. -/
structure Slice where
  octets : Bytes
  room : octets.length ≤ Bytes.maxRoom

/-- What goes wrong where positions are words. -/
inductive Mishap
  | overflow
  | outOfRange
  /-- Octets are copied to room for more or for fewer. -/
  | unequal
  deriving DecidableEq, Repr

/-- A slice, all of which is kept, and the number of the next octet. -/
structure Cursor where
  slice : Slice
  position : UInt64

namespace Slice

variable (s : Slice)

theorem length_lt : s.octets.length < UInt64.size := by
  have hroom := s.room
  have hsize : Bytes.maxRoom < UInt64.size := by decide
  omega

theorem toNat_length : (UInt64.ofNat s.octets.length).toNat = s.octets.length :=
  UInt64.toNat_ofNat_of_lt s.length_lt

end Slice

namespace Cursor

def ahead (c : Cursor) : Bytes := c.slice.octets.drop c.position.toNat

/-- How many octets are left; none are left beyond the end. -/
def remaining (c : Cursor) : UInt64 :=
  let length := UInt64.ofNat c.slice.octets.length
  if c.position ≤ length then length - c.position else 0

/-- The next octets, from their first to their last. -/
def part (c : Cursor) (n : UInt64) : Except Mishap (Bytes × Cursor) :=
  if c.position.toNat + n.toNat < UInt64.size then
    let stop := c.position + n
    if c.position ≤ stop ∧ stop ≤ UInt64.ofNat c.slice.octets.length then
      let b := (c.slice.octets.take stop.toNat).drop c.position.toNat
      if b.length = n.toNat then .ok (b, { c with position := stop }) else .error .unequal
    else .error .outOfRange
  else .error .overflow

/-- The cursor behind some more octets. -/
def past (c : Cursor) (k : Nat) : Cursor := { c with position := .ofNat (c.position.toNat + k) }

/-- The position is within the slice. -/
def Inside (c : Cursor) : Prop := c.position.toNat ≤ c.slice.octets.length

section Inside

variable {c : Cursor}

theorem length_ahead (c : Cursor) :
    c.ahead.length = c.slice.octets.length - c.position.toNat := List.length_drop

theorem Inside.toNat_remaining (h : c.Inside) : c.remaining.toNat = c.ahead.length := by
  have hlength := c.slice.toNat_length
  have hle : c.position ≤ UInt64.ofNat c.slice.octets.length := by
    rwa [UInt64.le_iff_toNat_le, hlength]
  rw [remaining, if_pos hle, UInt64.toNat_sub_of_le _ _ hle, hlength, length_ahead]

theorem Inside.remaining_lt_iff (h : c.Inside) {n : UInt64} :
    c.remaining < n ↔ ¬ n.toNat ≤ c.ahead.length := by
  rw [UInt64.lt_iff_toNat_lt, h.toNat_remaining, Nat.not_le]

theorem Inside.toNat_past (h : c.Inside) {k : Nat} (hk : k ≤ c.ahead.length) :
    (c.past k).position.toNat = c.position.toNat + k := by
  have hlt := c.slice.length_lt
  have hinside : c.position.toNat ≤ c.slice.octets.length := h
  rw [length_ahead] at hk
  apply UInt64.toNat_ofNat_of_lt
  omega

theorem Inside.past (h : c.Inside) {k : Nat} (hk : k ≤ c.ahead.length) : (c.past k).Inside := by
  have hinside : c.position.toNat ≤ c.slice.octets.length := h
  have hpast := h.toNat_past hk
  rw [length_ahead] at hk
  show (c.past k).position.toNat ≤ c.slice.octets.length
  omega

theorem Inside.ahead_past (h : c.Inside) {k : Nat} (hk : k ≤ c.ahead.length) :
    (c.past k).ahead = c.ahead.drop k := by
  rw [ahead, h.toNat_past hk, ahead, List.drop_drop]
  rfl

theorem Inside.past_past (h : c.Inside) {k l : Nat} (hk : k ≤ c.ahead.length) :
    (c.past k).past l = c.past (k + l) := by
  apply congrArg (Cursor.mk c.slice)
  rw [h.toNat_past hk, Nat.add_assoc]

theorem past_zero (c : Cursor) : c.past 0 = c := by
  rw [past, Nat.add_zero, UInt64.ofNat_toNat]

/-- Where the octets are there, taking them meets no mishap. -/
theorem Inside.part_eq (h : c.Inside) {n : UInt64} (hn : n.toNat ≤ c.ahead.length) :
    c.part n = .ok (c.ahead.take n.toNat, c.past n.toNat) := by
  have hlt := c.slice.length_lt
  have hlength := c.slice.toNat_length
  have hinside : c.position.toNat ≤ c.slice.octets.length := h
  have hahead := c.length_ahead
  have hsum : c.position.toNat + n.toNat < UInt64.size := by omega
  have hstop : (c.position + n).toNat = c.position.toNat + n.toNat := by
    rw [UInt64.toNat_add]
    exact Nat.mod_eq_of_lt hsum
  have hrange : c.position ≤ c.position + n ∧
      c.position + n ≤ UInt64.ofNat c.slice.octets.length := by
    simp only [UInt64.le_iff_toNat_le, hstop, hlength]
    omega
  have hoctets : (c.slice.octets.take (c.position + n).toNat).drop c.position.toNat =
      c.ahead.take n.toNat := by
    rw [hstop, List.drop_take, Nat.add_sub_cancel_left, ahead]
  have hpast : c.position + n = .ofNat (c.position.toNat + n.toNat) := by
    rw [← hstop, UInt64.ofNat_toNat]
  have hequal : (c.ahead.take n.toNat).length = n.toNat := List.length_take_of_le hn
  simp only [part, hsum, hrange, hoctets, hequal, if_true, and_self]
  rw [Cursor.past, hpast]

end Inside

/-- Go through with a reading, with every step checked. -/
def scan {α : Type} : Reading α → Cursor → Except Mishap (Except ProtocolError α × Cursor)
  | .done a, c => .ok (.ok a, c)
  | .refuse e, c => .ok (.error e, c)
  | .part n next, c =>
    if c.remaining < n then .ok (.error (.unexpectedEof n.toNat c.remaining.toNat), c)
    else
      match c.part n with
      | .ok (b, c) => scan (next b) c
      | .error mishap => .error mishap
  | .room n next, c =>
    if c.remaining < n then .ok (.error (.unexpectedEof n.toNat c.remaining.toNat), c)
    else scan next c

/-- No mishap comes of any reading, and a cursor comes to what the octets ahead tell. -/
theorem Inside.scan_eq {α : Type} {c : Cursor} (h : c.Inside) (x : Reading α) :
    scan x c = .ok ((x.outcome c.ahead).1, c.past (x.outcome c.ahead).2) := by
  induction x generalizing c with
  | done a => rw [scan, Reading.outcome, past_zero]
  | refuse e => rw [scan, Reading.outcome, past_zero]
  | part n next ih =>
      rw [scan, Reading.outcome]
      by_cases hn : n.toNat ≤ c.ahead.length
      · rw [if_neg (mt h.remaining_lt_iff.1 (not_not.2 hn)), if_pos hn, h.part_eq hn]
        show scan (next (c.ahead.take n.toNat)) (c.past n.toNat) = _
        rw [ih _ (h.past hn), h.ahead_past hn, h.past_past hn]
      · rw [if_pos (h.remaining_lt_iff.2 hn), if_neg hn, past_zero, h.toNat_remaining]
  | room n next ih =>
      rw [scan, Reading.outcome]
      by_cases hn : n.toNat ≤ c.ahead.length
      · rw [if_neg (mt h.remaining_lt_iff.1 (not_not.2 hn)), if_pos hn, ih h]
      · rw [if_pos (h.remaining_lt_iff.2 hn), if_neg hn, past_zero, h.toNat_remaining]

end Cursor

end MessageEngine
