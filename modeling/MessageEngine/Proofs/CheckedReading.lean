import MessageEngine.Message
import MessageEngine.Proofs.WrittenValues

/-!
# Reading by position

A reader lets go of what it has read.  A scanner keeps all of its octets and
finds the next ones by number, so a slice might reach beyond them and an
index might miss them.  Here every slice, index and difference is checked,
and a scan that would go wrong ends in a fault.  No scan for a value does:
whatever the octets are, it comes to what a reader at the same place comes to.
-/

namespace MessageEngine

/-- What goes wrong when octets are looked for where they are not. -/
inductive Fault
  | outOfRange
  /-- A greater count is taken from a smaller one. -/
  | underflow
  /-- Octets are copied to room for more or for fewer. -/
  | unequal
  /-- A payload is decoded for a number without a type. -/
  | unregistered
  deriving DecidableEq, Repr

abbrev Checked := Except Fault

namespace Checked

def octet (b : Bytes) (i : Nat) : Checked UInt8 :=
  match b[i]? with
  | some x => .ok x
  | none => .error .outOfRange

/-- The octets from `start` on, those from `stop` on apart. -/
def slice (b : Bytes) (start stop : Nat) : Checked Bytes :=
  if start ≤ stop ∧ stop ≤ b.length then .ok ((b.take stop).drop start) else .error .outOfRange

def minus (m n : Nat) : Checked Nat := if n ≤ m then .ok (m - n) else .error .underflow

theorem slice_of_le {b : Bytes} {start stop : Nat} (h : start ≤ stop) (hstop : stop ≤ b.length) :
    slice b start stop = .ok ((b.drop start).take (stop - start)) := by
  simp [slice, h, hstop, List.drop_take]

theorem le_of_slice {b c : Bytes} {start stop : Nat} (h : slice b start stop = .ok c) :
    start ≤ stop ∧ stop ≤ b.length := by
  rw [slice] at h
  split at h
  · assumption
  · cases h

theorem minus_of_le {m n : Nat} (h : n ≤ m) : minus m n = .ok (m - n) := by
  simp [minus, h]

end Checked

/-- Octets, all of which are kept, and how many of them have been read. -/
structure Scanner where
  data : Bytes
  position : Nat := 0
  deriving DecidableEq, Repr

namespace Scanner

def remaining (s : Scanner) : Nat := s.data.length - s.position

theorem remaining_within (b : Bytes) (i : Nat) :
    (Reader.within b i).remaining = (Scanner.mk b i).remaining := List.length_drop

theorem hasRemaining_within (b : Bytes) (i : Nat) :
    (Reader.within b i).hasRemaining = decide ((Scanner.mk b i).remaining > 0) := by
  rw [← remaining_within, Reader.hasRemaining, Reader.remaining]
  cases (Reader.within b i).unread <;> simp

end Scanner

/-- A read with every access checked: its outcome, and the scanner that it leaves behind. -/
abbrev Scan (α : Type) := Scanner → Checked (Except ProtocolError α × Scanner)

namespace Scan

def done {α : Type} (a : α) : Scan α := fun s ↦ .ok (.ok a, s)

def refuse {α : Type} (e : ProtocolError) : Scan α := fun s ↦ .ok (.error e, s)

def andThen {α β : Type} (scan : Scan α) (next : α → Scan β) : Scan β := fun s ↦
  match scan s with
  | .ok (.ok a, s) => next a s
  | .ok (.error e, s) => .ok (.error e, s)
  | .error fault => .error fault

/-- The next `n` octets. -/
def raw (n : Nat) : Scan Bytes := fun s ↦
  if s.remaining < n then .ok (.error (.unexpectedEof n s.remaining), s)
  else
    match Checked.slice s.data s.position (s.position + n) with
    | .ok b => .ok (.ok b, { s with position := s.position + n })
    | .error fault => .error fault

/-- The next octets, copied to an array of `n`. -/
def array (n : Nat) : Scan Bytes :=
  andThen (raw n) fun b ↦ if b.length = n then done b else fun _ ↦ .error .unequal

def octet : Scan UInt8 :=
  andThen (array 1) fun b s ↦ (Checked.octet b 0).map fun x ↦ (.ok x, s)

/-- A scalar of one octet is that octet; any other is made of an array. -/
def scalar (kind : Scalar) : Scan kind.Value :=
  if kind.width = 1 then andThen octet fun x ↦ done (kind.ofNumber x.toNat)
  else andThen (array kind.width) fun b ↦ done (kind.ofNumber (Bytes.ofLE b))

def bool : Scan Bool :=
  andThen octet fun x ↦
    if x = 0 then done false else if x = 1 then done true else refuse (.invalidBoolean x)

def count : Scan Nat := andThen (array 4) fun b ↦ done (Bytes.ofLE b)

def blob : Scan Bytes := andThen count raw

def text : Scan String :=
  andThen blob fun b ↦
    match String.fromUTF8? ⟨b.toArray⟩ with
    | some s => done s
    | none => refuse .invalidStringEncoding

def times {α : Type} (scan : Scan α) : Nat → List α → Scan (List α)
  | 0, found => done found.reverse
  | n + 1, found => andThen scan fun a ↦ times scan n (a :: found)

def sequence {α : Type} (scan : Scan α) : Scan (List α) :=
  andThen count fun n s ↦
    if n > s.remaining then .ok (.error (.unexpectedEof n s.remaining), s) else times scan n [] s

def option {α : Type} (scan : Scan α) : Scan (Option α) :=
  andThen bool fun present ↦
    if present then andThen scan fun a ↦ done (some a) else done none

def value : (t : WireType) → Scan t.Value
  | .scalar kind => scalar kind
  | .bool => bool
  | .string => text
  | .bytes => blob
  | .vec element => sequence (value element)
  | .opt inner => option (value inner)

def fields : (fs : List Field) → Scan (Fields fs)
  | [] => done ()
  | f :: rest => andThen (value f.type) fun v ↦ andThen (fields rest) fun vs ↦ done (v, vs)

def message (t : MessageType) : Scan Message := andThen (fields t.fields) fun fs ↦ done ⟨t, fs⟩

/-- From any place within any octets a scan comes to what a read comes to, at the same place
behind it, and meets no fault. -/
def Follows {α : Type} (scan : Scan α) (read : Reader → Reader.Result α) : Prop :=
  ∀ (b : Bytes) (i : Nat), i ≤ b.length → ∃ out, ∃ j ≤ b.length,
    read (Reader.within b i) = (out, Reader.within b j) ∧ scan ⟨b, i⟩ = .ok (out, ⟨b, j⟩)

section Follows

variable {α β : Type}

theorem follows_done (a : α) : Follows (done a) fun r ↦ (.ok a, r) := by
  intro b i hi
  exact ⟨.ok a, i, hi, rfl, rfl⟩

theorem follows_refuse (e : ProtocolError) :
    Follows (refuse e : Scan α) fun r ↦ (.error e, r) := by
  intro b i hi
  exact ⟨.error e, i, hi, rfl, rfl⟩

theorem Follows.andThen {scan : Scan α} {read : Reader → Reader.Result α} {next : α → Scan β}
    {after : α → Reader → Reader.Result β} (h : Follows scan read)
    (hnext : ∀ a, Follows (next a) (after a)) :
    Follows (scan.andThen next) fun r ↦ Reader.andThen (read r) after := by
  intro b i hi
  obtain ⟨out, j, hj, hread, hscan⟩ := h b i hi
  cases out with
  | error e =>
      refine ⟨.error e, j, hj, ?_, ?_⟩
      · simp only [hread, Reader.andThen]
      · simp only [Scan.andThen, hscan]
  | ok a =>
      obtain ⟨out, k, hk, hread', hscan'⟩ := hnext a b j hj
      refine ⟨out, k, hk, ?_, ?_⟩
      · simp only [hread, Reader.andThen, hread']
      · simp only [Scan.andThen, hscan, hscan']

theorem holds_drop_iff (b : Bytes) (i n : Nat) :
    Bytes.holds (b.drop i) n = true ↔ n ≤ b.length - i := by
  rw [Bytes.holds_iff, List.length_drop]

/-- The octets asked for are there, and there are as many of them, or neither side has them. -/
theorem raw_within (n : Nat) {b : Bytes} {i : Nat} (hi : i ≤ b.length) :
    (∃ c, c.length = n ∧ i + n ≤ b.length ∧
      (Reader.within b i).take n = (.ok c, Reader.within b (i + n)) ∧
      raw n ⟨b, i⟩ = .ok (.ok c, ⟨b, i + n⟩)) ∨
    ∃ e, (Reader.within b i).take n = (.error e, Reader.within b i) ∧
      raw n ⟨b, i⟩ = .ok (.error e, ⟨b, i⟩) := by
  by_cases hn : b.length - i < n
  · have hshort : ¬ Bytes.holds (b.drop i) n = true := by
      rw [holds_drop_iff]
      omega
    refine .inr ⟨.unexpectedEof n (b.length - i), ?_, ?_⟩
    · simp [Reader.take, Reader.within, Reader.remaining, hshort]
    · simp [raw, Scanner.remaining, hn]
  · have hholds : Bytes.holds (b.drop i) n = true := (holds_drop_iff b i n).2 (by omega)
    have hslice := Checked.slice_of_le (b := b) (Nat.le_add_right i n) (by omega : i + n ≤ b.length)
    rw [Nat.add_sub_cancel_left] at hslice
    refine .inl ⟨(b.drop i).take n, ?_, by omega, ?_, ?_⟩
    · rw [List.length_take, List.length_drop]
      omega
    · simp [Reader.take, Reader.within, hholds]
    · simp [raw, Scanner.remaining, hn, hslice]

theorem follows_raw (n : Nat) : Follows (raw n) (Reader.take n) := by
  intro b i hi
  rcases raw_within n hi with ⟨c, -, hn, hread, hscan⟩ | ⟨e, hread, hscan⟩
  · exact ⟨.ok c, i + n, hn, hread, hscan⟩
  · exact ⟨.error e, i, hi, hread, hscan⟩

/-- What comes after an array need only be followed for arrays of its size. -/
theorem follows_array_andThen {n : Nat} {next : Bytes → Scan β}
    {after : Bytes → Reader → Reader.Result β}
    (hnext : ∀ c, c.length = n → Follows (next c) (after c)) :
    Follows ((array n).andThen next) fun r ↦ Reader.andThen (r.take n) after := by
  intro b i hi
  rcases raw_within n hi with ⟨c, hc, hn, hread, hscan⟩ | ⟨e, hread, hscan⟩
  · obtain ⟨out, j, hj, hread', hscan'⟩ := hnext c hc b (i + n) hn
    refine ⟨out, j, hj, ?_, ?_⟩
    · simp only [hread, Reader.andThen, hread']
    · simp only [array, Scan.andThen, hscan, hc, if_true, done, hscan']
  · refine ⟨.error e, i, hi, ?_, ?_⟩
    · simp only [hread, Reader.andThen]
    · simp only [array, Scan.andThen, hscan]

theorem follows_octet_andThen {next : UInt8 → Scan β} {after : Bytes → Reader → Reader.Result β}
    (hnext : ∀ x, Follows (next x) (after [x])) :
    Follows (octet.andThen next) fun r ↦ Reader.andThen (r.take 1) after := by
  have hsame : octet.andThen next =
      (array 1).andThen fun c ↦
        Scan.andThen (fun s ↦ (Checked.octet c 0).map fun x ↦ (.ok x, s)) next := by
    funext s
    simp only [octet, Scan.andThen]
    cases array 1 s with
    | error fault => rfl
    | ok found =>
        obtain ⟨out, s⟩ := found
        cases out <;> rfl
  rw [hsame]
  apply follows_array_andThen
  intro c hc
  obtain ⟨x, rfl⟩ := List.length_eq_one_iff.1 hc
  exact hnext x

theorem follows_scalar (kind : Scalar) : Follows (scalar kind) (Reader.scalar kind) := by
  by_cases hone : kind.width = 1
  · have hread : Reader.scalar kind = fun r ↦ Reader.andThen (r.take 1) fun b r ↦
        (.ok (kind.ofNumber (Bytes.ofLE b)), r) := by
      funext r
      rw [Reader.scalar, hone]
    rw [scalar, if_pos hone, hread]
    apply follows_octet_andThen
    intro x
    exact follows_done (kind.ofNumber x.toNat)
  · rw [scalar, if_neg hone]
    apply follows_array_andThen
    intro c _
    exact follows_done (kind.ofNumber (Bytes.ofLE c))

theorem follows_bool : Follows bool Reader.bool := by
  apply follows_octet_andThen
  intro x
  by_cases hfalse : x = 0
  · subst hfalse
    exact follows_done false
  · by_cases htrue : x = 1
    · subst htrue
      exact follows_done true
    · have hother := follows_refuse (α := Bool) (.invalidBoolean x)
      intro b i hi
      obtain ⟨out, j, hj, hread, hscan⟩ := hother b i hi
      refine ⟨out, j, hj, ?_, ?_⟩
      · simpa [hfalse, htrue] using hread
      · simpa [hfalse, htrue] using hscan

theorem follows_count : Follows count Reader.count := by
  apply follows_array_andThen
  intro c _
  exact follows_done (Bytes.ofLE c)

theorem follows_blob : Follows blob Reader.blob := follows_count.andThen follows_raw

theorem follows_text : Follows text Reader.text := by
  apply follows_blob.andThen
  intro c
  cases String.fromUTF8? ⟨c.toArray⟩ with
  | some s => exact follows_done s
  | none => exact follows_refuse .invalidStringEncoding

theorem follows_times {scan : Scan α} {read : Reader → Reader.Result α} (h : Follows scan read)
    (n : Nat) (found : List α) : Follows (times scan n found) (Reader.times read n found) := by
  induction n generalizing found with
  | zero => exact follows_done found.reverse
  | succ n ih => exact h.andThen fun a ↦ ih (a :: found)

theorem follows_sequence {scan : Scan α} {read : Reader → Reader.Result α}
    (h : Follows scan read) : Follows (sequence scan) (Reader.sequence read) := by
  apply follows_count.andThen
  intro n b i hi
  by_cases hn : n > b.length - i
  · have hshort : ¬ Bytes.holds (b.drop i) n = true := by
      rw [holds_drop_iff]
      omega
    refine ⟨.error (.unexpectedEof n (b.length - i)), i, hi, ?_, ?_⟩
    · simp [Reader.within, Reader.remaining, hshort]
    · simp [Scanner.remaining, hn]
  · have hholds : Bytes.holds (b.drop i) n = true := (holds_drop_iff b i n).2 (by omega)
    obtain ⟨out, j, hj, hread, hscan⟩ := follows_times h n [] b i hi
    refine ⟨out, j, hj, ?_, ?_⟩
    · simpa [Reader.within, hholds] using hread
    · simpa [Scanner.remaining, hn] using hscan

theorem follows_option {scan : Scan α} {read : Reader → Reader.Result α}
    (h : Follows scan read) : Follows (option scan) (Reader.option read) := by
  apply follows_bool.andThen
  intro present
  cases present with
  | false => exact follows_done none
  | true => exact h.andThen fun a ↦ follows_done (some a)

theorem follows_value (t : WireType) : Follows (value t) (Reader.value t) := by
  induction t with
  | scalar kind => exact follows_scalar kind
  | bool => exact follows_bool
  | string => exact follows_text
  | bytes => exact follows_blob
  | vec element ih => exact follows_sequence ih
  | opt inner ih => exact follows_option ih

theorem follows_fields (fs : List Field) : Follows (fields fs) (Fields.read fs) := by
  induction fs with
  | nil => exact follows_done ()
  | cons f rest ih =>
      apply (follows_value f.type).andThen
      intro v
      exact ih.andThen fun vs ↦ follows_done (v, vs)

theorem follows_message (t : MessageType) : Follows (message t) t.read :=
  (follows_fields t.fields).andThen fun fs ↦ follows_done (Message.mk t fs)

end Follows

end Scan

end MessageEngine
