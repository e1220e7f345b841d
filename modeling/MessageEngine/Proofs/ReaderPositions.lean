import Mathlib
import MessageEngine.Proofs.PartwiseReading

/-!
# Where a read ends that fails

A read that fails ends behind the last part of the value that was there in
full: nothing of a scalar, the tag that is none, the length in front of what
is missing, the octets that are no text, the elements before the one that
fails.  `WireType.Stops` tells these places and the errors that go with them
from the octets alone.  Whatever is read on from there, the position never
falls and never leaves the octets, and no step of the way goes wrong.
-/

namespace MessageEngine

theorem Bytes.drop_four_le (n : Nat) (rest : Bytes) : (Bytes.le 4 n ++ rest).drop 4 = rest :=
  List.drop_left' (Bytes.length_le 4 n)

/-! ## Places of failure -/

/-- A length is not there, or not as much as it says behind it. -/
inductive Bytes.Lacks : Bytes → ProtocolError → Nat → Prop
  | length {u : Bytes} (short : u.length < 4) : Lacks u (.unexpectedEof 4 u.length) 0
  | content {n : Nat} {rest : Bytes} (hn : n < UInt32.size) (short : rest.length < n) :
      Lacks (Bytes.le 4 n ++ rest) (.unexpectedEof n rest.length) 4

/-- Octets that do not begin with a value, the error that reports it, and how many of them are
taken before. -/
inductive WireType.Stops : WireType → Bytes → ProtocolError → Nat → Prop
  | scalar {kind : Scalar} {u : Bytes} (short : u.length < kind.width) :
      Stops (.scalar kind) u (.unexpectedEof kind.width u.length) 0
  | noTag : Stops .bool [] (.unexpectedEof 1 0) 0
  | badTag {tag : UInt8} (h0 : tag ≠ 0) (h1 : tag ≠ 1) (rest : Bytes) :
      Stops .bool (tag :: rest) (.invalidBoolean tag) 1
  | bytes {u : Bytes} {e : ProtocolError} {k : Nat} (h : u.Lacks e k) : Stops .bytes u e k
  | string {u : Bytes} {e : ProtocolError} {k : Nat} (h : u.Lacks e k) : Stops .string u e k
  | notText {b : Bytes} (fits : b.length < UInt32.size) (h : ∀ s : String, utf8 s ≠ b)
      (rest : Bytes) : Stops .string (b.sized ++ rest) .invalidStringEncoding b.sized.length
  /-- Every element takes an octet, so a count is held against the octets left. -/
  | vec {element : WireType} {u : Bytes} {e : ProtocolError} {k : Nat} (h : u.Lacks e k) :
      Stops (.vec element) u e k
  | element {t : WireType} {n : Nat} {vs : List t.Value} {rest : Bytes} {e : ProtocolError}
      {k : Nat} (hn : n < UInt32.size) (room : n ≤ (vs.flatMap t.encode ++ rest).length)
      (more : vs.length < n) (fits : ∀ v ∈ vs, t.Fits v) (h : Stops t rest e k) :
      Stops (.vec t) (Bytes.le 4 n ++ (vs.flatMap t.encode ++ rest)) e
        (4 + ((vs.flatMap t.encode).length + k))
  | opt {inner : WireType} {u : Bytes} {e : ProtocolError} {k : Nat} (h : Stops .bool u e k) :
      Stops (.opt inner) u e k
  | inner {t : WireType} {u : Bytes} {e : ProtocolError} {k : Nat} (h : Stops t u e k) :
      Stops (.opt t) (1 :: u) e (1 + k)

namespace Reader

section

variable {α β : Type} {r r' : Reader} {e : ProtocolError}

theorem andThen_eq_error {x : Result α} {next : α → Reader → Result β}
    (h : andThen x next = (.error e, r')) :
    x = (.error e, r') ∨ ∃ a r₁, x = (.ok a, r₁) ∧ next a r₁ = (.error e, r') := by
  obtain ⟨outcome, r₁⟩ := x
  cases outcome with
  | error e' =>
      cases h
      exact .inl rfl
  | ok a => exact .inr ⟨a, r₁, rfl, h⟩

theorem take_eq_error {n : Nat} (h : r.take n = (.error e, r')) :
    r' = r ∧ r.unread.length < n ∧ e = .unexpectedEof n r.unread.length := by
  rw [take] at h
  split at h
  · cases h
  · next hshort =>
    cases h
    exact ⟨rfl, (Bytes.not_holds_iff _ _).1 hshort, rfl⟩

/-- A read that fails ends behind octets that lie in front of the failure. -/
def FailsAt (r r' : Reader) (stops : Bytes → Nat → Prop) : Prop :=
  ∃ front, r.Passes front r' ∧ stops r.unread front.length

theorem scalar_eq_error {kind : Scalar} (h : r.scalar kind = (.error e, r')) :
    r.FailsAt r' fun u ↦ (WireType.scalar kind).Stops u e := by
  rcases andThen_eq_error h with htake | ⟨b, r₁, -, hb⟩
  · obtain ⟨rfl, hshort, rfl⟩ := take_eq_error htake
    exact ⟨[], .nil _, .scalar hshort⟩
  · cases hb

theorem bool_eq_error (h : r.bool = (.error e, r')) :
    r.FailsAt r' fun u ↦ WireType.bool.Stops u e := by
  rcases andThen_eq_error h with htake | ⟨b, r₁, htake, hb⟩
  · obtain ⟨rfl, hshort, rfl⟩ := take_eq_error htake
    have hnil : r'.unread = [] := List.eq_nil_of_length_eq_zero (by omega)
    refine ⟨[], .nil _, ?_⟩
    rw [hnil]
    exact .noTag
  · obtain ⟨hlength, hpasses⟩ := take_eq_ok htake
    obtain ⟨tag, rfl⟩ := List.length_eq_one_iff.1 hlength
    split at hb
    · cases hb
    · cases hb
    · next hfalse htrue =>
      cases hb
      refine ⟨[tag], hpasses, ?_⟩
      rw [hpasses.unread]
      refine .badTag ?_ ?_ _
      · rintro rfl
        exact hfalse rfl
      · rintro rfl
        exact htrue rfl

theorem count_eq_error (h : r.count = (.error e, r')) : r.FailsAt r' fun u ↦ u.Lacks e := by
  rcases andThen_eq_error h with htake | ⟨b, r₁, -, hb⟩
  · obtain ⟨rfl, hshort, rfl⟩ := take_eq_error htake
    exact ⟨[], .nil _, .length hshort⟩
  · cases hb

theorem lacks_of_count {n : Nat} (h : r.count = (.ok n, r')) (hshort : r'.unread.length < n) :
    r.FailsAt r' fun u ↦ u.Lacks (.unexpectedEof n r'.unread.length) := by
  have hpasses := count_eq_ok h
  refine ⟨_, hpasses, ?_⟩
  rw [hpasses.unread, Bytes.length_le]
  exact .content (count_lt h) hshort

theorem blob_eq_error (h : r.blob = (.error e, r')) : r.FailsAt r' fun u ↦ u.Lacks e := by
  rcases andThen_eq_error h with hcount | ⟨n, r₁, hcount, htake⟩
  · exact count_eq_error hcount
  · obtain ⟨rfl, hshort, rfl⟩ := take_eq_error htake
    exact lacks_of_count hcount hshort

theorem text_eq_error (h : r.text = (.error e, r')) :
    r.FailsAt r' fun u ↦ WireType.string.Stops u e := by
  rcases andThen_eq_error h with hblob | ⟨b, r₁, hblob, hb⟩
  · obtain ⟨front, hpasses, hlacks⟩ := blob_eq_error hblob
    exact ⟨front, hpasses, .string hlacks⟩
  · have hpasses := blob_eq_ok hblob
    split at hb
    · cases hb
    · next hnone =>
      cases hb
      refine ⟨_, hpasses, ?_⟩
      rw [hpasses.unread]
      refine .notText (length_blob_lt hblob) ?_ _
      rintro s rfl
      rw [fromUTF8?_utf8] at hnone
      cases hnone

/-- The elements in front of the one that fails are read. -/
theorem times_eq_error {read : Reader → Result α} {encode : α → Bytes} {P : α → Prop}
    (hread : ∀ {r v r'}, read r = (.ok v, r') → r.Passes (encode v) r' ∧ P v) {n : Nat}
    {found : List α} (h : times read n found r = (.error e, r')) :
    ∃ (vs : List α) (r₁ : Reader), vs.length < n ∧ (∀ v ∈ vs, P v) ∧
      r.Passes (vs.flatMap encode) r₁ ∧ read r₁ = (.error e, r') := by
  induction n generalizing r found with
  | zero => cases h
  | succ n ih =>
      rw [times_succ] at h
      rcases andThen_eq_error h with hfirst | ⟨v, r₁, hfirst, hothers⟩
      · exact ⟨[], r, Nat.succ_pos n, by simp, .nil r, hfirst⟩
      · obtain ⟨vs, r₂, hlt, hvs, hpasses, hfails⟩ := ih hothers
        obtain ⟨hpassed, hv⟩ := hread hfirst
        exact ⟨v :: vs, r₂, Nat.succ_lt_succ hlt, List.forall_mem_cons.2 ⟨hv, hvs⟩,
          hpassed.append hpasses, hfails⟩

end

theorem value_eq_error {t : WireType} {r r' : Reader} {e : ProtocolError}
    (h : r.value t = (.error e, r')) : r.FailsAt r' fun u ↦ t.Stops u e := by
  induction t generalizing r r' e with
  | scalar kind => exact scalar_eq_error h
  | bool => exact bool_eq_error h
  | string => exact text_eq_error h
  | bytes =>
      obtain ⟨front, hpasses, hlacks⟩ := blob_eq_error h
      exact ⟨front, hpasses, .bytes hlacks⟩
  | vec element ih =>
      rcases andThen_eq_error h with hcount | ⟨n, r₁, hcount, hrest⟩
      · obtain ⟨front, hpasses, hlacks⟩ := count_eq_error hcount
        exact ⟨front, hpasses, .vec hlacks⟩
      · split at hrest
        · next hholds =>
          obtain ⟨vs, r₂, hmore, hfits, hpasses, hfails⟩ := times_eq_error
            (fun hread ↦ ⟨value_eq_ok hread, fits_of_value hread⟩) hrest
          obtain ⟨front, hpasses', hstops⟩ := ih hfails
          have hpassed := count_eq_ok hcount
          have hroom := (Bytes.holds_iff _ _).1 hholds
          rw [hpasses.unread] at hroom
          refine ⟨_, hpassed.append (hpasses.append hpasses'), ?_⟩
          rw [hpassed.unread, hpasses.unread]
          simpa using WireType.Stops.element (count_lt hcount) hroom hmore hfits hstops
        · next hshort =>
          cases hrest
          obtain ⟨front, hpasses, hlacks⟩ :=
            lacks_of_count hcount ((Bytes.not_holds_iff _ _).1 hshort)
          exact ⟨front, hpasses, .vec hlacks⟩
  | opt inner ih =>
      rcases andThen_eq_error h with htag | ⟨present, r₁, htag, hrest⟩
      · obtain ⟨front, hpasses, hstops⟩ := bool_eq_error htag
        exact ⟨front, hpasses, .opt hstops⟩
      · have hpassed := bool_eq_ok htag
        cases present with
        | false => cases hrest
        | true =>
            rcases andThen_eq_error hrest with hvalue | ⟨a, r₂, -, ha⟩
            · obtain ⟨front, hpasses, hstops⟩ := ih hvalue
              refine ⟨_, hpassed.append hpasses, ?_⟩
              rw [hpassed.unread]
              simpa [Nat.add_comm] using WireType.Stops.inner hstops
            · cases ha

/-! ## Every such place is one -/

section

variable {e : ProtocolError} {u : Bytes} {k : Nat} (p : Nat)

theorem blob_of_lacks (h : u.Lacks e k) :
    (Reader.mk p u).blob = (.error e, ⟨p + k, u.drop k⟩) := by
  cases h with
  | length short =>
      rw [blob, count, take_of_short short]
      rfl
  | @content n rest hn short =>
      rw [blob, count_append p rest hn, Bytes.drop_four_le]
      exact take_of_short short

theorem sequence_of_lacks {α : Type} (read : Reader → Result α) (h : u.Lacks e k) :
    sequence read ⟨p, u⟩ = (.error e, ⟨p + k, u.drop k⟩) := by
  cases h with
  | length short =>
      rw [sequence, count, take_of_short short]
      rfl
  | @content n rest hn short =>
      have hshort := (Bytes.not_holds_iff rest n).2 short
      rw [sequence_of_count p rest read hn, if_neg hshort, Bytes.drop_four_le]

theorem bool_of_stops (h : WireType.bool.Stops u e k) :
    (Reader.mk p u).bool = (.error e, ⟨p + k, u.drop k⟩) := by
  cases h with
  | noTag => rfl
  | badTag h0 h1 rest => exact bool_cons_of_ne p rest h0 h1

theorem value_of_stops {t : WireType} (h : t.Stops u e k) :
    (Reader.mk p u).value t = (.error e, ⟨p + k, u.drop k⟩) := by
  induction h generalizing p with
  | scalar short =>
      rw [value, scalar, take_of_short short]
      rfl
  | noTag => rfl
  | badTag h0 h1 rest => exact bool_cons_of_ne p rest h0 h1
  | bytes hlacks => exact blob_of_lacks p hlacks
  | string hlacks =>
      rw [value, text, blob_of_lacks p hlacks]
      rfl
  | notText hfits hnone rest =>
      rw [value, text_of_not_utf8 p rest hfits hnone, List.drop_left]
  | vec hlacks => exact sequence_of_lacks p _ hlacks
  | @element t n vs rest e k hn hroom hmore hfits _ ih =>
      have hholds := (Bytes.holds_iff _ _).2 hroom
      have hfails := times_append_error (p + 4) rest
        (fun v hv p s ↦ value_append p s t v (hfits v hv)) hmore []
        (ih (p + 4 + (vs.flatMap t.encode).length))
      rw [value, sequence_of_count p _ _ hn, if_pos hholds, hfails]
      simp only [Nat.add_assoc, ← List.drop_drop, Bytes.drop_four_le, List.drop_left]
  | opt htag ih =>
      rw [value, option, bool_of_stops p htag]
      rfl
  | inner _ ih =>
      rw [value, option_cons_one, ih (p + 1), Nat.add_assoc, Nat.add_comm 1, List.drop_succ_cons]
      rfl

end

end Reader

/-! ## What is missing -/

/-- A failure for want of octets counts those that are left where the read ends. -/
def Counts (u : Bytes) (e : ProtocolError) (k : Nat) : Prop :=
  ∀ needed left, e = .unexpectedEof needed left → left + k = u.length ∧ left < needed

theorem Counts.append {u : Bytes} {e : ProtocolError} {k : Nat} (h : Counts u e k) (front : Bytes) :
    Counts (front ++ u) e (front.length + k) := by
  intro needed left he
  have hcounts := h needed left he
  rw [List.length_append]
  omega

theorem Counts.short {u : Bytes} {n : Nat} (h : u.length < n) :
    Counts u (.unexpectedEof n u.length) 0 := by
  rintro needed left ⟨⟩
  exact ⟨rfl, h⟩

theorem Bytes.Lacks.counts {u : Bytes} {e : ProtocolError} {k : Nat} (h : u.Lacks e k) :
    Counts u e k := by
  cases h with
  | length short => exact .short short
  | @content n rest hn short =>
      have hcounts := (Counts.short short).append (Bytes.le 4 n)
      rwa [Bytes.length_le] at hcounts

theorem WireType.Stops.counts {t : WireType} {u : Bytes} {e : ProtocolError} {k : Nat}
    (h : t.Stops u e k) : Counts u e k := by
  induction h with
  | scalar short => exact .short short
  | noTag => exact .short Nat.zero_lt_one
  | badTag h0 h1 rest => exact fun _ _ he ↦ nomatch he
  | notText hfits hnone rest => exact fun _ _ he ↦ nomatch he
  | bytes hlacks | string hlacks | vec hlacks => exact hlacks.counts
  | @element t n vs rest e k hn hroom hmore hfits _ ih =>
      have hcounts := (ih.append (vs.flatMap t.encode)).append (Bytes.le 4 n)
      rwa [Bytes.length_le] at hcounts
  | opt _ ih => exact ih
  | inner _ ih => exact ih.append [1]

/-! ## One read after the other -/

/-- What can be read: a value, or a number of octets. -/
inductive ReadOp
  | value (t : WireType)
  | raw (n : UInt64)

namespace ReadOp

abbrev Value : ReadOp → Type
  | value t => t.Value
  | raw _ => Bytes

def read : (op : ReadOp) → Reader → Reader.Result op.Value
  | value t => Reader.value t
  | raw n => Reader.take n.toNat

def reading : (op : ReadOp) → Reading op.Value
  | value t => .value t
  | raw n => .part n .done

inductive Stops : ReadOp → Bytes → ProtocolError → Nat → Prop
  | value {t : WireType} {u : Bytes} {e : ProtocolError} {k : Nat} (h : t.Stops u e k) :
      Stops (.value t) u e k
  | raw {n : UInt64} {u : Bytes} (short : u.length < n.toNat) :
      Stops (.raw n) u (.unexpectedEof n.toNat u.length) 0

theorem tells (op : ReadOp) : op.reading.Tells op.read := by
  cases op with
  | value t => exact Reading.tells_value t
  | raw n => exact Reading.tells_take n

theorem Stops.counts {op : ReadOp} {u : Bytes} {e : ProtocolError} {k : Nat}
    (h : op.Stops u e k) : Counts u e k := by
  cases h with
  | value hstops => exact hstops.counts
  | raw short => exact .short short

theorem read_of_stops {op : ReadOp} {u : Bytes} {e : ProtocolError} {k : Nat} (p : Nat)
    (h : op.Stops u e k) : op.read ⟨p, u⟩ = (.error e, ⟨p + k, u.drop k⟩) := by
  cases h with
  | value hstops => exact Reader.value_of_stops p hstops
  | raw short => exact Reader.take_of_short short

theorem read_eq_error {op : ReadOp} {r r' : Reader} {e : ProtocolError}
    (h : op.read r = (.error e, r')) : r.FailsAt r' fun u ↦ op.Stops u e := by
  cases op with
  | value t =>
      obtain ⟨front, hpasses, hstops⟩ := Reader.value_eq_error h
      exact ⟨front, hpasses, .value hstops⟩
  | raw n =>
      obtain ⟨rfl, hshort, rfl⟩ := Reader.take_eq_error h
      exact ⟨[], .nil _, .raw hshort⟩

theorem outcome_eq_error_iff {op : ReadOp} {u : Bytes} {e : ProtocolError} {k : Nat} :
    op.reading.outcome u = (.error e, k) ↔ op.Stops u e k := by
  have hread := op.tells 0 u
  constructor
  · intro hout
    rw [hout] at hread
    obtain ⟨front, hpasses, hstops⟩ := read_eq_error hread
    have hposition : 0 + k = 0 + front.length := hpasses.position
    obtain rfl : k = front.length := by omega
    exact hstops
  · intro hstops
    rw [read_of_stops 0 hstops, Prod.mk.injEq, Reader.mk.injEq] at hread
    obtain ⟨herror, hposition, -⟩ := hread
    exact Prod.ext herror.symm (by omega)

end ReadOp

/-- The reader after some reads, whether they succeeded or not. -/
def Reader.reads (r : Reader) (ops : List ReadOp) : Reader :=
  ops.foldl (fun r op ↦ (op.read r).2) r

namespace Cursor

/-- The cursor after some reads, whether they succeeded or not, unless there is a mishap. -/
def reads (c : Cursor) : List ReadOp → Except Mishap Cursor
  | [] => .ok c
  | op :: ops =>
    match c.scan op.reading with
    | .ok (_, c) => c.reads ops
    | .error mishap => .error mishap

/-- The reader at the same place. -/
def reader (c : Cursor) : Reader := .within c.slice.octets c.position.toNat

section Inside

variable {c : Cursor}

theorem Inside.reader_past (h : c.Inside) {k : Nat} (hk : k ≤ c.ahead.length) :
    (c.past k).reader = ⟨c.position.toNat + k, c.ahead.drop k⟩ := by
  rw [reader, Reader.within, h.toNat_past hk, ← List.drop_drop]
  rfl

/-- A read takes a reader and a cursor at one place to one place. -/
theorem Inside.read_reader (h : c.Inside) (op : ReadOp) :
    op.read c.reader =
      ((op.reading.outcome c.ahead).1, (c.past (op.reading.outcome c.ahead).2).reader) := by
  rw [h.reader_past (Reading.outcome_le _ _)]
  exact op.tells c.position.toNat c.ahead

theorem Inside.reads (h : c.Inside) (ops : List ReadOp) :
    ∃ k ≤ c.ahead.length, c.reads ops = .ok (c.past k) ∧
      c.reader.reads ops = (c.past k).reader := by
  induction ops generalizing c with
  | nil => exact ⟨0, Nat.zero_le _, by rw [Cursor.reads, past_zero], by rw [past_zero]; rfl⟩
  | cons op ops ih =>
      have hk : (op.reading.outcome c.ahead).2 ≤ c.ahead.length := Reading.outcome_le _ _
      obtain ⟨l, hl, hcursor, hreader⟩ := ih (h.past hk)
      rw [h.ahead_past hk, List.length_drop] at hl
      rw [h.past_past hk] at hcursor hreader
      refine ⟨(op.reading.outcome c.ahead).2 + l, by omega, ?_, ?_⟩
      · rw [Cursor.reads, h.scan_eq]
        exact hcursor
      · rw [← hreader, Reader.reads, List.foldl_cons, h.read_reader]
        rfl

theorem Inside.remaining_add_position (h : c.Inside) :
    c.remaining.toNat + c.position.toNat = c.slice.octets.length := by
  rw [h.toNat_remaining, length_ahead]
  exact Nat.sub_add_cancel h

/-- What a read comes to at a cursor: its outcome, and how many octets it takes. -/
structure Comes (c : Cursor) (op : ReadOp) (outcome : Except ProtocolError op.Value) (k : Nat) :
    Prop where
  /-- The position does not fall, and does not leave the slice. -/
  position : (c.past k).position.toNat = c.position.toNat + k
  inside : (c.past k).Inside
  remaining : (c.past k).remaining.toNat + (c.past k).position.toNat = c.slice.octets.length
  /-- No sum, index or copy goes wrong, and the reader comes to the same. -/
  scan : c.scan op.reading = .ok (outcome, c.past k)
  read : op.read c.reader = (outcome, (c.past k).reader)
  /-- Any reader or cursor that has the same octets ahead comes to the same. -/
  anywhere : ∀ p, op.read ⟨p, c.ahead⟩ = (outcome, ⟨p + k, c.ahead.drop k⟩)
  ahead : ∀ c' : Cursor, c'.Inside → c'.ahead = c.ahead →
    c'.scan op.reading = .ok (outcome, c'.past k)
  stops : ∀ e, outcome = .error e ↔ op.Stops c.ahead e k
  /-- The octets that are missing are missing where the read ends. -/
  missing : ∀ needed left, outcome = .error (.unexpectedEof needed left) →
    left = (c.past k).remaining.toNat ∧ left < needed ∧
      (c.past k).reader.take needed = (.error (.unexpectedEof needed left), (c.past k).reader)

theorem Inside.comes (h : c.Inside) (op : ReadOp) :
    c.Comes op (op.reading.outcome c.ahead).1 (op.reading.outcome c.ahead).2 := by
  have hk : (op.reading.outcome c.ahead).2 ≤ c.ahead.length := Reading.outcome_le _ _
  have hpast := h.past hk
  have hremaining := hpast.toNat_remaining
  have hstops (e : ProtocolError) : (op.reading.outcome c.ahead).1 = .error e ↔
      op.Stops c.ahead e (op.reading.outcome c.ahead).2 := by
    rw [← ReadOp.outcome_eq_error_iff, Prod.ext_iff]
    exact (and_iff_left rfl).symm
  refine ⟨h.toNat_past hk, hpast, ?_, h.scan_eq _, h.read_reader op, ?_, ?_, hstops, ?_⟩
  · exact hpast.remaining_add_position
  · intro p
    exact op.tells p c.ahead
  · intro c' hinside hahead
    rw [hinside.scan_eq, hahead]
  · intro needed left hout
    obtain ⟨hleft, hshort⟩ := ((hstops _).1 hout).counts needed left rfl
    have hunread : (c.past (op.reading.outcome c.ahead).2).reader.unread.length = left := by
      rw [h.reader_past hk, List.length_drop]
      omega
    refine ⟨?_, hshort, ?_⟩
    · rw [hremaining, h.ahead_past hk, List.length_drop]
      omega
    · rw [← hunread] at hshort ⊢
      exact Reader.take_of_short hshort

end Inside

/-- Whatever was read from a slice before, with success or without, the reader and the cursor are
at one place within it, and every read comes to its outcome there. -/
theorem comes_after_reads (s : Slice) (ops : List ReadOp) :
    ∃ c : Cursor, (Cursor.mk s 0).reads ops = .ok c ∧ c.slice = s ∧ c.Inside ∧
      c.remaining.toNat + c.position.toNat = s.octets.length ∧
      (Reader.ofBytes s.octets).reads ops = c.reader ∧
      c.reader.remaining = s.octets.length - c.reader.position ∧
      ∀ op, ∃ outcome k, c.Comes op outcome k := by
  have hstart : (Cursor.mk s 0).Inside := Nat.zero_le _
  obtain ⟨k, hk, hcursor, hreader⟩ := hstart.reads ops
  have hinside := hstart.past hk
  exact ⟨_, hcursor, rfl, hinside, hinside.remaining_add_position, hreader, length_ahead _,
    fun op ↦ ⟨_, _, hinside.comes op⟩⟩

/-- The second of two truth values is none, and the octet behind its tag is read. -/
example : (Reader.ofBytes [2, 0, 0, 0, 1, 5, 7]).reads [.value (.vec .bool), .raw 1] = ⟨7, []⟩ := by
  decide +kernel

end Cursor

end MessageEngine
