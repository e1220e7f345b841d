import Mathlib
import MessageEngine.Proofs.OneSpelling

/-!
# Counts that are not checked

A sequence whose count goes beyond the octets left is refused before any
element is read.  Every value takes an octet at least, so the elements would
run out of octets anyway, whatever they are made of.  Hence the check may be
made or left out at any depth: the same octets are accepted, for the same
value, up to the same position.
-/

namespace MessageEngine

namespace WireType

/-- How many elements a value has over all its levels: those of sequences, what optional values
hold, and the octets of texts and blobs. -/
def elements : (t : WireType) → t.Value → Nat
  | scalar _, _ => 0
  | bool, _ => 0
  | string, (v : String) => (utf8 v).length
  | bytes, (v : Bytes) => v.length
  | vec element, (vs : List element.Value) => (vs.map fun v ↦ element.elements v + 1).sum
  | opt _, none => 0
  | opt inner, some v => inner.elements v + 1

theorem sum_elements_le {t : WireType} {vs : List t.Value}
    (h : ∀ v ∈ vs, t.elements v < (t.encode v).length) :
    (vs.map fun v ↦ t.elements v + 1).sum ≤ (vs.flatMap t.encode).length := by
  induction vs with
  | nil => exact Nat.zero_le _
  | cons v vs ih =>
      have hv : t.elements v < (t.encode v).length := h v List.mem_cons_self
      have hvs := ih fun w hw ↦ h w (List.mem_cons_of_mem v hw)
      simp only [List.map_cons, List.sum_cons, List.flatMap_cons, List.length_append]
      omega

theorem elements_lt_length_encode (t : WireType) (v : t.Value) :
    t.elements v < (t.encode v).length := by
  induction t with
  | scalar kind => exact (scalar kind).length_encode_pos v
  | bool => exact bool.length_encode_pos v
  | string =>
      simp only [elements, encode_string, Bytes.sized, List.length_append, Bytes.length_le]
      omega
  | bytes =>
      simp only [elements, encode_bytes, Bytes.sized, List.length_append, Bytes.length_le]
      omega
  | vec element ih =>
      change List element.Value at v
      have hsum := sum_elements_le fun x (_ : x ∈ v) ↦ ih x
      simp only [elements, encode_vec, List.length_append, Bytes.length_le]
      omega
  | opt inner ih =>
      change Option inner.Value at v
      cases v with
      | none => simp [elements]
      | some x =>
          have hx := ih x
          simp only [elements, encode_some, List.length_cons]
          omega

end WireType

namespace Reader

/-- A sequence of which the count is held against the octets left only if that is asked for. -/
def sequenceIf {α : Type} (checked : Bool) (read : Reader → Result α) (r : Reader) :
    Result (List α) :=
  andThen r.count fun n r ↦
    if checked && !r.unread.holds n then (.error (.unexpectedEof n r.remaining), r)
    else times read n [] r

/-- A value, with the count checked of those sequences only whose elements are of a type that
`checked` picks. -/
def valueIf (checked : WireType → Bool) : (t : WireType) → Reader → Result t.Value
  | .scalar kind => scalar kind
  | .bool => bool
  | .string => text
  | .bytes => blob
  | .vec element => sequenceIf (checked element) (valueIf checked element)
  | .opt inner => option (valueIf checked inner)

theorem sequenceIf_true {α : Type} (read : Reader → Result α) :
    sequenceIf true read = sequence read := by
  funext r
  simp only [sequenceIf, sequence, Bool.true_and, Bool.not_eq_true', ite_not, ← Bool.not_eq_true]

/-- Both reads succeed on the same octets, and come to the same. -/
def AcceptAlike {α : Type} (read read' : Reader → Result α) : Prop :=
  ∀ r a r', read r = (.ok a, r') ↔ read' r = (.ok a, r')

/-- A read never succeeds without an octet. -/
def Consumes {α : Type} (read : Reader → Result α) : Prop :=
  ∀ r a r', read r = (.ok a, r') → r'.remaining < r.remaining

theorem consumes_value (t : WireType) : Consumes (value t) := by
  intro r v r' h
  have hlength := congrArg List.length (value_eq_ok h).unread
  have hpos := t.length_encode_pos v
  rw [List.length_append] at hlength
  simp only [remaining]
  omega

section

variable {α β : Type} {read read' : Reader → Result α}

theorem times_succ (n : Nat) (found : List α) (r : Reader) :
    times read (n + 1) found r = andThen (read r) fun a r ↦ times read n (a :: found) r := by
  rw [times]
  rcases read r with ⟨_ | _, _⟩ <;> rfl

theorem Consumes.count_le_remaining (h : Consumes read) {n : Nat} {found vs : List α}
    {r r' : Reader} (ht : times read n found r = (.ok vs, r')) : n ≤ r.remaining := by
  induction n generalizing found r with
  | zero => exact Nat.zero_le _
  | succ n ih =>
      rw [times_succ] at ht
      obtain ⟨a, r₁, hfirst, hothers⟩ := andThen_eq_ok ht
      have hconsumed : r₁.remaining < r.remaining := h r a r₁ hfirst
      have hrest : n ≤ r₁.remaining := ih hothers
      omega

theorem andThen_eq_ok_iff {x : Result α} {next : α → Reader → Result β} {b : β} {r' : Reader} :
    andThen x next = (.ok b, r') ↔ ∃ a r, x = (.ok a, r) ∧ next a r = (.ok b, r') := by
  constructor
  · exact andThen_eq_ok
  · rintro ⟨a, r, rfl, h⟩
    exact h

/-- A count beyond the octets left makes no difference to what succeeds. -/
theorem Consumes.sequenceIf_eq_ok_iff (h : Consumes read) (checked : Bool) {vs : List α}
    {r r' : Reader} : sequenceIf checked read r = (.ok vs, r') ↔
      ∃ n r₁, r.count = (.ok n, r₁) ∧ times read n [] r₁ = (.ok vs, r') := by
  rw [sequenceIf, andThen_eq_ok_iff]
  refine exists₂_congr fun n r₁ ↦ and_congr_right fun _ ↦ ?_
  split
  · next hrefused =>
    constructor
    · intro herror
      cases herror
    · intro ht
      have hholds : r₁.unread.holds n = true := by
        apply (Bytes.holds_iff _ _).2
        exact h.count_le_remaining ht
      simp [hholds] at hrefused
  · exact Iff.rfl

theorem AcceptAlike.times (h : AcceptAlike read read') (n : Nat) (found : List α) :
    AcceptAlike (times read n found) (times read' n found) := by
  induction n generalizing found with
  | zero => exact fun _ _ _ ↦ Iff.rfl
  | succ n ih =>
      intro r vs r'
      rw [times_succ, times_succ, andThen_eq_ok_iff, andThen_eq_ok_iff]
      exact exists₂_congr fun a r₁ ↦ and_congr (h r a r₁) (ih (a :: found) r₁ vs r')

theorem AcceptAlike.sequenceIf (h : AcceptAlike read read') (hc : Consumes read')
    (checked checked' : Bool) :
    AcceptAlike (sequenceIf checked read) (sequenceIf checked' read') := by
  have hc' : Consumes read := fun r a r₁ hread ↦ hc r a r₁ ((h r a r₁).1 hread)
  intro r vs r'
  rw [hc'.sequenceIf_eq_ok_iff, hc.sequenceIf_eq_ok_iff]
  exact exists₂_congr fun n r₁ ↦ and_congr_right fun _ ↦ h.times n [] r₁ vs r'

theorem AcceptAlike.option (h : AcceptAlike read read') :
    AcceptAlike (option read) (option read') := by
  intro r v r'
  simp only [Reader.option, andThen_eq_ok_iff]
  refine exists₂_congr fun present r₁ ↦ and_congr_right fun _ ↦ ?_
  cases present with
  | false => exact Iff.rfl
  | true =>
      simp only [if_true, andThen_eq_ok_iff]
      exact exists₂_congr fun a r₂ ↦ and_congr (h r₁ a r₂) Iff.rfl

end

theorem valueIf_acceptAlike (checked : WireType → Bool) (t : WireType) :
    AcceptAlike (valueIf checked t) (value t) := by
  induction t with
  | scalar kind => exact fun _ _ _ ↦ Iff.rfl
  | bool => exact fun _ _ _ ↦ Iff.rfl
  | string => exact fun _ _ _ ↦ Iff.rfl
  | bytes => exact fun _ _ _ ↦ Iff.rfl
  | vec element ih =>
      rw [valueIf, value, ← sequenceIf_true]
      exact ih.sequenceIf (consumes_value element) _ _
  | opt inner ih => exact ih.option

/-- Whether a sequence is read with its count checked or element by element without, and whatever
is checked inside its elements, the same octets are accepted, for the same value and up to the
same position.  Every value takes up at least one octet, and more octets than it has elements over
all its levels. -/
theorem unchecked_accepts_alike :
    (∀ (element : WireType) (b : Bytes) (p : Nat) (vs : List element.Value) (r : Reader),
      (within b p).value (.vec element) = (.ok vs, r) ↔
        sequenceIf false (value element) (within b p) = (.ok vs, r)) ∧
    (∀ (checked : WireType → Bool) (t : WireType) (b : Bytes) (p : Nat) (v : t.Value)
      (r : Reader),
      (within b p).value t = (.ok v, r) ↔ valueIf checked t (within b p) = (.ok v, r)) ∧
    ∀ (t : WireType) (b : Bytes) (p : Nat) (v : t.Value) (r : Reader),
      (within b p).value t = (.ok v, r) →
        ∃ q, r = within b q ∧ p < q ∧ q ≤ b.length ∧ t.elements v < q - p := by
  refine ⟨?_, ?_, ?_⟩
  · intro element b p vs r
    have halike : AcceptAlike (value element) (value element) := fun _ _ _ ↦ Iff.rfl
    rw [value, ← sequenceIf_true]
    exact halike.sequenceIf (consumes_value element) true false (within b p) vs r
  · intro checked t b p v r
    exact (valueIf_acceptAlike checked t (within b p) v r).symm
  · intro t b p v r h
    obtain ⟨q, rfl, hpq, hq, -, hencode⟩ := value_within_eq_ok_iff.1 h
    have hpos := t.length_encode_pos v
    have helements := t.elements_lt_length_encode v
    have hlength : (t.encode v).length = q - p := by
      rw [hencode, List.length_take, List.length_drop]
      omega
    refine ⟨q, rfl, ?_, hq, ?_⟩ <;> omega

end Reader

namespace Specimen

/-- Two sequences, one of them empty, between octets that do not belong to them. -/
def enclosed : Bytes := [9, 2, 0, 0, 0, 2, 0, 0, 0, 1, 5, 0, 0, 0, 0, 0, 9]

def pair : (WireType.vec (.vec (.opt (.scalar .u8)))).Value :=
  ([[some 5, none], []] : List (List (Option UInt8)))

end Specimen

/-- Without the outer check, and with the outer check only. -/
theorem Reader.unchecked_accepts_enclosed :
    sequenceIf false (value (.vec (.opt (.scalar .u8)))) (within Specimen.enclosed 1) =
        (.ok Specimen.pair, within Specimen.enclosed 16) ∧
      valueIf (· == .vec (.opt (.scalar .u8))) (.vec (.vec (.opt (.scalar .u8))))
          (within Specimen.enclosed 1) = (.ok Specimen.pair, within Specimen.enclosed 16) ∧
      ∃ q, within Specimen.enclosed 16 = within Specimen.enclosed q ∧ 1 < q ∧
        q ≤ Specimen.enclosed.length ∧ WireType.elements _ Specimen.pair < q - 1 := by
  have hread : (within Specimen.enclosed 1).value (.vec (.vec (.opt (.scalar .u8)))) =
      (.ok Specimen.pair, within Specimen.enclosed 16) := rfl
  have halike := unchecked_accepts_alike
  refine ⟨?_, ?_, ?_⟩
  · exact (halike.1 _ _ _ _ _).1 hread
  · exact (halike.2.1 _ _ _ _ _ _).1 hread
  · exact halike.2.2 _ _ _ _ _ hread

end MessageEngine
