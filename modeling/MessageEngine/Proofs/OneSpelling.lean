import MessageEngine.Proofs.CanonicalWire
import MessageEngine.Proofs.WrittenValues

/-!
# Every value has one spelling

A read succeeds exactly where the octets ahead are what would be written for
a value whose lengths are true.  So nothing but that spelling is ever taken
for the value, and a tag that is neither 0 nor 1, or a text that is not
UTF-8, is refused wherever it stands inside a value: the octets in front of
it, `Leads`, are read, and the refusal of the part is the refusal of the
whole.
-/

namespace MessageEngine

namespace Reader

/-! ## What was read could have been written -/

section Fits

variable {r r' : Reader}

theorem count_lt {n : Nat} (h : r.count = (.ok n, r')) : n < UInt32.size := by
  obtain ⟨b, r₁, htake, hb⟩ := andThen_eq_ok h
  obtain ⟨hlen, -⟩ := take_eq_ok htake
  cases hb
  have hlt := Bytes.ofLE_lt b
  rwa [hlen] at hlt

theorem length_blob_lt {b : Bytes} (h : r.blob = (.ok b, r')) : b.length < UInt32.size := by
  obtain ⟨n, r₁, hcount, htake⟩ := andThen_eq_ok h
  obtain ⟨rfl, -⟩ := take_eq_ok htake
  exact count_lt hcount

theorem length_text_lt {v : String} (h : r.text = (.ok v, r')) :
    (utf8 v).length < UInt32.size := by
  obtain ⟨b, r₁, hblob, hb⟩ := andThen_eq_ok h
  split at hb
  · next s hs =>
    cases hb
    rw [utf8_of_fromUTF8? hs]
    exact length_blob_lt hblob
  · cases hb

/-- What every value that is read has, all the values of a sequence have. -/
theorem forall_of_times {α : Type} {read : Reader → Result α} {P : α → Prop}
    (hread : ∀ {r v r'}, read r = (.ok v, r') → P v) {n : Nat} {found vs : List α}
    (hfound : ∀ v ∈ found, P v) (h : times read n found r = (.ok vs, r')) : ∀ v ∈ vs, P v := by
  induction n generalizing r found with
  | zero =>
      rw [times] at h
      cases h
      exact fun v hv ↦ hfound v (List.mem_reverse.1 hv)
  | succ n ih =>
      rw [times] at h
      split at h
      · next a r₁ hfirst =>
        refine ih (fun v hv ↦ ?_) h
        rcases List.mem_cons.1 hv with rfl | hv
        · exact hread hfirst
        · exact hfound v hv
      · cases h

theorem fits_of_value {t : WireType} {v : t.Value} (h : r.value t = (.ok v, r')) :
    t.Fits v := by
  induction t generalizing r r' with
  | scalar kind => trivial
  | bool => trivial
  | string => exact length_text_lt h
  | bytes => exact length_blob_lt h
  | vec element ih =>
      obtain ⟨n, r₁, hcount, hrest⟩ := andThen_eq_ok h
      split at hrest
      · obtain ⟨ws, rfl, rfl, -⟩ := times_eq_ok value_eq_ok hrest
        exact ⟨count_lt hcount, forall_of_times ih (fun _ hv ↦ absurd hv List.not_mem_nil) hrest⟩
      · cases hrest
  | opt inner ih =>
      obtain ⟨present, r₁, -, hrest⟩ := andThen_eq_ok h
      cases present with
      | false =>
          cases hrest
          trivial
      | true =>
          obtain ⟨a, r₂, hvalue, ha⟩ := andThen_eq_ok hrest
          cases ha
          exact ih hvalue

end Fits

/-- A value is read from a place exactly if its encoding stands there. -/
theorem value_within_eq_ok_iff {t : WireType} {b : Bytes} {p : Nat} {v : t.Value} {r : Reader} :
    (within b p).value t = (.ok v, r) ↔
      ∃ q, r = within b q ∧ p ≤ q ∧ q ≤ b.length ∧ t.Fits v ∧
        t.encode v = (b.drop p).take (q - p) := by
  constructor
  · intro h
    obtain ⟨hunread, hposition⟩ := value_eq_ok h
    obtain ⟨position, unread⟩ := r
    simp only [within] at hunread hposition
    subst hposition
    have hlength := congrArg List.length hunread
    have hpos := t.length_encode_pos v
    rw [List.length_append, List.length_drop] at hlength
    refine ⟨p + (t.encode v).length, ?_, by omega, by omega, fits_of_value h, ?_⟩
    · rw [within, ← List.drop_drop, hunread, List.drop_left]
    · rw [hunread, Nat.add_sub_cancel_left, List.take_left]
  · rintro ⟨q, rfl, hpq, hq, hfits, hv⟩
    have hahead : b.drop p = t.encode v ++ b.drop q := by
      have hdrop : b.drop q = (b.drop p).drop (q - p) := by
        rw [List.drop_drop, Nat.add_sub_cancel' hpq]
      rw [hv, hdrop, List.take_append_drop]
    have hlength : (t.encode v).length = q - p := by
      rw [hv, List.length_take, List.length_drop]
      omega
    rw [within, hahead, value_append p _ t v hfits, hlength, Nat.add_sub_cancel' hpq, within]

theorem eq_of_value_of_ofBytes {t : WireType} {b b' : Bytes} {v : t.Value} {r r' : Reader}
    (h : (ofBytes b).value t = (.ok v, r)) (hend : r.hasRemaining = false)
    (h' : (ofBytes b').value t = (.ok v, r')) (hend' : r'.hasRemaining = false) : b = b' := by
  have hnil : r.unread = [] := by simpa [hasRemaining] using hend
  have hnil' : r'.unread = [] := by simpa [hasRemaining] using hend'
  have hb := (value_eq_ok h).unread
  have hb' := (value_eq_ok h').unread
  rw [hnil, List.append_nil] at hb
  rw [hnil', List.append_nil] at hb'
  exact hb.trans hb'.symm

end Reader

/-! ## Faults inside a value -/

namespace WireType

/-- Octets that come in front of a value of one type inside a value of another: the tags and
counts around it, and the elements before it. -/
inductive Leads : WireType → Bytes → WireType → Prop
  | here (t : WireType) : Leads t [] t
  | element {t u : WireType} {before : List t.Value} {count : Nat} {front : Bytes}
      (fits : ∀ v ∈ before, t.Fits v) (more : before.length < count)
      (countFits : count < UInt32.size) (leads : Leads t front u) :
      Leads (.vec t) (Bytes.le 4 count ++ before.flatMap t.encode ++ front) u
  | inner {t u : WireType} {front : Bytes} (leads : Leads t front u) :
      Leads (.opt t) (1 :: front) u

/-- Octets that begin with a tag which is none, or with a text which is not UTF-8, and what a
reader makes of them. -/
inductive Faulty : WireType → Bytes → ProtocolError → Prop
  | bool {tag : UInt8} (h0 : tag ≠ 0) (h1 : tag ≠ 1) (rest : Bytes) :
      Faulty .bool (tag :: rest) (.invalidBoolean tag)
  | opt (inner : WireType) {tag : UInt8} (h0 : tag ≠ 0) (h1 : tag ≠ 1) (rest : Bytes) :
      Faulty (.opt inner) (tag :: rest) (.invalidBoolean tag)
  | string {b : Bytes} (fits : b.length < UInt32.size) (h : ∀ s : String, utf8 s ≠ b)
      (rest : Bytes) : Faulty .string (b.sized ++ rest) .invalidStringEncoding

end WireType

namespace Reader

variable (p : Nat) (s : Bytes)

theorem sequence_of_count {α : Type} (read : Reader → Result α) {n : Nat}
    (h : n < UInt32.size) :
    sequence read ⟨p, Bytes.le 4 n ++ s⟩ =
      if s.holds n then times read n [] ⟨p + 4, s⟩
      else (.error (.unexpectedEof n s.length), ⟨p + 4, s⟩) := by
  rw [sequence, count_append p s h]
  rfl

theorem option_cons_one {α : Type} (read : Reader → Result α) :
    option read ⟨p, 1 :: s⟩ = andThen (read ⟨p + 1, s⟩) fun a r ↦ (.ok (some a), r) := by
  have htag := bool_cons p s true
  simp only [if_true] at htag
  rw [option, htag]
  rfl

/-- Behind elements that are read, the first one that is not makes the sequence fail. -/
theorem times_append_error {α : Type} {read : Reader → Result α} {encode : α → Bytes}
    {vs : List α} {n : Nat} {e : ProtocolError} {r : Reader}
    (hread : ∀ v ∈ vs, ∀ p s, read ⟨p, encode v ++ s⟩ = (.ok v, ⟨p + (encode v).length, s⟩))
    (hn : vs.length < n) (found : List α)
    (h : read ⟨p + (vs.flatMap encode).length, s⟩ = (.error e, r)) :
    times read n found ⟨p, vs.flatMap encode ++ s⟩ = (.error e, r) := by
  induction vs generalizing p n found with
  | nil =>
      obtain ⟨n, rfl⟩ := Nat.exists_eq_succ_of_ne_zero (Nat.ne_of_gt hn)
      have hfirst : read ⟨p, s⟩ = (.error e, r) := h
      rw [times, List.flatMap_nil, List.nil_append, hfirst]
  | cons v vs ih =>
      obtain ⟨n, rfl⟩ := Nat.exists_eq_succ_of_ne_zero (Nat.ne_of_gt (Nat.zero_lt_of_lt hn))
      rw [List.flatMap_cons, List.length_append, ← Nat.add_assoc] at h
      rw [times, List.flatMap_cons, List.append_assoc, hread v List.mem_cons_self]
      exact ih (p := p + (encode v).length) (fun w hw ↦ hread w (List.mem_cons_of_mem v hw))
        (Nat.lt_of_succ_lt_succ hn) (v :: found) h

theorem bool_cons_of_ne {tag : UInt8} (h0 : tag ≠ 0) (h1 : tag ≠ 1) :
    (Reader.mk p (tag :: s)).bool = (.error (.invalidBoolean tag), ⟨p + 1, s⟩) := by
  have htake := take_append p s (n := 1) (b := [tag]) rfl
  rw [List.singleton_append] at htake
  rw [bool, htake]
  simp only [andThen]
  split
  · next htag => exact absurd (List.cons.inj htag).1 h0
  · next htag => exact absurd (List.cons.inj htag).1 h1
  · rfl

theorem text_of_not_utf8 {b : Bytes} (hfits : b.length < UInt32.size)
    (h : ∀ v : String, utf8 v ≠ b) :
    (Reader.mk p (b.sized ++ s)).text =
      (.error .invalidStringEncoding, ⟨p + b.sized.length, s⟩) := by
  rw [text, blob_append p s hfits]
  simp only [andThen]
  split
  · next v hv => exact absurd (utf8_of_fromUTF8? hv) (h v)
  · rfl

theorem value_of_faulty {t : WireType} {c : Bytes} {e : ProtocolError} (h : t.Faulty c e) :
    ∃ r, (Reader.mk p c).value t = (.error e, r) := by
  cases h with
  | bool h0 h1 rest => exact ⟨_, bool_cons_of_ne p rest h0 h1⟩
  | opt inner h0 h1 rest =>
      refine ⟨⟨p + 1, rest⟩, ?_⟩
      rw [value, option, bool_cons_of_ne p rest h0 h1]
      rfl
  | string hfits h rest => exact ⟨_, text_of_not_utf8 p rest hfits h⟩

/-- A part that is refused is the refusal of the whole, unless a count around it is refused
first because it goes beyond the octets left. -/
theorem value_of_leads {t u : WireType} {front c : Bytes} {e : ProtocolError}
    (hleads : t.Leads front u) (h : ∀ p, ∃ r, (Reader.mk p c).value u = (.error e, r)) :
    ∃ e' r, (Reader.mk p (front ++ c)).value t = (.error e', r) ∧
      (e' = e ∨ ∃ needed remaining, e' = .unexpectedEof needed remaining) := by
  induction hleads generalizing p with
  | here t =>
      obtain ⟨r, hr⟩ := h p
      exact ⟨e, r, hr, .inl rfl⟩
  | @element t u before count front fits more countFits _ ih =>
      rw [value, List.append_assoc, List.append_assoc, sequence_of_count p _ _ countFits]
      split
      · obtain ⟨e', r, hr, he⟩ := ih h (p := p + 4 + (before.flatMap t.encode).length)
        exact ⟨e', r, times_append_error (p + 4) _ (fun v hv p s ↦ value_append p s t v (fits v hv))
          more [] hr, he⟩
      · exact ⟨_, _, rfl, .inr ⟨_, _, rfl⟩⟩
  | inner _ ih =>
      obtain ⟨e', r, hr, he⟩ := ih h (p := p + 1)
      refine ⟨e', r, ?_, he⟩
      rw [value, List.cons_append, option_cons_one, hr]
      rfl

end Reader

/-- A read gives a value and comes to a position exactly if the octets up to there are what a
writer puts behind its own for the value, and every length in them is true.  So no two strings of
octets are read to their end as one value.  A tag other than 0 and 1, or a text that is not UTF-8,
is refused wherever it stands inside a value, with its own error or because a count around it
goes beyond the octets left. -/
theorem Reader.one_spelling :
    (∀ (t : WireType) (b : Bytes) (p : Nat) (v : t.Value) (r : Reader),
      (within b p).value t = (.ok v, r) ↔
        ∃ q, r = within b q ∧ p ≤ q ∧ q ≤ b.length ∧ t.Fits v ∧
          ∀ w : Writer, (w.value t v).content = w.content ++ (b.drop p).take (q - p)) ∧
    (∀ (t : WireType) (b b' : Bytes) (v : t.Value) (r r' : Reader),
      (ofBytes b).value t = (.ok v, r) → r.hasRemaining = false →
        (ofBytes b').value t = (.ok v, r') → r'.hasRemaining = false → b = b') ∧
    ∀ (t u : WireType) (front c : Bytes) (e : ProtocolError), t.Leads front u → u.Faulty c e →
      ∀ (b : Bytes) (p : Nat), b.drop p = front ++ c →
        ∃ e' r, (within b p).value t = (.error e', r) ∧
          (e' = e ∨ ∃ needed remaining, e' = .unexpectedEof needed remaining) := by
  refine ⟨fun t b p v r ↦ ?_, fun t b b' v r r' ↦ eq_of_value_of_ofBytes, ?_⟩
  · have hwritten (a : Bytes) :
        t.encode v = a ↔ ∀ w : Writer, (w.value t v).content = w.content ++ a := by
      simp only [Writer.content_value, List.append_cancel_left_eq]
      exact ⟨fun h _ ↦ h, fun h ↦ h {}⟩
    simp only [value_within_eq_ok_iff, hwritten]
  · intro t u front c e hleads hfault b p hb
    rw [within, hb]
    exact value_of_leads p hleads fun p ↦ value_of_faulty p hfault

namespace Specimen

/-- Labels, of which one is missing and the other takes two octets. -/
def labels : (WireType.vec (.opt .string)).Value := ([none, some "é"] : List (Option String))

end Specimen

/-- The labels behind another octet, and what is left of them when the last octet is lost and the
length of the text made to match. -/
theorem Reader.one_spelling_labels :
    (within [7, 2, 0, 0, 0, 0, 1, 2, 0, 0, 0, 195, 169] 1).value (.vec (.opt .string)) =
        (.ok Specimen.labels, ⟨13, []⟩) ∧
      ∃ e r,
        (within [7, 2, 0, 0, 0, 0, 1, 1, 0, 0, 0, 195] 1).value (.vec (.opt .string)) =
          (.error e, r) ∧
        (e = .invalidStringEncoding ∨ ∃ needed remaining, e = .unexpectedEof needed remaining) := by
  constructor
  · have hencode : (WireType.vec (.opt .string)).encode Specimen.labels =
        [2, 0, 0, 0, 0, 1, 2, 0, 0, 0, 195, 169] := by
      decide +kernel
    refine (Reader.one_spelling.1 _ _ _ _ _).2 ⟨13, rfl, by decide, by decide, ?_, fun w ↦ ?_⟩
    · refine WireType.fits_of_length_encode_lt _ _ ?_
      rw [hencode]
      decide
    · rw [Writer.content_value, hencode]
      rfl
  · have hfault : WireType.Faulty .string (Bytes.sized [195] ++ []) .invalidStringEncoding := by
      refine .string (by decide) (fun s hs ↦ ?_) []
      have hnone : String.fromUTF8? ⟨([195] : Bytes).toArray⟩ = none := by decide +kernel
      rw [← hs, Reader.fromUTF8?_utf8] at hnone
      cases hnone
    have hnone : ∀ v ∈ ([none] : List (Option String)), (WireType.opt .string).Fits v := by
      intro v hv
      rw [List.mem_singleton.1 hv]
      trivial
    have hleads : WireType.Leads (.vec (.opt .string)) ([2, 0, 0, 0] ++ [0] ++ [1]) .string :=
      @WireType.Leads.element _ _ [none] 2 [1] hnone (by decide) (by decide) (.inner (.here _))
    exact Reader.one_spelling.2.2 _ _ _ _ _ hleads hfault _ 1 rfl

end MessageEngine
