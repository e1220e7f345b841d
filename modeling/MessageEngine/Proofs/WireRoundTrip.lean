import MessageEngine.Message

/-!
# What is written is read back

A value whose lengths fit in their four octets is read back from its
encoding, whatever stands behind it.  A value with a length that does not
fit takes up more than `2 ^ 32` octets, so a bound on the encoding is a
bound on every length in it.
-/

namespace MessageEngine

namespace WireType

/-- Every length and count that is written for a value is the true one. -/
def Fits : (t : WireType) → t.Value → Prop
  | scalar _, _ => True
  | bool, _ => True
  | string, (v : String) => (utf8 v).length < UInt32.size
  | bytes, (v : Bytes) => v.length < UInt32.size
  | vec element, (vs : List element.Value) => vs.length < UInt32.size ∧ ∀ v ∈ vs, element.Fits v
  | opt _, none => True
  | opt inner, some v => inner.Fits v

/-- Every element of a sequence takes an octet at least. -/
theorem length_encode_pos (t : WireType) (v : t.Value) : 0 < (t.encode v).length := by
  match t, v with
  | scalar kind, v =>
      rw [encode_scalar, Bytes.length_le]
      cases kind <;> simp [Scalar.width]
  | bool, (v : Bool) => simp
  | string, (v : String) =>
      rw [encode_string, Bytes.sized, List.length_append, Bytes.length_le]
      exact Nat.add_pos_left (by decide) _
  | bytes, (v : Bytes) =>
      rw [encode_bytes, Bytes.sized, List.length_append, Bytes.length_le]
      exact Nat.add_pos_left (by decide) _
  | vec element, (vs : List element.Value) =>
      rw [encode_vec, List.length_append, Bytes.length_le]
      exact Nat.add_pos_left (by decide) _
  | opt inner, (v : Option inner.Value) => cases v <;> simp

theorem count_le_length_encode (t : WireType) (vs : List t.Value) :
    vs.length ≤ (vs.flatMap t.encode).length := by
  induction vs with
  | nil => simp
  | cons v vs ih =>
      have hv := t.length_encode_pos v
      simp only [List.length_cons, List.flatMap_cons, List.length_append]
      omega

theorem length_encode_le_of_mem (t : WireType) {v : t.Value} {vs : List t.Value} (h : v ∈ vs) :
    (t.encode v).length ≤ (vs.flatMap t.encode).length := by
  obtain ⟨before, after, rfl⟩ := List.append_of_mem h
  simp only [List.flatMap_append, List.flatMap_cons, List.length_append]
  omega

/-- A length can be written wrongly only where there is too much to be counted. -/
theorem fits_of_length_encode_lt (t : WireType) (v : t.Value)
    (h : (t.encode v).length < UInt32.size) : t.Fits v := by
  induction t with
  | scalar kind => trivial
  | bool => trivial
  | string =>
      simp only [encode_string, Bytes.sized, List.length_append] at h
      exact Nat.lt_of_le_of_lt (Nat.le_add_left _ _) h
  | bytes =>
      simp only [encode_bytes, Bytes.sized, List.length_append] at h
      exact Nat.lt_of_le_of_lt (Nat.le_add_left _ _) h
  | vec element ih =>
      change List element.Value at v
      rw [encode_vec, List.length_append] at h
      refine ⟨?_, fun x hx ↦ ih x ?_⟩
      · have hlen := element.count_le_length_encode v
        omega
      · have hlen := element.length_encode_le_of_mem hx
        omega
  | opt inner ih =>
      change Option inner.Value at v
      cases v with
      | none => trivial
      | some x =>
          rw [encode_some, List.length_cons] at h
          exact ih x (Nat.lt_of_succ_lt h)

end WireType

namespace Reader

variable (p : Nat) (s : Bytes)

theorem take_append {b : Bytes} {n : Nat} (h : b.length = n) :
    (Reader.mk p (b ++ s)).take n = (.ok b, ⟨p + n, s⟩) := by
  subst h
  have hh : (b ++ s).holds b.length = true := (Bytes.holds_iff _ _).2 (by simp)
  simp [take, hh]

theorem scalar_append (kind : Scalar) (v : kind.Value) :
    (Reader.mk p (Bytes.le kind.width (kind.toNumber v) ++ s)).scalar kind =
      (.ok v, ⟨p + kind.width, s⟩) := by
  rw [scalar, take_append p s (Bytes.length_le _ _)]
  simp only [andThen, Bytes.ofLE_le, Nat.mod_eq_of_lt (kind.toNumber_lt v),
    Scalar.ofNumber_toNumber]

theorem bool_cons (v : Bool) :
    (Reader.mk p ((if v then 1 else 0) :: s)).bool = (.ok v, ⟨p + 1, s⟩) := by
  have h := take_append p s (n := 1) (b := [if v then 1 else 0]) rfl
  rw [List.singleton_append] at h
  rw [bool, h]
  cases v <;> rfl

theorem count_append {n : Nat} (h : n < UInt32.size) :
    (Reader.mk p (Bytes.le 4 n ++ s)).count = (.ok n, ⟨p + 4, s⟩) := by
  rw [count, take_append p s (Bytes.length_le _ _)]
  simp only [andThen, Bytes.ofLE_le, Nat.mod_eq_of_lt (show n < Bytes.capacity 4 from h)]

theorem blob_append {b : Bytes} (h : b.length < UInt32.size) :
    (Reader.mk p (b.sized ++ s)).blob = (.ok b, ⟨p + b.sized.length, s⟩) := by
  rw [Bytes.sized, List.append_assoc, blob, count_append p _ h]
  simp only [andThen]
  rw [take_append _ _ rfl, List.length_append, Bytes.length_le, Nat.add_assoc]

theorem fromUTF8?_utf8 (v : String) : String.fromUTF8? ⟨(utf8 v).toArray⟩ = some v := by
  have h : ByteArray.mk (utf8 v).toArray = v.toByteArray := by simp [utf8]
  simp [String.fromUTF8?, h, String.isValidUTF8, String.fromUTF8]

theorem text_append {v : String} (h : (utf8 v).length < UInt32.size) :
    (Reader.mk p ((utf8 v).sized ++ s)).text = (.ok v, ⟨p + (utf8 v).sized.length, s⟩) := by
  rw [text, blob_append p s h]
  simp only [andThen, fromUTF8?_utf8]

/-- One encoding behind the other, read one after the other. -/
theorem times_append {α : Type} {read : Reader → Result α} {encode : α → Bytes} {vs : List α}
    (hread : ∀ v ∈ vs, ∀ p s, read ⟨p, encode v ++ s⟩ = (.ok v, ⟨p + (encode v).length, s⟩))
    (found : List α) :
    times read vs.length found ⟨p, vs.flatMap encode ++ s⟩ =
      (.ok (found.reverse ++ vs), ⟨p + (vs.flatMap encode).length, s⟩) := by
  induction vs generalizing p found with
  | nil => simp [times]
  | cons v vs ih =>
      have hv := hread v List.mem_cons_self p (vs.flatMap encode ++ s)
      have hvs := ih (p := p + (encode v).length)
        (fun w hw ↦ hread w (List.mem_cons_of_mem v hw)) (v :: found)
      rw [List.length_cons, times, List.flatMap_cons, List.append_assoc, hv]
      simp only [hvs, List.reverse_cons, List.append_assoc, List.singleton_append,
        List.length_append, Nat.add_assoc]

/-- The check of the count against the octets left never refuses what was written. -/
theorem sequence_append {α : Type} {read : Reader → Result α} {encode : α → Bytes} {vs : List α}
    (hread : ∀ v ∈ vs, ∀ p s, read ⟨p, encode v ++ s⟩ = (.ok v, ⟨p + (encode v).length, s⟩))
    (hcount : vs.length < UInt32.size) (hroom : vs.length ≤ (vs.flatMap encode).length) :
    sequence read ⟨p, Bytes.le 4 vs.length ++ vs.flatMap encode ++ s⟩ =
      (.ok vs, ⟨p + (Bytes.le 4 vs.length ++ vs.flatMap encode).length, s⟩) := by
  have hh : Bytes.holds (vs.flatMap encode ++ s) vs.length = true :=
    (Bytes.holds_iff _ _).2 (by rw [List.length_append]; omega)
  rw [sequence, List.append_assoc, count_append p _ hcount]
  simp only [andThen, hh, if_true, times_append (p + 4) s hread [], List.reverse_nil,
    List.nil_append, List.length_append, Bytes.length_le, Nat.add_assoc]

theorem value_append (t : WireType) (v : t.Value) (h : t.Fits v) :
    (Reader.mk p (t.encode v ++ s)).value t = (.ok v, ⟨p + (t.encode v).length, s⟩) := by
  induction t generalizing p s with
  | scalar kind => simpa [value] using scalar_append p s kind v
  | bool => simpa [value] using bool_cons p s v
  | string => simpa [value] using text_append p s h
  | bytes => simpa [value] using blob_append p s h
  | vec element ih =>
      change List element.Value at v
      rw [value, WireType.encode_vec]
      exact sequence_append p s (fun x hx p s ↦ ih p s x (h.2 x hx)) h.1
        (element.count_le_length_encode v)
  | opt inner ih =>
      change Option inner.Value at v
      cases v with
      | none =>
          have hb := bool_cons p s false
          simp only [Bool.false_eq_true, if_false] at hb
          simp [value, option, andThen, hb]
      | some x =>
          have hb := bool_cons p (inner.encode x ++ s) true
          simp only [if_true] at hb
          simp only [value, option, andThen, WireType.encode_some, List.cons_append, hb,
            if_true, ih (p + 1) s x h, List.length_cons, Nat.add_assoc, Nat.add_comm 1]

end Reader

/-! ## Messages -/

namespace Fields

/-- Every length that is written for the fields is the true one. -/
def Fit : (fs : List Field) → Fields fs → Prop
  | [], _ => True
  | f :: rest, (v, vs) => f.type.Fits v ∧ Fit rest vs

theorem fit_of_length_encode_lt (fs : List Field) (vs : Fields fs)
    (h : (encode fs vs).length < UInt32.size) : Fit fs vs := by
  induction fs with
  | nil => trivial
  | cons f rest ih =>
      obtain ⟨v, vs⟩ := vs
      rw [encode, List.length_append] at h
      exact ⟨f.type.fits_of_length_encode_lt v (by omega), ih vs (by omega)⟩

theorem read_append (p : Nat) (s : Bytes) (fs : List Field) (vs : Fields fs) (h : Fit fs vs) :
    read fs ⟨p, encode fs vs ++ s⟩ = (.ok vs, ⟨p + (encode fs vs).length, s⟩) := by
  induction fs generalizing p with
  | nil => rfl
  | cons f rest ih =>
      obtain ⟨v, vs⟩ := vs
      rw [encode, read, List.append_assoc, Reader.value_append p _ f.type v h.1]
      simp only [Reader.andThen, ih (p + (f.type.encode v).length) vs h.2, List.length_append,
        Nat.add_assoc]

end Fields

/-- Every length in the octets of a message is the true one. -/
def Message.Fits (m : Message) : Prop := Fields.Fit m.type.fields m.fields

theorem Message.fits_of_length_body_lt {m : Message} (h : m.body.length < UInt32.size) : m.Fits :=
  Fields.fit_of_length_encode_lt m.type.fields m.fields h

theorem MessageType.read_body {m : Message} (h : m.Fits) :
    m.type.read (Reader.ofBytes m.body) = (.ok m, ⟨m.body.length, []⟩) := by
  have hr := Fields.read_append 0 [] m.type.fields m.fields h
  rw [List.append_nil, Nat.zero_add] at hr
  rw [MessageType.read, Reader.ofBytes, Message.body, hr]
  rfl

end MessageEngine
