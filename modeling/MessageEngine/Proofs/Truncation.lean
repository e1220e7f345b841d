import MessageEngine.Proofs.OneSpelling

/-!
# What is cut short is reported as such

Values that were written one behind the other, and of which the end is lost,
are read up to the one that the cut goes through.  There the reader says that
octets are missing, wherever in the value the cut lies: a length or count, a
text, an absent tag.  It never says anything else, and no other value comes
out.
-/

namespace MessageEngine

/-- A cut through encodings that stand one behind the other goes through one of them. -/
theorem take_flatMap_eq {α : Type} (encode : α → Bytes) (vs : List α) {n : Nat}
    (hn : n < (vs.flatMap encode).length) :
    ∃ done v rest k, vs = done ++ v :: rest ∧ k < (encode v).length ∧
      n = (done.flatMap encode).length + k ∧
      (vs.flatMap encode).take n = done.flatMap encode ++ (encode v).take k := by
  induction vs generalizing n with
  | nil => exact absurd hn (Nat.not_lt_zero n)
  | cons v vs ih =>
      rw [List.flatMap_cons, List.length_append] at hn
      by_cases hfirst : n < (encode v).length
      · refine ⟨[], v, vs, n, rfl, hfirst, (Nat.zero_add n).symm, ?_⟩
        rw [List.flatMap_cons, List.take_append_of_le_length (Nat.le_of_lt hfirst)]
        rfl
      · have hle : (encode v).length ≤ n := Nat.le_of_not_lt hfirst
        have hrest : n - (encode v).length < (vs.flatMap encode).length := by omega
        obtain ⟨done, w, rest, k, rfl, hk, hlen, htake⟩ := ih hrest
        refine ⟨v :: done, w, rest, k, rfl, hk, ?_, ?_⟩
        · rw [List.flatMap_cons, List.length_append]
          omega
        · rw [List.flatMap_cons, List.take_append, List.take_of_length_le hle, htake,
            List.flatMap_cons, List.append_assoc]

namespace Reader

/-- A read ended because more octets were needed than remained. -/
def EndsEarly {α : Type} (x : Result α) : Prop :=
  ∃ needed r, x = (.error (.unexpectedEof needed r.remaining), r) ∧ r.remaining < needed

theorem EndsEarly.andThen {α β : Type} {x : Result α} (h : EndsEarly x)
    (next : α → Reader → Result β) : EndsEarly (andThen x next) := by
  obtain ⟨needed, r, rfl, hlt⟩ := h
  exact ⟨needed, r, rfl, hlt⟩

section Cut

variable (p : Nat)

theorem take_of_short {r : Reader} {n : Nat} (h : r.unread.length < n) :
    r.take n = (.error (.unexpectedEof n r.unread.length), r) :=
  if_neg ((Bytes.not_holds_iff _ _).2 h)

theorem endsEarly_take {b : Bytes} {n : Nat} (h : b.length < n) :
    EndsEarly ((Reader.mk p b).take n) :=
  ⟨n, ⟨p, b⟩, take_of_short h, h⟩

theorem endsEarly_bool : EndsEarly (Reader.mk p []).bool :=
  (endsEarly_take p Nat.zero_lt_one).andThen _

theorem endsEarly_option {α : Type} (read : Reader → Result α) :
    EndsEarly (option read ⟨p, []⟩) :=
  (endsEarly_bool p).andThen _

theorem endsEarly_count {b : Bytes} (h : b.length < 4) : EndsEarly (Reader.mk p b).count :=
  (endsEarly_take p h).andThen _

theorem endsEarly_blob {b : Bytes} {n : Nat} (hb : b.length < UInt32.size)
    (hn : n < b.sized.length) : EndsEarly (Reader.mk p (b.sized.take n)).blob := by
  rw [Bytes.sized, List.length_append, Bytes.length_le] at hn
  by_cases hhead : n < 4
  · apply EndsEarly.andThen
    apply endsEarly_count
    rw [List.length_take]
    omega
  · have hlen : (Bytes.le 4 b.length).length ≤ n := by
      rw [Bytes.length_le]
      omega
    rw [Bytes.sized, List.take_append, List.take_of_length_le hlen, Bytes.length_le, blob,
      count_append p _ hb]
    apply endsEarly_take
    rw [List.length_take]
    omega

/-- The cut goes through the count, or through an element; then the count is beyond what is left
or the elements in front of it are read. -/
theorem endsEarly_sequence {α : Type} {read : Reader → Result α} {encode : α → Bytes}
    {vs : List α} {n : Nat} (hcount : vs.length < UInt32.size)
    (hread : ∀ v ∈ vs, ∀ p s, read ⟨p, encode v ++ s⟩ = (.ok v, ⟨p + (encode v).length, s⟩))
    (hcut : ∀ v ∈ vs, ∀ p n, n < (encode v).length → EndsEarly (read ⟨p, (encode v).take n⟩))
    (hn : n < (Bytes.le 4 vs.length ++ vs.flatMap encode).length) :
    EndsEarly (sequence read ⟨p, (Bytes.le 4 vs.length ++ vs.flatMap encode).take n⟩) := by
  rw [List.length_append, Bytes.length_le] at hn
  by_cases hhead : n < 4
  · apply EndsEarly.andThen
    apply endsEarly_count
    rw [List.length_take]
    omega
  · have hlen : (Bytes.le 4 vs.length).length ≤ n := by
      rw [Bytes.length_le]
      omega
    rw [List.take_append, List.take_of_length_le hlen, Bytes.length_le,
      sequence_of_count p _ _ hcount]
    split
    · have hrest : n - 4 < (vs.flatMap encode).length := by omega
      obtain ⟨done, v, rest, k, rfl, hk, -, htake⟩ := take_flatMap_eq encode vs hrest
      have hmem : v ∈ done ++ v :: rest := List.mem_append_right _ List.mem_cons_self
      obtain ⟨needed, r, hv, hlt⟩ := hcut v hmem (p + 4 + (done.flatMap encode).length) k hk
      refine ⟨needed, r, ?_, hlt⟩
      rw [htake]
      refine times_append_error (p + 4) _
        (fun w hw ↦ hread w (List.mem_append_left _ hw)) ?_ [] hv
      simp
    · next hholds =>
      exact ⟨vs.length, ⟨p + 4, _⟩, rfl, (Bytes.not_holds_iff _ _).1 hholds⟩

theorem endsEarly_value (t : WireType) (v : t.Value) (h : t.Fits v) {n : Nat}
    (hn : n < (t.encode v).length) :
    EndsEarly ((Reader.mk p ((t.encode v).take n)).value t) := by
  induction t generalizing p n with
  | scalar kind =>
      rw [WireType.encode_scalar, Bytes.length_le] at hn
      apply EndsEarly.andThen
      apply endsEarly_take
      rw [List.length_take]
      omega
  | bool =>
      rw [WireType.encode_bool, List.length_singleton, Nat.lt_one_iff] at hn
      rw [hn, List.take_zero]
      exact endsEarly_bool p
  | string =>
      rw [WireType.encode_string] at hn ⊢
      exact (endsEarly_blob p h hn).andThen _
  | bytes =>
      rw [WireType.encode_bytes] at hn ⊢
      exact endsEarly_blob p h hn
  | vec element ih =>
      change List element.Value at v
      rw [WireType.encode_vec] at hn ⊢
      exact endsEarly_sequence p h.1 (fun x hx p s ↦ value_append p s element x (h.2 x hx))
        (fun x hx p n ↦ ih p x (h.2 x hx)) hn
  | opt inner ih =>
      change Option inner.Value at v
      cases v with
      | none =>
          rw [WireType.encode_none, List.length_singleton, Nat.lt_one_iff] at hn
          rw [hn, List.take_zero]
          exact endsEarly_option p _
      | some x =>
          rw [WireType.encode_some] at hn ⊢
          cases n with
          | zero =>
              rw [List.take_zero]
              exact endsEarly_option p _
          | succ n =>
              rw [List.take_succ_cons, value, option_cons_one]
              exact (ih (p + 1) x h (Nat.lt_of_succ_lt_succ hn)).andThen _

end Cut

/-! ## One value behind the other -/

theorem andThen_assoc {α β γ : Type} (x : Result α) (f : α → Reader → Result β)
    (g : β → Reader → Result γ) :
    andThen (andThen x f) g = andThen x fun a r ↦ andThen (f a r) g := by
  obtain ⟨outcome, r⟩ := x
  cases outcome <;> rfl

theorem andThen_ok {α : Type} (x : Result α) : andThen x (fun a r ↦ (.ok a, r)) = x := by
  obtain ⟨outcome, r⟩ := x
  cases outcome <;> rfl

theorem values_append_types (ts us : List WireType) (r : Reader) :
    r.values (ts ++ us) =
      andThen (r.values ts) fun vs r ↦ andThen (r.values us) fun ws r ↦ (.ok (vs ++ ws), r) := by
  induction ts generalizing r with
  | nil => exact (andThen_ok _).symm
  | cons t ts ih =>
      simp only [List.cons_append, values, ih, andThen_assoc]
      rfl

end Reader

/-- What is left of values that were written one behind the other when the end is lost: those
that are there in full are read, and for the next one octets are missing, so reading them all
fails with just that. -/
theorem Reader.truncated {vs : List (Sigma WireType.Value)} {b : Bytes}
    (hfits : ∀ v ∈ vs, v.1.Fits v.2) (hstart : b <+: (({} : Writer).values vs).content)
    (hcut : b ≠ (({} : Writer).values vs).content) :
    ∃ done v rest, vs = done ++ v :: rest ∧ (({} : Writer).values done).content <+: b ∧
      b.length < (({} : Writer).values (done ++ [v])).content.length ∧
      ∃ r r' needed, (ofBytes b).values (done.map Sigma.fst) = (.ok done, r) ∧
        r.value v.1 = (.error (.unexpectedEof needed r'.remaining), r') ∧
        r'.remaining < needed ∧
        (ofBytes b).values (vs.map Sigma.fst) =
          (.error (.unexpectedEof needed r'.remaining), r') := by
  have hcontent (us : List (Sigma WireType.Value)) :
      (({} : Writer).values us).content = us.flatMap fun v ↦ v.1.encode v.2 :=
    Writer.content_values us {}
  simp only [hcontent] at hstart hcut ⊢
  have hshort : b.length < (vs.flatMap fun v ↦ v.1.encode v.2).length :=
    Nat.lt_of_le_of_ne hstart.length_le fun h ↦ hcut (hstart.eq_of_length h)
  obtain ⟨done, v, rest, k, rfl, hk, hlen, htake⟩ := take_flatMap_eq _ vs hshort
  rw [← List.prefix_iff_eq_take.1 hstart] at htake
  have hdone : ∀ w ∈ done, w.1.Fits w.2 := fun w hw ↦ hfits w (List.mem_append_left _ hw)
  have hv : v.1.Fits v.2 := hfits v (List.mem_append_right _ List.mem_cons_self)
  have hread := Reader.values_append hdone 0 ((v.1.encode v.2).take k)
  obtain ⟨needed, r', hfail, hlt⟩ :=
    Reader.endsEarly_value (0 + (done.flatMap fun w ↦ w.1.encode w.2).length) v.1 v.2 hv hk
  rw [← htake] at hread
  refine ⟨done, v, rest, rfl, ?_, ?_, _, r', needed, hread, hfail, hlt, ?_⟩
  · rw [htake]
    exact List.prefix_append _ _
  · rw [List.flatMap_append, List.length_append, List.flatMap_singleton]
    omega
  · rw [List.map_append, List.map_cons, Reader.values_append_types, ofBytes, hread]
    simp only [andThen, Reader.values, hfail]

namespace Specimen

/-- A tag and a text whose last character takes two octets. -/
def accented : List (Sigma WireType.Value) :=
  [⟨.opt .bool, (some true : Option Bool)⟩, ⟨.string, "né"⟩]

end Specimen

/-- The last octet is lost, in the middle of a character. -/
theorem Reader.truncated_accented :
    (({} : Writer).values Specimen.accented).content = [1, 1, 3, 0, 0, 0, 110, 195, 169] ∧
      ∃ done v rest, Specimen.accented = done ++ v :: rest ∧
        (({} : Writer).values done).content <+: [1, 1, 3, 0, 0, 0, 110, 195] ∧
        8 < (({} : Writer).values (done ++ [v])).content.length ∧
        ∃ r r' needed,
          (ofBytes [1, 1, 3, 0, 0, 0, 110, 195]).values (done.map Sigma.fst) = (.ok done, r) ∧
          r.value v.1 = (.error (.unexpectedEof needed r'.remaining), r') ∧
          r'.remaining < needed ∧
          (ofBytes [1, 1, 3, 0, 0, 0, 110, 195]).values (Specimen.accented.map Sigma.fst) =
            (.error (.unexpectedEof needed r'.remaining), r') := by
  have hcontent : (({} : Writer).values Specimen.accented).content =
      [1, 1, 3, 0, 0, 0, 110, 195, 169] := by
    decide +kernel
  have hfits : ∀ v ∈ Specimen.accented, v.1.Fits v.2 := by
    intro v hv
    have hlength : ∀ v ∈ Specimen.accented, (v.1.encode v.2).length < UInt32.size := by
      decide +kernel
    exact v.1.fits_of_length_encode_lt v.2 (hlength v hv)
  refine ⟨hcontent, Reader.truncated hfits ?_ ?_⟩
  · rw [hcontent]
    exact ⟨[169], rfl⟩
  · rw [hcontent]
    decide

end MessageEngine
